import Al1Wmod.Link.Lifecycle
import Al1Wmod.Link.Scanner

/-!
# The books of the link

What has come and gone since `al1_link_start` last set the counters to zero: the frames that
`al1_link_send` accepted and refused, the bytes that `tx_task` has written, the bytes that the
parser has got and the frames that reached `parser_trampoline`.  The ledger is kept beside a run,
and is no part of the code.

In a run the tasks take whole turns, one after another.  Then the books balance (`balanced_run`):

* the counters are those of the ledger, also after a stop;
* while the link is running, what has been written and what is queued are the accepted frames, in
  order and each once.

`Link.Reading` cuts the turns of the RX task, and `Link.Interleaving` those of all three.
-/

namespace Al1Wmod

open Buffer Transducer Machine

/-- What has come and gone. -/
structure Ledger where
  /-- The frames that have been queued. -/
  sent : List LinkFrame
  /-- The calls that have dropped a frame. -/
  refused : ℕ
  /-- The items passed to `uart_write_bytes`, and their bytes. -/
  written : ℕ
  wire : List UInt8
  /-- The bytes that were fed to the parser, and the frames they completed. -/
  read : List UInt8
  delivered : List LinkFrame

/-- Nothing yet. -/
def Ledger.blank : Ledger := ⟨[], 0, 0, [], [], []⟩

/-- The frame of a call, when these are the sequence numbers. -/
def SendCall.frameAt (c : SendCall) (txSeq : UInt8 → UInt8) : LinkFrame where
  channel := c.channel
  seq := txSeq c.channel
  payload := c.payload.elim [] fun src => slice src 0 c.len.toNat

/-- The RX task in place `k` gets to `uart_read_bytes`. -/
def SLink.reads (s : SLink) (k : ℕ) (o : RxOutcome) : Bool :=
  s.running && s.rxTasks[k]?.any fun t => t.chunk || o.chunk

/-- The TX task in place `k` gets to `xQueueReceive`. -/
def SLink.writes (s : SLink) (k : ℕ) : Bool := s.running && s.txTasks[k]?.isSome

/-- The frames that reach `parser_trampoline` when the parser is fed these bytes. -/
def SLink.calls (maxPayload : ℕ) (s : SLink) (bytes : List UInt8) : List LinkFrame :=
  s.parser.elim [] fun p =>
    (al1ParserFeed maxPayload { p with stats := some s.stats } bytes).2.map Al1FrameCall.frame

/-- The ledger after one step. -/
def Ledger.enter (maxPayload : ℕ) (l : Ledger) (s : SLink) : LifecycleStep → Ledger
  | .start _ _ => if s.running then l else .blank
  | .stop => l
  | .rx k o =>
    if s.reads k o then
      { l with read := l.read ++ o.bytes, delivered := l.delivered ++ s.calls maxPayload o.bytes }
    else l
  | .tx k =>
    if s.writes k then
      { l with
        written := l.written + min 1 s.sender.txQueue.length
        wire := l.wire ++ (txTask s.sender).2 }
    else l
  | .send c =>
    match (al1LinkSend maxPayload s.sender c.channel c.payload c.len c.outcome).2 with
    | .ok => { l with sent := l.sent ++ [c.frameAt s.txSeq] }
    | .invalidState => l
    | _ => { l with refused := l.refused + 1 }

/-- One step, with the ledger. -/
def ledgerNext (maxPayload : ℕ) (st : SLink × Ledger) (e : LifecycleStep) : SLink × Ledger :=
  (lifecycleNext maxPayload st.1 e, st.2.enter maxPayload st.1 e)

/-- A run from boot. -/
def ledgerRun (maxPayload : ℕ) (steps : List LifecycleStep) : SLink × Ledger :=
  steps.foldl (ledgerNext maxPayload) (linkBoot, .blank)

/-- The counters of the ledger.  What has been read is counted by the reference decoder. -/
def Ledger.stats (maxPayload : ℕ) (l : Ledger) : Al1LinkStats :=
  let out := linkScan maxPayload l.read
  { rxFrames := UInt32.ofNat l.delivered.length
    rxCrcErr := UInt32.ofNat (out.count .crcErr)
    rxVerErr := UInt32.ofNat (out.count .verErr)
    rxLenErr := UInt32.ofNat (out.count .lenErr)
    rxResync := UInt32.ofNat (out.count .lenErr)
    txFrames := UInt32.ofNat l.written
    txDrops := UInt32.ofNat l.refused }

/-! ## What a call of `al1_link_send` does -/

/-- The call gets to `xQueueSend`, if the link is running. -/
def SendCall.Offered (maxPayload : ℕ) (c : SendCall) : Prop :=
  c.len.toNat ≤ maxPayload ∧ c.outcome.block.isSome ∧ (c.len = 0 ∨ c.payload.isSome)

instance SendCall.decidableOffered (maxPayload : ℕ) (c : SendCall) :
    Decidable (c.Offered maxPayload) := inferInstanceAs (Decidable (_ ∧ _ ∧ _))

section Send

variable {maxPayload : ℕ} {s : Al1Link}

/-- The builder refuses the call, or writes its frame. -/
theorem build_frameAt (c : SendCall) (txSeq : UInt8 → UInt8) (hM : c.len.toNat ≤ maxPayload)
    (buf : ℕ → UInt8) :
    let r := al1FrameBuild maxPayload (some buf) (al1LinkOverhead + c.len.toNat) c.channel
      (txSeq c.channel) c.payload c.len
    (r.2 = 0 ∧ ¬ (c.len = 0 ∨ c.payload.isSome)) ∨
      ((c.len = 0 ∨ c.payload.isSome) ∧ (c.frameAt txSeq).payload.length = c.len.toNat ∧
        r.2 = al1LinkOverhead + c.len.toNat ∧ written r = (c.frameAt txSeq).encode) := by
  -- a payload pointer, and what is read behind it
  have hsome : ∀ src, (c.frameAt txSeq).payload = slice src 0 c.len.toNat →
      (c.frameAt txSeq).payload.length = c.len.toNat ∧
        (al1FrameBuild maxPayload (some buf) (al1LinkOverhead + c.len.toNat) c.channel
          (txSeq c.channel) (some src) c.len).2 = al1LinkOverhead + c.len.toNat ∧
        written (al1FrameBuild maxPayload (some buf) (al1LinkOverhead + c.len.toNat) c.channel
          (txSeq c.channel) (some src) c.len) = (c.frameAt txSeq).encode := by
    intro src hsrc
    have hcount : (c.frameAt txSeq).payload.length = c.len.toNat := by rw [hsrc, length_slice]
    have hlen : (c.frameAt txSeq).len = c.len := by rw [LinkFrame.len, hcount, UInt16.ofNat_toNat]
    have hbuild := @al1FrameBuild_eq maxPayload _ buf src (c.frameAt txSeq)
      ⟨hcount ▸ hM, hcount ▸ c.len.toNat_lt⟩ le_rfl (by rw [hcount, hsrc])
    rw [hlen, hcount] at hbuild
    exact ⟨hcount, hbuild⟩
  intro r
  cases hpayload : c.payload with
  | some src =>
    have hr : r = al1FrameBuild maxPayload (some buf) (al1LinkOverhead + c.len.toNat) c.channel
      (txSeq c.channel) (some src) c.len := by rw [← hpayload]
    rw [hr]
    exact Or.inr ⟨.inr rfl, hsome src (by rw [SendCall.frameAt, hpayload]; rfl)⟩
  | none =>
    by_cases hzero : c.len = 0
    · have hr : r = al1FrameBuild maxPayload (some buf) (al1LinkOverhead + c.len.toNat) c.channel
        (txSeq c.channel) (some fun _ => 0) c.len := by
        show al1FrameBuild _ _ _ _ _ _ c.len = _
        rw [hzero]
        exact al1FrameBuild_zero _ _ _ _ _ _ _
      rw [hr]
      exact Or.inr ⟨.inl hzero, hsome _ (by rw [SendCall.frameAt, hpayload, hzero]; rfl)⟩
    · have hpos : 0 < c.len.toNat := Nat.pos_of_ne_zero fun h => hzero (UInt16.toNat_inj.mp h)
      refine Or.inl ⟨?_, fun h => h.elim hzero Bool.false_ne_true⟩
      show (al1FrameBuild _ _ _ _ _ c.payload _).2 = 0
      rw [hpayload, al1FrameBuild, if_neg (Nat.not_lt.mpr hM), if_pos ⟨hpos, rfl⟩]

/-- **What a call can do** while the link is running: queue its frame, or drop it. -/
theorem al1LinkSend_cases (hmax : maxPayload ≤ al1LinkMaxPayload) (hrun : s.running)
    (c : SendCall) :
    let r := al1LinkSend maxPayload s c.channel c.payload c.len c.outcome
    (r.2 = .ok ∧ (c.Offered maxPayload ∧ c.outcome.room = true) ∧
      (c.frameAt s.txSeq).Fits maxPayload ∧ ∃ item q,
        item.bytes = (c.frameAt s.txSeq).encode ∧
          r.1 = { s with txSeq := q, txQueue := s.txQueue ++ [item] }) ∨
    (r.2 ≠ .ok ∧ ¬ (c.Offered maxPayload ∧ c.outcome.room = true) ∧ r.2 ≠ .invalidState ∧
      ∃ q, r.1 = Al1Link.drop { s with txSeq := q }) := by
  rw [al1LinkSend, if_neg (not_not.mpr hrun), SendCall.Offered]
  by_cases hM : maxPayload < c.len.toNat
  · rw [if_pos hM]
    exact Or.inr ⟨EspErr.noConfusion, fun h => Nat.not_le.mpr hM h.1.1, EspErr.noConfusion, s.txSeq,
      rfl⟩
  · rw [if_neg hM]
    cases c.outcome.block with
    | none =>
      exact Or.inr ⟨EspErr.noConfusion, fun h => Bool.false_ne_true h.1.2.1, EspErr.noConfusion,
        s.txSeq, rfl⟩
    | some buf =>
      have hbuild := build_frameAt c s.txSeq (Nat.not_lt.mp hM) buf
      simp only at hbuild ⊢
      generalize al1FrameBuild maxPayload (some buf) (al1LinkOverhead + c.len.toNat) c.channel
        (s.txSeq c.channel) c.payload c.len = r at hbuild
      rcases hbuild with ⟨hzero, hnull⟩ | ⟨hbacked, hcount, hn, hw⟩
      · rw [if_pos hzero]
        exact Or.inr ⟨EspErr.noConfusion, fun h => hnull h.1.2.2, EspErr.noConfusion, _, rfl⟩
      · have hne : r.2 ≠ 0 := by
          rw [hn, al1LinkOverhead, al1LinkHeaderLen]
          omega
        rw [if_neg hne]
        cases c.outcome.room with
        | false =>
          exact Or.inr ⟨EspErr.noConfusion, fun h => Bool.false_ne_true h.2, EspErr.noConfusion, _,
            rfl⟩
        | true =>
          have hle : c.len.toNat ≤ 4096 := (Nat.not_lt.mp hM).trans hmax
          refine Or.inl ⟨rfl, ⟨⟨Nat.not_lt.mp hM, rfl, hbacked⟩, rfl⟩, ⟨?_, ?_⟩, _, _, ?_, rfl⟩
          · exact hcount ▸ Nat.not_lt.mp hM
          · exact hcount ▸ c.len.toNat_lt
          · exact Al1TxItem.bytes_eq buf (hcount ▸ hn) hw (by omega)

end Send

/-! ## What starts and stops do -/

section StartStop

variable {maxPayload : ℕ} {s : SLink}

/-- **A start of a stopped link** sets the counters to zero.  If the link is running then, there are
a fresh parser, an empty queue and a TX task.  If it is not, there is no task that was not there. -/
theorem al1LinkStart_stopped (h : s.running = false) (cfg : Option Al1LinkCfg) (o : StartOutcome) :
    let r := (al1LinkStart s cfg o).1
    r.stats = .zero ∧
      ((r.running = false ∧ r.txTasks = s.txTasks ∧ (r.txQueue = none ∨ r.txQueue = s.txQueue)) ∨
        (r.running = true ∧ r.txQueue = some [] ∧
          (∃ block, r.parser = some (al1ParserInit block true (some .zero))) ∧
          r.txTasks.length = s.txTasks.length + 1)) := by
  obtain ⟨parser, queue, driver, param, pin, rx, tx⟩ := o
  unfold al1LinkStart
  rw [if_neg (by rw [h]; exact Bool.false_ne_true)]
  cases parser with
  | none => exact ⟨rfl, .inl ⟨h, rfl, .inr rfl⟩⟩
  | some block =>
    by_cases hqueue : queue = true
    case neg =>
      simp only [hqueue]
      exact ⟨rfl, .inl ⟨h, rfl, .inl rfl⟩⟩
    by_cases hdriver : driver = .ok
    case neg =>
      simp only [hqueue, hdriver, not_true_eq_false, if_false, ne_eq, not_false_eq_true, if_true]
      exact ⟨rfl, .inl ⟨h, rfl, .inl rfl⟩⟩
    by_cases hparam : param = .ok
    case neg =>
      simp only [hqueue, hdriver, hparam, not_true_eq_false, if_false, ne_eq, not_false_eq_true,
        if_true]
      exact ⟨rfl, .inl ⟨h, rfl, .inl rfl⟩⟩
    by_cases hpin : pin = .ok
    case neg =>
      simp only [hqueue, hdriver, hparam, hpin, not_true_eq_false, if_false, ne_eq,
        not_false_eq_true, if_true]
      exact ⟨rfl, .inl ⟨h, rfl, .inl rfl⟩⟩
    simp only [hqueue, hdriver, hparam, hpin, not_true_eq_false, if_false, ne_eq]
    cases rx with
    | none => exact ⟨rfl, .inl ⟨rfl, rfl, .inl rfl⟩⟩
    | some rx =>
      cases tx with
      | none => exact ⟨rfl, .inl ⟨rfl, rfl, .inl rfl⟩⟩
      | some tx => exact ⟨rfl, .inr ⟨rfl, rfl, ⟨block, rfl⟩, List.length_append⟩⟩

/-- A stop leaves the counters, and nothing else. -/
theorem al1LinkStop_running (h : s.running) :
    let r := al1LinkStop maxPayload s
    r.running = false ∧ r.stats = s.stats ∧ r.txTasks = [] ∧ r.txQueue = none := by
  rw [al1LinkStop, if_neg (not_not.mpr h)]
  obtain ⟨queue, hqueue⟩ :=
    @iterate_txTaskStep { s with running := false, rxTasks := [] } rfl
  have hwait : awaitTasks maxPayload { s with running := false } =
      { s with running := false, rxTasks := [], txTasks := [], txQueue := queue } := by
    rw [awaitTasks]
    have hrx := @iterate_rxTaskStep { s with running := false } maxPayload rfl ⟨true, []⟩
    simp only at hrx ⊢
    rw [hrx]
    exact hqueue
  rw [hwait]
  exact ⟨rfl, rfl, rfl, rfl⟩

/-! ## What a turn of a task does -/

variable {k : ℕ}

/-- An RX task that has a chunk reads while the link is running. -/
theorem rxTaskStep_reads {t : RxTask} {o : RxOutcome} (ht : s.rxTasks[k]? = some t)
    (hchunk : ¬ (¬ t.chunk ∧ ¬ o.chunk)) (hrun : s.running) :
    rxTaskStep maxPayload s k o =
      SLink.feed maxPayload { s with rxTasks := s.rxTasks.set k { t with chunk := true } }
        o.bytes := by
  rw [rxTaskStep, ht]
  simp only [if_neg hchunk]
  rw [if_neg (not_not.mpr hrun)]

/-- An RX task that has no chunk, or finds the link stopped, exits. -/
theorem rxTaskStep_exits {t : RxTask} {o : RxOutcome} (ht : s.rxTasks[k]? = some t)
    (h : (¬ t.chunk ∧ ¬ o.chunk) ∨ ¬ s.running) :
    rxTaskStep maxPayload s k o = { s with rxTasks := s.rxTasks.eraseIdx k } := by
  rw [rxTaskStep, ht]
  by_cases hchunk : ¬ t.chunk ∧ ¬ o.chunk
  · simp only [if_pos hchunk]
  · simp only [if_neg hchunk]
    rw [if_pos (h.resolve_left hchunk)]

/-- **What a turn of the RX task can do**: it reads and feeds the parser, or exits. -/
theorem rxTaskStep_cases {t : RxTask} (ht : s.rxTasks[k]? = some t) (o : RxOutcome) :
    (s.reads k o = true ∧ s.running = true ∧ rxTaskStep maxPayload s k o =
      SLink.feed maxPayload { s with rxTasks := s.rxTasks.set k { t with chunk := true } }
        o.bytes) ∨
    (s.reads k o = false ∧
      rxTaskStep maxPayload s k o = { s with rxTasks := s.rxTasks.eraseIdx k }) := by
  by_cases hexit : (¬ t.chunk ∧ ¬ o.chunk) ∨ ¬ s.running
  · refine .inr ⟨?_, rxTaskStep_exits ht hexit⟩
    rcases hexit with hchunk | hrun
    · simp [SLink.reads, ht, hchunk.1, hchunk.2]
    · simp [SLink.reads, hrun]
  · obtain ⟨hchunk, hrun⟩ := not_or.mp hexit
    refine .inl ⟨?_, not_not.mp hrun, rxTaskStep_reads ht hchunk (not_not.mp hrun)⟩
    simp only [SLink.reads, ht, Option.any_some, Bool.and_eq_true, Bool.or_eq_true]
    tauto

/-- A TX task that finds the link stopped drains the queue and exits. -/
theorem txTaskStep_exits {t : ℕ} (ht : s.txTasks[k]? = some t) (hrun : ¬ s.running) :
    txTaskStep s k =
      { s with txTasks := s.txTasks.eraseIdx k, txQueue := s.txQueue.map fun _ => [] } := by
  rw [txTaskStep, ht]
  exact if_pos hrun

/-- A TX task of a running link. -/
theorem txTaskStep_writes {t : ℕ} (ht : s.txTasks[k]? = some t) (hrun : s.running) :
    txTaskStep s k = s.withSender (txTask s.sender).1 := by
  rw [txTaskStep, ht]
  exact if_neg (not_not.mpr hrun)

/-- What it does with the queue. -/
theorem txTask_nil {l : Al1Link} (hqueue : l.txQueue = []) : txTask l = (l, []) := by
  rw [txTask, hqueue]
  split_ifs <;> rfl

theorem txTask_cons {l : Al1Link} (hrun : l.running) {item : Al1TxItem} {queue : List Al1TxItem}
    (hqueue : l.txQueue = item :: queue) :
    txTask l = ({ l with
      txQueue := queue
      stats := { l.stats with txFrames := l.stats.txFrames + 1 } }, item.bytes) := by
  rw [txTask, if_neg (not_not.mpr hrun), hqueue]

/-- Neither task sets or clears `running`. -/
theorem running_rxTaskStep (s : SLink) (k : ℕ) (o : RxOutcome) :
    (rxTaskStep maxPayload s k o).running = s.running := by
  cases ht : s.rxTasks[k]? with
  | none => rw [rxTaskStep_of_none ht]
  | some t =>
    rcases @rxTaskStep_cases maxPayload _ _ _ ht o with ⟨-, -, hstep⟩ | ⟨-, hstep⟩
    · rw [hstep, SLink.feed]
      split <;> rfl
    · rw [hstep]

theorem running_txTaskStep (s : SLink) (k : ℕ) : (txTaskStep s k).running = s.running := by
  cases ht : s.txTasks[k]? with
  | none => rw [txTaskStep_of_none ht]
  | some t =>
    by_cases hrun : s.running
    · rw [txTaskStep_writes ht hrun]
      rfl
    · rw [txTaskStep_exits ht hrun]

/-- What `rx_task` leaves alone. -/
theorem rxTaskStep_queue (s : SLink) (k : ℕ) (o : RxOutcome) :
    (rxTaskStep maxPayload s k o).txTasks = s.txTasks ∧
      (rxTaskStep maxPayload s k o).txQueue = s.txQueue := by
  cases ht : s.rxTasks[k]? with
  | none =>
    rw [rxTaskStep_of_none ht]
    exact ⟨rfl, rfl⟩
  | some t =>
    rcases @rxTaskStep_cases maxPayload _ _ _ ht o with ⟨-, -, hstep⟩ | ⟨-, hstep⟩
    · rw [hstep, SLink.feed]
      split <;> exact ⟨rfl, rfl⟩
    · rw [hstep]
      exact ⟨rfl, rfl⟩

/-- The TX task takes from the front. -/
theorem queue_tx {s : SLink} (hrun : s.running = true) {k t : ℕ} (ht : s.txTasks[k]? = some t)
    {queue : List Al1TxItem} (hqueue : s.txQueue = some queue) :
    (txTaskStep s k).txQueue = some queue.tail := by
  have hsender : s.sender.txQueue = queue := by rw [SLink.sender, hqueue, Option.getD_some]
  rw [txTaskStep_writes ht hrun, SLink.withSender, hqueue, Option.map_some]
  cases queue with
  | nil => rw [txTask_nil hsender, hsender, List.tail_nil]
  | cons item queue => rw [txTask_cons (l := s.sender) hrun hsender, List.tail_cons]

end StartStop

/-! ## The books balance -/

/-- What is true of a link and its ledger. -/
structure Balanced (maxPayload : ℕ) (st : SLink × Ledger) : Prop where
  stats : st.1.stats = st.2.stats maxPayload
  delivered : st.2.delivered = (linkScan maxPayload st.2.read).filterMap LinkOutcome.frame?
  fits : ∀ f ∈ st.2.sent, f.Fits maxPayload
  onWire : st.2.wire <+: st.2.sent.flatMap LinkFrame.encode
  parser : st.1.running → ∃ p, st.1.parser = some p ∧ p.cb = true ∧
    Represents maxPayload p (linkRun maxPayload st.2.read).1
  conveys : st.1.running → ∃ queue, st.1.txQueue = some queue ∧
    st.2.wire ++ queue.flatMap Al1TxItem.bytes = st.2.sent.flatMap LinkFrame.encode ∧
    st.2.sent.length = st.2.written + queue.length

section Balance

variable {maxPayload : ℕ} {s s' : SLink} {l : Ledger}

theorem balanced_boot (maxPayload : ℕ) : Balanced maxPayload (linkBoot, .blank) where
  stats := by simp [Ledger.stats, Ledger.blank, linkBoot, linkScan, Al1LinkStats.zero]
  delivered := by simp [Ledger.blank, linkScan]
  fits _ hf := absurd hf List.not_mem_nil
  onWire := List.nil_prefix
  parser hrun := absurd hrun Bool.false_ne_true
  conveys hrun := absurd hrun Bool.false_ne_true

/-- A step that is not in the ledger, and leaves parser and queue alone or the link stopped. -/
theorem Balanced.frame (h : Balanced maxPayload (s, l)) (hstats : s'.stats = s.stats)
    (hrun : s'.running = true →
      s.running = true ∧ s'.parser = s.parser ∧ s'.txQueue = s.txQueue) :
    Balanced maxPayload (s', l) where
  stats := hstats.trans h.stats
  delivered := h.delivered
  fits := h.fits
  onWire := h.onWire
  parser hr := by
    obtain ⟨hrun, hparser, -⟩ := hrun hr
    show ∃ p, s'.parser = some p ∧ _
    rw [hparser]
    exact h.parser hrun
  conveys hr := by
    obtain ⟨hrun, -, hqueue⟩ := hrun hr
    show ∃ queue, s'.txQueue = some queue ∧ _
    rw [hqueue]
    exact h.conveys hrun

theorem Balanced.start (h : Balanced maxPayload (s, l)) (cfg : Option Al1LinkCfg)
    (o : StartOutcome) : Balanced maxPayload (ledgerNext maxPayload (s, l) (.start cfg o)) := by
  by_cases hrun : s.running = true
  · have hstart : al1LinkStart s cfg o = (s, .invalidState) := if_pos hrun
    have hnext : ledgerNext maxPayload (s, l) (.start cfg o) = (s, l) := by
      simp only [ledgerNext, lifecycleNext, hstart, Ledger.enter, hrun, if_true]
    rw [hnext]
    exact h
  · have hstop : s.running = false := Bool.eq_false_iff.mpr hrun
    have hnext :
        ledgerNext maxPayload (s, l) (.start cfg o) = ((al1LinkStart s cfg o).1, .blank) := by
      rw [ledgerNext, lifecycleNext, Ledger.enter, if_neg hrun]
    obtain ⟨hstats, hfresh⟩ := al1LinkStart_stopped hstop cfg o
    have hblank := balanced_boot maxPayload
    rw [hnext]
    refine ⟨hstats.trans hblank.stats, hblank.delivered, hblank.fits, hblank.onWire, fun hr => ?_,
      fun hr => ?_⟩
    · rcases hfresh with ⟨hno, -⟩ | ⟨-, -, ⟨block, hparser⟩, -⟩
      · exact absurd (hno ▸ hr) Bool.false_ne_true
      · exact ⟨_, hparser, rfl, represents_nil_iff.mpr rfl⟩
    · rcases hfresh with ⟨hno, -⟩ | ⟨-, hqueue, -⟩
      · exact absurd (hno ▸ hr) Bool.false_ne_true
      · exact ⟨[], hqueue, rfl, rfl⟩

theorem Balanced.stop (h : Balanced maxPayload (s, l)) :
    Balanced maxPayload (ledgerNext maxPayload (s, l) .stop) := by
  by_cases hrun : s.running = true
  · obtain ⟨hstop, hstats, -⟩ := @al1LinkStop_running maxPayload s hrun
    exact h.frame hstats fun hr => absurd (hstop ▸ hr) Bool.false_ne_true
  · have hnext : al1LinkStop maxPayload s = s := if_pos hrun
    exact h.frame (congrArg SLink.stats hnext) fun hr =>
      absurd (show s.running = true from hnext ▸ hr) hrun

/-- Bytes that are read and parsed. -/
theorem Balanced.feed (h : Balanced maxPayload (s, l)) (hrun : s.running = true)
    (bytes : List UInt8) (tasks : List RxTask) :
    Balanced maxPayload (SLink.feed maxPayload { s with rxTasks := tasks } bytes,
      { l with read := l.read ++ bytes, delivered := l.delivered ++ s.calls maxPayload bytes }) := by
  obtain ⟨p, hparser, hcb, hrep⟩ := h.parser hrun
  have hrep' : Represents maxPayload { p with stats := some s.stats }
      (linkRun maxPayload l.read).1 := hrep
  have hfeed := al1ParserFeed_framer hrep' bytes
  -- the framer reads on
  have hread : linkRun maxPayload (l.read ++ bytes) =
      ((run (Framer.step (linkVerdict maxPayload)) (linkRun maxPayload l.read).1 bytes).1,
        (linkRun maxPayload l.read).2 ++
          (run (Framer.step (linkVerdict maxPayload)) (linkRun maxPayload l.read).1 bytes).2) :=
    run_append _ _ _ _
  have hscan : linkScan maxPayload (l.read ++ bytes) = linkScan maxPayload l.read ++
      (run (Framer.step (linkVerdict maxPayload)) (linkRun maxPayload l.read).1 bytes).2 := by
    rw [← linkRun_scan, hread, ← linkRun_scan]
  have hcalls : s.calls maxPayload bytes = (run (Framer.step (linkVerdict maxPayload))
      (linkRun maxPayload l.read).1 bytes).2.filterMap LinkOutcome.frame? := by
    rw [SLink.calls, hparser]
    exact hfeed.calls.trans (if_pos hcb)
  have hdelivered : l.delivered ++ s.calls maxPayload bytes =
      (linkScan maxPayload (l.read ++ bytes)).filterMap LinkOutcome.frame? := by
    rw [hscan, List.filterMap_append, hcalls, ← h.delivered]
  have hfed : SLink.feed maxPayload { s with rxTasks := tasks } bytes =
      { s with
        rxTasks := tasks
        parser := some (al1ParserFeed maxPayload { p with stats := some s.stats } bytes).1
        stats := (run (Framer.step (linkVerdict maxPayload)) (linkRun maxPayload l.read).1
          bytes).2.foldl Al1LinkStats.count s.stats } := by
    have hparser' : s.parser = some p := hparser
    rw [SLink.feed]
    simp only [hparser', hfeed.stats, Option.map_some, Option.getD_some]
  rw [hfed]
  refine ⟨?_, hdelivered, h.fits, h.onWire, fun _ => ⟨_, rfl, hfeed.cb.trans hcb, ?_⟩, fun _ => ?_⟩
  · have hlen : (l.delivered ++ s.calls maxPayload bytes).length = l.delivered.length +
        ((run (Framer.step (linkVerdict maxPayload)) (linkRun maxPayload l.read).1
          bytes).2.filterMap LinkOutcome.frame?).length := by
      rw [List.length_append, hcalls]
    have hbefore : s.stats = l.stats maxPayload := h.stats
    show List.foldl Al1LinkStats.count s.stats _ = Ledger.stats maxPayload _
    rw [foldl_count, hbefore]
    simp only [Ledger.stats, hscan, List.count_append, hlen, UInt32.ofNat_add]
  · rw [hread]
    exact hfeed.represents
  · exact h.conveys hrun

theorem Balanced.rx (h : Balanced maxPayload (s, l)) (k : ℕ) (o : RxOutcome) :
    Balanced maxPayload (ledgerNext maxPayload (s, l) (.rx k o)) := by
  rw [ledgerNext, lifecycleNext, Ledger.enter]
  cases ht : s.rxTasks[k]? with
  | none =>
    rw [rxTaskStep_of_none ht, if_neg (by simp [SLink.reads, ht])]
    exact h
  | some t =>
    rcases @rxTaskStep_cases maxPayload _ _ _ ht o with ⟨hreads, hrun, hstep⟩ | ⟨hreads, hstep⟩
    · rw [hstep, if_pos hreads]
      exact h.feed hrun o.bytes _
    · rw [hstep, if_neg (Bool.eq_false_iff.mp hreads)]
      exact h.frame rfl fun hr => ⟨hr, rfl, rfl⟩

theorem Balanced.tx (h : Balanced maxPayload (s, l)) (k : ℕ) :
    Balanced maxPayload (ledgerNext maxPayload (s, l) (.tx k)) := by
  rw [ledgerNext, lifecycleNext, Ledger.enter]
  cases ht : s.txTasks[k]? with
  | none =>
    rw [txTaskStep_of_none ht, if_neg (by simp [SLink.writes, ht])]
    exact h
  | some t =>
    by_cases hrun : s.running = true
    case neg =>
      rw [txTaskStep_exits ht hrun, if_neg (by simp [SLink.writes, hrun])]
      exact h.frame rfl fun hr => absurd hr hrun
    obtain ⟨queue, hqueue, hwire, hcount⟩ := h.conveys hrun
    have hsender : s.sender.txQueue = queue := by
      rw [SLink.sender]
      exact (congrArg (Option.getD · []) hqueue)
    rw [txTaskStep_writes ht hrun, if_pos (by simp [SLink.writes, ht, hrun])]
    cases queue with
    | nil =>
      rw [txTask_nil hsender, hsender, List.append_nil]
      refine h.frame rfl fun hr => ⟨hr, rfl, ?_⟩
      have hqueue' : s.txQueue = some [] := hqueue
      rw [SLink.withSender, hqueue', hsender]
      rfl
    | cons item queue =>
      have hbefore : s.stats = l.stats maxPayload := h.stats
      have hqueue' : s.txQueue = some (item :: queue) := hqueue
      rw [txTask_cons (l := s.sender) hrun hsender, hsender]
      have hwire' : l.wire ++ item.bytes ++ queue.flatMap Al1TxItem.bytes =
          l.sent.flatMap LinkFrame.encode := by
        rw [List.append_assoc]
        exact hwire
      refine ⟨?_, h.delivered, h.fits, ⟨_, hwire'⟩, fun _ => h.parser hrun,
        fun _ => ⟨queue, ?_, hwire', ?_⟩⟩
      · show { s.stats with txFrames := s.stats.txFrames + 1 } = _
        rw [hbefore]
        simp [Ledger.stats, UInt32.ofNat_add]
      · rw [SLink.withSender, hqueue']
        rfl
      · have hcount' : l.sent.length = l.written + (queue.length + 1) := hcount
        show l.sent.length = l.written + min 1 (queue.length + 1) + queue.length
        omega

theorem Balanced.send (hmax : maxPayload ≤ al1LinkMaxPayload) (h : Balanced maxPayload (s, l))
    (c : SendCall) : Balanced maxPayload (ledgerNext maxPayload (s, l) (.send c)) := by
  rw [ledgerNext, lifecycleNext, Ledger.enter]
  by_cases hrun : s.running = true
  case neg =>
    have hsend : al1LinkSend maxPayload s.sender c.channel c.payload c.len c.outcome =
        (s.sender, .invalidState) := if_pos hrun
    rw [hsend]
    exact h.frame rfl fun hr => absurd hr hrun
  obtain ⟨queue, hqueue, hwire, hcount⟩ := h.conveys hrun
  have hqueue' : s.txQueue = some queue := hqueue
  have hsender : s.sender.txQueue = queue := congrArg (Option.getD · []) hqueue'
  have hbefore : s.stats = l.stats maxPayload := h.stats
  rcases @al1LinkSend_cases maxPayload s.sender hmax hrun c with
    ⟨hok, -, hfits, item, q, hitem, hnext⟩ | ⟨hne, -, hvalid, q, hnext⟩
  · have hitem' : item.bytes = (c.frameAt s.txSeq).encode := hitem
    rw [hok, hnext, hsender]
    have hwire' : l.wire ++ (queue ++ [item]).flatMap Al1TxItem.bytes =
        (l.sent ++ [c.frameAt s.txSeq]).flatMap LinkFrame.encode := by
      rw [List.flatMap_append, List.flatMap_append, ← List.append_assoc, hwire,
        List.flatMap_singleton, List.flatMap_singleton, hitem']
    refine ⟨hbefore, h.delivered, ?_, ⟨_, hwire'⟩, fun _ => h.parser hrun,
      fun _ => ⟨queue ++ [item], ?_, hwire', ?_⟩⟩
    · intro f hf
      rcases List.mem_append.mp hf with hf | hf
      · exact h.fits f hf
      · rw [List.mem_singleton.mp hf]
        exact hfits
    · rw [SLink.withSender, hqueue']
      rfl
    · show (l.sent ++ [_]).length = l.written + (queue ++ [item]).length
      rw [List.length_append, List.length_append, show l.sent.length = _ from hcount]
      rfl
  · have henter : (match (al1LinkSend maxPayload s.sender c.channel c.payload c.len c.outcome).2 with
        | .ok => { l with sent := l.sent ++ [c.frameAt s.txSeq] }
        | .invalidState => l
        | _ => { l with refused := l.refused + 1 }) = { l with refused := l.refused + 1 } := by
      split
      · exact absurd ‹_› hne
      · exact absurd ‹_› hvalid
      · rfl
    rw [henter, hnext]
    refine ⟨?_, h.delivered, h.fits, h.onWire, fun _ => h.parser hrun,
      fun _ => ⟨queue, ?_, hwire, hcount⟩⟩
    · show { s.stats with txDrops := s.stats.txDrops + 1 } = _
      rw [hbefore]
      simp [Ledger.stats, UInt32.ofNat_add]
    · rw [SLink.withSender, hqueue']
      exact congrArg some hsender

end Balance

/-- The frames among outcomes that are all frames. -/
theorem filterMap_frame (frames : List LinkFrame) :
    (frames.map LinkOutcome.frame).filterMap LinkOutcome.frame? = frames := by
  rw [List.filterMap_map]
  exact List.filterMap_some

/-- What a receiver makes of a piece off the front of encoded frames. -/
theorem linkScan_front {maxPayload : ℕ} {frames : List LinkFrame}
    (hf : ∀ f ∈ frames, f.Fits maxPayload) {bytes : List UInt8}
    (h : bytes <+: frames.flatMap LinkFrame.encode) :
    linkScan maxPayload bytes <+: frames.map .frame := by
  obtain ⟨rest, hrest⟩ := h
  have hall := congrArg Prod.snd (linkRun_frames hf)
  rw [← hrest, linkRun, run_append] at hall
  rw [← linkRun_scan]
  exact ⟨_, hall⟩

end Al1Wmod
