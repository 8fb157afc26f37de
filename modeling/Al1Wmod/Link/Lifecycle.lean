import Al1Wmod.Link.Sequence
import Al1Wmod.Stream.Machine

/-!
# Starting and stopping the link

`al1_link_start` allocates the parser and the queue, brings up the UART driver and creates the two
tasks, and any of these may fail.  `al1_link_stop` clears `running`, waits until the tasks have seen
it, and frees everything.  The tasks are not told to leave in any other way: they look at `running`
once in each turn of their loops, and a later start sets it again.

Two failures are not undone.  If the TX task cannot be created, the RX task is left to notice by
itself, and until it does, another start makes it one of two.  If the RX task cannot allocate its
chunk it is gone, and `running` stays set.  Nothing else goes wrong: between the calls the link is
down, with nothing there, or up, with one of each.
-/

namespace Al1Wmod

open Transducer Machine

/-- `al1_link_cfg_t`. -/
structure Al1LinkCfg where
  uartNum : ℤ
  txGpio : ℤ
  rxGpio : ℤ
  baud : ℤ
  deriving DecidableEq, Repr

/-- `AL1_LINK_DEFAULT_CFG`. -/
def al1LinkDefaultCfg : Al1LinkCfg := ⟨0, 21, 20, 921600⟩

/-- An RX task: its handle, and whether it has allocated its chunk. -/
structure RxTask where
  handle : ℕ
  chunk : Bool
  deriving DecidableEq, Repr

/-- `s_link`, and what the system holds for it: the ports with a UART driver, the RX tasks and the
handles of the TX tasks. -/
structure SLink where
  running : Bool
  cfg : Al1LinkCfg
  parser : Option Al1Parser
  txQueue : Option (List Al1TxItem)
  rxTask : Option ℕ
  txTask : Option ℕ
  stats : Al1LinkStats
  txSeq : UInt8 → UInt8
  drivers : ℤ → Bool
  rxTasks : List RxTask
  txTasks : List ℕ

/-- Counters at zero. -/
def Al1LinkStats.zero : Al1LinkStats := ⟨0, 0, 0, 0, 0, 0, 0⟩

/-- The link at boot: `s_link` is static, and nothing has been created. -/
def linkBoot : SLink :=
  { running := false, cfg := ⟨0, 0, 0, 0⟩, parser := none, txQueue := none, rxTask := none
    txTask := none, stats := .zero, txSeq := fun _ => 0, drivers := fun _ => false, rxTasks := []
    txTasks := [] }

/-- What the calls of `al1_link_start` come to: the block that `malloc` returns, whether the queue
is created, the results of the three driver calls, and the handles of the tasks. -/
structure StartOutcome where
  parser : Option Al1Parser
  txQueue : Bool
  driver : EspErr
  param : EspErr
  pin : EspErr
  rxTask : Option ℕ
  txTask : Option ℕ

/-- The label `fail`. -/
def SLink.fail (s : SLink) : SLink := { s with txQueue := none, parser := none }

/-- The label `fail_driver`. -/
def SLink.failDriver (s : SLink) : SLink :=
  SLink.fail { s with drivers := Function.update s.drivers s.cfg.uartNum false }

/-- `al1_link_start`. -/
def al1LinkStart (s : SLink) (cfg : Option Al1LinkCfg) (o : StartOutcome) : SLink × EspErr :=
  if s.running then (s, .invalidState)
  else
    let s := { s with cfg := cfg.getD al1LinkDefaultCfg, stats := .zero, txSeq := fun _ => 0 }
    match o.parser with
    | none => ({ s with parser := none }, .noMem)
    | some block =>
      let s := { s with parser := some (al1ParserInit block true (some s.stats)) }
      if ¬ o.txQueue then ({ s with txQueue := none, parser := none }, .noMem)
      else
        let s := { s with txQueue := some [] }
        if o.driver ≠ .ok then (s.fail, o.driver)
        else
          let s := { s with drivers := Function.update s.drivers s.cfg.uartNum true }
          if o.param ≠ .ok then (s.failDriver, o.param)
          else if o.pin ≠ .ok then (s.failDriver, o.pin)
          else
            let s := { s with running := true }
            match o.rxTask with
            | none => (SLink.failDriver { s with running := false }, .noMem)
            | some rx =>
              let s := { s with rxTask := some rx, rxTasks := s.rxTasks ++ [RxTask.mk rx false] }
              match o.txTask with
              -- the RX task is left to exit by itself
              | none => (SLink.failDriver { s with running := false }, .noMem)
              | some tx => ({ s with txTask := some tx, txTasks := s.txTasks ++ [tx] }, .ok)

/-! ## The tasks -/

/-- What the system does for an RX task: whether `malloc` finds a chunk, and the bytes that
`uart_read_bytes` returns. -/
structure RxOutcome where
  chunk : Bool
  bytes : List UInt8

/-- `al1_parser_feed`, with the counters of `s_link`. -/
def SLink.feed (maxPayload : ℕ) (s : SLink) (bytes : List UInt8) : SLink :=
  match s.parser with
  | none => s
  | some p =>
    let q := (al1ParserFeed maxPayload { p with stats := some s.stats } bytes).1
    { s with parser := some q, stats := q.stats.getD s.stats }

/-- An iteration of `rx_task`, for the RX task in place `k`.  A task that has no chunk yet allocates
it first. -/
def rxTaskStep (maxPayload : ℕ) (s : SLink) (k : ℕ) (o : RxOutcome) : SLink :=
  match s.rxTasks[k]? with
  | none => s
  | some t =>
    if ¬ t.chunk ∧ ¬ o.chunk then { s with rxTasks := s.rxTasks.eraseIdx k }
    else if ¬ s.running then { s with rxTasks := s.rxTasks.eraseIdx k }
    else
      let s := { s with rxTasks := s.rxTasks.set k { t with chunk := true } }
      s.feed maxPayload o.bytes

/-- The parts of `s_link` that sending uses. -/
def SLink.sender (s : SLink) : Al1Link := ⟨s.running, s.txQueue.getD [], s.stats, s.txSeq⟩

/-- What sending leaves in them. -/
def SLink.withSender (s : SLink) (l : Al1Link) : SLink :=
  { s with txQueue := s.txQueue.map fun _ => l.txQueue, stats := l.stats, txSeq := l.txSeq }

/-- An iteration of `tx_task`, for the TX task in place `k`.  On its way out it drains the queue. -/
def txTaskStep (s : SLink) (k : ℕ) : SLink :=
  match s.txTasks[k]? with
  | none => s
  | some _ =>
    if ¬ s.running then
      { s with txTasks := s.txTasks.eraseIdx k, txQueue := s.txQueue.map fun _ => [] }
    else s.withSender (txTask s.sender).1

/-- The 200 ms of `al1_link_stop`: all tasks take a turn, one after another. -/
def awaitTasks (maxPayload : ℕ) (s : SLink) : SLink :=
  let s := (fun s => rxTaskStep maxPayload s 0 ⟨true, []⟩)^[s.rxTasks.length] s
  (fun s => txTaskStep s 0)^[s.txTasks.length] s

/-- `al1_link_stop`. -/
def al1LinkStop (maxPayload : ℕ) (s : SLink) : SLink :=
  if ¬ s.running then s
  else
    let s := awaitTasks maxPayload { s with running := false }
    { s with
      drivers := Function.update s.drivers s.cfg.uartNum false
      txQueue := none, parser := none, rxTask := none, txTask := none }

/-- What can happen to the link. -/
inductive LifecycleStep where
  | start (cfg : Option Al1LinkCfg) (o : StartOutcome)
  | stop
  | rx (k : ℕ) (o : RxOutcome)
  | tx (k : ℕ)
  | send (c : SendCall)

/-- One step. -/
def lifecycleNext (maxPayload : ℕ) (s : SLink) : LifecycleStep → SLink
  | .start cfg o => (al1LinkStart s cfg o).1
  | .stop => al1LinkStop maxPayload s
  | .rx k o => rxTaskStep maxPayload s k o
  | .tx k => txTaskStep s k
  | .send c =>
    s.withSender (al1LinkSend maxPayload s.sender c.channel c.payload c.len c.outcome).1

/-! ## What is claimed -/

/-- Between the calls there is at most one task of each kind, and the link is running exactly if
everything is there. -/
structure Sound (s : SLink) : Prop where
  rx : s.rxTasks.length ≤ 1
  tx : s.txTasks.length ≤ 1
  running : s.running ↔ s.rxTasks.length = 1 ∧ s.txTasks.length = 1 ∧
    s.drivers s.cfg.uartNum ∧ s.txQueue.isSome ∧ s.parser.isSome

/-- Nothing has come from `s` to `s'`. -/
structure NothingLeft (s s' : SLink) : Prop where
  rxTasks : s'.rxTasks.Sublist s.rxTasks
  txTasks : s'.txTasks.Sublist s.txTasks
  drivers : ∀ port, s'.drivers port → s.drivers port
  txQueue : s'.txQueue = none ∨ s'.txQueue = s.txQueue
  parser : s'.parser = none ∨ s'.parser = s.parser
  rxTask : s'.rxTask = none ∨ s'.rxTask = s.rxTask
  txTask : s'.txTask = none ∨ s'.txTask = s.txTask

/-- A step leaves the link sound, and a start that returns an error leaves nothing. -/
def Tidy (maxPayload : ℕ) (s : SLink) (e : LifecycleStep) : Prop :=
  Sound (lifecycleNext maxPayload s e) ∧ ∀ cfg o, e = .start cfg o →
    (al1LinkStart s cfg o).2 ≠ .ok → NothingLeft s (al1LinkStart s cfg o).1

/-- The TX task is the one that cannot be created. -/
def StartOutcome.Strands (o : StartOutcome) : Prop :=
  o.parser.isSome ∧ o.txQueue ∧ o.driver = .ok ∧ o.param = .ok ∧ o.pin = .ok ∧ o.rxTask.isSome ∧
    o.txTask = none

/-- A step at which neither the creation of the TX task fails nor the `malloc` of an RX task. -/
def HarmlessStep (s : SLink) : LifecycleStep → Prop
  | .start _ o => ¬ s.running → ¬ o.Strands
  | .rx k o => ∀ t ∈ s.rxTasks[k]?, ¬ t.chunk → o.chunk
  | _ => True

/-! ## Down and up -/

/-- Nothing is there. -/
structure Down (s : SLink) : Prop where
  running : s.running = false
  rxTasks : s.rxTasks = []
  txTasks : s.txTasks = []

/-- One of each is there. -/
structure Up (s : SLink) : Prop where
  running : s.running = true
  rxTasks : s.rxTasks.length = 1
  txTasks : s.txTasks.length = 1
  driver : s.drivers s.cfg.uartNum = true
  txQueue : s.txQueue.isSome
  parser : s.parser.isSome

theorem Down.sound {s : SLink} (h : Down s) : Sound s where
  rx := by simp [h.rxTasks]
  tx := by simp [h.txTasks]
  running := by simp [h.running, h.rxTasks]

theorem Up.sound {s : SLink} (h : Up s) : Sound s where
  rx := h.rxTasks.le
  tx := h.txTasks.le
  running := ⟨fun _ => ⟨h.rxTasks, h.txTasks, h.driver, h.txQueue, h.parser⟩, fun _ => h.running⟩

/-- Between the calls the link is down or up. -/
def Settled (s : SLink) : Prop := Down s ∨ Up s

theorem down_linkBoot : Down linkBoot := ⟨rfl, rfl, rfl⟩

theorem NothingLeft.refl (s : SLink) : NothingLeft s s :=
  ⟨.refl _, .refl _, fun _ => id, .inr rfl, .inr rfl, .inr rfl, .inr rfl⟩

section Start

variable {s : SLink}

/-- A driver that has been installed and deleted again. -/
theorem driver_of_update {drivers : ℤ → Bool} {num port : ℤ}
    (h : Function.update (Function.update drivers num true) num false port) : drivers port := by
  rw [Function.update_idem] at h
  by_cases hport : port = num
  · rw [hport, Function.update_self] at h
    exact absurd h Bool.false_ne_true
  · rwa [Function.update_of_ne hport] at h

/-- A start that gives up before it creates a task. -/
theorem Down.giveUp (h : Down s) {s' : SLink} (hrunning : s'.running = false)
    (hrxTasks : s'.rxTasks = s.rxTasks) (htxTasks : s'.txTasks = s.txTasks)
    (htxQueue : s'.txQueue = none ∨ s'.txQueue = s.txQueue) (hparser : s'.parser = none)
    (hrxTask : s'.rxTask = s.rxTask) (htxTask : s'.txTask = s.txTask)
    (hdrivers : ∀ port, s'.drivers port → s.drivers port) : Down s' ∧ NothingLeft s s' := by
  refine ⟨⟨hrunning, hrxTasks.trans h.rxTasks, htxTasks.trans h.txTasks⟩, ?_⟩
  exact ⟨hrxTasks ▸ .refl _, htxTasks ▸ .refl _, hdrivers, htxQueue, .inl hparser, .inr hrxTask,
    .inr htxTask⟩

/-- **A start of a link that is down** strands the RX task, or brings the link up, or leaves nothing
behind. -/
theorem Down.start (h : Down s) (cfg : Option Al1LinkCfg) (o : StartOutcome) :
    let r := al1LinkStart s cfg o
    (o.Strands ∧ r.2 ≠ .ok ∧ r.1.rxTasks ≠ []) ∨
      (¬ o.Strands ∧ r.2 = .ok ∧ Up r.1) ∨
      (¬ o.Strands ∧ r.2 ≠ .ok ∧ Down r.1 ∧ NothingLeft s r.1) := by
  obtain ⟨parser, queue, driver, param, pin, rx, tx⟩ := o
  unfold al1LinkStart StartOutcome.Strands
  rw [if_neg (by rw [h.running]; exact Bool.false_ne_true)]
  cases parser with
  | none =>
    exact .inr (.inr ⟨by simp, EspErr.noConfusion,
      h.giveUp h.running rfl rfl (.inr rfl) rfl rfl rfl fun _ => id⟩)
  | some block =>
    by_cases hqueue : queue = true
    case neg =>
      simp only [hqueue]
      exact .inr (.inr ⟨by simp, EspErr.noConfusion,
        h.giveUp h.running rfl rfl (.inl rfl) rfl rfl rfl fun _ => id⟩)
    by_cases hdriver : driver = .ok
    case neg =>
      simp only [hqueue, hdriver, not_true_eq_false, if_false, ne_eq, not_false_eq_true, if_true]
      exact .inr (.inr ⟨by simp, trivial,
        h.giveUp h.running rfl rfl (.inl rfl) rfl rfl rfl fun _ => id⟩)
    by_cases hparam : param = .ok
    case neg =>
      simp only [hqueue, hdriver, hparam, not_true_eq_false, if_false, ne_eq, not_false_eq_true,
        if_true]
      exact .inr (.inr ⟨by simp, trivial,
        h.giveUp h.running rfl rfl (.inl rfl) rfl rfl rfl fun _ => driver_of_update⟩)
    by_cases hpin : pin = .ok
    case neg =>
      simp only [hqueue, hdriver, hparam, hpin, not_true_eq_false, if_false, ne_eq,
        not_false_eq_true, if_true]
      exact .inr (.inr ⟨by simp, trivial,
        h.giveUp h.running rfl rfl (.inl rfl) rfl rfl rfl fun _ => driver_of_update⟩)
    simp only [hqueue, hdriver, hparam, hpin, not_true_eq_false, if_false, ne_eq]
    cases rx with
    | none =>
      exact .inr (.inr ⟨by simp, EspErr.noConfusion,
        h.giveUp rfl rfl rfl (.inl rfl) rfl rfl rfl fun _ => driver_of_update⟩)
    | some rx =>
      cases tx with
      | none => exact .inl ⟨by simp, EspErr.noConfusion, List.concat_ne_nil _ _⟩
      | some tx =>
        refine .inr (.inl ⟨by simp, rfl, rfl, ?_, ?_, Function.update_self _ _ _, rfl, rfl⟩)
        · show (s.rxTasks ++ [RxTask.mk rx false]).length = 1
          rw [h.rxTasks]
          rfl
        · show (s.txTasks ++ [tx]).length = 1
          rw [h.txTasks]
          rfl

end Start

section Tasks

variable {s : SLink} {maxPayload : ℕ}

theorem rxTaskStep_of_none {k : ℕ} (h : s.rxTasks[k]? = none) (o : RxOutcome) :
    rxTaskStep maxPayload s k o = s := by
  rw [rxTaskStep, h]

theorem txTaskStep_of_none {k : ℕ} (h : s.txTasks[k]? = none) : txTaskStep s k = s := by
  rw [txTaskStep, h]

/-- Feeding the parser leaves the rest alone. -/
theorem Up.feed (h : Up s) (bytes : List UInt8) : Up (s.feed maxPayload bytes) := by
  unfold SLink.feed
  cases s.parser with
  | none => exact h
  | some p => exact ⟨h.running, h.rxTasks, h.txTasks, h.driver, h.txQueue, rfl⟩

/-- Sending leaves the rest alone, and a queue where there was one. -/
theorem Up.withSender (h : Up s) (l : Al1Link) : Up (s.withSender l) where
  running := h.running
  rxTasks := h.rxTasks
  txTasks := h.txTasks
  driver := h.driver
  txQueue := by
    rw [SLink.withSender, Option.isSome_map]
    exact h.txQueue
  parser := h.parser

/-- **A turn of the RX task**, while the link is up: it stays, unless it finds no chunk. -/
theorem Up.rx (h : Up s) (k : ℕ) (o : RxOutcome) :
    (¬ HarmlessStep s (.rx k o) ∧ ¬ Sound (rxTaskStep maxPayload s k o)) ∨
      (HarmlessStep s (.rx k o) ∧ Up (rxTaskStep maxPayload s k o)) := by
  cases ht : s.rxTasks[k]? with
  | none =>
    rw [rxTaskStep_of_none ht]
    exact .inr ⟨fun t ht' => absurd (ht ▸ ht') (by simp), h⟩
  | some t =>
    have hk : k < s.rxTasks.length := (List.getElem?_eq_some_iff.mp ht).1
    rw [rxTaskStep, ht]
    by_cases hchunk : ¬ t.chunk ∧ ¬ o.chunk
    · refine .inl ⟨fun hharmless => hchunk.2 (hharmless t ht hchunk.1), fun hsound => ?_⟩
      simp only [if_pos hchunk] at hsound
      have hone : (s.rxTasks.eraseIdx k).length = 1 := (hsound.running.mp h.running).1
      rw [List.length_eraseIdx_of_lt hk, h.rxTasks] at hone
      exact absurd hone (by decide)
    · have hharmless : HarmlessStep s (.rx k o) := by
        intro t' ht' hno
        obtain rfl : t = t' := Option.some.inj (ht.symm.trans ht')
        by_contra hno'
        exact hchunk ⟨hno, hno'⟩
      have hset : Up { s with rxTasks := s.rxTasks.set k { t with chunk := true } } :=
        ⟨h.running, List.length_set.trans h.rxTasks, h.txTasks, h.driver, h.txQueue, h.parser⟩
      refine .inr ⟨hharmless, ?_⟩
      simp only [hchunk, if_false]
      rw [if_neg (not_not.mpr h.running)]
      exact hset.feed o.bytes

/-- A turn of the TX task, while the link is up. -/
theorem Up.tx (h : Up s) (k : ℕ) : Up (txTaskStep s k) := by
  cases ht : s.txTasks[k]? with
  | none =>
    rw [txTaskStep_of_none ht]
    exact h
  | some t =>
    rw [txTaskStep, ht]
    simp only [h.running, not_true_eq_false, if_false]
    exact h.withSender _

/-- An RX task that finds `running` cleared exits, with a chunk or without. -/
theorem rxTaskStep_stopped (h : s.running = false) {t : RxTask} {rest : List RxTask}
    (ht : s.rxTasks = t :: rest) (o : RxOutcome) :
    rxTaskStep maxPayload s 0 o = { s with rxTasks := rest } := by
  rw [rxTaskStep, ht]
  simp [h]

/-- A TX task that finds `running` cleared drains the queue and exits. -/
theorem txTaskStep_stopped (h : s.running = false) {t : ℕ} {rest : List ℕ}
    (ht : s.txTasks = t :: rest) :
    txTaskStep s 0 = { s with txTasks := rest, txQueue := s.txQueue.map fun _ => [] } := by
  rw [txTaskStep, ht]
  simp [h]

theorem iterate_rxTaskStep (h : s.running = false) (o : RxOutcome) :
    (fun s => rxTaskStep maxPayload s 0 o)^[s.rxTasks.length] s = { s with rxTasks := [] } := by
  generalize hn : s.rxTasks = tasks
  induction tasks generalizing s with
  | nil =>
    show s = { s with rxTasks := [] }
    rw [← hn]
  | cons t rest ih =>
    rw [List.length_cons, Function.iterate_succ_apply, rxTaskStep_stopped h hn]
    exact @ih { s with rxTasks := rest } h rfl

theorem iterate_txTaskStep (h : s.running = false) :
    ∃ queue, (fun s => txTaskStep s 0)^[s.txTasks.length] s =
      { s with txTasks := [], txQueue := queue } := by
  generalize hn : s.txTasks = tasks
  induction tasks generalizing s with
  | nil =>
    refine ⟨s.txQueue, ?_⟩
    show s = { s with txTasks := [] }
    rw [← hn]
  | cons t rest ih =>
    obtain ⟨queue, hqueue⟩ := @ih { s with
      txTasks := rest, txQueue := s.txQueue.map fun _ => [] } h rfl
    refine ⟨queue, ?_⟩
    rw [List.length_cons, Function.iterate_succ_apply, txTaskStep_stopped h hn]
    exact hqueue

/-- **The wait ends with no task.**  All tasks find `running` cleared. -/
theorem awaitTasks_spec (h : s.running = false) :
    (awaitTasks maxPayload s).running = false ∧ (awaitTasks maxPayload s).rxTasks = [] ∧
      (awaitTasks maxPayload s).txTasks = [] := by
  rw [awaitTasks, iterate_rxTaskStep h]
  obtain ⟨queue, hqueue⟩ := @iterate_txTaskStep { s with rxTasks := [] } h
  rw [hqueue]
  exact ⟨h, rfl, rfl⟩

theorem Up.stop (h : Up s) : Down (al1LinkStop maxPayload s) := by
  rw [al1LinkStop, if_neg (not_not.mpr h.running)]
  obtain ⟨hrunning, hrx, htx⟩ := @awaitTasks_spec { s with running := false } maxPayload rfl
  exact ⟨hrunning, hrx, htx⟩

end Tasks

/-! ## Runs -/

section Runs

variable {s : SLink} {maxPayload : ℕ}

/-- A step that is no start need only be sound. -/
theorem tidy_of_sound {e : LifecycleStep} (he : ∀ cfg o, e ≠ .start cfg o)
    (h : Sound (lifecycleNext maxPayload s e)) : Tidy maxPayload s e :=
  ⟨h, fun cfg o heq => absurd heq (he cfg o)⟩

/-- **One step of a link that is down.** -/
theorem Down.step (h : Down s) (e : LifecycleStep) :
    (¬ HarmlessStep s e ∧ ¬ Tidy maxPayload s e) ∨
      (HarmlessStep s e ∧ Tidy maxPayload s e ∧ Settled (lifecycleNext maxPayload s e)) := by
  have hno : ¬ s.running := by rw [h.running]; exact Bool.false_ne_true
  -- all but a start leaves it down
  have hdown : ∀ e, (∀ cfg o, e ≠ .start cfg o) → HarmlessStep s e →
      Down (lifecycleNext maxPayload s e) →
      HarmlessStep s e ∧ Tidy maxPayload s e ∧ Settled (lifecycleNext maxPayload s e) :=
    fun e he hharmless hd => ⟨hharmless, tidy_of_sound he hd.sound, .inl hd⟩
  cases e with
  | start cfg o =>
    rcases h.start cfg o with ⟨hstrands, herr, hleft⟩ | ⟨hnot, hok, hup⟩ | ⟨hnot, herr, hd, hleft⟩
    · refine .inl ⟨fun hharmless => hharmless hno hstrands, fun htidy => hleft ?_⟩
      have hsub := (htidy.2 cfg o rfl herr).rxTasks
      rw [h.rxTasks] at hsub
      exact List.sublist_nil.mp hsub
    · refine .inr ⟨fun _ => hnot, ⟨hup.sound, ?_⟩, .inr hup⟩
      rintro cfg' o' ⟨⟩ herr
      exact absurd hok herr
    · refine .inr ⟨fun _ => hnot, ⟨hd.sound, ?_⟩, .inl hd⟩
      rintro cfg' o' ⟨⟩ -
      exact hleft
  | stop =>
    refine .inr (hdown _ (by simp) trivial ?_)
    rw [lifecycleNext, al1LinkStop, if_pos hno]
    exact h
  | rx k o =>
    have hnone : s.rxTasks[k]? = none := by rw [h.rxTasks]; rfl
    refine .inr (hdown _ (by simp) (fun t ht => absurd (hnone ▸ ht) (by simp)) ?_)
    rw [lifecycleNext, rxTaskStep_of_none hnone]
    exact h
  | tx k =>
    have hnone : s.txTasks[k]? = none := by rw [h.txTasks]; rfl
    refine .inr (hdown _ (by simp) trivial ?_)
    rw [lifecycleNext, txTaskStep_of_none hnone]
    exact h
  | send c => exact .inr (hdown _ (by simp) trivial ⟨h.running, h.rxTasks, h.txTasks⟩)

/-- **One step of a link that is up.** -/
theorem Up.step (h : Up s) (e : LifecycleStep) :
    (¬ HarmlessStep s e ∧ ¬ Tidy maxPayload s e) ∨
      (HarmlessStep s e ∧ Tidy maxPayload s e ∧ Settled (lifecycleNext maxPayload s e)) := by
  cases e with
  | start cfg o =>
    have hstart : al1LinkStart s cfg o = (s, .invalidState) := if_pos h.running
    have hnext : lifecycleNext maxPayload s (.start cfg o) = s := congrArg Prod.fst hstart
    refine .inr ⟨fun hno => absurd h.running hno, ⟨?_, ?_⟩, .inr ?_⟩
    · rw [hnext]
      exact h.sound
    · rintro cfg' o' ⟨⟩ -
      rw [hstart]
      exact .refl s
    · rw [hnext]
      exact h
  | stop =>
    exact .inr ⟨trivial, tidy_of_sound (by simp) h.stop.sound, .inl h.stop⟩
  | rx k o =>
    rcases h.rx k o with ⟨hharm, hbad⟩ | ⟨hharmless, hup⟩
    · exact .inl ⟨hharm, fun htidy => hbad htidy.1⟩
    · exact .inr ⟨hharmless, tidy_of_sound (by simp) hup.sound, .inr hup⟩
  | tx k => exact .inr ⟨trivial, tidy_of_sound (by simp) (h.tx k).sound, .inr (h.tx k)⟩
  | send c =>
    have hup := h.withSender
      (al1LinkSend maxPayload s.sender c.channel c.payload c.len c.outcome).1
    exact .inr ⟨trivial, tidy_of_sound (by simp) hup.sound, .inr hup⟩

/-- **One step.**  The harmless steps are the tidy ones, and they lead on. -/
theorem Settled.step (h : Settled s) (e : LifecycleStep) :
    (¬ HarmlessStep s e ∧ ¬ Tidy maxPayload s e) ∨
      (HarmlessStep s e ∧ Tidy maxPayload s e ∧ Settled (lifecycleNext maxPayload s e)) :=
  h.elim (fun hdown => hdown.step e) fun hup => hup.step e

end Runs

/-- In a run from boot, the link is sound in every state, and no start that fails leaves anything
behind. -/
def NeverStranded (maxPayload : ℕ) (steps : List LifecycleStep) : Prop :=
  Sound linkBoot ∧ Along (lifecycleNext maxPayload) (Tidy maxPayload) linkBoot steps

/-- **Start and stop.**  A run never leaves a task behind exactly if at each of its steps the TX task
can be created and the RX task can allocate its chunk. -/
theorem neverStranded_iff (maxPayload : ℕ) (steps : List LifecycleStep) :
    NeverStranded maxPayload steps ↔
      Along (lifecycleNext maxPayload) HarmlessStep linkBoot steps := by
  have hrun : Along (lifecycleNext maxPayload) (Tidy maxPayload) linkBoot steps ↔
      Along (lifecycleNext maxPayload) HarmlessStep linkBoot steps := by
    refine Along.iff_of_invariant (R := Settled) ?_ ?_ (.inl down_linkBoot)
    · intro s e h hharmless
      rcases h.step e with ⟨hharm, -⟩ | ⟨-, -, hnext⟩
      · exact absurd hharmless hharm
      · exact hnext
    · intro s e h
      rcases h.step e with ⟨hharm, hbad⟩ | ⟨hharmless, htidy, -⟩
      · exact iff_of_false hbad hharm
      · exact iff_of_true htidy hharmless
  exact ⟨fun h => hrun.mp h.2, fun h => ⟨down_linkBoot.sound, hrun.mpr h⟩⟩

/-- All calls of `al1_link_start` succeed, but the last as given. -/
def startOutcome (txTask : Option ℕ) : StartOutcome :=
  { parser := some capturingParser, txQueue := true, driver := .ok, param := .ok, pin := .ok
    rxTask := some 1, txTask := txTask }

/-- **Tasks that are left behind.**  The TX task cannot be created, the start fails, and the RX task
and its handle stay; the next start succeeds, and two RX tasks read one UART.  And if the RX task
of a successful start finds no chunk, the link runs without it. -/
theorem tasks_stranded :
    (∃ failed retry : LifecycleStep,
      (lifecycleNext al1LinkMaxPayload linkBoot failed).rxTask = some 1 ∧
        ([failed, retry].foldl (lifecycleNext al1LinkMaxPayload) linkBoot).rxTasks.length = 2 ∧
        ¬ NeverStranded al1LinkMaxPayload [failed, retry]) ∧
    ∃ start turn : LifecycleStep,
      ([start, turn].foldl (lifecycleNext al1LinkMaxPayload) linkBoot).running ∧
        ([start, turn].foldl (lifecycleNext al1LinkMaxPayload) linkBoot).rxTasks = [] ∧
        ¬ NeverStranded al1LinkMaxPayload [start, turn] := by
  refine ⟨⟨.start none (startOutcome none), .start none (startOutcome (some 2)), rfl, rfl, ?_⟩,
    .start none (startOutcome (some 2)), .rx 0 ⟨false, []⟩, rfl, rfl, ?_⟩
  · intro h
    exact absurd h.2.2.1.1.rx (by decide)
  · intro h
    exact absurd (h.2.2.1.1.running.mp rfl).1 (by decide)

end Al1Wmod
