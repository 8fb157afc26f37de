import Al1Wmod.Link.Ledger
import Al1Wmod.Stream.Simulation

/-!
# The tasks of the link, interleaved

Everywhere else a task of the link takes its turn, and a call of `al1_link_send` runs to its end,
before anybody else does anything.  FreeRTOS switches whenever it likes.  Here `rx_task`, `tx_task`
and a thread that sends are cut at each access to `s_link` and to the queue, and the counters and
numbers of the sending side are loaded in one step and stored in another.  The three go on in any
order.  A byte is fed in one step: nobody else uses the parser or counts what comes in.

Each of these is written in one place: `tx_seq` and `tx_drops` by the caller, `tx_frames` by
`tx_task` and the rest by `rx_task`.  So what has been loaded is current when it is stored
(`FineLink.Valid`), and the steps simulate the turns (`fine_simulates`).  A turn of `tx_task` may be
taken to happen where it writes to the UART, a call where it returns, and a turn of `rx_task` at
each byte it feeds.  What is under way is undone by `FineLink.settled`: the item that `tx_task` has
taken is put back, a frame that is written is counted, and the number that a call has taken is given
back.

The link runs all the while: starts and stops are cut in `Link.Memory`.  One thread sends, as in
this firmware, where only the NimBLE host task does.
-/

namespace Al1Wmod

open Transducer Machine Simulation

/-! ## Turns, and what they put out -/

/-- What the outside gets from the link. -/
inductive LinkOut where
  /-- `uart_write_bytes`. -/
  | wire (bytes : List UInt8)
  /-- `parser_trampoline`. -/
  | deliver (frame : LinkFrame)
  /-- `al1_link_send` returns. -/
  | result (err : EspErr)
  deriving DecidableEq, Repr

/-- What a turn puts out. -/
def turnOut (maxPayload : ℕ) (s : SLink) : LifecycleStep → List LinkOut
  | .rx k o => if s.reads k o then (s.calls maxPayload o.bytes).map .deliver else []
  | .tx k => if s.writes k then (s.sender.txQueue.take 1).map fun i => .wire i.bytes else []
  | .send c => [.result (al1LinkSend maxPayload s.sender c.channel c.payload c.len c.outcome).2]
  | .start _ _ | .stop => []

/-- A turn. -/
def turn (maxPayload : ℕ) (s : SLink) (e : LifecycleStep) : SLink × List LinkOut :=
  (lifecycleNext maxPayload s e, turnOut maxPayload s e)

/-! ## The steps of a turn -/

/-- Where `tx_task` stands. -/
inductive TxStage where
  | receive
  | write (item : Al1TxItem)
  /-- Before `s_link.stats.tx_frames` is loaded. -/
  | load
  /-- Before it is stored. -/
  | store (txFrames : UInt32)

/-- Where the thread that sends stands.  A call that has got a number keeps it to the end. -/
inductive SendStage where
  | idle
  | enter (c : SendCall)
  /-- Before `s_link.tx_seq[channel]` is loaded. -/
  | loadSeq (c : SendCall) (buf : ℕ → UInt8)
  /-- Before it is stored. -/
  | storeSeq (c : SendCall) (buf : ℕ → UInt8) (seq : UInt8)
  | build (c : SendCall) (buf : ℕ → UInt8) (seq : UInt8)
  | queue (c : SendCall) (item : Al1TxItem) (seq : UInt8)
  /-- Before `s_link.stats.tx_drops` is loaded. -/
  | loadDrops (c : SendCall) (seq : Option UInt8) (err : EspErr)
  /-- Before it is stored. -/
  | storeDrops (c : SendCall) (seq : Option UInt8) (err : EspErr) (txDrops : UInt32)

/-- A link whose tasks are in their loops. -/
structure FineLink where
  link : SLink
  /-- What `rx_task` has read and not fed. -/
  chunk : List UInt8
  tx : TxStage
  send : SendStage

/-- The steps. -/
inductive FineStep where
  /-- `uart_read_bytes` returns these bytes. -/
  | read (bytes : List UInt8)
  /-- `rx_task` feeds the next byte. -/
  | feed
  | tx
  /-- `al1_link_send` is called. -/
  | call (c : SendCall)
  | send

/-- `tx_task`. -/
def FineLink.txNext (f : FineLink) : FineLink × List LinkOut :=
  match f.tx with
  | .receive =>
    match f.link.txQueue.getD [] with
    | [] => (f, [])
    | item :: queue =>
      ({ f with link := { f.link with txQueue := some queue }, tx := .write item }, [])
  | .write item => ({ f with tx := .load }, [.wire item.bytes])
  | .load => ({ f with tx := .store f.link.stats.txFrames }, [])
  | .store n =>
    ({ f with
       link := { f.link with stats := { f.link.stats with txFrames := n + 1 } }
       tx := .receive }, [])

/-- `al1_link_send`. -/
def FineLink.sendNext (maxPayload : ℕ) (f : FineLink) : FineLink × List LinkOut :=
  match f.send with
  | .idle => (f, [])
  | .enter c =>
    if ¬ f.link.running then ({ f with send := .idle }, [.result .invalidState])
    else if maxPayload < c.len.toNat then ({ f with send := .loadDrops c none .invalidSize }, [])
    else
      match c.outcome.block with
      | none => ({ f with send := .loadDrops c none .noMem }, [])
      | some buf => ({ f with send := .loadSeq c buf }, [])
  | .loadSeq c buf => ({ f with send := .storeSeq c buf (f.link.txSeq c.channel) }, [])
  | .storeSeq c buf seq =>
    ({ f with
       link := { f.link with txSeq := Function.update f.link.txSeq c.channel (seq + 1) }
       send := .build c buf seq }, [])
  | .build c buf seq =>
    let r := al1FrameBuild maxPayload (some buf) (al1LinkOverhead + c.len.toNat) c.channel seq
      c.payload c.len
    if r.2 = 0 then ({ f with send := .loadDrops c (some seq) .fail }, [])
    else ({ f with send := .queue c ⟨r.1.getD buf, UInt16.ofNat r.2⟩ seq }, [])
  | .queue c item seq =>
    if c.outcome.room then
      ({ f with
         link := { f.link with txQueue := f.link.txQueue.map (· ++ [item]) }
         send := .idle }, [.result .ok])
    else ({ f with send := .loadDrops c (some seq) .noMem }, [])
  | .loadDrops c seq err => ({ f with send := .storeDrops c seq err f.link.stats.txDrops }, [])
  | .storeDrops _ _ err n =>
    ({ f with
       link := { f.link with stats := { f.link.stats with txDrops := n + 1 } }
       send := .idle }, [.result err])

/-- One step. -/
def fineStep (maxPayload : ℕ) (f : FineLink) : FineStep → FineLink × List LinkOut
  | .read bytes => ({ f with chunk := bytes }, [])
  | .feed =>
    match f.chunk with
    | [] => (f, [])
    | b :: chunk =>
      ({ f with link := f.link.feed maxPayload [b], chunk := chunk },
        (f.link.calls maxPayload [b]).map .deliver)
  | .tx => f.txNext
  | .call c => ({ f with send := .enter c }, [])
  | .send => f.sendNext maxPayload

/-- The call that is under way. -/
def SendStage.calls : SendStage → List SendCall
  | idle => []
  | enter c | loadSeq c _ | storeSeq c _ _ | build c _ _ | queue c _ _ | loadDrops c _ _
  | storeDrops c _ _ _ => [c]

/-- `rx_task` reads when it has fed everything, and the thread makes one call after another. -/
def FineLink.Allowed (f : FineLink) : FineStep → Prop
  | .read _ => f.chunk = []
  | .call _ => f.send.calls.isEmpty
  | .feed | .tx | .send => True

instance FineLink.decidableAllowed (f : FineLink) : ∀ e, Decidable (f.Allowed e)
  | .read _ | .call _ => inferInstanceAs (Decidable (_ = _))
  | .feed | .tx | .send => inferInstanceAs (Decidable True)

/-- Nothing under way. -/
def FineLink.start (s : SLink) : FineLink := ⟨s, [], .receive, .idle⟩

/-! ## Undoing what is under way -/

/-- The queue with the item that has been taken. -/
def TxStage.putBack : TxStage → List Al1TxItem → List Al1TxItem
  | write item, queue => item :: queue
  | _, queue => queue

/-- The frames that have been written and not counted. -/
def TxStage.uncounted : TxStage → UInt32
  | load | store _ => 1
  | _ => 0

/-- The channel and the number of a call that has got one. -/
def SendStage.number : SendStage → Option (UInt8 × UInt8)
  | build c _ seq | queue c _ seq => some (c.channel, seq)
  | loadDrops c seq _ | storeDrops c seq _ _ => seq.map (c.channel, ·)
  | _ => none

/-- The sequence numbers without it. -/
def SendStage.giveBack (g : SendStage) (txSeq : UInt8 → UInt8) : UInt8 → UInt8 :=
  g.number.elim txSeq fun n => Function.update txSeq n.1 n.2

/-- The link when what is under way is undone. -/
def FineLink.settled (f : FineLink) : SLink :=
  { f.link with
    txQueue := f.link.txQueue.map f.tx.putBack
    stats := { f.link.stats with txFrames := f.link.stats.txFrames + f.tx.uncounted }
    txSeq := f.send.giveBack f.link.txSeq }

/-- The turn that a step completes. -/
def FineLink.completes (f : FineLink) : FineStep → List LifecycleStep
  | .feed => (f.chunk.take 1).map fun b => .rx 0 ⟨true, [b]⟩
  | .tx =>
    match f.tx with
    | .write _ => [.tx 0]
    | _ => []
  | .send =>
    match f.send with
    | .enter c => if f.link.running then [] else [.send c]
    | .queue c _ _ => if c.outcome.room then [.send c] else []
    | .storeDrops c _ _ _ => [.send c]
    | _ => []
  | .read _ | .call _ => []

/-! ## What the parser does with the counters -/

section Parser

variable {maxPayload : ℕ}

/-- At each byte the parser counts some outcomes.  Which ones, and what else it does, does not
depend on the counters. -/
theorem al1ParserByte_counts (p : Al1Parser) (b : UInt8) :
    ∃ out : List LinkOutcome, ∀ st : Al1LinkStats,
      al1ParserByte maxPayload { p with stats := some st } b =
        ({ (al1ParserByte maxPayload p b).1 with
            stats := some (out.foldl Al1LinkStats.count st) },
          (al1ParserByte maxPayload p b).2) := by
  cases hs : p.state with
  | sync =>
    refine ⟨[], fun st => ?_⟩
    by_cases hb : b = al1LinkSync <;> simp [al1ParserByte, hs, hb]
  | ver =>
    by_cases hb : b = al1LinkVersion
    · exact ⟨[], fun st => by simp [al1ParserByte, hs, hb]⟩
    · exact ⟨[.verErr], fun st => by simp [al1ParserByte, hs, hb, Al1LinkStats.count]⟩
  | channel | seq | lenHi | crcHi => exact ⟨[], fun st => by simp [al1ParserByte, hs]⟩
  | lenLo =>
    by_cases hM : maxPayload < (p.len ||| b.toUInt16).toNat
    · refine ⟨[.lenErr], fun st => ?_⟩
      simp only [al1ParserByte, hs, hM, if_true, parserResync, Option.map_some]
      rfl
    · refine ⟨[], fun st => ?_⟩
      simp only [al1ParserByte, hs, hM, if_false]
      rfl
  | payload =>
    refine ⟨[], fun st => ?_⟩
    by_cases hlast : p.len ≤ p.idx + 1 <;> simp [al1ParserByte, hs, hlast]
  | crcLo =>
    by_cases hcrc : p.crcRx ||| b.toUInt16 = p.crcCalc
    · exact ⟨[.frame ⟨0, 0, []⟩], fun st => by
        simp [al1ParserByte, hs, hcrc, Al1LinkStats.count]⟩
    · exact ⟨[.crcErr], fun st => by simp [al1ParserByte, hs, hcrc, Al1LinkStats.count]⟩

/-- A byte that `rx_task` feeds, whatever the parser saw of the counters before. -/
theorem feed_byte (p : Al1Parser) (b : UInt8) :
    ∃ (q : Al1Parser) (calls : List LinkFrame) (out : List LinkOutcome), ∀ (s : SLink) st,
      s.parser = some { p with stats := st } →
        s.calls maxPayload [b] = calls ∧
        s.feed maxPayload [b] =
          { s with
            parser := some { q with stats := some (out.foldl Al1LinkStats.count s.stats) }
            stats := out.foldl Al1LinkStats.count s.stats } := by
  obtain ⟨out, hbyte⟩ := @al1ParserByte_counts maxPayload p b
  refine ⟨(al1ParserByte maxPayload p b).1,
    (al1ParserByte maxPayload p b).2.map Al1FrameCall.frame, out, fun s st hp => ?_⟩
  have hfeed : al1ParserFeed maxPayload { p with stats := some s.stats } [b] = _ :=
    (run_singleton _ _ _).trans (hbyte s.stats)
  constructor
  · rw [SLink.calls, hp]
    exact congrArg (fun r => r.2.map Al1FrameCall.frame) hfeed
  · rw [SLink.feed, hp]
    simp only [hfeed]
    rfl

end Parser

/-! ## The steps and the turns -/

/-- A call that has got this number, if any, comes to a drop: whatever the link holds. -/
def SendCall.Drops (maxPayload : ℕ) (c : SendCall) (seq : Option UInt8) (err : EspErr) : Prop :=
  ∀ l : Al1Link, l.running → (∀ n ∈ seq, l.txSeq c.channel = n) →
    al1LinkSend maxPayload l c.channel c.payload c.len c.outcome =
      (Al1Link.drop { l with
        txSeq := seq.elim l.txSeq fun n => Function.update l.txSeq c.channel (n + 1) }, err)

/-- A call that has got this number comes to this item, if the queue has room. -/
def SendCall.Queues (maxPayload : ℕ) (c : SendCall) (seq : UInt8) (item : Al1TxItem) : Prop :=
  c.outcome.room → ∀ l : Al1Link, l.running → l.txSeq c.channel = seq →
    al1LinkSend maxPayload l c.channel c.payload c.len c.outcome =
      ({ l with
         txSeq := Function.update l.txSeq c.channel (seq + 1)
         txQueue := l.txQueue ++ [item] }, .ok)

/-- What is known of a call, where it stands. -/
def SendStage.Known (maxPayload : ℕ) (s : SLink) : SendStage → Prop
  | idle | enter _ => True
  | loadSeq c buf => c.len.toNat ≤ maxPayload ∧ c.outcome.block = some buf
  | storeSeq c buf seq =>
    (c.len.toNat ≤ maxPayload ∧ c.outcome.block = some buf) ∧ s.txSeq c.channel = seq
  | build c buf _ => c.len.toNat ≤ maxPayload ∧ c.outcome.block = some buf
  | queue c item seq =>
    c.Queues maxPayload seq item ∧ (c.outcome.room = false → c.Drops maxPayload (some seq) .noMem)
  | loadDrops c seq err => c.Drops maxPayload seq err
  | storeDrops c seq err n => c.Drops maxPayload seq err ∧ s.stats.txDrops = n

/-- What is true at all times: the tasks are in their loops, a value that has been loaded is
current, and so is a number that has been taken. -/
structure FineLink.Valid (maxPayload : ℕ) (f : FineLink) : Prop where
  running : f.link.running = true
  rxTask : ∃ t, f.link.rxTasks = [⟨t, true⟩]
  txTask : ∃ t, f.link.txTasks = [t]
  txQueue : ∃ queue, f.link.txQueue = some queue
  loaded : ∀ n, f.tx = .store n → f.link.stats.txFrames = n
  taken : ∀ n ∈ f.send.number, f.link.txSeq n.1 = n.2 + 1
  known : f.send.Known maxPayload f.link

/-- The steps have come as far as the turns.  Of the counters that the parser saw when it last
counted, nothing is said. -/
structure FineLink.Reaches (maxPayload : ℕ) (f : FineLink) (s : SLink) : Prop where
  valid : f.Valid maxPayload
  settled : ∃ p st, f.link.parser = some p ∧
    s = { f.settled with parser := some { p with stats := st } }

section Turns

variable {maxPayload : ℕ} {s : SLink}

/-- A turn of an RX task in its loop. -/
theorem turn_rx (hrun : s.running = true) {t : ℕ} (ht : s.rxTasks = [⟨t, true⟩])
    (bytes : List UInt8) :
    turn maxPayload s (.rx 0 ⟨true, bytes⟩) =
      (s.feed maxPayload bytes, (s.calls maxPayload bytes).map .deliver) := by
  have hget : s.rxTasks[0]? = some ⟨t, true⟩ := by rw [ht]; rfl
  have hstep := @rxTaskStep_reads maxPayload s 0 ⟨t, true⟩ ⟨true, bytes⟩ hget (by simp) hrun
  have hset : s.rxTasks.set 0 ⟨t, true⟩ = s.rxTasks := by rw [ht]; rfl
  have hreads : s.reads 0 ⟨true, bytes⟩ = true := by simp [SLink.reads, hrun, hget]
  rw [turn, turnOut, hreads, if_pos rfl, lifecycleNext, hstep]
  simp only [hset]

/-- A turn of the TX task when something is queued. -/
theorem turn_tx (hrun : s.running = true) {t : ℕ} (ht : s.txTasks = [t]) {item : Al1TxItem}
    {queue : List Al1TxItem} (hqueue : s.txQueue = some (item :: queue)) :
    turn maxPayload s (.tx 0) =
      ({ s with
         txQueue := some queue
         stats := { s.stats with txFrames := s.stats.txFrames + 1 } }, [.wire item.bytes]) := by
  have hget : s.txTasks[0]? = some t := by rw [ht]; rfl
  have hsender : s.sender.txQueue = item :: queue := by simp [SLink.sender, hqueue]
  have hwrites : s.writes 0 = true := by simp [SLink.writes, hrun, hget]
  rw [turn, turnOut, hwrites, if_pos rfl, hsender, lifecycleNext, txTaskStep_writes hget hrun,
    txTask_cons hrun hsender, SLink.withSender, hqueue]
  rfl

/-- The sequence numbers with a number given back and taken again. -/
theorem update_back {txSeq : UInt8 → UInt8} {channel seq : UInt8} (h : txSeq channel = seq + 1) :
    Function.update (Function.update txSeq channel seq) channel (seq + 1) = txSeq := by
  rw [Function.update_idem, ← h, Function.update_eq_self]

variable {c : SendCall}

/-- A call without a number that drops the frame. -/
theorem drops_oversized (h : maxPayload < c.len.toNat) : c.Drops maxPayload none .invalidSize := by
  intro l hrun _
  rw [al1LinkSend, if_neg (not_not.mpr hrun), if_pos h]
  rfl

theorem drops_noMem (h : c.len.toNat ≤ maxPayload) (hblock : c.outcome.block = none) :
    c.Drops maxPayload none .noMem := by
  intro l hrun _
  rw [al1LinkSend, if_neg (not_not.mpr hrun), if_neg (Nat.not_lt.mpr h), hblock]
  rfl

theorem putBack_append (tx : TxStage) (queue : List Al1TxItem) (item : Al1TxItem) :
    tx.putBack (queue ++ [item]) = tx.putBack queue ++ [item] := by
  cases tx <;> rfl

/-- Sending to a queue that is there. -/
theorem withSender_sender {queue : List Al1TxItem} (hqueue : s.txQueue = some queue) (l : Al1Link) :
    s.withSender l =
      { s with txQueue := some l.txQueue, stats := l.stats, txSeq := l.txSeq } := by
  rw [SLink.withSender, hqueue]
  rfl

section Built

variable {buf : ℕ → UInt8} (hM : c.len.toNat ≤ maxPayload) (hblock : c.outcome.block = some buf)
  (seq : UInt8)

include hM hblock

/-- The builder refuses the frame. -/
theorem drops_fail (hzero : (al1FrameBuild maxPayload (some buf) (al1LinkOverhead + c.len.toNat)
      c.channel seq c.payload c.len).2 = 0) : c.Drops maxPayload (some seq) .fail := by
  intro l hrun hseq
  have hseq : l.txSeq c.channel = seq := hseq seq rfl
  rw [al1LinkSend, if_neg (not_not.mpr hrun), if_neg (Nat.not_lt.mpr hM), hblock]
  simp only [hseq, hzero, if_true]
  rfl

variable {r : Option (ℕ → UInt8) × ℕ}
  (hr : al1FrameBuild maxPayload (some buf) (al1LinkOverhead + c.len.toNat) c.channel seq
    c.payload c.len = r) (hpos : r.2 ≠ 0)

include hr hpos

/-- The frame is built. -/
theorem queues_built :
    c.Queues maxPayload seq ⟨r.1.getD buf, UInt16.ofNat r.2⟩ := by
  intro hroom l hrun hseq
  rw [al1LinkSend, if_neg (not_not.mpr hrun), if_neg (Nat.not_lt.mpr hM), hblock]
  simp only [hseq, hr, hpos, if_false, hroom, if_true]

/-- The frame is built, and the queue is full. -/
theorem drops_full (hroom : c.outcome.room = false) : c.Drops maxPayload (some seq) .noMem := by
  intro l hrun hseq
  have hseq : l.txSeq c.channel = seq := hseq seq rfl
  rw [al1LinkSend, if_neg (not_not.mpr hrun), if_neg (Nat.not_lt.mpr hM), hblock]
  simp only [hseq, hr, hpos, if_false, hroom]
  rfl

end Built

end Turns

section Steps

variable {maxPayload : ℕ} {f : FineLink} {s : SLink}

theorem FineLink.Reaches.running (h : f.Reaches maxPayload s) : s.running = true := by
  obtain ⟨p, st, -, rfl⟩ := h.settled
  exact h.valid.running

theorem FineLink.Reaches.rxTask (h : f.Reaches maxPayload s) : ∃ t, s.rxTasks = [⟨t, true⟩] := by
  obtain ⟨p, st, -, rfl⟩ := h.settled
  exact h.valid.rxTask

theorem FineLink.Reaches.txTask (h : f.Reaches maxPayload s) : ∃ t, s.txTasks = [t] := by
  obtain ⟨p, st, -, rfl⟩ := h.settled
  exact h.valid.txTask

/-- The queue, with the item that `tx_task` has taken. -/
theorem FineLink.Reaches.txQueue (h : f.Reaches maxPayload s) :
    s.txQueue = f.link.txQueue.map f.tx.putBack := by
  obtain ⟨p, st, -, rfl⟩ := h.settled
  rfl

/-- The counters, less the frame that is not counted. -/
theorem FineLink.Reaches.stats (h : f.Reaches maxPayload s) :
    f.link.stats = { s.stats with txFrames := s.stats.txFrames - f.tx.uncounted } := by
  obtain ⟨p, st, -, rfl⟩ := h.settled
  show f.link.stats = { f.link.stats with
    txFrames := f.link.stats.txFrames + f.tx.uncounted - f.tx.uncounted }
  rw [UInt32.add_sub_cancel]

/-- The other tasks leave the numbers and the drops alone. -/
theorem SendStage.Known.frame {g : SendStage} {s' : SLink} (h : g.Known maxPayload s)
    (hseq : s'.txSeq = s.txSeq) (hdrops : s'.stats.txDrops = s.stats.txDrops) :
    g.Known maxPayload s' := by
  cases g with
  | storeSeq c buf seq => exact ⟨h.1, hseq ▸ h.2⟩
  | storeDrops c seq err n => exact ⟨h.1, hdrops ▸ h.2⟩
  | _ => exact h

/-- A step that completes no turn. -/
theorem FineLink.Reaches.inside (h : f.Reaches maxPayload s) {f' : FineLink}
    (hvalid : f'.Valid maxPayload) (hparser : f'.link.parser = f.link.parser)
    (hsettled : f'.settled = f.settled) : f'.Reaches maxPayload s := by
  obtain ⟨p, st, hp, hs⟩ := h.settled
  exact ⟨hvalid, p, st, hparser.trans hp, by rw [hsettled]; exact hs⟩

/-- `rx_task` feeds a byte. -/
theorem FineLink.Reaches.feed (h : f.Reaches maxPayload s) :
    (fineStep maxPayload f .feed).1.Reaches maxPayload
        (run (turn maxPayload) s (f.completes .feed)).1 ∧
      (fineStep maxPayload f .feed).2 = (run (turn maxPayload) s (f.completes .feed)).2 := by
  obtain ⟨link, chunk, tx, send⟩ := f
  cases chunk with
  | nil => exact ⟨h, rfl⟩
  | cons b chunk =>
    obtain ⟨p, st, hp, rfl⟩ := h.settled
    obtain ⟨t, ht⟩ := h.valid.rxTask
    obtain ⟨q, calls, out, hbyte⟩ := @feed_byte maxPayload p b
    obtain ⟨hcalls, hfeed⟩ := hbyte link p.stats hp
    set s : SLink := { FineLink.settled ⟨link, b :: chunk, tx, send⟩ with
      parser := some { p with stats := st } } with hs
    obtain ⟨hcalls', hfeed'⟩ := hbyte s st rfl
    have hrun : run (turn maxPayload) s [.rx 0 ⟨true, [b]⟩] = _ :=
      (run_singleton _ _ _).trans (turn_rx (s := s) h.valid.running ht [b])
    show FineLink.Reaches maxPayload ⟨link.feed maxPayload [b], chunk, tx, send⟩
        (run (turn maxPayload) s [.rx 0 ⟨true, [b]⟩]).1 ∧
      (link.calls maxPayload [b]).map LinkOut.deliver =
        (run (turn maxPayload) s [.rx 0 ⟨true, [b]⟩]).2
    rw [hrun, hcalls, hcalls', hfeed, hfeed']
    refine ⟨⟨⟨h.valid.running, h.valid.rxTask, h.valid.txTask, h.valid.txQueue, ?_, h.valid.taken,
      h.valid.known.frame rfl (by rw [foldl_count])⟩,
      { q with stats := some (out.foldl Al1LinkStats.count link.stats) },
      some (out.foldl Al1LinkStats.count s.stats), rfl, ?_⟩, rfl⟩
    · intro n hn
      show (out.foldl Al1LinkStats.count link.stats).txFrames = n
      rw [foldl_count]
      exact h.valid.loaded n hn
    · have hstats : out.foldl Al1LinkStats.count s.stats =
          { out.foldl Al1LinkStats.count link.stats with
            txFrames := (out.foldl Al1LinkStats.count link.stats).txFrames + tx.uncounted } := by
        rw [foldl_count, foldl_count]
        rfl
      rw [hstats]
      rfl

/-- `tx_task` takes a step. -/
theorem FineLink.Reaches.tx (h : f.Reaches maxPayload s) :
    f.txNext.1.Reaches maxPayload (run (turn maxPayload) s (f.completes .tx)).1 ∧
      f.txNext.2 = (run (turn maxPayload) s (f.completes .tx)).2 := by
  obtain ⟨link, chunk, tx, send⟩ := f
  obtain ⟨hrun, hrx, ⟨t, ht⟩, ⟨queue, hqueue⟩, hloaded, htaken, hknown⟩ := h.valid
  dsimp only at hrun hrx ht hqueue hloaded htaken hknown
  cases tx with
  | receive =>
    cases queue with
    | nil =>
      have hnext : FineLink.txNext ⟨link, chunk, .receive, send⟩ =
          (⟨link, chunk, .receive, send⟩, []) := by
        rw [FineLink.txNext, hqueue]
        rfl
      rw [hnext]
      exact ⟨h, rfl⟩
    | cons item queue =>
      have hnext : FineLink.txNext ⟨link, chunk, .receive, send⟩ =
          (⟨{ link with txQueue := some queue }, chunk, .write item, send⟩, []) := by
        rw [FineLink.txNext, hqueue]
        rfl
      have hsettled : FineLink.settled ⟨{ link with txQueue := some queue }, chunk, .write item,
          send⟩ = FineLink.settled ⟨link, chunk, .receive, send⟩ := by
        rw [FineLink.settled, FineLink.settled, hqueue]
        rfl
      rw [hnext]
      exact ⟨h.inside ⟨hrun, hrx, ⟨t, ht⟩, ⟨queue, rfl⟩, fun n hn => TxStage.noConfusion hn, htaken,
        hknown.frame rfl rfl⟩ rfl hsettled, rfl⟩
  | write item =>
    obtain ⟨p, st, hp, rfl⟩ := h.settled
    set s : SLink := { FineLink.settled ⟨link, chunk, .write item, send⟩ with
      parser := some { p with stats := st } } with hs
    have hfront : s.txQueue = some (item :: queue) := congrArg (Option.map (item :: ·)) hqueue
    have hturn : run (turn maxPayload) s [.tx 0] = _ :=
      (run_singleton _ _ _).trans (turn_tx (s := s) hrun ht hfront)
    have hsettled : { s with
        txQueue := some queue
        stats := { s.stats with txFrames := s.stats.txFrames + 1 } } =
        { FineLink.settled ⟨link, chunk, .load, send⟩ with
          parser := some { p with stats := st } } := by
      rw [hs, FineLink.settled, FineLink.settled, hqueue]
      simp only [TxStage.uncounted, UInt32.add_zero]
      rfl
    show FineLink.Reaches maxPayload ⟨link, chunk, .load, send⟩
        (run (turn maxPayload) s [.tx 0]).1 ∧
      [.wire item.bytes] = (run (turn maxPayload) s [.tx 0]).2
    rw [hturn]
    exact ⟨⟨⟨hrun, hrx, ⟨t, ht⟩, ⟨queue, hqueue⟩, fun n hn => TxStage.noConfusion hn, htaken,
      hknown⟩, p, st, hp, hsettled⟩, rfl⟩
  | load => 
    exact ⟨h.inside ⟨hrun, hrx, ⟨t, ht⟩, ⟨queue, hqueue⟩, fun n hn => TxStage.store.inj hn, htaken,
      hknown⟩ rfl rfl, rfl⟩
  | store n =>
    have hn : link.stats.txFrames = n := hloaded n rfl
    have hsettled : FineLink.settled ⟨{ link with
        stats := { link.stats with txFrames := n + 1 } }, chunk, .receive, send⟩ =
        FineLink.settled ⟨link, chunk, .store n, send⟩ := by
      rw [FineLink.settled, FineLink.settled, ← hn]
      simp only [TxStage.uncounted, UInt32.add_zero]
      rfl
    exact ⟨h.inside ⟨hrun, hrx, ⟨t, ht⟩, ⟨queue, hqueue⟩, fun n hn => TxStage.noConfusion hn,
      htaken, hknown.frame rfl rfl⟩ rfl hsettled, rfl⟩

/-- A call drops its frame. -/
theorem FineLink.Reaches.drop {link : SLink} {chunk : List UInt8} {tx : TxStage} {c : SendCall}
    {seq : Option UInt8} {err : EspErr} {n : UInt32}
    (h : FineLink.Reaches maxPayload ⟨link, chunk, tx, .storeDrops c seq err n⟩ s) :
    FineLink.Reaches maxPayload
        ⟨{ link with stats := { link.stats with txDrops := n + 1 } }, chunk, tx, .idle⟩
        (turn maxPayload s (.send c)).1 ∧
      [LinkOut.result err] = (turn maxPayload s (.send c)).2 := by
  obtain ⟨hrun, hrx, htx, ⟨queue, hqueue⟩, hloaded, htaken, hdrops, hn⟩ := h.valid
  obtain ⟨p, st, hp, rfl⟩ := h.settled
  dsimp only at hrun hrx htx hqueue hloaded htaken hdrops hn hp
  set s : SLink := { FineLink.settled ⟨link, chunk, tx, .storeDrops c seq err n⟩ with
    parser := some { p with stats := st } } with hs
  have hback : ∀ m ∈ seq, s.txSeq c.channel = m := by
    intro m hm
    obtain rfl : seq = some m := hm
    exact Function.update_self _ _ _
  have hsend : al1LinkSend maxPayload s.sender c.channel c.payload c.len c.outcome = _ :=
    hdrops s.sender hrun hback
  have htxSeq : (seq.elim s.txSeq fun m => Function.update s.txSeq c.channel (m + 1)) =
      link.txSeq := by
    cases seq with
    | none => rfl
    | some m => exact update_back (htaken (c.channel, m) rfl)
  have hqueue' : s.txQueue = some (tx.putBack queue) := congrArg (Option.map tx.putBack) hqueue
  have hnext : (turn maxPayload s (.send c)).1 =
      { FineLink.settled ⟨{ link with stats := { link.stats with txDrops := n + 1 } }, chunk, tx,
          .idle⟩ with
        parser := some { p with stats := st } } := by
    show s.withSender (al1LinkSend maxPayload s.sender c.channel c.payload c.len c.outcome).1 = _
    rw [hsend, withSender_sender hqueue']
    show { s with
        txQueue := some (s.txQueue.getD [])
        stats := { s.stats with txDrops := link.stats.txDrops + 1 }
        txSeq := seq.elim s.txSeq fun m => Function.update s.txSeq c.channel (m + 1) } = _
    rw [htxSeq, hqueue', hn, FineLink.settled, hqueue]
    rfl
  refine ⟨⟨⟨hrun, hrx, htx, ⟨queue, hqueue⟩, hloaded, fun m hm => absurd hm (Option.not_mem_none m),
    trivial⟩, p, st, hp, hnext⟩, ?_⟩
  show [LinkOut.result err] = [.result
    (al1LinkSend maxPayload s.sender c.channel c.payload c.len c.outcome).2]
  rw [hsend]

/-- A call queues its frame. -/
theorem FineLink.Reaches.queue {link : SLink} {chunk : List UInt8} {tx : TxStage} {c : SendCall}
    {item : Al1TxItem} {seq : UInt8} (hroom : c.outcome.room = true)
    (h : FineLink.Reaches maxPayload ⟨link, chunk, tx, .queue c item seq⟩ s) :
    FineLink.Reaches maxPayload
        ⟨{ link with txQueue := link.txQueue.map (· ++ [item]) }, chunk, tx, .idle⟩
        (turn maxPayload s (.send c)).1 ∧
      [LinkOut.result .ok] = (turn maxPayload s (.send c)).2 := by
  obtain ⟨hrun, hrx, htx, ⟨queue, hqueue⟩, hloaded, htaken, hqueues, -⟩ := h.valid
  obtain ⟨p, st, hp, rfl⟩ := h.settled
  dsimp only at hrun hrx htx hqueue hloaded htaken hqueues hp
  set s : SLink := { FineLink.settled ⟨link, chunk, tx, .queue c item seq⟩ with
    parser := some { p with stats := st } } with hs
  have hsend : al1LinkSend maxPayload s.sender c.channel c.payload c.len c.outcome = _ :=
    hqueues hroom s.sender hrun (Function.update_self _ _ _)
  have htxSeq : Function.update s.txSeq c.channel (seq + 1) = link.txSeq :=
    update_back (htaken (c.channel, seq) rfl)
  have hqueue' : s.txQueue = some (tx.putBack queue) := congrArg (Option.map tx.putBack) hqueue
  have hnext : (turn maxPayload s (.send c)).1 =
      { FineLink.settled ⟨{ link with txQueue := link.txQueue.map (· ++ [item]) }, chunk, tx,
          .idle⟩ with
        parser := some { p with stats := st } } := by
    show s.withSender (al1LinkSend maxPayload s.sender c.channel c.payload c.len c.outcome).1 = _
    rw [hsend, withSender_sender hqueue']
    show { s with
        txQueue := some (s.txQueue.getD [] ++ [item])
        txSeq := Function.update s.txSeq c.channel (seq + 1) } = _
    rw [htxSeq, hqueue', FineLink.settled, hqueue]
    show { s with txQueue := some (tx.putBack queue ++ [item]), txSeq := link.txSeq } = _
    rw [← putBack_append]
    rfl
  refine ⟨⟨⟨hrun, hrx, htx, ⟨queue ++ [item], by rw [hqueue]; rfl⟩, hloaded,
    fun m hm => absurd hm (Option.not_mem_none m), trivial⟩, p, st, hp, hnext⟩, ?_⟩
  show [LinkOut.result .ok] = [.result
    (al1LinkSend maxPayload s.sender c.channel c.payload c.len c.outcome).2]
  rw [hsend]

/-- The thread that sends takes a step. -/
theorem FineLink.Reaches.send (h : f.Reaches maxPayload s) :
    (f.sendNext maxPayload).1.Reaches maxPayload (run (turn maxPayload) s (f.completes .send)).1 ∧
      (f.sendNext maxPayload).2 = (run (turn maxPayload) s (f.completes .send)).2 := by
  obtain ⟨link, chunk, tx, send⟩ := f
  obtain ⟨hrun, hrx, htx, ⟨queue, hqueue⟩, hloaded, htaken, hknown⟩ := h.valid
  dsimp only at hrun hrx htx hqueue hloaded htaken hknown
  cases send with
  | idle => exact ⟨h, rfl⟩
  | enter c =>
    have hcompletes : FineLink.completes ⟨link, chunk, tx, .enter c⟩ .send = [] := if_pos hrun
    rw [hcompletes, FineLink.sendNext]
    dsimp only
    rw [if_neg (not_not.mpr hrun)]
    by_cases hM : maxPayload < c.len.toNat
    · rw [if_pos hM]
      exact ⟨h.inside ⟨hrun, hrx, htx, ⟨queue, hqueue⟩, hloaded, htaken, drops_oversized hM⟩
        rfl rfl, rfl⟩
    · rw [if_neg hM]
      cases hblock : c.outcome.block with
      | none =>
        exact ⟨h.inside ⟨hrun, hrx, htx, ⟨queue, hqueue⟩, hloaded, htaken,
          drops_noMem (Nat.not_lt.mp hM) hblock⟩ rfl rfl, rfl⟩
      | some buf =>
        exact ⟨h.inside ⟨hrun, hrx, htx, ⟨queue, hqueue⟩, hloaded, htaken, Nat.not_lt.mp hM, hblock⟩
          rfl rfl, rfl⟩
  | loadSeq c buf =>
    exact ⟨h.inside ⟨hrun, hrx, htx, ⟨queue, hqueue⟩, hloaded, htaken, hknown, rfl⟩ rfl rfl, rfl⟩
  | storeSeq c buf seq =>
    obtain ⟨hbuf, hseq⟩ := hknown
    have hback : Function.update (Function.update link.txSeq c.channel (seq + 1)) c.channel seq =
        link.txSeq := by rw [Function.update_idem, ← hseq, Function.update_eq_self]
    refine ⟨h.inside ⟨hrun, hrx, htx, ⟨queue, hqueue⟩, hloaded, ?_, hbuf⟩ rfl ?_, rfl⟩
    · intro n hn
      obtain rfl : (c.channel, seq) = n := Option.some.inj hn
      exact Function.update_self _ _ _
    · show { FineLink.settled ⟨link, chunk, tx, .storeSeq c buf seq⟩ with
        txSeq :=
          Function.update (Function.update link.txSeq c.channel (seq + 1)) c.channel seq } = _
      rw [hback]
      rfl
  | build c buf seq =>
    obtain ⟨hM, hblock⟩ := hknown
    rw [FineLink.sendNext]
    dsimp only
    generalize hr : al1FrameBuild maxPayload (some buf) (al1LinkOverhead + c.len.toNat) c.channel
      seq c.payload c.len = r
    by_cases hzero : r.2 = 0
    · rw [if_pos hzero]
      exact ⟨h.inside ⟨hrun, hrx, htx, ⟨queue, hqueue⟩, hloaded, htaken,
        drops_fail hM hblock seq (hr ▸ hzero)⟩ rfl rfl, rfl⟩
    · rw [if_neg hzero]
      exact ⟨h.inside ⟨hrun, hrx, htx, ⟨queue, hqueue⟩, hloaded, htaken,
        queues_built hM hblock seq hr hzero, drops_full hM hblock seq hr hzero⟩ rfl rfl, rfl⟩
  | queue c item seq =>
    rw [FineLink.sendNext, FineLink.completes]
    dsimp only
    by_cases hroom : c.outcome.room = true
    · rw [if_pos hroom, if_pos hroom, run_singleton]
      exact h.queue hroom
    · rw [if_neg hroom, if_neg hroom]
      exact ⟨h.inside ⟨hrun, hrx, htx, ⟨queue, hqueue⟩, hloaded, htaken,
        hknown.2 (Bool.eq_false_iff.mpr hroom)⟩ rfl rfl, rfl⟩
  | loadDrops c seq err =>
    exact ⟨h.inside ⟨hrun, hrx, htx, ⟨queue, hqueue⟩, hloaded, htaken, hknown, rfl⟩ rfl rfl, rfl⟩
  | storeDrops c seq err n =>
    rw [FineLink.completes, run_singleton]
    exact h.drop

/-- **The steps simulate the turns.** -/
theorem fine_simulates (maxPayload : ℕ) :
    Simulates (fineStep maxPayload) FineLink.Allowed FineLink.completes (turn maxPayload)
      (FineLink.Reaches maxPayload) Eq where
  nil := rfl
  append := fun h h' => congrArg₂ (· ++ ·) h h'
  step := by
    rintro f s e h hadm
    cases e with
    | read bytes =>
      exact ⟨h.inside ⟨h.valid.running, h.valid.rxTask, h.valid.txTask, h.valid.txQueue,
        h.valid.loaded, h.valid.taken, h.valid.known⟩ rfl rfl, rfl⟩
    | feed => exact h.feed
    | tx => exact h.tx
    | call c =>
      obtain ⟨link, chunk, tx, send⟩ := f
      cases send with
      | idle =>
        exact ⟨h.inside ⟨h.valid.running, h.valid.rxTask, h.valid.txTask, h.valid.txQueue,
          h.valid.loaded, h.valid.taken, trivial⟩ rfl rfl, rfl⟩
      | _ => exact absurd hadm Bool.false_ne_true
    | send => exact h.send

end Steps

end Al1Wmod
