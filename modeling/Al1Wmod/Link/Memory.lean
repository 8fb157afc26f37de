import Al1Wmod.Stream.Heap
import Mathlib.Tactic.Abel

/-!
# The memory of the link

What `al1_link.c` allocates and frees: the parser, the queue, the chunk of `rx_task` and the buffer
of each frame from `al1_link_send` to `tx_task`.  Here the tasks and the calls take the steps
between which FreeRTOS can switch.  A start raises `running`, creates the RX task and creates the TX
task, or gives up; a stop clears `running` and waits.  Either then deletes the queue, sets
`tx_queue` to NULL, frees the parser and sets `parser` to NULL.  One thread makes these two calls,
and any thread may send.  A use or a free of a block that is not allocated is undefined, and so is a
call with a queue that is NULL.  A parser that is NULL is not fed.

Nothing says when the wait is long enough.  `al1_link_stop` waits for 200 ms, twice as long as the
tasks may block on input; a start that gives up does not wait.  If the users of the queue have left
before it is deleted, and those of the parser before it is freed (`Vacated`), no run is undefined,
each block has one owner at all times, and nothing but the chunks of RX tasks outlives a stop
(`memory_safe`).

The memory of the UART driver is not here.  What its calls return is an input, at all times.
-/

namespace Al1Wmod

open Blocks

/-- Where an RX task stands. -/
inductive RxPlace where
  | born
  /-- At the test of `running`. -/
  | test (chunk : ℕ)
  /-- In `uart_read_bytes`, perhaps with the bytes that it is about to return. -/
  | reading (chunk : ℕ)
  /-- In `al1_parser_feed`, with this parser. -/
  | feeding (chunk parser : ℕ)
  deriving DecidableEq, Repr

/-- The chunk it has. -/
def RxPlace.blocks : RxPlace → Multiset ℕ
  | born => 0
  | test chunk | reading chunk | feeding chunk _ => {chunk}

/-- Whether it gets to the parser before it looks at `running` again. -/
def RxPlace.feeds : RxPlace → Bool
  | reading _ | feeding _ _ => true
  | _ => false

/-- Where a TX task stands. -/
inductive TxPlace where
  /-- At the test of `running`. -/
  | test
  /-- Before the call of `xQueueReceive`. -/
  | entering
  /-- In `xQueueReceive`, with this queue. -/
  | receiving (queue : ℕ)
  /-- In `uart_write_bytes`. -/
  | writing (buf : ℕ)
  /-- In the second loop, before the call. -/
  | draining
  /-- In the second loop, after the call. -/
  | discarding (buf : ℕ)
  deriving DecidableEq, Repr

/-- The buffer it has. -/
def TxPlace.blocks : TxPlace → Multiset ℕ
  | writing buf | discarding buf => {buf}
  | _ => 0

/-- Where a call of `al1_link_send` stands. -/
inductive SendPlace where
  /-- After the test of `running`. -/
  | checked
  | holding (buf : ℕ)
  deriving DecidableEq, Repr

/-- The buffer it has. -/
def SendPlace.blocks : SendPlace → Multiset ℕ
  | checked => 0
  | holding buf => {buf}

/-- How far a start or a stop has got. -/
inductive Phase where
  | idle | creatingRx | creatingTx
  /-- A stop waits, or a start gives up: the queue is next. -/
  | stopping
  /-- `tx_queue` dangles. -/
  | queueDeleted
  /-- `tx_queue` is NULL, and the parser is next. -/
  | queueCleared
  /-- `parser` dangles. -/
  | parserFreed
  deriving DecidableEq, Repr

/-- The pointers of `s_link`, the buffers in the queue, the tasks, and the calls of `al1_link_send`
that are under way. -/
structure LinkMemory where
  running : Bool
  phase : Phase
  parser : Option ℕ
  txQueue : Option ℕ
  items : List ℕ
  rxTasks : List RxPlace
  txTasks : List TxPlace
  senders : List SendPlace
  heap : Heap

/-- Boot. -/
def memoryBoot : LinkMemory := ⟨false, .idle, none, none, [], [], [], [], .empty⟩

/-- What `al1_link_start` comes to before the tasks: whether there is memory for the parser and for
the queue, and whether the driver is set up. -/
structure StartFate where
  parser : Bool
  queue : Bool
  driver : Bool
  deriving DecidableEq, Repr

/-- The steps. -/
inductive MemoryStep where
  | start (o : StartFate)
  /-- The RX task is created, or not. -/
  | startRx (created : Bool)
  /-- The TX task is created, or not. -/
  | startTx (created : Bool)
  | stop
  /-- `vQueueDelete`. -/
  | deleteQueue
  | clearQueue
  /-- `free(s_link.parser)`. -/
  | freeParser
  | clearParser
  /-- The RX task in place `k`: whether `malloc` finds a chunk, and whether bytes have come. -/
  | rx (k : ℕ) (chunk bytes : Bool)
  | tx (k : ℕ)
  /-- A call of `al1_link_send`: whether the payload fits. -/
  | send (fits : Bool)
  /-- The call in place `k`: whether `malloc` finds a buffer. -/
  | sendBuf (k : ℕ) (buf : Bool)
  /-- The call in place `k`: whether the frame is built, and whether the queue has room. -/
  | sendEnd (k : ℕ) (built room : Bool)
  deriving DecidableEq, Repr

namespace LinkMemory

/-- `al1_link_start`, before the tasks. -/
def start (m : LinkMemory) (o : StartFate) : LinkMemory :=
  if m.running ∨ m.phase ≠ .idle then m
  else if ¬ o.parser then { m with parser := none }
  else
    let m := { m with heap := m.heap.alloc.1, parser := some m.heap.alloc.2 }
    if ¬ o.queue then { m with txQueue := none, phase := .queueCleared }
    else
      let m := { m with heap := m.heap.alloc.1, txQueue := some m.heap.alloc.2, items := [] }
      if ¬ o.driver then { m with phase := .stopping }
      else { m with running := true, phase := .creatingRx }

/-- `al1_link_start` creates the RX task. -/
def startRx (m : LinkMemory) (created : Bool) : LinkMemory :=
  if m.phase ≠ .creatingRx then m
  else if created then { m with phase := .creatingTx, rxTasks := m.rxTasks ++ [.born] }
  else { m with running := false, phase := .stopping }

/-- `al1_link_start` creates the TX task. -/
def startTx (m : LinkMemory) (created : Bool) : LinkMemory :=
  if m.phase ≠ .creatingTx then m
  else if created then { m with phase := .idle, txTasks := m.txTasks ++ [.test] }
  else { m with running := false, phase := .stopping }

/-- `al1_link_stop`, as far as the wait. -/
def stop (m : LinkMemory) : LinkMemory :=
  if m.running ∧ m.phase = .idle then { m with running := false, phase := .stopping } else m

/-- The end of `al1_link_stop` and the label `fail` of `al1_link_start`: the queue is deleted. -/
def deleteQueue (m : LinkMemory) : Option LinkMemory :=
  if m.phase ≠ .stopping then some m
  else (m.heap.freePtr m.txQueue).map fun h =>
    { m with heap := h, items := [], phase := .queueDeleted }

/-- `tx_queue` is set to NULL. -/
def clearQueue (m : LinkMemory) : LinkMemory :=
  if m.phase ≠ .queueDeleted then m else { m with txQueue := none, phase := .queueCleared }

/-- The parser is freed. -/
def freeParser (m : LinkMemory) : Option LinkMemory :=
  if m.phase ≠ .queueCleared then some m
  else (m.heap.freePtr m.parser).map fun h => { m with heap := h, phase := .parserFreed }

/-- `parser` is set to NULL. -/
def clearParser (m : LinkMemory) : LinkMemory :=
  if m.phase ≠ .parserFreed then m else { m with parser := none, phase := .idle }

/-- `rx_task`. -/
def rx (m : LinkMemory) (k : ℕ) (chunk bytes : Bool) : Option LinkMemory :=
  match m.rxTasks[k]? with
  | none => some m
  | some .born =>
    if chunk then
      some { m with heap := m.heap.alloc.1, rxTasks := m.rxTasks.set k (.test m.heap.alloc.2) }
    else some { m with rxTasks := m.rxTasks.eraseIdx k }
  | some (.test c) =>
    if m.running then some { m with rxTasks := m.rxTasks.set k (.reading c) }
    else (m.heap.free c).map fun h => { m with heap := h, rxTasks := m.rxTasks.eraseIdx k }
  | some (.reading c) =>
    if ¬ bytes then some { m with rxTasks := m.rxTasks.set k (.test c) }
    else
      -- `parser` is loaded, and `al1_parser_feed` returns at once when it is NULL
      match m.parser with
      | none => some { m with rxTasks := m.rxTasks.set k (.test c) }
      | some p => some { m with rxTasks := m.rxTasks.set k (.feeding c p) }
  | some (.feeding c p) =>
    if p ∈ m.heap.live ∧ c ∈ m.heap.live then
      some { m with rxTasks := m.rxTasks.set k (.test c) }
    else none

/-- `tx_task`. -/
def tx (m : LinkMemory) (k : ℕ) : Option LinkMemory :=
  match m.txTasks[k]? with
  | none => some m
  | some .test =>
    some { m with txTasks := m.txTasks.set k (if m.running then .entering else .draining) }
  | some .entering =>
    match m.txQueue with
    | none => none
    | some q =>
      if q ∈ m.heap.live then some { m with txTasks := m.txTasks.set k (.receiving q) } else none
  | some (.receiving q) =>
    if m.txQueue = some q ∧ q ∈ m.heap.live then
      match m.items with
      -- the call has timed out
      | [] => some { m with txTasks := m.txTasks.set k .test }
      | b :: rest => some { m with items := rest, txTasks := m.txTasks.set k (.writing b) }
    else none
  | some (.writing b) =>
    (m.heap.free b).map fun h => { m with heap := h, txTasks := m.txTasks.set k .test }
  | some .draining =>
    match m.txQueue with
    | none => none
    | some q =>
      if q ∈ m.heap.live then
        match m.items with
        | [] => some { m with txTasks := m.txTasks.eraseIdx k }
        | b :: rest => some { m with items := rest, txTasks := m.txTasks.set k (.discarding b) }
      else none
  | some (.discarding b) =>
    (m.heap.free b).map fun h => { m with heap := h, txTasks := m.txTasks.set k .draining }

/-- `al1_link_send`, as far as the test of the length. -/
def send (m : LinkMemory) (fits : Bool) : LinkMemory :=
  if ¬ m.running ∨ ¬ fits then m else { m with senders := m.senders ++ [.checked] }

/-- `al1_link_send` allocates the buffer. -/
def sendBuf (m : LinkMemory) (k : ℕ) (buf : Bool) : LinkMemory :=
  match m.senders[k]? with
  | some .checked =>
    if ¬ buf then { m with senders := m.senders.eraseIdx k }
    else { m with heap := m.heap.alloc.1, senders := m.senders.set k (.holding m.heap.alloc.2) }
  | _ => m

/-- The rest of `al1_link_send`. -/
def sendEnd (m : LinkMemory) (k : ℕ) (built room : Bool) : Option LinkMemory :=
  match m.senders[k]? with
  | none | some .checked => some m
  | some (.holding b) =>
    let next := { m with senders := m.senders.eraseIdx k }
    if ¬ built then (m.heap.free b).map fun h => { next with heap := h }
    else
      match m.txQueue with
      | none => none
      | some q =>
        if ¬ q ∈ m.heap.live then none
        else if room then some { next with items := m.items ++ [b] }
        else (m.heap.free b).map fun h => { next with heap := h }

/-- One step.  `none` is undefined behaviour. -/
def step (m : LinkMemory) : MemoryStep → Option LinkMemory
  | .start o => some (m.start o)
  | .startRx created => some (m.startRx created)
  | .startTx created => some (m.startTx created)
  | .stop => some m.stop
  | .deleteQueue => m.deleteQueue
  | .clearQueue => some m.clearQueue
  | .freeParser => m.freeParser
  | .clearParser => some m.clearParser
  | .rx k chunk bytes => m.rx k chunk bytes
  | .tx k => m.tx k
  | .send fits => some (m.send fits)
  | .sendBuf k buf => some (m.sendBuf k buf)
  | .sendEnd k built room => m.sendEnd k built room

/-- A run. -/
def run (m : LinkMemory) (steps : List MemoryStep) : Option LinkMemory := steps.foldlM step m

/-- `tx_queue`, unless it dangles. -/
def queuePtr (m : LinkMemory) : Option ℕ := if m.phase = .queueDeleted then none else m.txQueue

/-- `parser`, unless it dangles. -/
def parserPtr (m : LinkMemory) : Option ℕ := if m.phase = .parserFreed then none else m.parser

/-- Who owns which block. -/
def owners (m : LinkMemory) : Multiset ℕ :=
  pointee m.queuePtr + (pointee m.parserPtr + (held singleton m.items +
    held RxPlace.blocks m.rxTasks + held TxPlace.blocks m.txTasks +
    held SendPlace.blocks m.senders))

/-- A step that deletes the queue or frees the parser. -/
def TearsDown (m : LinkMemory) : MemoryStep → Prop
  | .deleteQueue => m.phase = .stopping
  | .freeParser => m.phase = .queueCleared
  | _ => False

instance decidableTearsDown (m : LinkMemory) : DecidablePred m.TearsDown
  | .deleteQueue | .freeParser => inferInstanceAs (Decidable (_ = _))
  | .start _ | .startRx _ | .startTx _ | .stop | .clearQueue | .clearParser | .rx .. | .tx _
  | .send _ | .sendBuf .. | .sendEnd .. => inferInstanceAs (Decidable False)

/-- Everybody has left whom a step would concern.  For the queue, there is no TX task, no call of
`al1_link_send` is under way, and nothing is queued; for the parser, no RX task is in
`uart_read_bytes` or in `al1_parser_feed`. -/
def Vacated (m : LinkMemory) : MemoryStep → Prop
  | .deleteQueue => m.txTasks = [] ∧ m.senders = [] ∧ m.items = []
  | .freeParser => ∀ t ∈ m.rxTasks, t.feeds = false
  | _ => True

instance decidableVacated (m : LinkMemory) : DecidablePred m.Vacated
  | .deleteQueue => inferInstanceAs (Decidable (_ ∧ _ ∧ _))
  | .freeParser => inferInstanceAs (Decidable (∀ t ∈ m.rxTasks, t.feeds = false))
  | .start _ | .startRx _ | .startTx _ | .stop | .clearQueue | .clearParser | .rx .. | .tx _
  | .send _ | .sendBuf .. | .sendEnd .. => inferInstanceAs (Decidable True)

/-- Steps at which nothing is taken down before everybody has left. -/
def Patient (m : LinkMemory) : List MemoryStep → Prop
  | [] => True
  | e :: steps => (m.TearsDown e → m.Vacated e) ∧ ∀ m' ∈ m.step e, m'.Patient steps

instance decidablePatient (m : LinkMemory) : DecidablePred m.Patient
  | [] => isTrue trivial
  | e :: steps =>
    haveI : DecidablePred fun m' : LinkMemory => m'.Patient steps :=
      fun m' => decidablePatient m' steps
    inferInstanceAs (Decidable (_ ∧ ∀ m' ∈ m.step e, m'.Patient steps))

/-- Somebody needs the queue. -/
def QueueBusy (m : LinkMemory) : Prop :=
  m.running ∨ m.txTasks ≠ [] ∨ m.senders ≠ [] ∨ m.items ≠ []

/-- Somebody needs the parser. -/
def ParserBusy (m : LinkMemory) : Prop := m.running ∨ ∃ t ∈ m.rxTasks, t.feeds = true

/-- What `running` and the pointers are in this phase. -/
def Settled (m : LinkMemory) : Prop :=
  match m.phase with
  | .idle => m.running = false → m.parser = none ∧ m.txQueue = none
  | .creatingRx | .creatingTx => m.running = true
  | .stopping | .queueDeleted => m.running = false
  | .queueCleared | .parserFreed => m.running = false ∧ m.txQueue = none

/-- What holds at all times. -/
structure Safe (m : LinkMemory) : Prop where
  owns : Owns m.heap m.owners
  queue : m.QueueBusy → m.queuePtr.isSome
  parser : m.ParserBusy → m.parserPtr.isSome
  receiving : ∀ q, .receiving q ∈ m.txTasks → m.txQueue = some q
  feeding : ∀ c p, .feeding c p ∈ m.rxTasks → m.parser = some p
  settled : m.Settled

section Steps

variable {m m' : LinkMemory}

theorem safe_boot : memoryBoot.Safe where
  owns := owns_empty
  queue h := by simp [memoryBoot, QueueBusy] at h
  parser h := by simp [memoryBoot, ParserBusy] at h
  receiving q hq := absurd hq List.not_mem_nil
  feeding c p hp := absurd hp List.not_mem_nil
  settled _ := ⟨rfl, rfl⟩

/-- A step of a task or of a call. -/
theorem Safe.keep (h : m.Safe) (howns : Owns m'.heap m'.owners) (hparser : m'.parser = m.parser)
    (hqueue : m'.txQueue = m.txQueue) (hrun : m'.running = m.running)
    (hphase : m'.phase = m.phase) (hqueueBusy : m'.QueueBusy → m.QueueBusy)
    (hparserBusy : m'.ParserBusy → m.ParserBusy)
    (hreceiving : ∀ q, .receiving q ∈ m'.txTasks → m.txQueue = some q)
    (hfeeding : ∀ c p, .feeding c p ∈ m'.rxTasks → m.parser = some p) : m'.Safe where
  owns := howns
  queue hb := by
    rw [queuePtr, hphase, hqueue]
    exact h.queue (hqueueBusy hb)
  parser hb := by
    rw [parserPtr, hphase, hparser]
    exact h.parser (hparserBusy hb)
  receiving q hq := hqueue.trans (hreceiving q hq)
  feeding c p hp := hparser.trans (hfeeding c p hp)
  settled := by
    rw [Settled, hphase, hrun, hparser, hqueue]
    exact h.settled

/-! ## Who is there -/

/-- The queue of a link that somebody needs is allocated. -/
theorem Safe.queue_live (h : m.Safe) (hb : m.QueueBusy) :
    ∃ q, m.txQueue = some q ∧ q ∈ m.heap.live := by
  obtain ⟨q, hq⟩ := Option.isSome_iff_exists.mp (h.queue hb)
  refine ⟨q, ?_, h.owns.mem_live (by simp [owners, hq, pointee])⟩
  rw [queuePtr] at hq
  split_ifs at hq
  exact hq

/-- And so is the parser. -/
theorem Safe.parser_live (h : m.Safe) (hb : m.ParserBusy) :
    ∃ p, m.parser = some p ∧ p ∈ m.heap.live := by
  obtain ⟨p, hp⟩ := Option.isSome_iff_exists.mp (h.parser hb)
  refine ⟨p, ?_, h.owns.mem_live (by simp [owners, hp, pointee])⟩
  rw [parserPtr] at hp
  split_ifs at hp
  exact hp

/-- The link is down. -/
theorem Safe.down (h : m.Safe) (hphase : m.phase = .idle) (hrun : m.running = false) :
    (m.parser = none ∧ m.txQueue = none) ∧ ¬ m.QueueBusy ∧ ¬ m.ParserBusy := by
  have hsettled := h.settled
  simp only [Settled, hphase] at hsettled
  obtain ⟨hparser, hqueue⟩ := hsettled hrun
  refine ⟨⟨hparser, hqueue⟩, fun hb => ?_, fun hb => ?_⟩
  · obtain ⟨q, hq, -⟩ := h.queue_live hb
    exact Option.some_ne_none _ (hq.symm.trans hqueue)
  · obtain ⟨p, hp, -⟩ := h.parser_live hb
    exact Option.some_ne_none _ (hp.symm.trans hparser)

/-- Nobody needs the queue. -/
theorem not_queueBusy (h : ¬ m.QueueBusy) :
    m.running = false ∧ m.txTasks = [] ∧ m.senders = [] ∧ m.items = [] := by
  simpa [QueueBusy] using h

/-- A start that creates the tasks has raised `running`. -/
theorem Safe.running_of_creating (h : m.Safe)
    (hphase : m.phase = .creatingRx ∨ m.phase = .creatingTx) : m.running = true := by
  have hsettled := h.settled
  rcases hphase with hphase | hphase <;> rwa [Settled, hphase] at hsettled

/-- Before the queue is deleted, `running` is cleared. -/
theorem Safe.not_running_of_stopping (h : m.Safe) (hphase : m.phase = .stopping) :
    m.running = false := by
  have hsettled := h.settled
  rwa [Settled, hphase] at hsettled

/-! ## Starts and stops -/

/-- A start raises `running` or gives up. -/
theorem Safe.start (h : m.Safe) (o : StartFate) : (m.start o).Safe := by
  rw [LinkMemory.start]
  by_cases hup : m.running ∨ m.phase ≠ .idle
  · rw [if_pos hup]
    exact h
  obtain ⟨hrun, hphase⟩ := not_or.mp hup
  have hrun' : m.running = false := Bool.eq_false_iff.mpr hrun
  have hphase' : m.phase = .idle := not_not.mp hphase
  obtain ⟨⟨hparser, hqueue⟩, hnoQueue, hnoParser⟩ := h.down hphase' hrun'
  obtain ⟨-, htx, hsenders, hitems⟩ := not_queueBusy hnoQueue
  have hqueuePtr : m.queuePtr = none := by rw [queuePtr, hqueue, ite_self]
  have hparserPtr : m.parserPtr = none := by rw [parserPtr, hparser, ite_self]
  have hreceiving : ∀ q, .receiving q ∉ m.txTasks := fun q hq =>
    absurd hq (htx ▸ List.not_mem_nil)
  have hfeeding : ∀ c p, .feeding c p ∉ m.rxTasks := fun c p hp => hnoParser (.inr ⟨_, hp, rfl⟩)
  rw [if_neg hup]
  by_cases hp : o.parser = true
  case neg =>
    rw [if_pos hp]
    rw [← hparser]
    exact h
  rw [if_neg (not_not.mpr hp)]
  have hone := h.owns.alloc
  by_cases hq : o.queue = true
  case neg =>
    rw [if_pos hq]
    refine ⟨hone.of_eq ?_, fun hb => absurd hb hnoQueue, fun _ => rfl,
      fun q hq => absurd hq (hreceiving q), fun c p hp => absurd hp (hfeeding c p), hrun', rfl⟩
    simp only [owners, hqueuePtr, hparserPtr]
    simp [queuePtr, parserPtr, pointee]
  rw [if_neg (not_not.mpr hq)]
  have htwo := hone.alloc
  have howns : ∀ phase running, phase ≠ .queueDeleted → phase ≠ .parserFreed →
      Owns m.heap.alloc.1.alloc.1 ({ m with
        heap := m.heap.alloc.1.alloc.1, parser := some m.heap.alloc.2,
        txQueue := some m.heap.alloc.1.alloc.2, items := [], running := running,
        phase := phase } : LinkMemory).owners := by
    intro phase running hdeleted hfreed
    refine htwo.of_eq ?_
    simp only [owners, hqueuePtr, hparserPtr, hitems]
    simp [queuePtr, parserPtr, pointee, hdeleted, hfreed]
  by_cases hd : o.driver = true
  case neg =>
    rw [if_pos hd]
    exact ⟨howns .stopping m.running Phase.noConfusion Phase.noConfusion, fun _ => rfl,
      fun _ => rfl, fun q hq => absurd hq (hreceiving q), fun c p hp => absurd hp (hfeeding c p),
      hrun'⟩
  rw [if_neg (not_not.mpr hd)]
  exact ⟨howns .creatingRx true Phase.noConfusion Phase.noConfusion, fun _ => rfl, fun _ => rfl,
    fun q hq => absurd hq (hreceiving q), fun c p hp => absurd hp (hfeeding c p), rfl⟩

/-- The phase is another one, and both pointers are as they were. -/
theorem Safe.phase (h : m.Safe) {phase : Phase} {running : Bool}
    (hqueue : ({ m with phase := phase, running := running } : LinkMemory).queuePtr = m.queuePtr)
    (hparser : ({ m with phase := phase, running := running } : LinkMemory).parserPtr = m.parserPtr)
    (hrun : running = true → m.running = true)
    (hsettled : ({ m with phase := phase, running := running } : LinkMemory).Settled) :
    ({ m with phase := phase, running := running } : LinkMemory).Safe where
  owns := by
    refine h.owns.of_eq ?_
    simp only [owners, hqueue, hparser]
  queue hb := by
    rw [hqueue]
    exact h.queue (hb.imp_left hrun)
  parser hb := by
    rw [hparser]
    exact h.parser (hb.imp_left hrun)
  receiving := h.receiving
  feeding := h.feeding
  settled := hsettled

/-- A start that gives up and a stop clear `running`. -/
theorem Safe.stopping (h : m.Safe) (hdeleted : m.phase ≠ .queueDeleted)
    (hfreed : m.phase ≠ .parserFreed) :
    ({ m with phase := .stopping, running := false } : LinkMemory).Safe := by
  refine h.phase ?_ ?_ (fun hrun => Bool.noConfusion hrun) rfl
  · rw [queuePtr, queuePtr, if_neg Phase.noConfusion, if_neg hdeleted]
  · rw [parserPtr, parserPtr, if_neg Phase.noConfusion, if_neg hfreed]

theorem Safe.startRx (h : m.Safe) (created : Bool) : (m.startRx created).Safe := by
  rw [LinkMemory.startRx]
  by_cases hphase : m.phase = .creatingRx
  case neg =>
    rw [if_pos hphase]
    exact h
  rw [if_neg (not_not.mpr hphase)]
  have hdeleted : m.phase ≠ .queueDeleted := hphase ▸ Phase.noConfusion
  have hfreed : m.phase ≠ .parserFreed := hphase ▸ Phase.noConfusion
  have hrun := h.running_of_creating (.inl hphase)
  cases created with
  | false => exact h.stopping hdeleted hfreed
  | true =>
    have hborn : ∀ t, t ∈ m.rxTasks ++ [.born] → t.feeds = true → t ∈ m.rxTasks := by
      intro t ht hfeeds
      refine (List.mem_append.mp ht).resolve_right fun hnew => ?_
      rw [List.mem_singleton.mp hnew] at hfeeds
      exact Bool.noConfusion hfeeds
    have hnext : ({ m with rxTasks := m.rxTasks ++ [.born] } : LinkMemory).Safe := by
      refine h.keep (h.owns.of_eq ?_) rfl rfl rfl rfl id ?_ h.receiving fun c p hp =>
        h.feeding c p (hborn _ hp rfl)
      · simp only [owners, queuePtr, parserPtr, held_concat, RxPlace.blocks, add_zero]
      · exact Or.imp_right fun ⟨t, ht, hfeeds⟩ => ⟨t, hborn t ht hfeeds, hfeeds⟩
    refine hnext.phase ?_ ?_ id hrun
    · rw [queuePtr, queuePtr, if_neg Phase.noConfusion, if_neg hdeleted]
    · rw [parserPtr, parserPtr, if_neg Phase.noConfusion, if_neg hfreed]

theorem Safe.startTx (h : m.Safe) (created : Bool) : (m.startTx created).Safe := by
  rw [LinkMemory.startTx]
  by_cases hphase : m.phase = .creatingTx
  case neg =>
    rw [if_pos hphase]
    exact h
  rw [if_neg (not_not.mpr hphase)]
  have hdeleted : m.phase ≠ .queueDeleted := hphase ▸ Phase.noConfusion
  have hfreed : m.phase ≠ .parserFreed := hphase ▸ Phase.noConfusion
  have hrun := h.running_of_creating (.inr hphase)
  cases created with
  | false => exact h.stopping hdeleted hfreed
  | true =>
    have hnext : ({ m with txTasks := m.txTasks ++ [.test] } : LinkMemory).Safe := by
      refine h.keep (h.owns.of_eq ?_) rfl rfl rfl rfl (fun _ => .inl hrun) id (fun q hq => ?_)
        h.feeding
      · simp only [owners, queuePtr, parserPtr, held_concat, TxPlace.blocks, add_zero]
      · have hq' : TxPlace.receiving q ∈ m.txTasks ++ [.test] := hq
        exact h.receiving q (by simpa using hq')
    refine hnext.phase ?_ ?_ id fun hoff => absurd (hrun.symm.trans hoff) Bool.noConfusion
    · rw [queuePtr, queuePtr, if_neg Phase.noConfusion, if_neg hdeleted]
    · rw [parserPtr, parserPtr, if_neg Phase.noConfusion, if_neg hfreed]

theorem Safe.stop (h : m.Safe) : m.stop.Safe := by
  rw [LinkMemory.stop]
  split_ifs with hup
  · exact h.stopping (hup.2 ▸ Phase.noConfusion) (hup.2 ▸ Phase.noConfusion)
  · exact h

/-! ## Taking down -/

/-- The queue can be deleted, and nobody owns the buffers that were queued. -/
theorem Safe.deleteQueue_spec (h : m.Safe) (hphase : m.phase = .stopping) :
    ∃ heap, m.deleteQueue = some { m with heap := heap, items := [], phase := .queueDeleted } ∧
      Owns heap (held singleton m.items +
        ({ m with heap := heap, items := [], phase := .queueDeleted } : LinkMemory).owners) := by
  have howns : Owns m.heap (pointee m.txQueue + (held singleton m.items +
      ({ m with items := [], phase := .queueDeleted } : LinkMemory).owners)) := by
    refine h.owns.of_eq ?_
    simp only [owners, queuePtr, parserPtr, hphase, pointee, held_nil, reduceCtorEq, if_true,
      if_false]
    abel
  obtain ⟨heap, hfree, howns'⟩ := howns.freePtr
  refine ⟨heap, ?_, howns'⟩
  rw [LinkMemory.deleteQueue, if_neg (not_not.mpr hphase), hfree]
  rfl

theorem Safe.deleteQueue (h : m.Safe) (hv : m.TearsDown .deleteQueue → m.Vacated .deleteQueue) :
    ∃ m', m.deleteQueue = some m' ∧ m'.Safe := by
  by_cases hphase : m.phase = .stopping
  case neg => exact ⟨m, if_pos hphase, h⟩
  obtain ⟨htx, hsenders, hitems⟩ := hv hphase
  obtain ⟨heap, hstep, howns⟩ := h.deleteQueue_spec hphase
  rw [hitems, held_nil, zero_add] at howns
  have hrun := h.not_running_of_stopping hphase
  refine ⟨_, hstep, howns, fun hb => ?_, fun hb => ?_, h.receiving, h.feeding, hrun⟩
  · rcases hb with hb | hb | hb | hb
    · exact absurd (hrun.symm.trans hb) Bool.noConfusion
    · exact absurd htx hb
    · exact absurd hsenders hb
    · exact absurd rfl hb
  · have hparser := h.parser hb
    rwa [parserPtr, if_neg (hphase ▸ Phase.noConfusion)] at hparser

theorem Safe.clearQueue (h : m.Safe) : m.clearQueue.Safe := by
  rw [LinkMemory.clearQueue]
  by_cases hphase : m.phase = .queueDeleted
  case neg =>
    rw [if_pos hphase]
    exact h
  rw [if_neg (not_not.mpr hphase)]
  have hqueue : m.queuePtr = none := if_pos hphase
  have hidle : ¬ m.QueueBusy := fun hb => by
    have hsome := h.queue hb
    rw [hqueue] at hsome
    exact Bool.noConfusion hsome
  obtain ⟨hrun, htx, -⟩ := not_queueBusy hidle
  refine ⟨h.owns.of_eq ?_, fun hb => absurd hb hidle, fun hb => ?_, fun q hq => ?_, h.feeding,
    hrun, rfl⟩
  · simp only [owners, queuePtr, parserPtr, hphase, reduceCtorEq, if_true, if_false]
  · have hparser := h.parser hb
    rwa [parserPtr, if_neg (hphase ▸ Phase.noConfusion)] at hparser
  · exact absurd hq (htx ▸ List.not_mem_nil)

/-- The parser can be freed. -/
theorem Safe.freeParser_spec (h : m.Safe) (hphase : m.phase = .queueCleared) :
    ∃ heap, m.freeParser = some { m with heap := heap, phase := .parserFreed } ∧
      Owns heap ({ m with heap := heap, phase := .parserFreed } : LinkMemory).owners ∧
      ∀ p, m.parser = some p → p ∉ heap.live := by
  have howns : Owns m.heap (pointee m.parser +
      ({ m with phase := .parserFreed } : LinkMemory).owners) := by
    refine h.owns.of_eq ?_
    simp only [owners, queuePtr, parserPtr, hphase, pointee, reduceCtorEq, if_true, if_false]
    abel
  obtain ⟨heap, hfree, howns'⟩ := howns.freePtr
  refine ⟨heap, ?_, howns', fun p hp => ?_⟩
  · rw [LinkMemory.freeParser, if_neg (not_not.mpr hphase), hfree]
    rfl
  · rw [hp] at hfree
    exact Heap.notMem_of_free hfree

theorem Safe.freeParser (h : m.Safe) (hv : m.TearsDown .freeParser → m.Vacated .freeParser) :
    ∃ m', m.freeParser = some m' ∧ m'.Safe := by
  by_cases hphase : m.phase = .queueCleared
  case neg => exact ⟨m, if_pos hphase, h⟩
  have hgone : ∀ t ∈ m.rxTasks, t.feeds = false := hv hphase
  obtain ⟨heap, hstep, howns, -⟩ := h.freeParser_spec hphase
  have hsettled := h.settled
  rw [Settled, hphase] at hsettled
  refine ⟨_, hstep, howns, fun hb => ?_, fun hb => ?_, h.receiving, fun c p hp => ?_, hsettled⟩
  · have hqueue := h.queue hb
    rwa [queuePtr, if_neg (hphase ▸ Phase.noConfusion)] at hqueue
  · rcases hb with hb | ⟨t, ht, hfeeds⟩
    · exact absurd (hsettled.1.symm.trans hb) Bool.noConfusion
    · exact absurd ((hgone t ht).symm.trans hfeeds) Bool.noConfusion
  · exact absurd (hgone _ hp) Bool.noConfusion

theorem Safe.clearParser (h : m.Safe) : m.clearParser.Safe := by
  rw [LinkMemory.clearParser]
  by_cases hphase : m.phase = .parserFreed
  case neg =>
    rw [if_pos hphase]
    exact h
  rw [if_neg (not_not.mpr hphase)]
  have hidle : ¬ m.ParserBusy := fun hb => by
    have hsome := h.parser hb
    rw [parserPtr, if_pos hphase] at hsome
    exact Bool.noConfusion hsome
  have hsettled := h.settled
  rw [Settled, hphase] at hsettled
  refine ⟨h.owns.of_eq ?_, fun hb => ?_, fun hb => absurd hb hidle, h.receiving,
    fun c p hp => absurd (.inr ⟨_, hp, rfl⟩) hidle, fun _ => ⟨rfl, hsettled.2⟩⟩
  · simp only [owners, queuePtr, parserPtr, hphase, reduceCtorEq, if_true, if_false]
  · have hqueue := h.queue hb
    rwa [queuePtr, if_neg (hphase ▸ Phase.noConfusion)] at hqueue

/-! ## Tasks and calls -/

/-- An RX task does something. -/
theorem Safe.rxKeep (h : m.Safe) {heap : Heap} {rxTasks : List RxPlace}
    (howns : Owns heap ({ m with heap := heap, rxTasks := rxTasks } : LinkMemory).owners)
    (hfeeds : ∀ t ∈ rxTasks, t.feeds = true → m.ParserBusy)
    (hfeeding : ∀ c p, .feeding c p ∈ rxTasks → m.parser = some p) :
    ({ m with heap := heap, rxTasks := rxTasks } : LinkMemory).Safe := by
  refine h.keep howns rfl rfl rfl rfl id ?_ h.receiving hfeeding
  rintro (hrun | ⟨t, ht, hf⟩)
  · exact .inl hrun
  · exact hfeeds t ht hf

/-- An RX task goes to another place. -/
theorem Safe.rxSet (h : m.Safe) {heap : Heap} {k : ℕ} {x : RxPlace}
    (howns : Owns heap
      ({ m with heap := heap, rxTasks := m.rxTasks.set k x } : LinkMemory).owners)
    (hfeeds : x.feeds = true → m.ParserBusy)
    (hfeeding : ∀ c p, x = .feeding c p → m.parser = some p) :
    ({ m with heap := heap, rxTasks := m.rxTasks.set k x } : LinkMemory).Safe := by
  refine h.rxKeep howns (fun y hy hf => ?_) fun c p hp => ?_
  · rcases List.mem_or_eq_of_mem_set hy with hy | rfl
    · exact .inr ⟨y, hy, hf⟩
    · exact hfeeds hf
  · rcases List.mem_or_eq_of_mem_set hp with hp | hp
    · exact h.feeding c p hp
    · exact hfeeding c p hp.symm

/-- An RX task exits. -/
theorem Safe.rxExit (h : m.Safe) {heap : Heap} {k : ℕ}
    (howns : Owns heap
      ({ m with heap := heap, rxTasks := m.rxTasks.eraseIdx k } : LinkMemory).owners) :
    ({ m with heap := heap, rxTasks := m.rxTasks.eraseIdx k } : LinkMemory).Safe :=
  h.rxKeep howns (fun y hy hf => .inr ⟨y, List.mem_of_mem_eraseIdx hy, hf⟩)
    fun c p hp => h.feeding c p (List.mem_of_mem_eraseIdx hp)

/-- An RX task keeps its chunk. -/
theorem Safe.rxOwns (h : m.Safe) {k : ℕ} {t x : RxPlace} (ht : m.rxTasks[k]? = some t)
    (hx : x.blocks = t.blocks) :
    Owns m.heap ({ m with rxTasks := m.rxTasks.set k x } : LinkMemory).owners := by
  refine h.owns.of_eq ?_
  simp only [owners, queuePtr, parserPtr, held_at (f := RxPlace.blocks) ht, held_set ht, hx]

/-- An RX task goes back to the test of `running` with its chunk. -/
theorem Safe.rxTest (h : m.Safe) {k c : ℕ} {t : RxPlace} (ht : m.rxTasks[k]? = some t)
    (hc : t.blocks = {c}) :
    ({ m with rxTasks := m.rxTasks.set k (.test c) } : LinkMemory).Safe :=
  h.rxSet (h.rxOwns ht hc.symm) Bool.noConfusion fun _ _ => RxPlace.noConfusion

theorem Safe.rx (h : m.Safe) (k : ℕ) (chunk bytes : Bool) :
    ∃ m', m.rx k chunk bytes = some m' ∧ m'.Safe := by
  rw [LinkMemory.rx]
  cases ht : m.rxTasks[k]? with
  | none => exact ⟨m, rfl, h⟩
  | some t =>
    have hat := held_at (f := RxPlace.blocks) ht
    have hmem : t ∈ m.rxTasks := List.mem_of_getElem? ht
    cases t with
    | born =>
      cases chunk with
      | false =>
        refine ⟨_, rfl, h.rxExit (h.owns.of_eq ?_)⟩
        simp only [owners, queuePtr, parserPtr, hat, RxPlace.blocks, zero_add]
      | true =>
        refine ⟨_, rfl, h.rxSet (h.owns.alloc.of_eq ?_) Bool.noConfusion fun c p =>
          RxPlace.noConfusion⟩
        simp only [owners, queuePtr, parserPtr, hat, held_set ht, RxPlace.blocks, zero_add]
        abel
    | test c =>
      by_cases hrun : m.running = true
      · simp only [if_pos hrun]
        exact ⟨_, rfl, h.rxSet (h.rxOwns ht rfl) (fun _ => .inl hrun) fun c p =>
          RxPlace.noConfusion⟩
      · have heq : m.owners =
            {c} + ({ m with rxTasks := m.rxTasks.eraseIdx k } : LinkMemory).owners := by
          simp only [owners, queuePtr, parserPtr, hat, RxPlace.blocks]
          abel
        obtain ⟨h', hfree, howns⟩ := (h.owns.of_eq heq).free
        simp only [if_neg hrun, hfree]
        exact ⟨_, rfl, h.rxExit howns⟩
    | reading c =>
      cases bytes with
      | false => exact ⟨_, rfl, h.rxTest ht rfl⟩
      | true =>
        have hb : m.ParserBusy := .inr ⟨_, hmem, rfl⟩
        obtain ⟨p, hp, -⟩ := h.parser_live hb
        simp only [not_true_eq_false, if_false, hp]
        refine ⟨_, rfl, ?_⟩
        rw [← hp]
        exact h.rxSet (h.rxOwns ht rfl) (fun _ => hb) fun c' p' heq =>
          (RxPlace.feeding.inj heq).2 ▸ hp
    | feeding c p =>
      obtain ⟨p', hp', hlive⟩ := h.parser_live (.inr ⟨_, hmem, rfl⟩)
      obtain rfl : p' = p := Option.some.inj (hp'.symm.trans (h.feeding c p hmem))
      have hchunk : c ∈ m.heap.live :=
        h.owns.mem_live (by simp [owners, hat, RxPlace.blocks])
      simp only [if_pos (And.intro hlive hchunk)]
      exact ⟨_, rfl, h.rxTest ht rfl⟩

/-- A TX task does something. -/
theorem Safe.txKeep (h : m.Safe) (hne : m.txTasks ≠ []) {heap : Heap} {items : List ℕ}
    {txTasks : List TxPlace}
    (howns : Owns heap
      ({ m with heap := heap, items := items, txTasks := txTasks } : LinkMemory).owners)
    (hreceiving : ∀ q, .receiving q ∈ txTasks → m.txQueue = some q) :
    ({ m with heap := heap, items := items, txTasks := txTasks } : LinkMemory).Safe :=
  h.keep howns rfl rfl rfl rfl (fun _ => .inr (.inl hne)) id hreceiving h.feeding

/-- A task that goes to another place than `xQueueReceive` leaves the others there. -/
theorem Safe.receiving_set (h : m.Safe) {k q : ℕ} {x : TxPlace}
    (hq : .receiving q ∈ m.txTasks.set k x) (hx : .receiving q ≠ x) : m.txQueue = some q :=
  h.receiving q ((List.mem_or_eq_of_mem_set hq).resolve_right hx)

/-- A TX task frees its buffer. -/
theorem Safe.txFree (h : m.Safe) {k b : ℕ} {t x : TxPlace} (ht : m.txTasks[k]? = some t)
    (hb : t.blocks = {b}) (hx : x.blocks = 0) (hne : ∀ q, .receiving q ≠ x) :
    ∃ h', m.heap.free b = some h' ∧
      ({ m with heap := h', txTasks := m.txTasks.set k x } : LinkMemory).Safe := by
  have heq : m.owners =
      {b} + ({ m with txTasks := m.txTasks.set k x } : LinkMemory).owners := by
    simp only [owners, queuePtr, parserPtr, held_at (f := TxPlace.blocks) ht, held_set ht, hb, hx,
      zero_add]
    abel
  obtain ⟨h', hfree, howns⟩ := (h.owns.of_eq heq).free
  exact ⟨h', hfree, h.txKeep (List.ne_nil_of_mem (List.mem_of_getElem? ht)) howns fun q hq =>
    h.receiving_set hq (hne q)⟩

theorem Safe.tx (h : m.Safe) (k : ℕ) : ∃ m', m.tx k = some m' ∧ m'.Safe := by
  rw [LinkMemory.tx]
  cases ht : m.txTasks[k]? with
  | none => exact ⟨m, rfl, h⟩
  | some t =>
    have hat := held_at (f := TxPlace.blocks) ht
    have hne : m.txTasks ≠ [] := List.ne_nil_of_mem (List.mem_of_getElem? ht)
    obtain ⟨q, hq, hlive⟩ := h.queue_live (.inr (.inl hne))
    cases t with
    | test =>
      refine ⟨_, rfl, h.txKeep hne (h.owns.of_eq ?_) fun r hr => h.receiving_set hr ?_⟩
      · simp only [owners, queuePtr, parserPtr, hat, held_set ht]
        split_ifs <;> rfl
      · split_ifs <;> exact TxPlace.noConfusion
    | entering =>
      simp only [hq, if_pos hlive]
      refine ⟨_, rfl, ?_⟩
      rw [← hq]
      refine h.txKeep hne (h.owns.of_eq ?_) fun r hr => ?_
      · simp only [owners, queuePtr, parserPtr, hat, held_set ht, TxPlace.blocks]
      · rcases List.mem_or_eq_of_mem_set hr with hr | hr
        · exact h.receiving r hr
        · rw [TxPlace.receiving.inj hr, hq]
    | receiving r =>
      have hr := h.receiving r (List.mem_of_getElem? ht)
      have hlive' : r ∈ m.heap.live := Option.some.inj (hq.symm.trans hr) ▸ hlive
      simp only [if_pos (And.intro hr hlive')]
      cases hitems : m.items with
      | nil =>
        refine ⟨_, rfl, ?_⟩
        rw [← hitems]
        refine h.txKeep hne (h.owns.of_eq ?_) fun r hr => h.receiving_set hr TxPlace.noConfusion
        simp only [owners, queuePtr, parserPtr, hat, held_set ht, TxPlace.blocks]
      | cons b rest =>
        refine ⟨_, rfl, h.txKeep hne (h.owns.of_eq ?_) fun r hr =>
          h.receiving_set hr TxPlace.noConfusion⟩
        simp only [owners, queuePtr, parserPtr, hat, held_set ht, TxPlace.blocks, hitems, held_cons]
        abel
    | writing b =>
      obtain ⟨h', hfree, hsafe⟩ := h.txFree (x := .test) ht rfl rfl fun r => TxPlace.noConfusion
      simp only [hfree]
      exact ⟨_, rfl, hsafe⟩
    | draining =>
      simp only [hq, if_pos hlive]
      cases hitems : m.items with
      | nil =>
        refine ⟨_, rfl, ?_⟩
        rw [← hq, ← hitems]
        refine h.txKeep hne (h.owns.of_eq ?_) fun r hr =>
          h.receiving r (List.mem_of_mem_eraseIdx hr)
        simp only [owners, queuePtr, parserPtr, hat, TxPlace.blocks, zero_add]
      | cons b rest =>
        refine ⟨_, rfl, ?_⟩
        rw [← hq]
        refine h.txKeep hne (h.owns.of_eq ?_) fun r hr => h.receiving_set hr TxPlace.noConfusion
        simp only [owners, queuePtr, parserPtr, hat, held_set ht, TxPlace.blocks, hitems, held_cons]
        abel
    | discarding b =>
      obtain ⟨h', hfree, hsafe⟩ := h.txFree (x := .draining) ht rfl rfl fun r =>
        TxPlace.noConfusion
      simp only [hfree]
      exact ⟨_, rfl, hsafe⟩

/-- A call of `al1_link_send` does something. -/
theorem Safe.sendKeep (h : m.Safe) (hb : m.QueueBusy) {heap : Heap} {items : List ℕ}
    {senders : List SendPlace}
    (howns : Owns heap
      ({ m with heap := heap, items := items, senders := senders } : LinkMemory).owners) :
    ({ m with heap := heap, items := items, senders := senders } : LinkMemory).Safe :=
  h.keep howns rfl rfl rfl rfl (fun _ => hb) id h.receiving h.feeding

theorem Safe.send (h : m.Safe) (fits : Bool) : (m.send fits).Safe := by
  rw [LinkMemory.send]
  split_ifs with hno
  · exact h
  · have hrun : m.running = true := by
      rw [not_or, not_not] at hno
      exact hno.1
    refine h.sendKeep (.inl hrun) (h.owns.of_eq ?_)
    simp only [owners, queuePtr, parserPtr, held_concat, SendPlace.blocks, add_zero]

theorem Safe.sendBuf (h : m.Safe) (k : ℕ) (buf : Bool) : (m.sendBuf k buf).Safe := by
  rw [LinkMemory.sendBuf]
  cases ht : m.senders[k]? with
  | none => exact h
  | some t =>
    have hat := held_at (f := SendPlace.blocks) ht
    have hb : m.QueueBusy := .inr (.inr (.inl (List.ne_nil_of_mem (List.mem_of_getElem? ht))))
    cases t with
    | holding b => exact h
    | checked =>
      cases buf with
      | false =>
        simp only [Bool.false_eq_true, not_false_eq_true, if_true]
        refine h.sendKeep hb (h.owns.of_eq ?_)
        simp only [owners, queuePtr, parserPtr, hat, SendPlace.blocks, zero_add]
      | true =>
        simp only [not_true_eq_false, if_false]
        refine h.sendKeep hb (h.owns.alloc.of_eq ?_)
        simp only [owners, queuePtr, parserPtr, hat, held_set ht, SendPlace.blocks, zero_add]
        abel

theorem Safe.sendEnd (h : m.Safe) (k : ℕ) (built room : Bool) :
    ∃ m', m.sendEnd k built room = some m' ∧ m'.Safe := by
  rw [LinkMemory.sendEnd]
  cases ht : m.senders[k]? with
  | none => exact ⟨m, rfl, h⟩
  | some t =>
    have hat := held_at (f := SendPlace.blocks) ht
    have hb : m.QueueBusy := .inr (.inr (.inl (List.ne_nil_of_mem (List.mem_of_getElem? ht))))
    obtain ⟨q, hq, hlive⟩ := h.queue_live hb
    cases t with
    | checked => exact ⟨m, rfl, h⟩
    | holding b =>
      have heq : m.owners =
          {b} + ({ m with senders := m.senders.eraseIdx k } : LinkMemory).owners := by
        simp only [owners, queuePtr, parserPtr, hat, SendPlace.blocks]
        abel
      have howns := h.owns.of_eq heq
      -- the frame is dropped
      obtain ⟨h', hfree, hdropped⟩ := howns.free
      have hdrop : ({ m with heap := h', senders := m.senders.eraseIdx k } : LinkMemory).Safe :=
        h.sendKeep hb hdropped
      cases built with
      | false =>
        simp only [Bool.false_eq_true, not_false_eq_true, if_true, hfree]
        exact ⟨_, rfl, hdrop⟩
      | true =>
        cases room with
        | false =>
          simp only [not_true_eq_false, if_false, hq, if_neg (not_not.mpr hlive), hfree,
            Bool.false_eq_true]
          rw [hq] at hdrop
          exact ⟨_, rfl, hdrop⟩
        | true =>
          simp only [not_true_eq_false, if_false, hq, if_neg (not_not.mpr hlive), if_true]
          refine ⟨_, rfl, ?_⟩
          rw [← hq]
          refine h.sendKeep hb (howns.of_eq ?_)
          simp only [owners, queuePtr, parserPtr, held_concat]
          abel

/-- **One step.** -/
theorem Safe.step (h : m.Safe) {e : MemoryStep} (hv : m.TearsDown e → m.Vacated e) :
    ∃ m', m.step e = some m' ∧ m'.Safe := by
  cases e with
  | start o => exact ⟨_, rfl, h.start o⟩
  | startRx created => exact ⟨_, rfl, h.startRx created⟩
  | startTx created => exact ⟨_, rfl, h.startTx created⟩
  | stop => exact ⟨_, rfl, h.stop⟩
  | deleteQueue => exact h.deleteQueue hv
  | clearQueue => exact ⟨_, rfl, h.clearQueue⟩
  | freeParser => exact h.freeParser hv
  | clearParser => exact ⟨_, rfl, h.clearParser⟩
  | rx k chunk bytes => exact h.rx k chunk bytes
  | tx k => exact h.tx k
  | send fits => exact ⟨_, rfl, h.send fits⟩
  | sendBuf k buf => exact ⟨_, rfl, h.sendBuf k buf⟩
  | sendEnd k built room => exact h.sendEnd k built room

theorem run_cons {e : MemoryStep} {steps : List MemoryStep} :
    m.run (e :: steps) = (m.step e).bind fun m' => m'.run steps := List.foldlM_cons

/-- **Every patient run.** -/
theorem Safe.run (h : m.Safe) {steps : List MemoryStep} (hp : m.Patient steps) :
    ∃ m', m.run steps = some m' ∧ m'.Safe := by
  induction steps generalizing m with
  | nil => exact ⟨m, rfl, h⟩
  | cons e steps ih =>
    obtain ⟨m₁, hstep, h₁⟩ := h.step hp.1
    obtain ⟨m', hrun, h'⟩ := ih h₁ (hp.2 m₁ hstep)
    exact ⟨m', by rw [run_cons, hstep, Option.bind_some, hrun], h'⟩

/-- A start, a frame that is queued and written, and a stop that waits for everybody. -/
def session : List MemoryStep :=
  [.start ⟨true, true, true⟩, .startRx true, .startTx true, .rx 0 true false, .rx 0 true false,
    .rx 0 true true, .send true, .sendBuf 0 true, .rx 0 true false, .sendEnd 0 true true, .tx 0,
    .tx 0, .tx 0, .tx 0, .stop, .tx 0, .tx 0, .deleteQueue, .clearQueue, .rx 0 true false,
    .freeParser, .clearParser]

end Steps

end LinkMemory

end Al1Wmod
