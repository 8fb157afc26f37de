import Al1Wmod.Link.Memory

/-!
# When the wait is long enough

`al1_link_stop` and a start that gives up delete the queue and free the parser, whoever is still
there.  `memory_safe` says what is enough: that everybody has left.  Here it is also necessary.  A
TX task or a call of `al1_link_send` that is left behind gets to a queue that is NULL; the buffers
in a queue that is deleted are lost; an RX task that has loaded `parser`, or is about to, feeds a
parser that has been freed.  Once `parser` is NULL, an RX task that comes out of `uart_read_bytes`
does no harm, but nothing keeps it there until then.

A start that finds no memory for the TX task does not wait at all.
-/

namespace Al1Wmod

open Blocks

namespace LinkMemory

section LeftBehind

variable {m : LinkMemory}

/-- Steps that never take anything down. -/
theorem patient_of_forall {steps : List MemoryStep}
    (h : ∀ e ∈ steps, ∀ m : LinkMemory, ¬ m.TearsDown e) : m.Patient steps := by
  induction steps generalizing m with
  | nil => trivial
  | cons e steps ih =>
    obtain ⟨he, hrest⟩ := List.forall_mem_cons.mp h
    exact ⟨fun hdown => absurd hdown (he m), fun m' _ => ih hrest⟩

/-- An RX task that is about to feed a parser that has been freed. -/
theorem rx_none {k p : ℕ} {t : RxPlace} (ht : m.rxTasks[k]? = some t) (hfeeds : t.feeds = true)
    (hparser : m.parser = some p) (hp : p ∉ m.heap.live)
    (hfeeding : ∀ c p', t = .feeding c p' → p' = p) :
    m.run [.rx k true true, .rx k true true] = none := by
  have hfeed : ∀ (m : LinkMemory) c steps, p ∉ m.heap.live →
      m.rxTasks[k]? = some (.feeding c p) → m.run (.rx k true true :: steps) = none := by
    intro m c steps hp ht
    rw [run_cons]
    simp [LinkMemory.step, LinkMemory.rx, ht, hp]
  obtain ⟨hk, -⟩ := List.getElem?_eq_some_iff.mp ht
  cases t with
  | born => exact Bool.noConfusion hfeeds
  | test c => exact Bool.noConfusion hfeeds
  | feeding c p' =>
    obtain rfl := hfeeding c p' rfl
    exact hfeed m c _ hp ht
  | reading c =>
    have hstep : m.step (.rx k true true) =
        some { m with rxTasks := m.rxTasks.set k (.feeding c p) } := by
      simp [LinkMemory.step, LinkMemory.rx, ht, hparser]
    rw [run_cons, hstep, Option.bind_some]
    exact hfeed _ c _ hp (List.getElem?_set_self hk)

/-- A TX task is at most two steps from the queue. -/
theorem tx_none {k : ℕ} {t : TxPlace} (ht : m.txTasks[k]? = some t) (hqueue : m.txQueue = none)
    (hrun : m.running = false) : m.run [.tx k, .tx k, .tx k] = none := by
  -- the call of `xQueueReceive`
  have hcall : ∀ (m : LinkMemory) steps, m.txQueue = none →
      m.txTasks[k]? = some .draining → m.run (.tx k :: steps) = none := by
    intro m steps hqueue ht
    rw [run_cons]
    simp [LinkMemory.step, LinkMemory.tx, ht, hqueue]
  have hset : ∀ t', (m.txTasks.set k t')[k]? = some t' := by
    intro t'
    obtain ⟨hk, -⟩ := List.getElem?_eq_some_iff.mp ht
    rw [List.getElem?_set_self hk]
  -- the test of `running`, and then the call
  have htest : ∀ (m : LinkMemory) steps, m.txQueue = none → m.running = false →
      m.txTasks[k]? = some .test → m.run (.tx k :: .tx k :: steps) = none := by
    intro m steps hqueue hrun ht
    obtain ⟨hk, -⟩ := List.getElem?_eq_some_iff.mp ht
    have hstep : m.step (.tx k) =
        some { m with txTasks := m.txTasks.set k .draining } := by
      simp [LinkMemory.step, LinkMemory.tx, ht, hrun]
    rw [run_cons, hstep, Option.bind_some]
    exact hcall _ _ hqueue (List.getElem?_set_self hk)
  cases t with
  | test => exact htest m _ hqueue hrun ht
  | draining => exact hcall m _ hqueue ht
  | entering =>
    rw [run_cons]
    simp [LinkMemory.step, LinkMemory.tx, ht, hqueue]
  | receiving q =>
    rw [run_cons]
    simp [LinkMemory.step, LinkMemory.tx, ht, hqueue]
  | writing b =>
    rw [run_cons]
    simp only [LinkMemory.step, LinkMemory.tx, ht]
    cases m.heap.free b with
    | none => rfl
    | some h' => exact htest _ _ hqueue hrun (hset .test)
  | discarding b =>
    rw [run_cons]
    simp only [LinkMemory.step, LinkMemory.tx, ht]
    cases m.heap.free b with
    | none => rfl
    | some h' => exact hcall _ _ hqueue (hset .draining)

/-- A call of `al1_link_send` that finds no queue. -/
theorem send_none {k : ℕ} {t : SendPlace} (ht : m.senders[k]? = some t)
    (hqueue : m.txQueue = none) : m.run [.sendBuf k true, .sendEnd k true true] = none := by
  have hend : ∀ (m : LinkMemory) b, m.txQueue = none → m.senders[k]? = some (.holding b) →
      m.run [.sendEnd k true true] = none := by
    intro m b hqueue ht
    rw [run_cons]
    simp [LinkMemory.step, LinkMemory.sendEnd, ht, hqueue]
  obtain ⟨hk, -⟩ := List.getElem?_eq_some_iff.mp ht
  rw [run_cons]
  cases t with
  | checked =>
    have hstep : m.step (.sendBuf k true) = some { m with
        heap := m.heap.alloc.1, senders := m.senders.set k (.holding m.heap.alloc.2) } := by
      simp [LinkMemory.step, LinkMemory.sendBuf, ht]
    rw [hstep, Option.bind_some]
    exact hend _ _ hqueue (List.getElem?_set_self hk)
  | holding b =>
    have hstep : m.step (.sendBuf k true) = some m := by
      simp [LinkMemory.step, LinkMemory.sendBuf, ht]
    rw [hstep, Option.bind_some]
    exact hend m b hqueue ht

/-- **Somebody who is left behind** by a queue that is deleted. -/
theorem Safe.vacated_of_forall_queue (h : m.Safe) (hphase : m.phase = .stopping)
    (hall : ∀ later, (∀ m', m.step .deleteQueue = some m' → m'.Patient later) →
      ∃ m', m.run (.deleteQueue :: later) = some m' ∧ Owns m'.heap m'.owners) :
    m.Vacated .deleteQueue := by
  obtain ⟨heap, hstep, howns⟩ := h.deleteQueue_spec hphase
  have hrun := h.not_running_of_stopping hphase
  -- `tx_queue` is set to NULL, and the one who is left goes on
  have hgone : ∀ later, (∀ e ∈ later, ∀ m : LinkMemory, ¬ m.TearsDown e) →
      ({ m with heap := heap, items := [], txQueue := none, phase := .queueCleared } :
        LinkMemory).run later ≠ none := by
    intro later hcalm hnone
    obtain ⟨m', hsome, -⟩ := hall (.clearQueue :: later) fun _ _ => patient_of_forall fun e he => by
      rcases List.mem_cons.mp he with rfl | he
      · exact fun _ => id
      · exact hcalm e he
    rw [run_cons, show m.step .deleteQueue = _ from hstep, Option.bind_some, run_cons] at hsome
    exact Option.some_ne_none _ (hsome.symm.trans hnone)
  refine ⟨?_, ?_, ?_⟩
  · by_contra hne
    obtain ⟨t, ht⟩ := List.exists_mem_of_ne_nil _ hne
    obtain ⟨k, hk⟩ := List.getElem?_of_mem ht
    exact hgone [.tx k, .tx k, .tx k] (by simp [TearsDown]) (tx_none hk rfl hrun)
  · by_contra hne
    obtain ⟨t, ht⟩ := List.exists_mem_of_ne_nil _ hne
    obtain ⟨k, hk⟩ := List.getElem?_of_mem ht
    exact hgone [.sendBuf k true, .sendEnd k true true] (by simp [TearsDown]) (send_none hk rfl)
  · -- the buffers in the queue are lost
    obtain ⟨m', hnil, hwhole⟩ := hall [] fun _ _ => trivial
    rw [run_cons, show m.step .deleteQueue = _ from hstep, Option.bind_some] at hnil
    obtain rfl := Option.some.inj hnil
    have hlost := howns.symm.trans hwhole
    cases hitems : m.items with
    | nil => rfl
    | cons b rest =>
      rw [hitems, held_cons, add_assoc] at hlost
      have hcard := congrArg Multiset.card hlost
      simp only [Multiset.card_add, Multiset.card_singleton] at hcard
      omega

/-- **Somebody who is left behind** by a parser that is freed. -/
theorem Safe.vacated_of_forall_parser (h : m.Safe) (hphase : m.phase = .queueCleared)
    (hall : ∀ later, (∀ m', m.step .freeParser = some m' → m'.Patient later) →
      ∃ m', m.run (.freeParser :: later) = some m' ∧ Owns m'.heap m'.owners) :
    m.Vacated .freeParser := by
  obtain ⟨heap, hstep, -, hdead⟩ := h.freeParser_spec hphase
  intro t ht
  by_contra hfeeds
  rw [Bool.not_eq_false] at hfeeds
  obtain ⟨p, hp, -⟩ := h.parser_live (.inr ⟨t, ht, hfeeds⟩)
  obtain ⟨k, hk⟩ := List.getElem?_of_mem ht
  obtain ⟨m', hsome, -⟩ := hall [.rx k true true, .rx k true true] fun _ _ =>
    patient_of_forall (by simp [TearsDown])
  rw [run_cons, show m.step .freeParser = _ from hstep, Option.bind_some] at hsome
  refine Option.some_ne_none _ (hsome.symm.trans (rx_none hk hfeeds hp (hdead p hp) ?_))
  rintro c p' rfl
  exact Option.some.inj ((h.feeding c p' ht).symm.trans hp)

end LeftBehind

/-- **When the wait is long enough.**  The step that deletes the queue is safe, whatever comes
later, if and only if no TX task and no call of `al1_link_send` is left and the queue is empty; the
step that frees the parser, if and only if no RX task is in `uart_read_bytes` or in
`al1_parser_feed`. -/
theorem teardown_iff {steps : List MemoryStep} {m : LinkMemory} {e : MemoryStep}
    (hp : memoryBoot.Patient steps) (hrun : memoryBoot.run steps = some m)
    (he : m.TearsDown e) :
    m.Vacated e ↔ ∀ later, (∀ m', m.step e = some m' → m'.Patient later) →
      ∃ m', m.run (e :: later) = some m' ∧ Owns m'.heap m'.owners := by
  obtain ⟨m₀, hrun₀, h⟩ := safe_boot.run hp
  obtain rfl : m = m₀ := Option.some.inj (hrun.symm.trans hrun₀)
  constructor
  · intro hv later hlater
    have hp' : m.Patient (e :: later) := ⟨fun _ => hv, hlater⟩
    obtain ⟨m', hrun', h'⟩ := h.run hp'
    exact ⟨m', hrun', h'.owns⟩
  · intro hall
    cases e with
    | deleteQueue => exact h.vacated_of_forall_queue he hall
    | freeParser => exact h.vacated_of_forall_parser he hall
    | start _ | startRx _ | startTx _ | stop | clearQueue | clearParser => exact he.elim
    | rx _ _ _ | tx _ | send _ | sendBuf _ _ | sendEnd _ _ _ => exact he.elim

/-- A start that finds no memory for the TX task, while the RX task is already waiting for bytes. -/
def hastyStart : List MemoryStep :=
  [.start ⟨true, true, true⟩, .startRx true, .rx 0 true false, .rx 0 true false, .startTx false,
    .deleteQueue, .clearQueue]

/-- The parser is freed under the RX task. -/
theorem teardown_iff_hastyStart : ∃ m, memoryBoot.run hastyStart = some m ∧
    ¬ ∀ later, (∀ m', m.step .freeParser = some m' → m'.Patient later) →
      ∃ m', m.run (.freeParser :: later) = some m' ∧ Owns m'.heap m'.owners := by
  have hp : memoryBoot.Patient hastyStart := by decide
  refine ⟨(memoryBoot.run hastyStart).get (by decide), (Option.some_get _).symm, fun hall => ?_⟩
  have hv := (teardown_iff hp (Option.some_get (by decide)).symm (by decide)).mpr hall
  exact absurd hv (by decide)

end LinkMemory

end Al1Wmod
