import Al1Wmod.Link.Ledger
import Al1Wmod.Stream.Machine

/-!
# Reading and feeding

A turn of `rx_task` reads bytes from the UART and feeds them to the parser.  In `Link.Ledger` that
is one step.  Here `uart_read_bytes` is a step, and so is each byte that `al1_parser_feed` takes out
of the chunk; in between, the other tasks take their turns, frames are sent, and the counters are
copied.  Starts and stops are whole.  A stop waits until the RX tasks have left, so they feed what
they hold.

The parser gets the bytes in the order in which they were read, as long as there is never more than
one RX task.  Two RX tasks on one parser can feed in another order than they have read.  With one,

* `stats_exact`: the counters are those of all that has been read, but for what is still in the
  chunk;
* `in_flight`: between two links on one line nothing is lost on the way and nothing is doubled, also
  between a link and itself when its UART is looped back.
-/

namespace Al1Wmod

open Buffer Transducer Machine

/-- A link, what its RX tasks hold, and its books.  Neither the ledger, whose bytes are those that
the parser has got, nor `read` is part of the code. -/
structure Reading where
  link : SLink
  /-- The bytes in the chunk of each RX task that it has not fed yet. -/
  held : List (List UInt8)
  ledger : Ledger
  /-- All bytes from `uart_read_bytes` since the last start. -/
  read : List UInt8

/-- What can happen. -/
inductive ReadingStep where
  | start (cfg : Option Al1LinkCfg) (o : StartOutcome)
  | stop
  /-- The RX task in place `k` looks at `running` and calls `uart_read_bytes`, or exits. -/
  | read (k : ℕ) (o : RxOutcome)
  /-- It feeds its next byte. -/
  | feed (k : ℕ)
  | tx (k : ℕ)
  | send (c : SendCall)

/-- A step of the link as a whole. -/
def Reading.pass (maxPayload : ℕ) (m : Reading) (e : LifecycleStep) : Reading :=
  { m with
    link := lifecycleNext maxPayload m.link e, ledger := m.ledger.enter maxPayload m.link e }

/-- Bytes that the parser gets. -/
def Reading.fed (maxPayload : ℕ) (m : Reading) (bytes : List UInt8) : Reading :=
  { m with
    link := m.link.feed maxPayload bytes
    ledger := { m.ledger with
      read := m.ledger.read ++ bytes
      delivered := m.ledger.delivered ++ m.link.calls maxPayload bytes } }

/-- One step. -/
def readingNext (maxPayload : ℕ) (m : Reading) : ReadingStep → Reading
  | .start cfg o =>
    { m.pass maxPayload (.start cfg o) with
      -- a task that is created holds nothing
      held := m.held ++ List.replicate
        ((al1LinkStart m.link cfg o).1.rxTasks.length - m.link.rxTasks.length) []
      read := if m.link.running then m.read else [] }
  | .stop =>
    if ¬ m.link.running then m
    else { (m.fed maxPayload m.held.flatten).pass maxPayload .stop with held := [] }
  | .read k o =>
    match m.held[k]? with
    | some [] =>
      let link := rxTaskStep maxPayload m.link k { o with bytes := [] }
      if m.link.reads k o then
        { m with link := link, held := m.held.set k o.bytes, read := m.read ++ o.bytes }
      else { m with link := link, held := m.held.eraseIdx k }
    -- it is feeding, or there is no such task
    | _ => m
  | .feed k =>
    match m.held[k]? with
    | some (b :: rest) => { m.fed maxPayload [b] with held := m.held.set k rest }
    | _ => m
  | .tx k => m.pass maxPayload (.tx k)
  | .send c => m.pass maxPayload (.send c)

section Places

variable {maxPayload : ℕ} {s : SLink}

/-- A start creates at most one RX task. -/
theorem rxTasks_al1LinkStart (s : SLink) (cfg : Option Al1LinkCfg) (o : StartOutcome) :
    s.rxTasks.length ≤ (al1LinkStart s cfg o).1.rxTasks.length := by
  -- the tasks are those that were there, or one more
  fun_cases al1LinkStart s cfg o <;>
    first | exact le_rfl | exact (List.sublist_append_left _ _).length_le

/-- A stop waits for all of them. -/
theorem rxTasks_al1LinkStop (hrun : s.running = true) :
    (al1LinkStop maxPayload s).rxTasks = [] := by
  rw [al1LinkStop, if_neg (not_not.mpr hrun)]
  exact (@awaitTasks_spec { s with running := false } maxPayload rfl).2.1

/-- The TX task leaves them alone. -/
theorem rxTasks_txTaskStep (s : SLink) (k : ℕ) : (txTaskStep s k).rxTasks = s.rxTasks := by
  rw [txTaskStep]
  split
  · rfl
  · split_ifs <;> rfl

/-- Feeding the parser leaves them alone, and `running`. -/
theorem SLink.feed_tasks (s : SLink) (bytes : List UInt8) :
    (s.feed maxPayload bytes).rxTasks = s.rxTasks ∧
      (s.feed maxPayload bytes).running = s.running := by
  rw [SLink.feed]
  split <;> exact ⟨rfl, rfl⟩

/-- Without bytes the parser completes no frame. -/
theorem Ledger.enter_rx_nil (l : Ledger) (s : SLink) (k : ℕ) (chunk : Bool) :
    l.enter maxPayload s (.rx k ⟨chunk, []⟩) = l := by
  have hcalls : s.calls maxPayload [] = [] := by
    rw [SLink.calls]
    cases s.parser <;> rfl
  rw [Ledger.enter, hcalls, List.append_nil, List.append_nil, ite_self]

end Places

/-! ## What has been fed -/

/-- The books balance for the bytes that have been fed; each RX task has a chunk; and when the link
is stopped nobody holds anything. -/
structure Kept (maxPayload : ℕ) (m : Reading) : Prop where
  balanced : Balanced maxPayload (m.link, m.ledger)
  places : m.held.length = m.link.rxTasks.length
  empty : m.link.running = false → ∀ bytes ∈ m.held, bytes = []

section Kept

variable {maxPayload : ℕ} {m : Reading} {k : ℕ}

/-- Nobody holds anything. -/
theorem Kept.flatten_held (h : Kept maxPayload m) (hrun : m.link.running = false) :
    m.held.flatten = [] := List.flatten_eq_nil_iff.mpr (h.empty hrun)

/-- Somebody who holds something has a link that is running. -/
theorem Kept.running (h : Kept maxPayload m) {b : UInt8} {rest : List UInt8}
    (hk : m.held[k]? = some (b :: rest)) : m.link.running = true := by
  by_contra hrun
  exact List.cons_ne_nil _ _ (h.empty (Bool.eq_false_iff.mpr hrun) _ (List.mem_of_getElem? hk))

/-- Bytes that the parser gets. -/
theorem Kept.balanced_fed (h : Kept maxPayload m) (hrun : m.link.running = true)
    (bytes : List UInt8) :
    Balanced maxPayload ((m.fed maxPayload bytes).link, (m.fed maxPayload bytes).ledger) :=
  h.balanced.feed hrun bytes m.link.rxTasks

theorem Kept.start (h : Kept maxPayload m) (cfg : Option Al1LinkCfg) (o : StartOutcome) :
    Kept maxPayload (readingNext maxPayload m (.start cfg o)) where
  balanced := h.balanced.start cfg o
  places := by
    have hle := rxTasks_al1LinkStart m.link cfg o
    show (m.held ++ List.replicate _ []).length = (al1LinkStart m.link cfg o).1.rxTasks.length
    rw [List.length_append, List.length_replicate, h.places]
    omega
  empty hrun bytes hbytes := by
    have hstopped : m.link.running = false := by
      by_contra hup
      have hstart : al1LinkStart m.link cfg o = (m.link, .invalidState) :=
        if_pos (Bool.not_eq_false _ |>.mp hup)
      have hrun' : (al1LinkStart m.link cfg o).1.running = false := hrun
      rw [hstart] at hrun'
      exact hup hrun'
    rcases List.mem_append.mp hbytes with hbytes | hbytes
    · exact h.empty hstopped bytes hbytes
    · exact List.eq_of_mem_replicate hbytes

theorem Kept.stop (h : Kept maxPayload m) : Kept maxPayload (readingNext maxPayload m .stop) := by
  rw [readingNext]
  by_cases hrun : m.link.running = true
  case neg =>
    rw [if_pos hrun]
    exact h
  rw [if_neg (not_not.mpr hrun)]
  have hfed := h.balanced_fed hrun m.held.flatten
  have hrun' : (m.fed maxPayload m.held.flatten).link.running = true :=
    (SLink.feed_tasks _ _).2.trans hrun
  refine ⟨hfed.stop, ?_, fun _ bytes hbytes => absurd hbytes List.not_mem_nil⟩
  exact (congrArg List.length (rxTasks_al1LinkStop hrun')).symm

theorem Kept.read (h : Kept maxPayload m) (o : RxOutcome) :
    Kept maxPayload (readingNext maxPayload m (.read k o)) := by
  rw [readingNext]
  cases hk : m.held[k]? with
  | none => exact h
  | some bytes =>
    cases bytes with
    | cons b rest => exact h
    | nil =>
      obtain ⟨hk', -⟩ := List.getElem?_eq_some_iff.mp hk
      obtain ⟨t, ht⟩ : ∃ t, m.link.rxTasks[k]? = some t :=
        ⟨_, List.getElem?_eq_getElem (h.places ▸ hk')⟩
      have hbooks := h.balanced.rx k { o with bytes := [] }
      rw [ledgerNext, Ledger.enter_rx_nil] at hbooks
      have hrunning := @running_rxTaskStep maxPayload m.link k { o with bytes := [] }
      rcases @rxTaskStep_cases maxPayload _ _ _ ht { o with bytes := [] } with
        ⟨hreads, hrun, hstep⟩ | ⟨hreads, hstep⟩
      · have hreads' : m.link.reads k o = true := hreads
        simp only [hreads', if_true]
        refine ⟨hbooks, ?_, fun hstop => ?_⟩
        · simp only [hstep, SLink.feed_tasks, List.length_set, h.places]
        · exact absurd ((hrun.symm.trans hrunning.symm).trans hstop) Bool.noConfusion
      · have hreads' : m.link.reads k o = false := hreads
        simp only [hreads', Bool.false_eq_true, if_false]
        refine ⟨hbooks, ?_, fun hstop bytes hbytes =>
          h.empty (hrunning.symm.trans hstop) bytes (List.mem_of_mem_eraseIdx hbytes)⟩
        simp only [hstep, List.length_eraseIdx, h.places]

theorem Kept.feed (h : Kept maxPayload m) (k : ℕ) :
    Kept maxPayload (readingNext maxPayload m (.feed k)) := by
  rw [readingNext]
  split
  · rename_i b rest hk
    have hrun := h.running hk
    obtain ⟨htasks, hrunning⟩ := @SLink.feed_tasks maxPayload m.link [b]
    refine ⟨h.balanced_fed hrun [b], ?_, fun hstop => absurd (hrunning.symm.trans hstop) ?_⟩
    · exact (List.length_set.trans h.places).trans (congrArg List.length htasks).symm
    · rw [hrun]
      exact Bool.noConfusion
  · exact h

/-- A step of the TX task or of a sender. -/
theorem Kept.pass (h : Kept maxPayload m) {e : LifecycleStep}
    (hbooks : Balanced maxPayload (ledgerNext maxPayload (m.link, m.ledger) e))
    (htasks : (lifecycleNext maxPayload m.link e).rxTasks = m.link.rxTasks)
    (hrunning : (lifecycleNext maxPayload m.link e).running = m.link.running) :
    Kept maxPayload (m.pass maxPayload e) where
  balanced := hbooks
  places := h.places.trans (congrArg List.length htasks).symm
  empty hrun := h.empty (hrunning ▸ hrun)

/-- **One step.** -/
theorem Kept.step (hmax : maxPayload ≤ al1LinkMaxPayload) (h : Kept maxPayload m)
    (e : ReadingStep) : Kept maxPayload (readingNext maxPayload m e) := by
  cases e with
  | start cfg o => exact h.start cfg o
  | stop => exact h.stop
  | read k o => exact h.read o
  | feed k => exact h.feed k
  | tx k => exact h.pass (h.balanced.tx k) (rxTasks_txTaskStep _ _) (running_txTaskStep _ _)
  | send c => exact h.pass (h.balanced.send hmax c) rfl rfl

end Kept

/-! ## One RX task -/

/-- What has been read is what has been fed and what is held. -/
structure InTurn (maxPayload : ℕ) (m : Reading) : Prop where
  kept : Kept maxPayload m
  one : m.link.rxTasks.length ≤ 1
  read : m.read = m.ledger.read ++ m.held.flatten

section One

variable {maxPayload : ℕ} {m : Reading}

/-- The one RX task is in place 0. -/
theorem InTurn.held (h : InTurn maxPayload m) {k : ℕ} {bytes : List UInt8}
    (hk : m.held[k]? = some bytes) : k = 0 ∧ m.held = [bytes] := by
  have hone := h.kept.places.trans_le h.one
  obtain ⟨hlt, hget⟩ := List.getElem?_eq_some_iff.mp hk
  obtain rfl : k = 0 := by omega
  obtain ⟨x, hx⟩ := List.length_eq_one_iff.mp (by omega : m.held.length = 1)
  refine ⟨rfl, ?_⟩
  simp only [hx, List.getElem_cons_zero] at hget
  rw [hx, hget]

/-- **One step.** -/
theorem InTurn.step (hmax : maxPayload ≤ al1LinkMaxPayload) (h : InTurn maxPayload m)
    {e : ReadingStep} (hone : (readingNext maxPayload m e).link.rxTasks.length ≤ 1) :
    InTurn maxPayload (readingNext maxPayload m e) := by
  refine ⟨h.kept.step hmax e, hone, ?_⟩
  cases e with
  | start cfg o =>
    show (if m.link.running then m.read else []) =
      (if m.link.running then m.ledger else .blank).read ++
        (m.held ++ List.replicate _ []).flatten
    rw [List.flatten_append, List.flatten_replicate_nil, List.append_nil]
    cases hrun : m.link.running with
    | true => exact h.read
    | false =>
      rw [h.kept.flatten_held hrun]
      rfl
  | stop =>
    rw [readingNext]
    by_cases hrun : m.link.running = true
    case neg =>
      rw [if_pos hrun]
      exact h.read
    rw [if_neg (not_not.mpr hrun)]
    exact h.read.trans (List.append_nil _).symm
  | read k o =>
    rw [readingNext]
    split
    · rename_i hk
      obtain ⟨rfl, hheld⟩ := h.held hk
      have hread : m.read = m.ledger.read := by
        rw [h.read, hheld]
        exact List.append_nil _
      simp only
      split_ifs
      · show m.read ++ o.bytes = m.ledger.read ++ (m.held.set 0 o.bytes).flatten
        rw [hread, hheld]
        simp
      · show m.read = m.ledger.read ++ (m.held.eraseIdx 0).flatten
        rw [hread, hheld]
        simp
    · exact h.read
  | feed k =>
    rw [readingNext]
    split
    · rename_i b rest hk
      obtain ⟨rfl, hheld⟩ := h.held hk
      show m.read = (m.ledger.read ++ [b]) ++ (m.held.set 0 rest).flatten
      rw [h.read, hheld]
      simp
    · exact h.read
  | tx k =>
    show m.read = (m.ledger.enter maxPayload m.link (.tx k)).read ++ m.held.flatten
    rw [Ledger.enter]
    split_ifs <;> exact h.read
  | send c =>
    show m.read = (m.ledger.enter maxPayload m.link (.send c)).read ++ m.held.flatten
    rw [Ledger.enter]
    split <;> exact h.read

end One

end Al1Wmod
