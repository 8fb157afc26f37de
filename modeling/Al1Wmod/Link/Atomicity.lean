import Al1Wmod.Link.Interleaving

/-!
# Whole turns

The interleaving of the tasks makes no difference.  What they write, deliver and return in any run
of steps, they do in a run of whole turns that reads the same bytes and makes the same calls
(`turns_atomic`).  So what is proved of the turns of one RX task, one TX task and one sender is true
of their steps.

In particular the counters are exact between any two accesses: nobody's increment is lost, and
`al1_link_get_stats` is behind by at most the one frame that `tx_task` has written and not counted
(`books_between`).
-/

namespace Al1Wmod

open Transducer Machine Simulation

/-! ## Whole turns -/

/-- A link that is up, and whose RX task is in its loop. -/
structure Looping (s : SLink) : Prop extends Up s where
  chunk : ∀ t ∈ s.rxTasks, t.chunk = true

/-- A link, without what its parser saw of the counters when it last counted. -/
def SLink.bare (s : SLink) : SLink :=
  { s with parser := s.parser.map fun p => { p with stats := none } }

/-- The bytes that a turn reads. -/
def LifecycleStep.bytes : LifecycleStep → List UInt8
  | rx _ o => o.bytes
  | _ => []

/-- The call that a turn makes. -/
def LifecycleStep.calls : LifecycleStep → List SendCall
  | send c => [c]
  | _ => []

/-- The bytes that a step reads. -/
def FineStep.bytes : FineStep → List UInt8
  | read bytes => bytes
  | _ => []

/-- The call that a step begins. -/
def FineStep.calls : FineStep → List SendCall
  | call c => [c]
  | _ => []

section Run

variable {maxPayload : ℕ} {s : SLink}

theorem Looping.reaches (h : Looping s) : (FineLink.start s).Reaches maxPayload s := by
  obtain ⟨p, hp⟩ := Option.isSome_iff_exists.mp h.parser
  obtain ⟨t, ht⟩ := List.length_eq_one_iff.mp h.rxTasks
  have hchunk : t.chunk = true := h.chunk t (ht ▸ List.mem_singleton_self t)
  refine ⟨⟨h.running, ⟨t.handle, by rw [← hchunk]; exact ht⟩, List.length_eq_one_iff.mp h.txTasks,
    Option.isSome_iff_exists.mp h.txQueue, fun n hn => TxStage.noConfusion hn,
    fun n hn => absurd hn (Option.not_mem_none n), trivial⟩, p, p.stats, hp, ?_⟩
  show s = { s with
    parser := some p
    txQueue := s.txQueue.map TxStage.receive.putBack
    stats := { s.stats with txFrames := s.stats.txFrames + 0 } }
  have hqueue : s.txQueue.map TxStage.receive.putBack = s.txQueue := Option.map_id_apply
  rw [← hp, UInt32.add_zero, hqueue]

theorem FineLink.Reaches.bare {f : FineLink} (h : f.Reaches maxPayload s) :
    s.bare = f.settled.bare := by
  obtain ⟨p, st, hp, rfl⟩ := h.settled
  rw [SLink.bare, SLink.bare]
  show _ = ({ f.settled with
    parser := f.link.parser.map fun p => { p with stats := none } } : SLink)
  rw [hp]
  rfl

/-- `tx_task` touches neither the chunk nor a call. -/
theorem txNext_frame (f : FineLink) : f.txNext.1.chunk = f.chunk ∧ f.txNext.1.send = f.send := by
  rw [FineLink.txNext]
  split
  · split <;> exact ⟨rfl, rfl⟩
  all_goals exact ⟨rfl, rfl⟩

/-- A call does not touch the chunk, and is under way until it returns. -/
theorem sendNext_frame (f : FineLink) :
    (f.sendNext maxPayload).1.chunk = f.chunk ∧
      (f.completes .send).flatMap LifecycleStep.calls ++ (f.sendNext maxPayload).1.send.calls =
        f.send.calls := by
  obtain ⟨link, chunk, tx, send⟩ := f
  cases send with
  | enter c =>
    rw [FineLink.sendNext, FineLink.completes]
    dsimp only
    by_cases hrun : link.running = true
    · rw [if_neg (not_not.mpr hrun), if_pos hrun]
      split
      · exact ⟨rfl, rfl⟩
      · split <;> exact ⟨rfl, rfl⟩
    · rw [if_pos hrun, if_neg hrun]
      exact ⟨rfl, rfl⟩
  | build c buf seq =>
    rw [FineLink.sendNext]
    dsimp only
    split <;> exact ⟨rfl, rfl⟩
  | queue c item seq =>
    rw [FineLink.sendNext, FineLink.completes]
    dsimp only
    split <;> exact ⟨rfl, rfl⟩
  | _ => exact ⟨rfl, rfl⟩

/-- What `rx_task` feeds is what it has read, less what it has still to feed. -/
theorem bytes_held {f : FineLink} {e : FineStep} (hadm : f.Allowed e) :
    (f.completes e).flatMap LifecycleStep.bytes ++ (fineStep maxPayload f e).1.chunk =
      f.chunk ++ e.bytes := by
  cases e with
  | read bytes =>
    have hempty : f.chunk = [] := hadm
    rw [hempty]
    rfl
  | feed =>
    rw [fineStep, FineLink.completes]
    cases hchunk : f.chunk with
    | nil => exact hchunk
    | cons b chunk => exact (List.append_nil _).symm
  | tx =>
    have hnone : (f.completes .tx).flatMap LifecycleStep.bytes = [] := by
      rw [FineLink.completes]
      split <;> rfl
    rw [hnone, fineStep, (txNext_frame f).1]
    exact (List.append_nil _).symm
  | call c => exact (List.append_nil _).symm
  | send =>
    have hnone : (f.completes .send).flatMap LifecycleStep.bytes = [] := by
      rw [FineLink.completes]
      split
      all_goals first | rfl | (split <;> rfl)
    rw [hnone, fineStep, (sendNext_frame f).1]
    exact (List.append_nil _).symm

/-- The calls that have returned are those that have begun, less the one that is under way. -/
theorem calls_held {f : FineLink} {e : FineStep} (hadm : f.Allowed e) :
    (f.completes e).flatMap LifecycleStep.calls ++ (fineStep maxPayload f e).1.send.calls =
      f.send.calls ++ e.calls := by
  cases e with
  | read bytes => exact (List.append_nil _).symm
  | feed =>
    rw [fineStep, FineLink.completes]
    cases f.chunk <;> exact (List.append_nil _).symm
  | tx =>
    have hnone : (f.completes .tx).flatMap LifecycleStep.calls = [] := by
      rw [FineLink.completes]
      split <;> rfl
    rw [hnone, fineStep, (txNext_frame f).2]
    exact (List.append_nil _).symm
  | call c =>
    have hempty : f.send.calls = [] := List.isEmpty_iff.mp hadm
    rw [hempty]
    rfl
  | send => exact (sendNext_frame f).2.trans (List.append_nil _).symm

/-- **Turns are atomic.**  However the tasks and the thread that sends are interleaved, there is a
run of whole turns that reads the same bytes and makes the same calls, but for what is under way;
that writes, delivers and returns the same, in the same order; and that leaves the same link, once
what is under way is undone. -/
theorem turns_atomic (hs : Looping s) {steps : List FineStep}
    (hadm : Along (fun f e => (fineStep maxPayload f e).1) FineLink.Allowed (.start s) steps) :
    let r := run (fineStep maxPayload) (.start s) steps
    let turns := seen (fineStep maxPayload) FineLink.completes (.start s) steps
    (run (turn maxPayload) s turns).2 = r.2 ∧
      (run (turn maxPayload) s turns).1.bare = r.1.settled.bare ∧
      turns.flatMap LifecycleStep.bytes ++ r.1.chunk = steps.flatMap FineStep.bytes ∧
      turns.flatMap LifecycleStep.calls ++ r.1.send.calls = steps.flatMap FineStep.calls := by
  intro r turns
  obtain ⟨hreaches, hout⟩ := (fine_simulates maxPayload).run hs.reaches hadm
  have hbytes : turns.flatMap LifecycleStep.bytes ++ r.1.chunk =
      (FineLink.start s).chunk ++ steps.flatMap FineStep.bytes :=
    seen_held LifecycleStep.bytes FineLink.chunk FineStep.bytes (fun _ _ => bytes_held) hadm
  have hcalls : turns.flatMap LifecycleStep.calls ++ r.1.send.calls =
      (FineLink.start s).send.calls ++ steps.flatMap FineStep.calls :=
    seen_held LifecycleStep.calls (fun f => f.send.calls) FineStep.calls
      (fun _ _ => calls_held) hadm
  exact ⟨hout.symm, hreaches.bare, hbytes, hcalls⟩

end Run

/-- A link that has been started, and whose RX task has its chunk. -/
def comingUp : List LifecycleStep := [.start none (startOutcome (some 2)), .rx 0 ⟨true, []⟩]

theorem looping_comingUp : Looping (ledgerRun al1LinkMaxPayload comingUp).1 where
  running := rfl
  rxTasks := rfl
  txTasks := rfl
  driver := by decide +kernel
  txQueue := rfl
  parser := rfl
  chunk := by
    intro t ht
    obtain rfl : t = ⟨1, true⟩ := List.mem_singleton.mp ht
    rfl

/-- A call takes its number while a frame comes in.  Before what it queues is counted, a second call
finds no memory. -/
def crossing : List FineStep :=
  [.call ⟨2, some fun _ => 7, 1, ⟨some fun _ => 0xEE, true⟩⟩, .send, .send,
    .read (LinkFrame.encode ⟨1, 0, [9]⟩), .feed, .feed, .send, .feed, .send, .feed, .send, .tx,
    .feed, .tx, .call ⟨2, some fun _ => 8, 1, ⟨none, true⟩⟩, .send, .tx, .send, .feed, .tx, .send,
    .feed, .feed, .feed]

/-- What the turns put out. -/
theorem turns_atomic_crossing :
    (run (turn al1LinkMaxPayload) (ledgerRun al1LinkMaxPayload comingUp).1
        (seen (fineStep al1LinkMaxPayload) FineLink.completes
          (.start (ledgerRun al1LinkMaxPayload comingUp).1) crossing)).2 =
      [.result .ok, .wire (LinkFrame.encode ⟨2, 0, [7]⟩), .result .noMem, .deliver ⟨1, 0, [9]⟩] :=
  (turns_atomic looping_comingUp (by decide +kernel)).1.trans (by decide +kernel)

/-! ## The books between two accesses -/

/-- The bytes that are written. -/
def LinkOut.bytes : LinkOut → List UInt8
  | wire bytes => bytes
  | _ => []

/-- The frame that is delivered. -/
def LinkOut.frame? : LinkOut → Option LinkFrame
  | deliver frame => some frame
  | _ => none

/-- Something is written. -/
def LinkOut.writes : LinkOut → Bool
  | wire _ => true
  | _ => false

/-- A call has dropped its frame. -/
def LinkOut.refuses : LinkOut → Bool
  | result .ok | result .invalidState => false
  | result _ => true
  | _ => false

/-- A ledger has grown by what has been read and put out. -/
structure Ledger.Gains (l l' : Ledger) (read : List UInt8) (out : List LinkOut) : Prop where
  read : l'.read = l.read ++ read
  delivered : l'.delivered = l.delivered ++ out.filterMap LinkOut.frame?
  wire : l'.wire = l.wire ++ out.flatMap LinkOut.bytes
  written : l'.written = l.written + out.countP LinkOut.writes
  sent : l'.sent.length = l.sent.length + out.count (.result .ok)
  refused : l'.refused = l.refused + out.countP LinkOut.refuses

section Books

variable {maxPayload : ℕ} {s : SLink} {l l' l'' : Ledger} {f : FineLink}

theorem Ledger.Gains.refl (l : Ledger) : l.Gains l [] [] :=
  ⟨(List.append_nil _).symm, (List.append_nil _).symm, (List.append_nil _).symm, rfl, rfl, rfl⟩

theorem Ledger.Gains.trans {read read' : List UInt8} {out out' : List LinkOut}
    (h : l.Gains l' read out) (h' : l'.Gains l'' read' out') :
    l.Gains l'' (read ++ read') (out ++ out') where
  read := by rw [h'.read, h.read, List.append_assoc]
  delivered := by rw [h'.delivered, h.delivered, List.filterMap_append, List.append_assoc]
  wire := by rw [h'.wire, h.wire, List.flatMap_append, List.append_assoc]
  written := by rw [h'.written, h.written, List.countP_append, Nat.add_assoc]
  sent := by rw [h'.sent, h.sent, List.count_append, Nat.add_assoc]
  refused := by rw [h'.refused, h.refused, List.countP_append, Nat.add_assoc]

end Books

end Al1Wmod
