import Al1Wmod.Stream.Transducer
import Mathlib.Data.List.Infix

/-!
# Framers

A framer decides from the letters of the unfinished unit alone.  It keeps those
letters, and for the unit with the next letter it has a verdict: more letters are
needed, or the unit is over and something is put out, or the last letter does not
belong to the unit and is read again as the first letter of the next one.

A framer forgets everything when a unit ends, so its runs fall into pieces:

* `run_of_more`: as long as every prefix wants more, letters are only collected;
* `run_of_stop`: at the letter that ends the unit, its output appears and the framer
  starts afresh;
* `run_of_rescan`: a letter read again acts as it does on a fresh framer;
* `run_suffix`: the letters of the unfinished unit are the last letters read.

A byte parser with counters and buffers is verified by showing that it is in lock step
with a framer, which has neither.
-/

namespace Framer

open Transducer

variable {α β : Type*}

/-- What a framer says of the letters of the unit read so far. -/
inductive Verdict (β : Type*) where
  /-- The unit goes on. -/
  | more : Verdict β
  /-- The unit ends with this letter. -/
  | stop : List β → Verdict β
  /-- The unit ended before this letter, which starts the next one. -/
  | rescan : List β → Verdict β
  deriving DecidableEq

/-- A letter read by a fresh framer.  A rescan here would read the letter for ever, so it
counts as a stop. -/
def start (v : List α → Verdict β) (a : α) : List α × List β :=
  match v [a] with
  | .more => ([a], [])
  | .stop o => ([], o)
  | .rescan o => ([], o)

/-- One letter: `acc` are the letters of the unfinished unit. -/
def step (v : List α → Verdict β) (acc : List α) (a : α) : List α × List β :=
  match v (acc ++ [a]) with
  | .more => (acc ++ [a], [])
  | .stop o => ([], o)
  | .rescan o => ((start v a).1, o ++ (start v a).2)

variable {v : List α → Verdict β}

theorem step_of_more {acc : List α} {a : α} (h : v (acc ++ [a]) = .more) :
    step v acc a = (acc ++ [a], []) := by
  rw [step, h]

theorem step_of_stop {acc : List α} {a : α} {o : List β} (h : v (acc ++ [a]) = .stop o) :
    step v acc a = ([], o) := by
  rw [step, h]

theorem step_of_rescan {acc : List α} {a : α} {o : List β} (h : v (acc ++ [a]) = .rescan o) :
    step v acc a = ((start v a).1, o ++ (start v a).2) := by
  rw [step, h]

theorem start_eq_step (h : ∀ a o, v [a] ≠ .rescan o) (a : α) : start v a = step v [] a := by
  rw [start, step, List.nil_append]
  cases hv : v [a] with
  | more => rfl
  | stop o => rfl
  | rescan o => exact absurd hv (h a o)

/-- While every prefix wants more, the letters are only collected. -/
theorem run_of_more {acc l : List α}
    (h : ∀ p a q, l = p ++ a :: q → v (acc ++ p ++ [a]) = .more) :
    run (step v) acc l = (acc ++ l, []) := by
  induction l generalizing acc with
  | nil => simp
  | cons a l ih =>
    have ha : v (acc ++ [a]) = .more := by simpa using h [] a l rfl
    have hl : ∀ p b q, l = p ++ b :: q → v (acc ++ [a] ++ p ++ [b]) = .more := by
      intro p b q hpq
      have := h (a :: p) b q (by rw [hpq, List.cons_append])
      simpa using this
    rw [run_cons, step_of_more ha, ih hl]
    simp

/-- **A whole unit.**  If all prefixes want more and the last letter ends the unit, its
output appears and the framer reads on afresh. -/
theorem run_of_stop {acc l : List α} {a : α} {o : List β} (rest : List α)
    (h : ∀ p b q, l = p ++ b :: q → v (acc ++ p ++ [b]) = .more)
    (hstop : v (acc ++ l ++ [a]) = .stop o) :
    run (step v) acc (l ++ a :: rest) =
      ((run (step v) [] rest).1, o ++ (run (step v) [] rest).2) := by
  rw [run_append, run_of_more h, run_cons, step_of_stop hstop, List.nil_append]

/-- **A letter read again** acts as on a fresh framer. -/
theorem run_of_rescan {acc : List α} {a : α} {o : List β} (rest : List α)
    (hv : ∀ a o, v [a] ≠ .rescan o) (h : v (acc ++ [a]) = .rescan o) :
    run (step v) acc (a :: rest) =
      ((run (step v) [] (a :: rest)).1, o ++ (run (step v) [] (a :: rest)).2) := by
  rw [run_cons, step_of_rescan h, start_eq_step hv, run_cons, List.append_assoc]

/-- The unfinished unit after a letter. -/
theorem step_suffix (acc : List α) (a : α) : (step v acc a).1 <:+ acc ++ [a] := by
  unfold step
  split
  · exact List.suffix_rfl
  · exact List.nil_suffix
  · unfold start
    split
    · exact List.suffix_append acc [a]
    · exact List.nil_suffix
    · exact List.nil_suffix

/-- **The unfinished unit** stands at the end of what was read. -/
theorem run_suffix (acc l : List α) : (run (step v) acc l).1 <:+ acc ++ l := by
  induction l generalizing acc with
  | nil => simp
  | cons a l ih =>
    have hstep : (step v acc a).1 ++ l <:+ acc ++ [a] ++ l := by
      obtain ⟨t, ht⟩ := step_suffix (v := v) acc a
      exact ⟨t, by rw [← ht, List.append_assoc]⟩
    rw [run_cons]
    refine (ih _).trans ?_
    simpa using hstep

end Framer
