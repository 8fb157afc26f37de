import Al1Wmod.Stream.Machine
import Mathlib.Order.Basic

/-!
# Backlogs

An event may add one to a backlog and may take one from it; nothing is taken from an empty one.
What is left at the end of a run is what came in and did not go out since the backlog was last
empty, and that is the worst of all the stretches up to the end (`foldl_next_le_iff`).  So a backlog
stays within a bound exactly if no stretch of the run brings in more than the bound above what it
takes out (`within_iff`).
-/

namespace Backlog

open Machine

variable {ε : Type*} {adds takes : ε → Bool}

/-- The backlog after an event. -/
def next (adds takes : ε → Bool) (q : ℕ) (e : ε) : ℕ :=
  q + (if adds e then 1 else 0) - if takes e then 1 else 0

/-- The backlog after a run. -/
theorem foldl_next_le_iff {q n : ℕ} {l : List ε} :
    l.foldl (next adds takes) q ≤ n ↔
      q + l.countP adds ≤ n + l.countP takes ∧
        ∀ m, m <:+ l → m.countP adds ≤ n + m.countP takes := by
  induction l generalizing q with
  | nil => simp
  | cons e l ih =>
    rw [List.foldl_cons, ih, next, List.countP_cons, List.countP_cons]
    constructor
    · rintro ⟨hall, hsuffix⟩
      refine ⟨by omega, fun m hm => ?_⟩
      rcases List.suffix_cons_iff.mp hm with rfl | hm
      · rw [List.countP_cons, List.countP_cons]
        omega
      · exact hsuffix m hm
    · rintro ⟨hall, hsuffix⟩
      have hrest := hsuffix l (List.suffix_cons e l)
      exact ⟨by omega, fun m hm => hsuffix m (hm.trans (List.suffix_cons e l))⟩

/-- **Within a bound.**  The bound holds after every event exactly if it holds of what every first
part of the run adds to the backlog, and of what every stretch of it adds to none. -/
theorem within_iff {q n : ℕ} (hq : q ≤ n) {l : List ε} :
    Along (next adds takes) (fun q e => next adds takes q e ≤ n) q l ↔
      (∀ m, m <+: l → q + m.countP adds ≤ n + m.countP takes) ∧
        ∀ m, m <:+: l → m.countP adds ≤ n + m.countP takes := by
  rw [along_next_iff (R := (· ≤ n)) hq]
  constructor
  · intro h
    refine ⟨fun m hm => (foldl_next_le_iff.mp (h m hm)).1, fun m hm => ?_⟩
    obtain ⟨t, hmt, htl⟩ := List.infix_iff_suffix_prefix.mp hm
    exact (foldl_next_le_iff.mp (h t htl)).2 m hmt
  · rintro ⟨hfirst, hinfix⟩ t ht
    exact foldl_next_le_iff.mpr ⟨hfirst t ht, fun m hm =>
      hinfix m (List.infix_iff_suffix_prefix.mpr ⟨t, hm, ht⟩)⟩

end Backlog
