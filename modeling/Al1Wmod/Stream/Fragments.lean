import Mathlib.Data.List.Basic
import Mathlib.Data.List.Flatten

/-!
# Fragments

A message cut from the front into fragments of at most `n` letters, as a sender cuts it whose
link carries `n` letters at a time.
-/

namespace Fragments

variable {α : Type*} {n : ℕ}

/-- The fragments of a list; every fragment but the last has `n` letters.  There are none for
`n = 0`. -/
def fragments (n : ℕ) (l : List α) : List (List α) :=
  if l = [] ∨ n = 0 then [] else l.take n :: fragments n (l.drop n)
termination_by l.length
decreasing_by
  rename_i h
  obtain ⟨hl, hn⟩ := not_or.mp h
  have hpos := List.length_pos_iff.mpr hl
  rw [List.length_drop]
  omega

@[simp] theorem fragments_nil (n : ℕ) : fragments n ([] : List α) = [] := by
  rw [fragments, if_pos (Or.inl rfl)]

theorem fragments_of_ne_nil (hn : 0 < n) {l : List α} (hl : l ≠ []) :
    fragments n l = l.take n :: fragments n (l.drop n) := by
  rw [fragments, if_neg (not_or.mpr ⟨hl, (Nat.ne_of_gt hn)⟩)]

/-- Fragments are taken off the front, so what holds of `[]` and is put on with a full fragment
holds of every list. -/
theorem fragments_induction (hn : 0 < n) {P : List α → Prop} (nil : P [])
    (cut : ∀ l, l ≠ [] → P (l.drop n) → P l) (l : List α) : P l := by
  induction h : l.length using Nat.strongRecOn generalizing l with
  | ind k ih =>
    by_cases hl : l = []
    · rw [hl]
      exact nil
    · have hpos := List.length_pos_iff.mpr hl
      refine cut l hl (ih _ ?_ (l.drop n) rfl)
      rw [List.length_drop]
      omega

/-- **The fragments read the list.** -/
theorem flatten_fragments (hn : 0 < n) (l : List α) : (fragments n l).flatten = l := by
  induction l using fragments_induction hn with
  | nil => simp
  | cut l hl ih => rw [fragments_of_ne_nil hn hl, List.flatten_cons, ih, List.take_append_drop]

/-- A fragment has a letter, and no more than `n`. -/
theorem length_of_mem_fragments (hn : 0 < n) (l : List α) :
    ∀ f ∈ fragments n l, f ≠ [] ∧ f.length ≤ n := by
  induction l using fragments_induction hn with
  | nil => simp
  | cut l hl ih =>
    rw [fragments_of_ne_nil hn hl]
    intro f hf
    rcases List.mem_cons.mp hf with rfl | hf
    · refine ⟨?_, List.length_take_le n l⟩
      rw [Ne, List.take_eq_nil_iff]
      exact not_or.mpr ⟨Nat.ne_of_gt hn, hl⟩
    · exact ih f hf

/-- One fragment is enough exactly for a list of at most `n` letters. -/
theorem length_fragments_le_one_iff (hn : 0 < n) (l : List α) :
    (fragments n l).length ≤ 1 ↔ l.length ≤ n := by
  by_cases hl : l = []
  · simp [hl]
  · rw [fragments_of_ne_nil hn hl, List.length_cons]
    constructor
    · intro h
      have hrest : fragments n (l.drop n) = [] := List.length_eq_zero_iff.mp (by omega)
      have hdrop := flatten_fragments hn (l.drop n)
      rw [hrest, List.flatten_nil, eq_comm, List.drop_eq_nil_iff] at hdrop
      exact hdrop
    · intro h
      have hrest : fragments n (l.drop n) = [] := by
        rw [List.drop_eq_nil_iff.mpr h, fragments_nil]
      exact Nat.le_of_eq (by rw [hrest, List.length_nil])

end Fragments
