import Al1Wmod.Stream.Transducer
import Mathlib.Data.List.Basic
import Mathlib.Data.List.Flatten
import Mathlib.Data.List.Infix

/-!
# Interleavings

The letters of two sequential processes, in an order in which each keeps its own.  So what a
transducer puts out at letters of one kind and what it puts out at the others interleave to what it
puts out (`run_out`).

A process that means to write blocks of letters in one piece writes them letter by letter, so
another process can get in between.  `Whole A B m` says that this did not happen in `m`: every
block of either side stands in one piece.  `whole_iff` says when this never happens, for two
sides whose letters can be told apart: one side is silent, or the other has no block with
two letters.
-/

/-- `m` is an interleaving of `a` and `b`. -/
inductive Interleave {α : Type*} : List α → List α → List α → Prop where
  | nil : Interleave [] [] []
  | left {x : α} {a b m : List α} (h : Interleave a b m) : Interleave (x :: a) b (x :: m)
  | right {x : α} {a b m : List α} (h : Interleave a b m) : Interleave a (x :: b) (x :: m)

namespace Interleave

variable {α β : Type*} {a b m : List α}

theorem symm (h : Interleave a b m) : Interleave b a m := by
  induction h with
  | nil => exact nil
  | left _ ih => exact ih.right
  | right _ ih => exact ih.left

theorem refl_left (a : List α) : Interleave a [] a := by
  induction a with
  | nil => exact nil
  | cons x a ih => exact ih.left

theorem refl_right (b : List α) : Interleave [] b b := (refl_left b).symm

/-- With nothing on the right there is nothing to interleave. -/
theorem eq_of_nil (h : Interleave a [] m) : m = a := by
  generalize hb : ([] : List α) = b at h
  induction h with
  | nil => rfl
  | left _ ih => rw [ih hb]
  | right => cases hb

theorem append {a' b' m' : List α} (h : Interleave a b m) (h' : Interleave a' b' m') :
    Interleave (a ++ a') (b ++ b') (m ++ m') := by
  induction h with
  | nil => exact h'
  | left _ ih => exact ih.left
  | right _ ih => exact ih.right

theorem map (f : α → β) (h : Interleave a b m) : Interleave (a.map f) (b.map f) (m.map f) := by
  induction h with
  | nil => exact nil
  | left _ ih => exact ih.left
  | right _ ih => exact ih.right

theorem filterMap (f : α → Option β) (h : Interleave a b m) :
    Interleave (a.filterMap f) (b.filterMap f) (m.filterMap f) := by
  induction h with
  | nil => exact nil
  | @left x _ _ _ _ ih =>
    cases hx : f x with
    | none =>
      rw [List.filterMap_cons_none hx, List.filterMap_cons_none hx]
      exact ih
    | some y =>
      rw [List.filterMap_cons_some hx, List.filterMap_cons_some hx]
      exact ih.left
  | @right x _ _ _ _ ih =>
    cases hx : f x with
    | none =>
      rw [List.filterMap_cons_none hx, List.filterMap_cons_none hx]
      exact ih
    | some y =>
      rw [List.filterMap_cons_some hx, List.filterMap_cons_some hx]
      exact ih.right

theorem mem_iff (h : Interleave a b m) (x : α) : x ∈ m ↔ x ∈ a ∨ x ∈ b := by
  induction h with
  | nil => simp
  | left _ ih => simp only [List.mem_cons, ih, or_assoc]
  | right _ ih => simp only [List.mem_cons, ih, or_left_comm]

/-- Interleaved blocks, written out, interleave the letters. -/
theorem flatten {A B C : List (List α)} (h : Interleave A B C) :
    Interleave A.flatten B.flatten C.flatten := by
  induction h with
  | nil => exact nil
  | left _ ih => exact (refl_left _).append ih
  | right _ ih => exact (refl_right _).append ih

theorem filter (p : α → Bool) (h : Interleave a b m) :
    Interleave (a.filter p) (b.filter p) (m.filter p) := by
  induction h with
  | nil => exact nil
  | @left x _ _ _ _ ih =>
    by_cases hx : p x
    · rw [List.filter_cons_of_pos hx, List.filter_cons_of_pos hx]
      exact ih.left
    · rw [List.filter_cons_of_neg hx, List.filter_cons_of_neg hx]
      exact ih
  | @right x _ _ _ _ ih =>
    by_cases hx : p x
    · rw [List.filter_cons_of_pos hx, List.filter_cons_of_pos hx]
      exact ih.right
    · rw [List.filter_cons_of_neg hx, List.filter_cons_of_neg hx]
      exact ih

/-- Any order of the letters that pass a filter comes from an order of all. -/
theorem exists_filter (p : α → Bool) (a b : List α) {w : List α}
    (h : Interleave (a.filter p) (b.filter p) w) :
    ∃ m, Interleave a b m ∧ m.filter p = w := by
  induction a generalizing b w with
  | nil =>
    have hw : w = b.filter p := h.symm.eq_of_nil
    exact ⟨b, refl_right b, hw.symm⟩
  | cons x a iha =>
    by_cases hx : p x
    · induction b generalizing w with
      | nil => exact ⟨x :: a, refl_left _, h.eq_of_nil.symm⟩
      | cons y b ihb =>
        by_cases hy : p y
        · rw [List.filter_cons_of_pos hx, List.filter_cons_of_pos hy] at h
          cases h with
          | left h =>
            rw [← List.filter_cons_of_pos (l := b) hy] at h
            obtain ⟨m, hm, hw⟩ := iha (y :: b) h
            exact ⟨x :: m, hm.left, by rw [List.filter_cons_of_pos hx, hw]⟩
          | right h =>
            rw [← List.filter_cons_of_pos (l := a) hx] at h
            obtain ⟨m, hm, hw⟩ := ihb h
            exact ⟨y :: m, hm.right, by rw [List.filter_cons_of_pos hy, hw]⟩
        · rw [List.filter_cons_of_neg hy] at h
          obtain ⟨m, hm, hw⟩ := ihb h
          exact ⟨y :: m, hm.right, by rw [List.filter_cons_of_neg hy, hw]⟩
    · rw [List.filter_cons_of_neg hx] at h
      obtain ⟨m, hm, hw⟩ := iha b h
      exact ⟨x :: m, hm.left, by rw [List.filter_cons_of_neg hx, hw]⟩

/-- What a run puts out at letters of two kinds. -/
theorem run_out {σ ι : Type*} (step : σ → ι → σ × List α) (p : ι → Bool) (s : σ) (l : List ι) :
    Interleave (Transducer.outAt step p s l) (Transducer.outAt step (fun i => !p i) s l)
      (Transducer.run step s l).2 := by
  induction l generalizing s with
  | nil => exact nil
  | cons i l ih =>
    rw [Transducer.outAt, Transducer.outAt, Transducer.run_cons]
    refine append ?_ (ih (step s i).1)
    cases hi : p i with
    | false => exact refl_right _
    | true => exact refl_left _

/-! ## Blocks -/

/-- Every block of either side stands in one piece. -/
def Whole (A B : List (List α)) (m : List α) : Prop := ∃ C, Interleave A B C ∧ m = C.flatten

theorem Whole.symm {A B : List (List α)} (h : Whole A B m) : Whole B A m :=
  h.imp fun _ hC => ⟨hC.1.symm, hC.2⟩

/-- A block of one letter each cannot be cut. -/
theorem whole_of_length_eq_one {A B : List (List α)} (hA : ∀ c ∈ A, c.length = 1)
    (hB : ∀ c ∈ B, c.length = 1) (h : Interleave A.flatten B.flatten m) : Whole A B m := by
  have hsingle : ∀ D : List (List α), (∀ c ∈ D, c.length = 1) → D.flatten.map (fun x => [x]) = D := by
    intro D hD
    induction D with
    | nil => rfl
    | cons c D ih =>
      obtain ⟨x, rfl⟩ := List.length_eq_one_iff.mp (hD c List.mem_cons_self)
      rw [List.flatten_cons, List.map_append, ih fun d hd => hD d (List.mem_cons_of_mem _ hd)]
      rfl
  have hmap := h.map fun x => [x]
  rw [hsingle A hA, hsingle B hB] at hmap
  refine ⟨_, hmap, ?_⟩
  rw [← List.flatMap_def, List.flatMap_singleton']

/-- With one side silent nothing is cut. -/
theorem whole_of_eq_nil {A B : List (List α)} (hB : B = [])
    (h : Interleave A.flatten B.flatten m) : Whole A B m := by
  subst hB
  exact ⟨A, refl_left A, h.eq_of_nil⟩

section Tagged

variable {A B : List (List α)} (p : α → Bool)

/-- Before the first letter of the right side stand whole blocks of the left side. -/
theorem takeWhile_flatten {C : List (List α)} (h : Interleave A B C) (hA : ∀ c ∈ A, ∀ x ∈ c, p x)
    (hB : ∀ c ∈ B, c ≠ [] ∧ ∀ x ∈ c, ¬ p x) (hne : B ≠ []) :
    ∃ A', A' <+: A ∧ C.flatten.takeWhile p = A'.flatten := by
  induction h with
  | nil => exact absurd rfl hne
  | @left c A B C _ ih =>
    obtain ⟨A', hpre, heq⟩ := ih (fun d hd => hA d (List.mem_cons_of_mem _ hd)) hB hne
    refine ⟨c :: A', (List.prefix_cons_inj c).mpr hpre, ?_⟩
    rw [List.flatten_cons, List.takeWhile_append_of_pos (hA c List.mem_cons_self), heq,
      List.flatten_cons]
  | @right c A B C _ _ =>
    obtain ⟨hc, hp⟩ := hB c List.mem_cons_self
    obtain ⟨x, c, rfl⟩ := List.exists_cons_of_ne_nil hc
    refine ⟨[], List.nil_prefix, ?_⟩
    rw [List.flatten_cons, List.cons_append,
      List.takeWhile_cons_of_neg (hp x List.mem_cons_self), List.flatten_nil]

/-- A block of two letters can be cut by a side that is not silent. -/
theorem exists_not_whole (hA : ∀ c ∈ A, ∀ x ∈ c, p x) (hB : ∀ c ∈ B, c ≠ [] ∧ ∀ x ∈ c, ¬ p x)
    (hne : B ≠ []) {c : List α} (hc : c ∈ A) (hlen : 1 < c.length) :
    ∃ m, Interleave A.flatten B.flatten m ∧ ¬ Whole A B m := by
  obtain ⟨A₁, A₂, rfl⟩ := List.append_of_mem hc
  obtain ⟨x, c, rfl⟩ := List.exists_cons_of_ne_nil (List.length_pos_iff.mp (by omega : 0 < c.length))
  have hx : ∀ y ∈ A₁.flatten ++ [x], p y := by
    intro y hy
    rcases List.mem_append.mp hy with hy | hy
    · obtain ⟨d, hd, hy⟩ := List.mem_flatten.mp hy
      exact hA d (List.mem_append_left _ hd) y hy
    · rw [List.mem_singleton.mp hy]
      exact hA _ (List.mem_append_right _ List.mem_cons_self) x List.mem_cons_self
  refine ⟨(A₁.flatten ++ [x]) ++ (B.flatten ++ (c ++ A₂.flatten)), ?_, ?_⟩
  · have h := (refl_left (A₁.flatten ++ [x])).append
      ((refl_right B.flatten).append (refl_left (c ++ A₂.flatten)))
    simpa using h
  -- the letters before the right side's first are no whole number of blocks
  · rintro ⟨C, hC, heq⟩
    obtain ⟨A', hpre, htake⟩ := takeWhile_flatten p hC hA hB hne
    obtain ⟨d, B, rfl⟩ := List.exists_cons_of_ne_nil hne
    obtain ⟨hd, hp⟩ := hB d List.mem_cons_self
    obtain ⟨y, d, rfl⟩ := List.exists_cons_of_ne_nil hd
    rw [← heq, List.takeWhile_append_of_pos hx, List.flatten_cons, List.cons_append,
      List.cons_append, List.takeWhile_cons_of_neg (hp y List.mem_cons_self),
      List.append_nil] at htake
    have hlen' := congrArg List.length htake
    have hpre' : A₁ ++ [x :: c] <+: A₁ ++ (x :: c) :: A₂ := by
      exact (List.prefix_append_right_inj A₁).mpr ((List.prefix_cons_inj _).mpr List.nil_prefix)
    rw [List.length_append, List.length_singleton] at hlen'
    rw [List.length_cons] at hlen
    rcases List.prefix_or_prefix_of_prefix hpre hpre' with h | ⟨t, rfl⟩
    · rcases List.prefix_concat_iff.mp h with rfl | ⟨t, rfl⟩
      · simp only [List.flatten_append, List.flatten_cons, List.flatten_nil, List.length_append,
          List.length_cons, List.length_nil] at hlen'
        omega
      · simp only [List.flatten_append, List.length_append] at hlen'
        omega
    · simp only [List.flatten_append, List.flatten_cons, List.flatten_nil, List.length_append,
        List.length_cons, List.length_nil] at hlen'
      omega

/-- **When blocks are never cut.**  The letters of the two sides are told apart by `p`. -/
theorem whole_iff (hA : ∀ c ∈ A, c ≠ [] ∧ ∀ x ∈ c, p x) (hB : ∀ c ∈ B, c ≠ [] ∧ ∀ x ∈ c, ¬ p x) :
    (∀ m, Interleave A.flatten B.flatten m → Whole A B m) ↔
      (B = [] ∨ ∀ c ∈ A, c.length ≤ 1) ∧ (A = [] ∨ ∀ c ∈ B, c.length ≤ 1) := by
  constructor
  · intro h
    constructor
    · by_contra hcon
      obtain ⟨hne, hlong⟩ := not_or.mp hcon
      obtain ⟨c, hc, hlen⟩ : ∃ c ∈ A, 1 < c.length := by simpa using hlong
      obtain ⟨m, hm, hcut⟩ := exists_not_whole p (fun c hc => (hA c hc).2) hB hne hc hlen
      exact hcut (h m hm)
    -- the other way round, the letters of `B` are those that do not satisfy `p`
    · by_contra hcon
      obtain ⟨hne, hlong⟩ := not_or.mp hcon
      obtain ⟨c, hc, hlen⟩ : ∃ c ∈ B, 1 < c.length := by simpa using hlong
      have hB' : ∀ c ∈ B, ∀ x ∈ c, !p x := by
        intro c hc x hx
        simpa using (hB c hc).2 x hx
      have hA' : ∀ c ∈ A, c ≠ [] ∧ ∀ x ∈ c, ¬ !p x := by
        intro c hc
        exact ⟨(hA c hc).1, fun x hx => by simpa using (hA c hc).2 x hx⟩
      obtain ⟨m, hm, hcut⟩ := exists_not_whole (fun x => !p x) hB' hA' hne hc hlen
      exact hcut (h m hm.symm).symm
  · intro h m hm
    have hone : ∀ {D : List (List α)} {q : α → Prop}, (∀ c ∈ D, c ≠ [] ∧ ∀ x ∈ c, q x) →
        (∀ c ∈ D, c.length ≤ 1) → ∀ c ∈ D, c.length = 1 := by
      intro D q hD hle c hc
      exact le_antisymm (hle c hc) (List.length_pos_iff.mpr (hD c hc).1)
    rcases h with ⟨rfl | hle, hright⟩
    · exact whole_of_eq_nil rfl hm
    · rcases hright with rfl | hle'
      · exact (whole_of_eq_nil rfl hm.symm).symm
      · exact whole_of_length_eq_one (hone hA hle) (hone hB hle') hm

end Tagged

end Interleave
