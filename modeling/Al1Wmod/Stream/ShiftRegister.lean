import Mathlib.Algebra.BigOperators.Group.Finset.Lemmas
import Mathlib.Algebra.CharP.Two
import Mathlib.Algebra.Field.ZMod
import Mathlib.Algebra.Group.Hom.End
import Mathlib.GroupTheory.OrderOfElement

/-!
# Linear shift registers

A checksum register over a group.  It absorbs letters: each is added to the register, and then the
register is shifted, by an endomorphism of the group.  So an
error in a letter adds to the final register what the error alone would leave there
(`absorb_error`), and the error is noticed when that is not zero.

`Cyclic` is what makes such a register a good one: it has `d` coordinates, and its unit vectors are
the first `d` shifts of one of them.  An error pattern is a set of unit errors, so what it leaves is
a sum of shifts of the unit vector, its `syndrome`.  A pattern is noticed

* if it has an odd number of errors, as long as the shifts of the unit vector have odd weight
  (`Cyclic.syndrome_ne_zero_of_odd`);
* if its errors lie within `d` consecutive places (`Cyclic.syndrome_ne_zero_of_window`);
* if it has two errors, exactly as long as the order of the shift does not divide their distance
  (`Cyclic.syndrome_pair_eq_zero_iff`).
-/

namespace ShiftRegister

variable {V : Type*} [AddCommGroup V] (shift : AddMonoid.End V)

/-- Absorb letters: add each to the register, and shift. -/
def absorb (s : V) (l : List V) : V := l.foldl (fun s a => shift (s + a)) s

theorem absorb_cons (s a : V) (l : List V) :
    absorb shift s (a :: l) = absorb shift (shift (s + a)) l := rfl

theorem absorb_append (s : V) (l m : List V) :
    absorb shift s (l ++ m) = absorb shift (absorb shift s l) m := List.foldl_append

/-- What is added to the register before it absorbs letters is shifted through. -/
theorem absorb_add (s d : V) (l : List V) :
    absorb shift (s + d) l = absorb shift s l + (shift ^ l.length) d := by
  induction l generalizing s d with
  | nil => rfl
  | cons a l ih =>
    have hshift : shift (s + d + a) = shift (s + a) + shift d := by
      rw [← map_add, add_right_comm]
    rw [absorb_cons, absorb_cons, hshift, ih, List.length_cons, pow_succ]
    rfl

/-- **One wrong letter.** -/
theorem absorb_error (s a d : V) (l m : List V) :
    absorb shift s (l ++ (a + d) :: m) = absorb shift s (l ++ a :: m) + (shift ^ (m.length + 1)) d := by
  rw [absorb_append, absorb_append, absorb_cons, absorb_cons, ← add_assoc, map_add, absorb_add,
    pow_succ]
  rfl

/-- Letters that are absorbed from the last to the first. -/
theorem absorb_reverse_range (a : ℕ → V) (n : ℕ) :
    absorb shift 0 ((List.range n).reverse.map a) = ∑ j ∈ Finset.range n, (shift ^ (j + 1)) (a j) := by
  induction n with
  | zero => rfl
  | succ n ih =>
    have hstart : shift (0 + a n) = 0 + shift (a n) := by rw [zero_add, zero_add]
    rw [List.range_succ, List.reverse_append, List.reverse_singleton, List.singleton_append,
      List.map_cons, absorb_cons, hstart, absorb_add, ih, List.length_map, List.length_reverse,
      List.length_range, Finset.sum_range_succ, pow_succ shift n]
    rfl

theorem pow_injective (h : Function.Injective shift) (n : ℕ) : Function.Injective (shift ^ n) := by
  rw [AddMonoid.End.coe_pow]
  exact h.iterate n

/-- What unit errors at the places of `S` leave in the register, `n - i` shifts after place `i`. -/
def syndrome (e : V) (n : ℕ) (S : Finset ℕ) : V := ∑ i ∈ S, (shift ^ (n - i)) e

/-- The shifts behind the last error are common to all errors. -/
theorem syndrome_eq_pow (e : V) {n m : ℕ} (hm : m ≤ n) {S : Finset ℕ} (hS : ∀ i ∈ S, i ≤ m) :
    syndrome shift e n S = (shift ^ (n - m)) (∑ j ∈ S.image (m - ·), (shift ^ j) e) := by
  have hinjOn : Set.InjOn (m - ·) (S : Set ℕ) := by
    intro i hi j hj hij
    have hi' := hS i hi
    have hj' := hS j hj
    have hij' : m - i = m - j := hij
    omega
  rw [syndrome, Finset.sum_image hinjOn, map_sum]
  refine Finset.sum_congr rfl fun i hi => ?_
  have hsub : n - i = n - m + (m - i) := by
    have hi' := hS i hi
    omega
  rw [hsub, pow_add]
  rfl

/-- The first `d` shifts of `e` are the unit vectors of `d` coordinates, and there are no others. -/
structure Cyclic (e : V) (d : ℕ) where
  coord : ℕ → V →+ ZMod 2
  coord_pow : ∀ i < d, ∀ j < d, coord i ((shift ^ j) e) = if i = j then 1 else 0
  ext : ∀ v, (∀ i < d, coord i v = 0) → v = 0

namespace Cyclic

variable {shift} {e : V} {d : ℕ} (c : Cyclic shift e d)

/-- The places of the coordinates that are not zero. -/
def support (v : V) : Finset ℕ := (Finset.range d).filter fun j => c.coord j v = 1

include c

/-- Everything is its own negative. -/
theorem add_self (v : V) : v + v = 0 :=
  c.ext _ fun i _ => by rw [map_add, CharTwo.add_self_eq_zero]

theorem add_eq_zero_iff {v w : V} : v + w = 0 ↔ v = w := by
  rw [add_eq_zero_iff_eq_neg, neg_eq_of_add_eq_zero_left (c.add_self w)]

/-- A sum of unit vectors has these coordinates. -/
theorem coord_sum {S : Finset ℕ} (hS : ∀ j ∈ S, j < d) {i : ℕ} (hi : i < d) :
    c.coord i (∑ j ∈ S, (shift ^ j) e) = if i ∈ S then 1 else 0 := by
  rw [map_sum, Finset.sum_congr rfl fun j hj => c.coord_pow i hi j (hS j hj), Finset.sum_ite_eq]

/-- Every element is the sum of its unit vectors. -/
theorem sum_support (v : V) : ∑ j ∈ c.support v, (shift ^ j) e = v := by
  rw [← c.add_eq_zero_iff]
  refine c.ext _ fun i hi => ?_
  have hmem : ∀ j ∈ c.support v, j < d := fun j hj =>
    Finset.mem_range.mp (Finset.mem_filter.mp hj).1
  rw [map_add, c.coord_sum hmem hi]
  by_cases hone : c.coord i v = 1
  · have hin : i ∈ c.support v := Finset.mem_filter.mpr ⟨Finset.mem_range.mpr hi, hone⟩
    rw [if_pos hin, hone, CharTwo.add_self_eq_zero]
  · have hout : i ∉ c.support v := fun hin => hone (Finset.mem_filter.mp hin).2
    have hzero : ∀ x : ZMod 2, x ≠ 1 → x = 0 := by decide
    rw [if_neg hout, hzero _ hone, add_zero]

/-- Homomorphisms that agree on the unit vectors are equal. -/
theorem hom_ext {W : Type*} [AddCommMonoid W] {f g : V →+ W}
    (h : ∀ j < d, f ((shift ^ j) e) = g ((shift ^ j) e)) : f = g := by
  ext v
  rw [← c.sum_support v, map_sum, map_sum]
  refine Finset.sum_congr rfl fun j hj => h j ?_
  exact Finset.mem_range.mp (Finset.mem_filter.mp hj).1

/-- A number of shifts that brings back `e` brings back everything. -/
theorem pow_eq_one_iff {n : ℕ} : shift ^ n = 1 ↔ (shift ^ n) e = e := by
  constructor
  · intro h
    rw [h]
    rfl
  · intro h
    refine c.hom_ext fun j _ => ?_
    show (shift ^ n * shift ^ j) e = (shift ^ j) e
    rw [← pow_add, add_comm, pow_add]
    exact congrArg (shift ^ j) h

/-! ## Which patterns are noticed -/

/-- The number of coordinates that are not zero, modulo 2. -/
def weight : V →+ ZMod 2 := ∑ i ∈ Finset.range d, c.coord i

theorem weight_apply (v : V) : c.weight v = ∑ i ∈ Finset.range d, c.coord i v := by
  rw [weight, AddMonoidHom.finsetSum_apply]

theorem weight_pow_of_lt {j : ℕ} (hj : j < d) : c.weight ((shift ^ j) e) = 1 := by
  rw [weight_apply, Finset.sum_congr rfl fun i hi => c.coord_pow i (Finset.mem_range.mp hi) j hj,
    Finset.sum_ite_eq', if_pos (Finset.mem_range.mpr hj)]

/-- If the first shift that is not a unit vector has odd weight, then all have. -/
theorem weight_pow (h : c.weight ((shift ^ d) e) = 1) (n : ℕ) :
    c.weight ((shift ^ n) e) = 1 := by
  have hshift : c.weight.comp shift = c.weight := by
    refine c.hom_ext fun j hj => ?_
    have hnext : c.weight.comp shift ((shift ^ j) e) = c.weight ((shift ^ (j + 1)) e) := by
      rw [pow_succ']
      rfl
    rw [hnext, c.weight_pow_of_lt hj]
    rcases Nat.lt_or_eq_of_le (Nat.succ_le_of_lt hj) with hlt | heq
    · exact c.weight_pow_of_lt hlt
    · rw [show j + 1 = d from heq, h]
  induction n with
  | zero =>
    rcases Nat.eq_zero_or_pos d with hd | hd
    · obtain rfl := hd
      exact h
    · exact c.weight_pow_of_lt hd
  | succ n ih =>
    rw [pow_succ']
    exact (DFunLike.congr_fun hshift _).trans ih

/-- **An odd number of errors** is noticed. -/
theorem syndrome_ne_zero_of_odd (h : c.weight ((shift ^ d) e) = 1) (n : ℕ) {S : Finset ℕ}
    (hS : Odd S.card) : syndrome shift e n S ≠ 0 := by
  intro hzero
  have hweight := congrArg c.weight hzero
  rw [syndrome, map_sum, map_zero, Finset.sum_congr rfl fun i _ => c.weight_pow h (n - i),
    Finset.sum_const, nsmul_one] at hweight
  exact ZMod.natCast_ne_zero_iff_odd.mpr hS hweight

/-- **A burst** of errors, within `d` places, is noticed. -/
theorem syndrome_ne_zero_of_window (hinj : Function.Injective shift) {n k : ℕ} {S : Finset ℕ}
    (hne : S.Nonempty) (hwindow : ∀ i ∈ S, k ≤ i ∧ i < k + d) (hn : ∀ i ∈ S, i ≤ n) :
    syndrome shift e n S ≠ 0 := by
  -- the last error goes through the fewest shifts, which are common to all
  set m := S.max' hne
  have hmS : m ∈ S := S.max'_mem hne
  have hle : ∀ i ∈ S, i ≤ m := fun i hi => S.le_max' i hi
  have hlt : ∀ j ∈ S.image (m - ·), j < d := by
    intro j hj
    obtain ⟨i, hi, rfl⟩ := Finset.mem_image.mp hj
    have hi' := (hwindow i hi).1
    have hm' := (hwindow m hmS).2
    have him := hle i hi
    show m - i < d
    omega
  have hmem : (0 : ℕ) ∈ S.image (m - ·) := Finset.mem_image.mpr ⟨m, hmS, Nat.sub_self m⟩
  intro hzero
  rw [syndrome_eq_pow shift e (hn m hmS) hle] at hzero
  have hsum : ∑ j ∈ S.image (m - ·), (shift ^ j) e = 0 := by
    refine pow_injective shift hinj (n - m) ?_
    exact hzero.trans (map_zero (shift ^ (n - m))).symm
  have hcoord := c.coord_sum hlt (hlt 0 hmem)
  rw [hsum, map_zero, if_pos hmem] at hcoord
  exact zero_ne_one hcoord

/-- **Two errors** go unnoticed exactly if their distance is a multiple of the order. -/
theorem syndrome_pair_eq_zero_iff (hinj : Function.Injective shift) {n i j : ℕ} (hij : i < j)
    (hj : j ≤ n) : syndrome shift e n {i, j} = 0 ↔ orderOf shift ∣ j - i := by
  have hsub : n - i = n - j + (j - i) := by omega
  have hpow : (shift ^ (n - i)) e = (shift ^ (n - j)) ((shift ^ (j - i)) e) := by
    rw [hsub, pow_add]
    rfl
  rw [syndrome, Finset.sum_pair hij.ne, c.add_eq_zero_iff, hpow, orderOf_dvd_iff_pow_eq_one,
    c.pow_eq_one_iff]
  exact (pow_injective shift hinj (n - j)).eq_iff

/-! ## Computing with many shifts -/

/-- The product of two elements that are shifts of `e`, and one shift more: the register absorbs the
coordinates of the second, the highest first, in copies of the first. -/
def times (v w : V) : V :=
  absorb shift 0 ((List.range d).reverse.map fun j => if c.coord j w = 1 then v else 0)

theorem times_pow (a b : ℕ) :
    c.times ((shift ^ a) e) ((shift ^ b) e) = (shift ^ (a + b + 1)) e := by
  have hterm : ∀ j, (shift ^ (j + 1)) (if c.coord j ((shift ^ b) e) = 1 then (shift ^ a) e else 0) =
      if c.coord j ((shift ^ b) e) = 1 then (shift ^ (a + 1)) ((shift ^ j) e) else 0 := by
    intro j
    split_ifs
    · show (shift ^ (j + 1) * shift ^ a) e = (shift ^ (a + 1) * shift ^ j) e
      rw [← pow_add, ← pow_add, show j + 1 + a = a + 1 + j by omega]
    · exact map_zero _
  rw [times, absorb_reverse_range, Finset.sum_congr rfl fun j _ => hterm j, ← Finset.sum_filter,
    ← map_sum]
  show (shift ^ (a + 1)) (∑ j ∈ c.support ((shift ^ b) e), (shift ^ j) e) = _
  rw [c.sum_support]
  show (shift ^ (a + 1) * shift ^ b) e = _
  rw [← pow_add, show a + 1 + b = a + b + 1 by omega]

/-- Squaring along digits: `2 * n + 1` shifts for `false` and `2 * n + 2` for `true`. -/
def along (digits : List Bool) : V :=
  digits.foldl (fun v b => if b then shift (c.times v v) else c.times v v) e

theorem along_eq (digits : List Bool) :
    c.along digits =
      (shift ^ digits.foldl (fun n b => if b then 2 * n + 2 else 2 * n + 1) 0) e := by
  induction digits using List.reverseRecOn with
  | nil => rfl
  | append_singleton digits b ih =>
    rw [along] at ih ⊢
    rw [List.foldl_append, List.foldl_append, List.foldl_cons, List.foldl_nil, List.foldl_cons,
      List.foldl_nil, ih, c.times_pow, ← two_mul]
    cases b
    · rfl
    · exact (DFunLike.congr_fun (pow_succ' shift _) e).symm

end Cyclic

end ShiftRegister
