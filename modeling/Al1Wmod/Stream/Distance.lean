import Al1Wmod.Stream.ShiftRegister
import Mathlib.Order.Bounds.Basic

/-!
# The fewest errors that go unnoticed

An error pattern goes unnoticed if its syndrome is zero.  How few errors that takes depends on the
places where errors may occur.

* If the shifts of the unit vector have odd weight, it takes an even number, and so two at least.
* Two are enough if two of the places are a multiple of the order apart (`isLeast_two`).
* The register feeds its top coordinate back into some others.  An error there, and one at each of
  the places it is fed back to, cancel (`tapPattern`); so four are enough if it is fed back to three
  (`isLeast_four`).
-/

namespace ShiftRegister

variable {V : Type*} [AddCommGroup V]

/-- The sizes of the error patterns in the places `P` that go unnoticed. -/
def unnoticedSizes (shift : AddMonoid.End V) (e : V) (n : ℕ) (P : ℕ → Prop) : Set ℕ :=
  {m | ∃ S : Finset ℕ, S.Nonempty ∧ (∀ i ∈ S, P i) ∧ syndrome shift e n S = 0 ∧ S.card = m}

namespace Cyclic

variable {shift : AddMonoid.End V} {e : V} {d n m : ℕ} {P : ℕ → Prop} (c : Cyclic shift e d)

/-! ## Where errors are fed back to -/

/-- An error at `k`, and one at each of the places it is fed back to. -/
def tapPattern (k : ℕ) : Finset ℕ :=
  insert k ((c.support ((shift ^ d) e)).image fun j => k + d - j)

include c

theorem mem_support_lt {v : V} {j : ℕ} (hj : j ∈ c.support v) : j < d :=
  Finset.mem_range.mp (Finset.mem_filter.mp hj).1

/-- A sum of unit vectors has these coordinates and no others. -/
theorem support_sum {T : Finset ℕ} (hT : ∀ j ∈ T, j < d) :
    c.support (∑ j ∈ T, (shift ^ j) e) = T := by
  ext i
  rw [support, Finset.mem_filter, Finset.mem_range]
  constructor
  · rintro ⟨hi, hone⟩
    rw [c.coord_sum hT hi] at hone
    by_contra hout
    rw [if_neg hout] at hone
    exact zero_ne_one hone
  · intro hi
    exact ⟨hT i hi, by rw [c.coord_sum hT (hT i hi), if_pos hi]⟩

theorem mem_tapPattern {k i : ℕ} (hi : i ∈ c.tapPattern k) : k ≤ i ∧ i ≤ k + d := by
  rcases Finset.mem_insert.mp hi with rfl | hi
  · exact ⟨le_rfl, Nat.le_add_right _ _⟩
  · obtain ⟨j, hj, rfl⟩ := Finset.mem_image.mp hi
    have hlt := c.mem_support_lt hj
    omega

/-- The error at `k` is not one of the places it is fed back to. -/
theorem not_mem_image (k : ℕ) :
    k ∉ (c.support ((shift ^ d) e)).image fun j => k + d - j := by
  intro hk
  obtain ⟨j, hj, hkj⟩ := Finset.mem_image.mp hk
  have hlt := c.mem_support_lt hj
  omega

theorem injOn_feedback (k : ℕ) (v : V) : Set.InjOn (fun j => k + d - j) (c.support v : Set ℕ) := by
  intro i hi j hj hij
  have hi' := c.mem_support_lt (Finset.mem_coe.mp hi)
  have hj' := c.mem_support_lt (Finset.mem_coe.mp hj)
  have hij' : k + d - i = k + d - j := hij
  omega

theorem card_tapPattern (k : ℕ) :
    (c.tapPattern k).card = (c.support ((shift ^ d) e)).card + 1 := by
  rw [tapPattern, Finset.card_insert_of_notMem (c.not_mem_image k),
    Finset.card_image_of_injOn (c.injOn_feedback k _)]

/-- **The errors cancel.** -/
theorem syndrome_tapPattern {k : ℕ} (hk : k + d ≤ n) :
    syndrome shift e n (c.tapPattern k) = 0 := by
  have hfeed : ∑ i ∈ (c.support ((shift ^ d) e)).image (fun j => k + d - j), (shift ^ (n - i)) e =
      (shift ^ (n - k)) e := by
    rw [Finset.sum_image (c.injOn_feedback k _)]
    have hterm : ∀ j ∈ c.support ((shift ^ d) e), (shift ^ (n - (k + d - j))) e =
        (shift ^ (n - (k + d))) ((shift ^ j) e) := by
      intro j hj
      have hlt := c.mem_support_lt hj
      rw [show n - (k + d - j) = n - (k + d) + j by omega, pow_add]
      rfl
    rw [Finset.sum_congr rfl hterm, ← map_sum, c.sum_support, show n - k = n - (k + d) + d by omega,
      pow_add]
    rfl
  rw [syndrome, tapPattern, Finset.sum_insert (c.not_mem_image k), hfeed, c.add_self]

/-! ## How few errors it takes -/

/-- **It takes an even number** of errors, if the shifts of the unit vector have odd weight. -/
theorem even_of_mem_unnoticedSizes (hweight : c.weight ((shift ^ d) e) = 1)
    (hm : m ∈ unnoticedSizes shift e n P) : Even m ∧ 2 ≤ m := by
  obtain ⟨S, hne, -, hzero, rfl⟩ := hm
  have heven : Even S.card := by
    rw [← Nat.not_odd_iff_even]
    exact fun hodd => c.syndrome_ne_zero_of_odd hweight n hodd hzero
  refine ⟨heven, ?_⟩
  obtain ⟨r, hr⟩ := heven
  have hpos := hne.card_pos
  omega

/-- Two are not enough if no two places are a multiple of the order apart. -/
theorem two_notMem_unnoticedSizes (hinj : Function.Injective shift) (hn : ∀ i, P i → i ≤ n)
    (hfar : ∀ i j, P i → P j → i < j → ¬ orderOf shift ∣ j - i) :
    2 ∉ unnoticedSizes shift e n P := by
  rintro ⟨S, -, hP, hzero, hcard⟩
  obtain ⟨i, j, hij, rfl⟩ := Finset.card_eq_two.mp hcard
  have hi : P i := hP i (Finset.mem_insert_self _ _)
  have hj : P j := hP j (Finset.mem_insert_of_mem (Finset.mem_singleton_self _))
  rcases Nat.lt_or_gt_of_ne hij with hlt | hlt
  · exact hfar i j hi hj hlt ((c.syndrome_pair_eq_zero_iff hinj hlt (hn j hj)).mp hzero)
  · rw [Finset.pair_comm] at hzero
    exact hfar j i hj hi hlt ((c.syndrome_pair_eq_zero_iff hinj hlt (hn i hi)).mp hzero)

/-- **Two errors** are the fewest if two places are a multiple of the order apart. -/
theorem isLeast_two (hweight : c.weight ((shift ^ d) e) = 1) (hinj : Function.Injective shift)
    {i j : ℕ} (hi : P i) (hj : P j) (hij : i < j) (hjn : j ≤ n) (hdvd : orderOf shift ∣ j - i) :
    IsLeast (unnoticedSizes shift e n P) 2 := by
  refine ⟨⟨{i, j}, Finset.insert_nonempty _ _, ?_, ?_, Finset.card_pair hij.ne⟩,
    fun m hm => (c.even_of_mem_unnoticedSizes hweight hm).2⟩
  · intro k hk
    rcases Finset.mem_insert.mp hk with rfl | hk
    · exact hi
    · exact Finset.mem_singleton.mp hk ▸ hj
  · exact (c.syndrome_pair_eq_zero_iff hinj hij hjn).mpr hdvd

/-- **Four errors** are the fewest if two are not enough, the register is fed back to three
coordinates, and there is room for the pattern. -/
theorem isLeast_four (hweight : c.weight ((shift ^ d) e) = 1)
    (htwo : 2 ∉ unnoticedSizes shift e n P) (htaps : (c.support ((shift ^ d) e)).card = 3) {k : ℕ}
    (hk : k + d ≤ n) (hP : ∀ i, k ≤ i → i ≤ k + d → P i) :
    IsLeast (unnoticedSizes shift e n P) 4 := by
  refine ⟨⟨c.tapPattern k, Finset.insert_nonempty _ _, ?_, c.syndrome_tapPattern hk, ?_⟩, ?_⟩
  · exact fun i hi => hP i (c.mem_tapPattern hi).1 (c.mem_tapPattern hi).2
  · rw [c.card_tapPattern, htaps]
  · intro m hm
    obtain ⟨⟨r, hr⟩, hle⟩ := c.even_of_mem_unnoticedSizes hweight hm
    have hne : m ≠ 2 := fun h => htwo (h ▸ hm)
    omega

end Cyclic

end ShiftRegister
