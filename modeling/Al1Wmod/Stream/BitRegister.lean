import Al1Wmod.Stream.ShiftRegister
import Mathlib.Data.BitVec

/-!
# Shift registers of bits

The shift register of a polynomial over two elements.  A word of `n` bits is shifted up by one
place, and if a bit is pushed out at the top, the lower terms of the polynomial (its `taps`) are
added by exclusive or.  The unit vectors are the first `n` shifts of the lowest bit, and nothing is
lost as long as the polynomial has a constant term.
-/

namespace BitRegister

open ShiftRegister

variable {n : ℕ}

/-- A word of `n` bits, with exclusive or as its addition. -/
def Bits (n : ℕ) : Type := BitVec n

namespace Bits

/-- A word, as a register. -/
def of (w : BitVec n) : Bits n := w

instance : DecidableEq (Bits n) := inferInstanceAs (DecidableEq (BitVec n))

instance : Add (Bits n) := ⟨fun v w : BitVec n => v ^^^ w⟩

instance : Zero (Bits n) := ⟨(0#n)⟩

instance : Neg (Bits n) := ⟨id⟩

instance : AddCommGroup (Bits n) where
  add_assoc := BitVec.xor_assoc
  zero_add := fun _ => BitVec.zero_xor
  add_zero := fun _ => BitVec.xor_zero
  nsmul := nsmulRec
  zsmul := zsmulRec
  neg_add_cancel := fun _ => BitVec.xor_self
  add_comm := BitVec.xor_comm

theorem of_inj {v w : BitVec n} : of v = of w ↔ v = w := Iff.rfl

theorem getLsbD_zero (i : ℕ) : BitVec.getLsbD (0 : Bits n) i = false := BitVec.getLsbD_zero

theorem of_xor (v w : BitVec n) : of (v ^^^ w) = of v + of w := rfl

end Bits

/-- One shift. -/
def shiftWord (taps v : BitVec n) : BitVec n := v <<< 1 ^^^ if v.msb then taps else 0#n

/-- **The shift is linear.** -/
theorem shiftWord_xor (taps v w : BitVec n) :
    shiftWord taps (v ^^^ w) = shiftWord taps v ^^^ shiftWord taps w := by
  have htaps : (if (v ^^^ w).msb then taps else 0#n) =
      (if v.msb then taps else 0#n) ^^^ if w.msb then taps else 0#n := by
    rw [BitVec.msb_xor]
    cases v.msb <;> cases w.msb <;> simp
  rw [shiftWord, shiftWord, shiftWord, htaps, BitVec.shiftLeft_xor_distrib]
  ac_rfl

/-- The shift, as an endomorphism. -/
def shift (taps : BitVec n) : AddMonoid.End (Bits n) :=
  AddMonoidHom.mk' (shiftWord taps) (shiftWord_xor taps)

/-- Bit `i` of a word. -/
def bit (i : ℕ) : Bits n →+ ZMod 2 :=
  AddMonoidHom.mk' (fun v : BitVec n => if v.getLsbD i then 1 else 0) fun v w : BitVec n => by
    show (if (v ^^^ w).getLsbD i then (1 : ZMod 2) else 0) = _
    rw [BitVec.getLsbD_xor]
    cases v.getLsbD i <;> cases w.getLsbD i <;> decide

/-- The word with only its lowest bit set. -/
def unit : Bits n := .of 1#n

/-- A single bit, below the top, only moves up. -/
theorem shiftWord_twoPow (taps : BitVec n) {j : ℕ} (hj : j + 1 < n) :
    shiftWord taps (BitVec.twoPow n j) = BitVec.twoPow n (j + 1) := by
  have htop : (BitVec.twoPow n j).msb = false := by
    rw [BitVec.msb_twoPow]
    have hne : j ≠ n - 1 := by omega
    simp [hne]
  rw [shiftWord, htop, if_neg Bool.false_ne_true, BitVec.xor_zero, BitVec.twoPow_eq,
    BitVec.twoPow_eq, BitVec.shiftLeft_add]

theorem shift_pow_unit (taps : BitVec n) {j : ℕ} (hj : j < n) :
    (shift taps ^ j) unit = .of (BitVec.twoPow n j) := by
  induction j with
  | zero => exact BitVec.twoPow_zero.symm
  | succ j ih =>
    rw [pow_succ']
    show shiftWord taps ((shift taps ^ j) unit) = _
    rw [ih (Nat.lt_of_succ_lt hj)]
    exact shiftWord_twoPow taps hj

/-- The top bit is pushed out, and leaves the taps. -/
theorem shift_pow_width (taps : BitVec n) (hn : 0 < n) : (shift taps ^ n) unit = .of taps := by
  obtain ⟨m, rfl⟩ := Nat.exists_eq_add_one_of_ne_zero hn.ne'
  have htop : (BitVec.twoPow (m + 1) m).msb = true := by
    rw [BitVec.msb_twoPow]
    simp
  rw [pow_succ']
  show shiftWord taps ((shift taps ^ m) unit) = taps
  rw [shift_pow_unit taps (Nat.lt_succ_self m)]
  show shiftWord taps (BitVec.twoPow (m + 1) m) = taps
  rw [shiftWord, htop, if_pos rfl, BitVec.twoPow_eq, ← BitVec.shiftLeft_add,
    BitVec.shiftLeft_eq_zero le_rfl, BitVec.zero_xor]

/-- **The unit vectors** are shifts of the lowest bit. -/
def cyclic (taps : BitVec n) : Cyclic (shift taps) unit n where
  coord := bit
  coord_pow i hi j hj := by
    rw [shift_pow_unit taps hj]
    show (if (BitVec.twoPow n j).getLsbD i then (1 : ZMod 2) else 0) = _
    rw [BitVec.getLsbD_twoPow, decide_eq_true hj]
    simp [eq_comm]
  ext v h := by
    refine BitVec.eq_of_getLsbD_eq fun i hi => ?_
    have hbit : (if BitVec.getLsbD v i then (1 : ZMod 2) else 0) = 0 := h i hi
    by_contra hne
    rw [Bits.getLsbD_zero, Bool.not_eq_false] at hne
    rw [hne] at hbit
    exact one_ne_zero hbit

/-- With a constant term, the bit that is pushed out is left at the bottom. -/
theorem eq_zero_of_shiftWord {taps v : BitVec n} (h : taps.getLsbD 0)
    (hv : shiftWord taps v = 0#n) : v = 0#n := by
  have hmsb : v.msb = false := by
    have hlow := congrArg (BitVec.getLsbD · 0) hv
    cases htop : v.msb
    · rfl
    · rw [shiftWord, htop, if_pos rfl, BitVec.getLsbD_xor, h, BitVec.getLsbD_zero,
        BitVec.getLsbD_shiftLeft] at hlow
      simp at hlow
  rw [shiftWord, hmsb, if_neg Bool.false_ne_true, BitVec.xor_zero] at hv
  refine BitVec.eq_of_getLsbD_eq fun i hi => ?_
  rw [BitVec.getLsbD_zero]
  rcases Nat.lt_or_eq_of_le (Nat.succ_le_of_lt hi) with hlt | heq
  · have hbit := congrArg (BitVec.getLsbD · (i + 1)) hv
    simpa [BitVec.getLsbD_shiftLeft, hlt, ← BitVec.getLsbD_eq_getElem] using hbit
  · have hlast : i = n - 1 := Nat.eq_sub_of_add_eq heq
    rw [← hmsb, BitVec.msb_eq_getLsbD_last, hlast]

/-- So the shift of a polynomial with a constant term loses nothing. -/
theorem shift_injective {taps : BitVec n} (h : taps.getLsbD 0) :
    Function.Injective (shift taps) :=
  (injective_iff_map_eq_zero (shift taps)).mpr fun _ => eq_zero_of_shiftWord h

end BitRegister
