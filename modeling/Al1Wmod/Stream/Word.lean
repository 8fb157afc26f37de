import Mathlib.Data.Nat.Bits

/-!
# Big-endian words

A 16-bit word on a byte stream: its high byte first.  `ofBytes` is the shift and the
bitwise or by which a receiver puts the two bytes together, `hi` and `lo` are the
shift and the mask by which a sender takes them apart.
-/

namespace Word16

/-- The word with these two bytes, the high byte first. -/
def ofBytes (hi lo : UInt8) : UInt16 := (hi.toUInt16 <<< 8) ||| lo.toUInt16

/-- The high byte. -/
def hi (w : UInt16) : UInt8 := (w >>> 8).toUInt8

/-- The low byte. -/
def lo (w : UInt16) : UInt8 := (w &&& 0xFF).toUInt8

@[simp] theorem toNat_hi (w : UInt16) : (hi w).toNat = w.toNat / 256 := by
  have h : w.toNat < 65536 := w.toNat_lt
  simp only [hi, UInt16.toNat_toUInt8, UInt16.toNat_shiftRight, Nat.shiftRight_eq_div_pow]
  rw [show (8 : UInt16).toNat % 16 = 8 from rfl]
  omega

@[simp] theorem toNat_lo (w : UInt16) : (lo w).toNat = w.toNat % 256 := by
  simp only [lo, UInt16.toNat_toUInt8, UInt16.toNat_and]
  rw [show (0xFF : UInt16).toNat = 2 ^ 8 - 1 from rfl, Nat.and_two_pow_sub_one_eq_mod]
  omega

theorem toNat_shiftLeft_eight (a : UInt8) : (a.toUInt16 <<< 8).toNat = a.toNat <<< 8 := by
  have ha : a.toNat < 256 := a.toNat_lt
  simp only [UInt16.toNat_shiftLeft, UInt8.toNat_toUInt16]
  rw [show (8 : UInt16).toNat % 16 = 8 from rfl, Nat.shiftLeft_eq]
  omega

theorem toNat_ofBytes (a b : UInt8) : (ofBytes a b).toNat = a.toNat * 256 + b.toNat := by
  have hb : b.toNat < 2 ^ 8 := b.toNat_lt
  rw [ofBytes, UInt16.toNat_or, toNat_shiftLeft_eight, UInt8.toNat_toUInt16,
    ← Nat.shiftLeft_add_eq_or_of_lt hb, Nat.shiftLeft_eq]

/-- The two bytes do not overlap, so an exclusive or puts them together as well. -/
theorem ofBytes_eq_xor (a b : UInt8) : ofBytes a b = (a.toUInt16 <<< 8) ^^^ b.toUInt16 := by
  have hb : b.toNat < 2 ^ 8 := b.toNat_lt
  apply UInt16.toNat_inj.mp
  rw [ofBytes, UInt16.toNat_or, UInt16.toNat_xor, toNat_shiftLeft_eight, UInt8.toNat_toUInt16]
  refine Nat.eq_of_testBit_eq fun i => ?_
  rw [Nat.testBit_or, Nat.testBit_xor, Nat.testBit_shiftLeft]
  by_cases hi : 8 ≤ i
  · have hlow : b.toNat.testBit i = false :=
      Nat.testBit_lt_two_pow (Nat.lt_of_lt_of_le hb (Nat.pow_le_pow_right (by decide) hi))
    rw [hlow, Bool.or_false, Bool.xor_false]
  · simp [hi]

/-- Taking a word apart and putting it together again. -/
@[simp] theorem ofBytes_hi_lo (w : UInt16) : ofBytes (hi w) (lo w) = w := by
  apply UInt16.toNat_inj.mp
  rw [toNat_ofBytes, toNat_hi, toNat_lo]
  omega

@[simp] theorem hi_ofBytes (a b : UInt8) : hi (ofBytes a b) = a := by
  have hb : b.toNat < 256 := b.toNat_lt
  apply UInt8.toNat_inj.mp
  rw [toNat_hi, toNat_ofBytes]
  omega

@[simp] theorem lo_ofBytes (a b : UInt8) : lo (ofBytes a b) = b := by
  have hb : b.toNat < 256 := b.toNat_lt
  apply UInt8.toNat_inj.mp
  rw [toNat_lo, toNat_ofBytes]
  omega

/-- Two bytes are the high and low byte of their word, and of no other. -/
theorem ofBytes_eq_iff {a b : UInt8} {w : UInt16} : ofBytes a b = w ↔ a = hi w ∧ b = lo w := by
  constructor
  · rintro rfl
    simp
  · rintro ⟨rfl, rfl⟩
    simp

/-- A length below `2 ^ 16` survives the conversion to a word. -/
theorem toNat_ofNat {n : ℕ} (h : n < 65536) : (UInt16.ofNat n).toNat = n := by
  rw [UInt16.toNat_ofNat']
  omega

end Word16
