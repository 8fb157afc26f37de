import Al1Wmod.Link.Crc16
import Al1Wmod.Link.Flips
import Al1Wmod.Stream.Word
import Mathlib.Data.Nat.Bitwise
import Mathlib.Data.Nat.Prime.Basic
import Mathlib.Tactic.NormNum.Prime

/-!
# The CRC as a shift register

`al1Crc16Shift` is linear: a word is a vector of bits, exclusive or is its addition, and the
conditional exclusive or with the polynomial is a linear function of the top bit.  So the CRC of
`crc16_ccitt.c` is a linear shift register that reads bytes, eight shifts each, and whose unit
vectors are the sixteen words with one bit.

The polynomial `x ^ 16 + x ^ 12 + x ^ 5 + 1` has four terms, so each shift keeps the parity of the
bits, and its order is 32767.  A message followed by its CRC leaves zero in the register, and a
flipped bit adds a shift of the unit vector.
-/

namespace Al1Wmod

open ShiftRegister BitRegister ByteRegister

/-- A word of sixteen bits, with exclusive or as its addition. -/
def CrcRegister : Type := UInt16

namespace CrcRegister

instance : DecidableEq CrcRegister := inferInstanceAs (DecidableEq UInt16)

instance : Add CrcRegister := ⟨fun a b : UInt16 => a ^^^ b⟩

instance : Zero CrcRegister := ⟨(0 : UInt16)⟩

instance : Neg CrcRegister := ⟨id⟩

instance : AddCommGroup CrcRegister where
  add_assoc := UInt16.xor_assoc
  zero_add := fun _ => UInt16.zero_xor
  add_zero := fun _ => UInt16.xor_zero
  nsmul := nsmulRec
  zsmul := zsmulRec
  neg_add_cancel := fun _ => UInt16.xor_self
  add_comm := UInt16.xor_comm

/-- A word, as a register. -/
def of (w : UInt16) : CrcRegister := w

theorem of_inj {v w : UInt16} : of v = of w ↔ v = w := Iff.rfl

theorem of_xor (v w : UInt16) : of (v ^^^ w) = of v + of w := rfl

/-- The bits of a register. -/
def bits (v : CrcRegister) : Bits 16 := .of (UInt16.toBitVec v)

theorem bits_inj {v w : CrcRegister} : v.bits = w.bits ↔ v = w := UInt16.toBitVec_inj

end CrcRegister

/-! ## The shift -/

/-- The top bit decides whether the polynomial is added. -/
theorem al1Crc16Shift_eq (v : UInt16) :
    al1Crc16Shift v = v <<< 1 ^^^ if v.toNat.testBit 15 then 0x1021 else 0 := by
  have htop : v &&& 0x8000 ≠ 0 ↔ v.toNat.testBit 15 = true := by
    rw [Ne, ← UInt16.toNat_inj, UInt16.toNat_and, show (0x8000 : UInt16).toNat = 2 ^ 15 from rfl,
      Nat.and_two_pow]
    cases v.toNat.testBit 15 <;> simp
  rw [al1Crc16Shift]
  by_cases h : v.toNat.testBit 15 = true
  · rw [if_pos (htop.mpr h), if_pos h]
  · rw [if_neg (htop.not.mpr h), if_neg h, UInt16.xor_zero]

/-- It is the shift of the register with these taps. -/
theorem toBitVec_al1Crc16Shift (v : UInt16) :
    (al1Crc16Shift v).toBitVec = shiftWord 0x1021#16 v.toBitVec := by
  have htop : v.toBitVec.msb = v.toNat.testBit 15 := rfl
  rw [al1Crc16Shift_eq, shiftWord, htop, UInt16.toBitVec_xor, apply_ite UInt16.toBitVec]
  rfl

/-- **The shift is linear.** -/
theorem al1Crc16Shift_xor (v w : UInt16) :
    al1Crc16Shift (v ^^^ w) = al1Crc16Shift v ^^^ al1Crc16Shift w := by
  rw [← UInt16.toBitVec_inj, UInt16.toBitVec_xor, toBitVec_al1Crc16Shift, toBitVec_al1Crc16Shift,
    toBitVec_al1Crc16Shift, UInt16.toBitVec_xor, shiftWord_xor]

/-- `al1Crc16Shift`, as an endomorphism. -/
def crcShift : AddMonoid.End CrcRegister := AddMonoidHom.mk' al1Crc16Shift al1Crc16Shift_xor

theorem bits_crcShift (v : CrcRegister) : (crcShift v).bits = shift 0x1021#16 v.bits :=
  toBitVec_al1Crc16Shift v

theorem bits_crcShift_pow (k : ℕ) (v : CrcRegister) :
    ((crcShift ^ k) v).bits = (shift 0x1021#16 ^ k) v.bits := by
  induction k with
  | zero => rfl
  | succ k ih =>
    rw [pow_succ', pow_succ']
    exact (bits_crcShift _).trans (congrArg (shift 0x1021#16) ih)

theorem crcShift_injective : Function.Injective crcShift := by
  intro v w h
  have hbits : shift 0x1021#16 v.bits = shift 0x1021#16 w.bits := by
    rw [← bits_crcShift, ← bits_crcShift, h]
  exact CrcRegister.bits_inj.mp (shift_injective (by decide) hbits)

/-! ## Its coordinates -/

/-- Bit `i` of a word. -/
def crcBit (i : ℕ) : CrcRegister →+ ZMod 2 :=
  AddMonoidHom.mk' (fun v : UInt16 => if v.toNat.testBit i then 1 else 0) fun v w : UInt16 => by
    show (if (v ^^^ w).toNat.testBit i then (1 : ZMod 2) else 0) = _
    rw [UInt16.toNat_xor, Nat.testBit_xor]
    cases v.toNat.testBit i <;> cases w.toNat.testBit i <;> decide

/-- The word with only its last bit set. -/
def crcUnit : CrcRegister := .of 1

/-- **The CRC register** has sixteen bits, and they are shifts of the last one. -/
def crcCyclic : Cyclic crcShift crcUnit 16 where
  coord := crcBit
  coord_pow i hi j hj := by
    show bit i ((crcShift ^ j) crcUnit).bits = _
    rw [bits_crcShift_pow]
    exact (cyclic 0x1021#16).coord_pow i hi j hj
  ext v h := CrcRegister.bits_inj.mp ((cyclic 0x1021#16).ext v.bits h)

/-- The polynomial, without its highest term: what the top bit is shifted into. -/
def crcPoly : CrcRegister := .of 0x1021

theorem crcShift_pow_sixteen : (crcShift ^ 16) crcUnit = crcPoly := by decide +kernel

/-- It has three bits. -/
theorem weight_crcPoly : crcCyclic.weight ((crcShift ^ 16) crcUnit) = 1 := by
  rw [crcShift_pow_sixteen, crcCyclic.weight_apply]
  decide +kernel

/-- 32767 shifts bring back the unit word. -/
theorem crcShift_pow_order : (crcShift ^ 32767) crcUnit = crcUnit := by
  have halong : crcCyclic.along (List.replicate 15 false) = crcUnit := by decide +kernel
  exact (crcCyclic.along_eq (List.replicate 15 false)).symm.trans halong

/-- Squaring decides about any one number of shifts. -/
theorem crcShift_pow_ne {n : ℕ} (digits : List Bool)
    (hn : digits.foldl (fun n b => if b then 2 * n + 2 else 2 * n + 1) 0 = n)
    (h : crcCyclic.along digits ≠ crcUnit) : crcShift ^ n ≠ 1 := by
  rw [Ne, crcCyclic.pow_eq_one_iff, ← hn, ← crcCyclic.along_eq]
  exact h

/-- **The order of the shift.**  `32767 = 7 * 31 * 151`, and no proper divisor will do. -/
theorem orderOf_crcShift : orderOf crcShift = 32767 := by
  refine orderOf_eq_of_pow_and_pow_div_prime (by decide)
    (crcCyclic.pow_eq_one_iff.mpr crcShift_pow_order) fun p hp hdvd => ?_
  have hfactors : p = 7 ∨ p = 31 ∨ p = 151 := by
    have hdvd' : p ∣ 7 * 31 * 151 := hdvd
    rcases hp.dvd_mul.mp hdvd' with h | h
    · rcases hp.dvd_mul.mp h with h | h
      · exact Or.inl ((Nat.prime_dvd_prime_iff_eq hp (by norm_num)).mp h)
      · exact Or.inr (Or.inl ((Nat.prime_dvd_prime_iff_eq hp (by norm_num)).mp h))
    · exact Or.inr (Or.inr ((Nat.prime_dvd_prime_iff_eq hp (by norm_num)).mp h))
  rcases hfactors with rfl | rfl | rfl
  · exact crcShift_pow_ne [false, false, true, false, false, true, false, false, true, false, true,
      false] (by decide) (by decide +kernel)
  · exact crcShift_pow_ne [false, false, false, false, true, false, false, false, true, false]
      (by decide) (by decide +kernel)
  · exact crcShift_pow_ne [true, false, true, true, false, true, false] (by decide)
      (by decide +kernel)

/-! ## Folding in bytes -/

/-- A byte as it is added to the register. -/
def crcLetter (b : UInt8) : CrcRegister := .of (b.toUInt16 <<< 8)

/-- **Folding in bytes** is absorbing them, eight shifts each. -/
theorem crcRegister_foldl (crc : UInt16) (data : List UInt8) :
    CrcRegister.of (data.foldl al1Crc16CcittUpdate crc) =
      absorb (crcShift ^ 8) (.of crc) (data.map crcLetter) := by
  rw [absorb, List.foldl_map]
  rfl

theorem crcLetter_xor (b c : UInt8) : crcLetter (b ^^^ c) = crcLetter b + crcLetter c := by
  rw [crcLetter, UInt8.toUInt16_xor, UInt16.shiftLeft_xor, CrcRegister.of_xor]
  rfl

/-- A low byte goes up in eight shifts, and no bit is pushed out. -/
theorem crcShift_pow_low (b : UInt8) : (crcShift ^ 8) (.of b.toUInt16) = crcLetter b := by
  have hall : ∀ n < 256, (crcShift ^ 8) (.of (UInt8.ofNat n).toUInt16) =
      crcLetter (UInt8.ofNat n) := by decide +kernel
  have hb := hall b.toNat b.toNat_lt
  rwa [UInt8.ofNat_toNat] at hb

/-- A message and a word behind it. -/
theorem crcRegister_word (data : List UInt8) (hi lo : UInt8) :
    CrcRegister.of (al1Crc16Ccitt (data ++ [hi, lo])) =
      (crcShift ^ 16) (.of (al1Crc16Ccitt data) + .of (Word16.ofBytes hi lo)) := by
  rw [al1Crc16Ccitt, List.foldl_append, crcRegister_foldl, Word16.ofBytes_eq_xor,
    CrcRegister.of_xor, show crcShift ^ 16 = crcShift ^ 8 * crcShift ^ 8 from pow_add crcShift 8 8]
  show (crcShift ^ 8) ((crcShift ^ 8) (_ + crcLetter hi) + crcLetter lo) = _
  rw [← crcShift_pow_low lo, ← map_add, add_assoc]
  rfl

/-- **A message with its CRC leaves zero**, and with no other word. -/
theorem al1Crc16Ccitt_word_eq_zero_iff {data : List UInt8} {hi lo : UInt8} :
    al1Crc16Ccitt (data ++ [hi, lo]) = 0 ↔ Word16.ofBytes hi lo = al1Crc16Ccitt data := by
  have hzero : CrcRegister.of 0 = (crcShift ^ 16) 0 := (map_zero (crcShift ^ 16)).symm
  rw [← CrcRegister.of_inj, crcRegister_word, hzero]
  refine (pow_injective crcShift crcShift_injective 16).eq_iff.trans ?_
  exact crcCyclic.add_eq_zero_iff.trans eq_comm

/-! ## Flipped bits -/

/-- **The register reads bytes**, with a byte in its upper half. -/
def crcReader : Reader crcShift crcUnit 8 where
  letter := AddMonoidHom.mk' (fun v : BitVec 8 => crcLetter (.ofBitVec v)) fun v w =>
    crcLetter_xor (.ofBitVec v) (.ofBitVec w)
  letter_unit := by decide +kernel

theorem crcRegister_read (data : List UInt8) :
    CrcRegister.of (al1Crc16Ccitt data) = crcReader.read (.of 0xFFFF) data :=
  crcRegister_foldl 0xFFFF data

/-- **Flipped bits** add their syndrome. -/
theorem crcRegister_flipBits {S : Finset ℕ} {bytes : List UInt8}
    (hS : ∀ i ∈ S, i < 8 * bytes.length) :
    CrcRegister.of (al1Crc16Ccitt (flipBits S bytes)) =
      .of (al1Crc16Ccitt bytes) + syndrome crcShift crcUnit (8 * bytes.length + 15) S := by
  rw [crcRegister_read, crcRegister_read]
  exact read_flipBits crcReader (.of 0xFFFF) hS

end Al1Wmod
