import Al1Wmod.Stream.ByteRegister
import Mathlib.Data.Finset.Sort

/-!
# Flipped bits

Noise on the line flips bits of a byte string.  They are counted in the order of the wire, the most
significant bit of a byte first, and what they leave in a register that reads bytes is the syndrome
of their places.
-/

namespace Al1Wmod

open ShiftRegister BitRegister ByteRegister

/-- Flip bit `i` of a byte string, counted in wire order with the most significant bit of each byte
first. -/
def flipBit (bytes : List UInt8) (i : ℕ) : List UInt8 :=
  bytes.modify (i / 8) (· ^^^ 0x80 >>> UInt8.ofNat (i % 8))

/-- Flip a set of bits. -/
def flipBits (S : Finset ℕ) (bytes : List UInt8) : List UInt8 := S.sort.foldl flipBit bytes

@[simp] theorem length_flipBit (bytes : List UInt8) (i : ℕ) :
    (flipBit bytes i).length = bytes.length := List.length_modify ..

theorem length_flipBits (S : Finset ℕ) (bytes : List UInt8) :
    (flipBits S bytes).length = bytes.length := by
  rw [flipBits]
  induction S.sort generalizing bytes with
  | nil => rfl
  | cons i l ih => rw [List.foldl_cons, ih, length_flipBit]

/-- A byte in which no bit is flipped stays. -/
theorem getElem?_flipBits {S : Finset ℕ} {k : ℕ} (h : ∀ i ∈ S, i / 8 ≠ k) (bytes : List UInt8) :
    (flipBits S bytes)[k]? = bytes[k]? := by
  have hl : ∀ i ∈ S.sort, i / 8 ≠ k := fun i hi => h i ((Finset.mem_sort _).mp hi)
  rw [flipBits]
  generalize S.sort = l at hl ⊢
  induction l generalizing bytes with
  | nil => rfl
  | cons i l ih =>
    obtain ⟨hi, hl⟩ := List.forall_mem_cons.mp hl
    rw [List.foldl_cons, ih _ hl, flipBit, List.getElem?_modify_ne _ _ hi]

/-! ## In a register -/

section Register

variable {V : Type*} [AddCommGroup V] {shift : AddMonoid.End V} {e : V} {k : ℕ}
  (r : Reader shift e k)

/-- The bit `j` of a byte, the most significant first. -/
theorem ofByte_mask {j : ℕ} (hj : j < 8) :
    ofByte (0x80 >>> UInt8.ofNat j) = .of (BitVec.twoPow 8 (7 - j)) := by
  revert j
  decide +kernel

include r

/-- **One flipped bit** adds a shift of the unit vector. -/
theorem read_flipBit (s : V) {bytes : List UInt8} {i : ℕ} (hi : i < 8 * bytes.length) :
    r.read s (flipBit bytes i) =
      r.read s bytes + (shift ^ (8 * bytes.length + (k + 7) - i)) e := by
  have hk : i / 8 < bytes.length := by omega
  have hj : i % 8 < 8 := Nat.mod_lt i (by decide)
  have hbytes : bytes = bytes.take (i / 8) ++ bytes[i / 8] :: bytes.drop (i / 8 + 1) := by
    rw [← List.drop_eq_getElem_cons hk, List.take_append_drop]
  have hshifts : 8 * ((bytes.drop (i / 8 + 1)).length + 1) + (k + (7 - i % 8)) =
      8 * bytes.length + (k + 7) - i := by
    rw [List.length_drop]
    omega
  rw [flipBit, List.modify_eq_take_cons_drop hk, r.read_error, ofByte_mask hj,
    r.letter_unit _ (by omega), ← hbytes, ← hshifts, pow_add shift (8 * _)]
  rfl

theorem read_foldl_flipBit (s : V) {l : List ℕ} {bytes : List UInt8}
    (hl : ∀ i ∈ l, i < 8 * bytes.length) :
    r.read s (l.foldl flipBit bytes) = r.read s bytes +
      (l.map fun i => (shift ^ (8 * bytes.length + (k + 7) - i)) e).sum := by
  induction l generalizing bytes with
  | nil => exact (add_zero _).symm
  | cons i l ih =>
    obtain ⟨hi, hl⟩ := List.forall_mem_cons.mp hl
    rw [List.foldl_cons, ih (by rwa [length_flipBit]), read_flipBit r s hi, length_flipBit,
      List.map_cons, List.sum_cons, add_assoc]

/-- **Flipped bits** add their syndrome. -/
theorem read_flipBits (s : V) {S : Finset ℕ} {bytes : List UInt8}
    (hS : ∀ i ∈ S, i < 8 * bytes.length) :
    r.read s (flipBits S bytes) =
      r.read s bytes + syndrome shift e (8 * bytes.length + (k + 7)) S := by
  have hsum := List.sum_toFinset (fun i => (shift ^ (8 * bytes.length + (k + 7) - i)) e)
    (Finset.sort_nodup S (· ≤ ·))
  rw [Finset.sort_toFinset] at hsum
  rw [flipBits, read_foldl_flipBit r s fun i hi => hS i ((Finset.mem_sort _).mp hi), ← hsum,
    syndrome]

end Register

end Al1Wmod
