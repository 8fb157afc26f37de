import Al1Wmod.Stream.BitRegister

/-!
# Shift registers that read bytes

A register can absorb eight bits at once.  A byte is a vector of bits itself, and it is added to the
register as a whole, its bit `j` as the unit vector after `k + j` shifts; eight shifts follow.  A
`Reader` is an additive map that does this.  It is determined by the unit vectors of the byte, so
whatever is additive in the byte and known of single bits is known of all bytes
(`Reader.hom_ext`).
-/

namespace ByteRegister

open ShiftRegister BitRegister

variable {V : Type*} [AddCommGroup V] {shift : AddMonoid.End V} {e : V} {k : ℕ}

/-- A byte, as a vector of bits. -/
def ofByte (b : UInt8) : Bits 8 := .of b.toBitVec

theorem ofByte_xor (b c : UInt8) : ofByte (b ^^^ c) = ofByte b + ofByte c := rfl

/-- The bits of a byte are its unit vectors, for whatever taps. -/
theorem hom_ext {W : Type*} [AddCommMonoid W] {f g : Bits 8 →+ W}
    (h : ∀ j < 8, f (.of (BitVec.twoPow 8 j)) = g (.of (BitVec.twoPow 8 j))) : f = g := by
  refine (cyclic 0#8).hom_ext fun j hj => ?_
  rw [shift_pow_unit 0#8 hj]
  exact h j hj

/-- How bytes are added to a register: bit `j` goes in after `k + j` shifts of the unit vector. -/
structure Reader (shift : AddMonoid.End V) (e : V) (k : ℕ) where
  letter : Bits 8 →+ V
  letter_unit : ∀ j < 8, letter (.of (BitVec.twoPow 8 j)) = (shift ^ (k + j)) e

namespace Reader

variable (r : Reader shift e k)

/-- Read bytes, eight shifts each. -/
def read (s : V) (data : List UInt8) : V :=
  absorb (shift ^ 8) s (data.map fun b => r.letter (ofByte b))

theorem read_append (s : V) (data rest : List UInt8) :
    r.read s (data ++ rest) = r.read (r.read s data) rest := by
  rw [read, List.map_append, absorb_append]
  rfl

/-- **One wrong byte.** -/
theorem read_error (s : V) (data rest : List UInt8) (b d : UInt8) :
    r.read s (data ++ (b ^^^ d) :: rest) =
      r.read s (data ++ b :: rest) + (shift ^ (8 * (rest.length + 1))) (r.letter (ofByte d)) := by
  rw [read, read, List.map_append, List.map_append, List.map_cons, List.map_cons, ofByte_xor,
    map_add, absorb_error, List.length_map, ← pow_mul]

end Reader

end ByteRegister
