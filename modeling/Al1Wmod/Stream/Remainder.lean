import Al1Wmod.Stream.ByteRegister
import Mathlib.Algebra.Polynomial.Div
import Mathlib.RingTheory.AdjoinRoot

/-!
# Shift registers divide polynomials

The coordinates of a register are the coefficients of a polynomial of degree below `d`.  A shift
multiplies by `X` and divides by a polynomial of degree `d`, its `modulus`, whose lower terms are
what `d` shifts make of the unit vector.

In the ring of residues this is multiplication by the root, and a register that reads bytes is
computed there (`Reader.residue_read`).  A polynomial of degree below `d` is its own remainder, so
it can be read off its residue (`poly_eq_modByMonic`).
-/

namespace ShiftRegister.Cyclic

open Polynomial

variable {V : Type*} [AddCommGroup V] {shift : AddMonoid.End V} {e : V} {d : ℕ}
  (c : Cyclic shift e d)

/-- The register, as a polynomial. -/
noncomputable def poly : V →+ (ZMod 2)[X] :=
  ∑ i ∈ Finset.range d, (monomial i).toAddMonoidHom.comp (c.coord i)

theorem poly_apply (v : V) : c.poly v = ∑ i ∈ Finset.range d, monomial i (c.coord i v) := by
  rw [poly, AddMonoidHom.finsetSum_apply]
  rfl

theorem poly_unit {j : ℕ} (hj : j < d) : c.poly ((shift ^ j) e) = X ^ j := by
  have hterm : ∀ i ∈ Finset.range d, monomial i (c.coord i ((shift ^ j) e)) =
      if i = j then (X : (ZMod 2)[X]) ^ j else 0 := by
    intro i hi
    rw [c.coord_pow i (Finset.mem_range.mp hi) j hj]
    split_ifs with hij
    · rw [hij, X_pow_eq_monomial]
    · exact monomial_zero_right i
  rw [poly_apply, Finset.sum_congr rfl hterm, Finset.sum_ite_eq',
    if_pos (Finset.mem_range.mpr hj)]

theorem degree_poly_lt (v : V) : (c.poly v).degree < d := by
  refine (degree_lt_iff_coeff_zero _ _).mpr fun m hm => ?_
  rw [poly_apply, finsetSum_coeff]
  refine Finset.sum_eq_zero fun i hi => coeff_monomial_of_ne _ fun him => ?_
  exact absurd (Finset.mem_range.mp hi) (Nat.not_lt.mpr (him ▸ hm))

/-- What the register divides by. -/
noncomputable def modulus : (ZMod 2)[X] := X ^ d + c.poly ((shift ^ d) e)

theorem monic_modulus : c.modulus.Monic := monic_X_pow_add (c.degree_poly_lt _)

theorem degree_modulus : c.modulus.degree = d := by
  rw [modulus, degree_add_eq_left_of_degree_lt, degree_X_pow]
  rw [degree_X_pow]
  exact c.degree_poly_lt _

/-- The register, in the ring of residues. -/
noncomputable def residue : V →+ AdjoinRoot c.modulus :=
  (AdjoinRoot.mk c.modulus).toAddMonoidHom.comp c.poly

theorem residue_apply (v : V) : c.residue v = AdjoinRoot.mk c.modulus (c.poly v) := rfl

/-- **A shift multiplies by the root.** -/
theorem residue_shift (v : V) :
    c.residue (shift v) = AdjoinRoot.root c.modulus * c.residue v := by
  have hhom : c.residue.comp shift =
      (AddMonoidHom.mulLeft (AdjoinRoot.root c.modulus)).comp c.residue := by
    refine c.hom_ext fun j hj => ?_
    show c.residue (shift ((shift ^ j) e)) =
      AdjoinRoot.root c.modulus * c.residue ((shift ^ j) e)
    have hnext : shift ((shift ^ j) e) = (shift ^ (j + 1)) e := by
      rw [pow_succ']
      rfl
    rw [hnext, residue_apply, residue_apply, c.poly_unit hj, ← AdjoinRoot.mk_X, ← map_mul,
      ← pow_succ']
    rcases Nat.lt_or_eq_of_le (Nat.succ_le_of_lt hj) with hlt | heq
    · rw [c.poly_unit hlt]
    · -- the highest power is divided
      rw [show j + 1 = d from heq, AdjoinRoot.mk_eq_mk, CharTwo.sub_eq_add, add_comm]
      exact dvd_rfl
  exact DFunLike.congr_fun hhom v

theorem residue_pow (n : ℕ) (v : V) :
    c.residue ((shift ^ n) v) = AdjoinRoot.root c.modulus ^ n * c.residue v := by
  induction n with
  | zero => rw [pow_zero, pow_zero, one_mul]; rfl
  | succ n ih =>
    rw [pow_succ', pow_succ', mul_assoc, ← ih, ← residue_shift]
    rfl

/-- **The remainder** is read off the residue. -/
theorem poly_eq_modByMonic {v : V} {p : (ZMod 2)[X]}
    (h : c.residue v = AdjoinRoot.mk c.modulus p) : c.poly v = p %ₘ c.modulus := by
  have hdvd : c.modulus ∣ c.poly v - p := AdjoinRoot.mk_eq_mk.mp h
  have hself : c.poly v %ₘ c.modulus = c.poly v := by
    rw [modByMonic_eq_self_iff c.monic_modulus, degree_modulus]
    exact c.degree_poly_lt v
  rw [← hself]
  exact modByMonic_eq_of_dvd_sub c.monic_modulus hdvd

end ShiftRegister.Cyclic

/-! ## Words and bytes as polynomials -/

namespace BitRegister

open Polynomial

variable {n : ℕ}

/-- The polynomial of a word: bit `i` is the coefficient of `X ^ i`. -/
noncomputable def wordPoly (v : BitVec n) : (ZMod 2)[X] :=
  ∑ i ∈ Finset.range n, if v.getLsbD i then X ^ i else 0

/-- It is that of the register, for whatever taps. -/
theorem cyclic_poly (taps v : BitVec n) : (cyclic taps).poly (.of v) = wordPoly v := by
  rw [ShiftRegister.Cyclic.poly_apply, wordPoly]
  refine Finset.sum_congr rfl fun i _ => ?_
  show monomial i (if v.getLsbD i then (1 : ZMod 2) else 0) = _
  split_ifs
  · exact (X_pow_eq_monomial i).symm
  · exact monomial_zero_right i

/-- The polynomial of a shift register is the one it was named for. -/
theorem cyclic_modulus {taps : BitVec n} (hn : 0 < n) :
    (cyclic taps).modulus = X ^ n + wordPoly taps := by
  rw [ShiftRegister.Cyclic.modulus, shift_pow_width taps hn, cyclic_poly]

end BitRegister

namespace ByteRegister

open Polynomial ShiftRegister BitRegister

/-- The polynomial of a byte string, the most significant bit of each byte first. -/
noncomputable def bytesPoly (data : List UInt8) : (ZMod 2)[X] :=
  data.foldl (fun D b => D * X ^ 8 + wordPoly b.toBitVec) 0

theorem bytesPoly_append (data : List UInt8) (b : UInt8) :
    bytesPoly (data ++ [b]) = bytesPoly data * X ^ 8 + wordPoly b.toBitVec := by
  rw [bytesPoly, List.foldl_append]
  rfl

namespace Reader

variable {V : Type*} [AddCommGroup V] {shift : AddMonoid.End V} {e : V} {k d : ℕ}
  (r : Reader shift e k) (c : Cyclic shift e d)

/-- A byte is added `k` powers up. -/
theorem residue_letter (hd : 0 < d) (b : UInt8) :
    c.residue (r.letter (ofByte b)) =
      AdjoinRoot.mk c.modulus (X ^ k * wordPoly b.toBitVec) := by
  have hunit : c.residue e = 1 := by
    rw [c.residue_apply, ← map_one (AdjoinRoot.mk c.modulus)]
    exact congrArg _ (c.poly_unit hd)
  have hhom : c.residue.comp r.letter = (AdjoinRoot.mk c.modulus).toAddMonoidHom.comp
      ((AddMonoidHom.mulLeft (X ^ k)).comp (cyclic 0#8).poly) := by
    refine hom_ext fun j hj => ?_
    show c.residue (r.letter _) = AdjoinRoot.mk c.modulus (X ^ k * (cyclic 0#8).poly _)
    rw [r.letter_unit j hj, c.residue_pow, hunit, mul_one, ← shift_pow_unit 0#8 hj,
      (cyclic 0#8).poly_unit hj, ← pow_add, map_pow, AdjoinRoot.mk_X]
  rw [← cyclic_poly 0#8]
  exact DFunLike.congr_fun hhom (ofByte b)

/-- **Bytes are divided.** -/
theorem residue_read (hd : 0 < d) (s : V) (data : List UInt8) :
    c.residue (r.read s data) = AdjoinRoot.mk c.modulus
      (bytesPoly data * X ^ (k + 8) + c.poly s * X ^ (8 * data.length)) := by
  induction data using List.reverseRecOn with
  | nil =>
    rw [c.residue_apply]
    exact congrArg _ (by rw [bytesPoly]; simp [read, absorb])
  | append_singleton data b ih =>
    have hread : r.read s (data ++ [b]) = (shift ^ 8) (r.read s data + r.letter (ofByte b)) := by
      rw [r.read_append]
      rfl
    rw [hread, c.residue_pow, map_add, ih, r.residue_letter c hd, bytesPoly_append, ← map_add,
      ← AdjoinRoot.mk_X, ← map_pow, ← map_mul, List.length_append, List.length_singleton]
    refine congrArg _ ?_
    ring

/-- **What is left is the remainder.** -/
theorem poly_read (hd : 0 < d) (s : V) (data : List UInt8) :
    c.poly (r.read s data) =
      (bytesPoly data * X ^ (k + 8) + c.poly s * X ^ (8 * data.length)) %ₘ c.modulus :=
  c.poly_eq_modByMonic (r.residue_read c hd s data)

end Reader

end ByteRegister
