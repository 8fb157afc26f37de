import Al1Wmod.Protocol.Crc8
import Al1Wmod.Stream.ByteRegister

/-!
# The table as a shift register

The entry of `crc8_table` at `v` is `v` after eight shifts, with the taps of
`x ^ 8 + x ^ 2 + x + 1`.  That is checked entry by entry, and nothing else is ever said about the
table: `ap_crc8` is a shift register that reads bytes into its eight bits.

The polynomial has four terms, so each shift keeps the parity of the bits, and a constant term, so
no shift loses anything.
-/

namespace Al1Wmod

open ShiftRegister BitRegister ByteRegister

/-- The polynomial, without its highest term. -/
def crc8Taps : BitVec 8 := 0x07#8

/-- One shift. -/
def crc8Shift : AddMonoid.End (Bits 8) := shift crc8Taps

/-- The bits of the register. -/
def crc8Cyclic : Cyclic crc8Shift unit 8 := cyclic crc8Taps

theorem crc8Shift_injective : Function.Injective crc8Shift := shift_injective (by decide)

/-- The polynomial has three bits below its highest term. -/
theorem weight_crc8Taps : crc8Cyclic.weight ((crc8Shift ^ 8) unit) = 1 := by
  rw [crc8Cyclic.weight_apply]
  decide +kernel

/-- The table, entry by entry. -/
theorem crc8Table_toList : crc8Table.toList.map ofByte =
    (List.range 256).map fun n => (crc8Shift ^ 8) (.of (BitVec.ofNat 8 n)) := by
  decide +kernel

/-- **Every entry of the table** is its index after eight shifts. -/
theorem crc8Table_getD (v : UInt8) :
    ofByte (crc8Table.getD v.toNat 0) = (crc8Shift ^ 8) (ofByte v) := by
  have hentry := congrArg (·[v.toNat]?) crc8Table_toList
  rw [List.getElem?_map, List.getElem?_map, List.getElem?_range v.toNat_lt, Option.map_some,
    Option.map_eq_some_iff] at hentry
  obtain ⟨entry, hget, hshift⟩ := hentry
  rw [Array.getElem?_toList] at hget
  have hindex : BitVec.ofNat 8 v.toNat = v.toBitVec := BitVec.ofNat_toNat ..
  rw [Array.getD_eq_getD_getElem?, hget, Option.getD_some, hshift, hindex]
  rfl

/-- **The register reads bytes**, as they are. -/
def crc8Reader : Reader crc8Shift unit 0 where
  letter := AddMonoidHom.id _
  letter_unit j hj := by
    rw [zero_add]
    exact (shift_pow_unit crc8Taps hj).symm

/-- **The table-driven CRC** is what the register makes of the bytes. -/
theorem ofByte_foldl_apCrc8Update (crc : UInt8) (data : List UInt8) :
    ofByte (data.foldl apCrc8Update crc) = crc8Reader.read (ofByte crc) data := by
  induction data generalizing crc with
  | nil => rfl
  | cons b data ih =>
    rw [List.foldl_cons, ih, apCrc8Update, crc8Table_getD, ofByte_xor]
    rfl

theorem ofByte_apCrc8 (data : List UInt8) : ofByte (apCrc8 data) = crc8Reader.read 0 data :=
  ofByte_foldl_apCrc8Update 0 data

theorem ofByte_eq_zero_iff {b : UInt8} : ofByte b = 0 ↔ b = 0 :=
  UInt8.toBitVec_inj

/-- **A message with its CRC leaves zero**, and with no other byte. -/
theorem apCrc8_append_eq_zero_iff {data : List UInt8} {crc : UInt8} :
    apCrc8 (data ++ [crc]) = 0 ↔ crc = apCrc8 data := by
  have hlast : ofByte (apCrc8 (data ++ [crc])) =
      (crc8Shift ^ 8) (ofByte (apCrc8 data) + ofByte crc) := by
    rw [ofByte_apCrc8, crc8Reader.read_append, ← ofByte_apCrc8]
    rfl
  rw [← ofByte_eq_zero_iff, hlast, ← map_zero (crc8Shift ^ 8),
    (pow_injective crc8Shift crc8Shift_injective 8).eq_iff, crc8Cyclic.add_eq_zero_iff, eq_comm]
  exact UInt8.toBitVec_inj

end Al1Wmod
