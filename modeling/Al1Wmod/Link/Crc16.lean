import Mathlib.Data.List.Basic
import Mathlib.Logic.Function.Iterate

/-!
# CRC-16/CCITT-FALSE

`crc16_ccitt.c`: polynomial `0x1021`, initial value `0xFFFF`, no reflection, no final
exclusive or.  The parser folds bytes one at a time with `al1Crc16CcittUpdate`; the
builder calls `al1Crc16Ccitt` on the whole buffer.  The second is a loop of the first.
-/

namespace Al1Wmod

/-- `AL1_CRC16_INIT`. -/
def al1Crc16Init : UInt16 := 0xFFFF

/-- One turn of the loop over the eight bits of a byte. -/
def al1Crc16Shift (crc : UInt16) : UInt16 :=
  if crc &&& 0x8000 ≠ 0 then (crc <<< 1) ^^^ 0x1021 else crc <<< 1

/-- `al1_crc16_ccitt_update`: fold one byte into a running CRC. -/
def al1Crc16CcittUpdate (crc : UInt16) (byte : UInt8) : UInt16 :=
  al1Crc16Shift^[8] (crc ^^^ (byte.toUInt16 <<< 8))

/-- `al1_crc16_ccitt`: the CRC of a buffer. -/
def al1Crc16Ccitt (data : List UInt8) : UInt16 :=
  data.foldl al1Crc16CcittUpdate al1Crc16Init

-- The check value of CRC-16/CCITT-FALSE, as in `test_crc_known_answer`.
example : al1Crc16Ccitt [0x31, 0x32, 0x33, 0x34, 0x35, 0x36, 0x37, 0x38, 0x39] = 0x29B1 := by
  decide +kernel

/-- One more byte is one more update. -/
theorem al1Crc16Ccitt_snoc (data : List UInt8) (b : UInt8) :
    al1Crc16Ccitt (data ++ [b]) = al1Crc16CcittUpdate (al1Crc16Ccitt data) b := by
  simp [al1Crc16Ccitt]

end Al1Wmod
