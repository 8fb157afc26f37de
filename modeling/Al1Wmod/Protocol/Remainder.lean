import Al1Wmod.Link.Detection
import Al1Wmod.Protocol.Detection
import Al1Wmod.Stream.Remainder

/-!
# What the two CRCs compute

Both routines divide polynomials over two elements: `ap_crc8` by `x ^ 8 + x ^ 2 + x + 1` from zero
on, and `al1_crc16_ccitt` by `x ^ 16 + x ^ 12 + x ^ 5 + 1` from all ones on.  So a string with its
CRC behind it leaves nothing, and a CRC may be continued from that of a prefix.  That is what the
parsers do: `ap_parse_byte` takes LEN first and then what it has stored, and `al1_parser_feed` one
byte at a time.
-/

namespace Al1Wmod

open Polynomial Buffer ShiftRegister BitRegister ByteRegister

/-! ## CRC-8 -/

theorem crc8Cyclic_modulus : crc8Cyclic.modulus = X ^ 8 + X ^ 2 + X + 1 := by
  have hpoly : wordPoly crc8Taps = X ^ 2 + X + 1 := by
    simp [wordPoly, crc8Taps, Finset.sum_range_succ]
    ring
  have hmodulus : crc8Cyclic.modulus = X ^ 8 + wordPoly crc8Taps := @cyclic_modulus 8 _ (by decide)
  rw [hmodulus, hpoly]
  ring

/-- **CRC-8 is a remainder.** -/
theorem wordPoly_apCrc8 (data : List UInt8) : wordPoly (apCrc8 data).toBitVec =
    (bytesPoly data * X ^ 8) %ₘ (X ^ 8 + X ^ 2 + X + 1) := by
  have hread := crc8Reader.poly_read crc8Cyclic (by decide) 0 data
  rw [← ofByte_apCrc8, crc8Cyclic_modulus, map_zero, zero_mul, add_zero] at hread
  rw [← hread]
  exact (cyclic_poly crc8Taps _).symm

/-! ## CRC-16 -/

theorem crcCyclic_poly (v : UInt16) : crcCyclic.poly (.of v) = wordPoly v.toBitVec := by
  rw [← cyclic_poly 0x1021#16, Cyclic.poly_apply, Cyclic.poly_apply]
  rfl

theorem crcCyclic_modulus : crcCyclic.modulus = X ^ 16 + X ^ 12 + X ^ 5 + 1 := by
  have hpoly : wordPoly (0x1021 : UInt16).toBitVec = X ^ 12 + X ^ 5 + 1 := by
    simp [wordPoly, Finset.sum_range_succ]
    ring
  rw [Cyclic.modulus, crcShift_pow_sixteen, crcPoly, crcCyclic_poly, hpoly]
  ring

/-- **CRC-16 is a remainder**, with the initial value in front of the string. -/
theorem wordPoly_al1Crc16Ccitt (data : List UInt8) : wordPoly (al1Crc16Ccitt data).toBitVec =
    (bytesPoly data * X ^ 16 + (∑ i ∈ Finset.range 16, X ^ i) * X ^ (8 * data.length)) %ₘ
      (X ^ 16 + X ^ 12 + X ^ 5 + 1) := by
  have hinit : wordPoly (0xFFFF : UInt16).toBitVec = ∑ i ∈ Finset.range 16, X ^ i := by
    refine Finset.sum_congr rfl fun i hi => if_pos ?_
    revert i
    decide
  have hread := crcReader.poly_read crcCyclic (by decide) (.of 0xFFFF) data
  rw [← crcRegister_read, crcCyclic_modulus, crcCyclic_poly, crcCyclic_poly, hinit] at hread
  exact hread

/-! ## In two passes -/

/-- `ap_parse_byte` continues the CRC of LEN over the bytes it has stored. -/
theorem apParseByte_complete_iff {p : ApParser} (hp : p.state = .crc) (b : UInt8) :
    (apParseByte p b).2 = .complete ↔ b = apCrc8 (p.len :: slice p.data 0 p.len.toNat) := by
  rw [apCrc8_cons]
  by_cases hb : b = (slice p.data 0 p.len.toNat).foldl apCrc8Update (apCrc8 [p.len])
  · simp [apParseByte, hp, hb]
  · simp [apParseByte, hp, hb]

/-- `al1_parser_feed` has folded in `VER..PAYLOAD` when it waits for the CRC. -/
theorem al1ParserFeed_crcCalc {maxPayload : ℕ} {p : Al1Parser} (hp : p.state = .sync)
    (data : List UInt8) :
    let q := (al1ParserFeed maxPayload p data).1
    q.state = .crcHi ∨ q.state = .crcLo →
      q.crcCalc = LinkFrame.crc ⟨q.channel, q.seq, slice q.payload 0 q.len.toNat⟩ := by
  intro q hstate
  have hrep : Represents maxPayload q _ :=
    (al1ParserFeed_framer (represents_nil_iff.mpr hp) data).represents
  unfold Represents at hrep
  have hcrc : ∃ hi lo, q.len = Word16.ofBytes hi lo ∧ q.crcCalc = al1Crc16Ccitt
      (al1LinkVersion :: q.channel :: q.seq :: hi :: lo :: slice q.payload 0 q.len.toNat) := by
    rcases hstate with hs | hs
    · simp only [hs] at hrep
      obtain ⟨hi, lo, hacc, hlen, -, hcrc⟩ := hrep
      rw [hacc] at hcrc
      exact ⟨hi, lo, hlen, hcrc⟩
    · simp only [hs] at hrep
      obtain ⟨hi, lo, -, -, hlen, -, -, hcrc⟩ := hrep
      exact ⟨hi, lo, hlen, hcrc⟩
  obtain ⟨hi, lo, hlen, hcrc⟩ := hcrc
  have hfield : LinkFrame.len ⟨q.channel, q.seq, slice q.payload 0 q.len.toNat⟩ = q.len := by
    rw [LinkFrame.len, length_slice, UInt16.ofNat_toNat]
  rw [LinkFrame.crc, LinkFrame.covered, hfield, hlen, Word16.hi_ofBytes, Word16.lo_ofBytes, ← hlen]
  exact hcrc

/-! ## Both routines -/

/-- **The CRCs are remainders.**  A string with its CRC behind it leaves zero, and so does what the
builders write; and a CRC is continued from that of a prefix, as the parsers do. -/
theorem crcs_are_remainders :
    ((∀ data, wordPoly (apCrc8 data).toBitVec =
        (bytesPoly data * X ^ 8) %ₘ (X ^ 8 + X ^ 2 + X + 1)) ∧
      (∀ data, apCrc8 (data ++ [apCrc8 data]) = 0) ∧
      (∀ c : ApBuild, apCrc8 (c.bytes.drop 1) = 0) ∧
      (∀ pre post, post.foldl apCrc8Update (apCrc8 pre) = apCrc8 (pre ++ post)) ∧
      ∀ (p : ApParser) (b : UInt8), p.state = .crc →
        ((apParseByte p b).2 = .complete ↔ b = apCrc8 (p.len :: slice p.data 0 p.len.toNat))) ∧
    (∀ data, wordPoly (al1Crc16Ccitt data).toBitVec =
        (bytesPoly data * X ^ 16 + (∑ i ∈ Finset.range 16, X ^ i) * X ^ (8 * data.length)) %ₘ
          (X ^ 16 + X ^ 12 + X ^ 5 + 1)) ∧
      (∀ data, al1Crc16Ccitt
        (data ++ [Word16.hi (al1Crc16Ccitt data), Word16.lo (al1Crc16Ccitt data)]) = 0) ∧
      (∀ (maxPayload : ℕ) (f : LinkFrame), f.Fits maxPayload →
        al1Crc16Ccitt ((f.build maxPayload).drop 1) = 0) ∧
      (∀ pre post, post.foldl al1Crc16CcittUpdate (al1Crc16Ccitt pre) =
        al1Crc16Ccitt (pre ++ post)) ∧
      ∀ (maxPayload : ℕ) (p : Al1Parser) (data : List UInt8), p.state = .sync →
        let q := (al1ParserFeed maxPayload p data).1
        q.state = .crcHi ∨ q.state = .crcLo →
          q.crcCalc = LinkFrame.crc ⟨q.channel, q.seq, slice q.payload 0 q.len.toNat⟩ := by
  refine ⟨⟨wordPoly_apCrc8, fun data => ?_, ApBuild.apCrc8_checked, fun pre post => ?_, ?_⟩,
    wordPoly_al1Crc16Ccitt, fun data => ?_, ?_, fun pre post => ?_, ?_⟩
  · exact apCrc8_append_eq_zero_iff.mpr rfl
  · exact List.foldl_append.symm
  · intro p b hp
    exact apParseByte_complete_iff hp b
  · exact al1Crc16Ccitt_word_eq_zero_iff.mpr (Word16.ofBytes_hi_lo _)
  · intro maxPayload f hf
    rw [LinkFrame.build_eq hf]
    exact crcRegister_checked f
  · exact List.foldl_append.symm
  · intro maxPayload p data hp
    exact al1ParserFeed_crcCalc hp data

/-- The check values of both, for the digits from 1 to 9. -/
theorem crcs_are_remainders_check :
    let digits : List UInt8 := [0x31, 0x32, 0x33, 0x34, 0x35, 0x36, 0x37, 0x38, 0x39]
    wordPoly 0xF4#8 = (bytesPoly digits * X ^ 8) %ₘ (X ^ 8 + X ^ 2 + X + 1) ∧
      wordPoly 0x29B1#16 =
        (bytesPoly digits * X ^ 16 + (∑ i ∈ Finset.range 16, X ^ i) * X ^ (8 * 9)) %ₘ
          (X ^ 16 + X ^ 12 + X ^ 5 + 1) := by
  intro digits
  have hcrc8 : apCrc8 digits = 0xF4 := by decide +kernel
  have hcrc16 : al1Crc16Ccitt digits = 0x29B1 := by decide +kernel
  have h8 := crcs_are_remainders.1.1 digits
  have h16 := crcs_are_remainders.2.1 digits
  rw [hcrc8] at h8
  rw [hcrc16] at h16
  exact ⟨h8, h16⟩

end Al1Wmod
