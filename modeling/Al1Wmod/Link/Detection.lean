import Al1Wmod.Link.Crc16Register
import Al1Wmod.Link.Noise

/-!
# Which errors the link detects

Bits of a frame are flipped on the line, in CHANNEL, SEQ, PAYLOAD or CRC.  SYNC, VER and LEN are
intact, so the parser reads the frame to its end and the CRC decides: the frame is rejected exactly
if the syndrome of the flipped bits is not zero (`rejected_iff`).

A burst of sixteen bits and an odd number of bits are detected at every length.  Two bits are
detected unless they are 32767 places apart, and the longest frames have room for that: 4103 bytes
from VER to CRC are 32824 bits.
-/

namespace Al1Wmod

open Transducer ShiftRegister

/-- A bit of `VER..CRC` that lies in CHANNEL, SEQ, PAYLOAD or CRC. -/
def LinkFrame.ErrorBit (f : LinkFrame) (i : ℕ) : Prop :=
  (8 ≤ i ∧ i < 24) ∨ (40 ≤ i ∧ i < 8 * (f.payload.length + 7))

instance (f : LinkFrame) (i : ℕ) : Decidable (f.ErrorBit i) := inferInstanceAs (Decidable (_ ∨ _))

/-- The frame on the line, with the bits `S` of `VER..CRC` flipped. -/
def LinkFrame.flipped (maxPayload : ℕ) (f : LinkFrame) (S : Finset ℕ) : List UInt8 :=
  (f.build maxPayload).take 1 ++ flipBits S ((f.build maxPayload).drop 1)

/-- A parser in SYNC that is fed these bytes, in any chunks, makes no callback, counts one CRC error
and nothing else, and is in SYNC again. -/
def Rejected (maxPayload : ℕ) (bytes : List UInt8) : Prop :=
  ∀ (p : Al1Parser) (stats : Al1LinkStats) (chunks : List (List UInt8)),
    p.state = .sync → p.stats = some stats → chunks.flatten = bytes →
    let r := run (al1ParserFeed maxPayload) p chunks
    r.2 = [] ∧ r.1.state = .sync ∧
      r.1.stats = some { stats with rxCrcErr := stats.rxCrcErr + 1 }

section Flipped

variable {maxPayload : ℕ} {f : LinkFrame} {S : Finset ℕ}

/-- `VER..CRC`. -/
def LinkFrame.checked (f : LinkFrame) : List UInt8 := f.covered ++ [Word16.hi f.crc, Word16.lo f.crc]

theorem LinkFrame.length_checked (f : LinkFrame) : f.checked.length = f.payload.length + 7 := by
  rw [LinkFrame.checked, List.length_append, LinkFrame.length_covered]
  show 5 + f.payload.length + 2 = _
  omega

theorem LinkFrame.flipped_eq (hf : f.Fits maxPayload) (S : Finset ℕ) :
    f.flipped maxPayload S = al1LinkSync :: flipBits S f.checked := by
  rw [LinkFrame.flipped, LinkFrame.build_eq hf]
  rfl

theorem LinkFrame.ErrorBit.lt {i : ℕ} (h : f.ErrorBit i) : i < 8 * f.checked.length := by
  rw [LinkFrame.length_checked]
  unfold LinkFrame.ErrorBit at h
  omega

/-- It is in none of the bytes VER, LEN_HI and LEN_LO. -/
theorem LinkFrame.ErrorBit.div_ne {i : ℕ} (h : f.ErrorBit i) : i / 8 ≠ 0 ∧ i / 8 ≠ 3 ∧ i / 8 ≠ 4 := by
  unfold LinkFrame.ErrorBit at h
  omega

/-- The flipped bits leave VER and LEN alone. -/
theorem damage_flipBits (hS : ∀ i ∈ S, f.ErrorBit i) :
    Damage f.encode (al1LinkSync :: flipBits S f.checked) where
  length := by
    rw [List.length_cons, length_flipBits, LinkFrame.length_checked, LinkFrame.length_encode]
    show f.payload.length + 7 + 1 = 8 + f.payload.length
    omega
  sync := rfl
  ver := getElem?_flipBits (fun i hi => (hS i hi).div_ne.1) _
  lenHi := getElem?_flipBits (fun i hi => (hS i hi).div_ne.2.1) _
  lenLo := getElem?_flipBits (fun i hi => (hS i hi).div_ne.2.2) _

/-- An intact frame leaves zero in the register. -/
theorem crcRegister_checked (f : LinkFrame) : al1Crc16Ccitt f.checked = 0 :=
  al1Crc16Ccitt_word_eq_zero_iff.mpr (Word16.ofBytes_hi_lo f.crc)

/-- **What the framer makes of it.** -/
theorem linkRun_flipped (hf : f.Fits maxPayload) (hS : ∀ i ∈ S, f.ErrorBit i) :
    ∃ g : LinkFrame, linkRun maxPayload (f.flipped maxPayload S) =
      ([], [if syndrome crcShift crcUnit (8 * f.checked.length + 15) S = 0 then .frame g
        else .crcErr]) := by
  obtain ⟨channel, seq, payload, crcHi, crcLo, hpay, hbytes⟩ := (damage_flipBits hS).exists_eq
  have hlen : payload.length = (Word16.ofBytes (Word16.hi f.len) (Word16.lo f.len)).toNat := by
    rw [Word16.ofBytes_hi_lo, LinkFrame.toNat_len hf.2, hpay]
  have hM : (Word16.ofBytes (Word16.hi f.len) (Word16.lo f.len)).toNat ≤ maxPayload :=
    hlen ▸ hpay ▸ hf.1
  have hchecked : flipBits S f.checked = al1LinkVersion :: channel :: seq :: Word16.hi f.len ::
      Word16.lo f.len :: payload ++ [crcHi, crcLo] := (List.cons.inj hbytes).2
  have hsyndrome : Word16.ofBytes crcHi crcLo = al1Crc16Ccitt (al1LinkVersion :: channel :: seq ::
      Word16.hi f.len :: Word16.lo f.len :: payload) ↔
      syndrome crcShift crcUnit (8 * f.checked.length + 15) S = 0 := by
    have hcrc := crcRegister_flipBits fun i hi => (hS i hi).lt
    rw [crcRegister_checked] at hcrc
    rw [← al1Crc16Ccitt_word_eq_zero_iff, ← hchecked, ← CrcRegister.of_inj, hcrc]
    exact Iff.of_eq (congrArg (· = (0 : CrcRegister)) (zero_add _))
  refine ⟨⟨channel, seq, payload⟩, ?_⟩
  rw [LinkFrame.flipped_eq hf, hbytes, linkRun_frame hM channel seq crcHi crcLo hlen, linkCheck]
  simp only [hsyndrome]
  rfl

/-- The syndrome of bits of `VER..CRC`. -/
def LinkFrame.syndrome (f : LinkFrame) (S : Finset ℕ) : CrcRegister :=
  ShiftRegister.syndrome crcShift crcUnit (8 * f.checked.length + 15) S

/-- **The frame is rejected** exactly if the syndrome is not zero. -/
theorem rejected_iff (hf : f.Fits maxPayload) (hS : ∀ i ∈ S, f.ErrorBit i) :
    Rejected maxPayload (f.flipped maxPayload S) ↔ f.syndrome S ≠ 0 := by
  obtain ⟨g, hread⟩ := linkRun_flipped hf hS
  have hfollows : ∀ (p : Al1Parser) (chunks : List (List UInt8)), p.state = .sync →
      chunks.flatten = f.flipped maxPayload S →
      Follows maxPayload p (run (al1ParserFeed maxPayload) p chunks).1
        (run (al1ParserFeed maxPayload) p chunks).2 []
        [if f.syndrome S = 0 then .frame g else .crcErr] := by
    intro p chunks hp hchunks
    have h := @al1ParserFeed_of_sync maxPayload p hp chunks
    rw [hchunks, ← linkRun, hread] at h
    exact h
  constructor
  · intro hrejected hzero
    -- the frame is delivered, and counted as such
    have hflat := @List.flatten_singleton _ (f.flipped maxPayload S)
    have hstats := (hfollows capturingParser _ rfl hflat).stats
    rw [(hrejected capturingParser _ _ rfl rfl hflat).2.2, if_pos hzero] at hstats
    have hcount : some (1 : UInt32) = some 0 := congrArg (Option.map Al1LinkStats.rxCrcErr) hstats
    exact absurd hcount (by decide)
  · intro hne p stats chunks hp hstats hchunks r
    have h := hfollows p chunks hp hchunks
    rw [if_neg hne] at h
    refine ⟨?_, represents_nil_iff.mp h.represents, ?_⟩
    · refine List.map_eq_nil_iff.mp (h.calls.trans ?_)
      split <;> rfl
    · rw [h.stats, hstats]
      rfl

/-- **Bursts and odd errors.**  A frame with flipped bits in CHANNEL, SEQ, PAYLOAD or CRC that lie
within sixteen consecutive places of `VER..CRC`, or that are odd in number, is rejected. -/
theorem burst_or_odd_rejected (hf : f.Fits maxPayload) (hne : S.Nonempty)
    (hS : ∀ i ∈ S, f.ErrorBit i) (hshape : (∃ k, ∀ i ∈ S, k ≤ i ∧ i < k + 16) ∨ Odd S.card) :
    Rejected maxPayload (f.flipped maxPayload S) := by
  refine (rejected_iff hf hS).mpr ?_
  rcases hshape with ⟨k, hwindow⟩ | hodd
  · refine crcCyclic.syndrome_ne_zero_of_window crcShift_injective hne hwindow fun i hi => ?_
    have hlt := (hS i hi).lt
    omega
  · exact crcCyclic.syndrome_ne_zero_of_odd weight_crcPoly _ hodd

/-- Two flipped bits are detected unless the order of the shift divides their distance. -/
theorem pair_rejected_iff (hf : f.Fits maxPayload) {i j : ℕ} (hi : f.ErrorBit i)
    (hj : f.ErrorBit j) (hij : i < j) :
    Rejected maxPayload (f.flipped maxPayload {i, j}) ↔ ¬ 32767 ∣ j - i := by
  have hS : ∀ k ∈ ({i, j} : Finset ℕ), f.ErrorBit k := by
    intro k hk
    rcases Finset.mem_insert.mp hk with rfl | hk
    · exact hi
    · exact Finset.mem_singleton.mp hk ▸ hj
  have hlt := hj.lt
  rw [rejected_iff hf hS, Ne, LinkFrame.syndrome,
    crcCyclic.syndrome_pair_eq_zero_iff crcShift_injective hij (by omega), orderOf_crcShift]

end Flipped

/-- A burst that straddles the end of the payload, and three bits far apart. -/
theorem burst_or_odd_rejected_small :
    Rejected 4096 (LinkFrame.flipped 4096 ⟨1, 7, [0xA5, 0x01]⟩ {50, 56, 58, 65}) ∧
      Rejected 4096 (LinkFrame.flipped 4096 ⟨1, 7, [0xA5, 0x01]⟩ {8, 44, 70}) :=
  ⟨burst_or_odd_rejected (by decide) (by decide) (by decide) (Or.inl ⟨50, by decide⟩),
    burst_or_odd_rejected (by decide) (by decide) (by decide) (Or.inr (by decide))⟩

/-- **Two flipped bits** in CHANNEL, SEQ, PAYLOAD or CRC of a frame within the cap of 4096 bytes are
detected exactly if they are not 32767 places apart. -/
theorem two_bits_rejected_iff {f : LinkFrame} (hf : f.Fits al1LinkMaxPayload) {i j : ℕ}
    (hi : f.ErrorBit i) (hj : f.ErrorBit j) (hij : i < j) :
    Rejected al1LinkMaxPayload (f.flipped al1LinkMaxPayload {i, j}) ↔ j ≠ i + 32767 := by
  rw [pair_rejected_iff hf hi hj hij]
  have hlt : j < 8 * (4096 + 7) := by
    have hlen : f.payload.length ≤ 4096 := hf.1
    unfold LinkFrame.ErrorBit at hj
    omega
  omega

/-- The first bit of CHANNEL and the last bit of the CRC, of an empty frame. -/
theorem two_bits_rejected_empty : Rejected al1LinkMaxPayload
    (LinkFrame.flipped al1LinkMaxPayload ⟨1, 0, []⟩ {8, 55}) :=
  (two_bits_rejected_iff (by decide) (by decide) (by decide) (by decide)).mpr (by decide)

/-- **Two flipped bits that are not detected**: the first bit of CHANNEL, and a bit of the payload
32767 places on, in a frame with the longest payload. -/
theorem two_bits_unnoticed : ∃ f : LinkFrame, ∃ i j, f.Fits al1LinkMaxPayload ∧ f.ErrorBit i ∧
    f.ErrorBit j ∧ i ≠ j ∧
    ¬ Rejected al1LinkMaxPayload (f.flipped al1LinkMaxPayload {i, j}) := by
  have hlen : (List.replicate 4096 (0 : UInt8)).length = 4096 := List.length_replicate
  have hf : LinkFrame.Fits al1LinkMaxPayload ⟨0, 0, List.replicate 4096 0⟩ :=
    ⟨hlen.le, hlen.trans_lt (by decide)⟩
  have hi : LinkFrame.ErrorBit ⟨0, 0, List.replicate 4096 0⟩ 8 := Or.inl (by decide)
  have hj : LinkFrame.ErrorBit ⟨0, 0, List.replicate 4096 0⟩ 32775 := by
    refine Or.inr ⟨by decide, ?_⟩
    rw [hlen]
    decide
  refine ⟨_, 8, 32775, hf, hi, hj, by decide, ?_⟩
  rw [pair_rejected_iff hf hi hj (by decide)]
  decide

end Al1Wmod
