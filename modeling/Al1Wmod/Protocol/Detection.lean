import Al1Wmod.Link.Flips
import Al1Wmod.Protocol.Codec
import Al1Wmod.Protocol.Crc8Register

/-!
# Which errors the protocol detects

Bits of a packet are flipped, in CMD, PAYLOAD or CRC.  SYNC and LEN are intact, so what arrives is
still a whole frame, the parser reads it to its last byte, and the CRC decides: the packet is
rejected exactly if the syndrome of the flipped bits is not zero (`apRejected_iff`).

A burst of eight bits and an odd number of bits are detected.  The parser is in SYNC afterwards,
where the next packet finds it.
-/

namespace Al1Wmod

open Buffer ShiftRegister BitRegister ByteRegister

/-- A bit of `LEN..CRC` that lies in CMD, PAYLOAD or CRC. -/
def ApBuild.ErrorBit (c : ApBuild) (i : ℕ) : Prop := 8 ≤ i ∧ i < 8 * (c.payload.length + 3)

instance ApBuild.decidableErrorBit (c : ApBuild) (i : ℕ) : Decidable (c.ErrorBit i) :=
  inferInstanceAs (Decidable (_ ∧ _))

/-- The packet on the line, with the bits `S` of `LEN..CRC` flipped. -/
def ApBuild.flipped (c : ApBuild) (S : Finset ℕ) : List UInt8 :=
  c.bytes.take 1 ++ flipBits S (c.bytes.drop 1)

/-- A parser in SYNC that is fed these bytes wants more until the last one, which is a CRC error.
The packet it has is left alone, and it is in SYNC again. -/
def ApRejected (bytes : List UInt8) : Prop :=
  ∀ p : ApParser, p.state = .sync →
    let r := apParseBytes p bytes
    r.2 = List.replicate (bytes.length - 1) .needMore ++ [.errCrc] ∧ r.1.pkt = p.pkt ∧
      r.1.state = .sync

/-- A whole frame leaves a parser in SYNC, whatever its CRC. -/
theorem apParseBytes_frame_state {frame : List UInt8} (h : ApFrame frame) {p : ApParser}
    (hp : p.state = .sync) : (apParseBytes p frame).1.state = .sync := by
  have hrep := (apParseBytes_framing (apRepresents_nil_iff.mpr hp) frame).1
  have hrun := apRun_frame h []
  rw [List.append_nil] at hrun
  rw [show (Transducer.run (Framer.step apVerdict) [] frame).1 = [] from congrArg Prod.fst hrun]
    at hrep
  exact apRepresents_nil_iff.mp hrep

section Flipped

variable {c : ApBuild} {S : Finset ℕ}

/-- `LEN..CRC`. -/
def ApBuild.checked (c : ApBuild) : List UInt8 := c.bytes.drop 1

theorem ApBuild.checked_eq (c : ApBuild) : c.checked = UInt8.ofNat (1 + c.payload.length) :: c.cmd ::
    (c.payload ++ [apCrc8 (UInt8.ofNat (1 + c.payload.length) :: c.cmd :: c.payload)]) := by
  rw [checked, c.bytes_eq]
  rfl

theorem ApBuild.length_checked (c : ApBuild) : c.checked.length = c.payload.length + 3 := by
  rw [checked_eq, List.length_cons, List.length_cons, List.length_append, List.length_singleton]

/-- An intact packet leaves zero in the register. -/
theorem ApBuild.apCrc8_checked (c : ApBuild) : apCrc8 c.checked = 0 := by
  rw [c.checked_eq, ← List.cons_append, ← List.cons_append]
  exact apCrc8_append_eq_zero_iff.mpr rfl

theorem ApBuild.ErrorBit.lt_checked {i : ℕ} (h : c.ErrorBit i) : i < 8 * c.checked.length := by
  rw [ApBuild.length_checked]
  exact h.2

/-- The flipped bits leave LEN alone, and what arrives is a whole frame. -/
theorem ApBuild.flipped_eq (hS : ∀ i ∈ S, c.ErrorBit i) :
    ∃ body crc, body.length = c.payload.length + 1 ∧
      flipBits S c.checked = UInt8.ofNat (1 + c.payload.length) :: (body ++ [crc]) ∧
      c.flipped S = apSyncByte :: UInt8.ofNat (1 + c.payload.length) :: (body ++ [crc]) := by
  have hlen : (flipBits S c.checked).length = c.payload.length + 3 := by
    rw [length_flipBits, c.length_checked]
  have hhead : (flipBits S c.checked)[0]? = some (UInt8.ofNat (1 + c.payload.length)) := by
    rw [getElem?_flipBits (fun i hi => ?_), c.checked_eq, List.getElem?_cons_zero]
    have hi' := (hS i hi).1
    omega
  have hflipped : c.flipped S = apSyncByte :: flipBits S c.checked := by
    rw [flipped, c.bytes_eq, checked, c.bytes_eq]
    rfl
  cases hx : flipBits S c.checked with
  | nil =>
    rw [hx] at hlen
    exact absurd hlen (by simp)
  | cons len rest =>
    rw [hx] at hlen hhead hflipped
    obtain rfl : len = UInt8.ofNat (1 + c.payload.length) := Option.some.inj hhead
    have hrest : rest.length = c.payload.length + 2 := by simpa using hlen
    have hne : rest ≠ [] := List.ne_nil_of_length_eq_add_one hrest
    refine ⟨rest.dropLast, rest.getLast hne, ?_, ?_, ?_⟩
    · rw [List.length_dropLast, hrest]
      rfl
    · rw [List.dropLast_concat_getLast]
    · rw [List.dropLast_concat_getLast]
      exact hflipped

theorem ApBuild.apFrame_flipped (hS : ∀ i ∈ S, c.ErrorBit i) : ApFrame (c.flipped S) := by
  obtain ⟨body, crc, hbody, -, hflipped⟩ := ApBuild.flipped_eq hS
  obtain ⟨len, rest, hbytes, hlen, hrest⟩ := c.apFrame
  rw [c.bytes_eq] at hbytes
  obtain rfl : UInt8.ofNat (1 + c.payload.length) = len :=
    (List.cons.inj (List.cons.inj hbytes).2).1
  rw [← (List.cons.inj (List.cons.inj hbytes).2).2] at hrest
  refine ⟨_, _, hflipped, hlen, ?_⟩
  rw [← hrest, List.length_append, hbody]
  simp

/-- The syndrome of bits of `LEN..CRC`. -/
def ApBuild.syndrome (c : ApBuild) (S : Finset ℕ) : Bits 8 :=
  ShiftRegister.syndrome crc8Shift unit (8 * c.checked.length + 7) S

/-- **The CRC is right** exactly if the syndrome is zero. -/
theorem ApBuild.apCrcValid_flipped_iff (hS : ∀ i ∈ S, c.ErrorBit i) :
    ApCrcValid (c.flipped S) ↔ c.syndrome S = 0 := by
  obtain ⟨body, crc, -, hchecked, hflipped⟩ := ApBuild.flipped_eq hS
  have hread := read_flipBits crc8Reader 0 fun i hi => (hS i hi).lt_checked
  rw [← ofByte_apCrc8, ← ofByte_apCrc8, c.apCrc8_checked, hchecked, ← List.cons_append] at hread
  rw [hflipped, apCrcValid_iff, ← apCrc8_append_eq_zero_iff, ← ofByte_eq_zero_iff, hread]
  exact Iff.of_eq (congrArg (· = (0 : Bits 8)) (zero_add _))

/-- **The packet is rejected** exactly if the syndrome is not zero. -/
theorem apRejected_iff (hS : ∀ i ∈ S, c.ErrorBit i) :
    ApRejected (c.flipped S) ↔ c.syndrome S ≠ 0 := by
  have hframe := ApBuild.apFrame_flipped hS
  have hvalid := ApBuild.apCrcValid_flipped_iff hS
  constructor
  · intro hrejected hzero
    -- any parser will do: it completes the packet
    have hp : (apParserInit ⟨.sync, 0, 0, fun _ => 0, ⟨0, 0, fun _ => 0⟩⟩).state = .sync := rfl
    have hresults := (apParseBytes_frame hframe hp).1
    rw [(hrejected _ hp).1, if_pos (hvalid.mpr hzero)] at hresults
    exact absurd (List.append_cancel_left hresults) (by decide)
  · intro hne p hp r
    obtain ⟨hresults, -, hpkt⟩ := apParseBytes_frame hframe hp
    have hbad : ¬ ApCrcValid (c.flipped S) := hvalid.not.mpr hne
    rw [if_neg hbad] at hresults
    exact ⟨hresults, hpkt hbad, apParseBytes_frame_state hframe hp⟩

/-- Bursts and odd errors leave a syndrome. -/
theorem ApBuild.syndrome_ne_zero (hne : S.Nonempty) (hS : ∀ i ∈ S, c.ErrorBit i)
    (hshape : (∃ k, ∀ i ∈ S, k ≤ i ∧ i < k + 8) ∨ Odd S.card) : c.syndrome S ≠ 0 := by
  rcases hshape with ⟨k, hwindow⟩ | hodd
  · refine crc8Cyclic.syndrome_ne_zero_of_window crc8Shift_injective hne hwindow fun i hi => ?_
    exact (hS i hi).lt_checked.le.trans (Nat.le_add_right _ 7)
  · exact crc8Cyclic.syndrome_ne_zero_of_odd weight_crc8Taps _ hodd

end Flipped

/-- **Bursts and odd errors.**  A packet with flipped bits in CMD, PAYLOAD or CRC that lie within
eight consecutive places of `LEN..CRC`, or that are odd in number, ends with a CRC error, and a
packet behind it is parsed. -/
theorem ap_burst_or_odd_rejected (c : ApBuild) {S : Finset ℕ} (hne : S.Nonempty)
    (hS : ∀ i ∈ S, c.ErrorBit i) (hshape : (∃ k, ∀ i ∈ S, k ≤ i ∧ i < k + 8) ∨ Odd S.card)
    {p : ApParser} (hp : p.state = .sync) :
    let r := apParseBytes p (c.flipped S)
    r.2 = List.replicate (c.payload.length + 3) .needMore ++ [.errCrc] ∧ r.1.pkt = p.pkt ∧
      r.1.state = .sync ∧
      ∀ next : ApBuild,
        (apParseBytes r.1 next.bytes).2 =
            List.replicate (next.payload.length + 3) .needMore ++ [.complete] ∧
          (apParseBytes r.1 next.bytes).1.pkt.message = ⟨next.cmd, next.payload⟩ := by
  intro r
  have hrejected := (apRejected_iff hS).mpr (ApBuild.syndrome_ne_zero hne hS hshape)
  obtain ⟨hresults, hpkt, hstate⟩ := hrejected p hp
  have hlength : (c.flipped S).length - 1 = c.payload.length + 3 := by
    obtain ⟨body, crc, hbody, -, hflipped⟩ := ApBuild.flipped_eq hS
    rw [hflipped, List.length_cons, List.length_cons, List.length_append, hbody]
    rfl
  rw [hlength] at hresults
  refine ⟨hresults, hpkt, hstate, fun next => ?_⟩
  obtain ⟨hcomplete, hcmd, hpayloadLen, hpayload⟩ := apParseBytes_build next hstate
  refine ⟨hcomplete, ?_⟩
  rw [ApPacket.message, hpayloadLen, hpayload, hcmd]

/-- A burst that straddles the end of the payload, and three bits far apart. -/
theorem ap_burst_or_odd_rejected_rgb :
    let c : ApBuild := ⟨fun _ => 0xEE, 7, apCmdSetRgb, some (ofList 0 [0xA5, 1, 2]), [0xA5, 1, 2],
      by rfl, by decide, by decide⟩
    let p : ApParser := ⟨.sync, 9, 7, fun _ => 0xA5, ⟨1, 2, fun _ => 3⟩⟩
    (apParseBytes p (c.flipped {37, 39, 40, 43})).2 =
        List.replicate 6 .needMore ++ [.errCrc] ∧
      (apParseBytes p (c.flipped {8, 25, 47})).2 = List.replicate 6 .needMore ++ [.errCrc] := by
  intro c p
  exact ⟨(ap_burst_or_odd_rejected c (by decide) (by decide) (Or.inl ⟨37, by decide⟩)
      (show p.state = .sync from rfl)).1,
    (ap_burst_or_odd_rejected c (by decide) (by decide) (Or.inr (by decide))
      (show p.state = .sync from rfl)).1⟩

end Al1Wmod
