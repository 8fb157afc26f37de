import Al1Wmod.Link.Stream
import Mathlib.Data.List.Infix

/-!
# Frames in noise

What survives a bad line.  Before each frame stands noise, in which SYNC is never followed by
VER, and the frame itself arrives with SYNC, VER and LEN intact and anything in its other
bytes.  The parser delivers the frames whose CRC still matches, and nothing else: a damaged frame
costs only itself.

The length field is what makes this true.  It is intact, so the parser leaves a damaged frame
at its last byte, whatever stands in its payload.
-/

namespace Al1Wmod

open Transducer Framer

variable {maxPayload : ℕ}

/-- No SYNC is followed by VER. -/
def Quiet (noise : List UInt8) : Prop := ¬ [al1LinkSync, al1LinkVersion] <:+: noise

instance (noise : List UInt8) : Decidable (Quiet noise) := inferInstanceAs (Decidable (¬ _))

/-- `bytes` is `sent` with other CHANNEL, SEQ, PAYLOAD and CRC bytes. -/
structure Damage (sent bytes : List UInt8) : Prop where
  length : bytes.length = sent.length
  sync : bytes[0]? = sent[0]?
  ver : bytes[1]? = sent[1]?
  lenHi : bytes[4]? = sent[4]?
  lenLo : bytes[5]? = sent[5]?

/-- A message as it arrives: the noise before it, and its bytes after the damage. -/
structure Arrival (maxPayload : ℕ) where
  noise : List UInt8
  message : LinkFrame
  bytes : List UInt8
  quiet : Quiet noise
  fits : message.Fits maxPayload
  damage : Damage (message.build maxPayload) bytes

namespace Arrival

/-- The arrived `VER..PAYLOAD`. -/
def covered (a : Arrival maxPayload) : List UInt8 := (a.bytes.drop 1).take (a.bytes.length - 3)

/-- The arrived CRC field. -/
def crcField (a : Arrival maxPayload) : UInt16 :=
  Word16.ofBytes (a.bytes.getD (a.bytes.length - 2) 0) (a.bytes.getD (a.bytes.length - 1) 0)

/-- The arrived CHANNEL, SEQ and PAYLOAD. -/
def fields (a : Arrival maxPayload) : LinkFrame :=
  ⟨a.bytes.getD 2 0, a.bytes.getD 3 0, (a.bytes.drop 6).take (a.bytes.length - 8)⟩

/-- The frame the receiver should see: the arrived fields, if the arrived bytes still match
their CRC field. -/
def intact? (a : Arrival maxPayload) : Option LinkFrame :=
  if al1Crc16Ccitt a.covered = a.crcField then some a.fields else none

end Arrival

/-- Damage leaves a frame with the length it was sent with. -/
theorem Damage.exists_eq {f : LinkFrame} {bytes : List UInt8} (h : Damage f.encode bytes) :
    ∃ channel seq payload crcHi crcLo,
      payload.length = f.payload.length ∧
      bytes = al1LinkSync :: al1LinkVersion :: channel :: seq :: Word16.hi f.len ::
        Word16.lo f.len :: (payload ++ [crcHi, crcLo]) := by
  obtain ⟨hlen, hsync, hver, hhi, hlo⟩ := h
  rw [LinkFrame.length_encode] at hlen
  match bytes, hlen with
  | b₀ :: b₁ :: channel :: seq :: b₄ :: b₅ :: tail, hlen =>
    have htail : f.payload.length + 2 = tail.length := by
      simp only [List.length_cons, al1LinkOverhead, al1LinkHeaderLen, al1LinkCrcLen] at hlen
      omega
    obtain ⟨payload, crc, rfl, hpay, hcrc⟩ : ∃ payload crc, tail = payload ++ crc ∧
        payload.length = f.payload.length ∧ crc.length = 2 :=
      ⟨tail.take f.payload.length, tail.drop f.payload.length, (List.take_append_drop _ _).symm,
        by rw [List.length_take]; omega, by rw [List.length_drop]; omega⟩
    obtain ⟨crcHi, crcLo, rfl⟩ := List.length_eq_two.mp hcrc
    refine ⟨channel, seq, payload, crcHi, crcLo, hpay, ?_⟩
    simp only [LinkFrame.encode, LinkFrame.covered, List.cons_append, List.getElem?_cons_zero,
      List.getElem?_cons_succ, Option.some.injEq] at hsync hver hhi hlo
    rw [hsync, hver, hhi, hlo]
  | [], hlen | [_], hlen | [_, _], hlen | [_, _, _], hlen | [_, _, _, _], hlen
  | [_, _, _, _, _], hlen =>
    simp only [List.length_cons, List.length_nil, al1LinkOverhead, al1LinkHeaderLen,
      al1LinkCrcLen] at hlen
    omega

/-- **Noise is skipped.**  Every SYNC in it, also one right before a frame, is followed by
something other than VER, so it costs a version error and no byte of the frame. -/
theorem linkRun_noise {noise : List UInt8} (h : Quiet noise) (rest : List UInt8) :
    (linkRun maxPayload (noise ++ al1LinkSync :: rest)).2.filterMap LinkOutcome.frame? =
      (linkRun maxPayload (al1LinkSync :: rest)).2.filterMap LinkOutcome.frame? := by
  induction noise with
  | nil => rfl
  | cons b noise ih =>
    have hquiet : Quiet noise := fun hin => h (hin.trans (List.suffix_cons b noise).isInfix)
    by_cases hb : b = al1LinkSync
    · -- the byte that is read in the place of VER
      obtain ⟨v, w, hvw, hv⟩ : ∃ v w, noise ++ al1LinkSync :: rest = v :: w ∧
          v ≠ al1LinkVersion := by
        cases noise with
        | nil => exact ⟨_, _, rfl, by decide⟩
        | cons v noise =>
          refine ⟨v, _, rfl, ?_⟩
          rintro rfl
          exact h ⟨[], noise, by rw [hb]; rfl⟩
      rw [List.cons_append, hb, hvw, linkRun_badVersion hv, ← hvw, ← ih hquiet]
      rfl
    · rw [List.cons_append, linkRun_cons_of_ne hb, ih hquiet]

/-- One arrival, then the rest of the stream. -/
theorem linkRun_arrival (a : Arrival maxPayload) (rest : List UInt8) :
    (linkRun maxPayload (a.noise ++ a.bytes ++ rest)).2.filterMap LinkOutcome.frame? =
      a.intact?.toList ++ (linkRun maxPayload rest).2.filterMap LinkOutcome.frame? := by
  obtain ⟨channel, seq, payload, crcHi, crcLo, hpay, hbytes⟩ :=
    Damage.exists_eq (LinkFrame.build_eq a.fits ▸ a.damage)
  have hlen : payload.length =
      (Word16.ofBytes (Word16.hi a.message.len) (Word16.lo a.message.len)).toNat := by
    rw [Word16.ofBytes_hi_lo, LinkFrame.toNat_len a.fits.2, hpay]
  have hM : (Word16.ofBytes (Word16.hi a.message.len) (Word16.lo a.message.len)).toNat ≤
      maxPayload := hlen ▸ hpay ▸ a.fits.1
  have hdelivered : (linkCheck channel seq (Word16.hi a.message.len) (Word16.lo a.message.len)
      payload crcHi crcLo).frame? = a.intact? := by
    rw [frame?_linkCheck, Arrival.intact?, Arrival.covered, Arrival.crcField, Arrival.fields,
      hbytes]
    simp [eq_comm]
  rw [List.append_assoc, hbytes]
  simp only [List.cons_append, List.append_assoc, List.nil_append]
  rw [linkRun_noise a.quiet, linkRun_frame hM channel seq crcHi crcLo hlen,
    List.filterMap_cons, hdelivered]
  cases a.intact? <;> rfl

/-- An undamaged frame still matches its CRC. -/
theorem Arrival.intact?_eq (a : Arrival maxPayload) (h : a.bytes = a.message.build maxPayload) :
    a.intact? = some a.message := by
  rw [LinkFrame.build_eq a.fits] at h
  rw [Arrival.intact?, Arrival.covered, Arrival.crcField, Arrival.fields, h]
  simp [LinkFrame.encode, LinkFrame.crc, LinkFrame.covered]

/-- **The line may be bad.**  A parser in SYNC, whatever its other fields hold, is fed noise and
damaged frames in any chunks.  It invokes the callback once, in order, for each frame that still
matches its CRC field, with the fields that arrived, and for nothing else; frames that were not
damaged are among them. -/
theorem al1ParserFeed_noisy (p : Al1Parser) (arrivals : List (Arrival maxPayload))
    (chunks : List (List UInt8))
    (hchunks : chunks.flatten = arrivals.flatMap fun a => a.noise ++ a.bytes) :
    (run (al1ParserFeed maxPayload) { p with state := .sync, cb := true } chunks).2.map
        Al1FrameCall.frame = arrivals.filterMap Arrival.intact? ∧
      ∀ a ∈ arrivals, a.bytes = a.message.build maxPayload → a.intact? = some a.message := by
  refine ⟨?_, fun a _ h => a.intact?_eq h⟩
  have h := (@al1ParserFeed_of_sync maxPayload { p with state := .sync, cb := true } rfl chunks).calls
  rw [h, if_pos rfl, hchunks]
  clear h hchunks
  induction arrivals with
  | nil => rfl
  | cons a arrivals ih =>
    rw [List.flatMap_cons]
    refine (linkRun_arrival a _).trans ?_
    rw [ih, List.filterMap_cons]
    cases a.intact? <;> rfl

/-- The first frame has a damaged CHANNEL, the noise before the second ends in SYNC bytes. -/
theorem al1ParserFeed_noisy_two :
    (run (al1ParserFeed 16)
        { state := .sync, channel := 3, seq := 4, len := 9, idx := 5, crcCalc := 6, crcRx := 7
          payload := fun _ => 0x55, cb := true, stats := none }
        [[0x00, 0xA5], [], [0xA5, 0x01, 0x09, 0x07, 0x00, 0x02, 0xA5, 0x01, 0xF7],
          [0x11, 0x01, 0xA5, 0xA5, 0xA5], [0x01, 0x02, 0x08, 0x00, 0x00, 0xFF, 0x94]]).2.map
        Al1FrameCall.frame = [⟨2, 8, []⟩] := by
  refine (al1ParserFeed_noisy
    { state := .payload, channel := 3, seq := 4, len := 9, idx := 5, crcCalc := 6, crcRx := 7
      payload := fun _ => 0x55, cb := false, stats := none }
    [⟨[0x00, 0xA5], ⟨1, 7, [0xA5, 0x01]⟩,
        [0xA5, 0x01, 0x09, 0x07, 0x00, 0x02, 0xA5, 0x01, 0xF7, 0x11], by decide, by decide,
        by constructor <;> decide +kernel⟩,
      ⟨[0x01, 0xA5, 0xA5], ⟨2, 8, []⟩, [0xA5, 0x01, 0x02, 0x08, 0x00, 0x00, 0xFF, 0x94],
        by decide, by decide, by constructor <;> decide +kernel⟩] _ (by rfl)).1.trans ?_
  decide +kernel

end Al1Wmod
