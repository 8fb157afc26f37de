import Al1Wmod.Link.Crc16
import Al1Wmod.Stream.Buffer
import Al1Wmod.Stream.Word

/-!
# Link frames and their builder

`al1_frame.h` and `al1_frame_build`.  A link frame is

    [SYNC 0xA5][VER 0x01][CHANNEL][SEQ][LEN_HI][LEN_LO][PAYLOAD][CRC_HI][CRC_LO]

with the CRC over `VER..PAYLOAD`.  `AL1_LINK_MAX_PAYLOAD` may be overridden downward at
build time, so it is a parameter of everything that reads it.

`al1FrameBuild` stores into the caller's buffer as the source does.  `LinkFrame.encode` is
the same frame as a list, and `al1FrameBuild_eq` says that the first is the second whenever
the builder accepts its arguments.
-/

namespace Al1Wmod

open Buffer

/-- `AL1_LINK_SYNC`. -/
def al1LinkSync : UInt8 := 0xA5

/-- `AL1_LINK_VERSION`. -/
def al1LinkVersion : UInt8 := 0x01

/-- `AL1_LINK_MAX_PAYLOAD`, unless overridden at build time. -/
def al1LinkMaxPayload : ℕ := 4096

/-- `AL1_LINK_HEADER_LEN`: SYNC, VER, CHANNEL, SEQ, LEN_HI, LEN_LO. -/
def al1LinkHeaderLen : ℕ := 6

/-- `AL1_LINK_CRC_LEN`. -/
def al1LinkCrcLen : ℕ := 2

/-- `AL1_LINK_OVERHEAD`. -/
def al1LinkOverhead : ℕ := al1LinkHeaderLen + al1LinkCrcLen

/-- `AL1_CH_AP_CTRL`, the channel of Attentio Protocol frames. -/
def al1ChApCtrl : UInt8 := 0x01

/-- `AL1_CH_LOG`, the channel of human-readable log text. -/
def al1ChLog : UInt8 := 0x02

/-- A frame as it is sent and received: the fields the callback is given. -/
structure LinkFrame where
  channel : UInt8
  seq : UInt8
  payload : List UInt8
  deriving DecidableEq, Repr

/-- `al1_frame_build`: the output buffer after the call, and the return value.  `none` is the
null pointer. -/
def al1FrameBuild (maxPayload : ℕ) (out : Option (ℕ → UInt8)) (outCap : ℕ)
    (channel seq : UInt8) (payload : Option (ℕ → UInt8)) (len : UInt16) :
    Option (ℕ → UInt8) × ℕ :=
  match out with
  | none => (none, 0)
  | some buf =>
    if maxPayload < len.toNat then (some buf, 0)
    else if 0 < len.toNat ∧ payload.isNone then (some buf, 0)
    else
      let total := al1LinkOverhead + len.toNat
      if outCap < total then (some buf, 0)
      else
        let head := blit buf 0
          [al1LinkSync, al1LinkVersion, channel, seq, Word16.hi len, Word16.lo len]
        let body := match payload with
          | some src => blit head al1LinkHeaderLen (slice src 0 len.toNat)
          | none => head
        let crc := al1Crc16Ccitt (slice body 1 (al1LinkHeaderLen - 1 + len.toNat))
        (some (blit body (al1LinkHeaderLen + len.toNat) [Word16.hi crc, Word16.lo crc]), total)

namespace LinkFrame

/-- The length field. -/
def len (f : LinkFrame) : UInt16 := UInt16.ofNat f.payload.length

/-- `VER..PAYLOAD`, the bytes the CRC covers. -/
def covered (f : LinkFrame) : List UInt8 :=
  al1LinkVersion :: f.channel :: f.seq :: Word16.hi f.len :: Word16.lo f.len :: f.payload

/-- The CRC of the frame. -/
def crc (f : LinkFrame) : UInt16 := al1Crc16Ccitt f.covered

/-- The frame on the wire. -/
def encode (f : LinkFrame) : List UInt8 :=
  al1LinkSync :: f.covered ++ [Word16.hi f.crc, Word16.lo f.crc]

/-- The frames the builder accepts with the cap `maxPayload`: the length field is a `uint16_t`. -/
def Fits (maxPayload : ℕ) (f : LinkFrame) : Prop :=
  f.payload.length ≤ maxPayload ∧ f.payload.length < 65536

instance (maxPayload : ℕ) (f : LinkFrame) : Decidable (f.Fits maxPayload) :=
  inferInstanceAs (Decidable (_ ∧ _))

theorem toNat_len {f : LinkFrame} (h : f.payload.length < 65536) :
    f.len.toNat = f.payload.length := Word16.toNat_ofNat h

@[simp] theorem length_covered (f : LinkFrame) : f.covered.length = 5 + f.payload.length := by
  simp only [covered, List.length_cons]
  omega

@[simp] theorem length_encode (f : LinkFrame) :
    f.encode.length = al1LinkOverhead + f.payload.length := by
  simp only [encode, List.length_append, List.length_cons, List.length_nil, length_covered,
    al1LinkOverhead, al1LinkHeaderLen, al1LinkCrcLen]
  omega

end LinkFrame

/-- The six stores into the header, then the payload, leave the header and the payload. -/
theorem slice_header_payload (buf : ℕ → UInt8) (header payload : List UInt8) :
    slice (blit (blit buf 0 header) header.length payload) 0 (header.length + payload.length) =
      header ++ payload := by
  rw [slice_add, slice_blit_of_le _ _ (by omega), slice_blit, Nat.zero_add, slice_blit]

/-- **The builder writes the encoding.**  With a buffer that is large enough and a payload
within the cap, whatever the buffer held before. -/
theorem al1FrameBuild_eq {maxPayload outCap : ℕ} (buf src : ℕ → UInt8) {f : LinkFrame}
    (hf : f.Fits maxPayload) (hcap : al1LinkOverhead + f.payload.length ≤ outCap)
    (hsrc : slice src 0 f.payload.length = f.payload) :
    (al1FrameBuild maxPayload (some buf) outCap f.channel f.seq (some src) f.len).2 =
        al1LinkOverhead + f.payload.length ∧
      written (al1FrameBuild maxPayload (some buf) outCap f.channel f.seq (some src) f.len) =
        f.encode := by
  have hlen : f.len.toNat = f.payload.length := LinkFrame.toNat_len hf.2
  set header := [al1LinkSync, al1LinkVersion, f.channel, f.seq, Word16.hi f.len, Word16.lo f.len]
    with hheader
  have hbody : slice (blit (blit buf 0 header) 6 f.payload) 0 (6 + f.payload.length) =
      header ++ f.payload := slice_header_payload buf header f.payload
  have hcov : slice (blit (blit buf 0 header) 6 f.payload) 1 (5 + f.payload.length) =
      f.covered := by
    rw [show 6 + f.payload.length = 5 + f.payload.length + 1 by omega, slice_succ] at hbody
    exact (List.cons.inj hbody).2
  have hbuild : al1FrameBuild maxPayload (some buf) outCap f.channel f.seq (some src) f.len =
      (some (blit (blit (blit buf 0 header) 6 f.payload) (6 + f.payload.length)
        [Word16.hi f.crc, Word16.lo f.crc]), al1LinkOverhead + f.payload.length) := by
    simp only [al1FrameBuild, hlen, Nat.not_lt.mpr hf.1, Nat.not_lt.mpr hcap, if_false,
      Option.isNone_some, Bool.false_eq_true, and_false, hsrc, al1LinkHeaderLen, hcov,
      LinkFrame.crc, ← hheader]
  rw [hbuild]
  refine ⟨rfl, ?_⟩
  show slice _ 0 (al1LinkOverhead + f.payload.length) = f.encode
  rw [show al1LinkOverhead + f.payload.length = 6 + f.payload.length + 2 by
      simp only [al1LinkOverhead, al1LinkHeaderLen, al1LinkCrcLen]; omega,
    slice_add, slice_blit_of_le _ _ (by omega), hbody, Nat.zero_add]
  exact congrArg (header ++ f.payload ++ ·) (slice_blit _ _ [Word16.hi f.crc, Word16.lo f.crc])

/-- The bytes `al1_frame_build` writes for a frame, into a buffer of just the size it needs. -/
def LinkFrame.build (maxPayload : ℕ) (f : LinkFrame) : List UInt8 :=
  written (al1FrameBuild maxPayload (some fun _ => 0) (al1LinkOverhead + f.payload.length)
    f.channel f.seq (some (ofList 0 f.payload)) f.len)

theorem LinkFrame.build_eq {maxPayload : ℕ} {f : LinkFrame} (hf : f.Fits maxPayload) :
    f.build maxPayload = f.encode :=
  (al1FrameBuild_eq _ _ hf le_rfl (slice_ofList 0 f.payload)).2

end Al1Wmod
