import Al1Wmod.Protocol.Parser

/-!
# The packet codec

`ap_build_packet` and `ap_parse_byte` are inverse to each other.  What the builder writes is
completed by every parser in SYNC, whatever an earlier packet left in it; and when a parser
completes a packet, the last bytes it was fed are those the builder writes for it.

Both directions go through whole frames.  A frame is completed if its CRC is right, and then it is
the packet of its message (`ApFrame.eq_apPacketBytes`).  The builder computes that CRC in one pass
over a buffer and the parser in two, over LEN and over what it stored.
-/

namespace Al1Wmod

open Buffer Transducer Framer

/-- A payload argument of `ap_build_packet`: a pointer to the payload, or the null pointer for the
empty payload. -/
def PointsTo (src : Option (ℕ → UInt8)) (payload : List UInt8) : Prop :=
  match src with
  | some s => slice s 0 payload.length = payload
  | none => payload = []

/-- A loop over `ap_parse_byte`: the parser after the bytes, and the result of each call. -/
def apParseBytes (p : ApParser) (bytes : List UInt8) : ApParser × List ApParseResult :=
  run (fun p b => ((apParseByte p b).1, [(apParseByte p b).2])) p bytes

/-- Without a payload, the null pointer does as well as any other. -/
theorem apBuildPacket_null (buf : Option (ℕ → UInt8)) (bufSize : ℕ) (cmd : UInt8)
    (src : ℕ → UInt8) :
    apBuildPacket buf bufSize cmd none 0 = apBuildPacket buf bufSize cmd (some src) 0 := by
  unfold apBuildPacket
  cases buf <;> rfl

/-- A call of `ap_build_packet` that builds: the payload fits into a packet, and the packet into
the buffer. -/
structure ApBuild where
  buf : ℕ → UInt8
  bufSize : ℕ
  cmd : UInt8
  src : Option (ℕ → UInt8)
  payload : List UInt8
  pointsTo : PointsTo src payload
  fits : payload.length ≤ apMaxPayloadSize
  room : 4 + payload.length ≤ bufSize

/-- The bytes it builds. -/
def ApBuild.bytes (c : ApBuild) : List UInt8 :=
  written (apBuildPacket (some c.buf) c.bufSize c.cmd c.src (UInt8.ofNat c.payload.length))

theorem ApBuild.bytes_eq (c : ApBuild) : c.bytes = apPacketBytes c.cmd c.payload := by
  obtain ⟨buf, bufSize, cmd, src, payload, hsrc, hfits, hroom⟩ := c
  unfold bytes
  cases src with
  | some s => exact (apBuildPacket_eq buf s cmd hfits hroom hsrc).2
  | none =>
    obtain rfl : payload = [] := hsrc
    have hnull := apBuildPacket_null (some buf) bufSize cmd fun _ => 0
    have hbuilt := (apBuildPacket_eq buf (fun _ => 0) cmd hfits hroom rfl).2
    exact (congrArg written hnull).trans hbuilt

/-- What is built is a whole frame. -/
theorem ApBuild.apFrame (c : ApBuild) : ApFrame c.bytes := by
  rw [c.bytes_eq]
  exact apFrame_apPacketBytes c.cmd c.fits

/-! ## Frames with a right CRC -/

section Frames

variable {frame payload : List UInt8}

/-- A packet carries its message. -/
theorem apFrameMessage_apPacketBytes (cmd : UInt8) (payload : List UInt8) :
    apFrameMessage (apPacketBytes cmd payload) = ⟨cmd, payload⟩ := by
  simp [apFrameMessage, apPacketBytes]

theorem apCrcValid_apPacketBytes (cmd : UInt8) (payload : List UInt8) :
    ApCrcValid (apPacketBytes cmd payload) :=
  (@apCrcValid_iff apSyncByte _ _ (cmd :: payload)).mpr rfl

/-- **A frame with a right CRC is a packet**, that of its message. -/
theorem ApFrame.eq_apPacketBytes (h : ApFrame frame) (hcrc : ApCrcValid frame) :
    frame = apPacketBytes (apFrameMessage frame).cmd (apFrameMessage frame).payload ∧
      (apFrameMessage frame).payload.length ≤ apMaxPayloadSize := by
  obtain ⟨len, rest, rfl, ⟨hmin, hmax⟩, hrest⟩ := h
  have hmin' : 1 ≤ len.toNat := hmin
  have hmax' : len.toNat ≤ 253 := hmax
  cases rest with
  | nil => simp at hrest
  | cons cmd rest =>
    have hne : rest ≠ [] := by
      rintro rfl
      simp only [List.length_singleton] at hrest
      omega
    obtain ⟨payload, crc, rfl⟩ : ∃ payload crc, rest = payload ++ [crc] :=
      ⟨_, _, (List.dropLast_concat_getLast hne).symm⟩
    have hpay : 1 + payload.length = len.toNat := by
      simp only [List.length_cons, List.length_append, List.length_nil] at hrest
      omega
    have hfield : UInt8.ofNat (1 + payload.length) = len := by
      rw [hpay, UInt8.ofNat_toNat]
    have hmsg : apFrameMessage (apSyncByte :: len :: cmd :: (payload ++ [crc])) =
        ⟨cmd, payload⟩ := by
      simp [apFrameMessage]
    have hcrc' : crc = apCrc8 (len :: cmd :: payload) :=
      (@apCrcValid_iff apSyncByte len crc (cmd :: payload)).mp hcrc
    rw [hmsg]
    refine ⟨?_, ?_⟩
    · rw [apPacketBytes, hfield, hcrc']
    · rw [apMaxPayloadSize]
      show payload.length ≤ 252
      omega

end Frames

/-! ## The parser, call by call -/

/-- An answer other than NEED_MORE is the end of a packet, good or bad. -/
theorem apParseByte_state {p : ApParser} {b : UInt8} (h : (apParseByte p b).2 ≠ .needMore) :
    (apParseByte p b).1.state = .sync := by
  unfold apParseByte at h ⊢
  cases hs : p.state with
  | sync => simp [hs] at h
  | len =>
    simp only [hs] at h ⊢
    split_ifs at h ⊢
    · rfl
    · rfl
    · exact absurd rfl h
  | data => simp [hs] at h
  | crc =>
    simp only [hs] at h ⊢
    split_ifs <;> rfl

/-- The results of a loop are the answers of the framing. -/
theorem apParseBytes_framing {p : ApParser} {acc : List UInt8} (h : ApRepresents p acc)
    (bytes : List UInt8) :
    ApRepresents (apParseBytes p bytes).1 (run (step apVerdict) acc bytes).1 ∧
      (apParseBytes p bytes).2 = (trace (step apVerdict) acc bytes).map apAnswer := by
  induction bytes generalizing p acc with
  | nil => exact ⟨h, rfl⟩
  | cons b bytes ih =>
    obtain ⟨hrep, hanswer, -, -⟩ := apParseByte_step h b
    obtain ⟨hrep', hrest⟩ := ih hrep
    refine ⟨hrep', ?_⟩
    rw [trace, List.map_cons, ← hanswer, ← hrest]
    rfl

/-- The parser from `ap_parser_init` on. -/
theorem apParseBytes_init (p : ApParser) (stream : List UInt8) :
    ApRepresents (apParseBytes (apParserInit p) stream).1 (apRun stream).1 :=
  (apParseBytes_framing (apRepresents_nil_iff.mpr rfl) stream).1

/-- Only COMPLETE changes the packet. -/
theorem apParseBytes_pkt {p : ApParser} {acc : List UInt8} (h : ApRepresents p acc)
    {bytes : List UInt8} (hno : .complete ∉ (apParseBytes p bytes).2) :
    (apParseBytes p bytes).1.pkt = p.pkt := by
  induction bytes generalizing p acc with
  | nil => rfl
  | cons b bytes ih =>
    obtain ⟨hrep, -, -, hskip⟩ := apParseByte_step h b
    have hcons : apParseBytes p (b :: bytes) =
        ((apParseBytes (apParseByte p b).1 bytes).1,
          (apParseByte p b).2 :: (apParseBytes (apParseByte p b).1 bytes).2) := rfl
    rw [hcons, List.mem_cons, not_or] at hno
    rw [hcons]
    exact (ih hrep hno.2).trans (hskip (Ne.symm hno.1)).1

/-- **A whole frame**, fed to a parser in SYNC: it wants more until the last byte, and the CRC
decides. -/
theorem apParseBytes_frame {frame : List UInt8} (h : ApFrame frame) {p : ApParser}
    (hp : p.state = .sync) :
    (apParseBytes p frame).2 = List.replicate (frame.length - 1) .needMore ++
        [if ApCrcValid frame then .complete else .errCrc] ∧
      (ApCrcValid frame → (apParseBytes p frame).1.pkt.message = apFrameMessage frame) ∧
      (¬ ApCrcValid frame → (apParseBytes p frame).1.pkt = p.pkt) := by
  have hsync := apRepresents_nil_iff.mpr hp
  have hresults : (apParseBytes p frame).2 = List.replicate (frame.length - 1) .needMore ++
      [if ApCrcValid frame then .complete else .errCrc] := by
    rw [(apParseBytes_framing hsync frame).2, h.trace_eq, List.map_append, List.map_replicate,
      List.map_singleton, apAnswer, apAnswer]
  refine ⟨hresults, fun hcrc => ?_, fun hcrc => ?_⟩
  · -- the last call
    obtain ⟨body, last, heq, hbody, hlast⟩ := h.exists_last
    have hrep := (apParseBytes_framing hsync body).1
    rw [hbody] at hrep
    obtain ⟨-, hanswer, hmsg, -⟩ := apParseByte_step hrep last
    rw [hlast, apAnswer, if_pos hcrc] at hanswer
    have hmsg' := hmsg hanswer
    rw [hlast, List.filterMap_cons, ApUnit.message?, if_pos hcrc] at hmsg'
    have hrun : (apParseBytes p frame).1 = (apParseByte (apParseBytes p body).1 last).1 := by
      conv_lhs => rw [heq, apParseBytes, run_append, run_singleton]
      rfl
    rw [hrun]
    exact (List.cons.inj hmsg').1.symm
  · refine apParseBytes_pkt hsync ?_
    rw [hresults, if_neg hcrc]
    simp

/-- **A packet is completed with a frame that has just been read.** -/
theorem exists_frame_of_complete {p : ApParser} {stream : List UInt8} {b : UInt8}
    (h : ApRepresents p (apRun stream).1) (hc : (apParseByte p b).2 = .complete) :
    ∃ frame, (step apVerdict (apRun stream).1 b).2 = [.frame frame] ∧ ApFrame frame ∧
      ApCrcValid frame ∧ frame <:+ stream ++ [b] ∧
      (apParseByte p b).1.pkt.message = apFrameMessage frame := by
  obtain ⟨-, hanswer, hmsg, -⟩ := apParseByte_step h b
  have hmsg' := hmsg hc
  rw [hc] at hanswer
  rcases apRun_out stream b with hout | ⟨f, hout, hframe, hsuffix⟩ | ⟨len, hout⟩
  · rw [hout] at hanswer
    exact absurd hanswer (by simp [apAnswer])
  · rw [hout, apAnswer] at hanswer
    have hcrc : ApCrcValid f := by
      by_contra hbad
      rw [if_neg hbad] at hanswer
      exact absurd hanswer (by simp)
    rw [hout, List.filterMap_cons, ApUnit.message?, if_pos hcrc] at hmsg'
    exact ⟨f, hout, hframe, hcrc, hsuffix, (List.cons.inj hmsg').1.symm⟩
  · rw [hout, apAnswer] at hanswer
    split_ifs at hanswer

/-! ## The two directions -/

/-- **Encode, then decode.** -/
theorem apParseBytes_build (c : ApBuild) {p : ApParser} (hp : p.state = .sync) :
    let r := apParseBytes p c.bytes
    r.2 = List.replicate (c.payload.length + 3) .needMore ++ [.complete] ∧
      r.1.pkt.cmd = c.cmd ∧ r.1.pkt.payloadLen.toNat = c.payload.length ∧
      slice r.1.pkt.payload 0 c.payload.length = c.payload := by
  intro r
  have hcrc : ApCrcValid c.bytes := by
    rw [c.bytes_eq]
    exact apCrcValid_apPacketBytes c.cmd c.payload
  have hcount : c.bytes.length - 1 = c.payload.length + 3 := by
    rw [c.bytes_eq]
    simp only [apPacketBytes, List.length_cons, List.length_append, List.length_nil]
    omega
  obtain ⟨hresults, hmsg, -⟩ := apParseBytes_frame c.apFrame hp
  rw [hcount, if_pos hcrc] at hresults
  have hpkt : r.1.pkt.message = ⟨c.cmd, c.payload⟩ := by
    rw [← apFrameMessage_apPacketBytes, ← c.bytes_eq]
    exact hmsg hcrc
  have hpayload : slice r.1.pkt.payload 0 r.1.pkt.payloadLen.toNat = c.payload :=
    congrArg ApMessage.payload hpkt
  have hlength : r.1.pkt.payloadLen.toNat = c.payload.length := by
    rw [← hpayload, length_slice]
  exact ⟨hresults, congrArg ApMessage.cmd hpkt, hlength, hlength ▸ hpayload⟩

/-- **Decode, then encode.** -/
theorem apBuildPacket_of_complete {p : ApParser} {stream : List UInt8} {b : UInt8}
    (h : ApRepresents p (apRun stream).1) (hc : (apParseByte p b).2 = .complete)
    (buf : ℕ → UInt8) {bufSize : ℕ}
    (hsize : (apParseByte p b).1.pkt.payloadLen.toNat + 4 ≤ bufSize) :
    let pkt := (apParseByte p b).1.pkt
    let built := apBuildPacket (some buf) bufSize pkt.cmd (some pkt.payload) pkt.payloadLen
    built.2 = pkt.payloadLen.toNat + 4 ∧
      (stream ++ [b]).drop ((stream ++ [b]).length - (pkt.payloadLen.toNat + 4)) =
        written built := by
  intro pkt built
  obtain ⟨frame, -, hframe, hcrc, hsuffix, hmsg⟩ := exists_frame_of_complete h hc
  obtain ⟨hpacket, hmax⟩ := hframe.eq_apPacketBytes hcrc
  rw [← hmsg] at hpacket hmax
  have hlength : pkt.message.payload.length = pkt.payloadLen.toNat := length_slice _ _ _
  have hbuilt := @apBuildPacket_eq bufSize buf pkt.payload pkt.cmd pkt.message.payload hmax
    (by rw [hlength, Nat.add_comm]; exact hsize) (by rw [hlength]; rfl)
  rw [hlength, UInt8.ofNat_toNat, Nat.add_comm] at hbuilt
  refine ⟨hbuilt.1, ?_⟩
  have hframelen : frame.length = pkt.payloadLen.toNat + 4 := by
    rw [hpacket]
    simp only [apPacketBytes, List.length_cons, List.length_append, List.length_nil]
    have hlength' : ((apParseByte p b).1.pkt.message.payload).length = pkt.payloadLen.toNat := hlength
    omega
  rw [hbuilt.2, ← hframelen, ← List.suffix_iff_eq_drop.mp hsuffix]
  exact hpacket

/-- **The codec is exact.**  Whatever parser in SYNC is fed what the builder writes, it wants more
until the last byte completes the packet; and what a parser has completed, the builder writes
again.  Other answers leave the packet alone, and errors leave the parser in SYNC. -/
theorem ap_codec_exact :
    (∀ (c : ApBuild) (p : ApParser), p.state = .sync →
      let r := apParseBytes p c.bytes
      r.2 = List.replicate (c.payload.length + 3) .needMore ++ [.complete] ∧
        r.1.pkt.cmd = c.cmd ∧ r.1.pkt.payloadLen.toNat = c.payload.length ∧
        slice r.1.pkt.payload 0 c.payload.length = c.payload) ∧
    ∀ (p₀ : ApParser) (stream : List UInt8) (b : UInt8),
      let p := (apParseBytes (apParserInit p₀) stream).1
      let r := apParseByte p b
      (r.2 = .complete → ∀ (buf : ℕ → UInt8) (bufSize : ℕ),
        r.1.pkt.payloadLen.toNat + 4 ≤ bufSize →
        let built := apBuildPacket (some buf) bufSize r.1.pkt.cmd (some r.1.pkt.payload)
          r.1.pkt.payloadLen
        built.2 = r.1.pkt.payloadLen.toNat + 4 ∧
          (stream ++ [b]).drop ((stream ++ [b]).length - (r.1.pkt.payloadLen.toNat + 4)) =
            written built) ∧
      (r.2 ≠ .complete → r.1.pkt = p.pkt) ∧
      (r.2 = .errCrc ∨ r.2 = .errLen ∨ r.2 = .errOverflow → r.1.state = .sync) := by
  constructor
  · intro c p hp
    exact apParseBytes_build c hp
  · intro p₀ stream b p r
    have hrep : ApRepresents p (apRun stream).1 := apParseBytes_init p₀ stream
    refine ⟨?_, fun hc => ((apParseByte_step hrep b).2.2.2 hc).1, ?_⟩
    · intro hc buf bufSize hsize
      exact apBuildPacket_of_complete hrep hc buf hsize
    · intro herr
      refine apParseByte_state ?_
      show r.2 ≠ .needMore
      rcases herr with h | h | h <;> rw [h] <;> decide

/-- A packet with a SYNC byte in its payload, on a parser with leftovers, and after a bad LEN. -/
theorem ap_codec_exact_rgb :
    (apParseBytes
        { state := .sync, len := 9, idx := 7, data := fun _ => 0xA5, pkt := ⟨1, 2, fun _ => 3⟩ }
        (written (apBuildPacket (some fun _ => 0xEE) 7 apCmdSetRgb (some (ofList 0 [0xA5, 1, 2]))
          3))).2 = List.replicate 6 .needMore ++ [.complete] ∧
    ∃ pkt : ApPacket, pkt.message = ⟨apCmdSetRgb, [0xA5, 1, 2]⟩ ∧
      [0xA5, 0x04, 0x21, 0xA5, 0x01, 0x02, 0xC4] =
        written (apBuildPacket (some fun _ => 0xEE) 7 pkt.cmd (some pkt.payload) 3) := by
  refine ⟨(ap_codec_exact.1 ⟨fun _ => 0xEE, 7, apCmdSetRgb, some (ofList 0 [0xA5, 1, 2]),
    [0xA5, 1, 2], by rfl, by decide, by decide⟩ _ rfl).1, ?_⟩
  set r := apParseByte (apParseBytes (apParserInit
    { state := .crc, len := 9, idx := 7, data := fun _ => 0xA5, pkt := ⟨1, 2, fun _ => 3⟩ })
    [0xA5, 0xFF, 0xA5, 0x04, 0x21, 0xA5, 0x01, 0x02]).1 0xC4 with hr
  have hlen : r.1.pkt.payloadLen = 3 := by decide +kernel
  have hbuilt := ((ap_codec_exact.2 _ _ _).1 (by decide +kernel : r.2 = .complete) (fun _ => 0xEE) 7
    (by rw [← hr, hlen]; decide)).2
  rw [← hr, hlen] at hbuilt
  exact ⟨r.1.pkt, by decide +kernel, hbuilt⟩

end Al1Wmod
