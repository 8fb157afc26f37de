import Al1Wmod.Protocol.Framing

/-!
# The packet parser

`ap_parse_byte`.  The parser stores the data bytes of a frame at `idx` and computes the CRC when
the last byte arrives.  It answers every byte with a result code; `apParseByte_step` reads the
code, and the packet it leaves in `pkt`, off the framing.
-/

namespace Al1Wmod

open Buffer Transducer Framer

/-- `ap_packet_t`. -/
structure ApPacket where
  cmd : UInt8
  payloadLen : UInt8
  payload : ℕ → UInt8

/-- `ap_parse_state_t`. -/
inductive ApParseState where
  | sync | len | data | crc
  deriving DecidableEq, Repr

/-- `ap_parse_result_t`. -/
inductive ApParseResult where
  | needMore | complete | errCrc | errLen | errOverflow
  deriving DecidableEq, Repr

/-- `ap_parser_t`. -/
structure ApParser where
  state : ApParseState
  len : UInt8
  idx : UInt8
  data : ℕ → UInt8
  pkt : ApPacket

/-- `ap_parser_init`, on a parser whose memory holds `p`. -/
def apParserInit (p : ApParser) : ApParser := { p with state := .sync, len := 0, idx := 0 }

/-- `ap_parse_byte`. -/
def apParseByte (p : ApParser) (byte : UInt8) : ApParser × ApParseResult :=
  match p.state with
  | .sync =>
    (if byte = apSyncByte then { p with state := .len, len := 0, idx := 0 } else p, .needMore)
  | .len =>
    if byte = 0 then ({ p with state := .sync }, .errLen)
    else if apMaxPayloadSize + 1 < byte.toNat then ({ p with state := .sync }, .errOverflow)
    else ({ p with len := byte, idx := 0, state := .data }, .needMore)
  | .data =>
    let q := { p with data := write p.data p.idx.toNat byte, idx := p.idx + 1 }
    (if q.len ≤ q.idx then { q with state := .crc } else q, .needMore)
  | .crc =>
    let computed := (slice p.data 0 p.len.toNat).foldl apCrc8Update (apCrc8 [p.len])
    if byte ≠ computed then ({ p with state := .sync }, .errCrc)
    else
      let payloadLen := p.len - 1
      ({ p with
         pkt :=
          { cmd := p.data 0
            payloadLen := payloadLen
            payload := if 0 < payloadLen then
                blit p.pkt.payload 0 (slice p.data 1 payloadLen.toNat)
              else p.pkt.payload }
         state := .sync }, .complete)

/-- A packet without its framing. -/
structure ApMessage where
  cmd : UInt8
  payload : List UInt8
  deriving DecidableEq, Repr

/-- The message a parsed packet carries. -/
def ApPacket.message (pkt : ApPacket) : ApMessage :=
  ⟨pkt.cmd, slice pkt.payload 0 pkt.payloadLen.toNat⟩

/-! ## The parser against the framing -/

/-- The last byte of a frame is the CRC of `LEN..PAYLOAD`. -/
def ApCrcValid (frame : List UInt8) : Prop := frame.getLastD 0 = apCrc8 frame.tail.dropLast

instance (frame : List UInt8) : Decidable (ApCrcValid frame) :=
  inferInstanceAs (Decidable (_ = _))

/-- The message in a frame. -/
def apFrameMessage (frame : List UInt8) : ApMessage :=
  ⟨frame.getD 2 0, (frame.drop 3).dropLast⟩

/-- The result code for what the framing puts out at a byte. -/
def apAnswer : List ApUnit → ApParseResult
  | [] => .needMore
  | .frame f :: _ => if ApCrcValid f then .complete else .errCrc
  | .badLen len :: _ => if len = 0 then .errLen else .errOverflow

/-- The message a parser completes with a unit. -/
def ApUnit.message? : ApUnit → Option ApMessage
  | .frame f => if ApCrcValid f then some (apFrameMessage f) else none
  | .badLen _ => none

/-- The parser after the bytes `acc` of an unfinished frame. -/
def ApRepresents (p : ApParser) (acc : List UInt8) : Prop :=
  match p.state with
  | .sync => acc = []
  | .len => acc = [apSyncByte]
  | .data =>
    acc = apSyncByte :: p.len :: slice p.data 0 p.idx.toNat ∧ ApLen p.len ∧ p.idx < p.len
  | .crc => acc = apSyncByte :: p.len :: slice p.data 0 p.len.toNat ∧ ApLen p.len

theorem apLen_iff {len : UInt8} : ApLen len ↔ len ≠ 0 ∧ len.toNat ≤ 253 := by
  rw [ApLen, apMinLen, apMaxLen, UInt8.le_iff_toNat_le, UInt8.le_iff_toNat_le, ne_eq,
    ← UInt8.toNat_inj]
  simp only [UInt8.reduceToNat]
  omega

theorem apCrcValid_iff {sync len crc : UInt8} {body : List UInt8} :
    ApCrcValid (sync :: len :: (body ++ [crc])) ↔ crc = apCrc8 (len :: body) := by
  show ((sync :: len :: body) ++ [crc]).getLastD 0 = apCrc8 ((len :: body) ++ [crc]).dropLast ↔ _
  rw [List.dropLast_concat, List.getLastD_concat]

/-- The copy into `pkt.payload` is skipped when there is nothing to copy. -/
theorem slice_copyPayload (data old : ℕ → UInt8) (n : UInt8) :
    slice (if 0 < n then blit old 0 (slice data 1 n.toNat) else old) 0 n.toNat =
      slice data 1 n.toNat := by
  by_cases h : 0 < n
  · rw [if_pos h]
    simpa using slice_blit old 0 (slice data 1 n.toNat)
  · have h0 : n.toNat = 0 := Nat.eq_zero_of_not_pos fun hn => h (UInt8.lt_iff_toNat_lt.mpr hn)
    rw [h0, slice_zero, slice_zero]

/-- CMD and PAYLOAD of a frame are the data the parser stored. -/
theorem apFrameMessage_slice (data : ℕ → UInt8) {len : UInt8} (h : ApLen len) (crc : UInt8) :
    apFrameMessage (apSyncByte :: len :: (slice data 0 len.toNat ++ [crc])) =
      ⟨data 0, slice data 1 (len - 1).toNat⟩ := by
  have hle : (1 : UInt8) ≤ len := h.1
  have hlen : len.toNat = (len - 1).toNat + 1 := by
    have hpos : 1 ≤ len.toNat := hle
    rw [UInt8.toNat_sub_of_le _ _ hle, show (1 : UInt8).toNat = 1 from rfl]
    omega
  rw [hlen, slice_succ]
  simp [apFrameMessage]

/-- One byte: the state follows the framing, the result code is its answer, and the packet
changes only when a frame is completed. -/
theorem apParseByte_step {p : ApParser} {acc : List UInt8} (h : ApRepresents p acc) (b : UInt8) :
    ApRepresents (apParseByte p b).1 (step apVerdict acc b).1 ∧
      (apParseByte p b).2 = apAnswer (step apVerdict acc b).2 ∧
      ((apParseByte p b).2 = .complete →
        (step apVerdict acc b).2.filterMap ApUnit.message? = [(apParseByte p b).1.pkt.message]) ∧
      ((apParseByte p b).2 ≠ .complete → (apParseByte p b).1.pkt = p.pkt ∧
        (step apVerdict acc b).2.filterMap ApUnit.message? = []) := by
  unfold ApRepresents at h
  split at h
  case h_1 hs =>
    subst h
    by_cases hb : b = apSyncByte
    · rw [hb, apStep_sync]
      simp [apParseByte, hs, ApRepresents, apAnswer]
    · rw [apStep_skip hb]
      simp [apParseByte, hs, hb, ApRepresents, apAnswer]
  case h_2 hs =>
    subst h
    by_cases hlen : ApLen b
    · obtain ⟨h0, h253⟩ := apLen_iff.mp hlen
      have hmax : ¬ apMaxPayloadSize + 1 < b.toNat := Nat.not_lt.mpr h253
      have hpos : 0 < b := UInt8.pos_iff_ne_zero.mpr h0
      rw [apStep_len hlen]
      simp [apParseByte, hs, h0, hmax, ApRepresents, apAnswer, hlen, hpos]
    · rw [apStep_badLen hlen]
      by_cases h0 : b = 0
      · simp [apParseByte, hs, h0, ApRepresents, apAnswer, ApUnit.message?]
      · have hmax : apMaxPayloadSize + 1 < b.toNat := by
          have h253 : ¬ b.toNat ≤ 253 := fun h => hlen (apLen_iff.mpr ⟨h0, h⟩)
          exact Nat.lt_of_not_le h253
        simp [apParseByte, hs, h0, hmax, ApRepresents, apAnswer, ApUnit.message?]
  case h_3 hs =>
    obtain ⟨rfl, hlen, hidx⟩ := h
    have hidx' : p.idx.toNat < p.len.toNat := hidx
    have hlt : p.len.toNat < 256 := p.len.toNat_lt
    have hsucc : (p.idx + 1).toNat = p.idx.toNat + 1 := by
      rw [UInt8.toNat_add, show (1 : UInt8).toNat = 1 from rfl]
      omega
    have hslice : slice (write p.data p.idx.toNat b) 0 (p.idx.toNat + 1) =
        slice p.data 0 p.idx.toNat ++ [b] := by
      simpa using slice_write_last p.data 0 p.idx.toNat b
    rw [apStep_data (by simpa using hidx')]
    by_cases hend : p.len ≤ p.idx + 1
    · have hend' : p.len.toNat = p.idx.toNat + 1 := by
        rw [UInt8.le_iff_toNat_le, hsucc] at hend
        omega
      simp [apParseByte, hs, hend, ApRepresents, apAnswer, hlen, hend', hslice]
    · have hend' : p.idx + 1 < p.len := UInt8.not_le.mp hend
      simp [apParseByte, hs, hend, ApRepresents, apAnswer, hlen, hend', hsucc, hslice]
  case h_4 hs =>
    obtain ⟨rfl, hlen⟩ := h
    have hvalid := @apCrcValid_iff apSyncByte p.len b (slice p.data 0 p.len.toNat)
    rw [apCrc8_cons] at hvalid
    rw [apStep_frame (length_slice _ _ _)]
    by_cases hok : b = (slice p.data 0 p.len.toNat).foldl apCrc8Update (apCrc8 [p.len])
    · have hgood := hvalid.mpr hok
      simp only [apParseByte, hs, ← hok, ne_eq, not_true_eq_false, if_false, apAnswer,
        if_pos hgood, true_and, forall_const, false_implies, and_true]
      refine ⟨rfl, ?_⟩
      rw [List.filterMap_cons, ApUnit.message?, if_pos hgood, apFrameMessage_slice p.data hlen,
        ApPacket.message, slice_copyPayload]
      rfl
    · have hbad := hvalid.not.mpr hok
      simp [apParseByte, hs, hok, ApRepresents, apAnswer, ApUnit.message?, hbad]

/-! ## A receiver -/

/-- A receiver of packets: it feeds a byte and takes the packet when the parser completes one. -/
def apReceiveByte (p : ApParser) (byte : UInt8) : ApParser × List ApMessage :=
  let r := apParseByte p byte
  (r.1, if r.2 = .complete then [r.1.pkt.message] else [])

/-- **Every stream.**  The receiver takes the messages of the frames whose CRC is right. -/
theorem run_apReceiveByte {p : ApParser} {acc : List UInt8} (h : ApRepresents p acc)
    (data : List UInt8) :
    ApRepresents (run apReceiveByte p data).1 (run (step apVerdict) acc data).1 ∧
      (run apReceiveByte p data).2 =
        (run (step apVerdict) acc data).2.filterMap ApUnit.message? := by
  induction data generalizing p acc with
  | nil => exact ⟨h, rfl⟩
  | cons b data ih =>
    obtain ⟨hrep, -, hmsg, hskip⟩ := apParseByte_step h b
    obtain ⟨hrep', hout⟩ := ih hrep
    have hb : (apReceiveByte p b).2 = (step apVerdict acc b).2.filterMap ApUnit.message? := by
      by_cases hc : (apParseByte p b).2 = .complete
      · rw [apReceiveByte, if_pos hc, hmsg hc]
      · rw [apReceiveByte, if_neg hc, (hskip hc).2]
    rw [run_cons, run_cons, List.filterMap_append, ← hb, ← hout]
    exact ⟨hrep', rfl⟩

/-- A parser between two frames is in SYNC. -/
theorem apRepresents_nil_iff {p : ApParser} : ApRepresents p [] ↔ p.state = .sync := by
  unfold ApRepresents
  cases p.state <;> simp

/-- Whole frames, one after another: the receiver is back in SYNC, and takes the messages of those
whose CRC is right. -/
theorem run_apReceiveByte_frames {p : ApParser} (h : p.state = .sync) {frames : List (List UInt8)}
    (hf : ∀ f ∈ frames, ApFrame f) :
    (run apReceiveByte p frames.flatten).1.state = .sync ∧
      (run apReceiveByte p frames.flatten).2 =
        (frames.filter fun f => ApCrcValid f).map apFrameMessage := by
  obtain ⟨hrep, hout⟩ := run_apReceiveByte (apRepresents_nil_iff.mpr h) frames.flatten
  rw [show run (step apVerdict) [] frames.flatten = ([], frames.map .frame) from apRun_frames hf]
    at hrep hout
  refine ⟨apRepresents_nil_iff.mp hrep, hout.trans ?_⟩
  clear hrep hout hf
  induction frames with
  | nil => rfl
  | cons f frames ih =>
    rw [List.map_cons, List.filterMap_cons, ApUnit.message?, List.filter_cons, ih]
    by_cases hcrc : ApCrcValid f
    · rw [if_pos hcrc, if_pos (decide_eq_true hcrc), List.map_cons]
    · rw [if_neg hcrc, if_neg (by simpa using hcrc)]

/-- The command of a whole frame, and the rest of its message. -/
theorem ApFrame.exists_cmd {frame : List UInt8} (h : ApFrame frame) :
    ∃ len cmd rest, frame = apSyncByte :: len :: cmd :: rest := by
  obtain ⟨len, rest, rfl, _, hrest⟩ := h
  cases rest with
  | nil => simp at hrest
  | cons cmd rest => exact ⟨len, cmd, rest, rfl⟩

end Al1Wmod
