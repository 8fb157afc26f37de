import Al1Wmod.Ble.Reassembler
import Al1Wmod.Protocol.Codec

/-!
# The reassembler and the parser in lock step

The bridge frames a central's bytes with `ap_reasm_feed`, and the STM32 frames the bytes it is
sent with `ap_parse_byte`.  The two were written separately and count differently: one counts
`need` down to the CRC, the other counts `idx` up to LEN and has a state for the CRC.  If they ever
drifted apart, the bridge would gate one command while the STM32 executes another.

They do not, because both are in lock step with the framing.  `ApPlace` is where a machine stands
in a frame; each machine's place is that of the framing, so the two places are the same.
-/

namespace Al1Wmod

open Buffer Transducer Framer

/-- Where a machine stands: hunting, expecting LEN, or inside a frame with some bytes left. -/
inductive ApPlace where
  | hunting
  | length
  | inside (left : ℕ)
  deriving DecidableEq, Repr

/-- The place of the reassembler. -/
def ApReasm.place (r : ApReasm) : ApPlace :=
  match r.state with
  | .sync => .hunting
  | .len => .length
  | .data => .inside r.need.toNat

/-- The place of the parser.  After the data bytes it still expects the CRC. -/
def ApParser.place (p : ApParser) : ApPlace :=
  match p.state with
  | .sync => .hunting
  | .len => .length
  | .data => .inside (p.len.toNat - p.idx.toNat + 1)
  | .crc => .inside 1

/-- The place of the framing. -/
def apPlace : List UInt8 → ApPlace
  | [] => .hunting
  | [_] => .length
  | _ :: len :: rest => .inside (len.toNat + 1 - rest.length)

theorem ReasmRepresents.place {r : ApReasm} {acc : List UInt8} (h : ReasmRepresents r acc) :
    r.place = apPlace acc := by
  unfold ReasmRepresents at h
  unfold ApReasm.place
  cases hs : r.state with
  | sync =>
    rw [hs] at h
    rw [show acc = [] from h]
    rfl
  | len =>
    rw [hs] at h
    rw [h.1]
    rfl
  | data =>
    rw [hs] at h
    obtain ⟨len, rest, rfl, -, hrest, -, -, hneed⟩ := h
    exact congrArg ApPlace.inside (by omega)

theorem ApRepresents.place {p : ApParser} {acc : List UInt8} (h : ApRepresents p acc) :
    p.place = apPlace acc := by
  unfold ApRepresents at h
  unfold ApParser.place
  cases hs : p.state with
  | sync | len =>
    rw [hs] at h
    rw [show acc = _ from h]
    rfl
  | data =>
    rw [hs] at h
    obtain ⟨rfl, -, hidx⟩ := h
    have hidx' : p.idx.toNat < p.len.toNat := hidx
    refine congrArg ApPlace.inside ?_
    rw [length_slice]
    omega
  | crc =>
    rw [hs] at h
    obtain ⟨rfl, -⟩ := h
    refine congrArg ApPlace.inside ?_
    rw [length_slice]
    omega

/-- The next store of the reassembler is inside `frame`, and `need` can be decremented. -/
theorem ReasmRepresents.bounds {r : ApReasm} {acc : List UInt8} (h : ReasmRepresents r acc)
    (hs : r.state = .data) : r.idx.toNat < 256 ∧ 0 < r.need.toNat := by
  unfold ReasmRepresents at h
  rw [hs] at h
  obtain ⟨len, rest, -, ⟨-, hmax⟩, hrest, -, hidx, hneed⟩ := h
  have hmax' : len.toNat ≤ 253 := hmax
  omega

/-- The next store of the parser is inside `data`. -/
theorem ApRepresents.bounds {p : ApParser} {acc : List UInt8} (h : ApRepresents p acc)
    (hs : p.state = .data) : p.idx.toNat < 253 := by
  unfold ApRepresents at h
  rw [hs] at h
  obtain ⟨-, ⟨-, hmax⟩, hidx⟩ := h
  have hmax' : p.len.toNat ≤ 253 := hmax
  have hidx' : p.idx.toNat < p.len.toNat := hidx
  omega

/-- A frame handed out at the byte `b`: the last bytes of the stream, from SYNC to CRC, in the
length its LEN byte announces. -/
structure HandedOut (stream : List UInt8) (b : UInt8) (frame : List UInt8) : Prop where
  suffix : frame <:+ stream ++ [b]
  sync : frame.head? = some apSyncByte
  length : frame.length = (frame.getD 1 0).toNat + 3
  bounds : 4 ≤ frame.length ∧ frame.length ≤ 256

/-- The packet holds CMD and PAYLOAD of the frame. -/
structure ApPacket.Of (pkt : ApPacket) (frame : List UInt8) : Prop where
  cmd : pkt.cmd = frame.getD 2 0
  payload : slice pkt.payload 0 pkt.payloadLen.toNat = (frame.drop 3).take pkt.payloadLen.toNat
  length : pkt.payloadLen.toNat + 4 = frame.length

/-- What the two machines do at the byte `b`, after the bytes of `stream`. -/
structure LockStep (stream : List UInt8) (r : ApReasm) (p : ApParser) (b : UInt8) : Prop where
  place : r.place = p.place
  /-- The callback is invoked where the parser answers COMPLETE or ERR_CRC. -/
  calls : (apReasmByte r b).2.length =
    if (apParseByte p b).2 = .complete ∨ (apParseByte p b).2 = .errCrc then 1 else 0
  /-- `len_err` is incremented where it answers ERR_LEN or ERR_OVERFLOW. -/
  lenErr : (apReasmByte r b).1.lenErr =
    if (apParseByte p b).2 = .errLen ∨ (apParseByte p b).2 = .errOverflow then r.lenErr + 1
    else r.lenErr
  handed : ∀ c ∈ (apReasmByte r b).2, HandedOut stream b c.bytes ∧
    ((apParseByte p b).2 = .complete → (apParseByte p b).1.pkt.Of c.bytes)
  reasmBounds : r.state = .data → r.idx.toNat < 256 ∧ 0 < r.need.toNat
  parserBounds : p.state = .data → p.idx.toNat < 253

theorem ApFrame.handedOut {stream : List UInt8} {b : UInt8} {frame : List UInt8}
    (h : ApFrame frame) (hsuffix : frame <:+ stream ++ [b]) : HandedOut stream b frame := by
  refine ⟨hsuffix, ?_, h.length_eq, h.le_length, h.length_le⟩
  obtain ⟨len, rest, rfl, -, -⟩ := h
  rfl

/-- A packet with the message of a frame with a right CRC. -/
theorem ApPacket.of_message {pkt : ApPacket} {frame : List UInt8} (h : ApFrame frame)
    (hcrc : ApCrcValid frame) (hmsg : pkt.message = apFrameMessage frame) : pkt.Of frame := by
  have hpacket := (h.eq_apPacketBytes hcrc).1
  rw [← hmsg] at hpacket
  have hlength : pkt.message.payload.length = pkt.payloadLen.toNat := length_slice _ _ _
  obtain ⟨crc, hdrop⟩ : ∃ crc, frame.drop 3 = pkt.message.payload ++ [crc] :=
    ⟨_, by rw [hpacket]; rfl⟩
  refine ⟨?_, ?_, ?_⟩
  · rw [hpacket]
    rfl
  · rw [hdrop, List.take_left' hlength]
    rfl
  · rw [hpacket]
    simp only [apPacketBytes, List.length_cons, List.length_append, List.length_nil]
    omega

/-! ## At one byte -/

section Byte

variable {stream : List UInt8} {r : ApReasm} {p : ApParser} {b : UInt8}

/-- What the reassembler hands out, with a callback. -/
theorem ReasmRepresents.calls_eq {acc : List UInt8} (hr : ReasmRepresents r acc) (hcb : r.cb = true)
    (b : UInt8) : (apReasmByte r b).2.map ApFrameCall.bytes =
      (step apVerdict acc b).2.filterMap ApUnit.frame? := by
  have hcalls := (apReasmByte_step hr b).calls
  rwa [hcb, if_pos rfl] at hcalls

/-- No unit ends at the byte. -/
theorem lockStep_of_silent (hr : ReasmRepresents r (apRun stream).1) (hcb : r.cb = true)
    (hp : ApRepresents p (apRun stream).1) (hout : (step apVerdict (apRun stream).1 b).2 = []) :
    LockStep stream r p b := by
  obtain ⟨-, hanswer, -, -⟩ := apParseByte_step hp b
  have hcalls := hr.calls_eq hcb b
  have hlenErr := (apReasmByte_step hr b).lenErr
  rw [hout] at hanswer hcalls hlenErr
  rw [apAnswer] at hanswer
  have hnone : (apReasmByte r b).2 = [] := List.map_eq_nil_iff.mp hcalls
  refine ⟨hr.place.trans hp.place.symm, ?_, ?_, ?_, hr.bounds, hp.bounds⟩
  · rw [hnone, hanswer]
    rfl
  · rw [hlenErr, hanswer]
    simp
  · intro c hc
    rw [hnone] at hc
    exact absurd hc List.not_mem_nil

/-- A frame ends at the byte. -/
theorem lockStep_of_frame (hr : ReasmRepresents r (apRun stream).1) (hcb : r.cb = true)
    (hp : ApRepresents p (apRun stream).1) {f : List UInt8}
    (hout : (step apVerdict (apRun stream).1 b).2 = [.frame f]) (hframe : ApFrame f)
    (hsuffix : f <:+ stream ++ [b]) : LockStep stream r p b := by
  obtain ⟨-, hanswer, -, -⟩ := apParseByte_step hp b
  have hcalls := hr.calls_eq hcb b
  have hlenErr := (apReasmByte_step hr b).lenErr
  rw [hout] at hanswer hcalls hlenErr
  rw [apAnswer] at hanswer
  have hlength := congrArg List.length hcalls
  rw [List.length_map] at hlength
  have hends : (apParseByte p b).2 = .complete ∨ (apParseByte p b).2 = .errCrc := by
    rw [hanswer]
    split_ifs
    · exact Or.inl rfl
    · exact Or.inr rfl
  have hnot : ¬ ((apParseByte p b).2 = .errLen ∨ (apParseByte p b).2 = .errOverflow) := by
    rcases hends with h | h <;> rw [h] <;> decide
  refine ⟨hr.place.trans hp.place.symm, ?_, ?_, ?_, hr.bounds, hp.bounds⟩
  · rw [hlength, if_pos hends]
    rfl
  · rw [hlenErr, if_neg hnot]
    exact UInt32.add_zero r.lenErr
  · intro c hc
    have hbytes : c.bytes = f := by
      have hmem : c.bytes ∈ (apReasmByte r b).2.map ApFrameCall.bytes := List.mem_map_of_mem hc
      rw [hcalls] at hmem
      exact List.mem_singleton.mp hmem
    rw [hbytes]
    refine ⟨hframe.handedOut hsuffix, fun hcomplete => ?_⟩
    obtain ⟨g, hg, -, hcrc, -, hmsg⟩ := exists_frame_of_complete hp hcomplete
    obtain rfl : f = g := by
      rw [hout] at hg
      exact ApUnit.frame.inj (List.cons.inj hg).1
    exact ApPacket.of_message hframe hcrc hmsg

/-- The byte is a LEN that is out of bounds. -/
theorem lockStep_of_badLen (hr : ReasmRepresents r (apRun stream).1) (hcb : r.cb = true)
    (hp : ApRepresents p (apRun stream).1) {len : UInt8}
    (hout : (step apVerdict (apRun stream).1 b).2 = [.badLen len]) : LockStep stream r p b := by
  obtain ⟨-, hanswer, -, -⟩ := apParseByte_step hp b
  have hcalls := hr.calls_eq hcb b
  have hlenErr := (apReasmByte_step hr b).lenErr
  rw [hout] at hanswer hcalls hlenErr
  rw [apAnswer] at hanswer
  have hnone : (apReasmByte r b).2 = [] := List.map_eq_nil_iff.mp hcalls
  have herr : (apParseByte p b).2 = .errLen ∨ (apParseByte p b).2 = .errOverflow := by
    rw [hanswer]
    split_ifs
    · exact Or.inl rfl
    · exact Or.inr rfl
  have hnot : ¬ ((apParseByte p b).2 = .complete ∨ (apParseByte p b).2 = .errCrc) := by
    rcases herr with h | h <;> rw [h] <;> decide
  refine ⟨hr.place.trans hp.place.symm, ?_, ?_, ?_, hr.bounds, hp.bounds⟩
  · rw [hnone, if_neg hnot]
    rfl
  · rw [hlenErr, if_pos herr]
    rfl
  · intro c hc
    rw [hnone] at hc
    exact absurd hc List.not_mem_nil

end Byte

/-- **Lock step**, at every byte of every stream, however it is cut into feeds.  The last of `feeds`
may be the part of a feed that comes before `b`. -/
theorem reasm_parser_lockstep (r₀ : ApReasm) (p₀ : ApParser) (feeds : List (List UInt8))
    (b : UInt8) :
    LockStep feeds.flatten (run apReasmFeed (apReasmInit r₀ true) feeds).1
      (apParseBytes (apParserInit p₀) feeds.flatten).1 b := by
  have hinit := apReasmFeed_init r₀ true feeds
  have hr := hinit.represents
  have hcb : (run apReasmFeed (apReasmInit r₀ true) feeds).1.cb = true := hinit.cb
  have hp := apParseBytes_init p₀ feeds.flatten
  rcases apRun_out feeds.flatten b with hout | ⟨f, hout, hframe, hsuffix⟩ | ⟨len, hout⟩
  · exact lockStep_of_silent hr hcb hp hout
  · exact lockStep_of_frame hr hcb hp hout hframe hsuffix
  · exact lockStep_of_badLen hr hcb hp hout

end Al1Wmod
