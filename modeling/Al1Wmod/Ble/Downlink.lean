import Al1Wmod.Ble.Notify
import Al1Wmod.Ble.Reassembler
import Al1Wmod.Protocol.Codec

/-!
# The downlink

What a central makes of the notifications it gets.  `al1_ble_notify_conn` cuts every frame at the
MTU of the moment, and the central puts the frames together again, with `ap_reasm_feed` or with its
Python port `ApReassembler` in `ble_smoke.py`.  The port keeps a growing buffer where the C code
has a buffer and an index.

Where the cuts fall does not matter to a machine that reads byte by byte, so the round trip
is `apRun_frames` on the concatenated frames.
-/

namespace Al1Wmod

open Buffer Transducer Framer

/-- `ApReassembler`.  Its states are those of `ap_reasm_state_t`, its numbers are unbounded. -/
structure ApReassembler where
  state : ApReasmState
  frame : List UInt8
  need : ℤ
  lenErr : ℕ
  deriving DecidableEq, Repr

/-- `ApReassembler.__init__`. -/
def ApReassembler.init : ApReassembler := ⟨.sync, [], 0, 0⟩

/-- The body of the loop of `ApReassembler.feed`: one byte. -/
def ApReassembler.byte (r : ApReassembler) (b : UInt8) : ApReassembler × List (List UInt8) :=
  match r.state with
  | .sync => (if b = apSyncByte then { r with frame := [b], state := .len } else r, [])
  | .len =>
    if b < apMinLen ∨ apMaxLen < b then ({ r with lenErr := r.lenErr + 1, state := .sync }, [])
    else
      ({ r with frame := r.frame ++ [b], need := (b.toNat : ℤ) + 1, state := .data }, [])
  | .data =>
    let q := { r with frame := r.frame ++ [b], need := r.need - 1 }
    if q.need = 0 then ({ q with state := .sync }, [q.frame]) else (q, [])

/-- `ApReassembler.feed`. -/
def ApReassembler.feed (r : ApReassembler) (data : List UInt8) :
    ApReassembler × List (List UInt8) :=
  run ApReassembler.byte r data

/-! ## The port against the framing -/

/-- The port after the bytes `acc` of an unfinished frame. -/
def ApReassembler.Represents (r : ApReassembler) (acc : List UInt8) : Prop :=
  match r.state with
  | .sync => acc = []
  | .len => acc = [apSyncByte] ∧ r.frame = acc
  | .data => ∃ (len : UInt8) (rest : List UInt8),
    acc = apSyncByte :: len :: rest ∧ ApLen len ∧ rest.length ≤ len.toNat ∧ r.frame = acc ∧
      r.need + rest.length = len.toNat + 1

/-- What the port has done when the framing has reached `acc` and put out `out`. -/
structure ApReassembler.Follows (r r' : ApReassembler) (frames : List (List UInt8))
    (acc : List UInt8) (out : List ApUnit) : Prop where
  represents : r'.Represents acc
  frames : frames = out.filterMap ApUnit.frame?
  lenErr : r'.lenErr = r.lenErr + (out.filterMap ApUnit.badLen?).length

/-- One byte. -/
theorem ApReassembler.byte_step {r : ApReassembler} {acc : List UInt8} (h : r.Represents acc)
    (b : UInt8) :
    r.Follows (r.byte b).1 (r.byte b).2 (step apVerdict acc b).1 (step apVerdict acc b).2 := by
  unfold Represents at h
  split at h
  case h_1 hs =>
    subst h
    by_cases hb : b = apSyncByte
    · rw [hb, apStep_sync]
      simp only [byte, hs, if_true]
      exact ⟨⟨rfl, rfl⟩, rfl, rfl⟩
    · rw [apStep_skip hb]
      simp only [byte, hs, hb, if_false]
      exact ⟨by simp [Represents, hs], rfl, rfl⟩
  case h_2 hs =>
    obtain ⟨rfl, hframe⟩ := h
    by_cases hlen : ApLen b
    · rw [apStep_len hlen]
      simp only [byte, hs, not_apLen_iff, hlen, not_true_eq_false, if_false]
      exact ⟨⟨b, [], rfl, hlen, Nat.zero_le _, by rw [hframe]; rfl, by simp⟩, rfl, rfl⟩
    · rw [apStep_badLen hlen]
      simp only [byte, hs, not_apLen_iff, hlen, not_false_eq_true, if_true]
      exact ⟨rfl, rfl, rfl⟩
  case h_3 hs =>
    obtain ⟨len, rest, rfl, hlen, hrest, hframe, hneed⟩ := h
    have hframe' : r.frame ++ [b] = apSyncByte :: len :: (rest ++ [b]) := by
      rw [hframe]
      rfl
    rcases hrest.lt_or_eq with hlt | heq
    · have hne : r.need - 1 ≠ 0 := by omega
      rw [apStep_data hlt]
      simp only [byte, hs, hne, if_false]
      refine ⟨⟨len, rest ++ [b], rfl, hlen, ?_, hframe', ?_⟩, rfl, rfl⟩
      · rw [List.length_append]
        exact hlt
      · simp only [List.length_append, List.length_singleton]
        omega
    · have hzero : r.need - 1 = 0 := by omega
      rw [apStep_frame heq]
      simp only [byte, hs, hzero, if_true, hframe']
      exact ⟨rfl, rfl, rfl⟩

/-- **Every feed.** -/
theorem ApReassembler.feed_framing {r : ApReassembler} {acc : List UInt8} (h : r.Represents acc)
    (data : List UInt8) :
    r.Follows (r.feed data).1 (r.feed data).2 (run (step apVerdict) acc data).1
      (run (step apVerdict) acc data).2 := by
  induction data generalizing r acc with
  | nil => exact ⟨h, rfl, rfl⟩
  | cons b data ih =>
    have hstep := byte_step h b
    have hrest := ih hstep.represents
    refine ⟨hrest.represents, ?_, ?_⟩
    · rw [run_cons, List.filterMap_append, ← hstep.frames, ← hrest.frames]
      rfl
    · have hcount : (r.feed (b :: data)).1.lenErr = ((r.byte b).1.feed data).1.lenErr := rfl
      rw [hcount, hrest.lenErr, hstep.lenErr, run_cons, List.filterMap_append, List.length_append,
        Nat.add_assoc]

/-! ## The round trip -/

/-- The largest notification at an ATT MTU, as a number. -/
def notifyLimit (mtu : ℕ) : ℕ := if 3 < mtu then mtu - 3 else 20

theorem toNat_notifyChunk (mtu : UInt16) : (notifyChunk mtu).toNat = notifyLimit mtu.toNat := by
  unfold notifyChunk notifyLimit
  by_cases h : 3 < mtu
  · have h' : 3 < mtu.toNat := h
    rw [if_pos h, if_pos h', UInt16.toNat_sub_of_le _ _ (UInt16.le_of_lt h)]
    rfl
  · have h' : ¬ 3 < mtu.toNat := h
    rw [if_neg h, if_neg h']
    rfl

/-- A packet to notify, and what `ble_att_mtu` returns for it. -/
structure SentPacket where
  packet : ApBuild
  mtu : UInt16

/-- The call of `al1_ble_notify_conn` that sends it. -/
def SentPacket.call (conn : UInt16) (d : SentPacket) : NotifyCall := ⟨conn, d.mtu, d.packet.bytes⟩

/-- The call returns zero, and has notified fragments that carry the packet. -/
theorem SentPacket.call_spec (conn : UInt16) (d : SentPacket) :
    al1BleNotifyConn d.mtu (ofList 0 d.packet.bytes) (UInt16.ofNat d.packet.bytes.length)
        (fun _ => 0) = some ((d.call conn).fragments, 0) ∧
      (d.call conn).fragments.flatten = d.packet.bytes ∧
      ∀ f ∈ (d.call conn).fragments, f ≠ [] ∧ f.length ≤ notifyLimit d.mtu.toNat := by
  have hlen : (d.call conn).data.length ≤ 32768 := d.packet.apFrame.length_le.trans (by decide)
  have hspec := NotifyCall.fragments_spec hlen
  rw [toNat_notifyChunk] at hspec
  refine ⟨?_, hspec⟩
  have hlen' : (UInt16.ofNat d.packet.bytes.length).toNat = d.packet.bytes.length := by
    have : d.packet.bytes.length ≤ 32768 := hlen
    rw [UInt16.toNat_ofNat']
    omega
  have hwrap := noWrap_of_le hlen (notifyChunk d.mtu).toNat_lt
  rw [al1BleNotifyConn_eq d.mtu _ (hlen'.symm ▸ hwrap), NotifyCall.fragments_eq hlen, hlen',
    slice_ofList, lastFailure_zeros]
  rfl

/-- What a connection is notified when packets are sent to it one after another. -/
def notifications (conn : UInt16) (sent : List SentPacket) : List (List UInt8) :=
  sent.flatMap fun d => (d.call conn).fragments

theorem flatten_notifications (conn : UInt16) (sent : List SentPacket) :
    (notifications conn sent).flatten = (sent.map fun d => d.packet.bytes).flatten := by
  induction sent with
  | nil => rfl
  | cons d sent ih =>
    rw [notifications, List.flatMap_cons, List.flatten_append, (d.call_spec conn).2.1,
      List.map_cons, List.flatten_cons, ← ih]
    rfl

/-- The framing reads the packets off the notifications. -/
theorem apRun_notifications (conn : UInt16) (sent : List SentPacket) :
    apRun (notifications conn sent).flatten =
      ([], sent.map fun d => .frame d.packet.bytes) := by
  have hframes : ∀ f ∈ sent.map fun d => d.packet.bytes, ApFrame f := by
    intro f hf
    obtain ⟨d, -, rfl⟩ := List.mem_map.mp hf
    exact d.packet.apFrame
  rw [flatten_notifications, apRun_frames hframes, List.map_map]
  rfl

/-- **The downlink round trip.**  Packets sent one after another to a connection, each at its own
MTU, reach a central that reassembles the notifications in C or in Python: in order, each once, byte
for byte.  No notification is empty or longer than the MTU allows. -/
theorem downlink_round_trip (conn : UInt16) (sent : List SentPacket) (r₀ : ApReasm) :
    (∀ d ∈ sent,
      al1BleNotifyConn d.mtu (ofList 0 d.packet.bytes) (UInt16.ofNat d.packet.bytes.length)
          (fun _ => 0) = some ((d.call conn).fragments, 0) ∧
        ∀ f ∈ (d.call conn).fragments, f ≠ [] ∧
          f.length ≤ if 3 < d.mtu.toNat then d.mtu.toNat - 3 else 20) ∧
    (let r := run apReasmFeed (apReasmInit r₀ true) (notifications conn sent)
     r.2.map ApFrameCall.bytes = sent.map (fun d => d.packet.bytes) ∧ r.1.lenErr = 0 ∧
      r.1.state = .sync) ∧
    (let r := run ApReassembler.feed ApReassembler.init (notifications conn sent)
     r.2 = sent.map (fun d => d.packet.bytes) ∧ r.1.lenErr = 0 ∧ r.1.state = .sync) := by
  have hframe : (sent.map fun d => ApUnit.frame d.packet.bytes).filterMap ApUnit.frame? =
      sent.map fun d => d.packet.bytes := by
    rw [List.filterMap_map]
    exact congrFun List.filterMap_eq_map sent
  have hbad : (sent.map fun d => ApUnit.frame d.packet.bytes).filterMap ApUnit.badLen? = [] := by
    rw [List.filterMap_map, List.filterMap_eq_nil_iff]
    exact fun _ _ => rfl
  refine ⟨fun d _ => ⟨(d.call_spec conn).1, (d.call_spec conn).2.2⟩, ?_, ?_⟩
  · have h := apReasmFeed_init r₀ true (notifications conn sent)
    rw [apRun_notifications] at h
    refine ⟨?_, ?_, reasmRepresents_nil_iff.mp h.represents⟩
    · rw [h.calls, show (apReasmInit r₀ true).cb = true from rfl, if_pos rfl, hframe]
    · rw [h.lenErr, hbad]
      rfl
  · have hrun : run ApReassembler.feed ApReassembler.init (notifications conn sent) =
        ApReassembler.init.feed (notifications conn sent).flatten := run_flatten _ _ _
    have h := @ApReassembler.feed_framing .init [] rfl (notifications conn sent).flatten
    rw [show run (step apVerdict) [] _ = _ from apRun_notifications conn sent] at h
    rw [hrun]
    refine ⟨h.frames.trans hframe, ?_, ?_⟩
    · rw [h.lenErr, hbad]
      rfl
    · have hrep := h.represents
      unfold ApReassembler.Represents at hrep
      split at hrep
      · assumption
      · exact absurd hrep.1 (by simp)
      · obtain ⟨_, _, hrep, -⟩ := hrep
        exact absurd hrep (by simp)

end Al1Wmod
