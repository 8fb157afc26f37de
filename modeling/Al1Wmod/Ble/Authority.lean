import Al1Wmod.Ble.Gate
import Al1Wmod.Protocol.Codec

/-!
# Who looks at the CRC

The bridge frames by length and peeks at CMD; the STM32 is the one that checks the CRC.  So a frame
with a wrong CRC has the same effect on the session as one with a right CRC: a CLAIM makes its
sender the claimant, and a RELEASE of the controller ends the binding.  In both cases the frame is
sent on, and it is up to the STM32's parser whether there was a command in it.
-/

namespace Al1Wmod

open PastTime Buffer Transducer

/-- The command in the message of a frame is the one the bridge classifies. -/
theorem ApFrame.cmd_message {frame : List UInt8} (h : ApFrame frame) :
    (apFrameMessage frame).cmd = apCmd frame := by
  obtain ⟨len, cmd, rest, rfl⟩ := h.exists_cmd
  rfl

/-- What a frame of `conn` does to the session, read off CMD. -/
def sessionAfter (s : Session) (conn : UInt16) (frame : List UInt8) : Session :=
  if apCmd frame = apCmdClaim then { s with pendingClaimConn := conn }
  else if apCmd frame = apCmdRelease ∧ conn = s.controllingConn then clearBinding s
  else s

/-- The session, and what is sent when it changes. -/
theorem SessionStep.after {s s' : Session} {conn : UInt16} {frame : List UInt8}
    {acts : List Action} (h : SessionStep s (.apFrame conn frame) s' acts) :
    s' = sessionAfter s conn frame ∧ (s' ≠ s → acts = [.linkSend al1ChApCtrl frame]) := by
  unfold sessionAfter
  cases h with
  | claim _ hcmd => exact ⟨by rw [if_pos hcmd], fun _ => rfl⟩
  | release hc hcmd =>
    have hclaim : apCmd frame ≠ apCmdClaim := by
      rw [hcmd]
      decide
    exact ⟨by rw [if_neg hclaim, if_pos ⟨hcmd, hc⟩], fun _ => rfl⟩
  | forward hclaim hrelease _ =>
    have hnot : ¬ (apCmd frame = apCmdRelease ∧ conn = s.controllingConn) :=
      fun h => hrelease h.2 h.1
    exact ⟨by rw [if_neg hclaim, if_neg hnot], fun _ => rfl⟩
  | reject hc hcmd =>
    have hclaim : apCmd frame ≠ apCmdClaim := by
      intro h
      rw [h, apCmdRequiresClaim_claim] at hcmd
      exact Bool.false_ne_true hcmd
    exact ⟨by rw [if_neg hclaim, if_neg fun h => hc h.2], fun h => absurd rfl h⟩

/-- The law of an entry that is about a frame.  The session changes by CMD alone, and only with a
frame that is sent to the STM32 as it came.  The STM32's parser completes the frame with that
command if the CRC is right, and answers ERR_CRC if it is not. -/
def ByCmdAlone (e : Entry) (_ : List Entry) : Prop :=
  ∀ conn frame, e.call = .apFrame conn frame →
    e.after = sessionAfter e.before conn frame ∧
    (e.after ≠ e.before → e.acts = [.linkSend al1ChApCtrl frame]) ∧
    ∀ p : ApParser, p.state = .sync →
      (apParseBytes p frame).2 = List.replicate (frame.length - 1) .needMore ++
          [if ApCrcValid frame then .complete else .errCrc] ∧
        (ApCrcValid frame → (apParseBytes p frame).1.pkt.cmd = apCmd frame) ∧
        (¬ ApCrcValid frame → (apParseBytes p frame).1.pkt = p.pkt)

/-- **CMD decides about the session**, at every moment of every run, and the CRC about the
command. -/
theorem session_by_cmd {maxConn : ℕ} {b : Bridge} {hist : List Entry}
    (h : Reached maxConn b hist) : Historically ByCmdAlone hist := by
  refine h.traced.historically ?_
  rintro s past c - hj conn frame hcall
  obtain rfl : c = .apFrame conn frame := hcall
  obtain ⟨hafter, hacts⟩ := (s.call_step (.apFrame conn frame)).after
  refine ⟨hafter, hacts, ?_⟩
  intro p hp
  have hframe := hj.2.apFrame
  obtain ⟨hresults, hmsg, hpkt⟩ := apParseBytes_frame hframe hp
  refine ⟨hresults, fun hcrc => ?_, hpkt⟩
  rw [← hframe.cmd_message, ← hmsg hcrc]
  rfl

/-- A central is granted a claim and writes a RELEASE. -/
theorem session_by_cmd_release : Historically ByCmdAlone (bridgeRun al1BleMaxConn
    [.connEvt 1 true, .write 1 (apPacketBytes apCmdClaim []),
      .linkAp (ofList 0 (apPacketBytes apCmdOk [0, 7])) 6,
      .write 1 [0xA5, 0x01, 0x02, 0xFF]]).2 :=
  session_by_cmd (reached_bridgeRun (by decide +kernel))

instance (conn : UInt16) (frame : List UInt8) : ∀ c : Call, Decidable (c = .apFrame conn frame)
  | .apFrame _ _ => decidable_of_iff' _ (Call.apFrame.injEq ..).to_iff
  | .connEvt _ _ | .bleWrite _ _ | .linkAp _ _ => isFalse Call.noConfusion

/-- **A wrong CRC changes the session.**  Connection 1 controls the device.  A CLAIM of connection 2
makes it the claimant, and a RELEASE of connection 1 ends the binding, and the STM32's parser
answers ERR_CRC to both. -/
theorem session_by_wrong_crc : ∃ b hist, Reached al1BleMaxConn b hist ∧
    (∀ cmd ∈ [apCmdClaim, apCmdRelease], ∀ p : ApParser, p.state = .sync →
      (apParseBytes p [0xA5, 1, cmd, 0xFF]).2.getLast? = some .errCrc) ∧
    (∃ e ∈ hist, e.call = .apFrame 2 [0xA5, 1, apCmdClaim, 0xFF] ∧
      e.before.pendingClaimConn = connNone ∧ e.after.pendingClaimConn = 2) ∧
    ∃ e ∈ hist, e.call = .apFrame 1 [0xA5, 1, apCmdRelease, 0xFF] ∧
      e.before.controllingConn = 1 ∧ e.after.controllingConn = connNone := by
  refine ⟨_, _, @reached_bridgeRun _ [.connEvt 1 true, .connEvt 2 true,
    .write 1 (apPacketBytes apCmdClaim []), .linkAp (ofList 0 (apPacketBytes apCmdOk [0, 7])) 6,
    .write 2 [0xA5, 1, apCmdClaim, 0xFF], .write 1 [0xA5, 1, apCmdRelease, 0xFF]]
    (by decide +kernel), ?_, ?_⟩
  · intro cmd hmem p hp
    have hcrc : ¬ ApCrcValid [0xA5, 1, cmd, 0xFF] := by
      revert cmd
      decide +kernel
    have hframe : ApFrame [0xA5, 1, cmd, 0xFF] := ⟨1, [cmd, 0xFF], rfl, by decide, rfl⟩
    rw [(apParseBytes_frame hframe hp).1, if_neg hcrc, List.getLast?_concat]
  · decide +kernel

end Al1Wmod
