import Al1Wmod.Ble.Session

/-!
# The gate

Which frames of the centrals reach the STM32.  A claim-requiring command passes only for the
controller, and whoever is the controller has claimed control, was granted it, and has not lost
it since.  RELEASE does not require a claim, so it passes for everyone; only the controller's own
RELEASE, or the one the bridge sends in its place when it drops, ends the binding.
-/

namespace Al1Wmod

open PastTime Buffer

/-- The packet of `reject_not_controller`, byte by byte. -/
theorem notControllerPacket_eq :
    notControllerPacket = apPacketBytes apCmdError [ApError.notController.code] :=
  (@apBuildPacket_eq _ (fun _ => 0) _ apCmdError [ApError.notController.code] (by decide) (by decide)
    (slice_ofList 0 _)).2

/-- The packet the bridge sends for a controller that drops, byte by byte. -/
theorem releasePacket_eq : releasePacket = apPacketBytes apCmdRelease [] := by decide +kernel

theorem apCmd_releasePacket : apCmd releasePacket = apCmdRelease := rfl

section Step

variable {s s' : Session} {c : Call} {acts : List Action} {conn : UInt16} {frame : List UInt8}

/-- What is sent to the STM32, on AP_CTRL: a frame as it came, or a RELEASE for the controller that
drops. -/
theorem SessionStep.linkSend (h : SessionStep s c s' acts) {channel : UInt8}
    (hmem : .linkSend channel frame ∈ acts) :
    channel = al1ChApCtrl ∧
      ((∃ conn, c = .apFrame conn frame) ∨
        (c = .connEvt s.controllingConn false ∧ frame = releasePacket ∧
          s'.controllingConn = connNone)) := by
  cases h with
  | connect _ | write _ _ | leave _ | reject _ _ | bind _ _ _ => simp at hmem
  | drop hc =>
    obtain ⟨hch, rfl⟩ : channel = al1ChApCtrl ∧ frame = releasePacket := by simpa using hmem
    exact ⟨hch, Or.inr ⟨by rw [hc], rfl, rfl⟩⟩
  | claim conn _ | release _ _ | forward _ _ _ =>
    obtain ⟨hch, rfl⟩ : channel = al1ChApCtrl ∧ frame = _ := by simpa using hmem
    exact ⟨hch, Or.inl ⟨_, rfl⟩⟩
  | sessionEnd _ | pass _ _ => split at hmem <;> simp at hmem

/-- A claim-requiring frame is sent for the controller, and rejected for everyone else. -/
theorem SessionStep.gated (h : SessionStep s (.apFrame conn frame) s' acts)
    (hreq : apCmdRequiresClaim (apCmd frame)) :
    (conn = s.controllingConn ∧ acts = [.linkSend al1ChApCtrl frame]) ∨
      (acts = [.notifyConn conn notControllerPacket] ∧ s' = s) := by
  cases h with
  | claim _ hcmd =>
    rw [hcmd, apCmdRequiresClaim_claim] at hreq
    exact absurd hreq Bool.false_ne_true
  | release hc _ => exact Or.inl ⟨hc, rfl⟩
  | forward _ _ hgate =>
    refine Or.inl ⟨?_, rfl⟩
    by_contra hne
    rw [hgate hne] at hreq
    exact Bool.false_ne_true hreq
  | reject _ _ => exact Or.inr ⟨rfl, rfl⟩

/-- A RELEASE frame ends the binding of its sender, and of nobody else. -/
theorem SessionStep.released (h : SessionStep s (.apFrame conn frame) s' acts)
    (hcmd : apCmd frame = apCmdRelease) :
    (conn = s.controllingConn ∧ s' = clearBinding s) ∨ (conn ≠ s.controllingConn ∧ s' = s) := by
  cases h with
  | claim _ hclaim => exact absurd (hclaim.symm.trans hcmd) (by decide)
  | release hc _ => exact Or.inl ⟨hc, rfl⟩
  | forward _ hrelease _ => exact Or.inr ⟨fun hc => hrelease hc hcmd, rfl⟩
  | reject hc _ => exact Or.inr ⟨hc, rfl⟩

end Step

/-- The law of the gate, for an entry and its past.  A claim-requiring command that is sent to the
STM32 is a frame that a connection wrote, and that connection is authorised.  A claim-requiring
frame is either sent, unchanged and alone, or its sender is told NOT_CONTROLLER and the session
stays as it is. -/
def Gated (e : Entry) (past : List Entry) : Prop :=
  (∀ channel frame, .linkSend channel frame ∈ e.acts → apCmdRequiresClaim (apCmd frame) →
    ∃ conn, e.call = .apFrame conn frame ∧ Wrote conn frame past ∧ Authorised conn past) ∧
  ∀ conn frame, e.call = .apFrame conn frame → apCmdRequiresClaim (apCmd frame) →
    (e.acts = [.linkSend al1ChApCtrl frame] ∧ Authorised conn past) ∨
    (e.acts = [.notifyConn conn (apPacketBytes apCmdError [ApError.notController.code])] ∧
      e.after = e.before)

/-- **The gate** holds at every moment of every run of the bridge. -/
theorem gate {maxConn : ℕ} {b : Bridge} {hist : List Entry} (h : Reached maxConn b hist) :
    Historically Gated hist := by
  refine h.traced.historically ?_
  intro s past c ht hj
  have hauth : ∀ {conn frame}, c = .apFrame conn frame → conn = s.controllingConn →
      Authorised conn past := by
    rintro conn frame rfl rfl
    exact ht.inv.controller (ht.inv.handles _ hj.1)
  constructor
  · intro channel frame hmem hreq
    rcases ((s.call_step c).linkSend hmem).2 with ⟨conn, rfl⟩ | ⟨-, rfl, -⟩
    · refine ⟨conn, rfl, hj.2, ?_⟩
      rcases (s.call_step (.apFrame conn frame)).gated hreq with ⟨hctl, -⟩ | ⟨hacts, -⟩
      · exact hauth rfl hctl
      · have hmem' : .linkSend channel frame ∈ (s.call (.apFrame conn frame)).2 := hmem
        rw [hacts] at hmem'
        simp at hmem'
    · rw [apCmd_releasePacket, apCmdRequiresClaim_release] at hreq
      exact absurd hreq Bool.false_ne_true
  · intro conn frame hcall hreq
    obtain rfl : c = .apFrame conn frame := hcall
    rcases (s.call_step _).gated hreq with ⟨hctl, hacts⟩ | ⟨hacts, hs⟩
    · exact Or.inl ⟨hacts, hauth rfl hctl⟩
    · exact Or.inr ⟨by rw [← notControllerPacket_eq]; exact hacts, hs⟩

/-- Two centrals: the one that was granted its claim sets the LEDs, the other is rejected. -/
theorem gate_two_centrals : Historically Gated (bridgeRun al1BleMaxConn
    [.connEvt 1 true, .connEvt 2 true, .write 1 (apPacketBytes apCmdClaim []),
      .linkAp (ofList 0 (apPacketBytes apCmdOk [0, 7])) 6,
      .write 1 (apPacketBytes apCmdSetRgb [9, 9, 9]),
      .write 2 (apPacketBytes apCmdSetRgb [1, 2, 3])]).2 :=
  gate (reached_bridgeRun (by decide +kernel))

/-- Who ends a session, for an entry and its past.  While `a` is bound, a RELEASE that is sent to
the STM32 is a frame of `a`, and the binding ends with it; or it is the bridge's own, because `a`
dropped, and the binding ends with it; or it is a frame that another connection wrote, and the
session stays as it is. -/
def ReleaseSent (e : Entry) (past : List Entry) : Prop :=
  ∀ a ≠ connNone, e.before.controllingConn = a →
    ∀ channel frame, .linkSend channel frame ∈ e.acts → apCmd frame = apCmdRelease →
      (e.call = .apFrame a frame ∧ Wrote a frame past ∧ e.after.controllingConn = connNone) ∨
      (e.call = .connEvt a false ∧ frame = apPacketBytes apCmdRelease [] ∧
        e.after.controllingConn = connNone) ∨
      ∃ conn, conn ≠ a ∧ e.call = .apFrame conn frame ∧ Wrote conn frame past ∧
        e.after = e.before

/-- **Whose RELEASE is sent.** -/
theorem release_sent {maxConn : ℕ} {b : Bridge} {hist : List Entry} (h : Reached maxConn b hist) :
    Historically ReleaseSent hist := by
  refine h.traced.historically ?_
  rintro s past c ht hj _ - rfl channel frame hmem hcmd
  rcases ((s.call_step c).linkSend hmem).2 with ⟨conn, rfl⟩ | ⟨rfl, rfl, hs⟩
  · rcases (s.call_step (.apFrame conn frame)).released hcmd with ⟨rfl, hs⟩ | ⟨hne, hs⟩
    · refine Or.inl ⟨rfl, hj.2, ?_⟩
      show (s.call _).1.controllingConn = connNone
      rw [hs]
      rfl
    · exact Or.inr (Or.inr ⟨conn, hne, rfl, hj.2, hs⟩)
  · exact Or.inr (Or.inl ⟨rfl, releasePacket_eq, hs⟩)

/-- A controller that releases, and drops after a second claim. -/
theorem release_sent_twice : Historically ReleaseSent (bridgeRun al1BleMaxConn
    [.connEvt 1 true, .write 1 (apPacketBytes apCmdClaim []),
      .linkAp (ofList 0 (apPacketBytes apCmdOk [0, 7])) 6,
      .write 1 (apPacketBytes apCmdRelease [] ++ apPacketBytes apCmdClaim []),
      .linkAp (ofList 0 (apPacketBytes apCmdOk [])) 4,
      .linkAp (ofList 0 (apPacketBytes apCmdOk [0, 8])) 6, .connEvt 1 false]).2 :=
  release_sent (reached_bridgeRun (by decide +kernel))

/-- While connection 1 is bound, the RELEASE that connection 2 writes is sent to the STM32. -/
theorem release_sent_for_other : ∃ b hist, Reached al1BleMaxConn b hist ∧
    ∃ e ∈ hist, e.before.controllingConn = 1 ∧ e.call.releases 2 ∧
      .linkSend al1ChApCtrl (apPacketBytes apCmdRelease []) ∈ e.acts := by
  refine ⟨_, _, @reached_bridgeRun _ [.connEvt 1 true, .connEvt 2 true,
    .write 1 (apPacketBytes apCmdClaim []), .linkAp (ofList 0 (apPacketBytes apCmdOk [0, 7])) 6,
    .write 2 (apPacketBytes apCmdRelease [])] (by decide +kernel), ?_⟩
  decide +kernel

end Al1Wmod
