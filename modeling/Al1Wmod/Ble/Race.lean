import Al1Wmod.Ble.Gate
import Al1Wmod.Stream.Machine
import Mathlib.Data.Finset.Basic

/-!
# The race for the session

The callbacks of the bridge come from two tasks, and the session variables have no lock: the RX task
calls `al1_ble_ap_bridge_on_link_ap`, the NimBLE host task calls `on_conn_evt` and `on_ap_frame`.
Elsewhere a callback runs to its end before the next one; here both are cut at each access to the
session variables.  A callback that nobody interrupts is the callback of the session model
(`uninterrupted`).

The gate can fail.  While the RX task has loaded `s_pending_claim_conn` and not stored
`s_controlling_conn`, the host task may find that the central it has loaded is not in control, and
finish with its disconnect.  The RX task then binds a connection that is gone, and a central that is
given its handle is in control without having asked.  This is the only way (`gate_iff`).
-/

namespace Al1Wmod

open Buffer Transducer Machine

/-! ## The two tasks -/

/-- Where the RX task stands in `al1_ble_ap_bridge_on_link_ap`. -/
inductive LinkApPoint where
  | idle
  | entered (payload : ℕ → UInt8) (len : UInt16)
  /-- An OK, and `s_pending_claim_conn` was not `CONN_NONE`. -/
  | claimed (payload : ℕ → UInt8) (len : UInt16)
  /-- `conn` is loaded. -/
  | loaded (payload : ℕ → UInt8) (len conn : UInt16)
  /-- The claim is no longer pending. -/
  | cleared (payload : ℕ → UInt8) (len conn : UInt16)
  /-- `conn` is in control. -/
  | bound (payload : ℕ → UInt8) (len conn : UInt16)
  /-- An EVT_SESSION_END. -/
  | ending (payload : ℕ → UInt8) (len : UInt16)
  /-- `s_controlling_conn` was not `CONN_NONE`. -/
  | endNotify (payload : ℕ → UInt8) (len : UInt16)
  /-- In `clear_binding`. -/
  | unbind
  | zero
  /-- Any other frame. -/
  | passing (payload : ℕ → UInt8) (len : UInt16)
  /-- `s_controlling_conn` was not `CONN_NONE`. -/
  | passNotify (payload : ℕ → UInt8) (len : UInt16)

/-- Where the host task stands. -/
inductive HostPoint where
  | idle
  /-- In `on_ap_frame`. -/
  | frame (conn : UInt16) (frame : List UInt8)
  /-- In `clear_binding`, for a RELEASE of the controller. -/
  | unbind
  | zero
  /-- In `on_conn_evt`, before the test of `s_pending_claim_conn`. -/
  | leaving (conn : UInt16)
  /-- It was `conn`. -/
  | forget (conn : UInt16)
  /-- Before the test of `s_controlling_conn`. -/
  | controlling (conn : UInt16)
  /-- It was `conn`: in `clear_binding`. -/
  | drop (conn : UInt16)
  | dropZero (conn : UInt16)

/-- The session variables and the two tasks.  The connections, and those that have sent a CLAIM
since they connected, are what the bridge should know. -/
structure SharedSession where
  session : Session
  rx : LinkApPoint
  host : HostPoint
  conns : Finset UInt16
  claimed : Finset UInt16

/-- After `al1_ble_ap_bridge_init`. -/
def raceBoot : SharedSession := ⟨⟨connNone, 0, connNone⟩, .idle, .idle, ∅, ∅⟩

/-- What can happen: a callback begins, or a task takes a step in the one it is in. -/
inductive RaceStep where
  | linkAp (payload : ℕ → UInt8) (len : UInt16)
  | rx
  | connect (conn : UInt16)
  | apFrame (conn : UInt16) (frame : List UInt8)
  | disconnect (conn : UInt16)
  | host

namespace SharedSession

/-- `al1_ble_ap_bridge_on_link_ap`. -/
def rxNext (m : SharedSession) : SharedSession × List Action :=
  match m.rx with
  | .idle => (m, [])
  | .entered payload len =>
    let cmd := apPeek payload len
    if cmd = apCmdOk ∧ m.session.pendingClaimConn ≠ connNone then
      ({ m with rx := .claimed payload len }, [])
    else if cmd = apCmdEvtSessionEnd then ({ m with rx := .ending payload len }, [])
    else ({ m with rx := .passing payload len }, [])
  | .claimed payload len =>
    ({ m with rx := .loaded payload len m.session.pendingClaimConn }, [])
  | .loaded payload len conn =>
    ({ m with
       session := { m.session with pendingClaimConn := connNone }
       rx := .cleared payload len conn }, [])
  | .cleared payload len conn =>
    ({ m with
       session := { m.session with controllingConn := conn }
       rx := .bound payload len conn }, [])
  | .bound payload len conn =>
    let apLen := payload apOffLen
    ({ m with
       session := { m.session with
         sessionId :=
           if 3 ≤ apLen then
             (payload apOffPayload).toUInt16 <<< 8 ||| (payload (apOffPayload + 1)).toUInt16
           else m.session.sessionId }
       rx := .idle }, [.notifyConn conn (slice payload 0 len.toNat)])
  | .ending payload len =>
    if m.session.controllingConn ≠ connNone then ({ m with rx := .endNotify payload len }, [])
    else ({ m with rx := .unbind }, [])
  | .endNotify payload len =>
    ({ m with rx := .unbind }, [.notifyConn m.session.controllingConn (slice payload 0 len.toNat)])
  | .unbind =>
    ({ m with session := { m.session with controllingConn := connNone }, rx := .zero }, [])
  | .zero => ({ m with session := { m.session with sessionId := 0 }, rx := .idle }, [])
  | .passing payload len =>
    if m.session.controllingConn ≠ connNone then ({ m with rx := .passNotify payload len }, [])
    else ({ m with rx := .idle }, [.notifyAll (slice payload 0 len.toNat)])
  | .passNotify payload len =>
    ({ m with rx := .idle }, [.notifyConn m.session.controllingConn (slice payload 0 len.toNat)])

/-- `on_ap_frame` and `on_conn_evt`. -/
def hostNext (m : SharedSession) : SharedSession × List Action :=
  match m.host with
  | .idle => (m, [])
  | .frame conn frame =>
    let cmd := apCmd frame
    if cmd = apCmdClaim then
      ({ m with
         session := { m.session with pendingClaimConn := conn }
         host := .idle
         claimed := insert conn m.claimed }, forwardToStm32 frame)
    else if conn = m.session.controllingConn then
      ({ m with host := if cmd = apCmdRelease then .unbind else .idle }, forwardToStm32 frame)
    else if apCmdRequiresClaim cmd then ({ m with host := .idle }, rejectNotController conn)
    else ({ m with host := .idle }, forwardToStm32 frame)
  | .unbind =>
    ({ m with session := { m.session with controllingConn := connNone }, host := .zero }, [])
  | .zero => ({ m with session := { m.session with sessionId := 0 }, host := .idle }, [])
  | .leaving conn =>
    ({ m with
       host := if conn = m.session.pendingClaimConn then .forget conn else .controlling conn }, [])
  | .forget conn =>
    ({ m with
       session := { m.session with pendingClaimConn := connNone }
       host := .controlling conn }, [])
  | .controlling conn =>
    if conn = m.session.controllingConn then
      ({ m with host := .drop conn }, forwardToStm32 releasePacket)
    else
      ({ m with host := .idle, conns := m.conns.erase conn, claimed := m.claimed.erase conn }, [])
  | .drop conn =>
    ({ m with
       session := { m.session with controllingConn := connNone }
       host := .dropZero conn
       claimed := m.claimed.erase conn }, [])
  | .dropZero conn =>
    ({ m with
       session := { m.session with sessionId := 0 }
       host := .idle
       conns := m.conns.erase conn }, [])

/-- One step. -/
def step (m : SharedSession) : RaceStep → SharedSession × List Action
  | .linkAp payload len => ({ m with rx := .entered payload len }, [])
  | .rx => m.rxNext
  | .connect conn => ({ m with conns := insert conn m.conns }, [])
  | .apFrame conn frame => ({ m with host := .frame conn frame }, [])
  | .disconnect conn => ({ m with host := .leaving conn }, [])
  | .host => m.hostNext

/-- The state after a step. -/
abbrev next (m : SharedSession) (e : RaceStep) : SharedSession := (m.step e).1

/-! ## A callback that nobody interrupts -/

/-- The steps of a call from its begin to its end. -/
def steps : Call → List RaceStep
  | .connEvt conn true => [.connect conn]
  | .connEvt conn false => [.disconnect conn, .host, .host, .host, .host, .host]
  | .bleWrite _ _ => []
  | .apFrame conn frame => [.apFrame conn frame, .host, .host, .host]
  | .linkAp payload len => [.linkAp payload len, .rx, .rx, .rx, .rx, .rx]

section Uninterrupted

variable (session : Session) (conns claimed : Finset UInt16)

/-- `on_ap_frame`. -/
theorem run_apFrame (conn : UInt16) (frame : List UInt8) :
    let r := run step ⟨session, .idle, .idle, conns, claimed⟩ (steps (.apFrame conn frame))
    (r.1.session, r.2) = onApFrame session conn frame ∧ r.1.host = .idle ∧ r.1.rx = .idle := by
  have hne : apCmdRelease ≠ apCmdClaim := by decide
  by_cases hclaim : apCmd frame = apCmdClaim
  · simp [steps, run, step, hostNext, onApFrame, hclaim]
  by_cases hconn : conn = session.controllingConn
  · by_cases hrelease : apCmd frame = apCmdRelease
    · simp [steps, run, step, hostNext, onApFrame, hne, hconn, hrelease, clearBinding]
    · simp [steps, run, step, hostNext, onApFrame, hclaim, hconn, hrelease]
  · by_cases hgate : apCmdRequiresClaim (apCmd frame)
    · simp [steps, run, step, hostNext, onApFrame, hclaim, hconn, hgate]
    · simp [steps, run, step, hostNext, onApFrame, hclaim, hconn, hgate]

/-- `on_conn_evt`, for a disconnect. -/
theorem run_disconnect (conn : UInt16) :
    let r := run step ⟨session, .idle, .idle, conns, claimed⟩ (steps (.connEvt conn false))
    (r.1.session, r.2) = dropSession session conn ∧ r.1.host = .idle ∧ r.1.rx = .idle := by
  obtain ⟨controller, id, pending⟩ := session
  by_cases hpending : conn = pending
  · subst hpending
    by_cases hconn : conn = controller
    · subst hconn
      simp [steps, run, step, hostNext, dropSession, clearBinding]
    · simp [steps, run, step, hostNext, dropSession, hconn]
  · by_cases hconn : conn = controller
    · subst hconn
      simp [steps, run, step, hostNext, dropSession, hpending, clearBinding]
    · simp [steps, run, step, hostNext, dropSession, hpending, hconn]

/-- `al1_ble_ap_bridge_on_link_ap`. -/
theorem run_linkAp (payload : ℕ → UInt8) (len : UInt16) :
    let r := run step ⟨session, .idle, .idle, conns, claimed⟩ (steps (.linkAp payload len))
    (r.1.session, r.2) = al1BleApBridgeOnLinkAp session payload len ∧ r.1.host = .idle ∧
      r.1.rx = .idle := by
  have hne : apCmdEvtSessionEnd ≠ apCmdOk := by decide
  by_cases hend : apPeek payload len = apCmdEvtSessionEnd
  · by_cases hconn : session.controllingConn = connNone
    · simp [steps, run, step, rxNext, al1BleApBridgeOnLinkAp, hend, hne, hconn, clearBinding]
    · simp [steps, run, step, rxNext, al1BleApBridgeOnLinkAp, hend, hne, hconn, clearBinding]
  by_cases hbind : apPeek payload len = apCmdOk ∧ session.pendingClaimConn ≠ connNone
  · simp [steps, run, step, rxNext, al1BleApBridgeOnLinkAp, hbind]
  · by_cases hconn : session.controllingConn = connNone
    · simp [steps, run, step, rxNext, al1BleApBridgeOnLinkAp, hend, hbind, hconn]
    · simp [steps, run, step, rxNext, al1BleApBridgeOnLinkAp, hend, hbind, hconn]

end Uninterrupted

/-- **A callback that nobody interrupts** is the callback of the session model. -/
theorem uninterrupted {m : SharedSession} (hrx : m.rx = .idle) (hhost : m.host = .idle) (c : Call) :
    let r := run step m (steps c)
    (r.1.session, r.2) = m.session.call c ∧ r.1.host = .idle ∧ r.1.rx = .idle := by
  obtain ⟨session, rx, host, conns, claimed⟩ := m
  obtain rfl : rx = .idle := hrx
  obtain rfl : host = .idle := hhost
  cases c with
  | connEvt conn connected =>
    cases connected with
    | true => exact ⟨rfl, rfl, rfl⟩
    | false => exact run_disconnect session conns claimed conn
  | bleWrite conn data => exact ⟨rfl, rfl, rfl⟩
  | apFrame conn frame => exact run_apFrame session conns claimed conn frame
  | linkAp payload len => exact run_linkAp session conns claimed payload len

/-! ## What the gate should let through -/

/-- The RX task is in no callback. -/
def rxIdle (m : SharedSession) : Bool :=
  match m.rx with
  | .idle => true
  | _ => false

/-- The host task is in no callback. -/
def hostIdle (m : SharedSession) : Bool :=
  match m.host with
  | .idle => true
  | _ => false

/-- What may come next.  A task makes one call after another, and NimBLE reports a handle connected
only while it is not. -/
def Allowed (m : SharedSession) : RaceStep → Prop
  | .linkAp _ _ => m.rxIdle
  | .connect conn => m.hostIdle ∧ conn ≠ connNone ∧ conn ∉ m.conns
  | .apFrame conn _ => m.hostIdle ∧ conn ∈ m.conns
  | .disconnect conn => m.hostIdle ∧ conn ≠ connNone
  | .rx | .host => True

instance decidableAllowed (m : SharedSession) : ∀ e, Decidable (m.Allowed e)
  | .linkAp _ _ => inferInstanceAs (Decidable (_ = true))
  | .connect _ | .apFrame _ _ | .disconnect _ => inferInstanceAs (Decidable (_ ∧ _))
  | .rx | .host => inferInstanceAs (Decidable True)

/-- The connection that the RX task is about to put in control. -/
def held (m : SharedSession) : Option UInt16 :=
  match m.rx with
  | .loaded _ _ conn | .cleared _ _ conn => some conn
  | _ => none

/-- The connection that a step of the host task finishes with: it is neither pending nor in
control. -/
def finished (m : SharedSession) : RaceStep → Option UInt16
  | .host =>
    match m.host with
    | .controlling conn => if conn = m.session.controllingConn then none else some conn
    | .drop conn => some conn
    | _ => none
  | _ => none

/-- A step at which the host task does not finish with a connection that the RX task holds. -/
def Prompt (m : SharedSession) (e : RaceStep) : Prop := ∀ conn ∈ m.finished e, m.held ≠ some conn

instance decidablePrompt (m : SharedSession) (e : RaceStep) : Decidable (m.Prompt e) :=
  Option.decidableForallMem (m.finished e)

/-- The frame that a step of the host task decides about, and whose it is. -/
def judged (m : SharedSession) : RaceStep → Option (UInt16 × List UInt8)
  | .host =>
    match m.host with
    | .frame conn frame => some (conn, frame)
    | _ => none
  | _ => none

/-- A command that requires a claim passes only for a central that has sent one since it
connected. -/
def GateHolds (m : SharedSession) (e : RaceStep) : Prop :=
  ∀ conn frame, m.judged e = some (conn, frame) → apCmdRequiresClaim (apCmd frame) →
    .linkSend al1ChApCtrl frame ∈ (m.step e).2 → conn ∈ m.claimed

/-- What the host task knows, where it stands. -/
def Knows (m : SharedSession) : HostPoint → Prop
  | .frame conn _ => conn ∈ m.conns
  | .leaving conn | .forget conn => conn ≠ connNone
  | .controlling conn | .drop conn => conn ≠ connNone ∧ conn ≠ m.session.pendingClaimConn
  | .dropZero conn => conn ≠ connNone ∧ conn ∉ m.claimed
  | .idle | .unbind | .zero => True

/-- Whoever is pending, in control, or about to be, has asked. -/
structure Earned (m : SharedSession) : Prop where
  pending : m.session.pendingClaimConn ≠ connNone → m.session.pendingClaimConn ∈ m.claimed
  controller : m.session.controllingConn ≠ connNone → m.session.controllingConn ∈ m.claimed
  held : ∀ conn ∈ m.held, conn ≠ connNone → conn ∈ m.claimed
  claimed : m.claimed ⊆ m.conns
  handles : connNone ∉ m.conns
  host : m.Knows m.host

section Steps

variable {m : SharedSession}

theorem earned_boot : raceBoot.Earned where
  pending h := absurd rfl h
  controller h := absurd rfl h
  held conn h := absurd h (Option.not_mem_none conn)
  claimed := Finset.empty_subset _
  handles := Finset.notMem_empty _
  host := trivial

/-- **What a step of the RX task can do.** -/
theorem rxNext_spec (m : SharedSession) :
    let m' := m.rxNext.1
    (m'.host = m.host ∧ m'.conns = m.conns ∧ m'.claimed = m.claimed) ∧
      (m'.session.pendingClaimConn = m.session.pendingClaimConn ∨
        m'.session.pendingClaimConn = connNone) ∧
      (m'.session.controllingConn = m.session.controllingConn ∨
        m'.session.controllingConn = connNone ∨ m'.session.controllingConn ∈ m.held) ∧
      ∀ conn ∈ m'.held, conn ∈ m.held ∨ conn = m.session.pendingClaimConn := by
  obtain ⟨session, rx, host, conns, claimed⟩ := m
  cases rx with
  | entered payload len =>
    rw [rxNext]
    dsimp only
    split_ifs <;> exact ⟨⟨rfl, rfl, rfl⟩, .inl rfl, .inl rfl, fun conn h => .inl h⟩
  | claimed payload len =>
    refine ⟨⟨rfl, rfl, rfl⟩, .inl rfl, .inl rfl, fun conn h => .inr ?_⟩
    exact (Option.some.inj h).symm
  | loaded payload len conn =>
    exact ⟨⟨rfl, rfl, rfl⟩, .inr rfl, .inl rfl, fun conn h => .inl h⟩
  | cleared payload len conn =>
    exact ⟨⟨rfl, rfl, rfl⟩, .inl rfl, .inr (.inr rfl),
      fun conn h => absurd h (Option.not_mem_none conn)⟩
  | ending payload len | passing payload len =>
    rw [rxNext]
    dsimp only
    split_ifs <;> exact ⟨⟨rfl, rfl, rfl⟩, .inl rfl, .inl rfl, fun conn h => .inl h⟩
  | unbind => exact ⟨⟨rfl, rfl, rfl⟩, .inl rfl, .inr (.inl rfl), fun conn h => .inl h⟩
  | idle | bound payload len conn | endNotify payload len | zero | passNotify payload len =>
    exact ⟨⟨rfl, rfl, rfl⟩, .inl rfl, .inl rfl, fun conn h => .inl h⟩

/-- A step of the RX task. -/
theorem Earned.rx (h : m.Earned) : m.rxNext.1.Earned := by
  obtain ⟨⟨hhost, hconns, hclaimed⟩, hpending, hcontroller, hheld⟩ := m.rxNext_spec
  refine ⟨fun hp => ?_, fun hc => ?_, fun conn hconn hne => ?_, ?_, ?_, ?_⟩
  · rw [hclaimed]
    rcases hpending with heq | heq
    · rw [heq] at hp ⊢
      exact h.pending hp
    · exact absurd heq hp
  · rw [hclaimed]
    rcases hcontroller with heq | heq | hmem
    · rw [heq] at hc ⊢
      exact h.controller hc
    · exact absurd heq hc
    · exact h.held _ hmem hc
  · rw [hclaimed]
    rcases hheld conn hconn with hmem | rfl
    · exact h.held conn hmem hne
    · exact h.pending hne
  · rw [hclaimed, hconns]
    exact h.claimed
  · rw [hconns]
    exact h.handles
  · rw [hhost]
    have hknows : m.Knows m.host := h.host
    cases hpoint : m.host with
    | controlling conn | drop conn =>
      rw [hpoint] at hknows
      refine ⟨hknows.1, fun heq => ?_⟩
      rcases hpending with hsame | hnone
      · exact hknows.2 (heq.trans hsame)
      · exact hknows.1 (heq.trans hnone)
    | frame conn frame =>
      rw [hpoint] at hknows
      show conn ∈ m.rxNext.1.conns
      rwa [hconns]
    | dropZero conn =>
      rw [hpoint] at hknows
      show conn ≠ connNone ∧ conn ∉ m.rxNext.1.claimed
      rwa [hclaimed]
    | leaving conn | forget conn =>
      rw [hpoint] at hknows
      exact hknows
    | idle | unbind | zero => trivial

/-- A connection that nothing refers to any more. -/
theorem Earned.erase (h : m.Earned) {conn : UInt16} (hpending : conn ≠ m.session.pendingClaimConn)
    (hcontroller : conn ≠ m.session.controllingConn) (hheld : m.held ≠ some conn) :
    Earned { m with
      host := .idle
      conns := m.conns.erase conn
      claimed := m.claimed.erase conn } where
  pending hp := Finset.mem_erase.mpr ⟨hpending.symm, h.pending hp⟩
  controller hc := Finset.mem_erase.mpr ⟨hcontroller.symm, h.controller hc⟩
  held other hother hne :=
    Finset.mem_erase.mpr ⟨fun heq => hheld (heq ▸ hother), h.held other hother hne⟩
  claimed := Finset.erase_subset_erase conn h.claimed
  handles hmem := h.handles (Finset.mem_of_mem_erase hmem)
  host := trivial

/-- A step of the host task. -/
theorem Earned.hostStep (h : m.Earned) (hprompt : m.Prompt .host) : m.hostNext.1.Earned := by
  obtain ⟨session, rx, host, conns, claimed⟩ := m
  have hknows := h.host
  cases host with
  | idle => exact h
  | frame conn frame =>
    rw [hostNext]
    dsimp only
    split_ifs with hclaim hconn hrelease
    · exact ⟨fun _ => Finset.mem_insert_self _ _,
        fun hc => Finset.mem_insert_of_mem (h.controller hc),
        fun other hother hne => Finset.mem_insert_of_mem (h.held other hother hne),
        Finset.insert_subset hknows h.claimed, h.handles, trivial⟩
    all_goals exact ⟨h.pending, h.controller, h.held, h.claimed, h.handles, trivial⟩
  | unbind => exact ⟨h.pending, fun hc => absurd rfl hc, h.held, h.claimed, h.handles, trivial⟩
  | zero => exact ⟨h.pending, h.controller, h.held, h.claimed, h.handles, trivial⟩
  | leaving conn =>
    rw [hostNext]
    dsimp only
    split_ifs with hpending
    · exact ⟨h.pending, h.controller, h.held, h.claimed, h.handles, hknows⟩
    · exact ⟨h.pending, h.controller, h.held, h.claimed, h.handles, hknows, hpending⟩
  | forget conn =>
    exact ⟨fun hp => absurd rfl hp, h.controller, h.held, h.claimed, h.handles, hknows, hknows⟩
  | controlling conn =>
    rw [hostNext]
    dsimp only
    split_ifs with hconn
    · exact ⟨h.pending, h.controller, h.held, h.claimed, h.handles, hknows⟩
    · exact h.erase hknows.2 hconn (hprompt conn (if_neg hconn))
  | drop conn =>
    have hheld := hprompt conn rfl
    exact ⟨fun hp => Finset.mem_erase.mpr ⟨hknows.2.symm, h.pending hp⟩, fun hc => absurd rfl hc,
      fun other hother hne =>
        Finset.mem_erase.mpr ⟨fun heq => hheld (heq ▸ hother), h.held other hother hne⟩,
      (Finset.erase_subset _ _).trans h.claimed, h.handles, hknows.1, Finset.notMem_erase _ _⟩
  | dropZero conn =>
    exact ⟨h.pending, h.controller, h.held, Finset.subset_erase.mpr ⟨h.claimed, hknows.2⟩,
      fun hmem => h.handles (Finset.mem_of_mem_erase hmem), trivial⟩

/-- **One step.** -/
theorem Earned.keep (h : m.Earned) {e : RaceStep} (hallowed : m.Allowed e) (hprompt : m.Prompt e) :
    (m.next e).Earned := by
  obtain ⟨session, rx, host, conns, claimed⟩ := m
  cases e with
  | linkAp payload len =>
    exact ⟨h.pending, h.controller, fun conn hconn => absurd hconn (Option.not_mem_none conn),
      h.claimed, h.handles, h.host⟩
  | rx => exact h.rx
  | connect conn =>
    obtain ⟨hidle, hne, -⟩ := hallowed
    cases host with
    | idle =>
      exact ⟨h.pending, h.controller, h.held, h.claimed.trans (Finset.subset_insert _ _),
        fun hmem => (Finset.mem_insert.mp hmem).elim (fun heq => hne heq.symm) h.handles, trivial⟩
    | _ => exact absurd hidle Bool.false_ne_true
  | apFrame conn frame =>
    exact ⟨h.pending, h.controller, h.held, h.claimed, h.handles, hallowed.2⟩
  | disconnect conn =>
    exact ⟨h.pending, h.controller, h.held, h.claimed, h.handles, hallowed.2⟩
  | host => exact h.hostStep hprompt

/-- The gate holds where everything is earned. -/
theorem Earned.gateHolds (h : m.Earned) (e : RaceStep) : m.GateHolds e := by
  intro conn frame hjudged hreq hsend
  cases e with
  | host =>
    obtain ⟨session, rx, host, conns, claimed⟩ := m
    cases host with
    | frame conn' frame' =>
      obtain ⟨rfl, rfl⟩ : conn' = conn ∧ frame' = frame := Prod.mk.inj (Option.some.inj hjudged)
      have hmem : conn' ∈ conns := h.host
      have hne : conn' ≠ connNone := fun heq => h.handles (heq ▸ hmem)
      have hclaim : apCmd frame' ≠ apCmdClaim := by
        intro heq
        rw [heq, apCmdRequiresClaim_claim] at hreq
        exact Bool.false_ne_true hreq
      by_cases hconn : conn' = session.controllingConn
      · rw [hconn] at hne ⊢
        exact h.controller hne
      · rw [step, hostNext] at hsend
        dsimp only at hsend
        rw [if_neg hclaim, if_neg hconn, if_pos hreq] at hsend
        simp [rejectNotController] at hsend
    | _ => exact absurd hjudged.symm (Option.some_ne_none _)
  | _ => exact absurd hjudged.symm (Option.some_ne_none _)

/-- What comes next is allowed, and nobody is overtaken. -/
abbrev Law (m : SharedSession) (e : RaceStep) : Prop := m.Allowed e ∧ m.Prompt e

/-- The frame of a command that requires a claim. -/
def powerOff : List UInt8 := apPacketBytes apCmdPowerOff []

/-- A connection that is gone is in control, and its handle is given to somebody else. -/
theorem breach {conn : UInt16} (hne : conn ≠ connNone) (hidle : m.hostIdle)
    (hcontroller : m.session.controllingConn = conn) (hconns : conn ∉ m.conns)
    (hclaimed : conn ∉ m.claimed) :
    Along next Law m [.connect conn, .apFrame conn powerOff, .host] ∧
      ¬ Along next GateHolds m [.connect conn, .apFrame conn powerOff, .host] := by
  obtain ⟨session, rx, host, conns, claimed⟩ := m
  cases host with
  | idle =>
    obtain rfl : session.controllingConn = conn := hcontroller
    have hquiet : ∀ c : UInt16, ¬ c ∈ (none : Option UInt16) := Option.not_mem_none
    refine ⟨⟨⟨⟨rfl, hne, hconns⟩, fun c hc => absurd hc (hquiet c)⟩,
      ⟨⟨rfl, Finset.mem_insert_self _ _⟩, fun c hc => absurd hc (hquiet c)⟩,
      ⟨trivial, fun c hc => absurd hc (hquiet c)⟩, trivial⟩, fun hgate => hclaimed ?_⟩
    refine hgate.2.2.1 session.controllingConn powerOff rfl (by decide) ?_
    show .linkSend al1ChApCtrl powerOff ∈
      (hostNext ⟨session, rx, .frame session.controllingConn powerOff,
        insert session.controllingConn conns, claimed⟩).2
    rw [hostNext]
    dsimp only
    rw [if_neg (show apCmd powerOff ≠ apCmdClaim by decide), if_pos rfl]
    exact List.mem_singleton_self _
  | _ => exact absurd hidle Bool.false_ne_true

/-- The RX task goes on, and puts in control whom it holds. -/
theorem overtaken (h : m.Earned) {e : RaceStep} {conn : UInt16}
    (hfinished : m.finished e = some conn) (hheld : m.held = some conn) :
    let later : List RaceStep := [.host, .rx, .rx]
    let m' := later.foldl next (m.next e)
    Along next Law (m.next e) later ∧ conn ≠ connNone ∧ m'.hostIdle ∧
      m'.session.controllingConn = conn ∧ conn ∉ m'.conns ∧ conn ∉ m'.claimed := by
  obtain ⟨session, rx, host, conns, claimed⟩ := m
  have hquiet : ∀ c : UInt16, ¬ c ∈ (none : Option UInt16) := Option.not_mem_none
  have hlater : ∀ m' : SharedSession, m'.finished .host = none →
      Along next Law m' [.host, .rx, .rx] := fun m' hnone =>
    ⟨⟨trivial, fun c hc => absurd (hnone ▸ hc) (hquiet c)⟩,
      ⟨trivial, fun c hc => absurd hc (hquiet c)⟩, ⟨trivial, fun c hc => absurd hc (hquiet c)⟩,
      trivial⟩
  cases e with
  | host =>
    cases host with
    | controlling conn' =>
      by_cases hconn : conn' = session.controllingConn
      · exact absurd (hfinished.symm.trans (if_pos hconn)) (Option.some_ne_none _)
      obtain rfl : conn' = conn := Option.some.inj ((if_neg hconn).symm.trans hfinished)
      have hnext : next ⟨session, rx, .controlling conn', conns, claimed⟩ .host =
          ⟨session, rx, .idle, conns.erase conn', claimed.erase conn'⟩ :=
        congrArg Prod.fst (if_neg hconn)
      rw [hnext]
      refine ⟨hlater _ rfl, h.host.1, ?_⟩
      cases rx with
      | loaded payload len conn'' | cleared payload len conn'' =>
        obtain rfl : conn'' = conn' := Option.some.inj hheld
        exact ⟨rfl, rfl, Finset.notMem_erase _ _, Finset.notMem_erase _ _⟩
      | _ => exact absurd hheld.symm (Option.some_ne_none _)
    | drop conn' =>
      obtain rfl : conn' = conn := Option.some.inj hfinished
      refine ⟨hlater _ rfl, h.host.1, ?_⟩
      cases rx with
      | loaded payload len conn'' | cleared payload len conn'' =>
        obtain rfl : conn'' = conn' := Option.some.inj hheld
        exact ⟨rfl, rfl, Finset.notMem_erase _ _, Finset.notMem_erase _ _⟩
      | _ => exact absurd hheld.symm (Option.some_ne_none _)
    | _ => exact absurd hfinished.symm (Option.some_ne_none _)
  | _ => exact absurd hfinished.symm (Option.some_ne_none _)

/-- Runs. -/
theorem Earned.along (h : m.Earned) {steps : List RaceStep} (hlaw : Along next Law m steps) :
    Along next GateHolds m steps ∧ (steps.foldl next m).Earned :=
  ⟨Along.of_invariant (fun _ _ hm he => hm.keep he.1 he.2) (fun _ e hm _ => hm.gateHolds e) h hlaw,
    hlaw.invariant (fun _ _ hm he => hm.keep he.1 he.2) h⟩

/-- **The gate and the race.**  In every interleaving in which the host task does not finish with a
connection that the RX task holds, a command that requires a claim passes only for a central that
has sent one since it connected.  At any moment of it, the next step leaves this so for all time if
and only if it does not do that. -/
theorem gate_iff {steps : List RaceStep} (hlaw : Along next Law raceBoot steps) {e : RaceStep}
    (hallowed : (steps.foldl next raceBoot).Allowed e) :
    let m := steps.foldl next raceBoot
    Along next GateHolds raceBoot steps ∧
      (m.Prompt e ↔ ∀ later, Along next Law (m.next e) later →
        Along next GateHolds (m.next e) later) := by
  intro m
  obtain ⟨hgate, h⟩ := earned_boot.along hlaw
  refine ⟨hgate, fun hprompt later hlater => ((h.keep hallowed hprompt).along hlater).1,
    fun hall conn hfinished hheld => ?_⟩
  obtain ⟨hlater, hne, hidle, hcontroller, hconns, hclaimed⟩ := overtaken h hfinished hheld
  obtain ⟨hbreach, hnot⟩ := breach hne hidle hcontroller hconns hclaimed
  exact hnot (along_append.mp (hall _ (along_append.mpr ⟨hlater, hbreach⟩))).2

end Steps

/-- A central claims, and while the RX task takes its claim, it disconnects. -/
def crossedClaim : List RaceStep :=
  [.connect 1, .apFrame 1 (apPacketBytes apCmdClaim []), .host,
    .linkAp (ofList 0 (apPacketBytes apCmdOk [0, 7])) 6, .rx, .rx, .disconnect 1, .host, .host]

/-- With its last step the gate is open. -/
theorem gate_iff_crossedClaim :
    ¬ ∀ later, Along next Law ((crossedClaim.foldl next raceBoot).next .host) later →
      Along next GateHolds ((crossedClaim.foldl next raceBoot).next .host) later := by
  intro hall
  have hprompt := (@gate_iff crossedClaim (by decide +kernel) .host trivial).2.mpr hall
  exact absurd hprompt (by decide +kernel)

end SharedSession

end Al1Wmod
