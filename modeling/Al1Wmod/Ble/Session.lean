import Al1Wmod.Ble.Trace

/-!
# What a call does to the session

`SessionStep` lists the things a call can do, each with the condition under which it does it.
`Session.call_step` is the one case analysis of the callbacks; the laws of the session are read
off the list.

The second half says what a state of the session knows about the past: a pending claim was sent
by a central that is still connected (`ClaimSent`), and the controller was bound by an OK and has
not lost control since (`Authorised`).
-/

namespace Al1Wmod

open PastTime Buffer

/-- The things a call can do: the session after it, and the actions. -/
inductive SessionStep (s : Session) : Call → Session → List Action → Prop where
  | connect (conn : UInt16) : SessionStep s (.connEvt conn true) s []
  | write (conn : UInt16) (data : List UInt8) : SessionStep s (.bleWrite conn data) s []
  /-- A central that does not control the device disconnects. -/
  | leave {conn : UInt16} (hc : conn ≠ s.controllingConn) :
      SessionStep s (.connEvt conn false)
        { s with pendingClaimConn :=
            if conn = s.pendingClaimConn then connNone else s.pendingClaimConn } []
  /-- The controller disconnects. -/
  | drop {conn : UInt16} (hc : conn = s.controllingConn) :
      SessionStep s (.connEvt conn false)
        ⟨connNone, 0, if conn = s.pendingClaimConn then connNone else s.pendingClaimConn⟩
        [.linkSend al1ChApCtrl releasePacket]
  | claim (conn : UInt16) {frame : List UInt8} (hcmd : apCmd frame = apCmdClaim) :
      SessionStep s (.apFrame conn frame) { s with pendingClaimConn := conn }
        [.linkSend al1ChApCtrl frame]
  | release {conn : UInt16} {frame : List UInt8} (hc : conn = s.controllingConn)
      (hcmd : apCmd frame = apCmdRelease) :
      SessionStep s (.apFrame conn frame) (clearBinding s) [.linkSend al1ChApCtrl frame]
  | forward {conn : UInt16} {frame : List UInt8} (hclaim : apCmd frame ≠ apCmdClaim)
      (hrelease : conn = s.controllingConn → apCmd frame ≠ apCmdRelease)
      (hgate : conn ≠ s.controllingConn → apCmdRequiresClaim (apCmd frame) = false) :
      SessionStep s (.apFrame conn frame) s [.linkSend al1ChApCtrl frame]
  | reject {conn : UInt16} {frame : List UInt8} (hc : conn ≠ s.controllingConn)
      (hcmd : apCmdRequiresClaim (apCmd frame)) :
      SessionStep s (.apFrame conn frame) s [.notifyConn conn notControllerPacket]
  | bind {payload : ℕ → UInt8} {len : UInt16} (id : UInt16) (hok : apPeek payload len = apCmdOk)
      (hp : s.pendingClaimConn ≠ connNone) :
      SessionStep s (.linkAp payload len) ⟨s.pendingClaimConn, id, connNone⟩
        [.notifyConn s.pendingClaimConn (slice payload 0 len.toNat)]
  | sessionEnd {payload : ℕ → UInt8} {len : UInt16}
      (hend : apPeek payload len = apCmdEvtSessionEnd) :
      SessionStep s (.linkAp payload len) (clearBinding s)
        (if s.controllingConn ≠ connNone then
          [.notifyConn s.controllingConn (slice payload 0 len.toNat)] else [])
  | pass {payload : ℕ → UInt8} {len : UInt16}
      (hok : apPeek payload len = apCmdOk → s.pendingClaimConn = connNone)
      (hend : apPeek payload len ≠ apCmdEvtSessionEnd) :
      SessionStep s (.linkAp payload len) s
        (if s.controllingConn ≠ connNone then
          [.notifyConn s.controllingConn (slice payload 0 len.toNat)]
        else [.notifyAll (slice payload 0 len.toNat)])

/-- **The one case analysis.** -/
theorem Session.call_step (s : Session) (c : Call) : SessionStep s c (s.call c).1 (s.call c).2 := by
  cases c with
  | bleWrite conn data => exact .write conn data
  | connEvt conn connected =>
    cases connected with
    | true => exact .connect conn
    | false =>
      by_cases hc : conn = s.controllingConn
      · have := SessionStep.drop hc
        by_cases hp : conn = s.pendingClaimConn
        · simpa [Session.call, dropSession, hc ▸ hp, hc, clearBinding, forwardToStm32] using this
        · have hp' : ¬ s.controllingConn = s.pendingClaimConn := hc ▸ hp
          simpa [Session.call, dropSession, hc, hp', clearBinding, forwardToStm32] using this
      · have := SessionStep.leave hc
        by_cases hp : conn = s.pendingClaimConn
        · have hc' : ¬ s.pendingClaimConn = s.controllingConn := hp ▸ hc
          simpa [Session.call, dropSession, hp, hc'] using this
        · simpa [Session.call, dropSession, hp, hc] using this
  | apFrame conn frame =>
    rw [Session.call, onApFrame]
    by_cases hclaim : apCmd frame = apCmdClaim
    · simp only [if_pos hclaim]
      exact .claim conn hclaim
    by_cases hc : conn = s.controllingConn
    · by_cases hrelease : apCmd frame = apCmdRelease
      · simp only [if_neg hclaim, if_pos hc, if_pos hrelease]
        exact .release hc hrelease
      · simp only [if_neg hclaim, if_pos hc, if_neg hrelease]
        exact .forward hclaim (fun _ => hrelease) fun h => absurd hc h
    · by_cases hgate : apCmdRequiresClaim (apCmd frame)
      · simp only [if_neg hclaim, if_neg hc, if_pos hgate]
        exact .reject hc hgate
      · simp only [if_neg hclaim, if_neg hc, if_neg hgate]
        exact .forward hclaim (fun h => absurd h hc) fun _ => eq_false_of_ne_true hgate
  | linkAp payload len =>
    rw [Session.call, al1BleApBridgeOnLinkAp]
    by_cases hbind : apPeek payload len = apCmdOk ∧ s.pendingClaimConn ≠ connNone
    · simp only [if_pos hbind]
      exact .bind _ hbind.1 hbind.2
    by_cases hend : apPeek payload len = apCmdEvtSessionEnd
    · simp only [if_neg hbind, if_pos hend]
      exact .sessionEnd hend
    · simp only [if_neg hbind, if_neg hend]
      exact .pass (fun hok => not_not.mp fun hp => hbind ⟨hok, hp⟩) hend

/-! ## What the session knows about the past -/

/-- An OK that sets the controller. -/
def Entry.isBind (e : Entry) : Bool := e.call.isOk && e.before.pendingClaimConn != connNone

theorem isBind_entry {s : Session} {payload : ℕ → UInt8} {len : UInt16} :
    (s.entry (.linkAp payload len)).isBind ↔
      apPeek payload len = apCmdOk ∧ s.pendingClaimConn ≠ connNone := by
  simp [Session.entry, Entry.isBind, Call.isOk]

/-- It binds who was pending. -/
theorem controllingConn_of_isBind {s : Session} {payload : ℕ → UInt8} {len : UInt16}
    (h : apPeek payload len = apCmdOk ∧ s.pendingClaimConn ≠ connNone) :
    (s.entry (.linkAp payload len)).after.controllingConn = s.pendingClaimConn := by
  simp only [Session.entry, Session.call, al1BleApBridgeOnLinkAp, if_pos h]

/-- An OK that binds `conn`. -/
def Entry.binds (conn : UInt16) (e : Entry) : Bool :=
  e.isBind && e.after.controllingConn == conn

/-- An OK that binds someone else. -/
def Entry.rebinds (conn : UInt16) (e : Entry) : Bool :=
  e.isBind && e.after.controllingConn != conn

/-- `conn` has sent a CLAIM during its current connection. -/
abbrev ClaimSent (conn : UInt16) : List Entry → Prop :=
  Since (fun e => ¬ e.call.touches conn) fun e past => e.call.claims conn ∧ Connected conn past

/-- An OK has bound `conn` during its current connection, after a CLAIM it had sent during that
connection; and since that OK there was no RELEASE frame from `conn`, no disconnect of it, no
EVT_SESSION_END, and no OK that bound another connection. -/
abbrev Authorised (conn : UInt16) : List Entry → Prop :=
  Since
    (fun e => ¬ e.call.touches conn ∧ ¬ e.call.releases conn ∧ ¬ e.call.isSessionEnd ∧
      ¬ e.rebinds conn)
    fun e past => e.binds conn ∧ ClaimSent conn past

/-- An OK is not a connect or disconnect. -/
theorem Call.not_touches_of_isOk {c : Call} (h : c.isOk) (conn : UInt16) : ¬ c.touches conn := by
  cases c with
  | linkAp payload len => simp [Call.touches]
  | connEvt _ _ | bleWrite _ _ | apFrame _ _ => simp [Call.isOk] at h

/-- Nor is a CLAIM. -/
theorem Call.not_touches_of_claims {c : Call} {conn : UInt16} (h : c.claims conn) (conn' : UInt16) :
    ¬ c.touches conn' := by
  cases c with
  | apFrame conn frame => simp [Call.touches]
  | connEvt _ _ | bleWrite _ _ | linkAp _ _ => simp [Call.claims] at h

theorem ClaimSent.connected {conn : UInt16} {hist : List Entry} (h : ClaimSent conn hist) :
    Connected conn hist :=
  h.elim (fun _ _ hQ => Or.inr ⟨Call.not_touches_of_claims hQ.1 conn, hQ.2⟩)
    fun _ _ hP hpast => Or.inr ⟨hP, hpast⟩

theorem Authorised.connected {conn : UInt16} {hist : List Entry} (h : Authorised conn hist) :
    Connected conn hist := by
  refine h.elim ?_ fun e past hP hpast => Or.inr ⟨hP.1, hpast⟩
  intro e past hQ
  have hok : e.call.isOk := by
    have := hQ.1
    rw [Entry.binds, Entry.isBind, Bool.and_eq_true, Bool.and_eq_true] at this
    exact this.1.1
  exact Or.inr ⟨Call.not_touches_of_isOk hok conn, hQ.2.connected⟩

/-- **What a state of the session means.** -/
structure SessionInv (s : Session) (hist : List Entry) : Prop where
  controller : s.controllingConn ≠ connNone → Authorised s.controllingConn hist
  pending : s.pendingClaimConn ≠ connNone → ClaimSent s.pendingClaimConn hist
  handles : ∀ conn, Connected conn hist → conn ≠ connNone

section Step

variable {s s' : Session} {hist : List Entry} {c : Call} {acts : List Action} {conn : UInt16}

/-- A claim survives every entry but a connect or disconnect of its sender. -/
theorem ClaimSent.keep (h : ClaimSent conn hist) {e : Entry} (ht : ¬ e.call.touches conn) :
    ClaimSent conn (e :: hist) := Or.inr ⟨ht, h⟩

/-- Nobody else connects with the handle of a connected central. -/
theorem Justified.not_touches (hj : Justified hist (.connEvt conn true)) {conn' : UInt16}
    (h : Connected conn' hist) : ¬ (Call.connEvt conn true).touches conn' := by
  intro ht
  obtain rfl : conn = conn' := by simpa [Call.touches] using ht
  exact (hj rfl).2 h

theorem SessionStep.handles (hj : Justified hist c)
    (h : ∀ conn, Connected conn hist → conn ≠ connNone) :
    ∀ conn, Connected conn (⟨c, s, s', acts⟩ :: hist) → conn ≠ connNone := by
  rintro conn (hc | ⟨-, hc⟩)
  · cases c with
    | connEvt handle connected =>
      have hc' : connected = true ∧ handle = conn := by simpa [Call.connects] using hc
      exact hc'.2 ▸ (hj hc'.1).1
    | bleWrite _ _ | apFrame _ _ | linkAp _ _ => simp [Call.connects] at hc
  · exact h conn hc

/-- What the controller entry of the invariant needs to survive a call. -/
theorem Authorised.keep (h : Authorised conn hist) {e : Entry} (ht : ¬ e.call.touches conn)
    (hr : ¬ e.call.releases conn) (he : ¬ e.call.isSessionEnd) (hb : ¬ e.rebinds conn) :
    Authorised conn (e :: hist) := Or.inr ⟨⟨ht, hr, he, hb⟩, h⟩

theorem SessionStep.controller (hstep : SessionStep s c s' acts) (hj : Justified hist c)
    (hinv : SessionInv s hist) (hs : s'.controllingConn ≠ connNone) :
    Authorised s'.controllingConn (⟨c, s, s', acts⟩ :: hist) := by
  cases hstep with
  | connect conn =>
    exact (hinv.controller hs).keep (hj.not_touches (hinv.controller hs).connected)
      (by simp [Call.releases]) (by simp [Call.isSessionEnd])
      (by simp [Entry.rebinds, Entry.isBind, Call.isOk])
  | write conn data =>
    exact (hinv.controller hs).keep (by simp [Call.touches]) (by simp [Call.releases])
      (by simp [Call.isSessionEnd]) (by simp [Entry.rebinds, Entry.isBind, Call.isOk])
  | leave hc =>
    exact (hinv.controller hs).keep (by simpa [Call.touches] using hc) (by simp [Call.releases])
      (by simp [Call.isSessionEnd]) (by simp [Entry.rebinds, Entry.isBind, Call.isOk])
  | drop hc => exact absurd rfl hs
  | claim conn hcmd =>
    exact (hinv.controller hs).keep (by simp [Call.touches])
      (by simp [Call.releases, hcmd, apCmdClaim, apCmdRelease]) (by simp [Call.isSessionEnd])
      (by simp [Entry.rebinds, Entry.isBind, Call.isOk])
  | release hc hcmd => exact absurd rfl hs
  | forward hclaim hrelease hgate =>
    exact (hinv.controller hs).keep (by simp [Call.touches])
      (by simpa [Call.releases] using hrelease) (by simp [Call.isSessionEnd])
      (by simp [Entry.rebinds, Entry.isBind, Call.isOk])
  | reject hc hcmd =>
    exact (hinv.controller hs).keep (by simp [Call.touches]) (by simp [Call.releases, hc])
      (by simp [Call.isSessionEnd]) (by simp [Entry.rebinds, Entry.isBind, Call.isOk])
  | bind id hok hp =>
    exact Or.inl ⟨by simp [Entry.binds, Entry.isBind, Call.isOk, hok, hp], hinv.pending hp⟩
  | sessionEnd hend => exact absurd rfl hs
  | pass hok hend =>
    exact (hinv.controller hs).keep (by simp [Call.touches]) (by simp [Call.releases])
      (by simpa [Call.isSessionEnd] using hend) (by simp [Entry.rebinds])

theorem SessionStep.pending (hstep : SessionStep s c s' acts) (hj : Justified hist c)
    (hinv : SessionInv s hist) (hs : s'.pendingClaimConn ≠ connNone) :
    ClaimSent s'.pendingClaimConn (⟨c, s, s', acts⟩ :: hist) := by
  have hleave : ∀ conn : UInt16,
      (if conn = s.pendingClaimConn then connNone else s.pendingClaimConn) ≠ connNone →
      (if conn = s.pendingClaimConn then connNone else s.pendingClaimConn) =
        s.pendingClaimConn ∧ conn ≠ s.pendingClaimConn := by
    intro conn h
    split at h
    · exact absurd rfl h
    · next hne => exact ⟨if_neg hne, hne⟩
  cases hstep with
  | connect conn =>
    exact (hinv.pending hs).keep (hj.not_touches (hinv.pending hs).connected)
  | leave hc | drop hc =>
    obtain ⟨heq, hne⟩ := hleave _ hs
    rw [heq] at hs ⊢
    exact (hinv.pending hs).keep (by simpa [Call.touches] using hne)
  | claim conn hcmd => exact Or.inl ⟨by simp [Call.claims, hcmd], hj.1⟩
  | bind id hok hp => exact absurd rfl hs
  | write _ _ | release _ _ | forward _ _ _ | reject _ _ | sessionEnd _ | pass _ _ =>
    exact (hinv.pending hs).keep (by simp [Call.touches])

/-- **One call.** -/
theorem SessionInv.step (hinv : SessionInv s hist) (hj : Justified hist c) :
    SessionInv (s.call c).1 (s.entry c :: hist) :=
  ⟨(s.call_step c).controller hj hinv, (s.call_step c).pending hj hinv,
    SessionStep.handles hj hinv.handles⟩

end Step

/-- **Every run.** -/
theorem Traced.inv {s : Session} {hist : List Entry} (h : Traced s hist) : SessionInv s hist := by
  induction h with
  | boot => exact ⟨fun h => absurd rfl h, fun h => absurd rfl h, fun _ h => absurd h not_since_nil⟩
  | step _ hj ih => exact ih.step hj

/-- What holds of every justified call holds at every moment of a run. -/
theorem Traced.historically {s : Session} {hist : List Entry} (h : Traced s hist)
    {Q : Entry → List Entry → Prop}
    (hQ : ∀ s past c, Traced s past → Justified past c → Q (s.entry c) past) :
    Historically Q hist := by
  induction h with
  | boot => trivial
  | @step s hist c h hj ih => exact ⟨hQ s hist c h hj, ih⟩

end Al1Wmod
