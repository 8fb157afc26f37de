import Al1Wmod.Ble.Session
import Mathlib.Data.List.Nodup

/-!
# No stale handle

NimBLE recycles connection handles, so a handle that outlived its connection would hand the control
of the device to whoever connects next.  The two handles the session keeps do not outlive theirs:
each is `CONN_NONE` or the handle of a slot in use (`Held`).

A frame comes from a slot, so a CLAIM leaves the handle of a slot; an OK copies the pending handle
to the controller, whenever it comes; and a disconnect takes the handle out of the slots and out of
the session in one callback.  A connection that found no free slot has no frames, so it is never
in the session at all.
-/

namespace Al1Wmod

open Transducer PastTime Buffer

/-- The handle is `CONN_NONE` or one of `conns`. -/
def Held (conns : List UInt16) (conn : UInt16) : Prop := conn = connNone ∨ conn ∈ conns

/-- The two handles of the session are held. -/
structure Session.Held (s : Session) (conns : List UInt16) : Prop where
  controlling : Al1Wmod.Held conns s.controllingConn
  pending : Al1Wmod.Held conns s.pendingClaimConn

/-- The handle is `CONN_NONE` or that of exactly one slot in use. -/
def HeldOnce (b : Bridge) (conn : UInt16) : Prop :=
  conn = connNone ∨ (b.slots.countP fun s => s.inUse && s.handle == conn) = 1

instance (b : Bridge) (conn : UInt16) : Decidable (HeldOnce b conn) :=
  inferInstanceAs (Decidable (_ ∨ _))

section Calls

variable {s s' : Session} {c : Call} {acts : List Action} {conns conns' : List UInt16}

/-- **One call.**  It keeps the handles held, if the handles that are left stay among the slots, and
frames come from slots. -/
theorem SessionStep.held (hstep : SessionStep s c s' acts) (h : s.Held conns)
    (hkeep : ∀ conn ∈ conns, ¬ c.disconnects conn → conn ∈ conns')
    (hframe : ∀ conn frame, c = .apFrame conn frame → conn ∈ conns') : s'.Held conns' := by
  have hold : ∀ {conn}, Al1Wmod.Held conns conn → (conn ≠ connNone → ¬ c.disconnects conn) →
      Al1Wmod.Held conns' conn := by
    intro conn hheld hc
    rcases hheld with hnone | hmem
    · exact Or.inl hnone
    · by_cases hnone : conn = connNone
      · exact Or.inl hnone
      · exact Or.inr (hkeep conn hmem (hc hnone))
  have hleave : ∀ conn : UInt16, c = .connEvt conn false →
      Al1Wmod.Held conns' (if conn = s.pendingClaimConn then connNone else s.pendingClaimConn) := by
    rintro conn rfl
    split_ifs with hp
    · exact Or.inl rfl
    · exact hold h.pending fun _ => by simpa [Call.disconnects] using hp
  cases hstep with
  | connect _ | write _ _ | forward _ _ _ | reject _ _ | pass _ _ =>
    exact ⟨hold h.controlling fun _ => by simp [Call.disconnects],
      hold h.pending fun _ => by simp [Call.disconnects]⟩
  | leave hc =>
    exact ⟨hold h.controlling fun _ => by simpa [Call.disconnects] using hc, hleave _ rfl⟩
  | drop hc => exact ⟨Or.inl rfl, hleave _ rfl⟩
  | claim conn _ =>
    exact ⟨hold h.controlling fun _ => by simp [Call.disconnects], Or.inr (hframe conn _ rfl)⟩
  | release _ _ | sessionEnd _ =>
    exact ⟨Or.inl rfl, hold h.pending fun _ => by simp [Call.disconnects]⟩
  | bind _ _ _ => exact ⟨hold h.pending fun _ => by simp [Call.disconnects], Or.inl rfl⟩

/-- The calls of a write, one after another. -/
theorem Session.Held.record (h : s.Held conns) {calls : List Call}
    (hcalls : ∀ c ∈ calls, (∃ conn data, c = .bleWrite conn data) ∨
      ∃ conn frame, c = .apFrame conn frame ∧ conn ∈ conns) :
    (run Session.record s calls).1.Held conns := by
  induction calls generalizing s with
  | nil => exact h
  | cons c calls ih =>
    have hc : (s.call c).1.Held conns := by
      refine (s.call_step c).held h (fun _ hmem _ => hmem) ?_
      rintro conn frame rfl
      rcases hcalls _ List.mem_cons_self with ⟨_, _, h⟩ | ⟨_, _, h, hmem⟩
      · cases h
      · cases h
        exact hmem
    exact ih hc fun c' hc' => hcalls c' (List.mem_cons_of_mem _ hc')

/-- A notification for one connection, out of a frame of the STM32, is for the controller or for
the claimant. -/
theorem SessionStep.notifyConn {payload : ℕ → UInt8} {len conn : UInt16} {data : List UInt8}
    (hstep : SessionStep s (.linkAp payload len) s' acts) (hmem : .notifyConn conn data ∈ acts) :
    conn ≠ connNone ∧ (conn = s.controllingConn ∨ conn = s.pendingClaimConn) := by
  have hroute : ∀ other : List Action, (∀ c d, .notifyConn c d ∉ other) →
      (.notifyConn conn data ∈ if s.controllingConn ≠ connNone then
        [Action.notifyConn s.controllingConn (slice payload 0 len.toNat)] else other) →
      conn ≠ connNone ∧ (conn = s.controllingConn ∨ conn = s.pendingClaimConn) := by
    intro other hother hmem
    split_ifs at hmem with hc
    · obtain ⟨rfl, -⟩ : conn = s.controllingConn ∧ _ := by simpa using hmem
      exact ⟨hc, Or.inl rfl⟩
    · exact absurd hmem (hother conn data)
  cases hstep with
  | bind id hok hp =>
    obtain ⟨rfl, -⟩ : conn = s.pendingClaimConn ∧ _ := by simpa using hmem
    exact ⟨hp, Or.inr rfl⟩
  | sessionEnd hend => exact hroute [] (fun _ _ => List.not_mem_nil) hmem
  | pass hok hend => exact hroute _ (fun _ _ => by simp) hmem

end Calls

section Runs

variable {maxConn : ℕ} {b : Bridge} {hist : List Entry}

/-- A handle in the slots is there once. -/
theorem SlotsInv.heldOnce (h : SlotsInv b hist) {conn : UInt16} (hheld : Held b.handles conn) :
    HeldOnce b conn := by
  refine hheld.imp_right fun hmem => ?_
  have hcount := List.count_eq_one_of_mem h.nodup hmem
  rw [Bridge.handles, FirstFit.keys, List.count, List.countP_map, List.countP_filter] at hcount
  rw [← hcount]
  exact List.countP_congr fun s _ => by simp [and_comm]

/-- **One callback.** -/
theorem Session.Held.step (hslots : SlotsInv b hist) (h : b.session.Held b.handles)
    (e : BleEvent) : (bridgeStep b e).1.session.Held (bridgeStep b e).1.handles := by
  cases e with
  | connEvt handle connected =>
    cases connected with
    | true =>
      exact (b.session.call_step (.connEvt handle true)).held h
        (fun _ hmem _ => mem_handles_connect handle hmem) fun _ _ hc => by cases hc
    | false =>
      refine (b.session.call_step (.connEvt handle false)).held h ?_ fun _ _ hc => by cases hc
      intro conn hmem hc
      refine (mem_handles_disconnect hslots.nodup).mpr ⟨hmem, ?_⟩
      rintro rfl
      simp [Call.disconnects] at hc
  | linkAp payload len =>
    exact (b.session.call_step (.linkAp payload len)).held h (fun _ hmem _ => hmem)
      fun _ _ hc => by cases hc
  | write handle data =>
    have hsession : (run Session.record b.session (b.calls (.write handle data))).1 =
        (bridgeStep b (.write handle data)).1.session :=
      congrArg Prod.fst (bridgeStep_session b (.write handle data))
    show (bridgeStep b (.write handle data)).1.session.Held (onBleWrite b handle data).1.handles
    rw [handles_onBleWrite, ← hsession]
    refine h.record fun c hc => ?_
    rcases mem_calls_write hc with rfl | ⟨frame, rfl, hmem⟩
    · exact Or.inl ⟨handle, data, rfl⟩
    · exact Or.inr ⟨handle, frame, rfl, hmem⟩

/-- **Every run.** -/
theorem Reached.held (h : Reached maxConn b hist) : b.session.Held b.handles := by
  induction h with
  | boot => exact ⟨Or.inl rfl, Or.inl rfl⟩
  | @step _ _ e hreached _ ih => exact ih.step hreached.slots e

/-- **No stale handle.**  In every state the bridge reaches, the controller and the claimant are
`CONN_NONE` or have exactly one slot each.  So a new connection is neither, a connection without a
slot is neither, and no frame of the STM32 is notified to a handle that is not connected. -/
theorem no_stale_handle (h : Reached maxConn b hist) :
    (HeldOnce b b.session.controllingConn ∧ HeldOnce b b.session.pendingClaimConn) ∧
    (∀ handle, Admissible hist (.connEvt handle true) →
      (onConnEvt b handle true).1.session.controllingConn ≠ handle ∧
        (onConnEvt b handle true).1.session.pendingClaimConn ≠ handle) ∧
    (∀ conn, conn ≠ connNone → conn ∉ b.handles →
      b.session.controllingConn ≠ conn ∧ b.session.pendingClaimConn ≠ conn) ∧
    ∀ payload len conn data,
      .notifyConn conn data ∈ (al1BleApBridgeOnLinkAp b.session payload len).2 →
        Connected conn hist := by
  have hslots := h.slots
  have hheld := h.held
  have hmem : ∀ {conn}, Held b.handles conn → conn ≠ connNone → conn ∈ b.handles :=
    fun hconn hne => hconn.resolve_left hne
  refine ⟨⟨hslots.heldOnce hheld.controlling, hslots.heldOnce hheld.pending⟩, ?_, ?_, ?_⟩
  · intro handle hadm
    obtain ⟨hne, hnew⟩ := hadm rfl
    constructor
    · intro (heq : b.session.controllingConn = handle)
      rw [← heq] at hne hnew
      exact hnew (hslots.connected _ (hmem hheld.controlling hne))
    · intro (heq : b.session.pendingClaimConn = handle)
      rw [← heq] at hne hnew
      exact hnew (hslots.connected _ (hmem hheld.pending hne))
  · intro conn hne hnot
    constructor
    · rintro rfl
      exact hnot (hmem hheld.controlling hne)
    · rintro rfl
      exact hnot (hmem hheld.pending hne)
  · intro payload len conn data hnotify
    obtain ⟨hne, hconn⟩ := (b.session.call_step (.linkAp payload len)).notifyConn hnotify
    rcases hconn with rfl | rfl
    · exact hslots.connected _ (hmem hheld.controlling hne)
    · exact hslots.connected _ (hmem hheld.pending hne)

/-- Four centrals and three slots: the fourth claims in vain, the third is granted its claim. -/
theorem no_stale_handle_overflow :
    let b := (bridgeRun al1BleMaxConn
      [.connEvt 1 true, .connEvt 2 true, .connEvt 3 true, .connEvt 4 true,
        .write 3 (apPacketBytes apCmdClaim []), .write 4 (apPacketBytes apCmdClaim []),
        .linkAp (ofList 0 (apPacketBytes apCmdOk [0, 7])) 6]).1
    HeldOnce b b.session.controllingConn ∧ b.session.controllingConn ≠ 4 := by
  intro b
  have h := no_stale_handle (@reached_bridgeRun al1BleMaxConn
    [.connEvt 1 true, .connEvt 2 true, .connEvt 3 true, .connEvt 4 true,
      .write 3 (apPacketBytes apCmdClaim []), .write 4 (apPacketBytes apCmdClaim []),
      .linkAp (ofList 0 (apPacketBytes apCmdOk [0, 7])) 6] (by decide +kernel))
  exact ⟨h.1.1, (h.2.2.1 4 (by decide) (by decide +kernel)).1⟩

end Runs

end Al1Wmod
