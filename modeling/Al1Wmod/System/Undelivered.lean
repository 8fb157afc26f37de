import Al1Wmod.System.Stm32
import Al1Wmod.System.Uplink

/-!
# Frames that are not sent

`forward_to_stm32` logs an error of `al1_link_send` and returns nothing, so the session moves on as
if the frame were on its way.  A CLAIM that was not queued is pending all the same, and the next OK,
whatever it answers, binds its sender.  The binding is gone after a RELEASE that was not queued, and
nothing in the bridge remembers that the STM32 still holds the session.

The link may be in any state at any call of `al1_link_send`, stopped or with a full queue, and any
`malloc` may fail.  A failure leaves the session intact exactly if it hits neither a CLAIM of
somebody who was not pending already nor the RELEASE of a controller.
-/

namespace Al1Wmod

open Buffer Machine PastTime

/-- The link as a call of `al1_link_send` finds it, and what the system does in the call. -/
structure LinkMoment where
  link : Al1Link
  outcome : SendOutcome

/-- What `al1_link_send` returns to `forward_to_stm32`. -/
def LinkMoment.send (maxPayload : ℕ) (m : LinkMoment) (frame : List UInt8) : EspErr :=
  (al1LinkSend maxPayload m.link al1ChApCtrl (some (ofList 0 frame)) (UInt16.ofNat frame.length)
    m.outcome).2

/-- A callback of the bridge.  `moment k` is the link at the call of `al1_link_send` after `k`
others. -/
structure LinkedEvent where
  event : BleEvent
  moment : ℕ → LinkMoment

/-- The frames that a callback hands to `al1_link_send`, each with the entry of the call that does
it. -/
def Bridge.forwarded (b : Bridge) (e : BleEvent) : List (Entry × List UInt8) :=
  (bridgeStep b e).2.flatMap fun x => x.linkSends.map fun d => (x, d.2)

/-- Those for which it returns an error. -/
def Bridge.failed (maxPayload : ℕ) (b : Bridge) (e : LinkedEvent) : List (Entry × List UInt8) :=
  ((b.forwarded e.event).zipIdx.filter fun p =>
    (e.moment p.2).send maxPayload p.1.2 ≠ .ok).map Prod.fst

/-- The bridge and its history after one more callback. -/
def linkedNext (st : Bridge × List Entry) (e : LinkedEvent) : Bridge × List Entry :=
  bridgeNext st e.event

/-- The bridge and its history at boot. -/
def linkedBoot (maxConn : ℕ) : Bridge × List Entry := (al1BleApBridgeInit (bridgeBoot maxConn), [])

/-- What NimBLE may report. -/
def Reportable (st : Bridge × List Entry) (e : LinkedEvent) : Prop := Admissible st.2 e.event

instance (st : Bridge × List Entry) (e : LinkedEvent) : Decidable (Reportable st e) :=
  inferInstanceAs (Decidable (Admissible st.2 e.event))

/-! ## What is owed -/

/-- The bridge and its history in a continuation without end. -/
def continued (st : Bridge × List Entry) (cont : ℕ → BleEvent) : ℕ → Bridge × List Entry
  | 0 => st
  | n + 1 => bridgeNext (continued st cont n) (cont n)

/-- Callbacks of every kind come in again and again. -/
def Lively (cont : ℕ → BleEvent) : Prop :=
  ∀ n, (∃ m, n ≤ m ∧ ∃ handle, cont m = .connEvt handle true) ∧
    (∃ m, n ≤ m ∧ ∃ handle, cont m = .connEvt handle false) ∧
    (∃ m, n ≤ m ∧ ∃ handle data, cont m = .write handle data) ∧
    ∃ m, n ≤ m ∧ ∃ payload len, cont m = .linkAp payload len

/-- A RELEASE is owed to the STM32: whatever happens, as long as something happens, the bridge
sends one. -/
def Owes (st : Bridge × List Entry) : Prop :=
  ∀ cont, Lively cont → (∀ n, Admissible (continued st cont n).2 (cont n)) →
    ∃ n, ∃ p ∈ (continued st cont n).1.forwarded (cont n), apCmd p.2 = apCmdRelease

/-- A central comes and goes and writes nothing, and the STM32 sends empty frames. -/
def idle (handle : UInt16) (n : ℕ) : BleEvent :=
  match n % 4 with
  | 0 => .connEvt handle false
  | 1 => .connEvt handle true
  | 2 => .write handle []
  | _ => .linkAp (fun _ => 0) 0

theorem lively_idle (handle : UInt16) : Lively (idle handle) := by
  intro n
  refine ⟨⟨4 * n + 1, by omega, handle, ?_⟩, ⟨4 * n, by omega, handle, ?_⟩,
    ⟨4 * n + 2, by omega, handle, [], ?_⟩, ⟨4 * n + 3, by omega, fun _ => 0, 0, ?_⟩⟩
  · simp [idle, show (4 * n + 1) % 4 = 1 by omega]
  · simp [idle, show 4 * n % 4 = 0 by omega]
  · simp [idle, show (4 * n + 2) % 4 = 2 by omega]
  · simp [idle, show (4 * n + 3) % 4 = 3 by omega]

/-- The bridge does nothing then. -/
theorem idle_step {st : Bridge × List Entry} {handle : UInt16}
    (hne : handle ≠ st.1.session.controllingConn) (n : ℕ) :
    st.1.forwarded (idle handle n) = [] ∧
      (bridgeNext st (idle handle n)).1.session.controllingConn =
        st.1.session.controllingConn := by
  unfold idle
  split
  · simp [Bridge.forwarded, bridgeNext, bridgeStep, onConnEvt, Session.entry, Session.call,
      dropSession, hne, Entry.linkSends, apply_ite Session.controllingConn]
  · simp [Bridge.forwarded, bridgeNext, bridgeStep, onConnEvt, Session.entry, Session.call,
      Entry.linkSends]
  · rw [Bridge.forwarded, bridgeNext, bridgeStep, onBleWrite]
    cases slotFind st.1.slots handle with
    | none => exact ⟨rfl, rfl⟩
    | some s => exact ⟨rfl, rfl⟩
  · have hpeek : apPeek (fun _ => 0) 0 = 0xFF := rfl
    have hok : ¬ (0xFF : UInt8) = apCmdOk := by decide
    have hend : ¬ (0xFF : UInt8) = apCmdEvtSessionEnd := by decide
    rw [Bridge.forwarded, bridgeNext, bridgeStep, Session.entry, Session.call,
      al1BleApBridgeOnLinkAp]
    simp only [hpeek, hok, hend, false_and, if_false, and_true]
    split <;> rfl

/-- **Nothing is ever owed.** -/
theorem not_owes (st : Bridge × List Entry) : ¬ Owes st := by
  intro howes
  obtain ⟨handle, hnone, hctl⟩ : ∃ handle : UInt16, handle ≠ connNone ∧
      handle ≠ st.1.session.controllingConn := by
    by_cases h : st.1.session.controllingConn = 0
    · exact ⟨1, by decide, by rw [h]; decide⟩
    · exact ⟨0, by decide, Ne.symm h⟩
  have hstays : ∀ n, (continued st (idle handle) n).1.session.controllingConn =
      st.1.session.controllingConn := by
    intro n
    induction n with
    | zero => rfl
    | succ n ih => exact (idle_step (ih ▸ hctl) n).2.trans ih
  -- the central has just disconnected whenever it connects
  have hadm : ∀ n, Admissible (continued st (idle handle) n).2 (idle handle n) := by
    intro n
    by_cases h1 : n % 4 = 1
    · obtain ⟨m, rfl⟩ : ∃ m, n = m + 1 := ⟨n - 1, by omega⟩
      have hnow : idle handle (m + 1) = .connEvt handle true := by simp [idle, h1]
      have hbefore : idle handle m = .connEvt handle false := by
        simp [idle, show m % 4 = 0 by omega]
      rw [hnow, continued, hbefore]
      refine fun _ => ⟨hnone, ?_⟩
      rintro (hc | ⟨ht, -⟩)
      · simp [Session.entry, Call.connects] at hc
      · simp [Session.entry, Call.touches] at ht
    · rw [idle]
      split <;> first | trivial | contradiction | exact fun h => absurd h Bool.false_ne_true
  obtain ⟨n, p, hp, -⟩ := howes (idle handle) (lively_idle handle) hadm
  rw [(idle_step (by rw [hstays]; exact hctl) n).1] at hp
  exact absurd hp List.not_mem_nil

/-! ## Failures -/

/-- The failure of this forward leaves the session intact.  `st` is the bridge after the callback. -/
def Intact (st : Bridge × List Entry) (p : Entry × List UInt8) : Prop :=
  (apCmd p.2 = apCmdClaim → p.1.after.pendingClaimConn = p.1.before.pendingClaimConn) ∧
    (apCmd p.2 = apCmdRelease →
      p.1.after.controllingConn = p.1.before.controllingConn ∨ Owes st)

/-- The frame is a CLAIM of somebody who is not pending already, or the RELEASE of a controller. -/
def Harmful (p : Entry × List UInt8) : Prop :=
  (apCmd p.2 = apCmdClaim ∧ p.1.call.conn ≠ p.1.before.pendingClaimConn) ∨
    (apCmd p.2 = apCmdRelease ∧ p.1.call.conn = p.1.before.controllingConn ∧
      p.1.before.controllingConn ≠ connNone)

instance (p : Entry × List UInt8) : Decidable (Harmful p) := inferInstanceAs (Decidable (_ ∨ _))

section Step

variable {s s' : Session} {c : Call} {acts : List Action} {frame : List UInt8}

/-- A CLAIM that is handed to the link makes its sender pending. -/
theorem SessionStep.pending_of_claim (h : SessionStep s c s' acts)
    (hf : .linkSend al1ChApCtrl frame ∈ acts) (hcmd : apCmd frame = apCmdClaim) :
    s'.pendingClaimConn = c.conn := by
  cases h with
  | claim conn _ => rfl
  | release _ hrelease =>
    obtain rfl := (Action.linkSend.inj (List.mem_singleton.mp hf)).2
    exact absurd (hcmd.symm.trans hrelease) (by decide)
  | drop _ =>
    obtain rfl := (Action.linkSend.inj (List.mem_singleton.mp hf)).2
    exact absurd hcmd (by decide)
  | forward hclaim _ _ =>
    obtain rfl := (Action.linkSend.inj (List.mem_singleton.mp hf)).2
    exact absurd hcmd hclaim
  | connect _ | write _ _ | leave _ | reject _ _ | bind _ _ _ => simp at hf
  | sessionEnd _ | pass _ _ => split at hf <;> simp at hf

/-- A RELEASE that is handed to the link unbinds its sender. -/
theorem SessionStep.controlling_of_release (h : SessionStep s c s' acts)
    (hf : .linkSend al1ChApCtrl frame ∈ acts) (hcmd : apCmd frame = apCmdRelease) :
    s'.controllingConn = if c.conn = s.controllingConn then connNone else s.controllingConn := by
  cases h with
  | claim _ hclaim =>
    obtain rfl := (Action.linkSend.inj (List.mem_singleton.mp hf)).2
    exact absurd (hcmd.symm.trans hclaim) (by decide)
  | release hc _ => exact (if_pos hc).symm
  | drop hc => exact (if_pos hc).symm
  | forward _ hrelease _ =>
    obtain rfl := (Action.linkSend.inj (List.mem_singleton.mp hf)).2
    exact (if_neg fun hc => hrelease hc hcmd).symm
  | connect _ | write _ _ | leave _ | reject _ _ | bind _ _ _ => simp at hf
  | sessionEnd _ | pass _ _ => split at hf <;> simp at hf

/-- **One frame.** -/
theorem SessionStep.intact_iff (h : SessionStep s c s' acts)
    (hf : .linkSend al1ChApCtrl frame ∈ acts) (st : Bridge × List Entry) :
    Intact st (⟨c, s, s', acts⟩, frame) ↔ ¬ Harmful (⟨c, s, s', acts⟩, frame) := by
  have hclaim : apCmd frame = apCmdClaim →
      (s'.pendingClaimConn = s.pendingClaimConn ↔ c.conn = s.pendingClaimConn) :=
    fun hcmd => by rw [h.pending_of_claim hf hcmd]
  have hrelease : apCmd frame = apCmdRelease → (s'.controllingConn = s.controllingConn ↔
      (c.conn = s.controllingConn → s.controllingConn = connNone)) := by
    intro hcmd
    rw [h.controlling_of_release hf hcmd]
    split_ifs with hc
    · exact ⟨fun heq _ => heq.symm, fun hnone => (hnone hc).symm⟩
    · exact ⟨fun _ hc' => absurd hc' hc, fun _ => rfl⟩
  have hne : ∀ {a b : UInt16}, ¬ a ≠ b ↔ a = b := not_not
  rw [Intact, Harmful, not_or, not_and, not_and, not_and, hne, or_iff_left (not_owes st)]
  exact and_congr (forall_congr' hclaim) (forall_congr' fun hcmd => (hrelease hcmd).trans
    (forall_congr' fun _ => hne.symm))

end Step

/-- The call that hands a frame to the link. -/
theorem exists_call_of_mem_forwarded {b : Bridge} {e : BleEvent} {p : Entry × List UInt8}
    (hp : p ∈ b.forwarded e) : ∃ (s : Session) (c : Call), p.1 = s.entry c ∧
      Action.linkSend al1ChApCtrl p.2 ∈ (s.call c).2 := by
  obtain ⟨x, hx, hp⟩ := List.mem_flatMap.mp hp
  obtain ⟨⟨channel, frame⟩, hd, rfl⟩ := List.mem_map.mp hp
  have hentries := congrArg Prod.snd (bridgeStep_session b e)
  obtain ⟨s, c, -, rfl⟩ := exists_entry_of_mem_record (hentries ▸ hx)
  have ha := Entry.mem_linkSends.mp hd
  obtain ⟨rfl, -⟩ := (s.call_step c).linkSend ha
  exact ⟨s, c, rfl, ha⟩

theorem mem_forwarded_of_mem_failed {maxPayload : ℕ} {b : Bridge} {e : LinkedEvent}
    {p : Entry × List UInt8} (hp : p ∈ b.failed maxPayload e) : p ∈ b.forwarded e.event := by
  obtain ⟨q, hq, rfl⟩ := List.mem_map.mp hp
  exact List.fst_mem_of_mem_zipIdx (List.mem_of_mem_filter hq)

/-- The failures in a callback leave the session intact. -/
def FailuresIntact (maxPayload : ℕ) (st : Bridge × List Entry) (e : LinkedEvent) : Prop :=
  ∀ p ∈ st.1.failed maxPayload e, Intact (linkedNext st e) p

/-- No failure in a callback hits a new CLAIM or the RELEASE of a controller. -/
def FailuresHarmless (maxPayload : ℕ) (st : Bridge × List Entry) (e : LinkedEvent) : Prop :=
  ∀ p ∈ st.1.failed maxPayload e, ¬ Harmful p

instance (maxPayload : ℕ) (st : Bridge × List Entry) (e : LinkedEvent) :
    Decidable (FailuresHarmless maxPayload st e) := inferInstanceAs (Decidable (∀ p ∈ _, _))

/-- **One callback.** -/
theorem failuresIntact_iff (maxPayload : ℕ) (st : Bridge × List Entry) (e : LinkedEvent) :
    FailuresIntact maxPayload st e ↔ FailuresHarmless maxPayload st e := by
  refine forall_congr' fun p => forall_congr' fun hp => ?_
  obtain ⟨x, frame⟩ := p
  obtain ⟨s, c, rfl, hf⟩ := exists_call_of_mem_forwarded (mem_forwarded_of_mem_failed hp)
  exact (s.call_step c).intact_iff hf _

/-- **Failed forwards.**  In a run of the bridge, with the link in any state at any call of
`al1_link_send`, every failure leaves the session intact exactly if none hits a CLAIM of a
connection that is not pending already, or the RELEASE of a controller. -/
theorem failures_intact_iff (maxPayload maxConn : ℕ) (events : List LinkedEvent) :
    Along linkedNext (FailuresIntact maxPayload) (linkedBoot maxConn) events ↔
      Along linkedNext (FailuresHarmless maxPayload) (linkedBoot maxConn) events :=
  ⟨Along.imp fun st e => (failuresIntact_iff maxPayload st e).mp,
    Along.imp fun st e => (failuresIntact_iff maxPayload st e).mpr⟩

/-- A running link with an empty queue. -/
def freshLink : Al1Link :=
  { running := true, txQueue := [], stats := ⟨0, 0, 0, 0, 0, 0, 0⟩, txSeq := fun _ => 0 }

/-- `al1_link_send` succeeds. -/
def LinkMoment.ready : LinkMoment := ⟨freshLink, ⟨some fun _ => 0xEE, true⟩⟩

/-- `al1_link_send` finds the queue full. -/
def LinkMoment.full : LinkMoment := ⟨freshLink, ⟨some fun _ => 0xEE, false⟩⟩

/-- **A CLAIM and a RELEASE that are not sent.**  The CLAIM of connection 2 finds the queue full, and
the OK to a PING of connection 1 binds it.  Then it drops, the RELEASE finds the queue full, and it
is not bound any more. -/
theorem failures_not_intact : ∃ events : List LinkedEvent,
    Along linkedNext Reportable (linkedBoot al1BleMaxConn) events ∧
    ¬ Along linkedNext (FailuresIntact al1LinkMaxPayload) (linkedBoot al1BleMaxConn) events ∧
    ((events.take 5).foldl linkedNext (linkedBoot al1BleMaxConn)).1.session.controllingConn = 2 ∧
    (events.foldl linkedNext (linkedBoot al1BleMaxConn)).1.session.controllingConn = connNone := by
  refine ⟨[⟨.connEvt 1 true, fun _ => .ready⟩, ⟨.connEvt 2 true, fun _ => .ready⟩,
    ⟨.write 1 (apPacketBytes apCmdPing []), fun _ => .ready⟩,
    ⟨.write 2 (apPacketBytes apCmdClaim []), fun _ => .full⟩,
    ⟨.linkAp (ofList 0 (apPacketBytes apCmdOk [])) 4, fun _ => .ready⟩,
    ⟨.connEvt 2 false, fun _ => .full⟩], by decide +kernel, ?_, by decide +kernel,
    by decide +kernel⟩
  intro h
  have hharmless := h.imp fun st e => (failuresIntact_iff al1LinkMaxPayload st e).mp
  revert hharmless
  decide +kernel

end Al1Wmod
