import Al1Wmod.Ble.Session

/-!
# Takeovers

Can control pass from one central to another without the first noticing?  It can in one way: the
STM32 answers OK while a central is bound and the claim of another one is pending
(`Entry.overrides`).  The binding then moves, and the central that had it is told nothing.

This is the only way: a run is free of silent takeovers exactly when
no such OK arrives in it.
-/

namespace Al1Wmod

open PastTime Buffer

/-- The bytes of a frame of the STM32. -/
def Call.payload : Call → List UInt8
  | .linkAp payload len => slice payload 0 len.toNat
  | _ => []

/-- Who controls the device after a history. -/
def controllerAfter : List Entry → UInt16
  | [] => connNone
  | e :: _ => e.after.controllingConn

/-- The ways `a` may lose control: it sends RELEASE, it disconnects, or it is told that its session
has ended. -/
def Entry.ends (a : UInt16) (e : Entry) : Prop :=
  e.call.releases a ∨ e.call.disconnects a ∨
    (e.call.isSessionEnd ∧ e.acts = [.notifyConn a e.call.payload])

instance (a : UInt16) (e : Entry) : Decidable (e.ends a) := inferInstanceAs (Decidable (_ ∨ _))

/-- Between a moment when `a` controls the device and a later one when somebody else does, `a` has
lost control in one of these ways. -/
def NoTakeover (hist : List Entry) : Prop :=
  ∀ later mid past, hist = later ++ (mid ++ past) →
    controllerAfter past ≠ connNone → controllerAfter (mid ++ past) ≠ connNone →
    controllerAfter (mid ++ past) ≠ controllerAfter past →
    ∃ e ∈ mid, e.ends (controllerAfter past)

/-- An OK that arrives while somebody is bound and the claim of somebody else is pending. -/
def Entry.overrides (e : Entry) : Prop :=
  e.call.isOk ∧ e.before.controllingConn ≠ connNone ∧ e.before.pendingClaimConn ≠ connNone ∧
    e.before.pendingClaimConn ≠ e.before.controllingConn

instance (e : Entry) : Decidable e.overrides := inferInstanceAs (Decidable (_ ∧ _))

theorem Traced.controllerAfter {s : Session} {hist : List Entry} (h : Traced s hist) :
    controllerAfter hist = s.controllingConn := by
  cases h with
  | boot => rfl
  | step _ _ => rfl

/-- **One call.**  The controller keeps control, or loses it in one of the ways, or is
overridden. -/
theorem SessionStep.keeps_or_ends {s s' : Session} {c : Call} {acts : List Action}
    (h : SessionStep s c s' acts) (hs : s.controllingConn ≠ connNone) :
    s'.controllingConn = s.controllingConn ∨ (⟨c, s, s', acts⟩ : Entry).ends s.controllingConn ∨
      (⟨c, s, s', acts⟩ : Entry).overrides := by
  cases h with
  | connect _ | write _ _ | leave _ | claim _ _ | forward _ _ _ | reject _ _ | pass _ _ =>
    exact Or.inl rfl
  | drop hc => exact Or.inr (Or.inl (Or.inr (Or.inl (by simp [Call.disconnects, hc]))))
  | release hc hcmd => exact Or.inr (Or.inl (Or.inl (by simp [Call.releases, hc, hcmd])))
  | bind id hok hp =>
    by_cases hne : s.pendingClaimConn = s.controllingConn
    · exact Or.inl hne
    · exact Or.inr (Or.inr ⟨by simpa [Call.isOk] using hok, hs, hp, hne⟩)
  | sessionEnd hend =>
    refine Or.inr (Or.inl (Or.inr (Or.inr ⟨by simpa [Call.isSessionEnd] using hend, ?_⟩)))
    rw [if_pos hs]
    rfl

/-- **Many calls.** -/
theorem Traced.keeps_or_ends {s : Session} {mid past : List Entry} (h : Traced s (mid ++ past))
    (hquiet : ∀ e ∈ mid, ¬ e.overrides) (hpast : Al1Wmod.controllerAfter past ≠ connNone) :
    s.controllingConn = Al1Wmod.controllerAfter past ∨
      ∃ e ∈ mid, e.ends (Al1Wmod.controllerAfter past) := by
  induction mid generalizing s with
  | nil => exact Or.inl h.controllerAfter.symm
  | cons e mid ih =>
    cases h with
    | @step s _ c h hj =>
      rcases ih h fun e he => hquiet e (List.mem_cons_of_mem _ he) with heq | ⟨e, he, hends⟩
      · rw [← heq] at hpast ⊢
        rcases (s.call_step c).keeps_or_ends hpast with hkeep | hends | hover
        · exact Or.inl hkeep
        · exact Or.inr ⟨_, List.mem_cons_self, hends⟩
        · exact absurd hover (hquiet _ List.mem_cons_self)
      · exact Or.inr ⟨e, List.mem_cons_of_mem _ he, hends⟩

theorem Traced.past {s : Session} {later past : List Entry} (h : Traced s (later ++ past)) :
    ∃ s, Traced s past := by
  induction later generalizing s with
  | nil => exact ⟨s, h⟩
  | cons e later ih =>
    cases h with
    | step h _ => exact ih h

/-- An overriding OK moves the binding, and ends nobody's control in a way that is noticed. -/
theorem SessionStep.override {s s' : Session} {c : Call} {acts : List Action}
    (h : SessionStep s c s' acts) (ho : (⟨c, s, s', acts⟩ : Entry).overrides) :
    s'.controllingConn = s.pendingClaimConn ∧ ∀ a, ¬ (⟨c, s, s', acts⟩ : Entry).ends a := by
  obtain ⟨hok, -, hp, -⟩ := ho
  cases h with
  | bind id hok' _ =>
    refine ⟨rfl, ?_⟩
    intro a ha
    simp [Entry.ends, Call.releases, Call.disconnects, Call.isSessionEnd, hok', apCmdOk,
      apCmdEvtSessionEnd] at ha
  | connect _ | write _ _ | leave _ | drop _ | claim _ _ | release _ _ | forward _ _ _
  | reject _ _ => simp [Call.isOk] at hok
  | sessionEnd hend => simp [Call.isOk, hend, apCmdOk, apCmdEvtSessionEnd] at hok
  | pass hok' _ => exact absurd (hok' (by simpa [Call.isOk] using hok)) hp

/-- **Silent takeovers.**  A run of the bridge has none exactly when no OK arrives in it while a
connection is bound and the claim of a different connection is pending. -/
theorem noTakeover_iff {maxConn : ℕ} {b : Bridge} {hist : List Entry}
    (h : Reached maxConn b hist) : NoTakeover hist ↔ ∀ e ∈ hist, ¬ e.overrides := by
  constructor
  · intro hno e he ho
    obtain ⟨later, past, rfl⟩ := List.append_of_mem he
    obtain ⟨s', ht⟩ := h.traced.past
    cases ht with
    | @step s _ c ht hj =>
      obtain ⟨hmoves, hquiet⟩ := (s.call_step c).override ho
      have hafter : controllerAfter ([s.entry c] ++ past) = s.pendingClaimConn := hmoves
      obtain ⟨e, he, hends⟩ := hno later [s.entry c] past rfl (ht.controllerAfter ▸ ho.2.1)
        (hafter ▸ ho.2.2.1) (by rw [hafter, ht.controllerAfter]; exact ho.2.2.2)
      rw [List.mem_singleton.mp he] at hends
      exact hquiet _ hends
  · rintro hquiet later mid past rfl hpast - hne
    obtain ⟨s, ht⟩ := h.traced.past
    rcases ht.keeps_or_ends (fun e he => hquiet e (List.mem_append_right _
      (List.mem_append_left _ he))) hpast with heq | hends
    · exact absurd (ht.controllerAfter.trans heq) hne
    · exact hends

/-- Control passes from 1 to 2 by a session end and a new claim. -/
theorem noTakeover_iff_handover :
    NoTakeover (bridgeRun al1BleMaxConn
      [.connEvt 1 true, .connEvt 2 true, .write 1 (apPacketBytes apCmdClaim []),
        .linkAp (ofList 0 (apPacketBytes apCmdOk [0, 7])) 6,
        .linkAp (ofList 0 (apPacketBytes apCmdEvtSessionEnd [1])) 5,
        .write 2 (apPacketBytes apCmdClaim []),
        .linkAp (ofList 0 (apPacketBytes apCmdOk [0, 8])) 6]).2 :=
  (noTakeover_iff (reached_bridgeRun (by decide +kernel))).mpr (by decide +kernel)

/-- While connection 1 is bound, connection 2 claims, and the OK moves the binding to it. -/
theorem takeover : ∃ b hist, Reached al1BleMaxConn b hist ∧ ¬ NoTakeover hist := by
  refine ⟨_, _, @reached_bridgeRun _ [.connEvt 1 true, .connEvt 2 true,
    .write 1 (apPacketBytes apCmdClaim []), .linkAp (ofList 0 (apPacketBytes apCmdOk [0, 7])) 6,
    .write 2 (apPacketBytes apCmdClaim []), .linkAp (ofList 0 (apPacketBytes apCmdOk [0, 8])) 6]
    (by decide +kernel), fun h => ?_⟩
  have hmoved := h [] _ _ ((List.nil_append _).trans (List.take_append_drop 1 _)).symm
  revert hmoved
  decide +kernel

end Al1Wmod
