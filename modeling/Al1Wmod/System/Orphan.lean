import Al1Wmod.System.Stm32

/-!
# Orphaned sessions

The STM32 holds its BLE session for the bridge as a whole, so the bridge has to see to it that
somebody is bound whenever the session is held.  It does for a controller that drops: it sends
RELEASE.  It does not for a claimant that drops before its OK arrives: the claim is forgotten, the
OK binds nobody, and the session stays held.

Nothing else goes wrong.  If every OK that grants the session finds a pending
claim or a controller, then a drained system with a held session has a controller.  The invariant
is `Guarded`: a held session is released by something on its way, or granted by something on its
way, or somebody is bound and no EVT_SESSION_END is on its way.
-/

namespace Al1Wmod

open Machine Transducer

/-- A RELEASE on its way to the STM32. -/
def Forwarded.isRelease (x : Forwarded) : Bool := apCmd x.frame == apCmdRelease

/-- The OK to a CLAIM. -/
def Downlink.isGrant (d : Downlink) : Bool :=
  apPeek d.payload d.len == apCmdOk && d.answers.any fun x => apCmd x.frame == apCmdClaim

/-- An EVT_SESSION_END. -/
def Downlink.isSessionEnd (d : Downlink) : Bool := apPeek d.payload d.len == apCmdEvtSessionEnd

/-- No frame is lost by `al1_link_send`. -/
def SysEvent.Lossless : SysEvent → Prop
  | .connEvt _ _ outcomes | .write _ _ outcomes => ∀ ok ∈ outcomes, ok = true
  | _ => True

instance : ∀ e : SysEvent, Decidable e.Lossless
  | .connEvt _ _ _ | .write _ _ _ => inferInstanceAs (Decidable (∀ _ ∈ _, _))
  | .answer _ _ | .event _ _ | .deliver => isTrue trivial

/-- The STM32 grants every RELEASE, and ends a session only while it holds one. -/
def Sys.Obeys (s : Sys) : SysEvent → Prop
  | .answer payload len => ∀ x ∈ s.up.head?, x.isRelease → apPeek payload len = apCmdOk
  | .event payload len => apPeek payload len = apCmdEvtSessionEnd → s.held = true
  | _ => True

instance (s : Sys) : ∀ e, Decidable (s.Obeys e)
  | .answer payload len =>
    inferInstanceAs (Decidable (∀ x ∈ s.up.head?, x.isRelease → apPeek payload len = apCmdOk))
  | .event _ _ => inferInstanceAs (Decidable (_ → _))
  | .connEvt _ _ _ | .write _ _ _ | .deliver => isTrue trivial

/-- The OK that grants the session the STM32 now holds, with no RELEASE and no later grant on
the way, finds a pending claim or a controller. -/
def Sys.Covered (s : Sys) : SysEvent → Prop
  | .deliver => ∀ d ∈ s.down.head?, d.isGrant → s.held = true →
      (∀ x ∈ s.up, ¬ x.isRelease) → (∀ d ∈ s.down.tail, ¬ d.isGrant) →
      s.bridge.session.pendingClaimConn ≠ connNone ∨ s.bridge.session.controllingConn ≠ connNone
  | _ => True

instance (s : Sys) : ∀ e, Decidable (s.Covered e)
  | .deliver => inferInstanceAs (Decidable (∀ d ∈ s.down.head?, _ → _ → _ → _ → _))
  | .connEvt _ _ _ | .write _ _ _ | .answer _ _ | .event _ _ => isTrue trivial

/-! ## What is on its way -/

/-- A grant on its way, with no EVT_SESSION_END behind it. -/
def GrantAhead : List Downlink → Prop
  | [] => False
  | d :: rest => GrantAhead rest ∨ (d.isGrant ∧ ∀ d' ∈ rest, ¬ d'.isSessionEnd)

/-- A new frame behind the others. -/
theorem grantAhead_append {l : List Downlink} {d : Downlink} :
    GrantAhead (l ++ [d]) ↔ d.isGrant ∨ (GrantAhead l ∧ ¬ d.isSessionEnd) := by
  induction l with
  | nil => simp [GrantAhead]
  | cons d' l ih =>
    rw [List.cons_append, GrantAhead, ih, GrantAhead]
    simp only [List.mem_append, List.mem_singleton, or_imp, forall_and, forall_eq]
    tauto

/-- **Somebody sees to a held session.** -/
def Guarded (s : Sys) : Prop :=
  s.held = true → (∃ x ∈ s.up, x.isRelease) ∨ GrantAhead s.down ∨
    (s.bridge.session.controllingConn ≠ connNone ∧ ∀ d ∈ s.down, ¬ d.isSessionEnd)

/-! ## The callbacks of the host task -/

/-- A frame handed to `al1_link_send` is among what the entry sends. -/
theorem mem_sends {hist : List Entry} {e : Entry} {channel : UInt8} {frame : List UInt8}
    (h : .linkSend channel frame ∈ e.acts) :
    ⟨e.call.conn, epoch e.call.conn hist, frame⟩ ∈ e.sends hist :=
  List.mem_filterMap.mpr ⟨_, h, rfl⟩

/-- A call from the host task. -/
def Call.fromHost : Call → Bool
  | .linkAp _ _ => false
  | _ => true

/-- The host task unbinds nobody without sending RELEASE. -/
theorem SessionStep.keeps_or_releases {s s' : Session} {c : Call} {acts : List Action}
    (h : SessionStep s c s' acts) (hc : c.fromHost) :
    s'.controllingConn = s.controllingConn ∨
      ∃ frame, .linkSend al1ChApCtrl frame ∈ acts ∧ apCmd frame = apCmdRelease := by
  cases h with
  | connect _ | write _ _ | leave _ | claim _ _ | forward _ _ _ | reject _ _ => exact Or.inl rfl
  | drop _ => exact Or.inr ⟨releasePacket, by simp, rfl⟩
  | @release _ frame _ hcmd => exact Or.inr ⟨frame, by simp, hcmd⟩
  | bind _ _ _ | sessionEnd _ | pass _ _ => exact absurd hc Bool.false_ne_true

theorem record_keeps_or_releases (s : Session) {calls : List Call}
    (hc : ∀ c ∈ calls, c.fromHost) (hist : List Entry) :
    (run Session.record s calls).1.controllingConn = s.controllingConn ∨
      ∃ x ∈ (run Session.record s calls).2.flatMap (Entry.sends hist), x.isRelease := by
  induction calls generalizing s with
  | nil => exact Or.inl rfl
  | cons c calls ih =>
    have hrest := ih (s.call c).1 fun c' hc' => hc c' (List.mem_cons_of_mem _ hc')
    rw [run_cons, List.flatMap_append]
    rcases (s.call_step c).keeps_or_releases (hc c List.mem_cons_self) with heq | ⟨f, hf, hcmd⟩
    · rcases hrest with heq' | ⟨x, hx, hr⟩
      · exact Or.inl (heq'.trans heq)
      · exact Or.inr ⟨x, List.mem_append_right _ hx, hr⟩
    · refine Or.inr ⟨_, List.mem_append_left _ (List.mem_flatMap.mpr
        ⟨s.entry c, List.mem_singleton_self _, mem_sends (e := s.entry c) hf⟩), ?_⟩
      simp [Forwarded.isRelease, hcmd]

/-- The callbacks of the host task keep the guard. -/
theorem Guarded.callback {s : Sys} (h : Guarded s) {e : BleEvent} {outcomes : List Bool}
    (hc : ∀ c ∈ s.bridge.calls e, c.fromHost) (ho : ∀ ok ∈ outcomes, ok = true) :
    Guarded (s.callback e outcomes) := by
  intro hheld
  have hsession := bridgeStep_session s.bridge e
  have hkeep := record_keeps_or_releases s.bridge.session hc s.hist
  rw [hsession] at hkeep
  rcases h hheld with ⟨x, hx, hr⟩ | hgrant | ⟨hctl, hend⟩
  · exact Or.inl ⟨x, List.mem_append_left _ hx, hr⟩
  · exact Or.inr (Or.inl hgrant)
  · rcases hkeep with heq | ⟨x, hx, hr⟩
    · exact Or.inr (Or.inr ⟨heq ▸ hctl, hend⟩)
    · refine Or.inl ⟨x, List.mem_append_right _ ?_, hr⟩
      rw [accept_eq ho]
      exact hx

theorem calls_fromHost (b : Bridge) {e : BleEvent} (he : ∀ payload len, e ≠ .linkAp payload len) :
    ∀ c ∈ b.calls e, c.fromHost := by
  cases e with
  | linkAp payload len => exact absurd rfl (he payload len)
  | connEvt handle connected =>
    intro c hc
    rw [List.mem_singleton.mp hc]
    rfl
  | write handle data =>
    intro c hc
    rcases mem_calls_write hc with rfl | ⟨f, rfl, -⟩ <;> rfl

/-! ## The STM32 and its frames -/

theorem grantAhead_of_mem {l : List Downlink} {d : Downlink} (hd : d ∈ l) (hg : d.isGrant)
    (hend : ∀ d' ∈ l, ¬ d'.isSessionEnd) : GrantAhead l := by
  induction l with
  | nil => exact absurd hd List.not_mem_nil
  | cons d' l ih =>
    have hrest : ∀ d' ∈ l, ¬ d'.isSessionEnd := fun _ h => hend _ (List.mem_cons_of_mem _ h)
    rcases List.mem_cons.mp hd with rfl | hd
    · exact Or.inr ⟨hg, hrest⟩
    · exact Or.inl (ih hd hrest)

theorem Guarded.answer {s : Sys} (h : Guarded s) {payload : ℕ → UInt8} {len : UInt16}
    (ha : s.Allowed (.answer payload len)) (ho : s.Obeys (.answer payload len)) :
    Guarded (sysStep s (.answer payload len)) := by
  obtain ⟨hup, hpeek⟩ := ha
  obtain ⟨x, up, hcons⟩ := List.exists_cons_of_ne_nil hup
  have hrel : x.isRelease → apPeek payload len = apCmdOk :=
    ho x (by rw [hcons]; rfl)
  set d : Downlink := ⟨payload, len, some x⟩ with hd
  have hnotEnd : ¬ d.isSessionEnd := by
    rcases hpeek with hp | hp <;>
      simp [Downlink.isSessionEnd, hd, hp, apCmdOk, apCmdError, apCmdEvtSessionEnd]
  simp only [sysStep, hcons]
  intro hheld
  by_cases hgrant : apPeek payload len = apCmdOk ∧ apCmd x.frame = apCmdClaim
  · refine Or.inr (Or.inl (grantAhead_append.mpr (Or.inl ?_)))
    simp [Downlink.isGrant, hgrant]
  · have hnrel : ¬ x.isRelease := fun hr => by
      have hr' : apCmd x.frame = apCmdRelease := by simpa [Forwarded.isRelease] using hr
      simp [heldAfter, hrel hr, hr', apCmdRelease, apCmdClaim] at hheld
    have hheld' : s.held = true := by
      have hnrel' : ¬ apCmd x.frame = apCmdRelease := by simpa [Forwarded.isRelease] using hnrel
      simpa [heldAfter, hgrant, hnrel'] using hheld
    rcases h hheld' with ⟨y, hy, hr⟩ | hg | ⟨hctl, hend⟩
    · rw [hcons] at hy
      rcases List.mem_cons.mp hy with rfl | hy
      · exact absurd hr hnrel
      · exact Or.inl ⟨y, hy, hr⟩
    · exact Or.inr (Or.inl (grantAhead_append.mpr (Or.inr ⟨hg, hnotEnd⟩)))
    · have hend' := List.forall_mem_append.mpr ⟨hend, List.forall_mem_singleton.mpr hnotEnd⟩
      exact Or.inr (Or.inr ⟨hctl, hend'⟩)

theorem Guarded.event {s : Sys} (h : Guarded s) (payload : ℕ → UInt8) (len : UInt16) :
    Guarded (sysStep s (.event payload len)) := by
  intro hheld
  by_cases hp : apPeek payload len = apCmdEvtSessionEnd
  · exact absurd hheld (by simp [sysStep, hp])
  · have hnotEnd : ¬ (⟨payload, len, none⟩ : Downlink).isSessionEnd := by
      simpa [Downlink.isSessionEnd] using hp
    have hheld' : s.held = true := by simpa [sysStep, hp] using hheld
    rcases h hheld' with hr | hg | ⟨hctl, hend⟩
    · exact Or.inl hr
    · exact Or.inr (Or.inl (grantAhead_append.mpr (Or.inr ⟨hg, hnotEnd⟩)))
    · have hend' := List.forall_mem_append.mpr ⟨hend, List.forall_mem_singleton.mpr hnotEnd⟩
      exact Or.inr (Or.inr ⟨hctl, hend'⟩)

/-- A frame that does not end the session leaves somebody bound, if somebody was bound, or was
pending and the frame is an OK. -/
theorem SessionStep.stays_bound {s s' : Session} {payload : ℕ → UInt8} {len : UInt16}
    {acts : List Action} (h : SessionStep s (.linkAp payload len) s' acts)
    (hend : apPeek payload len ≠ apCmdEvtSessionEnd)
    (hb : s.controllingConn ≠ connNone ∨
      (apPeek payload len = apCmdOk ∧ s.pendingClaimConn ≠ connNone)) :
    s'.controllingConn ≠ connNone := by
  cases h with
  | bind _ _ hp => exact hp
  | sessionEnd h => exact absurd h hend
  | pass hok _ =>
    rcases hb with hb | ⟨h, hp⟩
    · exact hb
    · exact absurd (hok h) hp

theorem Guarded.deliver {s : Sys} (h : Guarded s) (ha : s.Allowed .deliver)
    (hc : s.Covered .deliver) : Guarded (sysStep s .deliver) := by
  obtain ⟨d, down, hcons⟩ := List.exists_cons_of_ne_nil ha
  have hstep := s.bridge.session.call_step (.linkAp d.payload d.len)
  rw [sysStep_deliver hcons]
  intro hheld
  have hstay : apPeek d.payload d.len ≠ apCmdEvtSessionEnd →
      (s.bridge.session.controllingConn ≠ connNone ∨
        (apPeek d.payload d.len = apCmdOk ∧ s.bridge.session.pendingClaimConn ≠ connNone)) →
      (s.arrival d).after.controllingConn ≠ connNone := hstep.stays_bound
  rcases h hheld with hr | hg | ⟨hctl, hend⟩
  · exact Or.inl hr
  · rw [hcons] at hg
    rcases hg with hg | ⟨hg, hdown⟩
    · exact Or.inr (Or.inl hg)
    · have hok : apPeek d.payload d.len = apCmdOk := by
        rw [Downlink.isGrant, Bool.and_eq_true, beq_iff_eq] at hg
        exact hg.1
      have hnotEnd : apPeek d.payload d.len ≠ apCmdEvtSessionEnd := by
        rw [hok]
        decide
      by_cases hrel : ∃ x ∈ s.up, x.isRelease
      · exact Or.inl hrel
      by_cases hlater : ∃ d' ∈ down, d'.isGrant
      · obtain ⟨d', hd', hg'⟩ := hlater
        exact Or.inr (Or.inl (grantAhead_of_mem hd' hg' hdown))
      push Not at hrel hlater
      refine Or.inr (Or.inr ⟨hstay hnotEnd ?_, hdown⟩)
      rcases hc d (by rw [hcons]; rfl) hg hheld hrel (by rw [hcons]; exact hlater) with hp | hctl
      · exact Or.inr ⟨hok, hp⟩
      · exact Or.inl hctl
  · have hnotEnd : apPeek d.payload d.len ≠ apCmdEvtSessionEnd := by
      have := hend d (by rw [hcons]; exact List.mem_cons_self)
      simpa [Downlink.isSessionEnd] using this
    refine Or.inr (Or.inr ⟨hstay hnotEnd (Or.inl hctl), fun d' hd' => hend d' ?_⟩)
    rw [hcons]
    exact List.mem_cons_of_mem _ hd'

/-- What is assumed of the steps. -/
def Sys.Orderly (s : Sys) (e : SysEvent) : Prop := s.Allowed e ∧ e.Lossless ∧ s.Obeys e

instance (s : Sys) (e : SysEvent) : Decidable (s.Orderly e) := inferInstanceAs (Decidable (_ ∧ _))

/-- **One step.** -/
theorem Guarded.step {s : Sys} (h : Guarded s) {e : SysEvent} (he : s.Orderly e)
    (hc : s.Covered e) : Guarded (sysStep s e) := by
  obtain ⟨ha, hl, ho⟩ := he
  cases e with
  | connEvt handle connected outcomes =>
    exact h.callback (calls_fromHost s.bridge (e := .connEvt handle connected) (by simp)) hl
  | write handle data outcomes =>
    exact h.callback (calls_fromHost s.bridge (e := .write handle data) (by simp)) hl
  | answer payload len => exact h.answer ha ho
  | event payload len => exact h.event payload len
  | deliver => exact h.deliver ha hc

/-! ## The condition is the right one -/

/-- Nobody is bound or pending, the session is held, and no RELEASE is on its way. -/
structure Lost (s : Sys) : Prop where
  controlling : s.bridge.session.controllingConn = connNone
  pending : s.bridge.session.pendingClaimConn = connNone
  held : s.held = true
  up : ∀ x ∈ s.up, ¬ x.isRelease

/-- An ERROR packet. -/
def refusal : ℕ → UInt8 := Buffer.ofList 0 (apPacketBytes apCmdError [ApError.invalidState.code])

theorem apPeek_refusal : apPeek refusal 5 = apCmdError := by decide +kernel

/-- The STM32 refuses everything that is still to be handled. -/
theorem Lost.answerAll {s : Sys} (h : Lost s) : ∃ events, Along sysStep Sys.Orderly s events ∧
    Lost (events.foldl sysStep s) ∧ (events.foldl sysStep s).up = [] := by
  obtain ⟨n, hn⟩ : ∃ n, s.up.length = n := ⟨_, rfl⟩
  induction n generalizing s with
  | zero => exact ⟨[], trivial, h, List.length_eq_zero_iff.mp hn⟩
  | succ n ih =>
    obtain ⟨x, up, hcons⟩ := List.exists_cons_of_length_eq_add_one hn
    have hx : ¬ x.isRelease := h.up x (by rw [hcons]; exact List.mem_cons_self)
    have hstep : sysStep s (.answer refusal 5) =
        { s with up := up, down := s.down ++ [⟨refusal, 5, some x⟩] } := by
      simp [sysStep, hcons, heldAfter, apPeek_refusal, apCmdError, apCmdOk]
    have horderly : s.Orderly (.answer refusal 5) := by
      refine ⟨⟨by rw [hcons]; exact List.cons_ne_nil _ _, Or.inr apPeek_refusal⟩, trivial, ?_⟩
      intro y hy hr
      rw [hcons] at hy
      obtain rfl : x = y := Option.some.inj hy
      exact absurd hr hx
    have hnext : Lost (sysStep s (.answer refusal 5)) := by
      rw [hstep]
      refine ⟨h.controlling, h.pending, h.held, fun y hy => h.up y ?_⟩
      rw [hcons]
      exact List.mem_cons_of_mem _ hy
    obtain ⟨events, halong, hlost, hup⟩ := ih hnext (by
      rw [hcons, List.length_cons] at hn
      rw [hstep]
      exact Nat.succ.inj hn)
    exact ⟨.answer refusal 5 :: events, ⟨horderly, halong⟩, hlost, hup⟩

/-- A frame of the STM32 binds nobody when nobody is pending. -/
theorem SessionStep.stays_lost {s s' : Session} {payload : ℕ → UInt8} {len : UInt16}
    {acts : List Action} (h : SessionStep s (.linkAp payload len) s' acts)
    (hctl : s.controllingConn = connNone) (hp : s.pendingClaimConn = connNone) :
    s'.controllingConn = connNone ∧ s'.pendingClaimConn = connNone := by
  cases h with
  | bind _ _ hp' => exact absurd hp hp'
  | sessionEnd _ => exact ⟨rfl, hp⟩
  | pass _ _ => exact ⟨hctl, hp⟩

theorem Lost.deliver {s : Sys} (h : Lost s) {d : Downlink} {down : List Downlink}
    (hcons : s.down = d :: down) : Lost (sysStep s .deliver) := by
  obtain ⟨hctl, hp⟩ := (s.bridge.session.call_step (.linkAp d.payload d.len)).stays_lost
    h.controlling h.pending
  rw [sysStep_deliver hcons]
  exact ⟨hctl, hp, h.held, h.up⟩

/-- The frames of the STM32 arrive. -/
theorem Lost.deliverAll {s : Sys} (h : Lost s) : ∃ events, Along sysStep Sys.Orderly s events ∧
    Lost (events.foldl sysStep s) ∧ (events.foldl sysStep s).up = s.up ∧
    (events.foldl sysStep s).down = [] := by
  obtain ⟨n, hn⟩ : ∃ n, s.down.length = n := ⟨_, rfl⟩
  induction n generalizing s with
  | zero => exact ⟨[], trivial, h, rfl, List.length_eq_zero_iff.mp hn⟩
  | succ n ih =>
    obtain ⟨d, down, hcons⟩ := List.exists_cons_of_length_eq_add_one hn
    have horderly : s.Orderly .deliver :=
      ⟨by rw [Sys.Allowed, hcons]; exact List.cons_ne_nil _ _, trivial, trivial⟩
    have hlen : (sysStep s .deliver).down.length = n := by
      rw [sysStep_deliver hcons]
      rw [hcons, List.length_cons] at hn
      exact Nat.succ.inj hn
    have hup : (sysStep s .deliver).up = s.up := by rw [sysStep_deliver hcons]
    obtain ⟨events, halong, hlost, hup', hdown⟩ := ih (h.deliver hcons) hlen
    exact ⟨.deliver :: events, ⟨horderly, halong⟩, hlost, hup'.trans hup, hdown⟩

/-- **The condition is needed.**  Where a grant that counts finds neither a pending claim nor a
controller, the run can go on to an orphaned session. -/
theorem orphan_of_not_covered {s : Sys} (ho : s.Orderly .deliver) (hc : ¬ s.Covered .deliver) :
    ∃ events, Along sysStep Sys.Orderly s events ∧
      let t := events.foldl sysStep s
      t.up = [] ∧ t.down = [] ∧ t.held = true ∧ t.bridge.session.controllingConn = connNone := by
  rw [Sys.Covered] at hc
  push Not at hc
  obtain ⟨d, hd, -, hheld, hup, -, hp, hctl⟩ := hc
  obtain ⟨d', down, hcons⟩ := List.exists_cons_of_ne_nil ho.1
  have hlost : Lost (sysStep s .deliver) :=
    Lost.deliver ⟨hctl, hp, hheld, hup⟩ hcons
  obtain ⟨answers, halong, hlost, hup⟩ := hlost.answerAll
  obtain ⟨deliveries, halong', hlost', hup', hdown⟩ := hlost.deliverAll
  refine ⟨.deliver :: (answers ++ deliveries), ⟨ho, along_append.mpr ⟨halong, halong'⟩⟩, ?_⟩
  rw [List.foldl_cons, List.foldl_append]
  exact ⟨hup'.trans hup, hdown, hlost'.held, hlost'.controlling⟩

/-- **No orphaned session.**  In every run in which each OK that grants the session finds a pending
claim or a controller, when everything has drained: a held session has a controller, which is
connected; and when nobody is connected any more, no session is held. -/
theorem no_orphan {maxConn : ℕ} {events : List SysEvent}
    (h : Along sysStep Sys.Orderly (sysBoot maxConn) events)
    (hc : Along sysStep Sys.Covered (sysBoot maxConn) events)
    (hup : (events.foldl sysStep (sysBoot maxConn)).up = [])
    (hdown : (events.foldl sysStep (sysBoot maxConn)).down = []) :
    let s := events.foldl sysStep (sysBoot maxConn)
    (s.held = true → s.bridge.session.controllingConn ≠ connNone ∧
      Connected s.bridge.session.controllingConn s.hist) ∧
    ((∀ conn, ¬ Connected conn s.hist) → s.held = false) := by
  intro s
  have hinv : SysInv maxConn s ∧ Guarded s := by
    refine (along_and.mpr ⟨h, hc⟩).invariant (R := fun s => SysInv maxConn s ∧ Guarded s) ?_
      ⟨sysInv_boot maxConn, fun hheld => absurd hheld Bool.false_ne_true⟩
    rintro s e ⟨hinv, hg⟩ ⟨ho, hcov⟩
    exact ⟨hinv.step ho.1, hg.step ho hcov⟩
  have hheld : s.held = true → s.bridge.session.controllingConn ≠ connNone ∧
      Connected s.bridge.session.controllingConn s.hist := by
    intro hheld
    rcases hinv.2 hheld with ⟨x, hx, -⟩ | hg | ⟨hctl, -⟩
    · rw [hup] at hx
      exact absurd hx List.not_mem_nil
    · rw [hdown] at hg
      exact hg.elim
    · exact ⟨hctl, (hinv.1.session.controller hctl).connected⟩
  refine ⟨hheld, ?_⟩
  intro hgone
  by_contra hne
  exact hgone _ (hheld (eq_true_of_ne_false hne)).2

/-- A claim is granted; the controller drops, and its session is freed. -/
theorem no_orphan_drop :
    let s := [SysEvent.connEvt 1 true [], .write 1 (apPacketBytes apCmdClaim []) [],
      .answer (Buffer.ofList 0 (apPacketBytes apCmdOk [0, 7])) 6, .deliver, .connEvt 1 false [],
      .answer (Buffer.ofList 0 (apPacketBytes apCmdOk [])) 4, .deliver].foldl sysStep
        (sysBoot al1BleMaxConn)
    (s.held = true → s.bridge.session.controllingConn ≠ connNone ∧
      Connected s.bridge.session.controllingConn s.hist) ∧
    ((∀ conn, ¬ Connected conn s.hist) → s.held = false) :=
  no_orphan (by decide +kernel) (by decide +kernel) (by decide +kernel) (by decide +kernel)

/-- The claimant drops before its OK arrives.  Nobody is connected, everything has drained, and
the session is held. -/
theorem orphan : ∃ events, Along sysStep Sys.Orderly (sysBoot al1BleMaxConn) events ∧
    let s := events.foldl sysStep (sysBoot al1BleMaxConn)
    s.up.isEmpty ∧ s.down.isEmpty ∧ s.held = true ∧
      s.bridge.session.controllingConn = connNone :=
  ⟨[.connEvt 1 true [], .write 1 (apPacketBytes apCmdClaim []) [], .connEvt 1 false [],
      .answer (Buffer.ofList 0 (apPacketBytes apCmdOk [0, 7])) 6, .deliver],
    by decide +kernel, by decide +kernel⟩

end Al1Wmod
