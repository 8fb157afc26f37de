import Al1Wmod.System.Stm32

/-!
# Where a reply goes

The bridge keeps no list of the commands it has forwarded.  It routes a frame of the STM32 by the
session alone: an OK goes to the pending claimant, everything else to the controller, and to all
centrals when there is none.  So the reply to a command of a central that is still connected, when
it is not taken for the OK to a claim, reaches the controller alone, or, when nobody controls the
device, everyone once, the sender of the command among them.

That the sender is among them is the part that needs the run: `Tracked` follows a forwarded frame
and keeps its sender registered as long as its connection lasts.
-/

namespace Al1Wmod

open PastTime Machine

/-- A forwarded frame whose connection still lasts has a sender with a slot. -/
structure Tracked (b : Bridge) (hist : List Entry) (x : Forwarded) : Prop where
  le : x.epoch ≤ epoch x.conn hist
  slot : x.epoch = epoch x.conn hist → Connected x.conn hist → x.conn ∈ b.handles

/-- The forwarded frames in flight: not handled yet, or answered by a frame on its way. -/
def Sys.inFlight (s : Sys) : List Forwarded := s.up ++ s.down.filterMap Downlink.answers

/-- Who is notified when a frame of the STM32 arrives, and with what. -/
def Sys.notified (s : Sys) (d : Downlink) : List (UInt16 × List UInt8) :=
  (s.arrival d).acts.flatMap (Action.notified s.conns)

/-- The routing of replies.  A reply to a command of a central that is still connected is notified
to the sender alone if it is the OK to its pending claim.  Otherwise, if no claim is pending or the
reply is an ERROR, it is notified to the controller alone, or, when there is none, to every
registered central once, the sender among them. -/
def Sys.Routed (s : Sys) : SysEvent → Prop
  | .deliver => ∀ d ∈ s.down.head?, ∀ x ∈ d.answers,
      x.epoch = epoch x.conn s.hist → Connected x.conn s.hist →
      (apPeek d.payload d.len = apCmdOk ∧ s.bridge.session.pendingClaimConn = x.conn →
        s.notified d = [(x.conn, d.bytes)]) ∧
      ((apPeek d.payload d.len = apCmdOk → s.bridge.session.pendingClaimConn = connNone) →
        (s.bridge.session.controllingConn ≠ connNone →
          s.notified d = [(s.bridge.session.controllingConn, d.bytes)]) ∧
        (s.bridge.session.controllingConn = connNone →
          s.notified d = (registered s.conns).map (fun conn => (conn, d.bytes)) ∧
          (registered s.conns).Nodup ∧ x.conn ∈ registered s.conns))
  | _ => True

/-! ## Forwarded frames keep their senders -/

theorem epoch_cons (conn : UInt16) (e : Entry) (hist : List Entry) :
    epoch conn (e :: hist) = epoch conn hist + if e.call.connects conn then 1 else 0 :=
  List.countP_cons

/-- Entries that are no connects or disconnects. -/
theorem epoch_append {conn : UInt16} {entries hist : List Entry}
    (h : ∀ e ∈ entries, ¬ e.call.touches conn) : epoch conn (entries ++ hist) = epoch conn hist := by
  have hzero : entries.countP (fun e => e.call.connects conn) = 0 := by
    rw [List.countP_eq_zero]
    exact fun e he hc => h e he (Call.touches_of_connects hc)
  rw [epoch, List.countP_append, hzero, Nat.zero_add, epoch]

section Events

variable {b b' : Bridge} {hist entries : List Entry} {x : Forwarded}

/-- Events that leave connections and slots alone. -/
theorem Tracked.keep (h : Tracked b hist x) (he : ∀ e ∈ entries, ¬ e.call.touches x.conn)
    (hb : x.conn ∈ b.handles → x.conn ∈ b'.handles) : Tracked b' (entries ++ hist) x :=
  ⟨(epoch_append he).symm ▸ h.le, fun heq hc => hb (h.slot ((epoch_append he) ▸ heq)
    ((connected_append he).mp hc))⟩

theorem Tracked.connect (h : Tracked b hist x) (handle : UInt16) :
    Tracked (onConnEvt b handle true).1 ((onConnEvt b handle true).2.reverse ++ hist) x := by
  by_cases hx : x.conn = handle
  · have hepoch : epoch x.conn ((onConnEvt b handle true).2.reverse ++ hist) =
        epoch x.conn hist + 1 := by
      rw [hx]
      show epoch handle (_ :: hist) = _
      rw [epoch_cons, if_pos (by simp [Session.entry, Call.connects])]
    have hlt : x.epoch < epoch x.conn ((onConnEvt b handle true).2.reverse ++ hist) := by
      rw [hepoch]
      exact Nat.lt_succ_of_le h.le
    exact ⟨hlt.le, fun heq => absurd heq hlt.ne⟩
  · refine h.keep ?_ (mem_handles_connect handle)
    intro e he
    obtain rfl : e = b.session.entry (.connEvt handle true) := by
      simpa [onConnEvt] using he
    simpa [Session.entry, Call.touches] using Ne.symm hx

theorem not_connected_disconnect (b : Bridge) (hist : List Entry) (handle : UInt16) :
    ¬ Connected handle ((onConnEvt b handle false).2.reverse ++ hist) := by
  rintro (h | ⟨h, -⟩)
  · simp [Session.entry, Call.connects] at h
  · simp [Session.entry, Call.touches] at h

theorem epoch_disconnect (b : Bridge) (hist : List Entry) (handle conn : UInt16) :
    epoch conn ((onConnEvt b handle false).2.reverse ++ hist) = epoch conn hist := by
  show epoch conn (_ :: hist) = _
  rw [epoch_cons, if_neg (by simp [Session.entry, Call.connects]), Nat.add_zero]

theorem Tracked.disconnect (h : Tracked b hist x) (hslots : SlotsInv b hist) (handle : UInt16) :
    Tracked (onConnEvt b handle false).1 ((onConnEvt b handle false).2.reverse ++ hist) x := by
  by_cases hx : x.conn = handle
  · refine ⟨(epoch_disconnect b hist handle _).symm ▸ h.le, ?_⟩
    intro _ hc
    exact absurd (hx ▸ hc) (not_connected_disconnect b hist handle)
  · refine h.keep ?_ fun hmem => (mem_handles_disconnect hslots.nodup).mpr ⟨hmem, hx⟩
    intro e he
    obtain rfl : e = b.session.entry (.connEvt handle false) := by
      simpa [onConnEvt] using he
    simpa [Session.entry, Call.touches] using Ne.symm hx

end Events

/-- Where a sent frame comes from. -/
theorem of_mem_sends {hist : List Entry} {e : Entry} {x : Forwarded} (h : x ∈ e.sends hist) :
    x.conn = e.call.conn ∧ x.epoch = epoch x.conn hist ∧ e.acts ≠ [] := by
  obtain ⟨a, ha, hx⟩ := List.mem_filterMap.mp h
  cases a with
  | linkSend channel frame =>
    obtain rfl := Option.some.inj hx
    exact ⟨rfl, rfl, List.ne_nil_of_mem ha⟩
  | notifyConn _ _ | notifyAll _ => simp at hx

/-- The entries of a callback are about its calls. -/
theorem exists_entry_of_mem_bridgeStep {b : Bridge} {ev : BleEvent} {e : Entry}
    (he : e ∈ (bridgeStep b ev).2) : ∃ s : Session, ∃ c ∈ b.calls ev, e = s.entry c := by
  have h := bridgeStep_session b ev
  exact exists_entry_of_mem_record (s := b.session) (by rw [h]; exact he)

/-- A frame that a write sends belongs to the writer, who has a slot. -/
theorem of_mem_write {b : Bridge} {hist : List Entry} {handle : UInt16} {data : List UInt8}
    {x : Forwarded} (hx : x ∈ (bridgeStep b (.write handle data)).2.flatMap (Entry.sends hist)) :
    x.conn = handle ∧ x.epoch = epoch x.conn hist ∧ handle ∈ b.handles := by
  obtain ⟨e, he, hxe⟩ := List.mem_flatMap.mp hx
  obtain ⟨hconn, hepoch, hacts⟩ := of_mem_sends hxe
  obtain ⟨s, c, hc, rfl⟩ := exists_entry_of_mem_bridgeStep he
  rcases mem_calls_write hc with rfl | ⟨f, rfl, hmem⟩
  · exact absurd rfl hacts
  · exact ⟨hconn, hepoch, hmem⟩

/-- The entries of a write touch no connection. -/
theorem not_touches_write {b : Bridge} {handle : UInt16} {data : List UInt8} {e : Entry}
    (he : e ∈ (bridgeStep b (.write handle data)).2) (conn : UInt16) :
    ¬ e.call.touches conn := by
  obtain ⟨s, c, hc, rfl⟩ := exists_entry_of_mem_bridgeStep he
  rcases mem_calls_write hc with rfl | ⟨f, rfl, -⟩ <;> exact Bool.false_ne_true

/-- **What is in flight is tracked.** -/
structure RoutingInv (maxConn : ℕ) (s : Sys) : Prop where
  sys : SysInv maxConn s
  tracked : ∀ x ∈ s.inFlight, Tracked s.bridge s.hist x
  replies : ∀ d ∈ s.down, d.answers ≠ none →
    apPeek d.payload d.len = apCmdOk ∨ apPeek d.payload d.len = apCmdError

theorem mem_inFlight {s : Sys} {x : Forwarded} :
    x ∈ s.inFlight ↔ x ∈ s.up ∨ ∃ d ∈ s.down, x ∈ d.answers := by
  rw [Sys.inFlight, List.mem_append, List.mem_filterMap]
  rfl

theorem mem_inFlight_callback {s : Sys} {e : BleEvent} {outcomes : List Bool} {x : Forwarded}
    (h : x ∈ (s.callback e outcomes).inFlight) :
    x ∈ s.inFlight ∨ x ∈ (bridgeStep s.bridge e).2.flatMap (Entry.sends s.hist) := by
  rcases mem_inFlight.mp h with h | h
  · rcases List.mem_append.mp h with h | h
    · exact Or.inl (mem_inFlight.mpr (Or.inl h))
    · exact Or.inr ((accept_sublist _ _).mem h)
  · exact Or.inl (mem_inFlight.mpr (Or.inr h))

theorem RoutingInv.replies_step {maxConn : ℕ} {s : Sys} (h : RoutingInv maxConn s) {e : SysEvent}
    (he : s.Allowed e) : ∀ d ∈ (sysStep s e).down, d.answers ≠ none →
      apPeek d.payload d.len = apCmdOk ∨ apPeek d.payload d.len = apCmdError := by
  intro d hd hsome
  cases e with
  | connEvt _ _ _ | write _ _ _ => exact h.replies d hd hsome
  | answer payload len =>
    obtain ⟨y, up, hcons⟩ := List.exists_cons_of_ne_nil he.1
    simp only [sysStep, hcons] at hd
    rcases List.mem_append.mp hd with hd | hd
    · exact h.replies d hd hsome
    · rw [List.mem_singleton.mp hd]
      exact he.2
  | event payload len =>
    rcases List.mem_append.mp hd with hd | hd
    · exact h.replies d hd hsome
    · rw [List.mem_singleton.mp hd] at hsome
      exact absurd rfl hsome
  | deliver =>
    obtain ⟨d', down, hcons⟩ := List.exists_cons_of_ne_nil he
    rw [sysStep_deliver hcons] at hd
    refine h.replies d ?_ hsome
    rw [hcons]
    exact List.mem_cons_of_mem _ hd

/-- An answer puts a frame that was in flight already on its way back. -/
theorem mem_inFlight_answer {s : Sys} {x : Forwarded} {payload : ℕ → UInt8} {len : UInt16}
    (hup : s.up ≠ []) (hx : x ∈ (sysStep s (.answer payload len)).inFlight) : x ∈ s.inFlight := by
  obtain ⟨y, up, hcons⟩ := List.exists_cons_of_ne_nil hup
  simp only [sysStep, hcons] at hx
  rw [mem_inFlight, hcons]
  rcases mem_inFlight.mp hx with hx | ⟨d, hd, hx⟩
  · exact Or.inl (List.mem_cons_of_mem _ hx)
  · rcases List.mem_append.mp hd with hd | hd
    · exact Or.inr ⟨d, hd, hx⟩
    · rw [List.mem_singleton.mp hd] at hx
      obtain rfl : y = x := Option.some.inj hx
      exact Or.inl List.mem_cons_self

/-- An event answers nothing. -/
theorem mem_inFlight_event {s : Sys} {x : Forwarded} {payload : ℕ → UInt8} {len : UInt16}
    (hx : x ∈ (sysStep s (.event payload len)).inFlight) : x ∈ s.inFlight := by
  rw [mem_inFlight]
  rcases mem_inFlight.mp hx with hx | ⟨d, hd, hx⟩
  · exact Or.inl hx
  · rcases List.mem_append.mp hd with hd | hd
    · exact Or.inr ⟨d, hd, hx⟩
    · rw [List.mem_singleton.mp hd] at hx
      exact absurd hx (by simp)

/-- A delivery takes a frame off. -/
theorem mem_inFlight_deliver {s : Sys} {x : Forwarded} (hdown : s.down ≠ [])
    (hx : x ∈ (sysStep s .deliver).inFlight) : x ∈ s.inFlight := by
  obtain ⟨d, down, hcons⟩ := List.exists_cons_of_ne_nil hdown
  rw [sysStep_deliver hcons] at hx
  rw [mem_inFlight, hcons]
  rcases mem_inFlight.mp hx with hx | ⟨d', hd', hx⟩
  · exact Or.inl hx
  · exact Or.inr ⟨d', List.mem_cons_of_mem _ hd', hx⟩

/-- **One step.** -/
theorem RoutingInv.step {maxConn : ℕ} {s : Sys} (h : RoutingInv maxConn s) {e : SysEvent}
    (he : s.Allowed e) : RoutingInv maxConn (sysStep s e) := by
  refine ⟨h.sys.step he, ?_, h.replies_step he⟩
  intro x hx
  cases e with
  | connEvt handle connected outcomes =>
    have hx' : x ∈ (s.callback (.connEvt handle connected) outcomes).inFlight := hx
    cases connected with
    | true =>
      rcases mem_inFlight_callback hx' with hx' | hx'
      · exact (h.tracked x hx').connect handle
      · obtain ⟨e, he, hxe⟩ := List.mem_flatMap.mp hx'
        rw [List.mem_singleton.mp he] at hxe
        exact absurd rfl (of_mem_sends hxe).2.2
    | false =>
      rcases mem_inFlight_callback hx' with hx' | hx'
      · exact (h.tracked x hx').disconnect h.sys.reached.slots handle
      · -- the RELEASE for a controller that drops, whose connection is over
        obtain ⟨e, he, hxe⟩ := List.mem_flatMap.mp hx'
        rw [List.mem_singleton.mp he] at hxe
        obtain ⟨hconn, hepoch, -⟩ := of_mem_sends hxe
        refine ⟨(hepoch.trans (epoch_disconnect s.bridge s.hist handle x.conn).symm).le,
          fun _ hc => ?_⟩
        rw [show x.conn = handle from hconn] at hc
        exact absurd hc (not_connected_disconnect s.bridge s.hist handle)
  | write handle data outcomes =>
    have htouch : ∀ e ∈ (bridgeStep s.bridge (.write handle data)).2.reverse,
        ¬ e.call.touches x.conn := fun e he => not_touches_write (List.mem_reverse.mp he) _
    have hhandles : (bridgeStep s.bridge (.write handle data)).1.handles = s.bridge.handles :=
      handles_onBleWrite s.bridge handle data
    rcases mem_inFlight_callback hx with hx | hx
    · exact (h.tracked x hx).keep htouch fun hmem => hhandles ▸ hmem
    · obtain ⟨rfl, hepoch, hmem⟩ := of_mem_write hx
      have hnow : Tracked s.bridge s.hist x := ⟨hepoch.le, fun _ _ => hmem⟩
      exact hnow.keep htouch fun hmem => hhandles ▸ hmem
  | answer payload len =>
    obtain ⟨y, up, hcons⟩ := List.exists_cons_of_ne_nil he.1
    have hold := h.tracked x (mem_inFlight_answer he.1 hx)
    simp only [sysStep, hcons]
    exact hold
  | event payload len => exact h.tracked x (mem_inFlight_event hx)
  | deliver =>
    obtain ⟨d, down, hcons⟩ := List.exists_cons_of_ne_nil he
    have hold := h.tracked x (mem_inFlight_deliver he hx)
    have htouch : ∀ e ∈ [s.arrival d], ¬ e.call.touches x.conn :=
      List.forall_mem_singleton.mpr Bool.false_ne_true
    rw [sysStep_deliver hcons]
    exact hold.keep htouch id

theorem routingInv_boot (maxConn : ℕ) : RoutingInv maxConn (sysBoot maxConn) :=
  ⟨sysInv_boot maxConn, fun _ hx => absurd hx List.not_mem_nil,
    fun _ hd => absurd hd List.not_mem_nil⟩

/-! ## Routing -/

/-- What the bridge notifies of a frame that is not an EVT_SESSION_END. -/
theorem SessionStep.linkAp_acts {s s' : Session} {payload : ℕ → UInt8} {len : UInt16}
    {acts : List Action} (h : SessionStep s (.linkAp payload len) s' acts)
    (hend : apPeek payload len ≠ apCmdEvtSessionEnd) :
    acts =
      if apPeek payload len = apCmdOk ∧ s.pendingClaimConn ≠ connNone then
        [.notifyConn s.pendingClaimConn (Buffer.slice payload 0 len.toNat)]
      else if s.controllingConn ≠ connNone then
        [.notifyConn s.controllingConn (Buffer.slice payload 0 len.toNat)]
      else [.notifyAll (Buffer.slice payload 0 len.toNat)] := by
  cases h with
  | bind _ hok hp => rw [if_pos ⟨hok, hp⟩]
  | sessionEnd h => exact absurd h hend
  | pass hok _ =>
    have hbind : ¬ (apPeek payload len = apCmdOk ∧ s.pendingClaimConn ≠ connNone) :=
      fun hb => hb.2 (hok hb.1)
    rw [if_neg hbind]

/-- **Routing of replies.**  In every run, each reply that reaches the bridge is routed so. -/
theorem reply_routed {maxConn : ℕ} {events : List SysEvent}
    (h : Along sysStep Sys.Allowed (sysBoot maxConn) events) :
    Along sysStep Sys.Routed (sysBoot maxConn) events := by
  refine Along.of_invariant (R := RoutingInv maxConn) (fun s e hinv he => hinv.step he) ?_
    (routingInv_boot maxConn) h
  intro s e hinv he
  cases e with
  | connEvt _ _ _ | write _ _ _ | answer _ _ | event _ _ => trivial
  | deliver =>
    intro d hd x hx hepoch hconn
    have hmem : d ∈ s.down := List.mem_of_mem_head? hd
    have hend : apPeek d.payload d.len ≠ apCmdEvtSessionEnd := by
      intro hp
      have hsome : d.answers ≠ none := fun h => absurd (h ▸ hx) (by simp)
      rcases hinv.replies d hmem hsome with h | h <;>
        exact absurd (h.symm.trans hp) (by decide)
    have hacts : (s.arrival d).acts = _ :=
      (s.bridge.session.call_step (.linkAp d.payload d.len)).linkAp_acts hend
    have hne : x.conn ≠ connNone := hinv.sys.session.handles _ hconn
    refine ⟨?_, fun hpass => ⟨?_, fun hctl => ⟨?_, ?_, ?_⟩⟩⟩
    · rintro ⟨hok, hp⟩
      rw [Sys.notified, hacts, if_pos ⟨hok, hp ▸ hne⟩, hp]
      rfl
    · intro hctl
      rw [Sys.notified, hacts, if_neg fun hb => hb.2 (hpass hb.1), if_pos hctl]
      rfl
    · rw [Sys.notified, hacts, if_neg fun hb => hb.2 (hpass hb.1), if_neg (not_not.mpr hctl)]
      simp [Action.notified, Downlink.bytes]
    · rw [hinv.sys.agree.registered]
      exact hinv.sys.reached.slots.nodup
    · rw [hinv.sys.agree.registered]
      exact (hinv.tracked x (mem_inFlight.mpr (Or.inr ⟨d, hmem, hx⟩))).slot hepoch hconn

/-- Two centrals: the PING of the first is answered before anybody controls the device, its claim
is granted, and the PING of the controller is answered. -/
theorem reply_routed_two_centrals :
    Along sysStep Sys.Routed (sysBoot al1BleMaxConn)
      [.connEvt 1 true [], .connEvt 2 true [], .write 1 (apPacketBytes apCmdPing []) [],
        .answer (Buffer.ofList 0 (apPacketBytes apCmdOk [])) 4, .deliver,
        .write 1 (apPacketBytes apCmdClaim []) [],
        .answer (Buffer.ofList 0 (apPacketBytes apCmdOk [0, 7])) 6, .deliver,
        .write 1 (apPacketBytes apCmdPing []) [],
        .answer (Buffer.ofList 0 (apPacketBytes apCmdOk [])) 4, .deliver] :=
  reply_routed (by decide +kernel)

/-- While connection 1 controls the device, the reply to a PING of connection 2 is notified to
connection 1 and to nobody else. -/
theorem reply_to_controller : ∃ events, Along sysStep Sys.Allowed (sysBoot al1BleMaxConn) events ∧
    let s := events.foldl sysStep (sysBoot al1BleMaxConn)
    ∃ d ∈ s.down.head?, ∃ x ∈ d.answers, x.conn = 2 ∧ x.epoch = epoch 2 s.hist ∧
      Connected 2 s.hist ∧ x.frame = apPacketBytes apCmdPing [] ∧
      s.notified d = [(1, d.bytes)] :=
  ⟨[.connEvt 1 true [], .connEvt 2 true [], .write 1 (apPacketBytes apCmdClaim []) [],
      .answer (Buffer.ofList 0 (apPacketBytes apCmdOk [0, 7])) 6, .deliver,
      .write 2 (apPacketBytes apCmdPing []) [],
      .answer (Buffer.ofList 0 (apPacketBytes apCmdOk [])) 4],
    by decide +kernel, by decide +kernel⟩

end Al1Wmod
