import Al1Wmod.Ble.Gate
import Al1Wmod.Ble.Boot
import Al1Wmod.Ble.Contiguity
import Al1Wmod.System.Gateway

/-!
# The bridge serves the gateway

The session of the bridge names the controller and the claimant (`Holds`); the two tables hold the
centrals that listen, and the slots their unfinished commands (`Serves`).  Each callback of the
bridge keeps both, and its actions come to what the gateway passes on (`ActsAgree`).
-/

namespace Al1Wmod

open Buffer Transducer Framer

/-! ## What is passed on -/

/-- Data for a connection. -/
def dataFor (conn : UInt16) (d : UInt16 × List UInt8) : Option (List UInt8) :=
  if d.1 = conn then some d.2 else none

/-- The frame an action hands to `al1_link_send`. -/
def Action.sent? : Action → Option (List UInt8)
  | .linkSend _ frame => some frame
  | _ => none

/-- Actions of the bridge that come to what the gateway passes on. -/
structure ActsAgree (conns : List Al1BleConn) (acts : List Action) (passed : List Passed) :
    Prop where
  notified : ∀ conn, (acts.flatMap (Action.notified conns)).filterMap (dataFor conn) =
    passed.filterMap (Passed.for conn)
  sent : acts.filterMap Action.sent? = passed.filterMap Passed.up?
  logs : passed.filterMap Passed.log? = []
  short : ∀ d ∈ acts.flatMap (Action.notified conns), d.2.length ≤ 32768

section Acts

variable {conns : List Al1BleConn} {acts acts' : List Action} {passed passed' : List Passed}

theorem ActsAgree.nil : ActsAgree conns [] [] :=
  ⟨fun _ => rfl, rfl, rfl, fun _ hd => absurd hd List.not_mem_nil⟩

theorem ActsAgree.append (h : ActsAgree conns acts passed) (h' : ActsAgree conns acts' passed') :
    ActsAgree conns (acts ++ acts') (passed ++ passed') where
  notified conn := by
    rw [List.flatMap_append, List.filterMap_append, h.notified, h'.notified, List.filterMap_append]
  sent := by rw [List.filterMap_append, h.sent, h'.sent, List.filterMap_append]
  logs := by rw [List.filterMap_append, h.logs, h'.logs, List.append_nil]
  short d hd := by
    rw [List.flatMap_append, List.mem_append] at hd
    exact hd.elim (h.short d) (h'.short d)

/-- A frame for the STM32. -/
theorem actsAgree_up (channel : UInt8) (frame : List UInt8) :
    ActsAgree conns [.linkSend channel frame] [.up frame] :=
  ⟨fun _ => rfl, rfl, rfl, fun _ hd => absurd hd List.not_mem_nil⟩

/-- A frame for one central. -/
theorem actsAgree_one (conn : UInt16) {data : List UInt8} (h : data.length ≤ 32768) :
    ActsAgree conns [.notifyConn conn data] [.down {conn} data] where
  notified c := by
    simp only [List.flatMap_cons, List.flatMap_nil, List.append_nil, Action.notified,
      List.filterMap_cons, List.filterMap_nil, dataFor, Passed.for, Finset.mem_singleton,
      eq_comm (a := c)]
  sent := rfl
  logs := rfl
  short := List.forall_mem_singleton.mpr h

/-- A frame for nobody. -/
theorem actsAgree_nobody (data : List UInt8) : ActsAgree conns [] [.down ∅ data] :=
  ⟨fun _ => rfl, rfl, rfl, fun _ hd => absurd hd List.not_mem_nil⟩

/-- A refusal. -/
theorem actsAgree_reject (conn : UInt16) :
    ActsAgree conns [.notifyConn conn notControllerPacket] [.reject conn] where
  notified c := by
    rw [notControllerPacket_eq]
    rfl
  sent := rfl
  logs := rfl
  short := List.forall_mem_singleton.mpr <| by
    show notControllerPacket.length ≤ 32768
    rw [notControllerPacket_eq]
    decide

/-- One copy for each connection of a list without repetitions. -/
theorem filterMap_dataFor {l : List UInt16} (h : l.Nodup) (conn : UInt16) (data : List UInt8) :
    (l.map fun c => (c, data)).filterMap (dataFor conn) = if conn ∈ l then [data] else [] := by
  induction l with
  | nil => rfl
  | cons c l ih =>
    obtain ⟨hc, hl⟩ := List.nodup_cons.mp h
    rw [List.map_cons, List.filterMap_cons, ih hl]
    by_cases hconn : c = conn
    · subst hconn
      simp [dataFor, hc]
    · simp [dataFor, hconn, Ne.symm hconn]

/-- A frame for everyone. -/
theorem actsAgree_all {listening : Finset UInt16} (hnodup : (registered conns).Nodup)
    (hmem : ∀ c, c ∈ registered conns ↔ c ∈ listening) {data : List UInt8}
    (h : data.length ≤ 32768) : ActsAgree conns [.notifyAll data] [.down listening data] where
  notified conn := by
    rw [List.flatMap_singleton, Action.notified, filterMap_dataFor hnodup]
    simp only [List.filterMap_cons, List.filterMap_nil, Passed.for, hmem]
    split_ifs <;> rfl
  sent := rfl
  logs := rfl
  short d hd := by
    rw [List.flatMap_singleton, Action.notified] at hd
    obtain ⟨c, -, rfl⟩ := List.mem_map.mp hd
    exact h

end Acts

/-! ## The session -/

/-- The connection that a handle names. -/
def connOf (handle : UInt16) : Option UInt16 := if handle = connNone then none else some handle

theorem connOf_eq_none {handle : UInt16} : connOf handle = none ↔ handle = connNone := by
  rw [connOf]
  split_ifs with h
  · simp [h]
  · simp [h]

theorem connOf_of_ne {handle : UInt16} (h : handle ≠ connNone) : connOf handle = some handle :=
  if_neg h

theorem connOf_eq_some {handle conn : UInt16} (hconn : conn ≠ connNone) :
    connOf handle = some conn ↔ conn = handle := by
  rw [connOf]
  split_ifs with h
  · simp only [false_iff, h]
    exact hconn
  · rw [Option.some.injEq, eq_comm]

/-- The session names the controller and the claimant. -/
structure Holds (s : Session) (g : Gateway) : Prop where
  controller : g.controller = connOf s.controllingConn
  pending : g.pending = connOf s.pendingClaimConn

/-- The rest of the gateway does not matter to the session. -/
theorem Holds.of_eq {s : Session} {g g' : Gateway} (h : Holds s g)
    (hc : g'.controller = g.controller) (hp : g'.pending = g.pending) : Holds s g' :=
  ⟨hc.trans h.controller, hp.trans h.pending⟩

/-- The CMD byte is that of the bytes. -/
theorem apCmd_slice (payload : ℕ → UInt8) (len : UInt16) :
    apCmd (slice payload 0 len.toNat) = apPeek payload len := by
  rw [apCmd, apPeek, List.getD_eq_getElem?_getD]
  split_ifs with h
  · have hdrop := congrArg List.head? (drop_slice payload 0 len.toNat apOffCmd)
    rw [List.head?_drop] at hdrop
    rw [hdrop, Nat.zero_add]
    obtain ⟨n, hn⟩ := Nat.exists_eq_succ_of_ne_zero (Nat.sub_ne_zero_of_lt h)
    rw [hn]
    rfl
  · rw [List.getElem?_eq_none (by rw [length_slice]; exact Nat.not_lt.mp h)]
    rfl

section Session

variable {s : Session} {g : Gateway} {conns : List Al1BleConn}

theorem Holds.isSome_pending (h : Holds s g) :
    g.pending.isSome ↔ s.pendingClaimConn ≠ connNone := by
  rw [h.pending, ← Option.ne_none_iff_isSome, Ne, connOf_eq_none]

/-- **A frame of the STM32** is routed. -/
theorem Holds.route (h : Holds s g) (hnodup : (registered conns).Nodup)
    (hmem : ∀ c, c ∈ registered conns ↔ c ∈ g.listening) (payload : ℕ → UInt8) {len : UInt16}
    (hlen : len.toNat ≤ 32768) :
    let r := al1BleApBridgeOnLinkAp s payload len
    let q := g.route (slice payload 0 len.toNat)
    Holds r.1 q.1 ∧ ActsAgree conns r.2 q.2 := by
  have hshort : (slice payload 0 len.toNat).length ≤ 32768 := (length_slice _ _ _).trans_le hlen
  have hcmd := apCmd_slice payload len
  -- a frame for the controller, if there is one
  have hone : s.controllingConn ≠ connNone → ActsAgree conns
      [.notifyConn s.controllingConn (slice payload 0 len.toNat)]
      [.down g.controller.toFinset (slice payload 0 len.toNat)] := by
    intro hc
    rw [h.controller, connOf_of_ne hc]
    exact actsAgree_one _ hshort
  have hstep := s.call_step (.linkAp payload len)
  intro r q
  show Holds (s.call (.linkAp payload len)).1 (g.route _).1 ∧
    ActsAgree conns (s.call (.linkAp payload len)).2 (g.route _).2
  generalize (s.call (.linkAp payload len)).1 = s' at hstep ⊢
  generalize (s.call (.linkAp payload len)).2 = acts at hstep ⊢
  cases hstep with
  | bind id hok hp =>
    rw [Gateway.route, if_pos ⟨hcmd.trans hok, h.isSome_pending.mpr hp⟩]
    refine ⟨⟨h.pending, rfl⟩, ?_⟩
    rw [h.pending, connOf_of_ne hp]
    exact actsAgree_one _ hshort
  | sessionEnd hend =>
    have hok : ¬ (apCmd (slice payload 0 len.toNat) = apCmdOk ∧ g.pending.isSome) := by
      rw [hcmd, hend]
      exact fun hok => absurd hok.1 (by decide)
    rw [Gateway.route, if_neg hok, if_pos (hcmd.trans hend)]
    refine ⟨⟨rfl, h.pending⟩, ?_⟩
    split_ifs with hc
    · exact hone hc
    · rw [h.controller, connOf_eq_none.mpr (not_not.mp hc)]
      exact actsAgree_nobody _
  | pass hok hend =>
    have hok' : ¬ (apCmd (slice payload 0 len.toNat) = apCmdOk ∧ g.pending.isSome) := by
      rw [hcmd, h.isSome_pending]
      exact fun hb => hb.2 (hok hb.1)
    rw [Gateway.route, if_neg hok', if_neg (hcmd.trans_ne hend), Gateway.audience]
    refine ⟨h, ?_⟩
    split_ifs with hc hs hs
    · exact hone hc
    · rw [h.controller, connOf_of_ne hc] at hs
      exact absurd rfl hs
    · rw [h.controller, connOf_eq_none.mpr (not_not.mp hc)] at hs
      exact absurd hs Bool.false_ne_true
    · exact actsAgree_all hnodup hmem hshort

/-- **A command of a central** is forwarded or refused. -/
theorem Holds.command (h : Holds s g) {conn : UInt16} (hconn : conn ≠ connNone)
    (frame : List UInt8) :
    let r := onApFrame s conn frame
    let q := Gateway.command conn g frame
    Holds r.1 q.1 ∧ ActsAgree conns r.2 q.2 := by
  have hctl : g.controller = some conn ↔ conn = s.controllingConn := by
    rw [h.controller, connOf_eq_some hconn]
  have hstep := s.call_step (.apFrame conn frame)
  intro r q
  show Holds (s.call (.apFrame conn frame)).1 (Gateway.command conn g frame).1 ∧
    ActsAgree conns (s.call (.apFrame conn frame)).2 (Gateway.command conn g frame).2
  generalize (s.call (.apFrame conn frame)).1 = s' at hstep ⊢
  generalize (s.call (.apFrame conn frame)).2 = acts at hstep ⊢
  cases hstep with
  | claim _ hclaim =>
    rw [Gateway.command, if_pos hclaim]
    exact ⟨⟨h.controller, (connOf_of_ne hconn).symm⟩, actsAgree_up _ _⟩
  | release hc hrelease =>
    have hclaim : apCmd frame ≠ apCmdClaim := by rw [hrelease]; decide
    rw [Gateway.command, if_neg hclaim, if_pos (hctl.mpr hc), if_pos hrelease]
    exact ⟨⟨rfl, h.pending⟩, actsAgree_up _ _⟩
  | forward hclaim hrelease hgate =>
    rw [Gateway.command, if_neg hclaim]
    by_cases hc : conn = s.controllingConn
    · rw [if_pos (hctl.mpr hc), if_neg (hrelease hc)]
      exact ⟨h, actsAgree_up _ _⟩
    · rw [if_neg (hctl.not.mpr hc), if_neg (by rw [hgate hc]; exact Bool.false_ne_true)]
      exact ⟨h, actsAgree_up _ _⟩
  | reject hc hcmd =>
    have hclaim : apCmd frame ≠ apCmdClaim := by
      intro hclaim
      rw [hclaim, apCmdRequiresClaim_claim] at hcmd
      exact Bool.false_ne_true hcmd
    rw [Gateway.command, if_neg hclaim, if_neg (hctl.not.mpr hc), if_pos hcmd]
    exact ⟨h, actsAgree_reject _⟩

/-- Commands one after another. -/
theorem Holds.commands (h : Holds s g) {conn : UInt16} (hconn : conn ≠ connNone)
    (frames : List (List UInt8)) :
    let r := run Session.record s (frames.map (.apFrame conn))
    let q := run (Gateway.command conn) g frames
    Holds r.1 q.1 ∧ ActsAgree conns (r.2.flatMap Entry.acts) q.2 := by
  induction frames generalizing s g with
  | nil => exact ⟨h, .nil⟩
  | cons f frames ih =>
    obtain ⟨hone, hacts⟩ := @Holds.command _ _ conns h _ hconn f
    obtain ⟨hrest, hacts'⟩ := ih hone
    refine ⟨hrest, ?_⟩
    have happend := hacts.append hacts'
    rw [List.map_cons, run_cons, run_cons, List.flatMap_append]
    show ActsAgree conns ([s.entry (.apFrame conn f)].flatMap Entry.acts ++ _) _
    rw [List.flatMap_singleton]
    exact happend

/-- **A central that is gone** gives up its claim, and its control with a RELEASE. -/
theorem Holds.leave (h : Holds s g) {conn : UInt16} (hconn : conn ≠ connNone) :
    Holds (dropSession s conn).1 (g.leave conn) ∧
      ActsAgree conns (dropSession s conn).2
        (if g.controller = some conn then [.up (apPacketBytes apCmdRelease [])] else []) := by
  have hctl : g.controller = some conn ↔ conn = s.controllingConn := by
    rw [h.controller, connOf_eq_some hconn]
  have hpend : g.pending = some conn ↔ conn = s.pendingClaimConn := by
    rw [h.pending, connOf_eq_some hconn]
  have hstep := s.call_step (.connEvt conn false)
  show Holds (s.call (.connEvt conn false)).1 _ ∧
    ActsAgree conns (s.call (.connEvt conn false)).2 _
  generalize (s.call (.connEvt conn false)).1 = s' at hstep ⊢
  generalize (s.call (.connEvt conn false)).2 = acts at hstep ⊢
  have hpending : (g.leave conn).pending =
      connOf (if conn = s.pendingClaimConn then connNone else s.pendingClaimConn) := by
    show (if g.pending = some conn then none else g.pending) = _
    by_cases hp : conn = s.pendingClaimConn
    · rw [if_pos (hpend.mpr hp), if_pos hp]
      rfl
    · rw [if_neg (hpend.not.mpr hp), if_neg hp, h.pending]
  cases hstep with
  | leave hc =>
    rw [if_neg (hctl.not.mpr hc)]
    refine ⟨⟨?_, hpending⟩, .nil⟩
    show (if g.controller = some conn then none else g.controller) = _
    rw [if_neg (hctl.not.mpr hc), h.controller]
  | drop hc =>
    rw [if_pos (hctl.mpr hc), releasePacket_eq]
    refine ⟨⟨?_, hpending⟩, actsAgree_up _ _⟩
    show (if g.controller = some conn then none else g.controller) = _
    rw [if_pos (hctl.mpr hc)]
    rfl

end Session

/-! ## The tables -/

/-- A slot and the stream of its central. -/
def InSlot : Option BridgeSlot → Option (List UInt8) → Prop
  | none, none => True
  | some slot, some acc => slot.reasm.cb = true ∧ ReasmRepresents slot.reasm acc
  | _, _ => False

/-- The registry holds the centrals that listen, the slots hold the streams, and the session names
the controller and the claimant.  Before the bridge is there, there is no slot and no session. -/
structure Serves (maxConn : ℕ) (b : Boot) (g : Gateway) : Prop where
  conns_length : b.conns.length = maxConn
  slots_length : b.bridge.slots.length = maxConn
  registered_nodup : (registered b.conns).Nodup
  mem_registered : ∀ c, c ∈ registered b.conns ↔ c ∈ g.listening
  handles_nodup : b.bridge.handles.Nodup
  listens : ∀ c ∈ b.bridge.handles, c ∈ g.listening
  inSlot : ∀ c, InSlot (slotFind b.bridge.slots c) (g.streams c)
  session : Holds b.bridge.session g
  named : connNone ∉ g.listening
  early : b.pc = .start ∨ b.pc = .hostUp → b.connCb = false
  unset : b.connCb = false → b.bridge.handles = [] ∧ g.controller = none ∧ g.pending = none

section Tables

variable {maxConn : ℕ} {b : Boot} {g : Gateway} {conn : UInt16}

theorem serves_boot (maxConn : ℕ) : Serves maxConn (Boot.init maxConn) Gateway.init where
  conns_length := List.length_replicate
  slots_length := List.length_replicate
  registered_nodup := registered_boot maxConn ▸ List.nodup_nil
  mem_registered c := by
    rw [show registered (Boot.init maxConn).conns = [] from registered_boot maxConn]
    simp [Gateway.init]
  handles_nodup := bridgeBoot_handles maxConn ▸ List.nodup_nil
  listens c hc := by
    rw [show (Boot.init maxConn).bridge.handles = [] from bridgeBoot_handles maxConn] at hc
    exact absurd hc List.not_mem_nil
  inSlot c := by
    have hnone : slotFind (Boot.init maxConn).bridge.slots c = none :=
      FirstFit.find?_eq_none_iff.mpr <| by
        rw [show FirstFit.keys _ _ (Boot.init maxConn).bridge.slots = [] from
          bridgeBoot_handles maxConn]
        exact List.not_mem_nil
    rw [hnone]
    trivial
  session := ⟨rfl, rfl⟩
  named := Finset.notMem_empty _
  early _ := rfl
  unset _ := ⟨bridgeBoot_handles maxConn, rfl, rfl⟩

/-- A central that listens has a handle that names it. -/
theorem Serves.ne_connNone (h : Serves maxConn b g) (hc : conn ∈ g.listening) : conn ≠ connNone :=
  fun heq => h.named (heq ▸ hc)

theorem Serves.length_registered (h : Serves maxConn b g) :
    (registered b.conns).length = g.listening.card := by
  have hset : (registered b.conns).toFinset = g.listening := by
    ext c
    rw [List.mem_toFinset, h.mem_registered]
  rw [← hset, List.toFinset_card_of_nodup h.registered_nodup]

theorem Serves.length_handles_le (h : Serves maxConn b g) :
    b.bridge.handles.length ≤ g.listening.card := by
  rw [← List.toFinset_card_of_nodup h.handles_nodup]
  exact Finset.card_le_card fun c hc => h.listens c (List.mem_toFinset.mp hc)

/-- The registry takes a new central in. -/
theorem Serves.registered_connect (h : Serves maxConn b g) (hlt : g.listening.card < maxConn) :
    (registered (connAdd conn b.conns)).Perm (conn :: registered b.conns) := by
  refine FirstFit.keys_put_of_length_lt (fun _ => ⟨rfl, rfl⟩) ?_
  show (registered b.conns).length < _
  rw [h.length_registered, h.conns_length]
  exact hlt

/-- A slot is free for a new central. -/
theorem Serves.handles_connect (h : Serves maxConn b g) (hlt : g.listening.card < maxConn) :
    (onConnEvt b.bridge conn true).1.handles.Perm (conn :: b.bridge.handles) :=
  FirstFit.keys_put_of_length_lt (f := BridgeSlot.open conn) (fun _ => ⟨rfl, rfl⟩)
    (h.length_handles_le.trans_lt (hlt.trans_eq h.slots_length.symm))

/-- **A connect before the bridge is there.** -/
theorem Serves.listen (h : Serves maxConn b g) (hcb : b.connCb = false)
    (hconn : conn ≠ connNone) (hnew : conn ∉ g.listening) (hlt : g.listening.card < maxConn) :
    Serves maxConn (al1BleGapEvent b conn true)
      { g with listening := insert conn g.listening } := by
  have hbridge : (al1BleGapEvent b conn true).bridge = b.bridge := gapEvent_bridge_of_unset hcb
  have hperm := @Serves.registered_connect _ _ _ conn h hlt
  refine
    { conns_length := (FirstFit.length_put _ _).trans h.conns_length
      slots_length := gapEvent_slots_length.trans h.slots_length
      registered_nodup := hperm.nodup_iff.mpr
        (List.nodup_cons.mpr ⟨(h.mem_registered conn).not.mpr hnew, h.registered_nodup⟩)
      mem_registered := fun c => ?_
      handles_nodup := hbridge ▸ h.handles_nodup
      listens := fun c hc => Finset.mem_insert_of_mem (h.listens c (hbridge ▸ hc))
      inSlot := fun c => hbridge ▸ h.inSlot c
      session := (hbridge ▸ h.session).of_eq rfl rfl
      named := ?_
      early := h.early
      unset := fun hun => hbridge ▸ h.unset hun }
  · show c ∈ registered (connAdd conn b.conns) ↔ _
    rw [hperm.mem_iff, List.mem_cons, h.mem_registered, Finset.mem_insert]
  · rw [Finset.mem_insert, not_or]
    exact ⟨hconn.symm, h.named⟩

/-- **A connect.** -/
theorem Serves.connect (h : Serves maxConn b g) (hcb : b.connCb = true)
    (hconn : conn ≠ connNone) (hnew : conn ∉ g.listening) (hlt : g.listening.card < maxConn) :
    Serves maxConn (al1BleGapEvent b conn true)
      { g with
        listening := insert conn g.listening
        streams := Function.update g.streams conn (some []) } := by
  have hbridge : (al1BleGapEvent b conn true).bridge = (onConnEvt b.bridge conn true).1 :=
    gapEvent_bridge_of_set hcb
  have hperm := @Serves.registered_connect _ _ _ conn h hlt
  have hslots := @Serves.handles_connect _ _ _ conn h hlt
  have hfree : conn ∉ b.bridge.handles := fun hc => hnew (h.listens conn hc)
  refine
    { conns_length := (FirstFit.length_put _ _).trans h.conns_length
      slots_length := gapEvent_slots_length.trans h.slots_length
      registered_nodup := hperm.nodup_iff.mpr
        (List.nodup_cons.mpr ⟨(h.mem_registered conn).not.mpr hnew, h.registered_nodup⟩)
      mem_registered := fun c => ?_
      handles_nodup := ?_
      listens := fun c hc => ?_
      inSlot := fun c => ?_
      session := ?_
      named := ?_
      early := h.early
      unset := fun hun => absurd (hcb.symm.trans hun) Bool.noConfusion }
  · show c ∈ registered (connAdd conn b.conns) ↔ _
    rw [hperm.mem_iff, List.mem_cons, h.mem_registered, Finset.mem_insert]
  · rw [hbridge, hslots.nodup_iff]
    exact List.nodup_cons.mpr ⟨hfree, h.handles_nodup⟩
  · rw [hbridge, hslots.mem_iff, List.mem_cons] at hc
    rw [Finset.mem_insert]
    exact hc.imp_right (h.listens c)
  · rw [hbridge]
    by_cases hc : c = conn
    · subst hc
      obtain ⟨slot, -, hfind⟩ := FirstFit.find?_put_self (f := BridgeSlot.open c)
        (fun _ => ⟨rfl, rfl⟩) hfree (hslots.mem_iff.mpr List.mem_cons_self)
      have hfind' : slotFind (onConnEvt b.bridge c true).1.slots c = some (slot.open c) := hfind
      show InSlot (slotFind (onConnEvt b.bridge c true).1.slots c)
        (Function.update g.streams c (some []) c)
      rw [hfind', Function.update_self]
      exact ⟨rfl, rfl⟩
    · have hfind : slotFind (onConnEvt b.bridge conn true).1.slots c = slotFind b.bridge.slots c :=
        FirstFit.find?_put_of_ne (f := BridgeSlot.open conn) (fun _ => rfl) hc b.bridge.slots
      show InSlot (slotFind (onConnEvt b.bridge conn true).1.slots c)
        (Function.update g.streams conn (some []) c)
      rw [hfind, Function.update_of_ne hc]
      exact h.inSlot c
  · rw [hbridge]
    exact h.session.of_eq rfl rfl
  · rw [Finset.mem_insert, not_or]
    exact ⟨hconn.symm, h.named⟩

/-- A change of the session alone. -/
theorem Serves.rebind (h : Serves maxConn b g) {s' : Session} {g' : Gateway}
    (hl : g'.listening = g.listening) (hs : g'.streams = g.streams) (hsession : Holds s' g')
    (hunset : b.connCb = false → g'.controller = none ∧ g'.pending = none) :
    Serves maxConn { b with bridge := { b.bridge with session := s' } } g' where
  conns_length := h.conns_length
  slots_length := h.slots_length
  registered_nodup := h.registered_nodup
  mem_registered c := hl ▸ h.mem_registered c
  handles_nodup := h.handles_nodup
  listens c hc := hl ▸ h.listens c hc
  inSlot c := hs ▸ h.inSlot c
  session := hsession
  named := hl ▸ h.named
  early := h.early
  unset hun := ⟨(h.unset hun).1, hunset hun⟩

/-- **A frame of the STM32.** -/
theorem Serves.route (h : Serves maxConn b g) (payload : ℕ → UInt8) {len : UInt16}
    (hlen : len.toNat ≤ 32768) :
    Serves maxConn (bootStep b (.linkAp payload len)) (g.route (slice payload 0 len.toNat)).1 ∧
      ActsAgree b.conns (al1BleApBridgeOnLinkAp b.bridge.session payload len).2
        (g.route (slice payload 0 len.toNat)).2 := by
  obtain ⟨hsession, hacts⟩ := h.session.route h.registered_nodup h.mem_registered payload hlen
  refine ⟨h.rebind ?_ ?_ hsession ?_, hacts⟩
  · unfold Gateway.route
    split_ifs <;> rfl
  · unfold Gateway.route
    split_ifs <;> rfl
  · intro hun
    obtain ⟨-, hc, hp⟩ := h.unset hun
    unfold Gateway.route
    split_ifs with hok hend
    · rw [hp] at hok
      exact absurd hok.2 Bool.false_ne_true
    · exact ⟨rfl, hp⟩
    · exact ⟨hc, hp⟩

/-- Commands move the session alone. -/
theorem Gateway.run_command_tables (conn : UInt16) (g : Gateway) (frames : List (List UInt8)) :
    (run (Gateway.command conn) g frames).1.listening = g.listening ∧
      (run (Gateway.command conn) g frames).1.streams = g.streams := by
  induction frames generalizing g with
  | nil => exact ⟨rfl, rfl⟩
  | cons f frames ih =>
    have hone : (Gateway.command conn g f).1.listening = g.listening ∧
        (Gateway.command conn g f).1.streams = g.streams := by
      unfold Gateway.command
      split_ifs <;> exact ⟨rfl, rfl⟩
    rw [run_cons]
    exact ⟨(ih _).1.trans hone.1, (ih _).2.trans hone.2⟩

/-- A write of a central that is served. -/
theorem Gateway.step_write {maxPayload : ℕ} {acc : List UInt8} (h : g.streams conn = some acc)
    (data : List UInt8) :
    g.step maxPayload (.write conn data) =
      run (Gateway.command conn)
        { g with streams :=
            Function.update g.streams conn (some (run (Framer.step apVerdict) acc data).1) }
        ((run (Framer.step apVerdict) acc data).2.filterMap ApUnit.frame?) := by
  simp only [Gateway.step, h]

/-- A write of a central with a slot, whose reassembler stands where the framing does. -/
theorem onBleWrite_slot {b : Bridge} {slot : BridgeSlot} {acc data : List UInt8}
    (hfind : slotFind b.slots conn = some slot) (hcb : slot.reasm.cb = true)
    (hrep : ReasmRepresents slot.reasm acc) :
    let t := run Session.record b.session
      (((run (Framer.step apVerdict) acc data).2.filterMap ApUnit.frame?).map (.apFrame conn))
    onBleWrite b conn data =
      ({ slots := slotUpdate b.slots conn
           fun s => { s with reasm := (apReasmFeed slot.reasm data).1 }
         session := t.1 }, b.session.entry (.bleWrite conn data) :: t.2) := by
  have hcalls := (apReasmFeed_framing hrep data).calls
  rw [hcb, if_pos rfl] at hcalls
  have hmap : (apReasmFeed slot.reasm data).2.map (fun c => Call.apFrame slot.handle c.bytes) =
      ((run (Framer.step apVerdict) acc data).2.filterMap ApUnit.frame?).map (.apFrame conn) := by
    rw [← hcalls, List.map_map, (slotFind_handle hfind).2.2]
    rfl
  simp only [onBleWrite, hfind, hmap]

/-- The slots after a write, and the streams. -/
theorem inSlot_write {slots : List BridgeSlot} {streams : UInt16 → Option (List UInt8)}
    (h : ∀ c, InSlot (slotFind slots c) (streams c)) {slot : BridgeSlot} {r : ApReasm}
    {acc : List UInt8} (hfind : slotFind slots conn = some slot) (hcb : r.cb = true)
    (hrep : ReasmRepresents r acc) (c : UInt16) :
    InSlot (slotFind (slotUpdate slots conn fun s => { s with reasm := r }) c)
      (Function.update streams conn (some acc) c) := by
  by_cases hc : c = conn
  · have hself := @FirstFit.find?_update_self _ _ BridgeSlot.inUse BridgeSlot.handle _ c
      (fun s : BridgeSlot => { s with reasm := r }) (fun _ => ⟨rfl, rfl⟩) slots
    have hfound : slotFind (slotUpdate slots c fun s => { s with reasm := r }) c =
        some { slot with reasm := r } := hself.trans (congrArg _ (hc ▸ hfind))
    rw [hc] at hfound ⊢
    rw [hfound, Function.update_self]
    exact ⟨hcb, hrep⟩
  · have hother : slotFind (slotUpdate slots conn fun s => { s with reasm := r }) c =
        slotFind slots c :=
      FirstFit.find?_update_of_ne (f := fun s : BridgeSlot => { s with reasm := r })
        (fun _ => rfl) hc slots
    rw [hother, Function.update_of_ne hc]
    exact h c

theorem mem_handles_of_slotFind {b : Bridge} {slot : BridgeSlot}
    (h : slotFind b.slots conn = some slot) : conn ∈ b.handles := by
  obtain ⟨hmem, hused, rfl⟩ := slotFind_handle h
  exact mem_handles hmem hused

/-- A central has a slot where it has a stream. -/
theorem Serves.slot_cases (h : Serves maxConn b g) (conn : UInt16) :
    (slotFind b.bridge.slots conn = none ∧ g.streams conn = none) ∨
      ∃ slot acc, slotFind b.bridge.slots conn = some slot ∧ g.streams conn = some acc ∧
        slot.reasm.cb = true ∧ ReasmRepresents slot.reasm acc := by
  have hslot := h.inSlot conn
  cases hfind : slotFind b.bridge.slots conn with
  | none =>
    cases hstream : g.streams conn with
    | none => exact .inl ⟨rfl, rfl⟩
    | some acc =>
      rw [hfind, hstream] at hslot
      exact absurd hslot id
  | some slot =>
    cases hstream : g.streams conn with
    | none =>
      rw [hfind, hstream] at hslot
      exact absurd hslot id
    | some acc =>
      rw [hfind, hstream] at hslot
      exact .inr ⟨slot, acc, rfl, rfl, hslot⟩

/-- The bridge when the stream of one slot has moved on. -/
theorem Serves.feed (h : Serves maxConn b g) {slot : BridgeSlot} {r : ApReasm}
    {acc : List UInt8} {session : Session} {g' : Gateway}
    (hfind : slotFind b.bridge.slots conn = some slot) (hcb : r.cb = true)
    (hrep : ReasmRepresents r acc) (hlisten : g'.listening = g.listening)
    (hstreams : g'.streams = Function.update g.streams conn (some acc))
    (hsession : Holds session g') :
    Serves maxConn { b with bridge :=
      { slots := slotUpdate b.bridge.slots conn fun s => { s with reasm := r }
        session := session } } g' := by
  have hkeys : (⟨slotUpdate b.bridge.slots conn fun s => { s with reasm := r }, session⟩ :
      Bridge).handles = b.bridge.handles :=
    FirstFit.keys_eq_of_map_eq (map_slotUpdate_reasm b.bridge.slots conn _)
  refine
    { conns_length := h.conns_length
      slots_length := (FirstFit.length_update _ _ _).trans h.slots_length
      registered_nodup := h.registered_nodup
      mem_registered := fun c => ?_
      handles_nodup := hkeys ▸ h.handles_nodup
      listens := fun c hc => ?_
      inSlot := fun c => ?_
      session := hsession
      named := ?_
      early := h.early
      unset := fun hun => ?_ }
  · rw [hlisten]
    exact h.mem_registered c
  · rw [hlisten]
    exact h.listens c (hkeys ▸ hc)
  · rw [hstreams]
    exact inSlot_write h.inSlot hfind hcb hrep c
  · rw [hlisten]
    exact h.named
  · have hin := mem_handles_of_slotFind hfind
    rw [(h.unset hun).1] at hin
    exact absurd hin List.not_mem_nil

/-- **A write** is fed to the stream of its central, if it has one. -/
theorem Serves.write (h : Serves maxConn b g) (maxPayload : ℕ) (conn : UInt16)
    (data : List UInt8) :
    Serves maxConn { b with bridge := (onBleWrite b.bridge conn data).1 }
        (g.step maxPayload (.write conn data)).1 ∧
      ActsAgree b.conns ((onBleWrite b.bridge conn data).2.flatMap Entry.acts)
        (g.step maxPayload (.write conn data)).2 := by
  rcases h.slot_cases conn with ⟨hfind, hstream⟩ | ⟨slot, acc, hfind, hstream, hcb, hrep⟩
  · simp only [onBleWrite, hfind, Gateway.step, hstream]
    exact ⟨h, .nil⟩
  · have hconn : conn ≠ connNone := h.ne_connNone (h.listens conn (mem_handles_of_slotFind hfind))
    have hfeed := apReasmFeed_framing hrep data
    have hwrite := @onBleWrite_slot conn b.bridge slot acc data hfind hcb hrep
    rw [Gateway.step_write hstream]
    generalize run (Framer.step apVerdict) acc data = r at hfeed hwrite ⊢
    have hheld : Holds b.bridge.session
        { g with streams := Function.update g.streams conn (some r.1) } :=
      h.session.of_eq rfl rfl
    obtain ⟨hsession, hacts⟩ :=
      @Holds.commands _ _ b.conns hheld _ hconn (r.2.filterMap ApUnit.frame?)
    obtain ⟨hlisten, hstreams⟩ := Gateway.run_command_tables conn
      { g with streams := Function.update g.streams conn (some r.1) }
      (r.2.filterMap ApUnit.frame?)
    simp only at hwrite
    rw [hwrite]
    exact ⟨h.feed hfind (hfeed.cb.trans hcb) hfeed.represents hlisten hstreams hsession, hacts⟩

/-- The registry after a disconnect. -/
theorem Serves.registry_disconnect (h : Serves maxConn b g) :
    (registered (al1BleGapEvent b conn false).conns).Nodup ∧
      (∀ c, c ∈ registered (al1BleGapEvent b conn false).conns ↔ c ∈ (g.leave conn).listening) ∧
      connNone ∉ (g.leave conn).listening := by
  have hregistered : registered (al1BleGapEvent b conn false).conns =
      (registered b.conns).erase conn :=
    FirstFit.keys_release conn (fun _ => Bool.false_ne_true) _
  refine ⟨hregistered ▸ h.registered_nodup.erase conn, fun c => ?_, fun hc =>
    h.named (Finset.mem_of_mem_erase hc)⟩
  rw [hregistered, h.registered_nodup.mem_erase_iff, h.mem_registered]
  exact Finset.mem_erase.symm

/-- The slots after a disconnect, and the streams. -/
theorem inSlot_leave {slots slots' : List BridgeSlot} {streams : UInt16 → Option (List UInt8)}
    (h : ∀ c, InSlot (slotFind slots c) (streams c)) (hgone : slotFind slots' conn = none)
    (hother : ∀ c, c ≠ conn → slotFind slots' c = slotFind slots c) (c : UInt16) :
    InSlot (slotFind slots' c) (Function.update streams conn none c) := by
  by_cases hc : c = conn
  · rw [hc, hgone, Function.update_self]
    trivial
  · rw [hother c hc, Function.update_of_ne hc]
    exact h c

/-- A disconnect that the bridge does not hear of. -/
theorem Serves.depart (h : Serves maxConn b g) (hcb : b.connCb = false) :
    Serves maxConn (al1BleGapEvent b conn false) (g.leave conn) := by
  obtain ⟨hnodup, hmem, hnamed⟩ := @Serves.registry_disconnect _ _ _ conn h
  obtain ⟨hnil, hc, hp⟩ := h.unset hcb
  have hbridge : (al1BleGapEvent b conn false).bridge = b.bridge := gapEvent_bridge_of_unset hcb
  have hnone : slotFind b.bridge.slots conn = none :=
    FirstFit.find?_eq_none_iff.mpr (List.eq_nil_iff_forall_not_mem.mp hnil conn)
  have hleave : (g.leave conn).controller = none ∧ (g.leave conn).pending = none := by
    rw [Gateway.leave]
    simp [hc, hp]
  refine
    { conns_length := (FirstFit.length_update _ _ _).trans h.conns_length
      slots_length := gapEvent_slots_length.trans h.slots_length
      registered_nodup := hnodup
      mem_registered := hmem
      handles_nodup := hbridge ▸ h.handles_nodup
      listens := fun c hin => ?_
      inSlot := hbridge ▸ inSlot_leave h.inSlot hnone fun _ _ => rfl
      session := ?_
      named := hnamed
      early := h.early
      unset := fun _ => ⟨hbridge ▸ hnil, hleave⟩ }
  · rw [hbridge, hnil] at hin
    exact absurd hin List.not_mem_nil
  · rw [hbridge]
    exact h.session.of_eq (hleave.1.trans hc.symm) (hleave.2.trans hp.symm)

/-- A disconnect that the bridge hears of. -/
theorem Serves.leave (h : Serves maxConn b g) (hcb : b.connCb = true)
    (hsession : Holds (onConnEvt b.bridge conn false).1.session (g.leave conn)) :
    Serves maxConn (al1BleGapEvent b conn false) (g.leave conn) := by
  obtain ⟨hnodup, hmem, hnamed⟩ := @Serves.registry_disconnect _ _ _ conn h
  have hbridge : (al1BleGapEvent b conn false).bridge = (onConnEvt b.bridge conn false).1 :=
    gapEvent_bridge_of_set hcb
  have hhandles : ∀ c, c ∈ (onConnEvt b.bridge conn false).1.handles ↔
      c ∈ b.bridge.handles ∧ c ≠ conn := fun c => mem_handles_disconnect h.handles_nodup
  have hgone : slotFind (onConnEvt b.bridge conn false).1.slots conn = none :=
    FirstFit.find?_eq_none_iff.mpr fun hin => ((hhandles conn).mp hin).2 rfl
  have hother : ∀ c, c ≠ conn →
      slotFind (onConnEvt b.bridge conn false).1.slots c = slotFind b.bridge.slots c := fun c hc =>
    FirstFit.find?_update_of_ne (f := BridgeSlot.free) (fun _ => rfl) hc b.bridge.slots
  refine
    { conns_length := (FirstFit.length_update _ _ _).trans h.conns_length
      slots_length := gapEvent_slots_length.trans h.slots_length
      registered_nodup := hnodup
      mem_registered := hmem
      handles_nodup := ?_
      listens := fun c hc => ?_
      inSlot := hbridge ▸ inSlot_leave h.inSlot hgone hother
      session := hbridge ▸ hsession
      named := hnamed
      early := h.early
      unset := fun hun => absurd (hcb.symm.trans hun) Bool.noConfusion }
  · rw [hbridge]
    exact FirstFit.nodup_keys_release (f := BridgeSlot.free) (fun _ => Bool.false_ne_true)
      h.handles_nodup
  · rw [hbridge, hhandles] at hc
    exact Finset.mem_erase.mpr ⟨hc.2, h.listens c hc.1⟩

/-- **A disconnect.** -/
theorem Serves.disconnect (h : Serves maxConn b g) (hconn : conn ≠ connNone) :
    Serves maxConn (al1BleGapEvent b conn false) (g.leave conn) ∧
      ActsAgree (al1BleGapEvent b conn false).conns
        (if b.connCb then (onConnEvt b.bridge conn false).2.flatMap Entry.acts else [])
        (if g.controller = some conn then [.up (apPacketBytes apCmdRelease [])] else []) := by
  cases hcb : b.connCb with
  | false =>
    refine ⟨h.depart hcb, ?_⟩
    rw [(h.unset hcb).2.1]
    exact .nil
  | true =>
    obtain ⟨hsession, hacts⟩ :=
      @Holds.leave _ _ (al1BleGapEvent b conn false).conns h.session _ hconn
    refine ⟨h.leave hcb hsession, ?_⟩
    rw [if_pos rfl, show (onConnEvt b.bridge conn false).2.flatMap Entry.acts =
      (dropSession b.bridge.session conn).2 from List.flatMap_singleton ..]
    exact hacts

end Tables

end Al1Wmod
