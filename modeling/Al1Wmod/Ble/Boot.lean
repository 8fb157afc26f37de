import Al1Wmod.Ble.Registry
import Mathlib.Data.List.Count
import Mathlib.Data.List.Nodup

/-!
# Boot

`app_main` starts the NimBLE host, and only then initialises the bridge, which registers its two
callbacks one after the other.  From the first of these steps on the host task runs, and a central
may connect or disconnect between any two of them.

`al1_ble.c` enters every central into `s_conns`; the bridge gives a slot to those that connect
after `on_conn_evt` has been registered.  So the connected centrals are, at all times, those of
`s_conns`, and they are those with a slot together with the early ones (`BootInv`).  The two tables
agree exactly while no early central is connected.
-/

namespace Al1Wmod

open Machine

/-- Where `app_main` stands in its BLE part. -/
inductive AppMain where
  | start
  | hostUp
  | sessionReset
  | connCbSet
  | ready
  | failed
  deriving DecidableEq, Repr

/-- The static variables of `al1_ble.c` and of the bridge.  Of a callback it matters whether it is
NULL. -/
structure Boot where
  pc : AppMain
  connCb : Bool
  rxCb : Bool
  conns : List Al1BleConn
  bridge : Bridge

/-- The static variables as they are initialised, and `app_main` about to call `al1_ble_start`. -/
def Boot.init (maxConn : ℕ) : Boot :=
  { pc := .start, connCb := false, rxCb := false, conns := connsBoot maxConn
    bridge := bridgeBoot maxConn }

/-- The steps of `app_main`, and what the host task and the link task call. -/
inductive BootEvent where
  | bleStart (ok : Bool)
  | resetSession
  | setConnEvtCb
  | setRxCb
  | connect (handle : UInt16)
  | disconnect (handle : UInt16)
  | write (handle : UInt16) (data : List UInt8)
  | linkAp (payload : ℕ → UInt8) (len : UInt16)

/-- `al1_ble_gap_event`, for a connect that succeeded and for a disconnect.  Only the host task
changes `s_conns`, so of the steps of `app_main` it matters which were taken when `s_conn_cb` is
read. -/
def al1BleGapEvent (s : Boot) (handle : UInt16) (connected : Bool) : Boot :=
  { s with
    conns := if connected then connAdd handle s.conns else connRemove handle s.conns
    bridge := if s.connCb then (onConnEvt s.bridge handle connected).1 else s.bridge }

/-- `al1_ble_dispatch_write`. -/
def al1BleDispatchWrite (s : Boot) (handle : UInt16) (data : List UInt8) : Boot :=
  { s with bridge := if s.rxCb then (onBleWrite s.bridge handle data).1 else s.bridge }

/-- One step.  The last three steps of `app_main` are those of `al1_ble_ap_bridge_init`. -/
def bootStep (s : Boot) : BootEvent → Boot
  | .bleStart ok => { s with pc := if ok then .hostUp else .failed }
  | .resetSession => { s with pc := .sessionReset, bridge := al1BleApBridgeInit s.bridge }
  | .setConnEvtCb => { s with pc := .connCbSet, connCb := true }
  | .setRxCb => { s with pc := .ready, rxCb := true }
  | .connect handle => al1BleGapEvent s handle true
  | .disconnect handle => al1BleGapEvent s handle false
  | .write handle data => al1BleDispatchWrite s handle data
  | .linkAp payload len =>
    { s with
      bridge :=
        { s.bridge with session := (al1BleApBridgeOnLinkAp s.bridge.session payload len).1 } }

/-! ## What has happened -/

/-- The centrals that are connected. -/
def connectedHandles : List BootEvent → List UInt16
  | [] => []
  | .connect handle :: past => handle :: connectedHandles past
  | .disconnect handle :: past => (connectedHandles past).erase handle
  | _ :: past => connectedHandles past

/-- `on_conn_evt` has been registered. -/
def connEvtCbSet : List BootEvent → Bool
  | [] => false
  | .setConnEvtCb :: _ => true
  | _ :: past => connEvtCbSet past

/-- The centrals that connected before `on_conn_evt` was registered and have stayed connected. -/
def earlyHandles : List BootEvent → List UInt16
  | [] => []
  | .connect handle :: past =>
    if connEvtCbSet past then earlyHandles past else handle :: earlyHandles past
  | .disconnect handle :: past => (earlyHandles past).erase handle
  | _ :: past => earlyHandles past

/-- What may come next.  `app_main` takes its steps in order; the host task runs once it has been
started, and NimBLE reports a handle connected only while it is not, and at most `maxConn` of them
at once. -/
def BootAdmissible (maxConn : ℕ) (s : Boot) (hist : List BootEvent) : BootEvent → Prop
  | .bleStart _ => s.pc = .start
  | .resetSession => s.pc = .hostUp
  | .setConnEvtCb => s.pc = .sessionReset
  | .setRxCb => s.pc = .connCbSet
  | .connect handle =>
    (s.pc ≠ .start ∧ s.pc ≠ .failed) ∧ handle ∉ connectedHandles hist ∧
      (connectedHandles hist).length < maxConn
  | .disconnect _ | .write _ _ => s.pc ≠ .start ∧ s.pc ≠ .failed
  | .linkAp _ _ => True

instance (maxConn : ℕ) (s : Boot) (hist : List BootEvent) :
    ∀ e, Decidable (BootAdmissible maxConn s hist e)
  | .bleStart _ | .resetSession | .setConnEvtCb | .setRxCb =>
    inferInstanceAs (Decidable (_ = _))
  | .connect _ | .disconnect _ | .write _ _ => inferInstanceAs (Decidable (_ ∧ _))
  | .linkAp _ _ => inferInstanceAs (Decidable True)

/-- A state of the boot, and the steps that led to it, the newest first. -/
inductive Booted (maxConn : ℕ) : Boot → List BootEvent → Prop where
  | init : Booted maxConn (Boot.init maxConn) []
  | step {s : Boot} {hist : List BootEvent} {e : BootEvent} :
      Booted maxConn s hist → BootAdmissible maxConn s hist e →
      Booted maxConn (bootStep s e) (e :: hist)

/-- The state and its history after one more step. -/
def bootNext (st : Boot × List BootEvent) (e : BootEvent) : Boot × List BootEvent :=
  (bootStep st.1 e, e :: st.2)

/-- The state and its history after a list of steps. -/
def bootRun (maxConn : ℕ) (events : List BootEvent) : Boot × List BootEvent :=
  events.foldl bootNext (Boot.init maxConn, [])

/-- **A list of steps is a boot.** -/
theorem booted_bootRun {maxConn : ℕ} {events : List BootEvent}
    (hadm : Along bootNext (fun st e => BootAdmissible maxConn st.1 st.2 e)
      (Boot.init maxConn, []) events) :
    Booted maxConn (bootRun maxConn events).1 (bootRun maxConn events).2 :=
  hadm.invariant (R := fun st : Boot × List BootEvent => Booted maxConn st.1 st.2)
    (fun _ _ h he => h.step he) .init

/-! ## The two tables -/

/-- What the tables hold at any time. -/
structure BootInv (maxConn : ℕ) (s : Boot) (hist : List BootEvent) : Prop where
  nodup : (connectedHandles hist).Nodup
  conns_length : s.conns.length = maxConn
  slots_length : s.bridge.slots.length = maxConn
  connCb : s.connCb = connEvtCbSet hist
  unset : s.connCb = false → s.bridge.handles = []
  rxCb : s.pc = .ready → s.rxCb = true
  registered : (registered s.conns).Perm (connectedHandles hist)
  handles : (s.bridge.handles ++ earlyHandles hist).Perm (connectedHandles hist)

section Step

variable {maxConn : ℕ} {s : Boot} {hist : List BootEvent} {handle : UInt16} {connected : Bool}

theorem bridgeBoot_handles (maxConn : ℕ) : (bridgeBoot maxConn).handles = [] := by
  simp [Bridge.handles, bridgeBoot, FirstFit.keys]

theorem registered_boot (maxConn : ℕ) : registered (connsBoot maxConn) = [] := by
  simp [registered, connsBoot, FirstFit.keys]

theorem bootInv_init : BootInv maxConn (Boot.init maxConn) [] where
  nodup := List.nodup_nil
  conns_length := List.length_replicate
  slots_length := List.length_replicate
  connCb := rfl
  unset _ := bridgeBoot_handles maxConn
  rxCb h := nomatch h
  registered := List.Perm.of_eq (registered_boot maxConn)
  handles := by
    rw [Boot.init, bridgeBoot_handles]
    exact List.Perm.refl _

/-- The bridge does not see what happens before `on_conn_evt` is registered. -/
theorem gapEvent_bridge_of_unset (h : s.connCb = false) :
    (al1BleGapEvent s handle connected).bridge = s.bridge := by
  rw [al1BleGapEvent, h]
  rfl

theorem gapEvent_bridge_of_set (h : s.connCb = true) :
    (al1BleGapEvent s handle connected).bridge = (onConnEvt s.bridge handle connected).1 := by
  rw [al1BleGapEvent, h]
  rfl

theorem onConnEvt_length (b : Bridge) :
    (onConnEvt b handle connected).1.slots.length = b.slots.length := by
  cases connected
  · exact FirstFit.length_update _ _ _
  · exact FirstFit.length_put _ _

theorem gapEvent_slots_length :
    (al1BleGapEvent s handle connected).bridge.slots.length = s.bridge.slots.length := by
  cases h : s.connCb with
  | false => rw [gapEvent_bridge_of_unset h]
  | true => rw [gapEvent_bridge_of_set h, onConnEvt_length]

theorem BootInv.unset_gapEvent (h : BootInv maxConn s hist)
    (hcb : (al1BleGapEvent s handle connected).connCb = false) :
    (al1BleGapEvent s handle connected).bridge.handles = [] := by
  have hunset : s.connCb = false := hcb
  rw [gapEvent_bridge_of_unset hunset]
  exact h.unset hunset

/-- A central that connects finds a free entry in both tables. -/
theorem BootInv.connect (h : BootInv maxConn s hist) (hnew : handle ∉ connectedHandles hist)
    (hlt : (connectedHandles hist).length < maxConn) :
    BootInv maxConn (al1BleGapEvent s handle true) (.connect handle :: hist) where
  nodup := List.nodup_cons.mpr ⟨hnew, h.nodup⟩
  conns_length := (FirstFit.length_put _ _).trans h.conns_length
  slots_length := gapEvent_slots_length.trans h.slots_length
  connCb := h.connCb
  unset := h.unset_gapEvent
  rxCb := h.rxCb
  registered := by
    have hfree : (Al1Wmod.registered s.conns).length < s.conns.length := by
      rw [h.registered.length_eq, h.conns_length]
      exact hlt
    exact (FirstFit.keys_put_of_length_lt (fun _ => ⟨rfl, rfl⟩) hfree).trans
      (h.registered.cons handle)
  handles := by
    cases hcb : s.connCb with
    | false =>
      have hearly : earlyHandles (.connect handle :: hist) = handle :: earlyHandles hist :=
        if_neg (by rw [← h.connCb, hcb]; exact Bool.false_ne_true)
      rw [gapEvent_bridge_of_unset hcb, hearly]
      exact List.perm_middle.trans (h.handles.cons handle)
    | true =>
      have hearly : earlyHandles (.connect handle :: hist) = earlyHandles hist :=
        if_pos (by rw [← h.connCb, hcb])
      have hfree : s.bridge.handles.length < s.bridge.slots.length := by
        refine lt_of_le_of_lt ?_ (hlt.trans_eq h.slots_length.symm)
        rw [← h.handles.length_eq, List.length_append]
        exact Nat.le_add_right _ _
      have hput : (onConnEvt s.bridge handle true).1.handles.Perm (handle :: s.bridge.handles) :=
        FirstFit.keys_put_of_length_lt (f := BridgeSlot.open handle) (fun _ => ⟨rfl, rfl⟩) hfree
      rw [gapEvent_bridge_of_set hcb, hearly]
      exact (hput.append_right _).trans (h.handles.cons handle)

/-- A central that disconnects leaves both tables, and is not early any more. -/
theorem BootInv.disconnect (h : BootInv maxConn s hist) :
    BootInv maxConn (al1BleGapEvent s handle false) (.disconnect handle :: hist) where
  nodup := h.nodup.erase handle
  conns_length := (FirstFit.length_update _ _ _).trans h.conns_length
  slots_length := gapEvent_slots_length.trans h.slots_length
  connCb := h.connCb
  unset := h.unset_gapEvent
  rxCb := h.rxCb
  registered := by
    have hrelease : Al1Wmod.registered (connRemove handle s.conns) =
        (Al1Wmod.registered s.conns).erase handle :=
      FirstFit.keys_release handle (fun _ => Bool.false_ne_true) _
    show (Al1Wmod.registered (connRemove handle s.conns)).Perm _
    rw [hrelease]
    exact h.registered.erase handle
  handles := by
    have hbridge : (al1BleGapEvent s handle false).bridge.handles =
        s.bridge.handles.erase handle := by
      cases hcb : s.connCb with
      | false => rw [gapEvent_bridge_of_unset hcb, h.unset hcb, List.erase_nil]
      | true =>
        rw [gapEvent_bridge_of_set hcb]
        exact FirstFit.keys_release handle (fun _ => Bool.false_ne_true) _
    have hnodup : (s.bridge.handles ++ earlyHandles hist).Nodup := h.handles.nodup_iff.mpr h.nodup
    rw [hbridge]
    refine List.Perm.trans (List.Perm.of_eq ?_) (h.handles.erase handle)
    show _ ++ (earlyHandles hist).erase handle = _
    by_cases hmem : handle ∈ s.bridge.handles
    · have hnot : handle ∉ earlyHandles hist := fun he =>
        (List.nodup_append.mp hnodup).2.2 handle hmem handle he rfl
      rw [List.erase_append_left _ hmem, List.erase_of_not_mem hnot]
    · rw [List.erase_append_right _ hmem, List.erase_of_not_mem hmem]

/-- What `app_main` and the link task do leaves the tables alone. -/
theorem BootInv.frame {s' : Boot} {e : BootEvent} (h : BootInv maxConn s hist)
    (hconns : s'.conns = s.conns) (hlength : s'.bridge.slots.length = s.bridge.slots.length)
    (hhandles : s'.bridge.handles = s.bridge.handles) (hcb : s'.connCb = connEvtCbSet (e :: hist))
    (hset : s'.connCb = false → s.connCb = false) (hrx : s'.pc = .ready → s'.rxCb = true)
    (hconnected : connectedHandles (e :: hist) = connectedHandles hist)
    (hearly : earlyHandles (e :: hist) = earlyHandles hist) : BootInv maxConn s' (e :: hist) where
  nodup := hconnected ▸ h.nodup
  conns_length := hconns ▸ h.conns_length
  slots_length := hlength.trans h.slots_length
  connCb := hcb
  unset hs' := hhandles.trans (h.unset (hset hs'))
  rxCb := hrx
  registered := by
    rw [hconns, hconnected]
    exact h.registered
  handles := by
    rw [hhandles, hearly, hconnected]
    exact h.handles

/-- **One step.** -/
theorem BootInv.step {e : BootEvent} (h : BootInv maxConn s hist)
    (hadm : BootAdmissible maxConn s hist e) : BootInv maxConn (bootStep s e) (e :: hist) := by
  cases e with
  | connect handle => exact h.connect hadm.2.1 hadm.2.2
  | disconnect handle => exact h.disconnect
  | bleStart ok =>
    refine h.frame rfl rfl rfl h.connCb id ?_ rfl rfl
    cases ok
    · exact fun hpc => nomatch hpc
    · exact fun hpc => nomatch hpc
  | resetSession => exact h.frame rfl rfl rfl h.connCb id (fun hpc => nomatch hpc) rfl rfl
  | setConnEvtCb =>
    exact h.frame rfl rfl rfl rfl (fun hcb => nomatch hcb) (fun hpc => nomatch hpc) rfl rfl
  | setRxCb => exact h.frame rfl rfl rfl h.connCb id (fun _ => rfl) rfl rfl
  | linkAp payload len => exact h.frame rfl rfl rfl h.connCb id h.rxCb rfl rfl
  | write handle data =>
    refine h.frame rfl ?_ ?_ h.connCb id h.rxCb rfl rfl
    · show (if s.rxCb then (onBleWrite s.bridge handle data).1 else s.bridge).slots.length = _
      split_ifs
      · rw [onBleWrite]
        cases slotFind s.bridge.slots handle with
        | none => rfl
        | some slot => exact FirstFit.length_update _ _ _
      · rfl
    · show (if s.rxCb then (onBleWrite s.bridge handle data).1 else s.bridge).handles = _
      split_ifs
      · exact handles_onBleWrite s.bridge handle data
      · rfl

/-- **Every state of the boot.** -/
theorem Booted.inv (h : Booted maxConn s hist) : BootInv maxConn s hist := by
  induction h with
  | init => exact bootInv_init
  | step _ hadm ih => exact ih.step hadm

end Step

/-! ## Agreement -/

/-- The tables agree with NimBLE: a central is connected iff it is in exactly one entry in use of
either table.  So what a connected central writes is fed to the reassembler of its slot, and a
broadcast reaches it once. -/
structure RegistriesAgree (s : Boot) (hist : List BootEvent) : Prop where
  tables : ∀ handle, handle ∈ connectedHandles hist ↔
    (registered s.conns).count handle = 1 ∧ s.bridge.handles.count handle = 1
  reassembled : ∀ handle ∈ connectedHandles hist, ∀ data, ∃ slot,
    slotFind s.bridge.slots handle = some slot ∧
      slotFind (bootStep s (.write handle data)).bridge.slots handle =
        some { slot with reasm := (apReasmFeed slot.reasm data).1 }
  broadcast : ∀ handle ∈ connectedHandles hist, ∀ data,
    ((Action.notifyAll data).notified s.conns).count (handle, data) = 1

theorem count_eq_one_iff {l : List UInt16} (h : l.Nodup) (handle : UInt16) :
    l.count handle = 1 ↔ handle ∈ l := by
  rw [h.count]
  simp

section Agreement

variable {maxConn : ℕ} {s : Boot} {hist : List BootEvent} {handle : UInt16}

/-- A write of a central that has a slot. -/
theorem dispatchWrite_slot (hrx : s.rxCb = true) (h : handle ∈ s.bridge.handles)
    (data : List UInt8) : ∃ slot, slotFind s.bridge.slots handle = some slot ∧
      slotFind (bootStep s (.write handle data)).bridge.slots handle =
        some { slot with reasm := (apReasmFeed slot.reasm data).1 } := by
  obtain ⟨slot, hslot⟩ : ∃ slot, slotFind s.bridge.slots handle = some slot := by
    cases hfind : slotFind s.bridge.slots handle with
    | none => exact absurd h (keys_slotFind_none hfind)
    | some slot => exact ⟨slot, rfl⟩
  refine ⟨slot, hslot, ?_⟩
  have hbridge : (bootStep s (.write handle data)).bridge.slots =
      slotUpdate s.bridge.slots handle
        fun t => { t with reasm := (apReasmFeed slot.reasm data).1 } := by
    show (if s.rxCb then (onBleWrite s.bridge handle data).1 else s.bridge).slots = _
    rw [if_pos hrx, onBleWrite, hslot]
  have hself := @FirstFit.find?_update_self _ _ BridgeSlot.inUse BridgeSlot.handle _ handle
    (fun t : BridgeSlot => { t with reasm := (apReasmFeed slot.reasm data).1 })
    (fun _ => ⟨rfl, rfl⟩) s.bridge.slots
  rw [hbridge]
  exact hself.trans (congrArg _ hslot)

/-- A broadcast reaches every connected central once, early or not. -/
theorem BootInv.broadcast (h : BootInv maxConn s hist) (hmem : handle ∈ connectedHandles hist)
    (data : List UInt8) : ((Action.notifyAll data).notified s.conns).count (handle, data) = 1 := by
  have hinj : Function.Injective fun conn : UInt16 => (conn, data) :=
    fun _ _ he => (Prod.mk.inj he).1
  rw [Action.notified, List.count_map_of_injective _ _ hinj, h.registered.count_eq]
  exact List.count_eq_one_of_mem h.nodup hmem

/-- **The registries agree** after `al1_ble_ap_bridge_init` has returned exactly while no central
that connected before `on_conn_evt` was registered is still connected. -/
theorem registries_agree_iff (h : Booted maxConn s hist) (hready : s.pc = .ready) :
    RegistriesAgree s hist ↔ earlyHandles hist = [] := by
  have hi := h.inv
  have hnodup := hi.handles.nodup_iff.mpr hi.nodup
  constructor
  · intro hagree
    refine List.eq_nil_iff_forall_not_mem.mpr fun handle hearly => ?_
    have hconn : handle ∈ connectedHandles hist :=
      hi.handles.mem_iff.mp (List.mem_append_right _ hearly)
    have hslot : handle ∈ s.bridge.handles :=
      List.count_pos_iff.mp (((hagree.tables handle).mp hconn).2 ▸ Nat.one_pos)
    exact (List.nodup_append.mp hnodup).2.2 handle hslot handle hearly rfl
  · intro hnil
    rw [hnil, List.append_nil] at hnodup
    have hslots : s.bridge.handles.Perm (connectedHandles hist) := by
      simpa only [hnil, List.append_nil] using hi.handles
    refine ⟨fun handle => ?_, fun handle hmem => ?_, fun handle hmem => hi.broadcast hmem⟩
    · rw [hi.registered.count_eq, hslots.count_eq, and_self, count_eq_one_iff hi.nodup]
    · exact dispatchWrite_slot (hi.rxCb hready) (hslots.mem_iff.mpr hmem)

end Agreement

/-- A central connects before the bridge is initialised, but has left when it is; two more come and
one of them goes. -/
theorem registries_agree_after_boot : RegistriesAgree
    (bootRun al1BleMaxConn [.bleStart true, .connect 1, .resetSession, .disconnect 1, .setConnEvtCb,
      .connect 2, .setRxCb, .connect 1, .disconnect 2]).1
    (bootRun al1BleMaxConn [.bleStart true, .connect 1, .resetSession, .disconnect 1, .setConnEvtCb,
      .connect 2, .setRxCb, .connect 1, .disconnect 2]).2 :=
  (registries_agree_iff (booted_bootRun (by decide +kernel)) rfl).mpr rfl

/-- **An early central.**  A central that connects between `al1_ble_start` and
`al1_ble_set_conn_evt_cb` is in `s_conns` and has no slot: what it writes is dropped. -/
theorem registries_disagree : ∃ s hist, Booted al1BleMaxConn s hist ∧ s.pc = .ready ∧
    1 ∈ connectedHandles hist ∧ (registered s.conns).count 1 = 1 ∧ s.bridge.handles.count 1 = 0 ∧
    slotFind s.bridge.slots 1 = none ∧ ¬ RegistriesAgree s hist := by
  refine ⟨_, _, @booted_bootRun _ [.bleStart true, .connect 1, .resetSession, .setConnEvtCb,
    .setRxCb] (by decide +kernel), rfl, by decide +kernel, by decide +kernel, by decide +kernel,
    rfl, fun hagree => ?_⟩
  exact absurd ((hagree.tables 1).mp (by decide +kernel)).2 (by decide +kernel)

end Al1Wmod
