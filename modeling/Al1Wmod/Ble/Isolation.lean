import Al1Wmod.Ble.Gate

/-!
# The streams of the clients are isolated

Several centrals write at the same time, slots are reused with whatever an earlier connection left
in their reassembler, and NimBLE hands out the same handles again.  Still the frames the bridge
takes from a connection are those of its own bytes.

`Owns` says that the lookup for a connection leads to a reassembler in a given state.  A callback
feeds that reassembler with what the connection writes in it and with nothing else
(`Owns.step`), so from its connect on the connection has a reassembler to itself.  The only
assumption is needed at the connect: if the handle were in use already, the lookup would lead to
the older slot.
-/

namespace Al1Wmod

open Transducer Machine

/-- The bytes that `conn` writes in some callbacks. -/
def ownWrites (conn : UInt16) (events : List BleEvent) : List UInt8 :=
  events.flatMap fun e =>
    match e with
    | .write handle data => if handle = conn then data else []
    | _ => []

/-- The frame of a call of `on_ap_frame` on behalf of `conn`. -/
def Call.frameFor (conn : UInt16) : Call → Option (List UInt8)
  | .apFrame c frame => if c = conn then some frame else none
  | _ => none

/-- The frames for which `on_ap_frame` ran on behalf of `conn`. -/
def framesFor (conn : UInt16) (entries : List Entry) : List (List UInt8) :=
  entries.filterMap fun e => e.call.frameFor conn

/-- Callbacks in which NimBLE reports a handle connected only while it is not. -/
abbrev FreshRun (maxConn : ℕ) (events : List BleEvent) : Prop :=
  Along bridgeNext (fun st e => Fresh st.2 e) (al1BleApBridgeInit (bridgeBoot maxConn), []) events

/-- `conn` has a slot, and `r` is the reassembler in it. -/
def Owns (b : Bridge) (conn : UInt16) (r : ApReasm) : Prop :=
  ∃ s, slotFind b.slots conn = some s ∧ s.reasm = r

theorem slotsInv_bridgeRun {maxConn : ℕ} {events : List BleEvent} (h : FreshRun maxConn events) :
    SlotsInv (bridgeRun maxConn events).1 (bridgeRun maxConn events).2 :=
  h.invariant (R := fun st : Bridge × List Entry => SlotsInv st.1 st.2)
    (fun _ _ hst he => hst.step he) (slotsInv_boot maxConn)

section Entries

variable {conn : UInt16}

theorem framesFor_append (entries entries' : List Entry) :
    framesFor conn (entries ++ entries') = framesFor conn entries ++ framesFor conn entries' :=
  List.filterMap_append

/-- The frames in the entries of some calls. -/
theorem framesFor_record (s : Session) (calls : List Call) :
    framesFor conn (run Session.record s calls).2 = calls.filterMap (Call.frameFor conn) := by
  induction calls generalizing s with
  | nil => rfl
  | cons c calls ih =>
    rw [run_cons, framesFor_append, ih]
    show framesFor conn [s.entry c] ++ _ = _
    rw [framesFor, List.filterMap_cons, List.filterMap_cons]
    cases hc : c.frameFor conn with
    | none => simp [Session.entry, hc]
    | some f => simp [Session.entry, hc]

theorem framesFor_bridgeStep (conn : UInt16) (b : Bridge) (e : BleEvent) :
    framesFor conn (bridgeStep b e).2 = (b.calls e).filterMap (Call.frameFor conn) := by
  have hentries := congrArg Prod.snd (bridgeStep_session b e)
  rw [← hentries]
  exact framesFor_record b.session (b.calls e)

/-- Every entry of a run is the entry of a call. -/
theorem exists_entry_of_mem_run {b : Bridge} {events : List BleEvent} {e : Entry}
    (he : e ∈ (run bridgeStep b events).2) : ∃ (s : Session) (c : Call), e = s.entry c := by
  refine run_out_induction (P := fun _ => True) (Q := fun e : Entry => ∃ s c, e = Session.entry s c)
    (fun _ _ _ => trivial) ?_ trivial events e he
  intro b ev _ e he
  have hentries := congrArg Prod.snd (bridgeStep_session b ev)
  rw [← hentries] at he
  obtain ⟨s, c, -, heq⟩ := exists_entry_of_mem_record he
  exact ⟨s, c, heq⟩

end Entries

section Steps

variable {b : Bridge} {conn : UInt16} {r : ApReasm}

/-- A connect of another central leaves the slot alone. -/
theorem Owns.connect (h : Owns b conn r) {handle : UInt16} (hne : handle ≠ conn) :
    Owns (onConnEvt b handle true).1 conn r := by
  obtain ⟨s, hfind, hreasm⟩ := h
  refine ⟨s, ?_, hreasm⟩
  exact (FirstFit.find?_put_of_ne (f := BridgeSlot.open handle) (fun _ => rfl) hne.symm
    b.slots).trans hfind

/-- So does a disconnect of another central. -/
theorem Owns.disconnect (h : Owns b conn r) {handle : UInt16} (hne : handle ≠ conn) :
    Owns (onConnEvt b handle false).1 conn r := by
  obtain ⟨s, hfind, hreasm⟩ := h
  refine ⟨s, ?_, hreasm⟩
  exact (FirstFit.find?_update_of_ne (f := BridgeSlot.free) (fun _ => rfl) hne.symm
    b.slots).trans hfind

/-- So does a write of another central, and it completes no frame for this one. -/
theorem Owns.write_of_ne (h : Owns b conn r) {handle : UInt16} (hne : handle ≠ conn)
    (data : List UInt8) :
    Owns (onBleWrite b handle data).1 conn r ∧
      framesFor conn (onBleWrite b handle data).2 = [] := by
  constructor
  · obtain ⟨s, hfind, hreasm⟩ := h
    unfold onBleWrite
    cases slotFind b.slots handle with
    | none => exact ⟨s, hfind, hreasm⟩
    | some t =>
      refine ⟨s, ?_, hreasm⟩
      exact (FirstFit.find?_update_of_ne
        (f := fun s : BridgeSlot => { s with reasm := (apReasmFeed t.reasm data).1 })
        (fun _ => rfl) hne.symm b.slots).trans hfind
  · have hframes := framesFor_bridgeStep conn b (.write handle data)
    refine hframes.trans ?_
    rw [List.filterMap_eq_nil_iff]
    intro c hc
    rcases mem_calls_write hc with rfl | ⟨frame, rfl, -⟩
    · rfl
    · exact if_neg hne

/-- A write of the connection itself is fed to its reassembler. -/
theorem Owns.write_self (h : Owns b conn r) (data : List UInt8) :
    Owns (onBleWrite b conn data).1 conn (apReasmFeed r data).1 ∧
      framesFor conn (onBleWrite b conn data).2 =
        (apReasmFeed r data).2.map ApFrameCall.bytes := by
  obtain ⟨s, hfind, rfl⟩ := h
  constructor
  · refine ⟨{ s with reasm := (apReasmFeed s.reasm data).1 }, ?_, rfl⟩
    simp only [onBleWrite, hfind]
    have hupdate := @FirstFit.find?_update_self _ _ BridgeSlot.inUse BridgeSlot.handle _ conn
      (fun s' => { s' with reasm := (apReasmFeed s.reasm data).1 }) (fun _ => ⟨rfl, rfl⟩) b.slots
    refine hupdate.trans ?_
    rw [show (b.slots.find? fun a => a.inUse && a.handle == conn) = some s from hfind]
    rfl
  · have hframes := framesFor_bridgeStep conn b (.write conn data)
    refine hframes.trans ?_
    simp only [Bridge.calls, hfind, List.filterMap_cons, List.filterMap_map, Call.frameFor]
    rw [show (Call.frameFor conn ∘ fun c : ApFrameCall => Call.apFrame conn c.bytes) =
      fun c => some c.bytes from funext fun c => if_pos rfl]
    exact congrFun List.filterMap_eq_map _

/-- **One callback.**  While the connection lasts, it feeds the connection's reassembler with what
the connection writes, and with nothing else. -/
theorem Owns.step (h : Owns b conn r) {e : BleEvent} (he : ∀ c, e ≠ .connEvt conn c) :
    Owns (bridgeStep b e).1 conn (apReasmFeed r (ownWrites conn [e])).1 ∧
      framesFor conn (bridgeStep b e).2 =
        (apReasmFeed r (ownWrites conn [e])).2.map ApFrameCall.bytes := by
  cases e with
  | connEvt handle connected =>
    have hne : handle ≠ conn := fun heq => he connected (by rw [heq])
    cases connected with
    | true => exact ⟨h.connect hne, rfl⟩
    | false => exact ⟨h.disconnect hne, rfl⟩
  | linkAp payload len => exact ⟨h, rfl⟩
  | write handle data =>
    by_cases hhandle : handle = conn
    · have hw : ownWrites conn [.write handle data] = data := by simp [ownWrites, hhandle]
      rw [hw, hhandle]
      exact h.write_self data
    · have hw : ownWrites conn [.write handle data] = [] := by simp [ownWrites, hhandle]
      rw [hw]
      exact h.write_of_ne hhandle data

/-- **Every run**, as long as the connection lasts. -/
theorem Owns.run (h : Owns b conn r) {events : List BleEvent}
    (hevents : ∀ c, .connEvt conn c ∉ events) :
    Owns (Transducer.run bridgeStep b events).1 conn (apReasmFeed r (ownWrites conn events)).1 ∧
      framesFor conn (Transducer.run bridgeStep b events).2 =
        (apReasmFeed r (ownWrites conn events)).2.map ApFrameCall.bytes := by
  induction events generalizing b r with
  | nil => exact ⟨h, rfl⟩
  | cons e events ih =>
    have he : ∀ c, e ≠ .connEvt conn c := by
      rintro c rfl
      exact hevents c List.mem_cons_self
    obtain ⟨hstep, hframes⟩ := h.step he
    obtain ⟨hrun, hframes'⟩ := ih hstep fun c hc => hevents c (List.mem_cons_of_mem _ hc)
    have hw : ownWrites conn (e :: events) = ownWrites conn [e] ++ ownWrites conn events := by
      simp [ownWrites]
    have hfeed : apReasmFeed r (ownWrites conn (e :: events)) =
        ((apReasmFeed (apReasmFeed r (ownWrites conn [e])).1 (ownWrites conn events)).1,
          (apReasmFeed r (ownWrites conn [e])).2 ++
            (apReasmFeed (apReasmFeed r (ownWrites conn [e])).1 (ownWrites conn events)).2) := by
      rw [hw]
      exact run_append _ _ _ _
    rw [hfeed, run_cons, framesFor_append, hframes, hframes', List.map_append]
    exact ⟨hrun, rfl⟩

/-- A new connection that gets a slot gets a fresh reassembler. -/
theorem Owns.of_connect {hist : List Entry} (hslots : SlotsInv b hist)
    (hnew : ¬ Connected conn hist) (hslot : conn ∈ (onConnEvt b conn true).1.handles) :
    ∃ old, Owns (onConnEvt b conn true).1 conn (apReasmInit old true) := by
  have hfree : conn ∉ b.handles := fun hmem => hnew (hslots.connected conn hmem)
  obtain ⟨s, -, hfind⟩ := FirstFit.find?_put_self (f := BridgeSlot.open conn)
    (fun _ => ⟨rfl, rfl⟩) hfree hslot
  exact ⟨s.reasm, s.open conn, hfind, rfl⟩

end Steps

/-- A fresh reassembler emits the same frames whatever its memory holds. -/
theorem apReasmFeed_init_frames (r r' : ApReasm) (data : List UInt8) :
    (apReasmFeed (apReasmInit r true) data).2.map ApFrameCall.bytes =
      (apReasmFeed (apReasmInit r' true) data).2.map ApFrameCall.bytes := by
  have hcalls : ∀ r, (apReasmFeed (apReasmInit r true) data).2.map ApFrameCall.bytes =
      (apRun data).2.filterMap ApUnit.frame? := fun r =>
    (apReasmFeed_framing (r := apReasmInit r true) (reasmRepresents_nil_iff.mpr rfl) data).calls
  rw [hcalls, hcalls]

/-- What becomes of a frame: it is sent to the STM32 as it came, or its sender is told
NOT_CONTROLLER. -/
theorem Session.apFrame_acts (s : Session) (conn : UInt16) (frame : List UInt8) :
    (s.call (.apFrame conn frame)).2 = [.linkSend al1ChApCtrl frame] ∨
      (s.call (.apFrame conn frame)).2 =
        [.notifyConn conn (apPacketBytes apCmdError [ApError.notController.code])] := by
  rw [← notControllerPacket_eq]
  have hstep := s.call_step (.apFrame conn frame)
  generalize (s.call (.apFrame conn frame)).1 = s', (s.call (.apFrame conn frame)).2 = acts at hstep
  cases hstep with
  | claim _ _ | release _ _ | forward _ _ _ => exact Or.inl rfl
  | reject _ _ => exact Or.inr rfl

/-- **Isolation.**  In every run, a connection that got a slot has, from its connect on and as long
as it lasts, the frames that a fresh reassembler emits on the bytes it writes itself.  Each of them
is sent to the STM32 or answered with NOT_CONTROLLER. -/
theorem streams_isolated {maxConn : ℕ} {before during : List BleEvent} {conn : UInt16}
    (hrun : FreshRun maxConn (before ++ [.connEvt conn true]))
    (hslot : conn ∈ (bridgeRun maxConn (before ++ [.connEvt conn true])).1.handles)
    (hduring : ∀ c, .connEvt conn c ∉ during) (r : ApReasm) :
    let entries := (run bridgeStep (bridgeRun maxConn (before ++ [.connEvt conn true])).1 during).2
    framesFor conn entries =
        (apReasmFeed (apReasmInit r true) (ownWrites conn during)).2.map ApFrameCall.bytes ∧
      ∀ e ∈ entries, ∀ frame, e.call = .apFrame conn frame →
        e.acts = [.linkSend al1ChApCtrl frame] ∨
          e.acts = [.notifyConn conn (apPacketBytes apCmdError [ApError.notController.code])] := by
  intro entries
  have hlast : bridgeRun maxConn (before ++ [.connEvt conn true]) =
      bridgeNext (bridgeRun maxConn before) (.connEvt conn true) := List.foldl_concat ..
  obtain ⟨hbefore, hnew, -⟩ := along_append.mp hrun
  have hslots := slotsInv_bridgeRun hbefore
  rw [hlast] at hslot
  obtain ⟨old, howns⟩ := Owns.of_connect hslots (hnew rfl) hslot
  constructor
  · have hframes := (howns.run hduring).2
    rw [← apReasmFeed_init_frames old r]
    show framesFor conn (run bridgeStep (bridgeRun maxConn (before ++ [.connEvt conn true])).1
      during).2 = _
    rw [hlast]
    exact hframes
  · intro e he frame hcall
    obtain ⟨s, c, rfl⟩ := exists_entry_of_mem_run he
    obtain rfl : c = .apFrame conn frame := hcall
    exact s.apFrame_acts conn frame

/-- Handle 1 is reused after a partial frame, and another central writes in the middle of a CLAIM. -/
theorem streams_isolated_reuse :
    framesFor 1 (run bridgeStep (bridgeRun al1BleMaxConn
        [.connEvt 1 true, .write 1 [0xA5, 0x09, 0x21], .connEvt 1 false, .connEvt 1 true]).1
      [.connEvt 2 true, .write 1 ((apPacketBytes apCmdClaim []).take 3), .write 2 [0xA5, 0x01],
        .write 1 ((apPacketBytes apCmdClaim []).drop 3)]).2 = [apPacketBytes apCmdClaim []] := by
  refine (@streams_isolated al1BleMaxConn
    [.connEvt 1 true, .write 1 [0xA5, 0x09, 0x21], .connEvt 1 false]
    [.connEvt 2 true, .write 1 ((apPacketBytes apCmdClaim []).take 3), .write 2 [0xA5, 0x01],
      .write 1 ((apPacketBytes apCmdClaim []).drop 3)] 1
    (by decide +kernel) (by decide +kernel) (by simp)
    { state := .data, need := 3, idx := 4, frame := fun _ => 0xA5, cb := false, frames := 5
      lenErr := 6 }).1.trans ?_
  decide +kernel

end Al1Wmod
