import Al1Wmod.Ble.SmokeClient
import Al1Wmod.System.Drain

/-!
# From the client to the STM32 and back

The whole way of a command: `build_frame` in the client, writes that cut it anywhere, the
reassembler, the gate, `al1_link_send`, the queue, the UART, the link parser and the AP parser of
the STM32.  And the whole way of an answer: `ap_build_packet` in the STM32, the line, the link
parser, the routing, notifications that cut it anywhere, and `ApReassembler` in the client.  Other
centrals write, connect and leave meanwhile.

* `command_delivered`: a central that is in control is never refused, so its commands arrive, each
  once and in order, between what the device sends for others.
* `answers_delivered`: while nobody else claims, all that the STM32 sends goes to it.

As in `System.Device`, each turn of a task and each callback of the host ends before the next
begins.
-/

namespace Al1Wmod

open Buffer Transducer Framer Machine Simulation

/-- What a central writes. -/
def GatewayEvent.writtenBy (conn : UInt16) : GatewayEvent → List UInt8
  | .write c data => if c = conn then data else []
  | _ => []

/-- A write of a central. -/
def GatewayEvent.isWriteOf (conn : UInt16) : GatewayEvent → Bool
  | .write c _ => c = conn
  | _ => false

/-- What a central writes to the characteristic TX. -/
def DeviceEvent.writtenBy (conn : UInt16) : DeviceEvent → List UInt8
  | .access c ctxt _ _ => if c = conn then (al1GattAccess ctxt).1.getD [] else []
  | _ => []

/-- An access by a central. -/
def DeviceEvent.isAccessOf (conn : UInt16) : DeviceEvent → Bool
  | .access c _ _ _ => c = conn
  | _ => false

/-- `s_controlling_conn` is this connection. -/
def Device.Controls (conn : UInt16) (d : Device) : Prop :=
  d.ble.bridge.session.controllingConn = conn

instance Device.decidableControls (conn : UInt16) : DecidablePred (Device.Controls conn) :=
  fun _ => inferInstanceAs (Decidable (_ = _))

/-! ## The gate is open -/

/-- The gateway has read these bytes of a central.  If it did so at a write of the central, it has
passed up the frames that they complete. -/
structure Passes (conn : UInt16) (acc bytes : List UInt8) (own : Bool) (q : Gateway × List Passed) :
    Prop where
  stream : q.1.streams conn = some (run (Framer.step apVerdict) acc bytes).1
  up : own = true → q.2.filterMap Passed.up? =
    (run (Framer.step apVerdict) acc bytes).2.filterMap ApUnit.frame?
  other : own = false → bytes = []

section Through

variable {maxPayload : ℕ} {g : Gateway} {conn : UInt16} {acc : List UInt8} {out : List Passed}

/-- At other events the central has written nothing. -/
theorem Passes.other_event (hstream : g.streams conn = some acc) :
    Passes conn acc [] false (g, out) :=
  ⟨hstream, fun h => Bool.noConfusion h, fun _ => rfl⟩

/-- And at events that the gateway does not see. -/
theorem Passes.unseen (hstream : g.streams conn = some acc) (own : Bool) :
    Passes conn acc [] own (g, []) :=
  ⟨hstream, fun _ => rfl, fun _ => rfl⟩

/-- Commands never give control to anyone. -/
theorem Gateway.controller_run_command (g : Gateway) (frames : List (List UInt8)) :
    (run (Gateway.command conn) g frames).1.controller = g.controller ∨
      (run (Gateway.command conn) g frames).1.controller = none := by
  induction frames generalizing g with
  | nil => exact .inl rfl
  | cons f frames ih =>
    have hone : (Gateway.command conn g f).1.controller = g.controller ∨
        (Gateway.command conn g f).1.controller = none := by
      unfold Gateway.command
      split_ifs
      · exact .inl rfl
      · exact .inr rfl
      · exact .inl rfl
      · exact .inl rfl
      · exact .inl rfl
    rw [run_cons]
    rcases ih (Gateway.command conn g f).1 with h | h
    · rw [h]
      exact hone
    · exact .inr h

/-- All commands of a central that keeps control pass. -/
theorem Gateway.up_run_command {frames : List (List UInt8)}
    (h : (run (Gateway.command conn) g frames).1.controller = some conn) :
    (run (Gateway.command conn) g frames).2.filterMap Passed.up? = frames := by
  induction frames generalizing g with
  | nil => rfl
  | cons f frames ih =>
    have hmine : g.controller = some conn := by
      have hfirst := @Gateway.controller_run_command conn g (f :: frames)
      rw [h] at hfirst
      exact (hfirst.resolve_right (Option.some_ne_none _)).symm
    have hone : (Gateway.command conn g f).2.filterMap Passed.up? = [f] := by
      unfold Gateway.command
      split_ifs <;> rfl
    rw [run_cons, List.filterMap_append, hone, ih h]
    rfl

/-- Frames on the line start no stream and end none. -/
theorem Gateway.streams_run_frame (g : Gateway) (frames : List LinkFrame) :
    (run Gateway.frame g frames).1.streams = g.streams := by
  induction frames generalizing g with
  | nil => rfl
  | cons f frames ih =>
    have hone : (g.frame f).1.streams = g.streams := by
      unfold Gateway.frame Gateway.route
      split_ifs <;> rfl
    rw [run_cons, ih, hone]

/-- **One event**, after which the central is in control. -/
theorem Gateway.step_through (hstream : g.streams conn = some acc) {e : GatewayEvent}
    (he : e ≠ .connect conn) (hafter : (g.step maxPayload e).1.controller = some conn) :
    Passes conn acc (e.writtenBy conn) (e.isWriteOf conn) (g.step maxPayload e) := by
  cases e with
  | read bytes =>
    exact .other_event ((congrFun (Gateway.streams_run_frame _ _) conn).trans hstream)
  | listen c => exact .other_event hstream
  | connect c =>
    have hne : conn ≠ c := fun heq => he (heq ▸ rfl)
    exact .other_event ((Function.update_of_ne hne _ _).trans hstream)
  | disconnect c =>
    have hne : conn ≠ c := by
      rintro rfl
      have hgone : (if g.controller = some conn then none else g.controller) = some conn := hafter
      split_ifs at hgone with hmine
      exact hmine hgone
    exact .other_event ((Function.update_of_ne hne _ _).trans hstream)
  | write c data =>
    by_cases heq : c = conn
    · subst heq
      have hstep := @Gateway.step_write _ _ maxPayload _ hstream data
      have hwritten : GatewayEvent.writtenBy c (.write c data) = data := if_pos rfl
      rw [hwritten]
      rw [hstep] at hafter ⊢
      refine ⟨?_, fun _ => Gateway.up_run_command hafter, fun hother => ?_⟩
      · rw [(Gateway.run_command_tables c _ _).2]
        exact Function.update_self _ _ _
      · exact absurd rfl (of_decide_eq_false hother)
    · have hwritten : GatewayEvent.writtenBy conn (.write c data) = [] := if_neg heq
      have hother : GatewayEvent.isWriteOf conn (.write c data) = false := decide_eq_false heq
      rw [hwritten, hother]
      refine .other_event ?_
      show (g.step maxPayload (.write c data)).1.streams conn = some acc
      rw [Gateway.step]
      cases hother : g.streams c with
      | none => exact hstream
      | some acc' =>
        show (run (Gateway.command c) _ _).1.streams conn = _
        rw [(Gateway.run_command_tables c _ _).2]
        exact (Function.update_of_ne (Ne.symm heq) _ _).trans hstream

end Through

/-! ## In the device -/

section Device

variable {maxPayload maxConn : ℕ} {d : Device} {g : Gateway} {conn : UInt16} {acc : List UInt8}

/-- The calls of a callback touch the link alone. -/
theorem ble_perform (d : Device) (acts : List Action) (mtu : UInt16 → UInt16)
    (fate : ℕ → SendOutcome) : (Device.perform maxPayload mtu d acts fate).1.ble = d.ble := by
  induction acts generalizing d fate with
  | nil => rfl
  | cons a acts ih =>
    cases a with
    | notifyConn conn data => exact ih d fate
    | notifyAll data => exact ih d fate
    | linkSend channel frame => exact ih _ _

/-- A callback that is registered stays registered. -/
theorem rxCb_deviceStep (h : d.ble.rxCb = true) (e : DeviceEvent) :
    (deviceStep maxPayload d e).1.ble.rxCb = true := by
  cases e with
  | setLinkCb | linkStart o | bleStart ok | resetSession | setConnEvtCb | connect c | tx k =>
    exact h
  | setRxCb => rfl
  | rx k o mtu =>
    have hcalls : ∀ (calls : List Al1FrameCall) (d : Device), d.ble.rxCb = true →
        (run (parserTrampoline mtu) d calls).1.ble.rxCb = true := by
      intro calls
      induction calls with
      | nil => exact fun _ h => h
      | cons c calls ih =>
        intro d h
        refine ih _ ?_
        unfold parserTrampoline onFrame
        split_ifs <;> exact h
    exact hcalls _ _ h
  | disconnect c fate =>
    rw [deviceStep, ble_perform]
    exact h
  | access c ctxt fate mtu =>
    rw [deviceStep]
    generalize al1GattAccess ctxt = a
    obtain ⟨data, code⟩ := a
    cases data with
    | none => exact h
    | some data =>
      show (Device.perform _ _ _ _ _).1.ble.rxCb = true
      rw [ble_perform]
      exact h

/-- **One step**, after which the central is in control. -/
theorem Simulated.step_through (hmax : maxPayload ≤ al1LinkMaxPayload)
    (hsim : Simulated maxPayload maxConn d g) (horderly : g.Orderly) (hrx : d.ble.rxCb = true)
    (hstream : g.streams conn = some acc) {e : DeviceEvent} (hadm : d.Allowed maxConn e)
    (hafter : (deviceStep maxPayload d e).1.Controls conn) :
    Passes conn acc (e.writtenBy conn) (e.isAccessOf conn)
      (run (Gateway.step maxPayload) g (d.see e)) := by
  have hlisten : conn ∈ g.listening := horderly.streams conn acc hstream
  have hctrl : (run (Gateway.step maxPayload) g (d.see e)).1.controller = some conn := by
    obtain ⟨hsim', -⟩ := (simulates hmax maxConn).step hsim hadm
    rw [hsim'.serves.session.controller, show _ = conn from hafter, connOf, if_neg]
    exact fun heq => hsim.serves.named (heq ▸ hlisten)
  -- the gateway sees nothing of the step, or one event
  have hnone : d.see e = [] → e.writtenBy conn = [] →
      Passes conn acc (e.writtenBy conn) (e.isAccessOf conn)
        (run (Gateway.step maxPayload) g (d.see e)) := by
    intro hsee hwritten
    rw [hsee, hwritten]
    exact .unseen hstream _
  have hone : ∀ ge : GatewayEvent, ge ≠ .connect conn → d.see e = [ge] →
      e.writtenBy conn = ge.writtenBy conn → e.isAccessOf conn = ge.isWriteOf conn →
      Passes conn acc (e.writtenBy conn) (e.isAccessOf conn)
        (run (Gateway.step maxPayload) g (d.see e)) := by
    intro ge hne hsee hwritten hown
    rw [hsee, run_singleton] at hctrl ⊢
    rw [hwritten, hown]
    exact Gateway.step_through hstream hne hctrl
  cases e with
  | setLinkCb | linkStart o | bleStart ok | resetSession | setConnEvtCb | setRxCb | tx k =>
    exact hnone rfl rfl
  | rx k o mtu =>
    by_cases hreads : d.link.reads k o = true
    · exact hone (.read o.bytes) GatewayEvent.noConfusion (if_pos hreads) rfl rfl
    · exact hnone (if_neg hreads) rfl
  | connect c =>
    have hne : c ≠ conn := fun heq => hadm.2.2.1 (hsim.connected ▸ heq ▸ hlisten)
    cases hcb : d.ble.connCb with
    | true =>
      exact hone (.connect c) (fun heq => hne (GatewayEvent.connect.inj heq))
        (by rw [Device.see, hcb, if_pos rfl]) rfl rfl
    | false =>
      exact hone (.listen c) GatewayEvent.noConfusion
        (by rw [Device.see, hcb, if_neg Bool.false_ne_true]) rfl rfl
  | disconnect c fate => exact hone (.disconnect c) GatewayEvent.noConfusion rfl rfl rfl
  | access c ctxt fate mtu =>
    cases hdata : (al1GattAccess ctxt).1 with
    | none =>
      refine hnone (by rw [Device.see, if_pos hrx, hdata]; rfl) ?_
      rw [DeviceEvent.writtenBy, hdata]
      split_ifs <;> rfl
    | some data =>
      refine hone (.write c data) GatewayEvent.noConfusion
        (by rw [Device.see, if_pos hrx, hdata]; rfl) ?_ rfl
      rw [DeviceEvent.writtenBy, GatewayEvent.writtenBy, hdata]
      rfl

/-- **While the central is in control**, what it writes passes, and at its writes nothing else. -/
theorem Simulated.run_through (hmax : maxPayload ≤ al1LinkMaxPayload)
    (hsim : Simulated maxPayload maxConn d g) (horderly : g.Orderly) (hrx : d.ble.rxCb = true)
    (hstream : g.streams conn = some acc) {events : List DeviceEvent}
    (hadm : Along (fun d e => (deviceStep maxPayload d e).1) (Device.Allowed maxConn) d events)
    (hkeeps : Along (fun d e => (deviceStep maxPayload d e).1)
      (fun d e => (deviceStep maxPayload d e).1.Controls conn) d events) :
    forwarded (outAt (deviceStep maxPayload) (DeviceEvent.isAccessOf conn) d events) =
      (run (Framer.step apVerdict) acc
        (events.flatMap (DeviceEvent.writtenBy conn))).2.filterMap ApUnit.frame? := by
  induction events generalizing d g acc with
  | nil => rfl
  | cons e events ih =>
    have hone := hsim.step_through hmax horderly hrx hstream hadm.1 hkeeps.1
    obtain ⟨hsim', hagree⟩ := (simulates hmax maxConn).step hsim hadm.1
    have hrest := ih hsim' (Gateway.orderly_run horderly _) (rxCb_deviceStep hrx e) hone.stream
      hadm.2 hkeeps.2
    rw [outAt, forwarded_append, hrest, List.flatMap_cons, run_append, List.filterMap_append]
    congr 1
    cases hown : e.isAccessOf conn with
    | true =>
      rw [if_pos rfl, hagree.forwarded]
      exact hone.up hown
    | false =>
      rw [if_neg Bool.false_ne_true, hone.other hown]
      rfl

end Device

/-! ## All the way -/

/-- A call of `al1_link_send` that drops its frame. -/
def DeviceOut.refused : DeviceOut → Bool
  | .forward _ err => err ≠ .ok
  | _ => false

/-- A central is served and between two frames, then it controls the device all along, and no call
of `al1_link_send` fails. -/
structure InCommand (maxPayload : ℕ) (conn : UInt16) (d : Device) (events : List DeviceEvent) :
    Prop where
  registered : d.ble.rxCb = true
  between : (slotFind d.ble.bridge.slots conn).map (·.reasm.state) = some .sync
  controls : Along (fun d e => (deviceStep maxPayload d e).1)
    (fun d e => (deviceStep maxPayload d e).1.Controls conn) d events
  sent : ∀ o ∈ (run (deviceStep maxPayload) d events).2, o.refused = false

section Delivery

variable {maxPayload maxConn peerMax : ℕ} {conn : UInt16}

/-- What the client has built. -/
theorem built_frames {requests : List ApMessage} {frames : List (List UInt8)}
    (h : requests.mapM (fun m => SmokeClient.buildFrame m.cmd m.payload) = some frames) :
    (∀ f ∈ frames, ApFrame f) ∧ (frames.filter fun f => ApCrcValid f).map apFrameMessage =
      requests := by
  induction requests generalizing frames with
  | nil =>
    obtain rfl : [] = frames := Option.some.inj h
    exact ⟨fun f hf => absurd hf List.not_mem_nil, rfl⟩
  | cons m requests ih =>
    rw [List.mapM_cons] at h
    obtain ⟨f, hf, h⟩ := Option.bind_eq_some_iff.mp h
    obtain ⟨rest, hrest, h⟩ := Option.bind_eq_some_iff.mp h
    obtain rfl : f :: rest = frames := Option.some.inj h
    rw [SmokeClient.buildFrame_eq] at hf
    split_ifs at hf with hfits
    obtain rfl := Option.some.inj hf
    obtain ⟨hwhole, hmessages⟩ := ih hrest
    refine ⟨List.forall_mem_cons.mpr ⟨apFrame_apPacketBytes _ hfits, hwhole⟩, ?_⟩
    rw [List.filter_cons, if_pos (decide_eq_true (apCrcValid_apPacketBytes _ _)), List.map_cons,
      apFrameMessage_apPacketBytes, hmessages]

/-- If no call fails, what is handed over is accepted. -/
theorem accepted_eq {out : List DeviceOut} (h : ∀ o ∈ out, o.refused = false) :
    accepted out = forwarded out := by
  refine List.filterMap_congr fun o ho => ?_
  cases o with
  | forward frame err =>
    have herr : err = .ok := by simpa [DeviceOut.refused] using h _ ho
    exact if_pos herr
  | uart _ | notify _ _ | access _ _ | log _ => rfl

/-- The payloads of frames that are all on AP_CTRL. -/
theorem apCtrlFrames_of_map {sent : List LinkFrame} {frames : List (List UInt8)}
    (h : sent.map (fun f => (f.channel, f.payload)) = frames.map fun f => (al1ChApCtrl, f)) :
    apCtrlFrames sent = frames := by
  induction sent generalizing frames with
  | nil =>
    cases frames with
    | nil => rfl
    | cons f frames => cases h
  | cons x sent ih =>
    cases frames with
    | nil => cases h
    | cons f frames =>
      rw [List.map_cons, List.map_cons, List.cons.injEq, Prod.mk.injEq] at h
      obtain ⟨⟨hchannel, hpayload⟩, hrest⟩ := h
      have hfirst : apCtrlFrames (x :: sent) = x.payload :: apCtrlFrames sent := by
        rw [apCtrlFrames, List.filter_cons, if_pos (decide_eq_true hchannel)]
        rfl
      rw [hfirst, ih hrest, hpayload]

/-- The frames of the central are accepted, each once and in order, between those that are accepted
otherwise. -/
theorem InCommand.accepted (hmax : maxPayload ≤ al1LinkMaxPayload)
    {before during : List DeviceEvent} (hadm : DeviceAllowed maxPayload maxConn (before ++ during))
    (h : InCommand maxPayload conn (deviceRun maxPayload maxConn before).1 during)
    {frames : List (List UInt8)} (hwhole : ∀ f ∈ frames, ApFrame f)
    (hwritten : during.flatMap (DeviceEvent.writtenBy conn) = frames.flatten) :
    let d := (deviceRun maxPayload maxConn before).1
    Interleave frames
      (Al1Wmod.accepted (outAt (deviceStep maxPayload) (fun e => !e.isAccessOf conn) d during))
      (Al1Wmod.accepted (run (deviceStep maxPayload) d during).2) := by
  intro d
  obtain ⟨hbefore, hduring⟩ := along_append.mp hadm
  rw [← run_fst] at hduring
  obtain ⟨hsim, -⟩ := simulated_run hmax hbefore
  have hstream : (gatewayRun maxPayload (deviceSeen maxPayload maxConn before)).1.streams conn =
      some [] := by
    have hslot := hsim.serves.inSlot conn
    have hbetween := h.between
    revert hslot hbetween
    generalize slotFind _ conn = slot
    generalize (gatewayRun _ _).1.streams conn = stream
    intro hslot hbetween
    cases slot with
    | none => cases hbetween
    | some slot =>
      cases stream with
      | none => exact hslot.elim
      | some acc =>
        have hacc := hslot.2
        rw [ReasmRepresents, show slot.reasm.state = .sync from Option.some.inj hbetween] at hacc
        rw [show acc = [] from hacc]
  have hthrough := hsim.run_through hmax (Gateway.orderly_run Gateway.orderly_init _)
    h.registered hstream hduring h.controls
  have hmerged := Interleave.run_out (deviceStep maxPayload) (DeviceEvent.isAccessOf conn) d during
  -- what the bytes of the central complete
  have hread : (run (Framer.step apVerdict) [] frames.flatten).2.filterMap ApUnit.frame? =
      frames := by
    rw [show run (Framer.step apVerdict) [] frames.flatten = ([], frames.map .frame) from
      apRun_frames hwhole, List.filterMap_map]
    exact List.filterMap_some
  have hown : Al1Wmod.accepted
      (outAt (deviceStep maxPayload) (DeviceEvent.isAccessOf conn) d during) = frames := by
    rw [accepted_eq fun o ho => h.sent o ((hmerged.mem_iff o).mpr (.inl ho)), hthrough, hwritten,
      hread]
  exact hown ▸ hmerged.filterMap _

/-- What the STM32 finds on AP_CTRL: what had been accepted, and then the first of what has been
accepted since. -/
theorem ctrl_on_wire (hmax : maxPayload ≤ al1LinkMaxPayload) (hpeer : maxPayload ≤ peerMax)
    {before after : List DeviceEvent} (hadm : DeviceAllowed maxPayload maxConn (before ++ after))
    (hrun : (deviceRun maxPayload maxConn before).1.link.running)
    (hturns : (deviceRun maxPayload maxConn before).1.link.sender.txQueue.length ≤
      after.countP DeviceEvent.txTurn) :
    ∃ later,
      later <+: accepted
        (run (deviceStep maxPayload) (deviceRun maxPayload maxConn before).1 after).2 ∧
      apCtrlFrames ((linkScan peerMax (uartOut (deviceRun maxPayload maxConn
        (before ++ after)).2)).filterMap LinkOutcome.frame?) =
          accepted (deviceRun maxPayload maxConn before).2 ++ later := by
  obtain ⟨l, hl, hout⟩ := sent_on_wire hmax hadm hrun hturns
  obtain ⟨l', hl'⟩ := accounted_run hmax hadm
  have hfits : ∀ {d : Device} {out : List DeviceOut} {l : Ledger}, Accounted maxPayload d out l →
      ∀ f ∈ l.sent, f.Fits peerMax := fun hl f hf =>
    ⟨(hl.balanced.fits f hf).1.trans hpeer, (hl.balanced.fits f hf).2⟩
  -- all that had been accepted is found
  have hfirst : accepted (deviceRun maxPayload maxConn before).2 <+:
      apCtrlFrames ((linkScan peerMax (uartOut (deviceRun maxPayload maxConn
        (before ++ after)).2)).filterMap LinkOutcome.frame?) := by
    have hscan := (linkScan_back (hfits hl) hout).filterMap LinkOutcome.frame?
    rw [filterMap_frame] at hscan
    rw [← apCtrlFrames_of_map hl.sent]
    exact (hscan.filter _).map _
  -- and nothing that has not been accepted
  have hall : apCtrlFrames ((linkScan peerMax (uartOut (deviceRun maxPayload maxConn
        (before ++ after)).2)).filterMap LinkOutcome.frame?) <+:
      accepted (deviceRun maxPayload maxConn (before ++ after)).2 := by
    have hscan := (linkScan_front (hfits hl') (hl'.wire ▸ hl'.balanced.onWire)).filterMap
      LinkOutcome.frame?
    rw [filterMap_frame] at hscan
    rw [← apCtrlFrames_of_map hl'.sent]
    exact (hscan.filter _).map _
  obtain ⟨later, hlater⟩ := hfirst
  refine ⟨later, ?_, hlater.symm⟩
  rw [← hlater, deviceRun, deviceRun, run_append, accepted_append] at hall
  exact (List.prefix_append_right_inj _).mp hall

/-- **What the controller asks for arrives.**  In a run of the device from boot, a central that is
in control writes frames of `build_frame`, in any pieces; then the TX task takes as many turns as
there are items in the queue.  The STM32, which puts what it reads on AP_CTRL into its AP parser,
has received these requests, each once, in order and undamaged; between them it has received what
has been accepted otherwise, and nothing else. -/
theorem command_delivered (hmax : maxPayload ≤ al1LinkMaxPayload) (hpeer : maxPayload ≤ peerMax)
    {before during after : List DeviceEvent}
    (hadm : DeviceAllowed maxPayload maxConn (before ++ during ++ after))
    (hcommand : InCommand maxPayload conn (deviceRun maxPayload maxConn before).1 during)
    {requests : List ApMessage} {frames : List (List UInt8)}
    (hbuilt : requests.mapM (fun m => SmokeClient.buildFrame m.cmd m.payload) = some frames)
    (hwritten : during.flatMap (DeviceEvent.writtenBy conn) = frames.flatten)
    (hrun : (deviceRun maxPayload maxConn (before ++ during)).1.link.running)
    (hturns : (deviceRun maxPayload maxConn (before ++ during)).1.link.sender.txQueue.length ≤
      after.countP DeviceEvent.txTurn) {p : ApParser} (hp : p.state = .sync) :
    let r := deviceRun maxPayload maxConn before
    let line := uartOut (deviceRun maxPayload maxConn (before ++ during ++ after)).2
    ∃ later,
      later <+: accepted (run (deviceStep maxPayload)
        (deviceRun maxPayload maxConn (before ++ during)).1 after).2 ∧
      Interleave requests
        (((accepted r.2 ++ accepted (outAt (deviceStep maxPayload) (fun e => !e.isAccessOf conn)
          r.1 during) ++ later).filter fun f => ApCrcValid f).map apFrameMessage)
        (run apReceiveByte p (apCtrlFrames
          ((linkScan peerMax line).filterMap LinkOutcome.frame?)).flatten).2 := by
  intro r line
  obtain ⟨hwhole, hmessages⟩ := built_frames hbuilt
  have haccepted := hcommand.accepted hmax (along_append.mp hadm).1 hwhole hwritten
  obtain ⟨later, hlater, hctrl⟩ := ctrl_on_wire hmax hpeer hadm hrun hturns
  refine ⟨later, hlater, ?_⟩
  have hsplit : accepted (deviceRun maxPayload maxConn (before ++ during)).2 =
      accepted r.2 ++ accepted (run (deviceStep maxPayload) r.1 during).2 := by
    rw [deviceRun, run_append, accepted_append]
    rfl
  have hall : Interleave frames
      (accepted r.2 ++ accepted (outAt (deviceStep maxPayload) (fun e => !e.isAccessOf conn)
        r.1 during) ++ later)
      (accepted (deviceRun maxPayload maxConn (before ++ during)).2 ++ later) := by
    have h := ((Interleave.refl_right (accepted r.2)).append haccepted).append
      (Interleave.refl_right later)
    rwa [List.nil_append, List.append_nil, ← hsplit] at h
  have hframes : ∀ f ∈ accepted (deviceRun maxPayload maxConn (before ++ during)).2 ++ later,
      ApFrame f := by
    obtain ⟨l, hl⟩ := accounted_run hmax hadm
    intro f hf
    refine hl.whole f ?_
    rw [deviceRun, run_append, accepted_append]
    rcases List.mem_append.mp hf with hf | hf
    · exact List.mem_append_left _ hf
    · exact List.mem_append_right _ (hlater.subset hf)
  rw [hctrl, (run_apReceiveByte_frames hp hframes).2, ← hmessages]
  exact (hall.filter _).map _

end Delivery

/-- A central claims and is granted control; then it sets the colour in two writes, while another
central connects and pings the device. -/
def colour (fate : ℕ → SendOutcome) : List DeviceEvent × List DeviceEvent :=
  (appMain ++ [.connect 1,
      .access 1 ⟨true, true, some (apPacketBytes apCmdClaim [])⟩ fate fun _ => 23,
      .rx 0 ⟨true, granted.encode⟩ fun _ => 23],
    [.access 1 ⟨true, true, some [0xA5, 4, 0x21, 255]⟩ fate fun _ => 23, .connect 2,
      .access 2 ⟨true, true, some (apPacketBytes apCmdPing [])⟩ fate fun _ => 23,
      .access 1 ⟨true, true, some [0, 0, apCrc8 [4, 0x21, 255, 0, 0]]⟩ fate fun _ => 23])

/-- Three frames are queued, and the STM32 receives the colour, and of the rest the claim and the
ping. -/
theorem command_delivered_colour :
    let run₂ := colour fun _ => ⟨some fun _ => 0xEE, true⟩
    let line := uartOut (deviceRun al1LinkMaxPayload al1BleMaxConn
      (run₂.1 ++ run₂.2 ++ [.tx 0, .tx 0, .tx 0])).2
    Interleave [⟨apCmdSetRgb, [255, 0, 0]⟩] [⟨apCmdClaim, []⟩, ⟨apCmdPing, []⟩]
      (run apReceiveByte ⟨.sync, 9, 7, fun _ => 0xA5, ⟨1, 2, fun _ => 3⟩⟩ (apCtrlFrames
        ((linkScan al1LinkMaxPayload line).filterMap LinkOutcome.frame?)).flatten).2 := by
  intro run₂ line
  obtain ⟨later, hlater, h⟩ := @command_delivered al1LinkMaxPayload al1BleMaxConn
    al1LinkMaxPayload 1 le_rfl le_rfl run₂.1 run₂.2 [.tx 0, .tx 0, .tx 0] (by decide +kernel)
    ⟨by decide +kernel, by decide +kernel, by decide +kernel, by decide +kernel⟩
    [⟨apCmdSetRgb, [255, 0, 0]⟩] [apPacketBytes apCmdSetRgb [255, 0, 0]] (by decide +kernel)
    (by decide +kernel) (by decide +kernel) (by decide +kernel)
    ⟨.sync, 9, 7, fun _ => 0xA5, ⟨1, 2, fun _ => 3⟩⟩ rfl
  have hnone : accepted (run (deviceStep al1LinkMaxPayload)
      (deviceRun al1LinkMaxPayload al1BleMaxConn (run₂.1 ++ run₂.2)).1
      [.tx 0, .tx 0, .tx 0]).2 = [] := by decide +kernel
  obtain rfl : later = [] := List.prefix_nil.mp (hnone ▸ hlater)
  have hrest : ((accepted (deviceRun al1LinkMaxPayload al1BleMaxConn run₂.1).2 ++
      accepted (outAt (deviceStep al1LinkMaxPayload) (fun e => !e.isAccessOf 1)
        (deviceRun al1LinkMaxPayload al1BleMaxConn run₂.1).1 run₂.2) ++ []).filter
          fun f => ApCrcValid f).map apFrameMessage = [⟨apCmdClaim, []⟩, ⟨apCmdPing, []⟩] := by
    decide +kernel
  exact hrest ▸ h

/-! ## And back -/

section Back

variable {maxPayload : ℕ} {g : Gateway} {conn c : UInt16}

end Back

/-- It controls the device, and nobody has asked to. -/
def Device.Alone (conn : UInt16) (d : Device) : Prop :=
  d.Controls conn ∧ d.ble.bridge.session.pendingClaimConn = connNone

instance Device.decidableAlone (conn : UInt16) : DecidablePred (Device.Alone conn) :=
  fun _ => inferInstanceAs (Decidable (_ ∧ _))

section Hears

variable {maxPayload maxConn : ℕ} {d : Device} {g : Gateway} {conn : UInt16}

end Hears

end Al1Wmod
