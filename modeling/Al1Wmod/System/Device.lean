import Al1Wmod.Ble.Boot
import Al1Wmod.Ble.Contiguity
import Al1Wmod.Link.Ledger
import Al1Wmod.System.Gateway

/-!
# The device

`main.c`, and all that it starts.  `app_main` registers `on_frame`, starts the link, starts BLE and
initialises the bridge, and returns.  From then on, and in part before, three tasks run: the RX
task reads the UART and calls `on_frame` out of the parser, the TX task writes what is queued, and
the NimBLE host task calls `al1_ble_gap_event` and `al1_gatt_access`.

A step is a step of `app_main`, a turn of a task of the link, or a callback of the host, and each
runs to its end before the next begins.  A turn of the RX task may read any number of bytes.
Whatever may fail, fails as the event says: `malloc`, the queue, the drivers, the tasks, the copy of
a write.  What the firmware hands to the drivers is put out.

On the chip the RX task and the host task can also interrupt each other in the middle of a turn or
of a callback.  What may come of that is not here: `Ble.Contiguity` has the notifications of both
tasks in every order, `Ble.Race` the accesses to the session, `Ble.Broadcast` the accesses to the
registry, and `Link.Atomicity` shows that for the tasks of the link it makes no difference.
-/

namespace Al1Wmod

open Buffer Transducer

/-- What `al1_gatt_access` returns to the host. -/
inductive AttCode where
  | ok | invalidAttrValueLen | unlikely
  deriving DecidableEq, Repr

/-- `struct ble_gatt_access_ctxt`, as far as `al1_gatt_access` looks: whether a characteristic is
written, whether it is TX, and what `ble_hs_mbuf_to_flat` makes of the data; `none` is an error. -/
structure GattAccess where
  writeChr : Bool
  tx : Bool
  flat : Option (List UInt8)
  deriving DecidableEq, Repr

/-- `al1_gatt_access`: the data for `al1_ble_dispatch_write`, and the code. -/
def al1GattAccess (ctxt : GattAccess) : Option (List UInt8) × AttCode :=
  if ctxt.writeChr ∧ ctxt.tx then
    match ctxt.flat with
    -- rejected, not cut to what fits
    | none => (none, .invalidAttrValueLen)
    | some buf => (some buf, .ok)
  else (none, .unlikely)

/-- What the firmware hands to the drivers and the log. -/
inductive DeviceOut where
  /-- `uart_write_bytes`. -/
  | uart (bytes : List UInt8)
  /-- `forward_to_stm32`, with what `al1_link_send` returned. -/
  | forward (frame : List UInt8) (err : EspErr)
  /-- `al1_gatt_notify`. -/
  | notify (conn : UInt16) (data : List UInt8)
  /-- The code for an access. -/
  | access (conn : UInt16) (code : AttCode)
  /-- `ESP_LOGI` with the tag `STM32`. -/
  | log (line : List UInt8)
  deriving DecidableEq, Repr

/-- The firmware, and the centrals that NimBLE has connected. -/
structure Device where
  /-- `s_link.user_cb` is `on_frame`; otherwise it is NULL. -/
  userCb : Bool
  /-- `al1_link_start` has returned. -/
  started : Bool
  link : SLink
  ble : Boot
  connected : Finset UInt16

/-- The static variables as they are initialised, and `app_main` at its first step. -/
def deviceBoot (maxConn : ℕ) : Device := ⟨false, false, linkBoot, Boot.init maxConn, ∅⟩

/-- What can happen. -/
inductive DeviceEvent where
  | setLinkCb
  | linkStart (o : StartOutcome)
  | bleStart (ok : Bool)
  | resetSession
  | setConnEvtCb
  | setRxCb
  /-- A turn of the RX task in place `k`; `mtu` is what `ble_att_mtu` returns meanwhile. -/
  | rx (k : ℕ) (o : RxOutcome) (mtu : UInt16 → UInt16)
  | tx (k : ℕ)
  | connect (conn : UInt16)
  /-- `fate k` is what happens in the call of `al1_link_send` after `k` more calls. -/
  | disconnect (conn : UInt16) (fate : ℕ → SendOutcome)
  | access (conn : UInt16) (ctxt : GattAccess) (fate : ℕ → SendOutcome) (mtu : UInt16 → UInt16)

/-! ## The callbacks -/

/-- The calls of `al1_gatt_notify` for some data to some connections. -/
def notifyOut (mtu : UInt16 → UInt16) (data : List (UInt16 × List UInt8)) : List DeviceOut :=
  data.flatMap fun d => (NotifyCall.mk d.1 (mtu d.1) d.2).fragments.map (.notify d.1)

/-- A frame that the bridge hands to `al1_link_send`. -/
def forwardCall (channel : UInt8) (frame : List UInt8) (o : SendOutcome) : SendCall :=
  ⟨channel, some (ofList 0 frame), UInt16.ofNat frame.length, o⟩

/-- What `al1_link_send` returns. -/
def SLink.sendErr (maxPayload : ℕ) (s : SLink) (c : SendCall) : EspErr :=
  (al1LinkSend maxPayload s.sender c.channel c.payload c.len c.outcome).2

/-- What the bridge does to the outside in a callback. -/
def Device.perform (maxPayload : ℕ) (mtu : UInt16 → UInt16) (d : Device) :
    List Action → (ℕ → SendOutcome) → Device × List DeviceOut
  | [], _ => (d, [])
  | .linkSend channel frame :: acts, fate =>
    let c := forwardCall channel frame (fate 0)
    let t := Device.perform maxPayload mtu
      { d with link := lifecycleNext maxPayload d.link (.send c) } acts fun k => fate (k + 1)
    (t.1, .forward frame (d.link.sendErr maxPayload c) :: t.2)
  | a :: acts, fate =>
    let t := Device.perform maxPayload mtu d acts fate
    (t.1, notifyOut mtu (a.notified d.ble.conns) ++ t.2)

/-- `on_frame`. -/
def onFrame (mtu : UInt16 → UInt16) (d : Device) (c : Al1FrameCall) : Device × List DeviceOut :=
  if c.channel = al1ChApCtrl then
    ({ d with ble := bootStep d.ble (.linkAp c.payload c.len) },
      notifyOut mtu ((al1BleApBridgeOnLinkAp d.ble.bridge.session c.payload c.len).2.flatMap
        (Action.notified d.ble.conns)))
  -- the text is printed up to its first NUL
  else if c.channel = al1ChLog then (d, [.log (c.frame.payload.takeWhile (· ≠ 0))])
  else (d, [])

/-- `parser_trampoline`. -/
def parserTrampoline (mtu : UInt16 → UInt16) (d : Device) (c : Al1FrameCall) :
    Device × List DeviceOut :=
  if d.userCb then onFrame mtu d c else (d, [])

/-- The calls of `parser_trampoline` in a turn of the RX task. -/
def Device.frameCalls (maxPayload : ℕ) (d : Device) (k : ℕ) (o : RxOutcome) : List Al1FrameCall :=
  if d.link.reads k o then
    d.link.parser.elim [] fun p =>
      (al1ParserFeed maxPayload { p with stats := some d.link.stats } o.bytes).2
  else []

/-- What the bridge does when a central disconnects. -/
def Device.dropActs (d : Device) (conn : UInt16) : List Action :=
  if d.ble.connCb then (onConnEvt d.ble.bridge conn false).2.flatMap Entry.acts else []

/-- What the bridge does with a write. -/
def Device.writeActs (d : Device) (conn : UInt16) (data : List UInt8) : List Action :=
  if d.ble.rxCb then (onBleWrite d.ble.bridge conn data).2.flatMap Entry.acts else []

/-- One step. -/
def deviceStep (maxPayload : ℕ) (d : Device) : DeviceEvent → Device × List DeviceOut
  | .setLinkCb => ({ d with userCb := true }, [])
  | .linkStart o => ({ d with started := true, link := (al1LinkStart d.link none o).1 }, [])
  | .bleStart ok => ({ d with ble := bootStep d.ble (.bleStart ok) }, [])
  | .resetSession => ({ d with ble := bootStep d.ble .resetSession }, [])
  | .setConnEvtCb => ({ d with ble := bootStep d.ble .setConnEvtCb }, [])
  | .setRxCb => ({ d with ble := bootStep d.ble .setRxCb }, [])
  | .rx k o mtu =>
    run (parserTrampoline mtu) { d with link := rxTaskStep maxPayload d.link k o }
      (d.frameCalls maxPayload k o)
  | .tx k =>
    ({ d with link := txTaskStep d.link k },
      if d.link.writes k then (d.link.sender.txQueue.take 1).map fun i => .uart i.bytes else [])
  | .connect conn =>
    ({ d with
       ble := bootStep d.ble (.connect conn), connected := insert conn d.connected }, [])
  | .disconnect conn fate =>
    Device.perform maxPayload (fun _ => 0)
      { d with ble := bootStep d.ble (.disconnect conn), connected := d.connected.erase conn }
      (d.dropActs conn) fate
  | .access conn ctxt fate mtu =>
    match al1GattAccess ctxt with
    | (none, code) => (d, [.access conn code])
    | (some data, code) =>
      let r := Device.perform maxPayload mtu
        { d with ble := bootStep d.ble (.write conn data) } (d.writeActs conn data) fate
      (r.1, r.2 ++ [.access conn code])

/-- What may come next.  `app_main` takes its steps in order.  The host task runs once
`al1_ble_start` has started it.  NimBLE reports a handle connected only while it is not, at most
`maxConn` of them at once, and never uses `BLE_HS_CONN_HANDLE_NONE` for one. -/
def Device.Allowed (maxConn : ℕ) (d : Device) : DeviceEvent → Prop
  | .setLinkCb => d.userCb = false
  | .linkStart _ => d.userCb = true ∧ d.started = false
  | .bleStart _ => d.started = true ∧ d.ble.pc = .start
  | .resetSession => d.ble.pc = .hostUp
  | .setConnEvtCb => d.ble.pc = .sessionReset
  | .setRxCb => d.ble.pc = .connCbSet
  | .rx _ _ _ | .tx _ => True
  | .connect conn =>
    (d.ble.pc ≠ .start ∧ d.ble.pc ≠ .failed) ∧ conn ≠ connNone ∧ conn ∉ d.connected ∧
      d.connected.card < maxConn
  | .disconnect conn _ => (d.ble.pc ≠ .start ∧ d.ble.pc ≠ .failed) ∧ conn ≠ connNone
  | .access _ _ _ _ => d.ble.pc ≠ .start ∧ d.ble.pc ≠ .failed

instance Device.decidableAllowed (maxConn : ℕ) (d : Device) : ∀ e, Decidable (d.Allowed maxConn e)
  | .setLinkCb | .resetSession | .setConnEvtCb | .setRxCb => inferInstanceAs (Decidable (_ = _))
  | .linkStart _ | .bleStart _ | .connect _ | .disconnect _ _ | .access _ _ _ _ =>
    inferInstanceAs (Decidable (_ ∧ _))
  | .rx _ _ _ | .tx _ => inferInstanceAs (Decidable True)

/-- A run from boot. -/
def deviceRun (maxPayload maxConn : ℕ) (events : List DeviceEvent) : Device × List DeviceOut :=
  run (deviceStep maxPayload) (deviceBoot maxConn) events

/-- Events that may happen one after another. -/
abbrev DeviceAllowed (maxPayload maxConn : ℕ) (events : List DeviceEvent) : Prop :=
  Machine.Along (fun d e => (deviceStep maxPayload d e).1) (Device.Allowed maxConn)
    (deviceBoot maxConn) events

/-! ## What an observer sees -/

/-- The bytes that a central is notified. -/
def notifiedTo (conn : UInt16) (out : List DeviceOut) : List UInt8 :=
  out.flatMap fun
    | .notify c data => if c = conn then data else []
    | _ => []

/-- The frames that are handed to `al1_link_send`. -/
def forwarded (out : List DeviceOut) : List (List UInt8) :=
  out.filterMap fun
    | .forward frame _ => some frame
    | _ => none

/-- The frames for which `al1_link_send` returned OK. -/
def accepted (out : List DeviceOut) : List (List UInt8) :=
  out.filterMap fun
    | .forward frame err => if err = .ok then some frame else none
    | _ => none

/-- The log lines. -/
def logged (out : List DeviceOut) : List (List UInt8) :=
  out.filterMap fun
    | .log line => some line
    | _ => none

/-- The bytes that are written to the UART. -/
def uartOut (out : List DeviceOut) : List UInt8 :=
  out.flatMap fun
    | .uart bytes => bytes
    | _ => []

section Observers

variable (conn : UInt16) (out out' : List DeviceOut)

@[simp] theorem notifiedTo_append :
    notifiedTo conn (out ++ out') = notifiedTo conn out ++ notifiedTo conn out' :=
  List.flatMap_append

@[simp] theorem forwarded_append : forwarded (out ++ out') = forwarded out ++ forwarded out' :=
  List.filterMap_append

@[simp] theorem accepted_append : accepted (out ++ out') = accepted out ++ accepted out' :=
  List.filterMap_append

@[simp] theorem logged_append : logged (out ++ out') = logged out ++ logged out' :=
  List.filterMap_append

@[simp] theorem uartOut_append : uartOut (out ++ out') = uartOut out ++ uartOut out' :=
  List.flatMap_append

end Observers

end Al1Wmod
