import Al1Wmod.Ble.Reassembler
import Al1Wmod.Link.Frame
import Al1Wmod.Stream.FirstFit

/-!
# The AP bridge

`al1_ble_ap_bridge.c`.  The bridge keeps one reassembler for each connected central, and a
session: who controls the device, the session id, and who is waiting for the OK to a CLAIM.
Its callbacks come from the host task (connections and writes) and from the link's receive task
(frames of the STM32).

What the bridge does to the outside is a list of actions.  No callback looks at what
`al1_link_send` or a notification returned, so the actions do not depend on it.

Each callback leaves entries in a history: the call, the session before and after, and the
actions.  A write is one entry, followed by one for each whole frame it completes.
-/

namespace Al1Wmod

open Buffer Transducer

/-- `CONN_NONE`, that is `BLE_HS_CONN_HANDLE_NONE`. -/
def connNone : UInt16 := 0xFFFF

/-- `AP_OFF_LEN`. -/
def apOffLen : ℕ := 1

/-- `AP_OFF_CMD`. -/
def apOffCmd : ℕ := 2

/-- `AP_OFF_PAYLOAD`. -/
def apOffPayload : ℕ := 3

/-- `s_controlling_conn`, `s_session_id` and `s_pending_claim_conn`. -/
structure Session where
  controllingConn : UInt16
  sessionId : UInt16
  pendingClaimConn : UInt16
  deriving DecidableEq, Repr

/-- What a callback does to the outside: `al1_link_send`, `al1_ble_notify_conn` and
`al1_ble_notify_all`. -/
inductive Action where
  | linkSend (channel : UInt8) (payload : List UInt8)
  | notifyConn (conn : UInt16) (data : List UInt8)
  | notifyAll (data : List UInt8)
  deriving DecidableEq, Repr

/-! ## The session -/

/-- The CMD byte of a whole frame, `0xFF` when the frame is too short to have one. -/
def apCmd (frame : List UInt8) : UInt8 := frame.getD apOffCmd 0xFF

/-- The CMD byte behind a pointer, for a payload of `len` bytes. -/
def apPeek (payload : ℕ → UInt8) (len : UInt16) : UInt8 :=
  if apOffCmd < len.toNat then payload apOffCmd else 0xFF

/-- `clear_binding`. -/
def clearBinding (s : Session) : Session := { s with controllingConn := connNone, sessionId := 0 }

/-- `forward_to_stm32`. -/
def forwardToStm32 (frame : List UInt8) : List Action := [.linkSend al1ChApCtrl frame]

/-- The packet of `reject_not_controller`.  It is built in a buffer on the stack. -/
def notControllerPacket : List UInt8 :=
  written (apBuildError (some fun _ => 0) (apMinPacketSize + 1) .notController)

/-- `reject_not_controller`. -/
def rejectNotController (conn : UInt16) : List Action := [.notifyConn conn notControllerPacket]

/-- The packet `on_conn_evt` synthesizes for a controller that drops. -/
def releasePacket : List UInt8 :=
  written (apBuildPacket (some fun _ => 0) apMinPacketSize apCmdRelease none 0)

/-- `on_ap_frame`: a whole frame from the slot of `conn` is ready. -/
def onApFrame (s : Session) (conn : UInt16) (frame : List UInt8) : Session × List Action :=
  let cmd := apCmd frame
  if cmd = apCmdClaim then ({ s with pendingClaimConn := conn }, forwardToStm32 frame)
  else if conn = s.controllingConn then
    (if cmd = apCmdRelease then clearBinding s else s, forwardToStm32 frame)
  else if apCmdRequiresClaim cmd then (s, rejectNotController conn)
  -- the STM32 decides about claim-free commands itself
  else (s, forwardToStm32 frame)

/-- What `on_conn_evt` does to the session when a central disconnects. -/
def dropSession (s : Session) (handle : UInt16) : Session × List Action :=
  let t := if handle = s.pendingClaimConn then { s with pendingClaimConn := connNone } else s
  if handle = s.controllingConn then (clearBinding t, forwardToStm32 releasePacket) else (t, [])

/-- `al1_ble_ap_bridge_on_link_ap`.  The session id is read behind the pointer without a look at
`len`. -/
def al1BleApBridgeOnLinkAp (s : Session) (payload : ℕ → UInt8) (len : UInt16) :
    Session × List Action :=
  let cmd := apPeek payload len
  let data := slice payload 0 len.toNat
  if cmd = apCmdOk ∧ s.pendingClaimConn ≠ connNone then
    let apLen := payload apOffLen
    ({ controllingConn := s.pendingClaimConn
       sessionId :=
        if 3 ≤ apLen then
          (payload apOffPayload).toUInt16 <<< 8 ||| (payload (apOffPayload + 1)).toUInt16
        else s.sessionId
       pendingClaimConn := connNone },
      [.notifyConn s.pendingClaimConn data])
  else if cmd = apCmdEvtSessionEnd then
    (clearBinding s,
      if s.controllingConn ≠ connNone then [.notifyConn s.controllingConn data] else [])
  else
    (s, if s.controllingConn ≠ connNone then [.notifyConn s.controllingConn data]
      else [.notifyAll data])

/-- A call into the bridge, or from the reassembler back into it. -/
inductive Call where
  | connEvt (handle : UInt16) (connected : Bool)
  | bleWrite (handle : UInt16) (data : List UInt8)
  | apFrame (conn : UInt16) (frame : List UInt8)
  | linkAp (payload : ℕ → UInt8) (len : UInt16)

/-- What a call does to the session. -/
def Session.call (s : Session) : Call → Session × List Action
  | .connEvt handle connected => if connected then (s, []) else dropSession s handle
  | .bleWrite _ _ => (s, [])
  | .apFrame conn frame => onApFrame s conn frame
  | .linkAp payload len => al1BleApBridgeOnLinkAp s payload len

/-- One line of the history. -/
structure Entry where
  call : Call
  before : Session
  after : Session
  acts : List Action

/-- The entry a call leaves. -/
def Session.entry (s : Session) (c : Call) : Entry := ⟨c, s, (s.call c).1, (s.call c).2⟩

/-- A call, as a transducer that puts out its entry. -/
def Session.record (s : Session) (c : Call) : Session × List Entry := ((s.call c).1, [s.entry c])

/-! ## The slots -/

/-- `bridge_slot_t`. -/
structure BridgeSlot where
  inUse : Bool
  handle : UInt16
  reasm : ApReasm

/-- The static variables of the bridge. -/
structure Bridge where
  slots : List BridgeSlot
  session : Session

/-- `slot_find`. -/
def slotFind (slots : List BridgeSlot) (handle : UInt16) : Option BridgeSlot :=
  slots.find? fun s => s.inUse && s.handle == handle

/-- A change of the slot that `slot_find` returns. -/
def slotUpdate (slots : List BridgeSlot) (handle : UInt16) (f : BridgeSlot → BridgeSlot) :
    List BridgeSlot :=
  FirstFit.update BridgeSlot.inUse BridgeSlot.handle handle f slots

/-- The slot of a new connection. -/
def BridgeSlot.open (handle : UInt16) (s : BridgeSlot) : BridgeSlot :=
  { inUse := true, handle := handle, reasm := apReasmInit s.reasm true }

/-- A slot given up: its handle and its reassembler stay as they are. -/
def BridgeSlot.free (s : BridgeSlot) : BridgeSlot := { s with inUse := false }

/-- `on_conn_evt`. -/
def onConnEvt (b : Bridge) (handle : UInt16) (connected : Bool) : Bridge × List Entry :=
  if connected then
    ({ b with slots := FirstFit.put BridgeSlot.inUse (BridgeSlot.open handle) b.slots },
      [b.session.entry (.connEvt handle true)])
  else
    ({ slots := slotUpdate b.slots handle BridgeSlot.free
       session := (dropSession b.session handle).1 },
      [b.session.entry (.connEvt handle false)])

/-- `on_ble_write`: the reassembler calls `on_ap_frame` with each frame it completes. -/
def onBleWrite (b : Bridge) (handle : UInt16) (data : List UInt8) : Bridge × List Entry :=
  match slotFind b.slots handle with
  | none => (b, [b.session.entry (.bleWrite handle data)])
  | some s =>
    let r := apReasmFeed s.reasm data
    let t := run Session.record b.session (r.2.map fun c => .apFrame s.handle c.bytes)
    ({ slots := slotUpdate b.slots handle fun s => { s with reasm := r.1 }
       session := t.1 },
      b.session.entry (.bleWrite handle data) :: t.2)

/-- The callbacks of the bridge, as they come in. -/
inductive BleEvent where
  | connEvt (handle : UInt16) (connected : Bool)
  | write (handle : UInt16) (data : List UInt8)
  | linkAp (payload : ℕ → UInt8) (len : UInt16)

/-- One callback. -/
def bridgeStep (b : Bridge) : BleEvent → Bridge × List Entry
  | .connEvt handle connected => onConnEvt b handle connected
  | .write handle data => onBleWrite b handle data
  | .linkAp payload len =>
    ({ b with session := (al1BleApBridgeOnLinkAp b.session payload len).1 },
      [b.session.entry (.linkAp payload len)])

/-- `al1_ble_ap_bridge_init`. -/
def al1BleApBridgeInit (b : Bridge) : Bridge :=
  { b with session := ⟨connNone, 0, connNone⟩ }

/-- `AL1_BLE_MAX_CONN`, unless overridden at build time. -/
def al1BleMaxConn : ℕ := 3

/-- The static variables at boot: zero. -/
def bridgeBoot (maxConn : ℕ) : Bridge :=
  { slots := List.replicate maxConn
      { inUse := false
        handle := 0
        reasm :=
          { state := .sync, need := 0, idx := 0, frame := fun _ => 0, cb := false, frames := 0
            lenErr := 0 } }
    session := ⟨connNone, 0, connNone⟩ }

/-! ## What a callback calls -/

/-- The calls a callback makes. -/
def Bridge.calls (b : Bridge) : BleEvent → List Call
  | .connEvt handle connected => [.connEvt handle connected]
  | .write handle data =>
    .bleWrite handle data ::
      match slotFind b.slots handle with
      | none => []
      | some s => (apReasmFeed s.reasm data).2.map fun c => .apFrame handle c.bytes
  | .linkAp payload len => [.linkAp payload len]

theorem slotFind_handle {slots : List BridgeSlot} {handle : UInt16} {s : BridgeSlot}
    (h : slotFind slots handle = some s) : s ∈ slots ∧ s.inUse ∧ s.handle = handle :=
  FirstFit.find?_eq_some h

/-- **Only the calls matter to the session.**  A callback is its calls, one after another. -/
theorem bridgeStep_session (b : Bridge) (e : BleEvent) :
    run Session.record b.session (b.calls e) =
      ((bridgeStep b e).1.session, (bridgeStep b e).2) := by
  cases e with
  | connEvt handle connected => cases connected <;> rfl
  | linkAp payload len => rfl
  | write handle data =>
    rw [Bridge.calls, bridgeStep, onBleWrite]
    cases h : slotFind b.slots handle with
    | none => rfl
    | some s =>
      simp only [run_cons, (slotFind_handle h).2.2]
      rfl

end Al1Wmod
