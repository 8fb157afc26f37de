import Al1Wmod.Ble.Trace

/-!
# The connection registry

`al1_ble.c` keeps its own table of active connections, for broadcasts.  It is filled and cleared
in the GAP event handler right before the bridge's callback runs, by the same first-fit rules, so
it holds the same handles as the slots of the bridge, entry by entry.
-/

namespace Al1Wmod

/-- `al1_ble_conn_t`. -/
structure Al1BleConn where
  inUse : Bool
  handle : UInt16
  deriving DecidableEq, Repr

/-- `conn_add`. -/
def connAdd (handle : UInt16) (conns : List Al1BleConn) : List Al1BleConn :=
  FirstFit.put Al1BleConn.inUse (fun _ => ⟨true, handle⟩) conns

/-- `conn_remove`. -/
def connRemove (handle : UInt16) (conns : List Al1BleConn) : List Al1BleConn :=
  FirstFit.update Al1BleConn.inUse Al1BleConn.handle handle (fun c => { c with inUse := false })
    conns

/-- The table at boot: zero. -/
def connsBoot (maxConn : ℕ) : List Al1BleConn := List.replicate maxConn ⟨false, 0⟩

/-- The connections that `al1_ble_notify_all` notifies. -/
def registered (conns : List Al1BleConn) : List UInt16 :=
  FirstFit.keys Al1BleConn.inUse Al1BleConn.handle conns

/-- The calls of `al1_ble_notify_conn` that an action makes. -/
def Action.notified (conns : List Al1BleConn) : Action → List (UInt16 × List UInt8)
  | .linkSend _ _ => []
  | .notifyConn conn data => [(conn, data)]
  | .notifyAll data => (registered conns).map fun conn => (conn, data)

/-- The two tables have the same entries. -/
def Agree (conns : List Al1BleConn) (slots : List BridgeSlot) : Prop :=
  conns.map (fun c => (c.inUse, c.handle)) = slots.map fun s => (s.inUse, s.handle)

theorem Agree.registered {conns : List Al1BleConn} {b : Bridge} (h : Agree conns b.slots) :
    registered conns = b.handles := FirstFit.keys_eq_of_map_eq h

theorem agree_boot (maxConn : ℕ) :
    Agree (connsBoot maxConn) (al1BleApBridgeInit (bridgeBoot maxConn)).slots := by
  simp [Agree, connsBoot, al1BleApBridgeInit, bridgeBoot]

section Events

variable {conns : List Al1BleConn} {b : Bridge}

theorem Agree.connect (h : Agree conns b.slots) (handle : UInt16) :
    Agree (connAdd handle conns) (onConnEvt b handle true).1.slots :=
  FirstFit.map_put (p := fun c : Al1BleConn => (c.inUse, c.handle))
    (q := fun s : BridgeSlot => (s.inUse, s.handle)) (fun _ _ hab => (Prod.mk.inj hab).1)
    (fun _ _ _ => rfl) h

theorem Agree.disconnect (h : Agree conns b.slots) (handle : UInt16) :
    Agree (connRemove handle conns) (onConnEvt b handle false).1.slots :=
  FirstFit.map_update (p := fun c : Al1BleConn => (c.inUse, c.handle))
    (q := fun s : BridgeSlot => (s.inUse, s.handle)) (fun _ _ hab => Prod.mk.inj hab)
    (fun _ _ hab => congrArg (Prod.mk false) (Prod.mk.inj hab).2) h

theorem Agree.write (h : Agree conns b.slots) (handle : UInt16) (data : List UInt8) :
    Agree conns (onBleWrite b handle data).1.slots := by
  rw [onBleWrite]
  cases slotFind b.slots handle with
  | none => exact h
  | some s => exact h.trans (map_slotUpdate_reasm b.slots handle _).symm

end Events

end Al1Wmod
