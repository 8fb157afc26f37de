import Al1Wmod.Ble.Registry
import Al1Wmod.Ble.Session

/-!
# The bridge and the STM32

The bridge with the STM32 at the other end of the link.  Between them are two queues: the frames
that `al1_link_send` has accepted and the STM32 has not handled, and the frames of the STM32 that
have not reached the bridge.  A step is a callback of the host task, the STM32 answering the
oldest forwarded frame, the STM32 sending an event, or the oldest frame of the STM32 reaching
`al1_ble_ap_bridge_on_link_ap`.

The STM32 is not part of the repository.  Of its answers it is assumed that there is exactly one
for each forwarded frame, an OK or an ERROR, in the order of the frames; its events are anything
else.  `held` is its BLE session: an OK to a CLAIM takes it, an OK to a RELEASE and an
EVT_SESSION_END give it up.

Each forwarded frame remembers who wrote it, and in which of its connections.
-/

namespace Al1Wmod

open PastTime Machine

/-- How often `conn` has connected. -/
def epoch (conn : UInt16) (hist : List Entry) : ℕ := hist.countP fun e => e.call.connects conn

/-- A frame that `al1_link_send` has accepted. -/
structure Forwarded where
  conn : UInt16
  epoch : ℕ
  frame : List UInt8
  deriving DecidableEq, Repr

/-- A frame of the STM32 on its way, and the forwarded frame it answers. -/
structure Downlink where
  payload : ℕ → UInt8
  len : UInt16
  answers : Option Forwarded

/-- The bytes of the frame. -/
def Downlink.bytes (d : Downlink) : List UInt8 := Buffer.slice d.payload 0 d.len.toNat

/-- The whole system.  Queues have the oldest frame first, the history the newest entry. -/
structure Sys where
  bridge : Bridge
  conns : List Al1BleConn
  hist : List Entry
  up : List Forwarded
  down : List Downlink
  held : Bool

/-- Whose call it is. -/
def Call.conn : Call → UInt16
  | .connEvt handle _ => handle
  | .bleWrite handle _ => handle
  | .apFrame conn _ => conn
  | .linkAp _ _ => connNone

/-- What an entry hands to `al1_link_send`. -/
def Entry.sends (hist : List Entry) (e : Entry) : List Forwarded :=
  e.acts.filterMap fun
    | .linkSend _ frame => some ⟨e.call.conn, epoch e.call.conn hist, frame⟩
    | _ => none

/-- What `al1_link_send` accepts, given its outcomes; where none is given it succeeds. -/
def accept {α : Type*} : List Bool → List α → List α
  | ok :: outcomes, x :: l => if ok then x :: accept outcomes l else accept outcomes l
  | _, l => l

theorem accept_sublist {α : Type*} (outcomes : List Bool) (l : List α) :
    (accept outcomes l).Sublist l := by
  induction l generalizing outcomes with
  | nil => cases outcomes <;> exact List.Sublist.refl _
  | cons x l ih =>
    cases outcomes with
    | nil => exact List.Sublist.refl _
    | cons ok outcomes =>
      cases ok with
      | false => exact (ih outcomes).cons x
      | true => exact (ih outcomes).cons_cons x

/-- Nothing is lost when every outcome is a success. -/
theorem accept_eq {α : Type*} {outcomes : List Bool} (h : ∀ ok ∈ outcomes, ok = true)
    (l : List α) : accept outcomes l = l := by
  induction l generalizing outcomes with
  | nil => cases outcomes <;> rfl
  | cons x l ih =>
    cases outcomes with
    | nil => rfl
    | cons ok outcomes =>
      rw [accept, if_pos (h ok List.mem_cons_self), ih fun o ho => h o (List.mem_cons_of_mem _ ho)]

/-- The steps of the system. -/
inductive SysEvent where
  | connEvt (handle : UInt16) (connected : Bool) (outcomes : List Bool)
  | write (handle : UInt16) (data : List UInt8) (outcomes : List Bool)
  /-- The STM32 handles the oldest forwarded frame and answers it. -/
  | answer (payload : ℕ → UInt8) (len : UInt16)
  /-- The STM32 sends a frame of its own. -/
  | event (payload : ℕ → UInt8) (len : UInt16)
  /-- The oldest frame of the STM32 reaches the bridge. -/
  | deliver

/-- A callback of the bridge. -/
def Sys.callback (s : Sys) (e : BleEvent) (outcomes : List Bool) : Sys :=
  let r := bridgeStep s.bridge e
  { s with
    bridge := r.1
    hist := r.2.reverse ++ s.hist
    up := s.up ++ accept outcomes (r.2.flatMap (Entry.sends s.hist)) }

/-- The session of the STM32 after it has answered `x`. -/
def heldAfter (held : Bool) (x : Forwarded) (ok : Bool) : Bool :=
  if ok ∧ apCmd x.frame = apCmdClaim then true
  else if ok ∧ apCmd x.frame = apCmdRelease then false
  else held

/-- One step. -/
def sysStep (s : Sys) : SysEvent → Sys
  | .connEvt handle connected outcomes =>
    { s.callback (.connEvt handle connected) outcomes with
      conns := if connected then connAdd handle s.conns else connRemove handle s.conns }
  | .write handle data outcomes => s.callback (.write handle data) outcomes
  | .answer payload len =>
    match s.up with
    | [] => s
    | x :: up =>
      { s with
        up := up
        down := s.down ++ [⟨payload, len, some x⟩]
        held := heldAfter s.held x (apPeek payload len == apCmdOk) }
  | .event payload len =>
    { s with
      down := s.down ++ [⟨payload, len, none⟩]
      held := if apPeek payload len = apCmdEvtSessionEnd then false else s.held }
  | .deliver =>
    match s.down with
    | [] => s
    | d :: down => { s with down := down }.callback (.linkAp d.payload d.len) []

/-- The entry that a frame of the STM32 leaves if it reaches the bridge now. -/
def Sys.arrival (s : Sys) (d : Downlink) : Entry :=
  s.bridge.session.entry (.linkAp d.payload d.len)

/-- The system at boot. -/
def sysBoot (maxConn : ℕ) : Sys :=
  { bridge := al1BleApBridgeInit (bridgeBoot maxConn)
    conns := connsBoot maxConn
    hist := []
    up := []
    down := []
    held := false }

/-- What may happen. -/
def Sys.Allowed (s : Sys) : SysEvent → Prop
  | .connEvt handle connected _ => Admissible s.hist (.connEvt handle connected)
  | .write _ _ _ => True
  | .answer payload len =>
    s.up ≠ [] ∧ (apPeek payload len = apCmdOk ∨ apPeek payload len = apCmdError)
  | .event payload len => apPeek payload len ≠ apCmdOk ∧ apPeek payload len ≠ apCmdError
  | .deliver => s.down ≠ []

instance (s : Sys) : ∀ e, Decidable (s.Allowed e)
  | .connEvt handle connected _ =>
    inferInstanceAs (Decidable (Admissible s.hist (.connEvt handle connected)))
  | .write _ _ _ => inferInstanceAs (Decidable True)
  | .answer _ _ => inferInstanceAs (Decidable (_ ∧ _))
  | .event _ _ => inferInstanceAs (Decidable (_ ∧ _))
  | .deliver => inferInstanceAs (Decidable (_ ≠ _))

/-- A frame of the STM32 makes the bridge send nothing to the STM32. -/
theorem sends_linkAp (s : Session) (payload : ℕ → UInt8) (len : UInt16) (hist : List Entry) :
    (s.entry (.linkAp payload len)).sends hist = [] := by
  have hstep := s.call_step (.linkAp payload len)
  rw [Entry.sends, Session.entry]
  generalize (s.call (.linkAp payload len)).1 = s' at hstep
  generalize (s.call (.linkAp payload len)).2 = acts at hstep
  cases hstep with
  | bind _ _ _ => rfl
  | sessionEnd _ | pass _ _ => split <;> rfl

/-- A delivery: one entry in the history, and nothing new on the way. -/
theorem sysStep_deliver {s : Sys} {d : Downlink} {down : List Downlink} (h : s.down = d :: down) :
    sysStep s .deliver =
      { s with
        bridge := { s.bridge with session := (s.arrival d).after }
        hist := s.arrival d :: s.hist
        down := down } := by
  have hsends : (bridgeStep s.bridge (.linkAp d.payload d.len)).2.flatMap
      (Entry.sends s.hist) = [] := by
    simp [bridgeStep, sends_linkAp]
  simp only [sysStep, h, Sys.callback, hsends, accept, List.append_nil]
  rfl

/-! ## What holds in every run -/

/-- The bridge of the system is in a run of the bridge, and the registry agrees with its slots. -/
structure SysInv (maxConn : ℕ) (s : Sys) : Prop where
  reached : Reached maxConn s.bridge s.hist
  agree : Agree s.conns s.bridge.slots

theorem SysInv.session {maxConn : ℕ} {s : Sys} (h : SysInv maxConn s) :
    SessionInv s.bridge.session s.hist := h.reached.traced.inv

theorem sysInv_boot (maxConn : ℕ) : SysInv maxConn (sysBoot maxConn) := ⟨.boot, agree_boot maxConn⟩

theorem SysInv.step {maxConn : ℕ} {s : Sys} (h : SysInv maxConn s) {e : SysEvent}
    (he : s.Allowed e) : SysInv maxConn (sysStep s e) := by
  cases e with
  | connEvt handle connected outcomes =>
    refine ⟨h.reached.step (e := .connEvt handle connected) he, ?_⟩
    cases connected with
    | true => exact h.agree.connect handle
    | false => exact h.agree.disconnect handle
  | write handle data outcomes =>
    exact ⟨h.reached.step (e := .write handle data) trivial, h.agree.write handle data⟩
  | answer payload len =>
    rw [sysStep]
    cases s.up with
    | nil => exact h
    | cons x up => exact ⟨h.reached, h.agree⟩
  | event payload len => exact ⟨h.reached, h.agree⟩
  | deliver =>
    obtain ⟨d, down, hcons⟩ := List.exists_cons_of_ne_nil he
    rw [sysStep_deliver hcons]
    exact ⟨h.reached.step (e := .linkAp d.payload d.len) trivial, h.agree⟩

end Al1Wmod
