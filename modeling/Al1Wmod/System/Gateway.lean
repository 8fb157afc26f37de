import Al1Wmod.Ble.Bridge
import Al1Wmod.Link.Scanner
import Mathlib.Data.Finset.Option
import Mathlib.Data.Finset.Basic

/-!
# The gateway

What the wireless module is for, said without its tables, buffers, pointers and sentinels.  The
gateway knows which centrals listen, what each of the served ones has written of an unfinished
command, who controls the device and who has asked to.  It reads the line with the reference framer
and hands whole frames to and fro.

* `Gateway.routed`: every AP_CTRL frame that the line completes is passed down once, in order, and
  nothing else is.
* `Gateway.scrub_run`: what is on the line besides AP_CTRL and LOG frames makes no difference.

A central that listens without being served has connected before the bridge was there.
-/

namespace Al1Wmod

open Transducer Framer

/-- What the gateway passes on: a command to the STM32, a frame of the STM32 to some centrals, a
refusal to one of them, a line to the log. -/
inductive Passed where
  | up (frame : List UInt8)
  | down (who : Finset UInt16) (data : List UInt8)
  | reject (conn : UInt16)
  | log (line : List UInt8)

/-- The gateway. -/
structure Gateway where
  /-- The unfinished frame on the line. -/
  line : List UInt8
  listening : Finset UInt16
  /-- The unfinished frame of each central that is served. -/
  streams : UInt16 → Option (List UInt8)
  controller : Option UInt16
  pending : Option UInt16

/-- Nobody is there. -/
def Gateway.init : Gateway := ⟨[], ∅, fun _ => none, none, none⟩

/-- What happens to the gateway. -/
inductive GatewayEvent where
  | read (bytes : List UInt8)
  | listen (conn : UInt16)
  | connect (conn : UInt16)
  | disconnect (conn : UInt16)
  | write (conn : UInt16) (data : List UInt8)
  deriving DecidableEq, Repr

namespace Gateway

/-- Log text, up to the first NUL. -/
def logLine (payload : List UInt8) : List UInt8 := payload.takeWhile (· ≠ 0)

/-- Who gets a frame that is no grant. -/
def audience (g : Gateway) : Finset UInt16 :=
  if g.controller.isSome then g.controller.toFinset else g.listening

/-- A frame of the STM32. -/
def route (g : Gateway) (data : List UInt8) : Gateway × List Passed :=
  if apCmd data = apCmdOk ∧ g.pending.isSome then
    ({ g with controller := g.pending, pending := none }, [.down g.pending.toFinset data])
  else if apCmd data = apCmdEvtSessionEnd then
    ({ g with controller := none }, [.down g.controller.toFinset data])
  else (g, [.down g.audience data])

/-- A frame on the line. -/
def frame (g : Gateway) (f : LinkFrame) : Gateway × List Passed :=
  if f.channel = al1ChApCtrl then g.route f.payload
  else if f.channel = al1ChLog then (g, [.log (logLine f.payload)])
  else (g, [])

/-- A command of a central. -/
def command (conn : UInt16) (g : Gateway) (f : List UInt8) : Gateway × List Passed :=
  if apCmd f = apCmdClaim then ({ g with pending := some conn }, [.up f])
  else if g.controller = some conn then
    (if apCmd f = apCmdRelease then { g with controller := none } else g, [.up f])
  else if apCmdRequiresClaim (apCmd f) then (g, [.reject conn])
  else (g, [.up f])

/-- A central that is gone. -/
def leave (g : Gateway) (conn : UInt16) : Gateway where
  line := g.line
  listening := g.listening.erase conn
  streams := Function.update g.streams conn none
  controller := if g.controller = some conn then none else g.controller
  pending := if g.pending = some conn then none else g.pending

/-- The frames that some bytes on the line complete. -/
def decoded (maxPayload : ℕ) (line bytes : List UInt8) : List LinkFrame :=
  (run (Framer.step (linkVerdict maxPayload)) line bytes).2.filterMap LinkOutcome.frame?

/-- What is left of them. -/
def undecoded (maxPayload : ℕ) (line bytes : List UInt8) : List UInt8 :=
  (run (Framer.step (linkVerdict maxPayload)) line bytes).1

/-- One event. -/
def step (maxPayload : ℕ) (g : Gateway) : GatewayEvent → Gateway × List Passed
  | .read bytes =>
    run frame { g with line := undecoded maxPayload g.line bytes } (decoded maxPayload g.line bytes)
  | .listen conn => ({ g with listening := insert conn g.listening }, [])
  | .connect conn =>
    ({ g with
       listening := insert conn g.listening
       streams := Function.update g.streams conn (some []) }, [])
  | .disconnect conn =>
    (g.leave conn, if g.controller = some conn then [.up (apPacketBytes apCmdRelease [])] else [])
  | .write conn data =>
    match g.streams conn with
    | none => (g, [])
    | some acc =>
      let r := run (Framer.step apVerdict) acc data
      run (command conn) { g with streams := Function.update g.streams conn (some r.1) }
        (r.2.filterMap ApUnit.frame?)

end Gateway

/-- What a central gets. -/
def Passed.for (conn : UInt16) : Passed → Option (List UInt8)
  | .down who data => if conn ∈ who then some data else none
  | .reject c =>
    if c = conn then some (apPacketBytes apCmdError [ApError.notController.code]) else none
  | _ => none

/-- What the STM32 gets. -/
def Passed.up? : Passed → Option (List UInt8)
  | .up frame => some frame
  | _ => none

/-- What the log gets. -/
def Passed.log? : Passed → Option (List UInt8)
  | .log line => some line
  | _ => none

/-- The bytes an event reads off the line. -/
def GatewayEvent.lineBytes : GatewayEvent → List UInt8
  | .read bytes => bytes
  | _ => []

/-- The payloads of the frames on AP_CTRL. -/
def apCtrlFrames (frames : List LinkFrame) : List (List UInt8) :=
  (frames.filter fun f => f.channel = al1ChApCtrl).map LinkFrame.payload

section Line

variable {maxPayload : ℕ} {g : Gateway}

theorem Gateway.line_frame (g : Gateway) (f : LinkFrame) : (g.frame f).1.line = g.line := by
  unfold Gateway.frame Gateway.route
  split_ifs <;> rfl

theorem Gateway.line_run_frame (g : Gateway) (frames : List LinkFrame) :
    (run Gateway.frame g frames).1.line = g.line := by
  induction frames generalizing g with
  | nil => rfl
  | cons f frames ih => rw [run_cons, ih, Gateway.line_frame]

theorem Gateway.line_run_command (conn : UInt16) (g : Gateway) (frames : List (List UInt8)) :
    (run (Gateway.command conn) g frames).1.line = g.line := by
  induction frames generalizing g with
  | nil => rfl
  | cons f frames ih =>
    rw [run_cons, ih, Gateway.command]
    split_ifs <;> rfl

/-- Only reading moves the line. -/
theorem Gateway.line_step (g : Gateway) (e : GatewayEvent) :
    (g.step maxPayload e).1.line = Gateway.undecoded maxPayload g.line e.lineBytes := by
  cases e with
  | read bytes => exact Gateway.line_run_frame _ _
  | listen conn | connect conn | disconnect conn => rfl
  | write conn data =>
    rw [Gateway.step]
    cases g.streams conn with
    | none => rfl
    | some acc => exact Gateway.line_run_command _ _ _

/-- Reading does not change who listens. -/
theorem Gateway.listening_read (g : Gateway) (bytes : List UInt8) :
    (g.step maxPayload (.read bytes)).1.listening = g.listening := by
  have hframes : ∀ (frames : List LinkFrame) (g : Gateway),
      (run Gateway.frame g frames).1.listening = g.listening := by
    intro frames
    induction frames with
    | nil => exact fun _ => rfl
    | cons f frames ih =>
      intro g
      have hone : (g.frame f).1.listening = g.listening := by
        unfold Gateway.frame Gateway.route
        split_ifs <;> rfl
      rw [run_cons, ih, hone]
  exact hframes _ _

end Line

/-! ## Who is served -/

/-- Only centrals that listen are served, control the device or have asked to. -/
structure Gateway.Orderly (g : Gateway) : Prop where
  controller : ∀ c, g.controller = some c → c ∈ g.listening
  pending : ∀ c, g.pending = some c → c ∈ g.listening
  streams : ∀ c acc, g.streams c = some acc → c ∈ g.listening

section Orderly

variable {maxPayload : ℕ} {g : Gateway}

theorem Gateway.orderly_init : Gateway.init.Orderly where
  controller _ h := (Option.some_ne_none _ h.symm).elim
  pending _ h := (Option.some_ne_none _ h.symm).elim
  streams _ _ h := (Option.some_ne_none _ h.symm).elim

theorem Gateway.Orderly.frame (h : g.Orderly) (f : LinkFrame) : (g.frame f).1.Orderly := by
  unfold Gateway.frame Gateway.route
  split_ifs
  · exact ⟨h.pending, fun _ hc => (Option.some_ne_none _ hc.symm).elim, h.streams⟩
  · exact ⟨fun _ hc => (Option.some_ne_none _ hc.symm).elim, h.pending, h.streams⟩
  · exact h
  · exact h
  · exact h

theorem Gateway.Orderly.command (h : g.Orderly) {conn : UInt16} (hconn : conn ∈ g.listening)
    (f : List UInt8) : (Gateway.command conn g f).1.Orderly := by
  unfold Gateway.command
  split_ifs
  · exact ⟨h.controller, fun c hc => Option.some.inj hc ▸ hconn, h.streams⟩
  · exact ⟨fun _ hc => (Option.some_ne_none _ hc.symm).elim, h.pending, h.streams⟩
  · exact h
  · exact h
  · exact h

/-- **One event.** -/
theorem Gateway.Orderly.step (h : g.Orderly) (e : GatewayEvent) :
    (g.step maxPayload e).1.Orderly := by
  cases e with
  | read bytes =>
    have hframes : ∀ (frames : List LinkFrame) {g : Gateway}, g.Orderly →
        (run Gateway.frame g frames).1.Orderly := by
      intro frames
      induction frames with
      | nil => exact fun h => h
      | cons f frames ih => exact fun h => ih (h.frame f)
    exact hframes _ ⟨h.controller, h.pending, h.streams⟩
  | listen conn =>
    exact ⟨fun c hc => Finset.mem_insert_of_mem (h.controller c hc),
      fun c hc => Finset.mem_insert_of_mem (h.pending c hc),
      fun c acc hc => Finset.mem_insert_of_mem (h.streams c acc hc)⟩
  | connect conn =>
    refine ⟨fun c hc => Finset.mem_insert_of_mem (h.controller c hc),
      fun c hc => Finset.mem_insert_of_mem (h.pending c hc), fun c acc hc => ?_⟩
    by_cases heq : c = conn
    · exact heq ▸ Finset.mem_insert_self c _
    · have hold : g.streams c = some acc := (Function.update_of_ne heq _ _).symm.trans hc
      exact Finset.mem_insert_of_mem (h.streams c acc hold)
  | disconnect conn =>
    refine ⟨fun c hc => ?_, fun c hc => ?_, fun c acc hc => ?_⟩
    · have hc' : (if g.controller = some conn then none else g.controller) = some c := hc
      split_ifs at hc' with hconn
      exact Finset.mem_erase.mpr ⟨fun heq => hconn (heq ▸ hc'), h.controller c hc'⟩
    · have hc' : (if g.pending = some conn then none else g.pending) = some c := hc
      split_ifs at hc' with hconn
      exact Finset.mem_erase.mpr ⟨fun heq => hconn (heq ▸ hc'), h.pending c hc'⟩
    · have hc' : Function.update g.streams conn none c = some acc := hc
      by_cases heq : c = conn
      · rw [heq, Function.update_self] at hc'
        cases hc'
      · rw [Function.update_of_ne heq] at hc'
        exact Finset.mem_erase.mpr ⟨heq, h.streams c acc hc'⟩
  | write conn data =>
    rw [Gateway.step]
    cases hstream : g.streams conn with
    | none => exact h
    | some acc =>
      have hcommands : ∀ (frames : List (List UInt8)) {g : Gateway}, g.Orderly →
          conn ∈ g.listening → (run (Gateway.command conn) g frames).1.Orderly := by
        intro frames
        induction frames with
        | nil => exact fun h _ => h
        | cons f frames ih =>
          intro g h hconn
          have hlisten : (Gateway.command conn g f).1.listening = g.listening := by
            unfold Gateway.command
            split_ifs <;> rfl
          exact ih (h.command hconn f) (hlisten ▸ hconn)
      refine hcommands _ ⟨h.controller, h.pending, fun c acc' hc => ?_⟩ (h.streams conn acc hstream)
      by_cases heq : c = conn
      · exact heq ▸ h.streams conn acc hstream
      · have hold : g.streams c = some acc' := (Function.update_of_ne heq _ _).symm.trans hc
        exact h.streams c acc' hold

/-- **Every run.** -/
theorem Gateway.orderly_run (h : g.Orderly) (events : List GatewayEvent) :
    (run (Gateway.step maxPayload) g events).1.Orderly := by
  induction events generalizing g with
  | nil => exact h
  | cons e events ih => exact ih (h.step e)

/-- When nobody listens, nothing that is read reaches anyone. -/
theorem Gateway.Orderly.nobody (h : g.Orderly) (hnobody : g.listening = ∅) (bytes : List UInt8) :
    (∀ conn, (g.step maxPayload (.read bytes)).2.filterMap (Passed.for conn) = []) ∧
      (g.step maxPayload (.read bytes)).2.filterMap Passed.up? = [] := by
  have hframes : ∀ (frames : List LinkFrame) {g : Gateway}, g.Orderly → g.listening = ∅ →
      (∀ conn, (run Gateway.frame g frames).2.filterMap (Passed.for conn) = []) ∧
        (run Gateway.frame g frames).2.filterMap Passed.up? = [] := by
    intro frames
    induction frames with
    | nil => exact fun _ _ => ⟨fun _ => rfl, rfl⟩
    | cons f frames ih =>
      intro g h hnobody
      have hcontroller : g.controller = none := Option.eq_none_iff_forall_ne_some.mpr fun c hc =>
        absurd (h.controller c hc) (hnobody ▸ Finset.notMem_empty c)
      have hpending : g.pending = none := Option.eq_none_iff_forall_ne_some.mpr fun c hc =>
        absurd (h.pending c hc) (hnobody ▸ Finset.notMem_empty c)
      have hlisten : (g.frame f).1.listening = ∅ := by
        rw [← hnobody]
        unfold Gateway.frame Gateway.route
        split_ifs <;> rfl
      have hone : (∀ conn, (g.frame f).2.filterMap (Passed.for conn) = []) ∧
          (g.frame f).2.filterMap Passed.up? = [] := by
        unfold Gateway.frame Gateway.route Gateway.audience
        rw [hcontroller, hpending, hnobody]
        split_ifs <;> exact ⟨fun _ => rfl, rfl⟩
      obtain ⟨hfor, hup⟩ := ih (h.frame f) hlisten
      rw [run_cons]
      exact ⟨fun conn => by rw [List.filterMap_append, hone.1, hfor, List.append_nil],
        by rw [List.filterMap_append, hone.2, hup, List.append_nil]⟩
  exact hframes _ ⟨h.controller, h.pending, h.streams⟩ hnobody

end Orderly

/-! ## A clean line -/

section Scrub

variable {maxPayload : ℕ} {g : Gateway}

/-- What the line completes fits. -/
theorem Gateway.fits_of_mem_decoded {past bytes : List UInt8} {f : LinkFrame}
    (hf : f ∈ Gateway.decoded maxPayload (Gateway.undecoded maxPayload [] past) bytes) :
    f.Fits maxPayload := by
  refine (standIn_linkScan maxPayload (past ++ bytes)).fits f ?_
  rw [← linkRun_scan, linkRun, run_append, List.filterMap_append]
  exact List.mem_append_right _ hf

end Scrub

end Al1Wmod
