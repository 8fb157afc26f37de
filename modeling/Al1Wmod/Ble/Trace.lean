import Al1Wmod.Ble.Bridge
import Al1Wmod.Stream.Machine
import Al1Wmod.Stream.PastTime

/-!
# Runs of the bridge

A run of the bridge is a sequence of callbacks, in any order, with any bytes; of NimBLE it is
only assumed that it reports a handle connected when it is not, and never hands out `CONN_NONE`.
`Reached` are the states of the bridge with the histories that lead there.

The slots matter for one thing: a frame of a connection comes from that connection's bytes, and
a connection that is not there has no frames.  Once that is known (`Reached.slots`), the session
can be studied alone: `Traced` are the runs of the session by itself, and every run of the
bridge is one of them (`Reached.traced`).
-/

namespace Al1Wmod

open Transducer Framer PastTime Machine

/-! ## Reading a history -/

/-- A connect or disconnect of `conn`. -/
def Call.touches (conn : UInt16) : Call → Bool
  | .connEvt handle _ => handle == conn
  | _ => false

/-- A connect of `conn`. -/
def Call.connects (conn : UInt16) : Call → Bool
  | .connEvt handle connected => connected && handle == conn
  | _ => false

/-- A disconnect of `conn`. -/
def Call.disconnects (conn : UInt16) : Call → Bool
  | .connEvt handle connected => !connected && handle == conn
  | _ => false

/-- A CLAIM frame from `conn`. -/
def Call.claims (conn : UInt16) : Call → Bool
  | .apFrame c frame => c == conn && apCmd frame == apCmdClaim
  | _ => false

/-- A RELEASE frame from `conn`. -/
def Call.releases (conn : UInt16) : Call → Bool
  | .apFrame c frame => c == conn && apCmd frame == apCmdRelease
  | _ => false

/-- An OK from the STM32. -/
def Call.isOk : Call → Bool
  | .linkAp payload len => apPeek payload len == apCmdOk
  | _ => false

/-- An EVT_SESSION_END from the STM32. -/
def Call.isSessionEnd : Call → Bool
  | .linkAp payload len => apPeek payload len == apCmdEvtSessionEnd
  | _ => false

/-- `conn` is connected. -/
abbrev Connected (conn : UInt16) : List Entry → Prop :=
  Since (fun e => ¬ e.call.touches conn) fun e _ => e.call.connects conn

/-- The bytes `conn` has written since it connected. -/
def writtenBy (conn : UInt16) : List Entry → List UInt8
  | [] => []
  | e :: past =>
    match e.call with
    | .connEvt handle _ => if handle = conn then [] else writtenBy conn past
    | .bleWrite handle data => if handle = conn then writtenBy conn past ++ data
        else writtenBy conn past
    | _ => writtenBy conn past

/-! ## Runs -/

/-- What NimBLE may report after a history. -/
def Admissible (hist : List Entry) : BleEvent → Prop
  | .connEvt handle connected => connected → handle ≠ connNone ∧ ¬ Connected handle hist
  | _ => True

instance (hist : List Entry) : ∀ e, Decidable (Admissible hist e)
  | .connEvt _ _ => inferInstanceAs (Decidable (_ → _))
  | .write _ _ => inferInstanceAs (Decidable True)
  | .linkAp _ _ => inferInstanceAs (Decidable True)

/-- The part of it that the slots depend on: a handle is reported connected only while it is
not. -/
def Fresh (hist : List Entry) : BleEvent → Prop
  | .connEvt handle connected => connected → ¬ Connected handle hist
  | _ => True

instance (hist : List Entry) : ∀ e, Decidable (Fresh hist e)
  | .connEvt _ _ => inferInstanceAs (Decidable (_ → _))
  | .write _ _ => inferInstanceAs (Decidable True)
  | .linkAp _ _ => inferInstanceAs (Decidable True)

theorem Admissible.fresh {hist : List Entry} {e : BleEvent} (h : Admissible hist e) :
    Fresh hist e := by
  cases e with
  | connEvt handle connected => exact fun hc => (h hc).2
  | write _ _ | linkAp _ _ => trivial

/-- The bridge and its history after some callbacks. -/
inductive Reached (maxConn : ℕ) : Bridge → List Entry → Prop where
  | boot : Reached maxConn (al1BleApBridgeInit (bridgeBoot maxConn)) []
  | step {b : Bridge} {hist : List Entry} {e : BleEvent} :
      Reached maxConn b hist → Admissible hist e →
      Reached maxConn (bridgeStep b e).1 ((bridgeStep b e).2.reverse ++ hist)

/-- The bridge and its history after one more callback. -/
def bridgeNext (st : Bridge × List Entry) (e : BleEvent) : Bridge × List Entry :=
  ((bridgeStep st.1 e).1, (bridgeStep st.1 e).2.reverse ++ st.2)

/-- The bridge and its history after a list of callbacks. -/
def bridgeRun (maxConn : ℕ) (events : List BleEvent) : Bridge × List Entry :=
  events.foldl bridgeNext (al1BleApBridgeInit (bridgeBoot maxConn), [])

/-- Callbacks that NimBLE may report one after another. -/
abbrev AdmissibleRun (maxConn : ℕ) (events : List BleEvent) : Prop :=
  Along bridgeNext (fun st e => Admissible st.2 e) (al1BleApBridgeInit (bridgeBoot maxConn), [])
    events

/-- **A list of callbacks is a run.** -/
theorem reached_bridgeRun {maxConn : ℕ} {events : List BleEvent}
    (hadm : AdmissibleRun maxConn events) :
    Reached maxConn (bridgeRun maxConn events).1 (bridgeRun maxConn events).2 :=
  hadm.invariant (R := fun st : Bridge × List Entry => Reached maxConn st.1 st.2)
    (fun _ _ h he => h.step he) .boot

/-- The frame stands in what `conn` has written since it connected. -/
def Wrote (conn : UInt16) (frame : List UInt8) (hist : List Entry) : Prop :=
  .frame frame ∈ (apRun (writtenBy conn hist)).2

/-- Which calls the session can get: a frame comes from a central that is connected and has
written it. -/
def Justified (hist : List Entry) : Call → Prop
  | .connEvt handle connected => connected → handle ≠ connNone ∧ ¬ Connected handle hist
  | .apFrame conn frame => Connected conn hist ∧ Wrote conn frame hist
  | _ => True

/-- What a central wrote are whole frames. -/
theorem Wrote.apFrame {conn : UInt16} {frame : List UInt8} {hist : List Entry}
    (h : Wrote conn frame hist) : ApFrame frame := apFrame_of_mem_run .hunting _ _ h frame rfl

/-- The session and its history after some calls. -/
inductive Traced : Session → List Entry → Prop where
  | boot : Traced ⟨connNone, 0, connNone⟩ []
  | step {s : Session} {hist : List Entry} {c : Call} :
      Traced s hist → Justified hist c → Traced (s.call c).1 (s.entry c :: hist)

/-! ## Entries that leave connections and writes alone -/

/-- A connect is one of the calls that touch a connection. -/
theorem Call.touches_of_connects {c : Call} {conn : UInt16} (h : c.connects conn) :
    c.touches conn := by
  cases c with
  | connEvt handle connected =>
    rw [Call.connects, Bool.and_eq_true] at h
    exact h.2
  | bleWrite _ _ | apFrame _ _ | linkAp _ _ => exact absurd h Bool.false_ne_true

/-- The entries of some calls are about these calls. -/
theorem exists_entry_of_mem_record {s : Session} {calls : List Call} {e : Entry}
    (he : e ∈ (run Session.record s calls).2) : ∃ s' : Session, ∃ c ∈ calls, e = s'.entry c := by
  induction calls generalizing s with
  | nil => exact absurd he List.not_mem_nil
  | cons c calls ih =>
    rw [run_cons, List.mem_append] at he
    rcases he with he | he
    · exact ⟨s, c, List.mem_cons_self, List.mem_singleton.mp he⟩
    · obtain ⟨s', c', hc', heq⟩ := ih he
      exact ⟨s', c', List.mem_cons_of_mem _ hc', heq⟩

section Frames

variable {conn : UInt16} {hist entries : List Entry}

theorem connected_append (h : ∀ e ∈ entries, ¬ e.call.touches conn) :
    Connected conn (entries ++ hist) ↔ Connected conn hist := by
  induction entries with
  | nil => rfl
  | cons e entries ih =>
    have he : ¬ e.call.touches conn := h e List.mem_cons_self
    have hc : ¬ e.call.connects conn := fun hc => he (Call.touches_of_connects hc)
    rw [List.cons_append, Connected, since_cons]
    simp only [he, hc, not_false_eq_true, true_and, false_or, Bool.false_eq_true]
    exact ih fun e' he' => h e' (List.mem_cons_of_mem _ he')

/-- Entries about frames. -/
def OnlyFrames (entries : List Entry) : Prop := ∀ e ∈ entries, ∃ c f, e.call = .apFrame c f

theorem OnlyFrames.connected_append (h : OnlyFrames entries) :
    Connected conn (entries ++ hist) ↔ Connected conn hist :=
  Al1Wmod.connected_append fun e he => by
    obtain ⟨c, f, hcall⟩ := h e he
    simp [hcall, Call.touches]

theorem OnlyFrames.writtenBy_append (h : OnlyFrames entries) :
    writtenBy conn (entries ++ hist) = writtenBy conn hist := by
  induction entries with
  | nil => rfl
  | cons e entries ih =>
    obtain ⟨c, f, hcall⟩ := h e List.mem_cons_self
    rw [List.cons_append, writtenBy, hcall]
    exact ih fun e' he' => h e' (List.mem_cons_of_mem _ he')

theorem onlyFrames_record (s : Session) (conn : UInt16) (frames : List (List UInt8)) :
    OnlyFrames (run Session.record s (frames.map (.apFrame conn))).2.reverse := by
  intro e he
  obtain ⟨s', c, hc, rfl⟩ := exists_entry_of_mem_record (List.mem_reverse.mp he)
  obtain ⟨f, -, rfl⟩ := List.mem_map.mp hc
  exact ⟨conn, f, rfl⟩

/-- Frames of a connected central, one after another. -/
theorem Traced.frames {s : Session} (ht : Traced s hist) (hc : Connected conn hist)
    {frames : List (List UInt8)} (hf : ∀ f ∈ frames, Wrote conn f hist) :
    Traced (run Session.record s (frames.map (.apFrame conn))).1
      ((run Session.record s (frames.map (.apFrame conn))).2.reverse ++ hist) := by
  induction frames generalizing s hist with
  | nil => exact ht
  | cons f frames ih =>
    have hone : Traced (s.call (.apFrame conn f)).1 (s.entry (.apFrame conn f) :: hist) :=
      ht.step ⟨hc, hf f List.mem_cons_self⟩
    have hconn : Connected conn (s.entry (.apFrame conn f) :: hist) :=
      Or.inr ⟨by simp [Session.entry, Call.touches], hc⟩
    have := ih hone hconn fun g hg => hf g (List.mem_cons_of_mem _ hg)
    rw [List.map_cons, run_cons]
    simpa [Session.record] using this

end Frames

/-! ## The slots -/

/-- The handles of the slots in use. -/
abbrev Bridge.handles (b : Bridge) : List UInt16 :=
  FirstFit.keys BridgeSlot.inUse BridgeSlot.handle b.slots

/-- What the slots are at any time: each belongs to a connection, no two to the same, and its
reassembler has read what that connection wrote. -/
structure SlotsInv (b : Bridge) (hist : List Entry) : Prop where
  connected : ∀ c ∈ b.handles, Connected c hist
  nodup : b.handles.Nodup
  reasm : ∀ s ∈ b.slots, s.inUse → s.reasm.cb = true ∧
    ReasmRepresents s.reasm (apRun (writtenBy s.handle hist)).1

theorem keys_slotFind_none {b : Bridge} {handle : UInt16} (h : slotFind b.slots handle = none) :
    handle ∉ b.handles := FirstFit.find?_eq_none_iff.mp h

/-- Connecting keeps the slots of the others. -/
theorem mem_handles_connect {b : Bridge} {conn : UInt16} (handle : UInt16)
    (h : conn ∈ b.handles) : conn ∈ (onConnEvt b handle true).1.handles :=
  FirstFit.mem_keys_put_of_mem (f := BridgeSlot.open handle) (fun _ => ⟨rfl, rfl⟩) h

/-- Disconnecting frees the slot of the connection and no other. -/
theorem mem_handles_disconnect {b : Bridge} {conn handle : UInt16} (hn : b.handles.Nodup) :
    conn ∈ (onConnEvt b handle false).1.handles ↔ conn ∈ b.handles ∧ conn ≠ handle :=
  FirstFit.mem_keys_release (f := BridgeSlot.free) (fun _ => Bool.false_ne_true) hn

theorem mem_handles {b : Bridge} {s : BridgeSlot} (hs : s ∈ b.slots) (hu : s.inUse) :
    s.handle ∈ b.handles := FirstFit.mem_keys.mpr ⟨s, hs, hu, rfl⟩

/-- What a write hands to the bridge stands in what has been written. -/
theorem frame_of_mem_feed {r : ApReasm} {stream : List UInt8}
    (h : ReasmRepresents r (apRun stream).1) (data : List UInt8) :
    ∀ f ∈ (apReasmFeed r data).2.map ApFrameCall.bytes,
      .frame f ∈ (apRun (stream ++ data)).2 := by
  intro f hf
  have hcalls := (apReasmFeed_framing h data).calls
  rw [hcalls] at hf
  rw [apRun, run_append]
  refine List.mem_append_right _ ?_
  cases hcb : r.cb with
  | false => simp [hcb] at hf
  | true =>
    rw [hcb, if_pos rfl, List.mem_filterMap] at hf
    obtain ⟨u, hu, huf⟩ := hf
    cases u with
    | badLen _ => simp [ApUnit.frame?] at huf
    | frame g =>
      obtain rfl : g = f := Option.some.inj huf
      exact hu

/-- A new reassembler leaves the handles of the slots as they are. -/
theorem map_slotUpdate_reasm (slots : List BridgeSlot) (handle : UInt16) (r : ApReasm) :
    (slotUpdate slots handle fun s => { s with reasm := r }).map (fun s => (s.inUse, s.handle)) =
      slots.map fun s => (s.inUse, s.handle) :=
  FirstFit.map_update_of_eq (p := fun s : BridgeSlot => (s.inUse, s.handle))
    (f := fun s : BridgeSlot => { s with reasm := r }) handle (fun _ => rfl) slots

/-- The calls of a write: the write itself, and frames of a writer that has a slot. -/
theorem mem_calls_write {b : Bridge} {handle : UInt16} {data : List UInt8} {c : Call}
    (hc : c ∈ b.calls (.write handle data)) :
    c = .bleWrite handle data ∨ ∃ frame, c = .apFrame handle frame ∧ handle ∈ b.handles := by
  rcases List.mem_cons.mp hc with rfl | hc
  · exact Or.inl rfl
  · cases hfind : slotFind b.slots handle with
    | none =>
      rw [hfind] at hc
      exact absurd hc List.not_mem_nil
    | some s =>
      rw [hfind] at hc
      obtain ⟨f, -, rfl⟩ := List.mem_map.mp hc
      obtain ⟨hmem, hused, hhandle⟩ := slotFind_handle hfind
      exact Or.inr ⟨f.bytes, rfl, hhandle ▸ mem_handles hmem hused⟩

theorem handles_onBleWrite (b : Bridge) (handle : UInt16) (data : List UInt8) :
    (onBleWrite b handle data).1.handles = b.handles := by
  rw [onBleWrite]
  cases slotFind b.slots handle with
  | none => rfl
  | some s => exact FirstFit.keys_eq_of_map_eq (map_slotUpdate_reasm b.slots handle _)

section Callbacks

variable {b : Bridge} {hist : List Entry} {handle : UInt16}

/-- A new connection gets a slot, or none is free. -/
theorem SlotsInv.connect (h : SlotsInv b hist) (hnew : ¬ Connected handle hist) :
    SlotsInv (onConnEvt b handle true).1 ((onConnEvt b handle true).2.reverse ++ hist) := by
  have hput : ∀ s : BridgeSlot, (s.open handle).inUse ∧ (s.open handle).handle = handle :=
    fun s => ⟨rfl, rfl⟩
  refine ⟨?_, ?_, ?_⟩
  · intro c hc
    rcases FirstFit.mem_of_mem_keys_put hput hc with rfl | hc
    · exact Or.inl (by simp [Session.entry, Call.connects])
    · refine Or.inr ⟨?_, h.connected c hc⟩
      have hne : handle ≠ c := fun e => hnew (e ▸ h.connected c hc)
      simpa [Session.entry, Call.touches] using hne
  · exact FirstFit.nodup_keys_put hput (fun hc => hnew (h.connected _ hc)) h.nodup
  · intro s hs hu
    rcases FirstFit.mem_put hs with hs | ⟨t, rfl⟩
    · have hne : handle ≠ s.handle :=
        fun e => hnew (e ▸ h.connected _ (mem_handles hs hu))
      have hw : writtenBy s.handle ((onConnEvt b handle true).2.reverse ++ hist) =
          writtenBy s.handle hist := if_neg hne
      rw [hw]
      exact h.reasm s hs hu
    · have hw : writtenBy handle ((onConnEvt b handle true).2.reverse ++ hist) = [] := if_pos rfl
      refine ⟨rfl, ?_⟩
      rw [show (t.open handle).handle = handle from rfl, hw]
      rfl

/-- A disconnect gives up the slot of the connection and no other. -/
theorem SlotsInv.disconnect (h : SlotsInv b hist) :
    SlotsInv (onConnEvt b handle false).1 ((onConnEvt b handle false).2.reverse ++ hist) := by
  have hfree : ∀ s : BridgeSlot, ¬ s.free.inUse := fun s => by simp [BridgeSlot.free]
  refine ⟨?_, FirstFit.nodup_keys_release hfree h.nodup, ?_⟩
  · intro c hc
    obtain ⟨hc, hne⟩ := (mem_handles_disconnect h.nodup).mp hc
    refine Or.inr ⟨?_, h.connected c hc⟩
    simpa [Session.entry, Call.touches] using hne.symm
  · intro s hs hu
    have hne := ((mem_handles_disconnect h.nodup).mp (mem_handles hs hu)).2
    rcases FirstFit.mem_update h.nodup hs with ⟨hs, -⟩ | ⟨t, -, rfl⟩
    · have hw : writtenBy s.handle ((onConnEvt b handle false).2.reverse ++ hist) =
          writtenBy s.handle hist := if_neg hne.symm
      rw [hw]
      exact h.reasm s hs hu
    · exact absurd hu (hfree t)

/-- A write moves the reassembler of its connection and no other. -/
theorem SlotsInv.write (h : SlotsInv b hist) (data : List UInt8) :
    SlotsInv (onBleWrite b handle data).1 ((onBleWrite b handle data).2.reverse ++ hist) := by
  have htouch : ∀ c, ¬ (b.session.entry (.bleWrite handle data)).call.touches c := fun c => by
    simp [Session.entry, Call.touches]
  rw [onBleWrite]
  cases hfind : slotFind b.slots handle with
  | none =>
    refine ⟨fun c hc => Or.inr ⟨htouch c, h.connected c hc⟩, h.nodup, ?_⟩
    intro s hs hu
    have hne : handle ≠ s.handle :=
      fun e => keys_slotFind_none hfind (e ▸ mem_handles hs hu)
    have hw : writtenBy s.handle (b.session.entry (.bleWrite handle data) :: hist) =
        writtenBy s.handle hist := if_neg hne
    rw [show ([b.session.entry (.bleWrite handle data)].reverse ++ hist) =
      b.session.entry (.bleWrite handle data) :: hist from rfl, hw]
    exact h.reasm s hs hu
  | some s₀ =>
    obtain ⟨hmem, hused, rfl⟩ := slotFind_handle hfind
    set frames := (apReasmFeed s₀.reasm data).2.map ApFrameCall.bytes with hframes
    have hmap : ((apReasmFeed s₀.reasm data).2.map fun c => Call.apFrame s₀.handle c.bytes) =
        frames.map (.apFrame s₀.handle) := by simp [hframes]
    have honly := onlyFrames_record b.session s₀.handle frames
    simp only [hmap, List.reverse_cons, List.append_assoc, List.singleton_append]
    have hkeys : ∀ r : ApReasm, FirstFit.keys BridgeSlot.inUse BridgeSlot.handle
        (slotUpdate b.slots s₀.handle fun s => { s with reasm := r }) = b.handles :=
      fun r => FirstFit.keys_eq_of_map_eq (map_slotUpdate_reasm b.slots s₀.handle r)
    refine ⟨?_, ?_, ?_⟩
    · intro c hc
      rw [Bridge.handles, hkeys] at hc
      exact honly.connected_append.mpr (Or.inr ⟨htouch c, h.connected c hc⟩)
    · rw [Bridge.handles, hkeys]
      exact h.nodup
    · intro s hs hu
      rw [honly.writtenBy_append]
      rcases FirstFit.mem_update h.nodup hs with ⟨hs, hne⟩ | ⟨t, ht, rfl⟩
      · have hw : writtenBy s.handle (b.session.entry (.bleWrite s₀.handle data) :: hist) =
            writtenBy s.handle hist := if_neg (hne hu).symm
        rw [hw]
        exact h.reasm s hs hu
      · obtain rfl : t = s₀ := Option.some.inj (ht.symm.trans hfind)
        have hw : writtenBy t.handle (b.session.entry (.bleWrite t.handle data) :: hist) =
            writtenBy t.handle hist ++ data := if_pos rfl
        obtain ⟨hcb, hrep⟩ := h.reasm t hmem hused
        have hfeed := apReasmFeed_framing hrep data
        rw [hw, apRun, run_append]
        exact ⟨hfeed.cb.trans hcb, hfeed.represents⟩

end Callbacks

/-- No slot is in use at boot. -/
theorem slotsInv_boot (maxConn : ℕ) :
    SlotsInv (al1BleApBridgeInit (bridgeBoot maxConn)) [] := by
  have hfree : ∀ s ∈ (al1BleApBridgeInit (bridgeBoot maxConn)).slots, ¬ s.inUse := by
    intro s hs
    rw [(List.mem_replicate.mp hs).2]
    decide
  have hkeys : (al1BleApBridgeInit (bridgeBoot maxConn)).handles = [] := by
    rw [Bridge.handles, FirstFit.keys, List.filter_eq_nil_iff.mpr hfree, List.map_nil]
  refine ⟨?_, ?_, fun s hs hu => absurd hu (hfree s hs)⟩
  · intro c hc
    rw [hkeys] at hc
    exact absurd hc List.not_mem_nil
  · rw [hkeys]
    exact List.nodup_nil

/-- **One callback.** -/
theorem SlotsInv.step {b : Bridge} {hist : List Entry} (h : SlotsInv b hist) {e : BleEvent}
    (hfresh : Fresh hist e) :
    SlotsInv (bridgeStep b e).1 ((bridgeStep b e).2.reverse ++ hist) := by
  cases e with
  | connEvt handle connected =>
    cases connected with
    | true => exact h.connect (hfresh rfl)
    | false => exact h.disconnect
  | write handle data => exact h.write data
  | linkAp payload len =>
    have htouch : ∀ c, ¬ (b.session.entry (.linkAp payload len)).call.touches c := fun c => by
      simp [Session.entry, Call.touches]
    exact ⟨fun c hc => Or.inr ⟨htouch c, h.connected c hc⟩, h.nodup, h.reasm⟩

/-- **The slots belong to the connections.** -/
theorem Reached.slots {maxConn : ℕ} {b : Bridge} {hist : List Entry} (h : Reached maxConn b hist) :
    SlotsInv b hist := by
  induction h with
  | boot => exact slotsInv_boot maxConn
  | step _ hadm ih => exact ih.step hadm.fresh

/-- **Every run of the bridge is a run of the session.** -/
theorem Reached.traced {maxConn : ℕ} {b : Bridge} {hist : List Entry}
    (h : Reached maxConn b hist) : Traced b.session hist := by
  induction h with
  | boot => exact .boot
  | @step b hist e h hadm ih =>
    cases e with
    | connEvt handle connected =>
      cases connected with
      | true => exact ih.step (c := .connEvt handle true) hadm
      | false => exact ih.step (c := .connEvt handle false) hadm
    | linkAp payload len => exact ih.step (c := .linkAp payload len) trivial
    | write handle data =>
      have hwrite : Traced b.session (b.session.entry (.bleWrite handle data) :: hist) :=
        ih.step (c := .bleWrite handle data) trivial
      rw [bridgeStep, onBleWrite]
      cases hfind : slotFind b.slots handle with
      | none => exact hwrite
      | some s =>
        obtain ⟨hmem, hused, rfl⟩ := slotFind_handle hfind
        have hconn : Connected s.handle (b.session.entry (.bleWrite s.handle data) :: hist) :=
          Or.inr ⟨by simp [Session.entry, Call.touches],
            h.slots.connected _ (mem_handles hmem hused)⟩
        have hw : writtenBy s.handle (b.session.entry (.bleWrite s.handle data) :: hist) =
            writtenBy s.handle hist ++ data := if_pos rfl
        have hframes := frame_of_mem_feed (h.slots.reasm s hmem hused).2 data
        have := hwrite.frames hconn fun f hf => by
          rw [Wrote, hw]
          exact hframes f hf
        simpa [Function.comp_def] using this

end Al1Wmod
