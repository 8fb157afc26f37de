import Al1Wmod.Ble.Downlink
import Al1Wmod.System.Refinement
import Al1Wmod.System.Routing

/-!
# The exchange

The device between the line and its centrals, in both directions at once and from boot on.

* `exchange_down`: if the STM32 writes frames to the line, the gateway passes their AP_CTRL payloads
  down in order and each once, and if these are whole AP frames, a central reassembles exactly what
  it was passed, however its notifications are cut.
* `exchange_up`: the bytes written to the UART are the frames that `al1_link_send` accepted, which
  are whole AP frames on AP_CTRL among those the gateway passes up, and a receiver finds them in
  order.

Nothing is assumed of the memory, the queue or the tasks of the device, but that each turn of a task
and each callback of the host ends before the next begins.  Otherwise a disconnect in the middle of
a grant can let a command go up that no gateway passes up (`Ble.Race`), and the notifications of the
two tasks can cut each other's frames (`Ble.Contiguity`).
-/

namespace Al1Wmod

open Buffer Transducer Framer Machine Simulation

/-! ## What the bridge sends -/

/-- Whole frames on AP_CTRL. -/
def Sendable (acts : List Action) : Prop :=
  ∀ channel frame, Action.linkSend channel frame ∈ acts → channel = al1ChApCtrl ∧ ApFrame frame

/-- An unfinished frame is one. -/
theorem ReasmRepresents.apOpen {r : ApReasm} {acc : List UInt8} (h : ReasmRepresents r acc) :
    ApOpen acc := by
  unfold ReasmRepresents at h
  split at h
  · exact h ▸ .hunting
  · exact h.1 ▸ .synced
  · obtain ⟨len, rest, rfl, hlen, hrest, -⟩ := h
    exact .data hlen hrest

section Sends

variable {maxConn : ℕ} {b : Boot} {g : Gateway} {conn : UInt16}

/-- A write sends frames that it completes. -/
theorem Serves.sendable_write (h : Serves maxConn b g) (conn : UInt16) (data : List UInt8) :
    Sendable ((onBleWrite b.bridge conn data).2.flatMap Entry.acts) := by
  intro channel frame hmem
  have hslot := h.inSlot conn
  cases hfind : slotFind b.bridge.slots conn with
  | none =>
    simp only [onBleWrite, hfind, List.flatMap_singleton] at hmem
    exact absurd hmem List.not_mem_nil
  | some slot =>
    cases hstream : g.streams conn with
    | none =>
      rw [hfind, hstream] at hslot
      exact absurd hslot id
    | some acc =>
      rw [hfind, hstream] at hslot
      obtain ⟨hcb, hrep⟩ := hslot
      rw [@onBleWrite_slot conn b.bridge slot acc data hfind hcb hrep, List.flatMap_cons] at hmem
      obtain ⟨e, he, hmem⟩ := List.mem_flatMap.mp ((List.mem_append.mp hmem).resolve_left
        List.not_mem_nil)
      obtain ⟨s, c, hc, rfl⟩ := exists_entry_of_mem_record he
      obtain ⟨f, hf, rfl⟩ := List.mem_map.mp hc
      obtain ⟨u, hu, hframe⟩ := List.mem_filterMap.mp hf
      obtain ⟨hch, ⟨_, heq⟩ | ⟨heq, -⟩⟩ := (s.call_step _).linkSend hmem
      · obtain rfl := (Call.apFrame.inj heq).2
        refine ⟨hch, apFrame_of_mem_run hrep.apOpen data u hu f ?_⟩
        cases u with
        | frame g =>
          obtain rfl := Option.some.inj hframe
          rfl
        | badLen len => cases hframe
      · cases heq

/-- A disconnect sends a RELEASE. -/
theorem sendable_disconnect (b : Bridge) (conn : UInt16) :
    Sendable ((onConnEvt b conn false).2.flatMap Entry.acts) := by
  intro channel frame hmem
  rw [show (onConnEvt b conn false).2.flatMap Entry.acts = (b.session.call (.connEvt conn false)).2
    from List.flatMap_singleton ..] at hmem
  obtain ⟨hch, ⟨_, heq⟩ | ⟨-, rfl, -⟩⟩ := (b.session.call_step _).linkSend hmem
  · cases heq
  · refine ⟨hch, ?_⟩
    rw [releasePacket_eq]
    exact apFrame_apPacketBytes _ (by decide)

end Sends

/-! ## The books of the device -/

/-- The ledger of the link agrees with what the device has put out. -/
structure Accounted (maxPayload : ℕ) (d : Device) (out : List DeviceOut) (l : Ledger) : Prop where
  balanced : Balanced maxPayload (d.link, l)
  sent : l.sent.map (fun f => (f.channel, f.payload)) =
    (accepted out).map fun f => (al1ChApCtrl, f)
  whole : ∀ f ∈ accepted out, ApFrame f
  wire : l.wire = uartOut out
  idle : d.started = false → d.link.running = false ∧ accepted out = [] ∧ uartOut out = []

/-- Outputs that the link does not see. -/
def Unbooked (out : List DeviceOut) : Prop := accepted out = [] ∧ uartOut out = []

section Books

variable {maxPayload maxConn : ℕ} {d t : Device} {out out' : List DeviceOut} {l l' : Ledger}

theorem Unbooked.nil : Unbooked [] := ⟨rfl, rfl⟩

theorem Unbooked.append (h : Unbooked out) (h' : Unbooked out') : Unbooked (out ++ out') :=
  ⟨by rw [accepted_append, h.1, h'.1, List.append_nil],
    by rw [uartOut_append, h.2, h'.2, List.append_nil]⟩

theorem Unbooked.notifyOut (mtu : UInt16 → UInt16) (data : List (UInt16 × List UInt8)) :
    Unbooked (notifyOut mtu data) := by
  constructor
  · rw [accepted, List.filterMap_eq_nil_iff]
    intro o ho
    obtain ⟨d, -, ho⟩ := List.mem_flatMap.mp ho
    obtain ⟨f, -, rfl⟩ := List.mem_map.mp ho
    rfl
  · rw [uartOut, List.flatMap_eq_nil_iff]
    intro o ho
    obtain ⟨d, -, ho⟩ := List.mem_flatMap.mp ho
    obtain ⟨f, -, rfl⟩ := List.mem_map.mp ho
    rfl

theorem accounted_boot (maxPayload maxConn : ℕ) :
    Accounted maxPayload (deviceBoot maxConn) [] .blank where
  balanced := balanced_boot maxPayload
  sent := rfl
  whole _ hf := absurd hf List.not_mem_nil
  wire := rfl
  idle _ := ⟨rfl, rfl, rfl⟩

/-- A step that the books do not record. -/
theorem Accounted.unbooked (h : Accounted maxPayload d out l) (hq : Unbooked out')
    (hbalanced : Balanced maxPayload (t.link, l')) (hsent : l'.sent = l.sent)
    (hwire : l'.wire = l.wire)
    (hidle : t.started = false → d.started = false ∧ t.link.running = d.link.running) :
    Accounted maxPayload t (out ++ out') l' where
  balanced := hbalanced
  sent := by rw [hsent, accepted_append, hq.1, List.append_nil, h.sent]
  whole := by
    rw [accepted_append, hq.1, List.append_nil]
    exact h.whole
  wire := by rw [hwire, uartOut_append, hq.2, List.append_nil, h.wire]
  idle hs := by
    obtain ⟨hstart, hrun⟩ := hidle hs
    rw [accepted_append, uartOut_append, hq.1, hq.2, List.append_nil, List.append_nil, hrun]
    exact h.idle hstart

/-- The link, and what has been put out, without the rest. -/
theorem Accounted.still (h : Accounted maxPayload d out l) (hlink : t.link = d.link)
    (hstarted : t.started = d.started) (hq : Unbooked out') :
    Accounted maxPayload t (out ++ out') l :=
  h.unbooked hq (hlink ▸ h.balanced) rfl rfl fun hs => ⟨hstarted ▸ hs, by rw [hlink]⟩

/-- **A frame is handed to `al1_link_send`.** -/
theorem Accounted.send (hmax : maxPayload ≤ al1LinkMaxPayload)
    (h : Accounted maxPayload d out l) {frame : List UInt8} (hframe : ApFrame frame)
    (o : SendOutcome) :
    let c := forwardCall al1ChApCtrl frame o
    ∃ l', Accounted maxPayload { d with link := lifecycleNext maxPayload d.link (.send c) }
      (out ++ [.forward frame (d.link.sendErr maxPayload c)]) l' := by
  intro c
  have hlen : (UInt16.ofNat frame.length).toNat = frame.length := by
    rw [UInt16.toNat_ofNat', Nat.mod_eq_of_lt (hframe.length_le.trans_lt (by decide))]
  have hpayload : (c.frameAt d.link.txSeq).payload = frame := by
    show slice (ofList 0 frame) 0 (UInt16.ofNat frame.length).toNat = frame
    rw [hlen, slice_ofList]
  have hbalanced := h.balanced.send hmax c
  by_cases hok : d.link.sendErr maxPayload c = .ok
  · have henter : (al1LinkSend maxPayload d.link.sender c.channel c.payload c.len c.outcome).2 = .ok :=
      hok
    have hacc : accepted (out ++ [.forward frame (d.link.sendErr maxPayload c)]) =
        accepted out ++ [frame] := by
      rw [accepted_append, hok]
      rfl
    have huart : uartOut (out ++ [.forward frame (d.link.sendErr maxPayload c)]) = uartOut out := by
      rw [uartOut_append]
      exact List.append_nil _
    have hnext : Balanced maxPayload (lifecycleNext maxPayload d.link (.send c),
        l.enter maxPayload d.link (.send c)) := hbalanced
    rw [Ledger.enter, henter] at hnext
    refine ⟨_, hnext, ?_, ?_, ?_, fun hs => ?_⟩
    · rw [List.map_append, h.sent, hacc, List.map_append, List.map_singleton, List.map_singleton,
        hpayload]
      rfl
    · rw [hacc]
      exact List.forall_mem_append.mpr ⟨h.whole, List.forall_mem_singleton.mpr hframe⟩
    · rw [huart]
      exact h.wire
    · -- a link that has not been started accepts nothing
      have hstop : d.link.sender.running = false := (h.idle hs).1
      rw [al1LinkSend, if_pos (by rw [hstop]; exact Bool.false_ne_true)] at henter
      exact EspErr.noConfusion henter
  · have hq : Unbooked [.forward frame (d.link.sendErr maxPayload c)] := by
      refine ⟨?_, rfl⟩
      show List.filterMap _ [DeviceOut.forward frame (d.link.sendErr maxPayload c)] = []
      simp only [List.filterMap_cons, List.filterMap_nil, if_neg hok]
    have hkeep : (l.enter maxPayload d.link (.send c)).sent = l.sent ∧
        (l.enter maxPayload d.link (.send c)).wire = l.wire := by
      rw [Ledger.enter]
      split
      · exact absurd ‹_› hok
      · exact ⟨rfl, rfl⟩
      · exact ⟨rfl, rfl⟩
    exact ⟨_, h.unbooked hq hbalanced hkeep.1 hkeep.2 fun hs => ⟨hs, rfl⟩⟩

/-- **The calls of a callback.** -/
theorem Accounted.perform (hmax : maxPayload ≤ al1LinkMaxPayload)
    (h : Accounted maxPayload d out l) {acts : List Action} (hacts : Sendable acts)
    (mtu : UInt16 → UInt16) (fate : ℕ → SendOutcome) :
    let r := Device.perform maxPayload mtu d acts fate
    ∃ l', Accounted maxPayload r.1 (out ++ r.2) l' := by
  induction acts generalizing d out l fate with
  | nil =>
    exact ⟨l, h.still rfl rfl .nil⟩
  | cons a acts ih =>
    have hrest : Sendable acts := fun channel frame hmem =>
      hacts channel frame (List.mem_cons_of_mem _ hmem)
    -- a notification is not in the books
    have hnotify : ∀ data, ∃ l', Accounted maxPayload (Device.perform maxPayload mtu d acts fate).1
        (out ++ (notifyOut mtu data ++ (Device.perform maxPayload mtu d acts fate).2)) l' := by
      intro data
      have hquiet := h.still (t := d) rfl rfl (Unbooked.notifyOut mtu data)
      obtain ⟨l', hl'⟩ := ih hquiet hrest fate
      rw [List.append_assoc] at hl'
      exact ⟨l', hl'⟩
    cases a with
    | notifyConn conn data => exact hnotify _
    | notifyAll data => exact hnotify _
    | linkSend channel frame =>
      obtain ⟨rfl, hframe⟩ := hacts channel frame List.mem_cons_self
      obtain ⟨l₁, h₁⟩ := h.send hmax hframe (fate 0)
      obtain ⟨l', hl'⟩ := ih h₁ hrest fun k => fate (k + 1)
      rw [List.append_assoc] at hl'
      exact ⟨l', hl'⟩

/-- What `on_frame` does is not in the books. -/
theorem parserTrampoline_unbooked (mtu : UInt16 → UInt16) (d : Device) (calls : List Al1FrameCall) :
    (run (parserTrampoline mtu) d calls).1.link = d.link ∧
      (run (parserTrampoline mtu) d calls).1.started = d.started ∧
      Unbooked (run (parserTrampoline mtu) d calls).2 := by
  induction calls generalizing d with
  | nil => exact ⟨rfl, rfl, .nil⟩
  | cons c calls ih =>
    have hone : (parserTrampoline mtu d c).1.link = d.link ∧
        (parserTrampoline mtu d c).1.started = d.started ∧
        Unbooked (parserTrampoline mtu d c).2 := by
      unfold parserTrampoline onFrame
      split_ifs
      · exact ⟨rfl, rfl, .notifyOut _ _⟩
      · exact ⟨rfl, rfl, rfl, rfl⟩
      · exact ⟨rfl, rfl, .nil⟩
      · exact ⟨rfl, rfl, .nil⟩
    obtain ⟨hlink, hstarted, hq⟩ := ih (parserTrampoline mtu d c).1
    rw [run_cons]
    exact ⟨hlink.trans hone.1, hstarted.trans hone.2.1, hone.2.2.append hq⟩

/-- **A turn of the TX task.** -/
theorem Accounted.tx (h : Accounted maxPayload d out l) (k : ℕ) :
    ∃ l', Accounted maxPayload (deviceStep maxPayload d (.tx k)).1
      (out ++ (deviceStep maxPayload d (.tx k)).2) l' := by
  have htx := h.balanced.tx k
  rw [ledgerNext, lifecycleNext, Ledger.enter] at htx
  rw [deviceStep]
  by_cases hwrites : d.link.writes k = true
  case neg =>
    rw [if_neg hwrites] at htx ⊢
    exact ⟨l, h.unbooked .nil htx rfl rfl fun hs => ⟨hs, running_txTaskStep _ _⟩⟩
  rw [if_pos hwrites] at htx ⊢
  have hrun : d.link.running = true := by
    rw [SLink.writes, Bool.and_eq_true] at hwrites
    exact hwrites.1
  have hout : accepted ((d.link.sender.txQueue.take 1).map fun i => DeviceOut.uart i.bytes) = [] ∧
      uartOut ((d.link.sender.txQueue.take 1).map fun i => DeviceOut.uart i.bytes) =
        (txTask d.link.sender).2 := by
    cases hqueue : d.link.sender.txQueue with
    | nil =>
      rw [txTask_nil hqueue]
      exact ⟨rfl, rfl⟩
    | cons item queue =>
      rw [txTask_cons (l := d.link.sender) hrun hqueue]
      exact ⟨rfl, List.append_nil _⟩
  refine ⟨_, htx, ?_, ?_, ?_, fun hs => ?_⟩
  · rw [accepted_append, hout.1, List.append_nil]
    exact h.sent
  · rw [accepted_append, hout.1, List.append_nil]
    exact h.whole
  · rw [uartOut_append, hout.2, ← h.wire]
  · exact absurd (hrun.symm.trans (h.idle hs).1) Bool.noConfusion

/-- **One step.** -/
theorem Accounted.step (hmax : maxPayload ≤ al1LinkMaxPayload) {g : Gateway}
    (hsim : Simulated maxPayload maxConn d g) (h : Accounted maxPayload d out l) {e : DeviceEvent}
    (hadm : d.Allowed maxConn e) :
    ∃ l', Accounted maxPayload (deviceStep maxPayload d e).1
      (out ++ (deviceStep maxPayload d e).2) l' := by
  cases e with
  | setLinkCb | bleStart ok | resetSession | setConnEvtCb | setRxCb | connect conn =>
    exact ⟨l, h.still rfl rfl .nil⟩
  | tx k => exact h.tx k
  | linkStart o =>
    obtain ⟨hstopped, hacc, huart⟩ := h.idle hadm.2
    have hstart := h.balanced.start none o
    rw [ledgerNext, lifecycleNext, Ledger.enter, if_neg (by rw [hstopped]; simp)] at hstart
    refine ⟨.blank, hstart, ?_, ?_, ?_, fun hs => Bool.noConfusion hs⟩
    · rw [deviceStep, List.append_nil, hacc]
      rfl
    · rw [deviceStep, List.append_nil]
      exact h.whole
    · rw [deviceStep, List.append_nil, huart]
      rfl
  | rx k o mtu =>
    obtain ⟨hlink, hstarted, hq⟩ := parserTrampoline_unbooked mtu
      { d with link := rxTaskStep maxPayload d.link k o } (d.frameCalls maxPayload k o)
    have hrx := h.balanced.rx k o
    have hkeep : (l.enter maxPayload d.link (.rx k o)).sent = l.sent ∧
        (l.enter maxPayload d.link (.rx k o)).wire = l.wire := by
      rw [Ledger.enter]
      split_ifs <;> exact ⟨rfl, rfl⟩
    refine ⟨_, h.unbooked hq (hlink ▸ hrx) hkeep.1 hkeep.2 fun hs => ⟨hstarted ▸ hs, ?_⟩⟩
    rw [deviceStep, hlink]
    exact running_rxTaskStep _ _ _
  | disconnect conn fate =>
    have hstill := h.still (t := { d with
      ble := bootStep d.ble (.disconnect conn), connected := d.connected.erase conn }) rfl rfl .nil
    rw [List.append_nil] at hstill
    refine hstill.perform hmax ?_ _ fate
    rw [Device.dropActs]
    split_ifs
    · exact sendable_disconnect _ _
    · exact fun _ _ hmem => absurd hmem List.not_mem_nil
  | access conn ctxt fate mtu =>
    rw [deviceStep]
    generalize al1GattAccess ctxt = a
    obtain ⟨data, code⟩ := a
    cases data with
    | none => exact ⟨l, h.still rfl rfl ⟨rfl, rfl⟩⟩
    | some data =>
      have hstill := h.still (t := { d with ble := bootStep d.ble (.write conn data) }) rfl rfl .nil
      rw [List.append_nil] at hstill
      have hsendable : Sendable (d.writeActs conn data) := by
        rw [Device.writeActs]
        split_ifs
        · exact hsim.serves.sendable_write conn data
        · exact fun _ _ hmem => absurd hmem List.not_mem_nil
      obtain ⟨l', hl'⟩ := hstill.perform hmax hsendable mtu fate
      refine ⟨l', ?_⟩
      have hcode := hl'.still (t := _) rfl rfl (⟨rfl, rfl⟩ : Unbooked [.access conn code])
      rw [List.append_assoc] at hcode
      exact hcode

/-- **Every run.** -/
theorem accounted_run (hmax : maxPayload ≤ al1LinkMaxPayload) {events : List DeviceEvent}
    (hadm : DeviceAllowed maxPayload maxConn events) :
    ∃ l, Accounted maxPayload (deviceRun maxPayload maxConn events).1
      (deviceRun maxPayload maxConn events).2 l := by
  have hrun : ∀ (events : List DeviceEvent) {d : Device} {g : Gateway} {out : List DeviceOut}
      {l : Ledger}, Simulated maxPayload maxConn d g → Accounted maxPayload d out l →
      Along (fun d e => (deviceStep maxPayload d e).1) (Device.Allowed maxConn) d events →
      ∃ l', Accounted maxPayload (run (deviceStep maxPayload) d events).1
        (out ++ (run (deviceStep maxPayload) d events).2) l' := by
    intro events
    induction events with
    | nil =>
      intro d g out l _ h _
      rw [run_nil, List.append_nil]
      exact ⟨l, h⟩
    | cons e events ih =>
      intro d g out l hsim h hadm
      obtain ⟨hsim', -⟩ := (simulates hmax maxConn).step hsim hadm.1
      obtain ⟨l', h'⟩ := h.step hmax hsim hadm.1
      obtain ⟨l'', h''⟩ := ih hsim' h' hadm.2
      rw [List.append_assoc] at h''
      rw [run_cons]
      exact ⟨l'', h''⟩
  exact hrun events (simulated_boot maxPayload maxConn) (accounted_boot maxPayload maxConn) hadm

end Books

/-! ## Up -/

/-- An accepted frame is one that was handed over. -/
theorem accepted_sublist (out : List DeviceOut) : (accepted out).Sublist (forwarded out) := by
  induction out with
  | nil => exact .slnil
  | cons o out ih =>
    cases o with
    | forward frame err =>
      by_cases herr : err = .ok
      · have hacc : accepted (.forward frame err :: out) = frame :: accepted out := by
          simp only [accepted, List.filterMap_cons, if_pos herr]
        rw [hacc]
        exact ih.cons_cons frame
      · have hacc : accepted (.forward frame err :: out) = accepted out := by
          simp only [accepted, List.filterMap_cons, if_neg herr]
        rw [hacc]
        exact ih.cons frame
    | uart _ | notify _ _ | access _ _ | log _ => exact ih

/-- **What goes up.**  In every run from boot, as long as each turn of a task and each callback of
the host ends before the next begins, the frames that `al1_link_send` accepts are whole AP frames,
and some of those that the gateway passes up, in order.  A receiver of what is written to the UART
finds, at any moment, the first of them, each once, on AP_CTRL and without an error; and all of them
when the queue is empty. -/
theorem exchange_up {maxPayload maxConn peerMax : ℕ} (hmax : maxPayload ≤ al1LinkMaxPayload)
    (hpeer : maxPayload ≤ peerMax) {events : List DeviceEvent}
    (hadm : DeviceAllowed maxPayload maxConn events) :
    let r := deviceRun maxPayload maxConn events
    let passed := (gatewayRun maxPayload (deviceSeen maxPayload maxConn events)).2
    (∀ f ∈ accepted r.2, ApFrame f) ∧
      (accepted r.2).Sublist (passed.filterMap Passed.up?) ∧
      ∃ frames : List LinkFrame,
        frames.map (fun f => (f.channel, f.payload)) =
            (accepted r.2).map (fun f => (al1ChApCtrl, f)) ∧
          (∀ got, got <+: uartOut r.2 → linkScan peerMax got <+: frames.map .frame) ∧
          (r.1.link.running → r.1.link.txQueue = some [] →
            linkScan peerMax (uartOut r.2) = frames.map .frame) := by
  intro r passed
  obtain ⟨l, hl⟩ := accounted_run hmax hadm
  obtain ⟨-, hagree⟩ := simulated_run hmax hadm
  have hfits : ∀ f ∈ l.sent, f.Fits peerMax := fun f hf =>
    ⟨(hl.balanced.fits f hf).1.trans hpeer, (hl.balanced.fits f hf).2⟩
  refine ⟨hl.whole, hagree.forwarded ▸ accepted_sublist r.2, l.sent, hl.sent, fun got hgot => ?_,
    fun hrun hqueue => ?_⟩
  · exact linkScan_front hfits ((hl.wire ▸ hgot).trans hl.balanced.onWire)
  · obtain ⟨queue, hqueue', hwire, -⟩ := hl.balanced.conveys hrun
    obtain rfl : [] = queue := Option.some.inj (hqueue.symm.trans hqueue')
    have hall : uartOut r.2 = l.sent.flatMap LinkFrame.encode := by
      rw [← hl.wire, ← hwire, List.flatMap_nil, List.append_nil]
    rw [hall, ← linkRun_scan, linkRun_frames hfits]

/-- The CLAIM is on the wire, and the RELEASE is queued. -/
theorem exchange_up_visit :
    let r := deviceRun al1LinkMaxPayload al1BleMaxConn
      (visit [granted.encode] 23 fun _ => ⟨some fun _ => 0xEE, true⟩)
    ∃ frames : List LinkFrame,
      frames.map (fun f => (f.channel, f.payload)) =
          [(al1ChApCtrl, apPacketBytes apCmdClaim []), (al1ChApCtrl, apPacketBytes apCmdRelease [])] ∧
        linkScan al1LinkMaxPayload (uartOut r.2) <+: frames.map .frame := by
  obtain ⟨-, -, frames, hframes, hgot, -⟩ := @exchange_up al1LinkMaxPayload al1BleMaxConn _ le_rfl
    le_rfl (visit [granted.encode] 23 fun _ => ⟨some fun _ => 0xEE, true⟩) (by decide +kernel)
  exact ⟨frames, hframes.trans (by decide +kernel), hgot _ (List.prefix_refl _)⟩

/-! ## Down -/

/-- A central between two frames that is notified whole frames, however they are cut. -/
theorem reassembled {r : ApReassembler} (hr : r.state = .sync) {frames chunks : List (List UInt8)}
    (hwhole : ∀ f ∈ frames, ApFrame f) (hchunks : chunks.flatten = frames.flatten) :
    (run ApReassembler.feed r chunks).2 = frames := by
  have hrep : r.Represents [] := by rw [ApReassembler.Represents, hr]
  have hrun : run ApReassembler.feed r chunks = r.feed chunks.flatten := run_flatten _ _ _
  rw [hrun, (ApReassembler.feed_framing hrep _).frames, hchunks,
    show run (step apVerdict) [] frames.flatten = _ from apRun_frames hwhole, List.filterMap_map]
  exact List.filterMap_some

end Al1Wmod
