import Al1Wmod.Ble.Authority
import Al1Wmod.Link.Runtime

/-!
# The uplink

From the bytes that centrals write to the packets that the peer of the link completes.  A step is
a callback of the bridge, whose calls of `al1_link_send` may each fail, or an iteration of
`tx_task`.  `accepted` are the frames for which `al1_link_send` returned OK, in order; the
history says what the bridge was given and what it did.

The bytes pass through two framings with the same SYNC byte, one inside the other.  Both agree
with the bridge on every frame, so a central cannot hide a command from the gate.
-/

namespace Al1Wmod

open Buffer Transducer Machine

/-- The bridge, the sending side of the link, and the wire. -/
structure Uplink where
  bridge : Bridge
  hist : List Entry
  link : Al1Link
  wire : List UInt8
  accepted : List (List UInt8)

/-- What an entry hands to `al1_link_send`. -/
def Entry.linkSends (e : Entry) : List (UInt8 × List UInt8) :=
  e.acts.filterMap fun
    | .linkSend channel frame => some (channel, frame)
    | _ => none

theorem Entry.mem_linkSends {e : Entry} {d : UInt8 × List UInt8} :
    d ∈ e.linkSends ↔ .linkSend d.1 d.2 ∈ e.acts := by
  rw [linkSends, List.mem_filterMap]
  constructor
  · rintro ⟨a, ha, hsome⟩
    cases a with
    | notifyConn _ _ | notifyAll _ => simp at hsome
    | linkSend channel frame =>
      obtain rfl := Option.some.inj hsome
      exact ha
  · intro h
    exact ⟨_, h, rfl⟩

/-- A call of `al1_link_send`. -/
def Uplink.send (maxPayload : ℕ) (u : Uplink) (d : UInt8 × List UInt8) (o : SendOutcome) :
    Uplink :=
  let r := al1LinkSend maxPayload u.link d.1 (some (ofList 0 d.2)) (UInt16.ofNat d.2.length) o
  { u with
    link := r.1
    accepted := if r.2 = .ok ∧ d.1 = al1ChApCtrl then u.accepted ++ [d.2] else u.accepted }

/-- Calls of `al1_link_send` one after another; `fate k` is what happens in the one after `k`
more. -/
def Uplink.sends (maxPayload : ℕ) (u : Uplink) :
    List (UInt8 × List UInt8) → (ℕ → SendOutcome) → Uplink
  | [], _ => u
  | d :: l, fate => (u.send maxPayload d (fate 0)).sends maxPayload l fun k => fate (k + 1)

/-- The steps of the uplink. -/
inductive UplinkEvent where
  | callback (e : BleEvent) (fate : ℕ → SendOutcome)
  | tx

/-- One step. -/
def uplinkStep (maxPayload : ℕ) (u : Uplink) : UplinkEvent → Uplink
  | .callback e fate =>
    let r := bridgeStep u.bridge e
    { u with bridge := r.1, hist := r.2.reverse ++ u.hist }.sends maxPayload
      (r.2.flatMap Entry.linkSends) fate
  | .tx => { u with link := (txTask u.link).1, wire := u.wire ++ (txTask u.link).2 }

/-- The uplink when the link has been started. -/
def uplinkBoot (maxConn : ℕ) : Uplink where
  bridge := al1BleApBridgeInit (bridgeBoot maxConn)
  hist := []
  link := { running := true, txQueue := [], stats := ⟨0, 0, 0, 0, 0, 0, 0⟩, txSeq := fun _ => 0 }
  wire := []
  accepted := []

/-- What may happen. -/
def Uplink.Allowed (u : Uplink) : UplinkEvent → Prop
  | .callback e _ => Admissible u.hist e
  | .tx => True

instance Uplink.decidableAllowed (u : Uplink) : ∀ e, Decidable (u.Allowed e)
  | .callback e _ => inferInstanceAs (Decidable (Admissible u.hist e))
  | .tx => inferInstanceAs (Decidable True)

/-- The uplink after a list of steps. -/
def uplinkRun (maxPayload maxConn : ℕ) (events : List UplinkEvent) : Uplink :=
  events.foldl (uplinkStep maxPayload) (uplinkBoot maxConn)

/-- Steps that may happen one after another. -/
abbrev UplinkAllowed (maxPayload maxConn : ℕ) (events : List UplinkEvent) : Prop :=
  Along (uplinkStep maxPayload) Uplink.Allowed (uplinkBoot maxConn) events

/-! ## What the link carries -/

/-- The link runs, and conveys the accepted frames on AP_CTRL. -/
def Uplink.Carries (u : Uplink) : Prop :=
  u.link.running ∧ ∃ frames : List LinkFrame,
    frames.map (fun f => (f.channel, f.payload)) = u.accepted.map (fun f => (al1ChApCtrl, f)) ∧
      Conveys u.link u.wire frames

section Sends

variable (maxPayload : ℕ) {u : Uplink}

/-- A call of `al1_link_send` accepts its frame or not. -/
theorem Uplink.Carries.send (h : u.Carries) {frame : List UInt8} (hlen : frame.length ≤ 65527)
    (o : SendOutcome) :
    (u.send maxPayload (al1ChApCtrl, frame) o).Carries ∧
      ((u.send maxPayload (al1ChApCtrl, frame) o).accepted = u.accepted ++ [frame] ∨
        (u.send maxPayload (al1ChApCtrl, frame) o).accepted = u.accepted) := by
  obtain ⟨hrun, frames, hframes, hconv⟩ := h
  obtain ⟨hrun', hok | herr⟩ :=
    al1LinkSend_spec maxPayload hrun al1ChApCtrl hlen o hconv
  · have hacc : (u.send maxPayload (al1ChApCtrl, frame) o).accepted = u.accepted ++ [frame] :=
      if_pos ⟨hok.1, rfl⟩
    refine ⟨⟨hrun', _, ?_, hok.2⟩, Or.inl hacc⟩
    rw [hacc, List.map_append, List.map_append, hframes]
    rfl
  · have hacc : (u.send maxPayload (al1ChApCtrl, frame) o).accepted = u.accepted :=
      if_neg fun hok => herr.1 hok.1
    exact ⟨⟨hrun', frames, by rw [hacc, hframes], herr.2⟩, Or.inr hacc⟩

/-- Calls one after another accept some of the frames, in order. -/
theorem Uplink.Carries.sends (h : u.Carries) {l : List (UInt8 × List UInt8)}
    (hl : ∀ d ∈ l, d.1 = al1ChApCtrl ∧ d.2.length ≤ 65527) (fate : ℕ → SendOutcome) :
    (u.sends maxPayload l fate).Carries ∧
      ∃ more, more.Sublist (l.map Prod.snd) ∧
        (u.sends maxPayload l fate).accepted = u.accepted ++ more := by
  induction l generalizing u fate with
  | nil => exact ⟨h, [], List.Sublist.slnil, (List.append_nil _).symm⟩
  | cons d l ih =>
    obtain ⟨channel, frame⟩ := d
    obtain ⟨rfl, hlen⟩ : channel = al1ChApCtrl ∧ frame.length ≤ 65527 := hl _ List.mem_cons_self
    obtain ⟨hc, hacc⟩ := h.send maxPayload hlen (fate 0)
    obtain ⟨hc', more, hmore, hacc'⟩ :=
      ih hc (fun d hd => hl d (List.mem_cons_of_mem _ hd)) fun k => fate (k + 1)
    rw [Uplink.sends]
    rcases hacc with hacc | hacc
    · refine ⟨hc', frame :: more, hmore.cons_cons frame, ?_⟩
      rw [hacc', hacc, List.append_assoc, List.singleton_append]
    · exact ⟨hc', more, hmore.cons frame, by rw [hacc', hacc]⟩

@[simp] theorem Uplink.bridge_sends (u : Uplink) (l : List (UInt8 × List UInt8))
    (fate : ℕ → SendOutcome) : (u.sends maxPayload l fate).bridge = u.bridge := by
  induction l generalizing u fate with
  | nil => rfl
  | cons d l ih => exact ih _ _

@[simp] theorem Uplink.hist_sends (u : Uplink) (l : List (UInt8 × List UInt8))
    (fate : ℕ → SendOutcome) : (u.sends maxPayload l fate).hist = u.hist := by
  induction l generalizing u fate with
  | nil => rfl
  | cons d l ih => exact ih _ _

end Sends

/-! ## What the bridge sends -/

/-- The bridge sends whole frames on AP_CTRL: a frame that it classified, or a RELEASE for a central
that dropped. -/
def SendsFrames (e : Entry) : Prop :=
  ∀ d ∈ e.linkSends, d.1 = al1ChApCtrl ∧ ApFrame d.2 ∧
    ((∃ conn, e.call = .apFrame conn d.2) ∨
      ∃ conn, e.call = .connEvt conn false ∧ d.2 = apPacketBytes apCmdRelease [])

theorem Reached.sendsFrames {maxConn : ℕ} {b : Bridge} {hist : List Entry}
    (h : Reached maxConn b hist) : ∀ e ∈ hist, SendsFrames e := by
  refine PastTime.historically_iff_mem.mp (h.traced.historically ?_)
  rintro s past c ht hj ⟨channel, frame⟩ hmem
  obtain ⟨rfl, ⟨conn, rfl⟩ | ⟨rfl, rfl, -⟩⟩ := (s.call_step c).linkSend (Entry.mem_linkSends.mp hmem)
  · exact ⟨rfl, hj.2.apFrame, Or.inl ⟨conn, rfl⟩⟩
  · refine ⟨rfl, ?_, Or.inr ⟨_, rfl, releasePacket_eq⟩⟩
    rw [releasePacket_eq]
    exact apFrame_apPacketBytes _ (by decide)

/-! ## Runs -/

/-- What the bridge has handed to `al1_link_send`, in order. -/
def sentFrames (hist : List Entry) : List (List UInt8) :=
  hist.reverse.flatMap fun e => e.linkSends.map Prod.snd

/-- What holds of the uplink in every run. -/
structure UplinkInv (maxConn : ℕ) (u : Uplink) : Prop where
  reached : Reached maxConn u.bridge u.hist
  carries : u.Carries
  sent : u.accepted.Sublist (sentFrames u.hist)

theorem uplinkInv_boot (maxConn : ℕ) : UplinkInv maxConn (uplinkBoot maxConn) :=
  ⟨.boot, ⟨rfl, [], rfl, rfl⟩, List.nil_sublist _⟩

theorem UplinkInv.step {maxPayload maxConn : ℕ} {u : Uplink} (h : UplinkInv maxConn u)
    {e : UplinkEvent} (he : u.Allowed e) : UplinkInv maxConn (uplinkStep maxPayload u e) := by
  cases e with
  | tx =>
    obtain ⟨hrun, frames, hframes, hconv⟩ := h.carries
    obtain ⟨hrun', hconv'⟩ := txTask_spec hrun hconv
    exact ⟨h.reached, ⟨hrun', frames, hframes, hconv'⟩, h.sent⟩
  | callback e fate =>
    have hreached := h.reached.step he
    set r := bridgeStep u.bridge e with hr
    set v : Uplink := { u with bridge := r.1, hist := r.2.reverse ++ u.hist } with hv
    have hl : ∀ d ∈ r.2.flatMap Entry.linkSends, d.1 = al1ChApCtrl ∧ d.2.length ≤ 65527 := by
      intro d hd
      obtain ⟨x, hx, hd⟩ := List.mem_flatMap.mp hd
      have hx' : x ∈ r.2.reverse ++ u.hist := List.mem_append_left _ (List.mem_reverse.mpr hx)
      obtain ⟨hch, hframe, -⟩ := hreached.sendsFrames x hx' d hd
      exact ⟨hch, hframe.length_le.trans (by decide)⟩
    have hcarries : v.Carries := h.carries
    obtain ⟨hc, more, hmore, hacc⟩ := hcarries.sends maxPayload hl fate
    have hsent : sentFrames v.hist =
        sentFrames u.hist ++ (r.2.flatMap Entry.linkSends).map Prod.snd := by
      simp [sentFrames, hv, List.map_flatMap]
    refine ⟨?_, hc, ?_⟩
    · rw [uplinkStep, Uplink.bridge_sends, Uplink.hist_sends]
      exact hreached
    · rw [uplinkStep, Uplink.hist_sends, hacc, hsent]
      exact h.sent.append hmore

/-- What every run keeps. -/
theorem uplinkInv_run {maxPayload maxConn : ℕ} {events : List UplinkEvent}
    (h : UplinkAllowed maxPayload maxConn events) :
    UplinkInv maxConn (uplinkRun maxPayload maxConn events) :=
  h.invariant (fun _ _ hu he => hu.step he) (uplinkInv_boot maxConn)

/-- Where an accepted frame comes from. -/
theorem UplinkInv.origin {maxConn : ℕ} {u : Uplink} (h : UplinkInv maxConn u) :
    ∀ f ∈ u.accepted, ApFrame f ∧ ∃ e ∈ u.hist, (∃ conn, e.call = .apFrame conn f) ∨
      ∃ conn, e.call = .connEvt conn false ∧ f = apPacketBytes apCmdRelease [] := by
  intro f hf
  obtain ⟨e, he, hmem⟩ := List.mem_flatMap.mp (h.sent.subset hf)
  obtain ⟨d, hd, rfl⟩ := List.mem_map.mp hmem
  have he' : e ∈ u.hist := List.mem_reverse.mp he
  obtain ⟨-, hframe, hcall⟩ := h.reached.sendsFrames e he' d hd
  exact ⟨hframe, e, he', hcall⟩

/-! ## The peer -/

/-- What the peer's callback gets on AP_CTRL. -/
def apCtrlPayloads (calls : List Al1FrameCall) : List (List UInt8) :=
  ((calls.map Al1FrameCall.frame).filter fun f => f.channel = al1ChApCtrl).map LinkFrame.payload

/-- Frames that are all on AP_CTRL. -/
theorem payloads_of_apCtrl {frames : List LinkFrame} {payloads : List (List UInt8)}
    (h : frames.map (fun f => (f.channel, f.payload)) = payloads.map fun f => (al1ChApCtrl, f)) :
    (frames.filter fun f => f.channel = al1ChApCtrl).map LinkFrame.payload = payloads := by
  have hall : ∀ f ∈ frames, f.channel = al1ChApCtrl := by
    intro f hf
    have hmem : (f.channel, f.payload) ∈ payloads.map fun f => (al1ChApCtrl, f) :=
      h ▸ List.mem_map_of_mem hf
    obtain ⟨g, -, hg⟩ := List.mem_map.mp hmem
    exact (Prod.mk.inj hg).1.symm
  rw [List.filter_eq_self.mpr fun f hf => decide_eq_true (hall f hf)]
  have hsnd := congrArg (List.map Prod.snd) h
  simpa [Function.comp_def] using hsnd

/-- **The uplink, end to end.**  In any run of the bridge, with any failures of
`al1_link_send`, let `tx_task` empty the queue, and let a peer in SYNC read the wire in any chunks.
Its link parser delivers the accepted frames and nothing else.  Its packet parser is in SYNC after
each of them, and completes those with a right CRC, with the command that the bridge classified.
So every command it sees is one that `on_ap_frame` saw, or the RELEASE for a central that
dropped. -/
theorem uplink {maxPayload maxConn peerMax : ℕ} {events : List UplinkEvent}
    (hev : UplinkAllowed maxPayload maxConn events)
    (hempty : (uplinkRun maxPayload maxConn events).link.txQueue = []) (hcap : 256 ≤ peerMax)
    (peer : Al1Parser) (chunks : List (List UInt8))
    (hchunks : chunks.flatten = (uplinkRun maxPayload maxConn events).wire)
    (ap : ApParser) (hap : ap.state = .sync) :
    let u := uplinkRun maxPayload maxConn events
    let calls := (run (al1ParserFeed peerMax) { peer with state := .sync, cb := true } chunks).2
    let packets := (run apReceiveByte ap (apCtrlPayloads calls).flatten).2
    u.accepted.Sublist (sentFrames u.hist) ∧
      calls.map (fun c => (c.frame.channel, c.frame.payload)) =
        u.accepted.map (fun f => (al1ChApCtrl, f)) ∧
      (∀ k, (run apReceiveByte ap ((apCtrlPayloads calls).take k).flatten).1.state = .sync) ∧
      packets = (u.accepted.filter fun f => ApCrcValid f).map apFrameMessage ∧
      (∀ f ∈ u.accepted, (apFrameMessage f).cmd = apCmd f) ∧
      ∀ m ∈ packets, ∃ e ∈ u.hist,
        (∃ conn frame, e.call = .apFrame conn frame ∧ apCmd frame = m.cmd) ∨
          ∃ conn, e.call = .connEvt conn false ∧ m.cmd = apCmdRelease := by
  intro u calls packets
  have hinv : UplinkInv maxConn u := uplinkInv_run hev
  have horigin := hinv.origin
  obtain ⟨-, frames, hframes, hconv⟩ := hinv.carries
  have hfits : ∀ f ∈ frames, f.Fits peerMax := by
    intro f hf
    have hmem : (f.channel, f.payload) ∈ u.accepted.map fun f => (al1ChApCtrl, f) :=
      hframes ▸ List.mem_map_of_mem hf
    obtain ⟨g, hg, heq⟩ := List.mem_map.mp hmem
    have hlen : f.payload.length ≤ 256 := (Prod.mk.inj heq).2 ▸ (horigin g hg).1.length_le
    exact ⟨hlen.trans hcap, hlen.trans_lt (by decide)⟩
  have hwire : chunks.flatten = frames.flatMap LinkFrame.encode := by
    rw [Conveys, hempty, List.flatMap_nil, List.append_nil] at hconv
    exact hchunks.trans hconv
  have hcalls : calls.map Al1FrameCall.frame = frames := al1ParserFeed_encoded peer hfits hwire
  have hpayloads : apCtrlPayloads calls = u.accepted := by
    rw [apCtrlPayloads, hcalls]
    exact payloads_of_apCtrl hframes
  have hpackets : packets = (u.accepted.filter fun f => ApCrcValid f).map apFrameMessage := by
    show (run apReceiveByte ap (apCtrlPayloads calls).flatten).2 = _
    rw [hpayloads]
    exact (run_apReceiveByte_frames hap fun f hf => (horigin f hf).1).2
  refine ⟨hinv.sent, ?_, fun k => ?_, hpackets, fun f hf => (horigin f hf).1.cmd_message, ?_⟩
  · rw [← hframes, ← hcalls, List.map_map]
    rfl
  · rw [hpayloads]
    exact (run_apReceiveByte_frames hap fun f hf => (horigin f (List.mem_of_mem_take hf)).1).1
  · rw [hpackets]
    intro m hm
    obtain ⟨f, hf, rfl⟩ := List.mem_map.mp hm
    obtain ⟨hframe, e, he, hcall⟩ := horigin f (List.mem_of_mem_filter hf)
    refine ⟨e, he, hcall.imp ?_ ?_⟩
    · rintro ⟨conn, hconn⟩
      exact ⟨conn, f, hconn, hframe.cmd_message.symm⟩
    · rintro ⟨conn, hconn, rfl⟩
      exact ⟨conn, hconn, rfl⟩

/-- A central claims control, writes a frame with a wrong CRC, sets the LEDs and drops.  Its PING
finds the queue full. -/
def claimAndDrop : List UplinkEvent :=
  let ready : ℕ → SendOutcome := fun _ => ⟨some fun _ => 0xEE, true⟩
  [.callback (.connEvt 7 true) ready,
    .callback (.write 7 (apPacketBytes apCmdClaim [] ++ [0xA5, 0x02, 0x03])) ready, .tx,
    .callback (.linkAp (ofList 0 (apPacketBytes apCmdOk [0, 7])) 6) ready,
    .callback (.write 7 [0xA5, 0x00]) ready,
    .callback (.write 7 (apPacketBytes apCmdPing [] ++ apPacketBytes apCmdSetRgb [0xA5, 1, 2]))
      fun k => ⟨some fun _ => 0xEE, k != 0⟩,
    .callback (.connEvt 7 false) ready, .tx, .tx, .tx]

/-- The peer completes the CLAIM, the SET_RGB and the RELEASE that the bridge sent. -/
theorem uplink_claimAndDrop :
    (run apReceiveByte
      { state := .sync, len := 8, idx := 3, data := fun _ => 0x55
        pkt := { cmd := 9, payloadLen := 2, payload := fun _ => 0x66 } }
      (apCtrlPayloads (run (al1ParserFeed 256)
        { state := .sync, channel := 3, seq := 4, len := 9, idx := 5, crcCalc := 6, crcRx := 7
          payload := fun _ => 0x55, cb := true, stats := none }
        [(uplinkRun al1LinkMaxPayload al1BleMaxConn claimAndDrop).wire.take 5, [],
          (uplinkRun al1LinkMaxPayload al1BleMaxConn claimAndDrop).wire.drop 5]).2).flatten).2 =
      [⟨apCmdClaim, []⟩, ⟨apCmdSetRgb, [0xA5, 1, 2]⟩, ⟨apCmdRelease, []⟩] := by
  refine (@uplink al1LinkMaxPayload al1BleMaxConn 256 claimAndDrop (by decide +kernel)
    (by decide +kernel) le_rfl
    { state := .payload, channel := 3, seq := 4, len := 9, idx := 5, crcCalc := 6, crcRx := 7
      payload := fun _ => 0x55, cb := false, stats := none } _ (by simp) _ rfl).2.2.2.1.trans ?_
  decide +kernel

end Al1Wmod
