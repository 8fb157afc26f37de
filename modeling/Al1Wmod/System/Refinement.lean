import Al1Wmod.Stream.Simulation
import Al1Wmod.System.Device
import Al1Wmod.System.Serves

/-!
# The device is a gateway

The device simulates the gateway, from the first step of `app_main` on and whatever comes in over
either side.  A turn of the RX task is a reading of the line, a connect is a connect or a listening,
and a write is a write once the bridge has registered its callback.  What the two put out agrees:
each central is notified the bytes of what the gateway passes to it, in notifications of any sizes,
and what is handed to `al1_link_send` or to the log is what the gateway passes there.

All this is about runs in which each turn of a task and each callback of the host ends before the
next begins, as in `System.Device`.

In the relation (`Simulated`) the bridge serves the gateway, and the parser stands where the framer
of the line does: the ledger of the link says what has been read.
-/

namespace Al1Wmod

open Buffer Transducer Framer Machine Simulation

/-! ## What is put out -/

/-- Outputs of the device that come to what the gateway passes on. -/
structure OutAgree (out : List DeviceOut) (passed : List Passed) : Prop where
  notified : ∀ conn, notifiedTo conn out = (passed.filterMap (Passed.for conn)).flatten
  forwarded : forwarded out = passed.filterMap Passed.up?
  logged : logged out = passed.filterMap Passed.log?

theorem OutAgree.nil : OutAgree [] [] := ⟨fun _ => rfl, rfl, rfl⟩

theorem OutAgree.append {out out' : List DeviceOut} {passed passed' : List Passed}
    (h : OutAgree out passed) (h' : OutAgree out' passed') :
    OutAgree (out ++ out') (passed ++ passed') where
  notified conn := by
    rw [notifiedTo_append, h.notified, h'.notified, List.filterMap_append, List.flatten_append]
  forwarded := by rw [forwarded_append, h.forwarded, h'.forwarded, List.filterMap_append]
  logged := by rw [logged_append, h.logged, h'.logged, List.filterMap_append]

/-- Outputs that nobody observes. -/
theorem OutAgree.silent {out out' : List DeviceOut} {passed : List Passed} (h : OutAgree out passed)
    (hn : ∀ conn, notifiedTo conn out' = []) (hf : Al1Wmod.forwarded out' = [])
    (hl : Al1Wmod.logged out' = []) : OutAgree (out ++ out') passed := by
  have hnil : OutAgree out' [] := ⟨hn, hf, hl⟩
  have happend := h.append hnil
  rwa [List.append_nil] at happend

section Outputs

variable {conn : UInt16}

/-- What is notified carries the data, cut into fragments. -/
theorem notifiedTo_notifyOut (mtu : UInt16 → UInt16) {data : List (UInt16 × List UInt8)}
    (h : ∀ d ∈ data, d.2.length ≤ 32768) :
    notifiedTo conn (notifyOut mtu data) = (data.filterMap (dataFor conn)).flatten := by
  induction data with
  | nil => rfl
  | cons d data ih =>
    have hspec := (@NotifyCall.fragments_spec ⟨d.1, mtu d.1, d.2⟩ (h d List.mem_cons_self)).1
    have hone : notifiedTo conn ((NotifyCall.mk d.1 (mtu d.1) d.2).fragments.map (.notify d.1)) =
        ([d].filterMap (dataFor conn)).flatten := by
      rw [notifiedTo, List.flatMap_map]
      by_cases hd : d.1 = conn
      · simp only [hd, if_true, List.flatMap_id', List.filterMap_cons, List.filterMap_nil, dataFor,
          List.flatten_cons, List.flatten_nil, List.append_nil]
        exact hd ▸ hspec
      · simp [hd, dataFor]
    rw [notifyOut, List.flatMap_cons, notifiedTo_append, hone, ← notifyOut,
      ih fun e he => h e (List.mem_cons_of_mem _ he), ← List.flatten_append,
      ← List.filterMap_append, List.singleton_append]

theorem forwarded_notifyOut (mtu : UInt16 → UInt16) (data : List (UInt16 × List UInt8)) :
    forwarded (notifyOut mtu data) = [] := by
  rw [forwarded, List.filterMap_eq_nil_iff]
  intro o ho
  obtain ⟨d, -, ho⟩ := List.mem_flatMap.mp ho
  obtain ⟨f, -, rfl⟩ := List.mem_map.mp ho
  rfl

theorem logged_notifyOut (mtu : UInt16 → UInt16) (data : List (UInt16 × List UInt8)) :
    logged (notifyOut mtu data) = [] := by
  rw [logged, List.filterMap_eq_nil_iff]
  intro o ho
  obtain ⟨d, -, ho⟩ := List.mem_flatMap.mp ho
  obtain ⟨f, -, rfl⟩ := List.mem_map.mp ho
  rfl

/-- Notifications alone. -/
theorem ActsAgree.notifyOut {conns : List Al1BleConn} {acts : List Action} {passed : List Passed}
    (h : ActsAgree conns acts passed) (hup : passed.filterMap Passed.up? = [])
    (mtu : UInt16 → UInt16) :
    OutAgree (Al1Wmod.notifyOut mtu (acts.flatMap (Action.notified conns))) passed where
  notified conn := by rw [notifiedTo_notifyOut mtu h.short, h.notified]
  forwarded := by rw [forwarded_notifyOut, hup]
  logged := by rw [logged_notifyOut, h.logs]

/-- A call of `al1_link_send` reads nothing. -/
theorem Ledger.read_enter_send (maxPayload : ℕ) (l : Ledger) (s : SLink) (c : SendCall) :
    (l.enter maxPayload s (.send c)).read = l.read := by
  rw [Ledger.enter]
  split <;> rfl

/-- **The calls of a callback**, one after another. -/
theorem Device.perform_spec {maxPayload : ℕ} (hmax : maxPayload ≤ al1LinkMaxPayload)
    (mtu : UInt16 → UInt16) {d : Device} {acts : List Action} (fate : ℕ → SendOutcome)
    (h : ∀ x ∈ acts.flatMap (Action.notified d.ble.conns), x.2.length ≤ 32768) {l : Ledger}
    (hl : Balanced maxPayload (d.link, l)) :
    let r := Device.perform maxPayload mtu d acts fate
    (r.1 = { d with link := r.1.link } ∧ r.1.link.running = d.link.running ∧
      ∃ l', Balanced maxPayload (r.1.link, l') ∧ l'.read = l.read) ∧
    (∀ conn, notifiedTo conn r.2 =
      ((acts.flatMap (Action.notified d.ble.conns)).filterMap (dataFor conn)).flatten) ∧
    forwarded r.2 = acts.filterMap Action.sent? ∧ logged r.2 = [] := by
  induction acts generalizing d l fate with
  | nil => exact ⟨⟨rfl, rfl, l, hl, rfl⟩, fun _ => rfl, rfl, rfl⟩
  | cons a acts ih =>
    have hshort : ∀ x ∈ a.notified d.ble.conns, x.2.length ≤ 32768 := fun x hx =>
      h x (List.mem_flatMap.mpr ⟨a, List.mem_cons_self, hx⟩)
    have hrest : ∀ x ∈ acts.flatMap (Action.notified d.ble.conns), x.2.length ≤ 32768 := by
      intro x hx
      obtain ⟨b, hb, hx⟩ := List.mem_flatMap.mp hx
      exact h x (List.mem_flatMap.mpr ⟨b, List.mem_cons_of_mem _ hb, hx⟩)
    -- an action that notifies leaves the link alone
    have hnotify : ∀ t : Device × List DeviceOut, a.sent? = none →
        t = ((Device.perform maxPayload mtu d acts fate).1,
          notifyOut mtu (a.notified d.ble.conns) ++
            (Device.perform maxPayload mtu d acts fate).2) →
        (t.1 = { d with link := t.1.link } ∧ t.1.link.running = d.link.running ∧
          ∃ l', Balanced maxPayload (t.1.link, l') ∧ l'.read = l.read) ∧
        (∀ conn, notifiedTo conn t.2 = (((a :: acts).flatMap
          (Action.notified d.ble.conns)).filterMap (dataFor conn)).flatten) ∧
        forwarded t.2 = (a :: acts).filterMap Action.sent? ∧ logged t.2 = [] := by
      rintro t hsent rfl
      obtain ⟨hlink, hn, hf, hlog⟩ := ih fate hrest hl
      refine ⟨hlink, fun conn => ?_, ?_, ?_⟩
      · rw [notifiedTo_append, notifiedTo_notifyOut mtu hshort, hn, List.flatMap_cons,
          List.filterMap_append, List.flatten_append]
      · rw [forwarded_append, forwarded_notifyOut, hf, List.filterMap_cons, hsent]
        rfl
      · rw [logged_append, logged_notifyOut, hlog]
        rfl
    cases a with
    | notifyConn conn data => exact hnotify _ rfl rfl
    | notifyAll data => exact hnotify _ rfl rfl
    | linkSend channel frame =>
      have hsend := hl.send hmax (forwardCall channel frame (fate 0))
      obtain ⟨⟨hd, hrun, l', hl', hread⟩, hn, hf, hlog⟩ := @ih
        { d with
          link := lifecycleNext maxPayload d.link (.send (forwardCall channel frame (fate 0))) }
        (fun k => fate (k + 1)) hrest _ hsend
      refine ⟨⟨?_, hrun, l', hl', hread.trans (Ledger.read_enter_send _ _ _ _)⟩, hn, ?_, hlog⟩
      · exact hd
      · exact congrArg (frame :: ·) hf

end Outputs

/-! ## The simulation -/

/-- What the gateway sees of a step. -/
def Device.see (d : Device) : DeviceEvent → List GatewayEvent
  | .rx k o _ => if d.link.reads k o then [.read o.bytes] else []
  | .connect conn => [if d.ble.connCb then .connect conn else .listen conn]
  | .disconnect conn _ => [.disconnect conn]
  | .access conn ctxt _ _ =>
    if d.ble.rxCb then (al1GattAccess ctxt).1.elim [] fun data => [.write conn data] else []
  | _ => []

/-- The device stands where the gateway does. -/
structure Simulated (maxPayload maxConn : ℕ) (d : Device) (g : Gateway) : Prop where
  connected : d.connected = g.listening
  serves : Serves maxConn d.ble g
  line : ∃ l, Balanced maxPayload (d.link, l) ∧ g.line = Gateway.undecoded maxPayload [] l.read
  userCb : d.link.running → d.userCb
  fresh : d.started = false → d.link.running = false ∧ g.line = []

section Simulation

variable {maxPayload maxConn : ℕ} {d d' : Device} {g g' : Gateway}

theorem simulated_boot (maxPayload maxConn : ℕ) :
    Simulated maxPayload maxConn (deviceBoot maxConn) Gateway.init where
  connected := rfl
  serves := serves_boot maxConn
  line := ⟨.blank, balanced_boot maxPayload, rfl⟩
  userCb hrun := absurd hrun Bool.false_ne_true
  fresh _ := ⟨rfl, rfl⟩

/-- A step of the BLE part alone. -/
theorem Simulated.ble (h : Simulated maxPayload maxConn d g) {b : Boot}
    (hserves : Serves maxConn b g') (hline : g'.line = g.line) :
    Simulated maxPayload maxConn { d with ble := b, connected := g'.listening } g' where
  connected := rfl
  serves := hserves
  line := hline ▸ h.line
  userCb := h.userCb
  fresh := hline ▸ h.fresh

/-- A step of `app_main` that registers something. -/
theorem Simulated.register (h : Simulated maxPayload maxConn d g) {b : Boot}
    (hserves : Serves maxConn b g) : Simulated maxPayload maxConn { d with ble := b } g where
  connected := h.connected
  serves := hserves
  line := h.line
  userCb := h.userCb
  fresh := h.fresh

/-- A step of the link that reads nothing. -/
theorem Simulated.link (h : Simulated maxPayload maxConn d g) {s : SLink}
    (hrun : s.running = d.link.running)
    (hline : ∃ l, Balanced maxPayload (s, l) ∧ g.line = Gateway.undecoded maxPayload [] l.read) :
    Simulated maxPayload maxConn { d with link := s } g where
  connected := h.connected
  serves := h.serves
  line := hline
  userCb hs := h.userCb (hrun ▸ hs)
  fresh hs := ⟨hrun.trans (h.fresh hs).1, (h.fresh hs).2⟩

/-- **A callback of the host.** -/
theorem Simulated.perform (hmax : maxPayload ≤ al1LinkMaxPayload)
    (h : Simulated maxPayload maxConn d g) {acts : List Action} {passed : List Passed}
    (hacts : ActsAgree d.ble.conns acts passed) (mtu : UInt16 → UInt16) (fate : ℕ → SendOutcome) :
    let r := Device.perform maxPayload mtu d acts fate
    Simulated maxPayload maxConn r.1 g ∧ OutAgree r.2 passed := by
  obtain ⟨l, hl, hline⟩ := h.line
  obtain ⟨⟨hd, hrun, l', hl', hread⟩, hn, hf, hlog⟩ :=
    Device.perform_spec hmax mtu fate hacts.short hl
  intro r
  refine ⟨?_, ⟨fun conn => ?_, ?_, ?_⟩⟩
  · rw [show r.1 = { d with link := r.1.link } from hd]
    exact h.link hrun ⟨l', hl', hread ▸ hline⟩
  · rw [hn, hacts.notified]
  · rw [hf, hacts.sent]
  · rw [hlog, hacts.logs]

/-! ### The line -/

/-- The frames of a turn are those that the line completes. -/
theorem Balanced.calls {s : SLink} {l : Ledger} (h : Balanced maxPayload (s, l))
    (hrun : s.running = true) (bytes : List UInt8) :
    s.calls maxPayload bytes =
      Gateway.decoded maxPayload (Gateway.undecoded maxPayload [] l.read) bytes := by
  obtain ⟨p, hparser, hcb, hrep⟩ := h.parser hrun
  have hrep' : Represents maxPayload { p with stats := some s.stats }
      (linkRun maxPayload l.read).1 := hrep
  have hparser' : s.parser = some p := hparser
  rw [SLink.calls, hparser']
  exact (al1ParserFeed_framer hrep' bytes).calls.trans (if_pos hcb)

/-- **A call of `parser_trampoline`.** -/
theorem parserTrampoline_spec (mtu : UInt16 → UInt16) (hserves : Serves maxConn d.ble g)
    (hcb : d.userCb = true) {c : Al1FrameCall} (hlen : c.len.toNat ≤ 32768) :
    let r := parserTrampoline mtu d c
    let q := g.frame c.frame
    r.1 = { d with ble := r.1.ble } ∧ Serves maxConn r.1.ble q.1 ∧
      q.1.listening = g.listening ∧ OutAgree r.2 q.2 := by
  rw [parserTrampoline, if_pos hcb, onFrame, Gateway.frame]
  show (if c.channel = al1ChApCtrl then _ else _ : Device × List DeviceOut).1 = _ ∧ _
  by_cases hap : c.channel = al1ChApCtrl
  · obtain ⟨hroute, hacts⟩ := hserves.route c.payload hlen
    have hup : (g.route (slice c.payload 0 c.len.toNat)).2.filterMap Passed.up? = [] := by
      unfold Gateway.route
      split_ifs <;> rfl
    have hlisten : (g.route (slice c.payload 0 c.len.toNat)).1.listening = g.listening := by
      unfold Gateway.route
      split_ifs <;> rfl
    have hframe : c.frame.channel = al1ChApCtrl := hap
    rw [if_pos hap, if_pos hframe]
    exact ⟨rfl, hroute, hlisten, hacts.notifyOut hup mtu⟩
  · have hframe : c.frame.channel ≠ al1ChApCtrl := hap
    rw [if_neg hap, if_neg hframe]
    by_cases hlog : c.channel = al1ChLog
    · have hframe' : c.frame.channel = al1ChLog := hlog
      rw [if_pos hlog, if_pos hframe']
      exact ⟨rfl, hserves, rfl, ⟨fun _ => rfl, rfl, rfl⟩⟩
    · have hframe' : c.frame.channel ≠ al1ChLog := hlog
      rw [if_neg hlog, if_neg hframe']
      exact ⟨rfl, hserves, rfl, .nil⟩

/-- **The frames of a turn**, one after another. -/
theorem parserTrampoline_run (mtu : UInt16 → UInt16) (hserves : Serves maxConn d.ble g)
    (hcb : d.userCb = true) {calls : List Al1FrameCall}
    (hlen : ∀ c ∈ calls, c.len.toNat ≤ 32768) :
    let r := run (parserTrampoline mtu) d calls
    let q := run Gateway.frame g (calls.map Al1FrameCall.frame)
    r.1 = { d with ble := r.1.ble } ∧ Serves maxConn r.1.ble q.1 ∧
      q.1.listening = g.listening ∧ OutAgree r.2 q.2 := by
  induction calls generalizing d g with
  | nil => exact ⟨rfl, hserves, rfl, .nil⟩
  | cons c calls ih =>
    obtain ⟨hd, hone, hlisten, hagree⟩ :=
      parserTrampoline_spec mtu hserves hcb (hlen c List.mem_cons_self)
    have hcb' : (parserTrampoline mtu d c).1.userCb = true := by rw [hd]; exact hcb
    obtain ⟨hd', hrest, hlisten', hagree'⟩ :=
      ih hone hcb' fun e he => hlen e (List.mem_cons_of_mem _ he)
    rw [List.map_cons, run_cons, run_cons]
    refine ⟨?_, hrest, hlisten'.trans hlisten, hagree.append hagree'⟩
    show (run (parserTrampoline mtu) (parserTrampoline mtu d c).1 calls).1 = _
    rw [hd', hd]

/-- **A turn of the RX task.** -/
theorem Simulated.rx (hmax : maxPayload ≤ al1LinkMaxPayload)
    (h : Simulated maxPayload maxConn d g) (k : ℕ) (o : RxOutcome) (mtu : UInt16 → UInt16) :
    let r := deviceStep maxPayload d (.rx k o mtu)
    let q := run (Gateway.step maxPayload) g (d.see (.rx k o mtu))
    Simulated maxPayload maxConn r.1 q.1 ∧ OutAgree r.2 q.2 := by
  obtain ⟨l, hl, hline⟩ := h.line
  have hrx := hl.rx k o
  rw [ledgerNext, lifecycleNext, Ledger.enter] at hrx
  have hrunning := @running_rxTaskStep maxPayload d.link k o
  by_cases hreads : d.link.reads k o = true
  case neg =>
    rw [if_neg hreads] at hrx
    rw [deviceStep, Device.see, Device.frameCalls, if_neg hreads, if_neg hreads]
    exact ⟨h.link hrunning ⟨l, hrx, hline⟩, .nil⟩
  rw [if_pos hreads] at hrx
  have hrun : d.link.running = true := by
    rw [SLink.reads, Bool.and_eq_true] at hreads
    exact hreads.1
  have hcalls : (d.frameCalls maxPayload k o).map Al1FrameCall.frame =
      Gateway.decoded maxPayload g.line o.bytes := by
    rw [hline, ← hl.calls hrun, Device.frameCalls, if_pos hreads, SLink.calls]
    cases d.link.parser <;> rfl
  have hshort : ∀ c ∈ d.frameCalls maxPayload k o, c.len.toNat ≤ 32768 := by
    intro c hc
    have hfits : c.frame.Fits maxPayload := Gateway.fits_of_mem_decoded (hline ▸ hcalls ▸
      List.mem_map_of_mem hc)
    have hle : c.len.toNat ≤ maxPayload := by
      rw [← length_slice c.payload 0 c.len.toNat]
      exact hfits.1
    exact (hle.trans hmax).trans (by decide)
  have hturn : Serves maxConn { d with link := rxTaskStep maxPayload d.link k o }.ble
      { g with line := Gateway.undecoded maxPayload g.line o.bytes } :=
    h.serves.rebind rfl rfl (h.serves.session.of_eq rfl rfl) fun hun => (h.serves.unset hun).2
  obtain ⟨hd, hserves, hlisten, hagree⟩ := parserTrampoline_run mtu hturn (h.userCb hrun) hshort
  rw [hcalls] at hserves hlisten hagree
  rw [Device.see, if_pos hreads, deviceStep, run_cons, run_nil, List.append_nil]
  intro r q
  refine ⟨?_, hagree⟩
  have hr : r.1 = { d with link := rxTaskStep maxPayload d.link k o, ble := r.1.ble } := hd
  rw [hr]
  refine ⟨h.connected.trans hlisten.symm, hserves, ⟨_, hrx, ?_⟩, fun _ => h.userCb hrun, ?_⟩
  · rw [show q.1.line = _ from g.line_step (.read o.bytes), hline]
    exact (congrArg Prod.fst
      (run_append (Framer.step (linkVerdict maxPayload)) [] l.read o.bytes)).symm
  · intro hs
    exact absurd (hrun.symm.trans (h.fresh hs).1) Bool.noConfusion

/-- **A turn of the TX task.** -/
theorem Simulated.tx (h : Simulated maxPayload maxConn d g) (k : ℕ) :
    let r := deviceStep maxPayload d (.tx k)
    Simulated maxPayload maxConn r.1 g ∧ OutAgree r.2 [] := by
  obtain ⟨l, hl, hline⟩ := h.line
  have htx := hl.tx k
  rw [ledgerNext, lifecycleNext] at htx
  have hread : (l.enter maxPayload d.link (.tx k)).read = l.read := by
    rw [Ledger.enter]
    split_ifs <;> rfl
  refine ⟨h.link (running_txTaskStep _ _) ⟨_, htx, hline.trans (by rw [hread])⟩, ?_⟩
  -- what is written to the UART goes to neither side of the gateway
  have hsilent : ∀ items : List Al1TxItem,
      OutAgree (items.map fun i => DeviceOut.uart i.bytes) [] := by
    intro items
    induction items with
    | nil => exact .nil
    | cons i items ih =>
      have hone : OutAgree [.uart i.bytes] [] := ⟨fun _ => rfl, rfl, rfl⟩
      exact hone.append ih
  rw [deviceStep]
  split_ifs
  · exact hsilent _
  · exact .nil

/-! ### The host -/

/-- **A connect.** -/
theorem Simulated.connect (h : Simulated maxPayload maxConn d g) {conn : UInt16}
    (hadm : d.Allowed maxConn (.connect conn)) :
    let r := deviceStep maxPayload d (.connect conn)
    let q := run (Gateway.step maxPayload) g (d.see (.connect conn))
    Simulated maxPayload maxConn r.1 q.1 ∧ OutAgree r.2 q.2 := by
  obtain ⟨-, hconn, hnew, hlt⟩ := hadm
  rw [h.connected] at hnew hlt
  rw [deviceStep, Device.see, run_cons, run_nil, List.append_nil, h.connected]
  cases hcb : d.ble.connCb with
  | false => exact ⟨h.ble (h.serves.listen hcb hconn hnew hlt) rfl, .nil⟩
  | true => exact ⟨h.ble (h.serves.connect hcb hconn hnew hlt) rfl, .nil⟩

/-- **A disconnect.** -/
theorem Simulated.disconnect (hmax : maxPayload ≤ al1LinkMaxPayload)
    (h : Simulated maxPayload maxConn d g) {conn : UInt16} (hconn : conn ≠ connNone)
    (fate : ℕ → SendOutcome) :
    let r := deviceStep maxPayload d (.disconnect conn fate)
    let q := run (Gateway.step maxPayload) g (d.see (.disconnect conn fate))
    Simulated maxPayload maxConn r.1 q.1 ∧ OutAgree r.2 q.2 := by
  obtain ⟨hserves, hacts⟩ := h.serves.disconnect hconn
  have hleft := h.ble hserves rfl
  rw [deviceStep, Device.see, run_cons, run_nil, List.append_nil, h.connected]
  exact hleft.perform hmax hacts _ _

/-- **An access.** -/
theorem Simulated.access (hmax : maxPayload ≤ al1LinkMaxPayload)
    (h : Simulated maxPayload maxConn d g) (conn : UInt16) (ctxt : GattAccess)
    (fate : ℕ → SendOutcome) (mtu : UInt16 → UInt16) :
    let r := deviceStep maxPayload d (.access conn ctxt fate mtu)
    let q := run (Gateway.step maxPayload) g (d.see (.access conn ctxt fate mtu))
    Simulated maxPayload maxConn r.1 q.1 ∧ OutAgree r.2 q.2 := by
  -- the code is for the host alone
  have hcode : ∀ {out : List DeviceOut} {passed : List Passed} (code : AttCode),
      OutAgree out passed → OutAgree (out ++ [.access conn code]) passed := fun code hagree =>
    hagree.silent (fun _ => rfl) rfl rfl
  rw [deviceStep, Device.see]
  generalize al1GattAccess ctxt = a
  obtain ⟨data, code⟩ := a
  cases data with
  | none =>
    have hsee : (if d.ble.rxCb then (none : Option (List UInt8)).elim []
        fun data => [GatewayEvent.write conn data] else []) = [] := by
      split_ifs <;> rfl
    rw [hsee]
    exact ⟨h, hcode code .nil⟩
  | some data =>
    cases hcb : d.ble.rxCb with
    | false =>
      have hacts : d.writeActs conn data = [] := by
        rw [Device.writeActs, hcb]
        rfl
      have hble : bootStep d.ble (.write conn data) = d.ble :=
        congrArg (fun b => { d.ble with bridge := b }) (if_neg (by rw [hcb]; simp))
      simp only [hacts, hble]
      exact ⟨h, hcode code .nil⟩
    | true =>
      obtain ⟨hserves, hacts⟩ := h.serves.write maxPayload conn data
      have hline : (g.step maxPayload (.write conn data)).1.line = g.line := g.line_step _
      have hlisten : (g.step maxPayload (.write conn data)).1.listening = d.connected := by
        rw [h.connected, Gateway.step]
        cases g.streams conn with
        | none => rfl
        | some acc => exact (Gateway.run_command_tables conn _ _).1
      have hacts' : d.writeActs conn data = (onBleWrite d.ble.bridge conn data).2.flatMap
          Entry.acts := by
        rw [Device.writeActs, hcb]
        rfl
      have hble : bootStep d.ble (.write conn data) =
          { d.ble with bridge := (onBleWrite d.ble.bridge conn data).1 } :=
        congrArg (fun b => { d.ble with bridge := b }) (if_pos hcb)
      have hwritten := h.ble hserves hline
      rw [hlisten] at hwritten
      obtain ⟨hsim, hagree⟩ := hwritten.perform hmax hacts mtu fate
      simp only [hacts', hble, if_true, Option.elim_some]
      rw [run_cons, run_nil, List.append_nil]
      exact ⟨hsim, hcode code hagree⟩

/-- **Each step of the device is what the gateway does with what it sees.** -/
theorem simulates (hmax : maxPayload ≤ al1LinkMaxPayload) (maxConn : ℕ) :
    Simulates (deviceStep maxPayload) (Device.Allowed maxConn) Device.see
      (Gateway.step maxPayload) (Simulated maxPayload maxConn) OutAgree where
  nil := .nil
  append := OutAgree.append
  step {d g e} h hadm := by
    cases e with
    | rx k o mtu => exact h.rx hmax k o mtu
    | tx k => exact h.tx k
    | connect conn => exact h.connect hadm
    | disconnect conn fate => exact h.disconnect hmax hadm.2 fate
    | access conn ctxt fate mtu => exact h.access hmax conn ctxt fate mtu
    | setLinkCb => exact ⟨⟨h.connected, h.serves, h.line, fun _ => rfl, h.fresh⟩, .nil⟩
    | linkStart o =>
      obtain ⟨hstopped, hline⟩ := h.fresh hadm.2
      obtain ⟨l, hl, -⟩ := h.line
      have hstart := hl.start none o
      rw [ledgerNext, lifecycleNext, Ledger.enter, if_neg (by rw [hstopped]; simp)] at hstart
      exact ⟨⟨h.connected, h.serves, ⟨.blank, hstart, hline⟩, fun _ => hadm.1,
        fun hs => Bool.noConfusion hs⟩, .nil⟩
    | bleStart ok =>
      exact ⟨h.register { h.serves with early := fun _ => h.serves.early (.inl hadm.2) }, .nil⟩
    | resetSession =>
      obtain ⟨-, hc, hp⟩ := h.serves.unset (h.serves.early (.inr hadm))
      have hreset : Holds ⟨connNone, 0, connNone⟩ g := ⟨hc, hp⟩
      have hserves := h.serves.rebind rfl rfl hreset fun _ => ⟨hc, hp⟩
      exact ⟨h.register { hserves with early := by rintro (hpc | hpc) <;> cases hpc }, .nil⟩
    | setConnEvtCb =>
      exact ⟨h.register { h.serves with
        early := by rintro (hpc | hpc) <;> cases hpc
        unset := fun hun => Bool.noConfusion hun }, .nil⟩
    | setRxCb =>
      exact ⟨h.register { h.serves with early := by rintro (hpc | hpc) <;> cases hpc }, .nil⟩

end Simulation

/-- What the gateway sees of a run of the device. -/
def deviceSeen (maxPayload maxConn : ℕ) (events : List DeviceEvent) : List GatewayEvent :=
  seen (deviceStep maxPayload) Device.see (deviceBoot maxConn) events

/-- What the gateway makes of it. -/
def gatewayRun (maxPayload : ℕ) (events : List GatewayEvent) : Gateway × List Passed :=
  run (Gateway.step maxPayload) Gateway.init events

/-- **A run of the device** is the run of the gateway on what it sees. -/
theorem simulated_run {maxPayload maxConn : ℕ} (hmax : maxPayload ≤ al1LinkMaxPayload)
    {events : List DeviceEvent} (hadm : DeviceAllowed maxPayload maxConn events) :
    Simulated maxPayload maxConn (deviceRun maxPayload maxConn events).1
        (gatewayRun maxPayload (deviceSeen maxPayload maxConn events)).1 ∧
      OutAgree (deviceRun maxPayload maxConn events).2
        (gatewayRun maxPayload (deviceSeen maxPayload maxConn events)).2 :=
  (simulates hmax maxConn).run (simulated_boot maxPayload maxConn) hadm

/-- `app_main`, with everything in place. -/
def appMain : List DeviceEvent :=
  [.setLinkCb, .linkStart (startOutcome (some 2)), .bleStart true, .resetSession, .setConnEvtCb,
    .setRxCb]

/-- The STM32 grants a claim. -/
def granted : LinkFrame := ⟨al1ChApCtrl, 0, apPacketBytes apCmdOk [1, 0]⟩

/-- Two centrals.  The first claims and is granted control, the second is refused a command, and the
first disconnects.  The grant is read in these pieces. -/
def visit (reads : List (List UInt8)) (mtu : UInt16) (fate : ℕ → SendOutcome) :
    List DeviceEvent :=
  appMain ++ [.connect 1, .connect 2,
    .access 1 ⟨true, true, some (apPacketBytes apCmdClaim [])⟩ fate fun _ => mtu] ++
    reads.map (fun bytes => .rx 0 ⟨true, bytes⟩ fun _ => mtu) ++
    [.access 2 ⟨true, true, some (apPacketBytes apCmdPowerOn [])⟩ fate fun _ => mtu, .tx 0,
      .disconnect 1 fate]

end Al1Wmod
