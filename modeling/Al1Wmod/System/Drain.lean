import Al1Wmod.System.Exchange

/-!
# What is queued comes out

`exchange_up` says that nothing but the accepted frames is written to the UART.  Here it is said
that they are written.  The device never stops its link, the one TX task takes the items from the
front of the queue, and a sender adds to its end.  So a frame waits for as many turns of the TX task
as there are items before it, whatever else happens meanwhile (`exchange_drains`).
-/

namespace Al1Wmod

open Buffer Transducer Framer Machine Simulation

/-- A turn of the TX task. -/
def DeviceEvent.txTurn : DeviceEvent → Bool
  | .tx 0 => true
  | _ => false

/-- The link has the TX task that `al1_link_start` has created. -/
structure Manned (d : Device) : Prop where
  up : d.link.running → d.started = true ∧ d.link.txTasks.length = 1
  down : d.started = false → d.link.running = false ∧ d.link.txTasks = []

/-- These items are at the front of the queue. -/
structure Waiting (d : Device) (queued : List Al1TxItem) : Prop where
  running : d.link.running = true
  manned : Manned d
  queue : ∃ later, d.link.txQueue = some (queued ++ later)

section Queue

variable {maxPayload maxConn : ℕ} {d t : Device} {queued : List Al1TxItem}

theorem manned_boot (maxConn : ℕ) : Manned (deviceBoot maxConn) where
  up hrun := absurd hrun Bool.false_ne_true
  down _ := ⟨rfl, rfl⟩

/-- The device starts and stops nothing. -/
theorem Manned.still (h : Manned d) (hstarted : t.started = d.started)
    (hrunning : t.link.running = d.link.running) (htasks : t.link.txTasks = d.link.txTasks) :
    Manned t where
  up hrun := by
    rw [hstarted, htasks]
    exact h.up (hrunning ▸ hrun)
  down hs := by
    rw [hrunning, htasks]
    exact h.down (hstarted ▸ hs)

/-- The calls of a callback start and stop nothing. -/
theorem Manned.perform (h : Manned d) (acts : List Action) (mtu : UInt16 → UInt16)
    (fate : ℕ → SendOutcome) : Manned (Device.perform maxPayload mtu d acts fate).1 := by
  induction acts generalizing d fate with
  | nil => exact h
  | cons a acts ih =>
    cases a with
    | notifyConn conn data => exact ih h fate
    | notifyAll data => exact ih h fate
    | linkSend channel frame =>
      have hsent : Manned { d with
          link := lifecycleNext maxPayload d.link (.send (forwardCall channel frame (fate 0))) } :=
        h.still rfl rfl rfl
      exact ih hsent fun k => fate (k + 1)

/-- **One step.** -/
theorem Manned.step (h : Manned d) {e : DeviceEvent} (hadm : d.Allowed maxConn e) :
    Manned (deviceStep maxPayload d e).1 := by
  cases e with
  | setLinkCb | bleStart ok | resetSession | setConnEvtCb | setRxCb | connect conn =>
    exact h.still rfl rfl rfl
  | linkStart o =>
    obtain ⟨hstopped, hnone⟩ := h.down hadm.2
    obtain ⟨-, hfresh⟩ := al1LinkStart_stopped hstopped none o
    refine ⟨fun hrun => ⟨rfl, ?_⟩, fun hs => Bool.noConfusion hs⟩
    rcases hfresh with ⟨hno, -⟩ | ⟨-, -, -, htask⟩
    · exact absurd (hno.symm.trans hrun) Bool.false_ne_true
    · rw [hnone] at htask
      exact htask
  | rx k o mtu =>
    obtain ⟨hlink, hstarted, -⟩ := parserTrampoline_unbooked mtu
      { d with link := rxTaskStep maxPayload d.link k o } (d.frameCalls maxPayload k o)
    refine h.still hstarted ?_ ?_
    · exact (congrArg SLink.running hlink).trans (running_rxTaskStep _ _ _)
    · exact (congrArg SLink.txTasks hlink).trans (rxTaskStep_queue _ _ _).1
  | tx k =>
    by_cases hrun : d.link.running = true
    · refine h.still rfl (running_txTaskStep _ _) ?_
      show (txTaskStep d.link k).txTasks = d.link.txTasks
      cases ht : d.link.txTasks[k]? with
      | none => rw [txTaskStep_of_none ht]
      | some t =>
        rw [txTaskStep_writes ht hrun]
        rfl
    · refine ⟨fun hrun' => absurd ((running_txTaskStep _ _).symm.trans hrun') hrun, fun hs => ?_⟩
      obtain ⟨hstopped, hnone⟩ := h.down hs
      have ht : d.link.txTasks[k]? = none := by rw [hnone]; rfl
      show (txTaskStep d.link k).running = false ∧ (txTaskStep d.link k).txTasks = []
      rw [txTaskStep_of_none ht]
      exact ⟨hstopped, hnone⟩
  | disconnect conn fate =>
    have hstill : Manned { d with
        ble := bootStep d.ble (.disconnect conn), connected := d.connected.erase conn } :=
      h.still rfl rfl rfl
    exact hstill.perform _ _ _
  | access conn ctxt fate mtu =>
    rw [deviceStep]
    generalize al1GattAccess ctxt = a
    obtain ⟨data, code⟩ := a
    cases data with
    | none => exact h
    | some data =>
      have hstill : Manned { d with ble := bootStep d.ble (.write conn data) } :=
        h.still rfl rfl rfl
      exact hstill.perform _ _ _

theorem Waiting.same (h : Waiting d queued) (hmanned : Manned t) (hlink : t.link = d.link) :
    Waiting t queued :=
  ⟨hlink ▸ h.running, hmanned, hlink ▸ h.queue⟩

/-- The items stay where they are. -/
theorem Waiting.still (h : Waiting d queued) (hmanned : Manned t)
    (hrunning : t.link.running = d.link.running) {more : List Al1TxItem}
    (hqueue : t.link.txQueue = d.link.txQueue.map (· ++ more)) : Waiting t queued where
  running := hrunning.trans h.running
  manned := hmanned
  queue := by
    obtain ⟨later, hlater⟩ := h.queue
    exact ⟨later ++ more, by rw [hqueue, hlater, Option.map_some, List.append_assoc]⟩

/-- A sender adds to the end. -/
theorem queue_send (hmax : maxPayload ≤ al1LinkMaxPayload) {s : SLink} (hrun : s.running = true)
    (c : SendCall) : ∃ more,
      (lifecycleNext maxPayload s (.send c)).txQueue = s.txQueue.map (· ++ more) := by
  have hqueue : ∀ more (l : Al1Link), l.txQueue = s.sender.txQueue ++ more →
      (s.withSender l).txQueue = s.txQueue.map (· ++ more) := by
    intro more l hl
    rw [SLink.withSender, hl, SLink.sender]
    cases s.txQueue <;> rfl
  rcases @al1LinkSend_cases maxPayload s.sender hmax hrun c with
    ⟨-, -, -, item, q, -, hnext⟩ | ⟨-, -, -, q, hnext⟩
  · exact ⟨[item], hqueue _ _ (by rw [hnext])⟩
  · exact ⟨[], hqueue _ _ (by rw [hnext, List.append_nil]; rfl)⟩

/-- The calls of a callback leave the items where they are. -/
theorem Waiting.perform (hmax : maxPayload ≤ al1LinkMaxPayload) (h : Waiting d queued)
    (acts : List Action) (mtu : UInt16 → UInt16) (fate : ℕ → SendOutcome) :
    Waiting (Device.perform maxPayload mtu d acts fate).1 queued := by
  induction acts generalizing d fate with
  | nil => exact h
  | cons a acts ih =>
    cases a with
    | notifyConn conn data => exact ih h fate
    | notifyAll data => exact ih h fate
    | linkSend channel frame =>
      obtain ⟨more, hmore⟩ := queue_send hmax h.running (forwardCall channel frame (fate 0))
      have hsent : Waiting { d with
          link := lifecycleNext maxPayload d.link (.send (forwardCall channel frame (fate 0))) }
          queued := h.still (h.manned.still rfl rfl rfl) rfl hmore
      exact ih hsent fun k => fate (k + 1)

/-- A callback writes nothing to the UART. -/
theorem uartOut_perform (d : Device) (acts : List Action) (mtu : UInt16 → UInt16)
    (fate : ℕ → SendOutcome) : uartOut (Device.perform maxPayload mtu d acts fate).2 = [] := by
  induction acts generalizing d fate with
  | nil => rfl
  | cons a acts ih =>
    have hnotify : ∀ data,
        uartOut (notifyOut mtu data ++ (Device.perform maxPayload mtu d acts fate).2) = [] := by
      intro data
      rw [uartOut_append, (Unbooked.notifyOut mtu data).2, ih, List.append_nil]
    cases a with
    | notifyConn conn data => exact hnotify _
    | notifyAll data => exact hnotify _
    | linkSend channel frame => exact ih _ _

/-- **A turn of the TX task.** -/
theorem Waiting.tx (h : Waiting d queued) (k : ℕ) :
    let r := deviceStep maxPayload d (.tx k)
    ∃ queued', Waiting r.1 queued' ∧
      queued.flatMap Al1TxItem.bytes <+: uartOut r.2 ++ queued'.flatMap Al1TxItem.bytes ∧
      queued'.length ≤ queued.length - if DeviceEvent.txTurn (.tx k) then 1 else 0 := by
  obtain ⟨later, hlater⟩ := h.queue
  have hone := (h.manned.up h.running).2
  have hmanned : Manned (deviceStep maxPayload d (.tx k)).1 :=
    @Manned.step maxPayload 0 d h.manned (.tx k) trivial
  intro r
  cases ht : d.link.txTasks[k]? with
  | none =>
    have hturn : DeviceEvent.txTurn (.tx k) = false := by
      cases k with
      | zero =>
        rw [List.getElem?_eq_none_iff, hone] at ht
        exact absurd ht (by decide)
      | succ k => rfl
    have hnext : r.1.link = d.link := txTaskStep_of_none ht
    have hout : r.2 = [] := if_neg (by simp [SLink.writes, ht])
    refine ⟨queued, ⟨hnext ▸ h.running, hmanned, later, hnext ▸ hlater⟩, ?_, ?_⟩
    · rw [hout]
      exact List.prefix_refl _
    · rw [hturn]
      exact le_rfl
  | some t =>
    have hrunning : r.1.link.running = true := (running_txTaskStep _ _).trans h.running
    have hqueue : r.1.link.txQueue = some (queued ++ later).tail := queue_tx h.running ht hlater
    have hsender : d.link.sender.txQueue = queued ++ later := by
      rw [SLink.sender, hlater, Option.getD_some]
    have hout : r.2 = ((queued ++ later).take 1).map fun i => .uart i.bytes := by
      rw [← hsender]
      exact if_pos (by simp [SLink.writes, ht, h.running])
    cases queued with
    | nil => exact ⟨[], ⟨hrunning, hmanned, _, hqueue⟩, List.nil_prefix, Nat.zero_le _⟩
    | cons item rest =>
      refine ⟨rest, ⟨hrunning, hmanned, later, hqueue⟩, ?_, ?_⟩
      · have huart : uartOut r.2 = item.bytes := by
          rw [hout]
          exact List.append_nil _
        rw [huart, List.flatMap_cons]
      · have hzero : k = 0 := by
          have hk := (List.getElem?_eq_some_iff.mp ht).1
          omega
        rw [hzero]
        exact le_rfl

/-- **One step.** -/
theorem Waiting.step (hmax : maxPayload ≤ al1LinkMaxPayload) (h : Waiting d queued)
    {e : DeviceEvent} (hadm : d.Allowed maxConn e) :
    let r := deviceStep maxPayload d e
    ∃ queued', Waiting r.1 queued' ∧
      queued.flatMap Al1TxItem.bytes <+: uartOut r.2 ++ queued'.flatMap Al1TxItem.bytes ∧
      queued'.length ≤ queued.length - if e.txTurn then 1 else 0 := by
  intro r
  have hmanned : Manned r.1 := h.manned.step hadm
  -- the items stay, and nothing is written
  have hstay : Waiting r.1 queued → uartOut r.2 = [] → e.txTurn = false →
      ∃ queued', Waiting r.1 queued' ∧
      queued.flatMap Al1TxItem.bytes <+: uartOut r.2 ++ queued'.flatMap Al1TxItem.bytes ∧
      queued'.length ≤ queued.length - if e.txTurn then 1 else 0 := by
    intro hw hout hturn
    refine ⟨queued, hw, ?_, ?_⟩
    · rw [hout]
      exact List.prefix_refl _
    · rw [hturn]
      exact le_rfl
  cases e with
  | setLinkCb | bleStart ok | resetSession | setConnEvtCb | setRxCb | connect conn =>
    exact hstay (h.same hmanned rfl) rfl rfl
  | linkStart o =>
    have hstarted := (h.manned.up h.running).1
    exact absurd (hstarted.symm.trans hadm.2) Bool.noConfusion
  | tx k => exact h.tx k
  | rx k o mtu =>
    obtain ⟨hlink, -, hq⟩ := parserTrampoline_unbooked mtu
      { d with link := rxTaskStep maxPayload d.link k o } (d.frameCalls maxPayload k o)
    obtain ⟨later, hlater⟩ := h.queue
    refine hstay ⟨?_, hmanned, later, ?_⟩ hq.2 rfl
    · exact (congrArg SLink.running hlink).trans ((running_rxTaskStep _ _ _).trans h.running)
    · exact (congrArg SLink.txQueue hlink).trans ((rxTaskStep_queue _ _ _).2.trans hlater)
  | disconnect conn fate =>
    have hwait : Waiting { d with
        ble := bootStep d.ble (.disconnect conn), connected := d.connected.erase conn } queued :=
      h.same (h.manned.still rfl rfl rfl) rfl
    exact hstay (hwait.perform hmax _ _ _) (uartOut_perform _ _ _ _) rfl
  | access conn ctxt fate mtu =>
    have hwait : ∀ data, Waiting { d with ble := bootStep d.ble (.write conn data) } queued :=
      fun data => h.same (h.manned.still rfl rfl rfl) rfl
    have hout : uartOut r.2 = [] := by
      show uartOut (deviceStep maxPayload d (.access conn ctxt fate mtu)).2 = []
      rw [deviceStep]
      generalize al1GattAccess ctxt = a
      obtain ⟨data, code⟩ := a
      cases data with
      | none => rfl
      | some data =>
        show uartOut ((Device.perform _ _ _ _ _).2 ++ [.access conn code]) = []
        rw [uartOut_append, uartOut_perform]
        rfl
    refine hstay ?_ hout rfl
    show Waiting (deviceStep maxPayload d (.access conn ctxt fate mtu)).1 queued
    rw [deviceStep]
    generalize al1GattAccess ctxt = a
    obtain ⟨data, code⟩ := a
    cases data with
    | none => exact h
    | some data => exact (hwait data).perform hmax _ _ _

/-- **Every run** with as many turns of the TX task as there are items. -/
theorem Waiting.run (hmax : maxPayload ≤ al1LinkMaxPayload) {events : List DeviceEvent}
    (h : Waiting d queued)
    (hadm : Along (fun d e => (deviceStep maxPayload d e).1) (Device.Allowed maxConn) d events)
    (hturns : queued.length ≤ events.countP DeviceEvent.txTurn) :
    queued.flatMap Al1TxItem.bytes <+: uartOut (Transducer.run (deviceStep maxPayload) d events).2 := by
  induction events generalizing d queued with
  | nil =>
    rw [List.countP_nil, Nat.le_zero, List.length_eq_zero_iff] at hturns
    rw [hturns]
    exact List.nil_prefix
  | cons e events ih =>
    obtain ⟨queued', h', hout, hlen⟩ := h.step hmax hadm.1
    have hlen' : queued'.length ≤ events.countP DeviceEvent.txTurn := by
      rw [List.countP_cons] at hturns
      split_ifs at hlen hturns <;> omega
    rw [run_cons, uartOut_append]
    exact hout.trans ((List.prefix_append_right_inj _).mpr (ih h' hadm.2 hlen'))

end Queue

section Wire

variable {maxPayload maxConn peerMax : ℕ}

/-- The frames that the books have as accepted are on the wire, before all others. -/
theorem sent_on_wire (hmax : maxPayload ≤ al1LinkMaxPayload) {before after : List DeviceEvent}
    (hadm : DeviceAllowed maxPayload maxConn (before ++ after))
    (hrun : (deviceRun maxPayload maxConn before).1.link.running)
    (hturns : (deviceRun maxPayload maxConn before).1.link.sender.txQueue.length ≤
      after.countP DeviceEvent.txTurn) :
    ∃ l, Accounted maxPayload (deviceRun maxPayload maxConn before).1
        (deviceRun maxPayload maxConn before).2 l ∧
      l.sent.flatMap LinkFrame.encode <+:
        uartOut (deviceRun maxPayload maxConn (before ++ after)).2 := by
  obtain ⟨hbefore, hafter⟩ := along_append.mp hadm
  rw [← run_fst] at hafter
  have hmanned : Manned (deviceRun maxPayload maxConn before).1 := by
    rw [deviceRun, run_fst]
    exact Along.invariant (fun d e h hadm => h.step hadm) (manned_boot maxConn) hbefore
  obtain ⟨l, hl⟩ := accounted_run hmax hbefore
  obtain ⟨queue, hqueue, hwire, -⟩ := hl.balanced.conveys hrun
  have hsender : (deviceRun maxPayload maxConn before).1.link.sender.txQueue = queue :=
    congrArg (Option.getD · []) hqueue
  have hwait : Waiting (deviceRun maxPayload maxConn before).1 queue :=
    ⟨hrun, hmanned, [], by rw [List.append_nil]; exact hqueue⟩
  have hdrained := hwait.run hmax hafter (hsender ▸ hturns)
  refine ⟨l, hl, ?_⟩
  -- what had been written, what was queued, and what came later
  have hall : uartOut (deviceRun maxPayload maxConn (before ++ after)).2 = l.wire ++
      uartOut (run (deviceStep maxPayload) (deviceRun maxPayload maxConn before).1 after).2 := by
    rw [deviceRun, run_append, uartOut_append, hl.wire]
    rfl
  rw [hall, ← hwire]
  exact (List.prefix_append_right_inj _).mpr hdrained

/-- What a receiver makes of encoded frames and whatever follows. -/
theorem linkScan_back {frames : List LinkFrame} (hf : ∀ f ∈ frames, f.Fits peerMax)
    {bytes : List UInt8} (h : frames.flatMap LinkFrame.encode <+: bytes) :
    frames.map .frame <+: linkScan peerMax bytes := by
  obtain ⟨rest, rfl⟩ := h
  have hall := congrArg Prod.snd (linkRun_frames hf)
  rw [← linkRun_scan, linkRun, run_append]
  exact ⟨_, congrArg (· ++ _) hall.symm⟩

/-- **Every accepted frame is written**, after as many turns of the TX task as there are items in the
queue: then a receiver finds the frames that had been accepted, in order and before all others,
whatever has happened meanwhile. -/
theorem exchange_drains (hmax : maxPayload ≤ al1LinkMaxPayload) (hpeer : maxPayload ≤ peerMax)
    {before after : List DeviceEvent}
    (hadm : DeviceAllowed maxPayload maxConn (before ++ after)) :
    let r := deviceRun maxPayload maxConn before
    r.1.link.running → r.1.link.sender.txQueue.length ≤ after.countP DeviceEvent.txTurn →
      ∃ frames : List LinkFrame,
        frames.map (fun f => (f.channel, f.payload)) =
            (accepted r.2).map (fun f => (al1ChApCtrl, f)) ∧
          frames.map .frame <+:
            linkScan peerMax (uartOut (deviceRun maxPayload maxConn (before ++ after)).2) := by
  intro r hrun hturns
  obtain ⟨l, hl, hout⟩ := sent_on_wire hmax hadm hrun hturns
  have hfits : ∀ f ∈ l.sent, f.Fits peerMax := fun f hf =>
    ⟨(hl.balanced.fits f hf).1.trans hpeer, (hl.balanced.fits f hf).2⟩
  exact ⟨l.sent, hl.sent, linkScan_back hfits hout⟩

end Wire

/-- One more turn, and the RELEASE has followed the CLAIM. -/
theorem exchange_drains_visit : ∃ frames : List LinkFrame,
    frames.map (fun f => (f.channel, f.payload)) =
        [(al1ChApCtrl, apPacketBytes apCmdClaim []), (al1ChApCtrl, apPacketBytes apCmdRelease [])] ∧
      frames.map .frame <+: linkScan al1LinkMaxPayload
        (uartOut (deviceRun al1LinkMaxPayload al1BleMaxConn
          (visit [granted.encode] 23 (fun _ => ⟨some fun _ => 0xEE, true⟩) ++ [.tx 0])).2) := by
  obtain ⟨frames, hframes, hout⟩ := @exchange_drains al1LinkMaxPayload al1BleMaxConn _ le_rfl le_rfl
    (visit [granted.encode] 23 fun _ => ⟨some fun _ => 0xEE, true⟩) [.tx 0] (by decide +kernel)
    (by decide +kernel) (by decide +kernel)
  exact ⟨frames, hframes.trans (by decide +kernel), hout⟩

end Al1Wmod
