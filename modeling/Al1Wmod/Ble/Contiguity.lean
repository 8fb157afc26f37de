import Al1Wmod.Ble.Gate
import Al1Wmod.Ble.Notify
import Al1Wmod.Ble.Registry
import Al1Wmod.Stream.Interleave

/-!
# Two tasks that notify

The link's receive task passes the frames of the STM32 on to centrals, and the host task rejects
commands with an ERROR packet.  Both call `al1_ble_notify_conn`, and nothing keeps one from
running between two fragments of the other.  A step here is one call of `al1_gatt_notify`, and a
run is an interleaving of the steps of the two tasks.

* `received_fragments`: a central gets the fragments of either task in order, and nothing else.
* `contiguous_iff`: its frames come in one piece in every run exactly if one task sends it
  nothing or the other sends it only frames that fit into one notification.

With an MTU of 23, a response of 24 bytes and a rejection are enough to cut a frame.
-/

namespace Al1Wmod

open Buffer Interleave

/-- The two tasks. -/
inductive Task where
  | rxTask
  | hostTask
  deriving DecidableEq, Repr

/-- One call of `al1_gatt_notify`, and the task that makes it. -/
structure GattNotify where
  task : Task
  conn : UInt16
  data : List UInt8
  deriving DecidableEq, Repr

/-- The steps of one call of `al1_ble_notify_conn`. -/
def NotifyCall.steps (t : Task) (c : NotifyCall) : List GattNotify :=
  c.fragments.map fun f => ⟨t, c.conn, f⟩

/-- The steps of a task that makes the calls one after another. -/
def Task.steps (t : Task) (calls : List NotifyCall) : List GattNotify :=
  (calls.map (NotifyCall.steps t)).flatten

/-- The calls that the bridge's actions make, for the connections in the registry.  `mtu` is the
MTU of each. -/
def notifyCalls (mtu : UInt16 → UInt16) (conns : List Al1BleConn) (acts : List Action) :
    List NotifyCall :=
  (acts.flatMap (Action.notified conns)).map fun d => ⟨d.1, mtu d.1, d.2⟩

/-- The calls for one central. -/
def callsTo (x : UInt16) (calls : List NotifyCall) : List NotifyCall :=
  calls.filter fun c => c.conn = x

/-- The notifications one central receives. -/
def notifiesTo (x : UInt16) (run : List GattNotify) : List GattNotify :=
  run.filter fun g => g.conn = x

/-- The byte stream one central receives. -/
def received (x : UInt16) (run : List GattNotify) : List UInt8 :=
  (notifiesTo x run).flatMap GattNotify.data

/-- The fragments of every frame for the central stand in one piece in its stream. -/
def Contiguous (x : UInt16) (link host : List NotifyCall) (run : List GattNotify) : Prop :=
  Whole ((callsTo x link).map (NotifyCall.steps .rxTask))
    ((callsTo x host).map (NotifyCall.steps .hostTask)) (notifiesTo x run)

/-- The central gets nothing from one task, or each frame of the other in one notification. -/
def Unmixed (x : UInt16) (link host : List NotifyCall) : Prop :=
  (callsTo x host = [] ∨ ∀ c ∈ callsTo x link, c.Fits) ∧
    (callsTo x link = [] ∨ ∀ c ∈ callsTo x host, c.Fits)

section Calls

variable {c : NotifyCall} {t : Task}

theorem NotifyCall.fragments_of_apFrame (h : ApFrame c.data) :
    c.fragments = Fragments.fragments (notifyChunk c.mtu).toNat c.data :=
  fragments_eq (h.length_le.trans (by decide))

theorem NotifyCall.steps_ne_nil (h : ApFrame c.data) : c.steps t ≠ [] := by
  rw [steps, Ne, List.map_eq_nil_iff, fragments_of_apFrame h,
    Fragments.fragments_of_ne_nil (notifyChunk_pos _) h.ne_nil]
  exact List.cons_ne_nil _ _

theorem NotifyCall.length_steps_le_one_iff (h : ApFrame c.data) :
    (c.steps t).length ≤ 1 ↔ c.Fits := by
  rw [steps, List.length_map, fragments_of_apFrame h,
    Fragments.length_fragments_le_one_iff (notifyChunk_pos _), Fits]

/-- The steps of a call carry its frame. -/
theorem NotifyCall.flatMap_steps (h : ApFrame c.data) :
    (c.steps t).flatMap GattNotify.data = c.data := by
  rw [steps, List.flatMap_map, List.flatMap_id']
  exact (fragments_spec (h.length_le.trans (by decide))).1

theorem NotifyCall.of_mem_steps {g : GattNotify} (h : g ∈ c.steps t) :
    g.task = t ∧ g.conn = c.conn := by
  obtain ⟨f, _, rfl⟩ := List.mem_map.mp h
  exact ⟨rfl, rfl⟩

/-- What a task notifies to one central. -/
theorem notifiesTo_steps (x : UInt16) (calls : List NotifyCall) :
    notifiesTo x (t.steps calls) = t.steps (callsTo x calls) := by
  induction calls with
  | nil => rfl
  | cons c calls ih =>
    have hsplit : notifiesTo x (t.steps (c :: calls)) =
        notifiesTo x (c.steps t) ++ notifiesTo x (t.steps calls) := List.filter_append _ _
    rw [hsplit, ih]
    by_cases hc : c.conn = x
    · have hall : notifiesTo x (c.steps t) = c.steps t :=
        List.filter_eq_self.mpr fun g hg => by
          rw [(NotifyCall.of_mem_steps hg).2]
          exact decide_eq_true hc
      have hcalls : callsTo x (c :: calls) = c :: callsTo x calls :=
        List.filter_cons_of_pos (decide_eq_true hc)
      rw [hall, hcalls]
      rfl
    · have hnone : notifiesTo x (c.steps t) = [] :=
        List.filter_eq_nil_iff.mpr fun g hg => by
          rw [(NotifyCall.of_mem_steps hg).2]
          exact fun h => hc (of_decide_eq_true h)
      have hcalls : callsTo x (c :: calls) = callsTo x calls :=
        List.filter_cons_of_neg fun h => hc (of_decide_eq_true h)
      rw [hnone, hcalls, List.nil_append]

end Calls

section Runs

variable {link host : List NotifyCall} {run : List GattNotify}

/-- A central receives the fragments of either task in order, and nothing else. -/
theorem received_fragments (h : Interleave (Task.rxTask.steps link) (Task.hostTask.steps host) run)
    (x : UInt16) :
    Interleave (Task.rxTask.steps (callsTo x link)) (Task.hostTask.steps (callsTo x host))
      (notifiesTo x run) := by
  rw [← notifiesTo_steps, ← notifiesTo_steps]
  exact h.filter _

/-- Every order of what the two tasks notify to one central occurs in a run. -/
theorem forall_run_iff {P : List GattNotify → Prop} (x : UInt16) :
    (∀ run, Interleave (Task.rxTask.steps link) (Task.hostTask.steps host) run →
        P (notifiesTo x run)) ↔
      ∀ m, Interleave (Task.rxTask.steps (callsTo x link)) (Task.hostTask.steps (callsTo x host)) m →
        P m := by
  constructor
  · intro h m hm
    rw [← notifiesTo_steps, ← notifiesTo_steps] at hm
    obtain ⟨run, hrun, rfl⟩ := exists_filter _ _ _ hm
    exact h run hrun
  · intro h run hrun
    exact h _ (received_fragments hrun x)

theorem forall_fits_iff {t : Task} {calls : List NotifyCall} (h : ∀ c ∈ calls, ApFrame c.data) :
    (∀ b ∈ calls.map (NotifyCall.steps t), b.length ≤ 1) ↔ ∀ c ∈ calls, c.Fits := by
  rw [List.forall_mem_map]
  exact forall₂_congr fun c hc => NotifyCall.length_steps_le_one_iff (h c hc)

/-- A task's blocks are not empty, and say whose they are. -/
theorem steps_tagged {t : Task} {calls : List NotifyCall} (h : ∀ c ∈ calls, ApFrame c.data) :
    ∀ b ∈ calls.map (NotifyCall.steps t), b ≠ [] ∧ ∀ g ∈ b, g.task = t := by
  rw [List.forall_mem_map]
  exact fun c hc => ⟨NotifyCall.steps_ne_nil (h c hc), fun g hg => (NotifyCall.of_mem_steps hg).1⟩

/-- **When frames come in one piece.** -/
theorem contiguous_iff (hlink : ∀ c ∈ link, ApFrame c.data) (hhost : ∀ c ∈ host, ApFrame c.data)
    (x : UInt16) :
    (∀ run, Interleave (Task.rxTask.steps link) (Task.hostTask.steps host) run →
      Contiguous x link host run) ↔ Unmixed x link host := by
  have hlink' : ∀ c ∈ callsTo x link, ApFrame c.data := fun c hc =>
    hlink c (List.mem_of_mem_filter hc)
  have hhost' : ∀ c ∈ callsTo x host, ApFrame c.data := fun c hc =>
    hhost c (List.mem_of_mem_filter hc)
  have hwhole := whole_iff (fun g : GattNotify => decide (g.task = .rxTask))
    (fun b hb => (steps_tagged (t := .rxTask) hlink' b hb).imp_right fun hg g hmem =>
      decide_eq_true (hg g hmem))
    (fun b hb => (steps_tagged (t := .hostTask) hhost' b hb).imp_right fun hg g hmem hrx => by
      rw [hg g hmem] at hrx
      cases of_decide_eq_true hrx)
  rw [forall_fits_iff hlink', forall_fits_iff hhost', List.map_eq_nil_iff, List.map_eq_nil_iff]
    at hwhole
  exact (forall_run_iff x).trans hwhole

/-- Frames in one piece are whole frames to the central. -/
theorem Contiguous.received {x : UInt16} (h : Contiguous x link host run)
    (hlink : ∀ c ∈ link, ApFrame c.data) (hhost : ∀ c ∈ host, ApFrame c.data) :
    ∃ frames, Interleave ((callsTo x link).map NotifyCall.data)
        ((callsTo x host).map NotifyCall.data) frames ∧
      (∀ f ∈ frames, ApFrame f) ∧ received x run = frames.flatten := by
  obtain ⟨C, hC, hrun⟩ := h
  have hdata : ∀ {t : Task} {calls : List NotifyCall}, (∀ c ∈ calls, ApFrame c.data) →
      ((callsTo x calls).map (NotifyCall.steps t)).map (List.flatMap GattNotify.data) =
        (callsTo x calls).map NotifyCall.data := by
    intro t calls hcalls
    rw [List.map_map]
    exact List.map_congr_left fun c hc =>
      NotifyCall.flatMap_steps (hcalls c (List.mem_of_mem_filter hc))
  have hframes := hC.map (List.flatMap GattNotify.data)
  rw [hdata hlink, hdata hhost] at hframes
  refine ⟨_, hframes, ?_, ?_⟩
  · intro f hf
    rcases (hframes.mem_iff f).mp hf with hf | hf <;> obtain ⟨c, hc, rfl⟩ := List.mem_map.mp hf
    · exact hlink c (List.mem_of_mem_filter hc)
    · exact hhost c (List.mem_of_mem_filter hc)
  · rw [Al1Wmod.received, hrun, List.flatMap_def, List.map_flatten, List.flatten_flatten,
      List.map_map]
    rfl

/-- **What a central receives.** -/
theorem received_frames (hlink : ∀ c ∈ link, ApFrame c.data) (hhost : ∀ c ∈ host, ApFrame c.data)
    (x : UInt16) :
    (∀ run, Interleave (Task.rxTask.steps link) (Task.hostTask.steps host) run →
      Interleave (Task.rxTask.steps (callsTo x link)) (Task.hostTask.steps (callsTo x host))
          (notifiesTo x run) ∧
        (Contiguous x link host run → ∃ frames, Interleave ((callsTo x link).map NotifyCall.data)
          ((callsTo x host).map NotifyCall.data) frames ∧
          (∀ f ∈ frames, ApFrame f) ∧ received x run = frames.flatten)) ∧
      ((∀ run, Interleave (Task.rxTask.steps link) (Task.hostTask.steps host) run →
        Contiguous x link host run) ↔ Unmixed x link host) :=
  ⟨fun _ h => ⟨received_fragments h x, fun hc => hc.received hlink hhost⟩,
    contiguous_iff hlink hhost x⟩

/-- A response to one central, and between its two fragments a rejection for another. -/
theorem received_frames_apart :
    Contiguous 1 [⟨1, 23, apPacketBytes apCmdOk (List.replicate 20 0)⟩]
      [⟨2, 23, notControllerPacket⟩]
      [⟨.rxTask, 1, (apPacketBytes apCmdOk (List.replicate 20 0)).take 20⟩,
        ⟨.hostTask, 2, notControllerPacket⟩,
        ⟨.rxTask, 1, (apPacketBytes apCmdOk (List.replicate 20 0)).drop 20⟩] := by
  have hlink : Task.rxTask.steps [⟨1, 23, apPacketBytes apCmdOk (List.replicate 20 0)⟩] =
      [⟨.rxTask, 1, (apPacketBytes apCmdOk (List.replicate 20 0)).take 20⟩,
        ⟨.rxTask, 1, (apPacketBytes apCmdOk (List.replicate 20 0)).drop 20⟩] := by
    decide +kernel
  have hhost : Task.hostTask.steps [⟨2, 23, notControllerPacket⟩] =
      [⟨.hostTask, 2, notControllerPacket⟩] := by
    decide +kernel
  refine (received_frames (List.forall_mem_singleton.mpr (apFrame_apPacketBytes _ (by decide)))
    (List.forall_mem_singleton.mpr
      (notControllerPacket_eq ▸ apFrame_apPacketBytes _ (by decide))) 1).2.mpr
    ⟨Or.inl (by decide), Or.inr fun _ hc => absurd hc List.not_mem_nil⟩ _ ?_
  rw [hlink, hhost]
  exact .left (.right (.left .nil))

/-- A stream of whole frames is the frames that its framing reads. -/
theorem eq_flatten_of_frames {frames : List (List UInt8)} {stream : List UInt8}
    (h : ∀ f ∈ frames, ApFrame f) (heq : stream = frames.flatten) :
    stream = ((apRun stream).2.filterMap ApUnit.frame?).flatten := by
  rw [heq, apRun_frames h, List.filterMap_map]
  congr 1
  exact List.filterMap_some.symm

/-- **A frame is cut.**  Nobody controls the device, so a response goes to every central.  Between
its two fragments the central's own command is rejected.  The framing of its stream takes the
first four bytes of the ERROR packet for the end of the response. -/
theorem frames_cut :
    ∃ (link host : List NotifyCall) (run : List GattNotify),
      link = notifyCalls (fun _ => 23) [⟨true, 1⟩]
        (al1BleApBridgeOnLinkAp ⟨connNone, 0, connNone⟩
          (ofList 0 (apPacketBytes apCmdOk (List.replicate 20 0))) 24).2 ∧
      host = notifyCalls (fun _ => 23) [⟨true, 1⟩]
        (onApFrame ⟨connNone, 0, connNone⟩ 1 (apPacketBytes apCmdSetRgb [255, 0, 0])).2 ∧
      (∀ c ∈ link ++ host, ApFrame c.data) ∧
      Interleave (Task.rxTask.steps link) (Task.hostTask.steps host) run ∧
      ¬ Contiguous 1 link host run ∧
      ¬ ∃ frames : List (List UInt8), (∀ f ∈ frames, ApFrame f) ∧
        received 1 run = frames.flatten := by
  set ok := apPacketBytes apCmdOk (List.replicate 20 0) with hok
  set link : List NotifyCall := [⟨1, 23, ok⟩] with hlink
  set host : List NotifyCall := [⟨1, 23, notControllerPacket⟩] with hhost
  have hlinkSteps : Task.rxTask.steps link =
      [⟨.rxTask, 1, ok.take 20⟩, ⟨.rxTask, 1, ok.drop 20⟩] := by
    decide +kernel
  have hhostSteps : Task.hostTask.steps host = [⟨.hostTask, 1, notControllerPacket⟩] := by
    decide +kernel
  have hframes : ∀ c ∈ link ++ host, ApFrame c.data := by
    refine List.forall_mem_append.mpr ⟨List.forall_mem_singleton.mpr ?_,
      List.forall_mem_singleton.mpr ?_⟩
    · exact apFrame_apPacketBytes _ (by decide)
    · rw [notControllerPacket_eq]
      exact apFrame_apPacketBytes _ (by decide)
  set run : List GattNotify := [⟨.rxTask, 1, ok.take 20⟩, ⟨.hostTask, 1, notControllerPacket⟩,
    ⟨.rxTask, 1, ok.drop 20⟩] with hrun
  have hmixed : ¬ ∃ frames : List (List UInt8), (∀ f ∈ frames, ApFrame f) ∧
      received 1 run = frames.flatten := by
    rintro ⟨frames, hall, heq⟩
    -- one frame is read, and five bytes are skipped
    exact absurd (eq_flatten_of_frames hall heq) (by decide +kernel)
  refine ⟨link, host, run, by decide +kernel, by decide +kernel, hframes, ?_, ?_, hmixed⟩
  · rw [hlinkSteps, hhostSteps]
    exact .left (.right (.left .nil))
  · intro h
    obtain ⟨frames, -, hall, heq⟩ := h.received
      (fun c hc => hframes c (List.mem_append_left _ hc))
      (fun c hc => hframes c (List.mem_append_right _ hc))
    exact hmixed ⟨frames, hall, heq⟩

end Runs

end Al1Wmod
