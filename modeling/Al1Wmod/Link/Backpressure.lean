import Al1Wmod.Link.Ledger
import Al1Wmod.Stream.Backlog

/-!
# The queue is full

The queue between `al1_link_send` and `tx_task` has room for `AL1_TX_QUEUE_LEN` items, and
`al1_link_send` does not wait: with no room it drops the frame.  So far room was whatever the
environment said.  Here it is what the queue says.

A burst is lost, in part, if and only if it is too long for the turns that the TX task gets
meanwhile (`backpressure`).
-/

namespace Al1Wmod

open Machine Backlog

/-- `AL1_TX_QUEUE_LEN`. -/
def al1TxQueueLen : ℕ := 32

/-- The items in the queue. -/
def SLink.queued (s : SLink) : ℕ := s.sender.txQueue.length

/-- `xQueueSend`, with no time to wait, finds room if the queue is not full. -/
def LifecycleStep.atQueue (s : SLink) : LifecycleStep → LifecycleStep
  | .send c =>
    .send { c with outcome := { c.outcome with room := decide (s.queued < al1TxQueueLen) } }
  | e => e

/-- One step, with a queue of this length. -/
def queueNext (maxPayload : ℕ) (s : SLink) (e : LifecycleStep) : SLink :=
  lifecycleNext maxPayload s (e.atQueue s)

/-- A call that gets to `xQueueSend`. -/
def LifecycleStep.offers (maxPayload : ℕ) : LifecycleStep → Bool
  | .send c => decide (c.Offered maxPayload)
  | _ => false

/-- A turn of the TX task that `al1_link_start` has created. -/
def LifecycleStep.txTurn : LifecycleStep → Bool
  | .tx 0 => true
  | _ => false

/-- A call of `al1_link_stop`. -/
def LifecycleStep.stops : LifecycleStep → Bool
  | .stop => true
  | _ => false

/-- A call that gets to `xQueueSend` returns `ESP_OK`. -/
def Accepted (maxPayload : ℕ) (s : SLink) : LifecycleStep → Prop
  | .send c => c.Offered maxPayload →
    (al1LinkSend maxPayload s.sender c.channel c.payload c.len c.outcome).2 = .ok
  | _ => True

/-- The backlog of the calls over the turns. -/
def backlogNext (maxPayload : ℕ) : ℕ → LifecycleStep → ℕ :=
  next (LifecycleStep.offers maxPayload) LifecycleStep.txTurn

/-- A running link has its TX task and its queue. -/
structure Attended (s : SLink) : Prop where
  up : s.running = true → s.txTasks.length = 1 ∧ ∃ queue, s.txQueue = some queue
  down : s.running = false → s.txTasks = []
  queued : s.queued ≤ al1TxQueueLen

/-- The step keeps the link running, and the queue is the backlog as far as there is room. -/
structure Paced (maxPayload : ℕ) (s : SLink) (e : LifecycleStep) : Prop where
  attended : Attended (queueNext maxPayload s e)
  running : (queueNext maxPayload s e).running = true
  accepted : Accepted maxPayload s (e.atQueue s) ↔ backlogNext maxPayload s.queued e ≤ al1TxQueueLen
  queued : (queueNext maxPayload s e).queued = min (backlogNext maxPayload s.queued e) al1TxQueueLen

section Queue

variable {maxPayload : ℕ} {s : SLink}

theorem attended_boot : Attended linkBoot where
  up hrun := absurd hrun Bool.false_ne_true
  down _ := rfl
  queued := Nat.zero_le _

theorem SLink.queued_some {queue : List Al1TxItem} (h : s.txQueue = some queue) :
    s.queued = queue.length := by
  rw [queued, sender, h, Option.getD_some]

/-- What is to be shown of a step. -/
theorem Attended.paced (h : Attended s) (hrun : s.running = true) {e : LifecycleStep}
    (hrunning : (queueNext maxPayload s e).running = s.running)
    (htasks : (queueNext maxPayload s e).txTasks = s.txTasks) {queue : List Al1TxItem}
    (hqueue : (queueNext maxPayload s e).txQueue = some queue)
    (hlen : queue.length = min (backlogNext maxPayload s.queued e) al1TxQueueLen)
    (hacc : Accepted maxPayload s (e.atQueue s) ↔
      backlogNext maxPayload s.queued e ≤ al1TxQueueLen) : Paced maxPayload s e where
  attended :=
    { up := fun _ => ⟨htasks ▸ (h.up hrun).1, queue, hqueue⟩
      down := fun hs => absurd (hs.symm.trans (hrunning.trans hrun)) Bool.false_ne_true
      queued := by
        rw [SLink.queued_some hqueue, hlen]
        exact min_le_right _ _ }
  running := hrunning.trans hrun
  accepted := hacc
  queued := (SLink.queued_some hqueue).trans hlen

/-- A step that leaves the queue alone. -/
theorem Attended.idle (h : Attended s) (hrun : s.running = true) {e : LifecycleStep}
    (hrunning : (queueNext maxPayload s e).running = s.running)
    (htasks : (queueNext maxPayload s e).txTasks = s.txTasks)
    (hqueue : (queueNext maxPayload s e).txQueue = s.txQueue)
    (hoffers : e.offers maxPayload = false) (hturn : e.txTurn = false)
    (hacc : Accepted maxPayload s (e.atQueue s)) : Paced maxPayload s e := by
  obtain ⟨-, queue, hsome⟩ := h.up hrun
  have hnext : backlogNext maxPayload s.queued e = queue.length := by
    rw [backlogNext, next, hoffers, hturn, SLink.queued_some hsome]
    rfl
  have hle : queue.length ≤ al1TxQueueLen := SLink.queued_some hsome ▸ h.queued
  refine h.paced hrun hrunning htasks (hqueue.trans hsome) ?_ ⟨fun _ => hnext ▸ hle, fun _ => hacc⟩
  rw [hnext, min_eq_left hle]

/-- A turn of a TX task. -/
theorem Attended.tx (h : Attended s) (hrun : s.running = true) (k : ℕ) :
    Paced maxPayload s (.tx k) := by
  obtain ⟨hone, queue, hqueue⟩ := h.up hrun
  cases ht : s.txTasks[k]? with
  | none =>
    have hsame : queueNext maxPayload s (.tx k) = s := txTaskStep_of_none ht
    have hturn : LifecycleStep.txTurn (.tx k) = false := by
      cases k with
      | zero =>
        rw [List.getElem?_eq_none_iff, hone] at ht
        exact absurd ht (by decide)
      | succ k => rfl
    exact h.idle hrun (by rw [hsame]) (by rw [hsame]) (by rw [hsame]) rfl hturn trivial
  | some t =>
    obtain rfl : k = 0 := by
      have hk := (List.getElem?_eq_some_iff.mp ht).1
      omega
    have htasks : (txTaskStep s 0).txTasks = s.txTasks := by
      rw [txTaskStep_writes ht hrun]
      rfl
    have hnext : backlogNext maxPayload s.queued (.tx 0) = queue.tail.length := by
      rw [SLink.queued_some hqueue, List.length_tail]
      rfl
    have hle : queue.tail.length ≤ al1TxQueueLen := by
      have hfull := SLink.queued_some hqueue ▸ h.queued
      rw [List.length_tail]
      exact (Nat.sub_le _ _).trans hfull
    refine h.paced hrun (running_txTaskStep s 0) htasks (queue_tx hrun ht hqueue) ?_
      ⟨fun _ => hnext ▸ hle, fun _ => trivial⟩
    rw [hnext, min_eq_left hle]

/-- **A call of `al1_link_send`.** -/
theorem Attended.send (hmax : maxPayload ≤ al1LinkMaxPayload) (h : Attended s)
    (hrun : s.running = true) (c : SendCall) : Paced maxPayload s (.send c) := by
  obtain ⟨-, queue, hqueue⟩ := h.up hrun
  have hqueued : s.queued = queue.length := SLink.queued_some hqueue
  have hle : queue.length ≤ al1TxQueueLen := hqueued ▸ h.queued
  have hsender : s.sender.txQueue = queue := by rw [SLink.sender, hqueue, Option.getD_some]
  have hnext : backlogNext maxPayload s.queued (.send c) =
      queue.length + if c.Offered maxPayload then 1 else 0 := by
    rw [backlogNext, next, hqueued, LifecycleStep.offers]
    simp [LifecycleStep.txTurn]
  set c' : SendCall :=
    { c with outcome := { c.outcome with room := decide (s.queued < al1TxQueueLen) } }
  have hr : queueNext maxPayload s (.send c) = s.withSender
      (al1LinkSend maxPayload s.sender c'.channel c'.payload c'.len c'.outcome).1 := rfl
  have hroom : c'.outcome.room = true ↔ queue.length < al1TxQueueLen := by
    rw [← hqueued]
    exact decide_eq_true_iff
  rcases @al1LinkSend_cases maxPayload s.sender hmax hrun c' with
    ⟨hok, hin, -, item, q, -, hsent⟩ | ⟨hne, hout, -, q, hsent⟩
  · have hlt := hroom.mp hin.2
    have hnext' : backlogNext maxPayload s.queued (.send c) = queue.length + 1 := by
      rw [hnext, if_pos (show c.Offered maxPayload from hin.1)]
    refine h.paced hrun rfl rfl (?_ : _ = some (queue ++ [item])) ?_
      ⟨fun _ => hnext' ▸ hlt, fun _ _ => hok⟩
    · rw [hr, hsent, SLink.withSender, hqueue, hsender, Option.map_some]
    · rw [hnext', min_eq_left hlt, List.length_append, List.length_singleton]
  · have hqueue' : (queueNext maxPayload s (.send c)).txQueue = some queue := by
      rw [hr, hsent, SLink.withSender, hqueue, Option.map_some, Al1Link.drop, hsender]
    by_cases hoff : c.Offered maxPayload
    · have hfull : al1TxQueueLen ≤ queue.length :=
        Nat.not_lt.mp fun hlt => hout ⟨hoff, hroom.mpr hlt⟩
      rw [if_pos hoff] at hnext
      refine h.paced hrun rfl rfl hqueue' ?_ ⟨fun hacc => absurd (hacc hoff) hne, fun hin => ?_⟩
      · omega
      · omega
    · rw [if_neg hoff] at hnext
      refine h.paced hrun rfl rfl hqueue' ?_ ⟨fun _ => hnext ▸ hle, fun _ hin => absurd hin hoff⟩
      rw [hnext, Nat.add_zero, min_eq_left hle]

/-- **One step** of a running link that is not stopped. -/
theorem Attended.step_running (hmax : maxPayload ≤ al1LinkMaxPayload) (h : Attended s)
    (hrun : s.running = true) {e : LifecycleStep} (he : e.stops = false) :
    Paced maxPayload s e := by
  cases e with
  | stop => exact Bool.noConfusion he
  | start cfg o =>
    have hsame : queueNext maxPayload s (.start cfg o) = s :=
      congrArg Prod.fst (if_pos hrun : al1LinkStart s cfg o = (s, .invalidState))
    exact h.idle hrun (by rw [hsame]) (by rw [hsame]) (by rw [hsame]) rfl rfl trivial
  | rx k o =>
    obtain ⟨htasks, hqueue⟩ := @rxTaskStep_queue maxPayload s k o
    exact h.idle hrun (running_rxTaskStep s k o) htasks hqueue rfl rfl trivial
  | tx k => exact h.tx hrun k
  | send c => exact h.send hmax hrun c

/-- **One step**, whatever it is. -/
theorem Attended.step (hmax : maxPayload ≤ al1LinkMaxPayload) (h : Attended s) (e : LifecycleStep) :
    Attended (queueNext maxPayload s e) := by
  cases hrunning : s.running with
  | true =>
    by_cases he : e.stops = true
    · cases e with
      | stop =>
        obtain ⟨hstop, -, htasks, hqueue⟩ := @al1LinkStop_running maxPayload s hrunning
        refine ⟨fun hrun => absurd (hstop.symm.trans hrun) Bool.false_ne_true, fun _ => htasks, ?_⟩
        show (al1LinkStop maxPayload s).queued ≤ _
        rw [SLink.queued, SLink.sender, hqueue]
        exact Nat.zero_le _
      | _ => exact Bool.noConfusion he
    · exact (h.step_running hmax hrunning (Bool.eq_false_iff.mpr he)).attended
  | false =>
    have hnone := h.down hrunning
    -- a step that starts nothing and leaves the queue, or takes it away
    have hdown : ∀ t : SLink, t.running = false → t.txTasks = s.txTasks →
        (t.txQueue = none ∨ t.txQueue = s.txQueue) → Attended t := by
      intro t hstop htasks hqueue
      refine ⟨fun hrun => absurd (hstop.symm.trans hrun) Bool.false_ne_true,
        fun _ => htasks.trans hnone, ?_⟩
      rw [SLink.queued, SLink.sender]
      rcases hqueue with hqueue | hqueue
      · rw [hqueue]
        exact Nat.zero_le _
      · rw [hqueue]
        exact h.queued
    cases e with
    | start cfg o =>
      obtain ⟨-, ⟨hstop, htasks, hqueue⟩ | ⟨hrun, hqueue, -, hone⟩⟩ :=
        al1LinkStart_stopped hrunning cfg o
      · exact hdown _ hstop htasks hqueue
      · refine ⟨fun _ => ⟨hone.trans (by rw [hnone]; rfl), [], hqueue⟩,
          fun hstop => absurd (hstop.symm.trans hrun) Bool.false_ne_true, ?_⟩
        exact (SLink.queued_some hqueue).trans_le (Nat.zero_le _)
    | stop =>
      have hsame : al1LinkStop maxPayload s = s :=
        if_pos (by rw [hrunning]; exact Bool.false_ne_true)
      exact (congrArg Attended hsame).mpr h
    | rx k o =>
      obtain ⟨htasks, hqueue⟩ := @rxTaskStep_queue maxPayload s k o
      exact hdown _ ((running_rxTaskStep s k o).trans hrunning) htasks (.inr hqueue)
    | tx k =>
      have hsame : txTaskStep s k = s := txTaskStep_of_none (by rw [hnone]; rfl)
      exact (congrArg Attended hsame).mpr h
    | send c =>
      refine hdown _ hrunning rfl (.inr ?_)
      have hsent : queueNext maxPayload s (.send c) = s.withSender s.sender :=
        congrArg (fun r : Al1Link × EspErr => s.withSender r.1) (if_pos (by
          show ¬ s.running = true
          rw [hrunning]
          exact Bool.false_ne_true))
      rw [hsent, SLink.withSender, SLink.sender]
      cases s.txQueue <;> rfl

/-- **Every run.** -/
theorem attended_run (hmax : maxPayload ≤ al1LinkMaxPayload) (steps : List LifecycleStep) :
    Attended (steps.foldl (queueNext maxPayload) linkBoot) := by
  induction steps using List.reverseRecOn with
  | nil => exact attended_boot
  | append_singleton steps e ih =>
    rw [List.foldl_append]
    exact ih.step hmax e

end Queue

/-- **A burst is lost, in part, if and only if it is too long.**  In every run from boot the queue
has at most `AL1_TX_QUEUE_LEN` items.  While the link is running and is not stopped, every call that
gets to the queue is accepted exactly if, up to each moment and in each stretch of time, there are
at most `AL1_TX_QUEUE_LEN` more calls than turns of the TX task, those that were waiting at first
included. -/
theorem backpressure (hmax : maxPayload ≤ al1LinkMaxPayload) (steps later : List LifecycleStep) :
    let s := steps.foldl (queueNext maxPayload) linkBoot
    let offered := List.countP (LifecycleStep.offers maxPayload)
    let turns := List.countP LifecycleStep.txTurn
    s.queued ≤ al1TxQueueLen ∧
      (s.running → (∀ e ∈ later, e.stops = false) →
        (Along (queueNext maxPayload) (fun s e => Accepted maxPayload s (e.atQueue s)) s later ↔
          (∀ m, m <+: later → s.queued + offered m ≤ al1TxQueueLen + turns m) ∧
            ∀ m, m <:+: later → offered m ≤ al1TxQueueLen + turns m)) := by
  intro s offered turns
  have h : Attended s := attended_run hmax steps
  refine ⟨h.queued, fun hrun hlater => ?_⟩
  rw [← within_iff h.queued]
  refine along_view_iff SLink.queued (R := fun s => Attended s ∧ s.running = true)
    (fun s e hs he => ?_) ⟨h, hrun⟩ hlater
  have hpaced := hs.1.step_running hmax hs.2 he
  refine ⟨hpaced.accepted, fun hacc => ⟨⟨hpaced.attended, hpaced.running⟩, ?_⟩⟩
  rw [hpaced.queued]
  exact min_eq_left (hpaced.accepted.mp hacc)

/-- Calls in one go, one more than there is room for. -/
def burst : List LifecycleStep :=
  List.replicate (al1TxQueueLen + 1) (.send ⟨2, some fun _ => 7, 1, ⟨some fun _ => 0xEE, true⟩⟩)

/-- One of them is refused. -/
theorem backpressure_burst :
    ¬ Along (queueNext al1LinkMaxPayload)
      (fun s e => Accepted al1LinkMaxPayload s (e.atQueue s))
      (queueNext al1LinkMaxPayload linkBoot (.start none (startOutcome (some 2)))) burst := by
  intro hall
  have hiff := (@backpressure al1LinkMaxPayload le_rfl [.start none (startOutcome (some 2))]
    burst).2 (by decide +kernel) (by decide +kernel)
  exact absurd ((hiff.mp hall).2 burst (List.infix_refl burst)) (by decide +kernel)

end Al1Wmod
