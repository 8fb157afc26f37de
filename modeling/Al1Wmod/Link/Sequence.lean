import Al1Wmod.Link.Runtime
import Mathlib.Data.List.Count

/-!
# Sequence numbers

Each channel has a sequence number, so that the receiver can tell how many frames were dropped
between two that it gets.  `al1_link_send` drops a frame when `malloc` fails and when the queue is
full, and counts both in `tx_drops`; but it takes a number only once it has a buffer.  A frame that
is dropped for want of memory leaves no gap.

So between two frames of a channel the gap is the number of drops, modulo 256, exactly if the number
of failed `malloc`s on the channel in between is a multiple of 256 (`reveals_iff`).
-/

namespace Al1Wmod

open Buffer Transducer

/-- A call of `al1_link_send`, and what the system does in it. -/
structure SendCall where
  channel : UInt8
  payload : Option (ℕ → UInt8)
  len : UInt16
  outcome : SendOutcome

/-- The arguments are as the header asks. -/
def SendCall.Valid (c : SendCall) : Prop :=
  c.len.toNat ≤ al1LinkMaxPayload ∧ (0 < c.len.toNat → c.payload.isSome)

instance (c : SendCall) : Decidable c.Valid := inferInstanceAs (Decidable (_ ∧ _))

/-- What comes of a call: what it returns, whether it was counted as a drop, and the SEQ byte of the
frame that was queued. -/
structure SendRecord where
  call : SendCall
  err : EspErr
  counted : Bool
  seq : Option UInt8

/-- A call, and its record. -/
def linkSendStep (s : Al1Link) (c : SendCall) : Al1Link × List SendRecord :=
  let r := al1LinkSend al1LinkMaxPayload s c.channel c.payload c.len c.outcome
  (r.1, [{ call := c
           err := r.2
           counted := r.1.stats.txDrops != s.stats.txDrops
           seq := if r.2 = .ok then r.1.txQueue.getLast?.bind (·.bytes[3]?) else none }])

/-- The sending side: calls of `al1_link_send`, and iterations of `tx_task`. -/
inductive LinkStep where
  | send (c : SendCall)
  | tx

/-- One step. -/
def linkStep (s : Al1Link) : LinkStep → Al1Link × List SendRecord
  | .send c => linkSendStep s c
  | .tx => ((txTask s).1, [])

/-- The calls among some steps. -/
def sendCalls (steps : List LinkStep) : List SendCall :=
  steps.filterMap fun
    | .send c => some c
    | .tx => none

/-! ## What becomes of a call -/

/-- The frame of the call is queued. -/
def SendCall.queues (c : SendCall) : Bool := c.outcome.block.isSome && c.outcome.room

/-- The record of a call, when these are the sequence numbers. -/
def SendCall.recordAt (c : SendCall) (txSeq : UInt8 → UInt8) : SendRecord where
  call := c
  err := if c.queues then .ok else .noMem
  counted := !c.queues
  seq := if c.queues then some (txSeq c.channel) else none

/-- The sequence numbers after a call. -/
def SendCall.advance (c : SendCall) (txSeq : UInt8 → UInt8) : UInt8 → UInt8 :=
  if c.outcome.block.isSome then Function.update txSeq c.channel (txSeq c.channel + 1) else txSeq

/-- Without payload bytes the payload pointer does not matter. -/
theorem al1FrameBuild_zero (maxPayload : ℕ) (out : Option (ℕ → UInt8)) (outCap : ℕ)
    (channel seq : UInt8) (payload : Option (ℕ → UInt8)) (src : ℕ → UInt8) :
    al1FrameBuild maxPayload out outCap channel seq payload 0 =
      al1FrameBuild maxPayload out outCap channel seq (some src) 0 := by
  cases out with
  | none => rfl
  | some buf =>
    cases payload with
    | none => rfl
    | some _ => rfl

/-- **The frame that is built** has the SEQ byte in its fourth place. -/
theorem build_send {c : SendCall} (hc : c.Valid) (buf : ℕ → UInt8) (seq : UInt8) :
    let r := al1FrameBuild al1LinkMaxPayload (some buf) (al1LinkOverhead + c.len.toNat) c.channel seq
      c.payload c.len
    r.2 ≠ 0 ∧ (Al1TxItem.mk (r.1.getD buf) (UInt16.ofNat r.2)).bytes[3]? = some seq := by
  obtain ⟨src, hsrc⟩ : ∃ src, al1FrameBuild al1LinkMaxPayload (some buf)
      (al1LinkOverhead + c.len.toNat) c.channel seq c.payload c.len =
      al1FrameBuild al1LinkMaxPayload (some buf) (al1LinkOverhead + c.len.toNat) c.channel seq
        (some src) c.len := by
    by_cases hzero : c.len = 0
    · exact ⟨fun _ => 0, by rw [hzero]; exact al1FrameBuild_zero _ _ _ _ _ _ _⟩
    · have hpos : 0 < c.len.toNat := Nat.pos_of_ne_zero fun h => hzero (UInt16.toNat_inj.mp h)
      obtain ⟨src, hpayload⟩ := Option.isSome_iff_exists.mp (hc.2 hpos)
      exact ⟨src, by rw [hpayload]⟩
  set f : LinkFrame := ⟨c.channel, seq, slice src 0 c.len.toNat⟩ with hf
  have hcount : f.payload.length = c.len.toNat := length_slice src 0 c.len.toNat
  have hlen : f.len = c.len := by rw [LinkFrame.len, hcount, UInt16.ofNat_toNat]
  have hcap : f.payload.length ≤ 4096 := hcount ▸ hc.1
  have hbuild := @al1FrameBuild_eq al1LinkMaxPayload _ buf src f ⟨hcap, by omega⟩ le_rfl
    (by rw [hcount])
  rw [hlen, hcount] at hbuild
  intro r
  have hr : r = al1FrameBuild al1LinkMaxPayload (some buf) (al1LinkOverhead + c.len.toNat)
    f.channel f.seq (some src) c.len := hsrc
  rw [← hr] at hbuild
  refine ⟨?_, ?_⟩
  · rw [hbuild.1, al1LinkOverhead, al1LinkHeaderLen]
    omega
  · rw [Al1TxItem.bytes_eq buf (hcount ▸ hbuild.1) hbuild.2 (by omega)]
    rfl

/-- **One call.** -/
theorem linkSendStep_eq {s : Al1Link} (hrun : s.running) {c : SendCall} (hc : c.Valid) :
    (linkSendStep s c).1.running ∧ (linkSendStep s c).1.txSeq = c.advance s.txSeq ∧
      (linkSendStep s c).2 = [c.recordAt s.txSeq] := by
  have hlen : ¬ al1LinkMaxPayload < c.len.toNat := Nat.not_lt.mpr hc.1
  rw [linkSendStep, al1LinkSend, if_neg (not_not.mpr hrun), if_neg hlen]
  unfold SendCall.advance SendCall.recordAt SendCall.queues
  cases hblock : c.outcome.block with
  | none => exact ⟨hrun, rfl, by simp [Al1Link.drop]⟩
  | some buf =>
    obtain ⟨hne, hseq⟩ := build_send hc buf (s.txSeq c.channel)
    simp only [if_neg hne]
    cases c.outcome.room with
    | false => exact ⟨hrun, rfl, by simp [Al1Link.drop]⟩
    | true => exact ⟨hrun, rfl, by simp [hseq]⟩

/-! ## Runs -/

/-- The records are those of their calls, with the numbers taken one after another. -/
def Numbered : (UInt8 → UInt8) → List SendRecord → Prop
  | _, [] => True
  | txSeq, r :: log => r = r.call.recordAt txSeq ∧ Numbered (r.call.advance txSeq) log

/-- The sequence numbers after the calls of some records. -/
def numbersAfter (txSeq : UInt8 → UInt8) (log : List SendRecord) : UInt8 → UInt8 :=
  log.foldl (fun q r => r.call.advance q) txSeq

theorem numbered_append {txSeq : UInt8 → UInt8} {log log' : List SendRecord} :
    Numbered txSeq (log ++ log') ↔ Numbered txSeq log ∧ Numbered (numbersAfter txSeq log) log' := by
  induction log generalizing txSeq with
  | nil => exact (true_and _).to_iff.symm
  | cons r log ih =>
    rw [List.cons_append, Numbered, ih, Numbered, and_assoc]
    rfl

/-- The records of a run. -/
theorem numbered_run {s : Al1Link} (hrun : s.running) {steps : List LinkStep}
    (hvalid : ∀ c ∈ sendCalls steps, c.Valid) :
    Numbered s.txSeq (run linkStep s steps).2 ∧
      (run linkStep s steps).2.map SendRecord.call = sendCalls steps := by
  induction steps generalizing s with
  | nil => exact ⟨trivial, rfl⟩
  | cons step steps ih =>
    cases step with
    | tx =>
      have hrun' : (txTask s).1.running ∧ (txTask s).1.txSeq = s.txSeq := by
        rw [txTask, if_neg (not_not.mpr hrun)]
        cases s.txQueue with
        | nil => exact ⟨hrun, rfl⟩
        | cons item queue => exact ⟨hrun, rfl⟩
      have hrest := ih hrun'.1 hvalid
      rw [hrun'.2] at hrest
      exact hrest
    | send c =>
      obtain ⟨hc, hvalid⟩ : c.Valid ∧ ∀ c ∈ sendCalls steps, c.Valid :=
        List.forall_mem_cons.mp hvalid
      obtain ⟨hrun', hseq, hrecord⟩ := linkSendStep_eq hrun hc
      have hrest := ih hrun' hvalid
      rw [hseq] at hrest
      rw [run_cons]
      show Numbered s.txSeq ((linkSendStep s c).2 ++ _) ∧ _
      rw [hrecord]
      exact ⟨⟨rfl, hrest.1⟩, congrArg (c :: ·) hrest.2⟩

/-- A call that gets a buffer, on this channel. -/
def SendRecord.numbers (channel : UInt8) (r : SendRecord) : Bool :=
  r.call.channel == channel && r.call.outcome.block.isSome

/-- A call without a buffer, on this channel. -/
def SendCall.starves (channel : UInt8) (c : SendCall) : Bool :=
  c.channel == channel && c.outcome.block.isNone

/-- A dropped frame on this channel that was counted. -/
def SendRecord.drops (channel : UInt8) (r : SendRecord) : Bool :=
  r.call.channel == channel && r.err != .ok && r.counted

/-- **The numbers taken** are those of the calls that get a buffer; other channels do not count. -/
theorem numbersAfter_apply (txSeq : UInt8 → UInt8) (log : List SendRecord) (channel : UInt8) :
    numbersAfter txSeq log channel =
      txSeq channel + UInt8.ofNat (log.countP (SendRecord.numbers channel)) := by
  induction log generalizing txSeq with
  | nil => exact (UInt8.add_zero _).symm
  | cons r log ih =>
    have hstep : r.call.advance txSeq channel =
        txSeq channel + UInt8.ofNat (if r.numbers channel then 1 else 0) := by
      rw [SendCall.advance, SendRecord.numbers]
      cases r.call.outcome.block with
      | none => simp
      | some buf =>
        by_cases hch : r.call.channel = channel
        · simp [hch]
        · simp [hch, Function.update_of_ne (Ne.symm hch)]
    have hnext := ih (r.call.advance txSeq)
    rw [hstep, UInt8.add_assoc, ← UInt8.ofNat_add, Nat.add_comm] at hnext
    rw [List.countP_cons]
    exact hnext

/-- Between two frames of a channel that are queued one after the other, the gap in the sequence
numbers is the number of drops, modulo 256. -/
def Reveals (log : List SendRecord) : Prop :=
  ∀ pre a mid b post s₁ s₂, log = pre ++ a :: (mid ++ b :: post) →
    b.call.channel = a.call.channel → a.seq = some s₁ → b.seq = some s₂ →
    (∀ r ∈ mid, r.call.channel = a.call.channel → r.seq = none) →
    (s₂ - s₁ - 1).toNat = mid.countP (SendRecord.drops a.call.channel) % 256

/-- Between two calls on a channel whose frames are queued one after the other, the number of
failed `malloc`s on the channel is a multiple of 256. -/
def NoStarvation (calls : List SendCall) : Prop :=
  ∀ pre a mid b post, calls = pre ++ a :: (mid ++ b :: post) →
    b.channel = a.channel → a.queues → b.queues →
    (∀ c ∈ mid, c.channel = a.channel → ¬ c.queues) →
    256 ∣ mid.countP (SendCall.starves a.channel)

section Gap

variable {txSeq : UInt8 → UInt8} {log : List SendRecord} {channel : UInt8}

/-- A record has a SEQ byte if the frame of its call is queued. -/
theorem Numbered.seq_eq_none_iff (h : Numbered txSeq log) {r : SendRecord} (hr : r ∈ log) :
    r.seq = none ↔ ¬ r.call.queues := by
  induction log generalizing txSeq with
  | nil => exact absurd hr List.not_mem_nil
  | cons r' log ih =>
    rcases List.mem_cons.mp hr with rfl | hr
    · rw [h.1, SendCall.recordAt]
      cases r.call.queues <;> simp
    · exact ih h.2 hr

theorem recordAt_seq_eq_some {c : SendCall} {seq : UInt8} :
    (c.recordAt txSeq).seq = some seq ↔ c.queues ∧ seq = txSeq c.channel := by
  rw [SendCall.recordAt]
  cases c.queues with
  | false => simp
  | true => simp [eq_comm]

/-- A frame that is queued has taken a number. -/
theorem SendCall.advance_of_queues {c : SendCall} (h : c.queues) :
    c.advance txSeq c.channel = txSeq c.channel + 1 := by
  have hblock : c.outcome.block.isSome := (Bool.and_eq_true_iff.mp h).1
  rw [SendCall.advance, if_pos hblock, Function.update_self]

/-- On the channel of the call, it is a drop if its frame is not queued. -/
theorem drops_recordAt (c : SendCall) :
    (c.recordAt txSeq).drops channel = (c.channel == channel && !c.queues) := by
  rw [SendRecord.drops, SendCall.recordAt]
  cases c.queues <;> simp

/-- If nothing is queued, every call on the channel is a drop: either it has taken a number, or it
has no buffer. -/
theorem Numbered.countP_drops (h : Numbered txSeq log)
    (hnone : ∀ r ∈ log, r.call.channel = channel → ¬ r.call.queues) :
    log.countP (SendRecord.drops channel) = log.countP (SendRecord.numbers channel) +
      (log.map SendRecord.call).countP (SendCall.starves channel) := by
  induction log generalizing txSeq with
  | nil => rfl
  | cons r log ih =>
    have hrest := ih h.2 fun r hr => hnone r (List.mem_cons_of_mem _ hr)
    have hdrops : r.drops channel = (r.call.channel == channel && !r.call.queues) := by
      rw [h.1]
      exact drops_recordAt r.call
    have hqueues := hnone r List.mem_cons_self
    rw [List.map_cons, List.countP_cons, List.countP_cons, List.countP_cons, hrest, hdrops,
      SendRecord.numbers, SendCall.starves]
    by_cases hch : r.call.channel = channel
    · simp only [hch, beq_self_eq_true, Bool.true_and, hqueues hch, Bool.not_false, if_true]
      cases r.call.outcome.block with
      | none => simp; omega
      | some buf => simp; omega
    · simp [hch]

/-- **Two queued frames.** -/
theorem Numbered.gap {a b : SendRecord} {mid post : List SendRecord}
    (h : Numbered txSeq (a :: (mid ++ b :: post))) (hch : b.call.channel = a.call.channel)
    {s₁ s₂ : UInt8} (ha : a.seq = some s₁) (hb : b.seq = some s₂) :
    (s₂ - s₁ - 1).toNat = mid.countP (SendRecord.numbers a.call.channel) % 256 := by
  obtain ⟨hra, hrest⟩ := h
  obtain ⟨-, hrb, -⟩ := numbered_append.mp hrest
  rw [hra, recordAt_seq_eq_some] at ha
  rw [hrb, recordAt_seq_eq_some, hch, numbersAfter_apply, SendCall.advance_of_queues ha.1] at hb
  have hgap : s₂ - s₁ - 1 =
      UInt8.ofNat (mid.countP (SendRecord.numbers a.call.channel)) := by
    rw [hb.2, ha.2]
    grind
  rw [hgap, UInt8.toNat_ofNat']

end Gap

/-- **Sequence numbers reveal drops.**  In a run of the sending side of a running link, with valid
arguments and any failures, the gap between two queued frames of a channel is the number of drops
in between, exactly if the number of failed `malloc`s on the channel is a multiple of 256. -/
theorem reveals_iff {s : Al1Link} (hrun : s.running) {steps : List LinkStep}
    (hvalid : ∀ c ∈ sendCalls steps, c.Valid) :
    Reveals (run linkStep s steps).2 ↔ NoStarvation (sendCalls steps) := by
  obtain ⟨hnum, hcalls⟩ := numbered_run hrun hvalid
  generalize (run linkStep s steps).2 = log at hnum hcalls
  rw [← hcalls]
  -- drops are numbers taken and failed allocations, and the gap shows the numbers taken
  have hsplit : ∀ pre a mid b post s₁ s₂, log = pre ++ a :: (mid ++ b :: post) →
      b.call.channel = a.call.channel → a.seq = some s₁ → b.seq = some s₂ →
      (∀ r ∈ mid, r.call.channel = a.call.channel → ¬ r.call.queues) →
      ((s₂ - s₁ - 1).toNat = mid.countP (SendRecord.drops a.call.channel) % 256 ↔
        256 ∣ (mid.map SendRecord.call).countP (SendCall.starves a.call.channel)) := by
    rintro pre a mid b post s₁ s₂ rfl hch ha hb hnone
    have hrest := (numbered_append.mp hnum).2
    rw [hrest.gap hch ha hb, (numbered_append.mp hrest.2).1.countP_drops hnone]
    omega
  constructor
  · intro h pre a mid b post hlog hch ha hb hnone
    obtain ⟨pre, rest, rfl, -, hrest⟩ := List.map_eq_append_iff.mp hlog
    obtain ⟨a, rest, rfl, rfl, hmid⟩ := List.map_eq_cons_iff.mp hrest
    obtain ⟨mid, rest, rfl, rfl, hlast⟩ := List.map_eq_append_iff.mp hmid
    obtain ⟨b, post, rfl, rfl, -⟩ := List.map_eq_cons_iff.mp hlast
    obtain ⟨s₁, hs₁⟩ := Option.ne_none_iff_exists'.mp fun hn =>
      (hnum.seq_eq_none_iff (r := a) (by simp)).mp hn ha
    obtain ⟨s₂, hs₂⟩ := Option.ne_none_iff_exists'.mp fun hn =>
      (hnum.seq_eq_none_iff (r := b) (by simp)).mp hn hb
    have hquiet : ∀ r ∈ mid, r.call.channel = a.call.channel → ¬ r.call.queues :=
      fun r hr => hnone _ (List.mem_map_of_mem hr)
    refine (hsplit pre a mid b post s₁ s₂ rfl hch hs₁ hs₂ hquiet).mp ?_
    exact h pre a mid b post s₁ s₂ rfl hch hs₁ hs₂ fun r hr hrch =>
      (hnum.seq_eq_none_iff (by simp [hr])).mpr (hquiet r hr hrch)
  · rintro h pre a mid b post s₁ s₂ rfl hch ha hb hnone
    have hqueues : ∀ r ∈ pre ++ a :: (mid ++ b :: post), r.seq ≠ none → r.call.queues :=
      fun r hr hsome => not_not.mp fun hq => hsome ((hnum.seq_eq_none_iff hr).mpr hq)
    have hquiet : ∀ r ∈ mid, r.call.channel = a.call.channel → ¬ r.call.queues :=
      fun r hr hrch => (hnum.seq_eq_none_iff (by simp [hr])).mp (hnone r hr hrch)
    refine (hsplit pre a mid b post s₁ s₂ rfl hch ha hb hquiet).mpr ?_
    refine h (pre.map SendRecord.call) a.call (mid.map SendRecord.call) b.call
      (post.map SendRecord.call) (by simp) hch ?_ ?_ ?_
    · exact hqueues a (by simp) (by simp [ha])
    · exact hqueues b (by simp) (by simp [hb])
    · intro c hc hcch
      obtain ⟨r, hr, rfl⟩ := List.mem_map.mp hc
      exact hquiet r hr hcch

/-- If no `malloc` fails, every drop is revealed. -/
theorem noStarvation_of_block {calls : List SendCall} (h : ∀ c ∈ calls, c.outcome.block.isSome) :
    NoStarvation calls := by
  rintro pre a mid b post rfl - - - -
  rw [List.countP_eq_zero.mpr]
  · exact Nat.dvd_zero 256
  · intro c hc
    have hblock := h c (by simp [hc])
    cases hb : c.outcome.block with
    | none =>
      rw [hb] at hblock
      exact absurd hblock Bool.false_ne_true
    | some buf => simp [SendCall.starves, hb]

/-- A one-byte payload on channel 1. -/
def sendByte (outcome : SendOutcome) : LinkStep := .send ⟨1, some fun _ => 0x55, 1, outcome⟩

/-- A full queue, between two frames that are queued. -/
theorem reveals_iff_full : Reveals (run linkStep
    { running := true, txQueue := [], stats := ⟨0, 0, 0, 0, 0, 0, 0⟩, txSeq := fun _ => 0xFF }
    [sendByte ⟨some fun _ => 0, true⟩, .tx, sendByte ⟨some fun _ => 0, false⟩,
      sendByte ⟨some fun _ => 0, true⟩]).2 :=
  (reveals_iff rfl (by decide)).mpr (noStarvation_of_block (by decide))

/-- **A drop that is not revealed.**  `malloc` fails between two frames that are queued; the drop is
counted, and the frames carry the numbers 0 and 1. -/
theorem not_reveals : ∃ (s : Al1Link) (steps : List LinkStep), s.running ∧
    (∀ c ∈ sendCalls steps, c.Valid) ∧ ¬ Reveals (run linkStep s steps).2 := by
  refine ⟨{ running := true, txQueue := [], stats := ⟨0, 0, 0, 0, 0, 0, 0⟩, txSeq := fun _ => 0 },
    [sendByte ⟨some fun _ => 0, true⟩, sendByte ⟨none, true⟩, sendByte ⟨some fun _ => 0, true⟩],
    rfl, by decide, ?_⟩
  intro h
  have hgap := h [] _ [_] _ [] 0 1 rfl rfl (by decide +kernel) (by decide +kernel)
    (by decide +kernel)
  revert hgap
  decide +kernel

end Al1Wmod
