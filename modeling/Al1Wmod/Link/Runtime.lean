import Al1Wmod.Link.Stream

/-!
# The sending side of the link

`al1_link_send` frames a payload and queues it, and `tx_task` takes frames off the queue and
writes them to the UART.  What `malloc` and `xQueueSend` do is up to the caller of the model: any
call may fail.

Nothing is lost between the queue and the wire: what has been written, followed by what is
queued, are the encodings of the frames that `al1_link_send` has accepted (`Conveys`).
-/

namespace Al1Wmod

open Buffer Transducer Framer

/-- `al1_tx_item_t`. -/
structure Al1TxItem where
  buf : ℕ → UInt8
  len : UInt16

/-- The bytes of an item. -/
def Al1TxItem.bytes (i : Al1TxItem) : List UInt8 := slice i.buf 0 i.len.toNat

/-- The parts of `s_link` that sending uses.  The queue has its oldest item first. -/
structure Al1Link where
  running : Bool
  txQueue : List Al1TxItem
  stats : Al1LinkStats
  txSeq : UInt8 → UInt8

/-- `esp_err_t`, as far as sending returns it. -/
inductive EspErr where
  | ok | fail | noMem | invalidState | invalidSize
  deriving DecidableEq, Repr

/-- What the system does in one call of `al1_link_send`: the block that `malloc` returns, with
whatever it holds, and whether `xQueueSend` finds room. -/
structure SendOutcome where
  block : Option (ℕ → UInt8)
  room : Bool

/-- A payload that is not sent. -/
def Al1Link.drop (s : Al1Link) : Al1Link :=
  { s with stats := { s.stats with txDrops := s.stats.txDrops + 1 } }

/-- `al1_link_send`. -/
def al1LinkSend (maxPayload : ℕ) (s : Al1Link) (channel : UInt8) (payload : Option (ℕ → UInt8))
    (len : UInt16) (o : SendOutcome) : Al1Link × EspErr :=
  if ¬ s.running then (s, .invalidState)
  else if maxPayload < len.toNat then (s.drop, .invalidSize)
  else
    let frameLen := al1LinkOverhead + len.toNat
    match o.block with
    | none => (s.drop, .noMem)
    | some buf =>
      let t := { s with txSeq := Function.update s.txSeq channel (s.txSeq channel + 1) }
      let r := al1FrameBuild maxPayload (some buf) frameLen channel (s.txSeq channel) payload len
      if r.2 = 0 then (t.drop, .fail)
      else if o.room then
        ({ t with txQueue := t.txQueue ++ [⟨r.1.getD buf, UInt16.ofNat r.2⟩] }, .ok)
      else (t.drop, .noMem)

/-- The body of the loop of `tx_task`: the link after it, and what is written to the UART. -/
def txTask (s : Al1Link) : Al1Link × List UInt8 :=
  if ¬ s.running then (s, [])
  else
    match s.txQueue with
    | [] => (s, [])
    | item :: queue =>
      ({ s with txQueue := queue, stats := { s.stats with txFrames := s.stats.txFrames + 1 } },
        item.bytes)

/-! ## From the queue to the wire -/

/-- The wire and the queue hold these frames, in this order, and nothing else. -/
def Conveys (s : Al1Link) (wire : List UInt8) (frames : List LinkFrame) : Prop :=
  wire ++ s.txQueue.flatMap Al1TxItem.bytes = frames.flatMap LinkFrame.encode

section Send

variable {s : Al1Link} {wire : List UInt8} {frames : List LinkFrame}

/-- What the builder wrote is what the item holds. -/
theorem Al1TxItem.bytes_eq {r : Option (ℕ → UInt8) × ℕ} (buf : ℕ → UInt8) {f : LinkFrame}
    (hn : r.2 = al1LinkOverhead + f.payload.length) (hw : written r = f.encode)
    (hlen : f.payload.length ≤ 65527) :
    (Al1TxItem.mk (r.1.getD buf) (UInt16.ofNat r.2)).bytes = f.encode := by
  obtain ⟨out, n⟩ := r
  cases out with
  | none =>
    have hnil : f.encode = [] := hw.symm
    exact absurd hnil (List.cons_ne_nil _ _)
  | some out =>
    have hn' : n = 8 + f.payload.length := hn
    rw [bytes, ← hw, UInt16.toNat_ofNat', Nat.mod_eq_of_lt (by show n < 65536; omega)]
    rfl

/-- **A call of `al1_link_send`** leaves the link running.  If it returns OK the frame is queued
behind the others, and if it returns an error nothing is. -/
theorem al1LinkSend_spec (maxPayload : ℕ) (hrun : s.running) (channel : UInt8) {payload : List UInt8}
    (hlen : payload.length ≤ 65527) (o : SendOutcome) (hw : Conveys s wire frames) :
    let r := al1LinkSend maxPayload s channel (some (ofList 0 payload))
      (UInt16.ofNat payload.length) o
    r.1.running ∧
      ((r.2 = .ok ∧ Conveys r.1 wire (frames ++ [⟨channel, s.txSeq channel, payload⟩])) ∨
        (r.2 ≠ .ok ∧ Conveys r.1 wire frames)) := by
  set f : LinkFrame := ⟨channel, s.txSeq channel, payload⟩ with hf
  have hlen' : (UInt16.ofNat payload.length).toNat = payload.length := by
    rw [UInt16.toNat_ofNat', Nat.mod_eq_of_lt (by omega)]
  rw [al1LinkSend, if_neg (not_not.mpr hrun), hlen']
  by_cases hM : maxPayload < payload.length
  · rw [if_pos hM]
    exact ⟨hrun, Or.inr ⟨EspErr.noConfusion, hw⟩⟩
  · rw [if_neg hM]
    cases o.block with
    | none => exact ⟨hrun, Or.inr ⟨EspErr.noConfusion, hw⟩⟩
    | some buf =>
      have hbuild := @al1FrameBuild_eq maxPayload _ buf (ofList 0 payload) f
        ⟨Nat.not_lt.mp hM, by show payload.length < 65536; omega⟩ le_rfl (slice_ofList 0 payload)
      simp only [hf, LinkFrame.len] at hbuild
      generalize hr : al1FrameBuild maxPayload (some buf) (al1LinkOverhead + payload.length) channel
        (s.txSeq channel) (some (ofList 0 payload)) (UInt16.ofNat payload.length) = r at hbuild
      have hne : r.2 ≠ 0 := by
        rw [hbuild.1, al1LinkOverhead, al1LinkHeaderLen]
        omega
      simp only [hr, if_neg hne]
      cases o.room with
      | false => exact ⟨hrun, Or.inr ⟨EspErr.noConfusion, hw⟩⟩
      | true =>
        refine ⟨hrun, Or.inl ⟨rfl, ?_⟩⟩
        have hbytes := Al1TxItem.bytes_eq buf (f := f) hbuild.1 hbuild.2 hlen
        rw [Conveys] at hw ⊢
        rw [if_pos rfl, List.flatMap_append, List.flatMap_append, ← List.append_assoc, hw,
          List.flatMap_singleton, List.flatMap_singleton, hbytes]

/-- **An iteration of `tx_task`** moves the oldest frame to the wire. -/
theorem txTask_spec (hrun : s.running) (hw : Conveys s wire frames) :
    (txTask s).1.running ∧ Conveys (txTask s).1 (wire ++ (txTask s).2) frames := by
  rw [txTask, if_neg (not_not.mpr hrun)]
  cases hq : s.txQueue with
  | nil =>
    refine ⟨hrun, ?_⟩
    rw [List.append_nil]
    exact hw
  | cons item queue =>
    refine ⟨hrun, ?_⟩
    rw [Conveys, hq, List.flatMap_cons] at hw
    rw [Conveys, List.append_assoc]
    exact hw

end Send

end Al1Wmod
