import Al1Wmod.Protocol.Framing

/-!
# The length-only reassembler

`ap_reasm.c`: it collects the bytes a central writes into whole frames and hands each to a
callback.  It counts down `need` and writes at `idx`; it never looks at the CRC.  It is in lock
step with the framing.
-/

namespace Al1Wmod

open Buffer Transducer Framer

/-- `ap_reasm_state_t`. -/
inductive ApReasmState where
  | sync | len | data
  deriving DecidableEq, Repr

/-- `ap_reasm_t`.  `cb` says whether a callback is registered; the pointer `user` is the slot that
holds the reassembler. -/
structure ApReasm where
  state : ApReasmState
  need : UInt16
  idx : UInt16
  frame : ℕ → UInt8
  cb : Bool
  frames : UInt32
  lenErr : UInt32

/-- One invocation of `ap_reasm_cb_t`: a pointer into the reassembler's buffer, and a length. -/
structure ApFrameCall where
  frame : ℕ → UInt8
  len : UInt16

/-- The bytes an invocation hands over. -/
def ApFrameCall.bytes (c : ApFrameCall) : List UInt8 := slice c.frame 0 c.len.toNat

/-- `ap_reasm_init`, on a reassembler whose memory holds `r`. -/
def apReasmInit (r : ApReasm) (cb : Bool) : ApReasm :=
  { r with state := .sync, need := 0, idx := 0, cb := cb, frames := 0, lenErr := 0 }

/-- The body of the loop of `ap_reasm_feed`: one byte. -/
def apReasmByte (r : ApReasm) (b : UInt8) : ApReasm × List ApFrameCall :=
  match r.state with
  | .sync =>
    (if b = apSyncByte then { r with frame := write r.frame 0 b, idx := 1, state := .len } else r,
      [])
  | .len =>
    if b < apMinLen ∨ apMaxLen < b then
      ({ r with lenErr := r.lenErr + 1, state := .sync }, [])
    else
      ({ r with
         frame := write r.frame 1 b
         idx := 2
         need := b.toUInt16 + 1
         state := .data }, [])
  | .data =>
    let q := { r with
      frame := write r.frame r.idx.toNat b
      idx := r.idx + 1
      need := r.need - 1 }
    if q.need = 0 then
      ({ q with frames := q.frames + 1, state := .sync }, if q.cb then [⟨q.frame, q.idx⟩] else [])
    else (q, [])

/-- `ap_reasm_feed`. -/
def apReasmFeed (r : ApReasm) (data : List UInt8) : ApReasm × List ApFrameCall :=
  run apReasmByte r data

/-! ## The reassembler against the framing -/

/-- The frame in a unit that is one. -/
def ApUnit.frame? : ApUnit → Option (List UInt8)
  | .frame f => some f
  | .badLen _ => none

/-- The LEN byte of a unit with a bad one. -/
def ApUnit.badLen? : ApUnit → Option UInt8
  | .frame _ => none
  | .badLen len => some len

/-- The reassembler after the bytes `acc` of an unfinished frame. -/
def ReasmRepresents (r : ApReasm) (acc : List UInt8) : Prop :=
  match r.state with
  | .sync => acc = []
  | .len => acc = [apSyncByte] ∧ slice r.frame 0 1 = acc
  | .data => ∃ (len : UInt8) (rest : List UInt8),
    acc = apSyncByte :: len :: rest ∧ ApLen len ∧ rest.length ≤ len.toNat ∧
      slice r.frame 0 (rest.length + 2) = acc ∧ r.idx.toNat = rest.length + 2 ∧
      r.need.toNat + rest.length = len.toNat + 1

/-- What a reassembler has done when the framing has reached `acc` and put out `out`. -/
structure ReasmFollows (r r' : ApReasm) (calls : List ApFrameCall) (acc : List UInt8)
    (out : List ApUnit) : Prop where
  represents : ReasmRepresents r' acc
  cb : r'.cb = r.cb
  calls : calls.map ApFrameCall.bytes = if r.cb then out.filterMap ApUnit.frame? else []
  frames : r'.frames = r.frames + UInt32.ofNat (out.filterMap ApUnit.frame?).length
  lenErr : r'.lenErr = r.lenErr + UInt32.ofNat (out.filterMap ApUnit.badLen?).length

/-- Steps that make no call and move no counter. -/
theorem ReasmFollows.silent {r r' : ApReasm} {acc : List UInt8} (hr : ReasmRepresents r' acc)
    (hcb : r'.cb = r.cb) (hframes : r'.frames = r.frames) (hlenErr : r'.lenErr = r.lenErr) :
    ReasmFollows r r' [] acc [] :=
  ⟨hr, hcb, by simp, by simp [hframes], by simp [hlenErr]⟩

theorem ReasmFollows.trans {r q t : ApReasm} {calls calls' : List ApFrameCall}
    {acc acc' : List UInt8} {out out' : List ApUnit} (h : ReasmFollows r q calls acc out)
    (h' : ReasmFollows q t calls' acc' out') :
    ReasmFollows r t (calls ++ calls') acc' (out ++ out') := by
  refine ⟨h'.represents, h'.cb.trans h.cb, ?_, ?_, ?_⟩
  · rw [List.map_append, h.calls, h'.calls, h.cb]
    split <;> simp
  · rw [h'.frames, h.frames, List.filterMap_append, List.length_append, UInt32.ofNat_add,
      UInt32.add_assoc]
  · rw [h'.lenErr, h.lenErr, List.filterMap_append, List.length_append, UInt32.ofNat_add,
      UInt32.add_assoc]

theorem not_apLen_iff {b : UInt8} : (b < apMinLen ∨ apMaxLen < b) ↔ ¬ ApLen b := by
  rw [ApLen, not_and_or, UInt8.not_le, UInt8.not_le]

/-- A byte in LEN. -/
theorem apReasmByte_len {r : ApReasm} (hs : r.state = .len)
    (hframe : slice r.frame 0 1 = [apSyncByte]) (b : UInt8) :
    ReasmFollows r (apReasmByte r b).1 (apReasmByte r b).2 (step apVerdict [apSyncByte] b).1
      (step apVerdict [apSyncByte] b).2 := by
  by_cases hlen : ApLen b
  · have hslice : slice (write r.frame 1 b) 0 2 = [apSyncByte, b] := by
      have := slice_write_last r.frame 0 1 b
      rw [hframe] at this
      simpa using this
    have hneed : (b.toUInt16 + 1).toNat = b.toNat + 1 := by
      have := b.toNat_lt
      rw [UInt16.toNat_add, UInt8.toNat_toUInt16, show (1 : UInt16).toNat = 1 from rfl]
      omega
    rw [apStep_len hlen]
    simp only [apReasmByte, hs, not_apLen_iff, hlen, not_true_eq_false, if_false]
    exact .silent ⟨b, [], rfl, hlen, Nat.zero_le _, hslice, rfl, hneed⟩ rfl rfl rfl
  · rw [apStep_badLen hlen]
    simp only [apReasmByte, hs, not_apLen_iff, hlen, not_false_eq_true, if_true]
    exact ⟨rfl, rfl, by simp [ApUnit.frame?], by simp [List.filterMap_cons, ApUnit.frame?],
      by simp [ApUnit.badLen?]⟩

/-- A byte in DATA. -/
theorem apReasmByte_data {r : ApReasm} {len : UInt8} {rest : List UInt8} (hs : r.state = .data)
    (hlen : ApLen len) (hrest : rest.length ≤ len.toNat)
    (hframe : slice r.frame 0 (rest.length + 2) = apSyncByte :: len :: rest)
    (hidx : r.idx.toNat = rest.length + 2) (hneed : r.need.toNat + rest.length = len.toNat + 1)
    (b : UInt8) :
    ReasmFollows r (apReasmByte r b).1 (apReasmByte r b).2
      (step apVerdict (apSyncByte :: len :: rest) b).1
      (step apVerdict (apSyncByte :: len :: rest) b).2 := by
  have hlt : len.toNat < 256 := len.toNat_lt
  have hidx' : (r.idx + 1).toNat = rest.length + 3 := by
    rw [UInt16.toNat_add, hidx, show (1 : UInt16).toNat = 1 from rfl]
    omega
  have hneed' : (r.need - 1).toNat + rest.length = len.toNat := by
    have : (1 : UInt16) ≤ r.need := UInt16.le_iff_toNat_le.mpr (by
      rw [show (1 : UInt16).toNat = 1 from rfl]
      omega)
    rw [UInt16.toNat_sub_of_le _ _ this, show (1 : UInt16).toNat = 1 from rfl]
    omega
  have hslice : slice (write r.frame r.idx.toNat b) 0 (rest.length + 3) =
      apSyncByte :: len :: (rest ++ [b]) := by
    have := slice_write_last r.frame 0 (rest.length + 2) b
    rw [hframe] at this
    simpa [hidx] using this
  have hzero : r.need - 1 = 0 ↔ rest.length = len.toNat := by
    rw [← UInt16.toNat_inj, show (0 : UInt16).toNat = 0 from rfl]
    omega
  rcases hrest.lt_or_eq with hlt' | heq
  · have hne : r.need - 1 ≠ 0 := hzero.not.mpr hlt'.ne
    rw [apStep_data hlt']
    simp only [apReasmByte, hs, hne, if_false]
    refine .silent ⟨len, rest ++ [b], rfl, hlen, ?_, ?_, ?_, ?_⟩ rfl rfl rfl
    · rw [List.length_append]
      exact hlt'
    · simpa using hslice
    · simpa using hidx'
    · rw [List.length_append, List.length_singleton]
      show (r.need - 1).toNat + (rest.length + 1) = len.toNat + 1
      omega
  · rw [apStep_frame heq]
    simp only [apReasmByte, hs, hzero.mpr heq, if_true]
    refine ⟨rfl, rfl, ?_, by simp [ApUnit.frame?],
      by simp [List.filterMap_cons, ApUnit.badLen?]⟩
    cases r.cb
    · rfl
    · simp [ApFrameCall.bytes, ApUnit.frame?, hidx', hslice]

/-- One byte. -/
theorem apReasmByte_step {r : ApReasm} {acc : List UInt8} (h : ReasmRepresents r acc)
    (b : UInt8) :
    ReasmFollows r (apReasmByte r b).1 (apReasmByte r b).2 (step apVerdict acc b).1
      (step apVerdict acc b).2 := by
  unfold ReasmRepresents at h
  split at h
  case h_1 hs =>
    subst h
    by_cases hb : b = apSyncByte
    · rw [hb, apStep_sync]
      simp only [apReasmByte, hs, if_true]
      exact .silent ⟨rfl, rfl⟩ rfl rfl rfl
    · rw [apStep_skip hb]
      simp only [apReasmByte, hs, hb, if_false]
      exact .silent (by simp [ReasmRepresents, hs]) rfl rfl rfl
  case h_2 hs =>
    obtain ⟨rfl, hframe⟩ := h
    exact apReasmByte_len hs hframe b
  case h_3 hs =>
    obtain ⟨len, rest, rfl, hlen, hrest, hframe, hidx, hneed⟩ := h
    exact apReasmByte_data hs hlen hrest hframe hidx hneed b

/-- **Every feed.** -/
theorem apReasmFeed_framing {r : ApReasm} {acc : List UInt8} (h : ReasmRepresents r acc)
    (data : List UInt8) :
    ReasmFollows r (apReasmFeed r data).1 (apReasmFeed r data).2
      (run (step apVerdict) acc data).1 (run (step apVerdict) acc data).2 := by
  induction data generalizing r acc with
  | nil => exact .silent h rfl rfl rfl
  | cons b data ih =>
    have hstep := apReasmByte_step h b
    exact hstep.trans (ih hstep.represents)

/-- A reassembler between two frames is in SYNC. -/
theorem reasmRepresents_nil_iff {r : ApReasm} : ReasmRepresents r [] ↔ r.state = .sync := by
  unfold ReasmRepresents
  cases r.state <;> simp

/-- **Any feeds**, from `ap_reasm_init` on. -/
theorem apReasmFeed_init (r : ApReasm) (cb : Bool) (feeds : List (List UInt8)) :
    ReasmFollows (apReasmInit r cb) (run apReasmFeed (apReasmInit r cb) feeds).1
      (run apReasmFeed (apReasmInit r cb) feeds).2 (apRun feeds.flatten).1
      (apRun feeds.flatten).2 := by
  have hrun : run apReasmFeed (apReasmInit r cb) feeds =
      apReasmFeed (apReasmInit r cb) feeds.flatten := run_flatten _ _ feeds
  rw [hrun]
  exact apReasmFeed_framing (reasmRepresents_nil_iff.mpr rfl) feeds.flatten

end Al1Wmod
