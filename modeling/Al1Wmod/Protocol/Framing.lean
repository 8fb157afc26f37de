import Al1Wmod.Protocol.Packet
import Al1Wmod.Stream.Framer

/-!
# The framing of the Attentio Protocol

Where a packet begins and ends is decided by SYNC and LEN alone: hunt for SYNC, read LEN, and
take LEN + 1 more bytes.  `apVerdict` says so as a framer.  Two machines of the firmware use this
framing, the parser `ap_parse_byte` and the reassembler `ap_reasm_feed`; each is shown to be in
lock step with it, and what the framing itself does is proved here.

The six lemmas `apStep_…` are the six things that can happen to a byte.
-/

namespace Al1Wmod

open Transducer Framer

/-- `AP_MIN_LEN`. -/
def apMinLen : UInt8 := 1

/-- `AP_MAX_LEN`: the command and a full payload. -/
def apMaxLen : UInt8 := 253

/-- What can become of a packet on the stream: a whole frame, its CRC right or wrong, or a LEN
byte out of range. -/
inductive ApUnit where
  | frame : List UInt8 → ApUnit
  | badLen : UInt8 → ApUnit
  deriving DecidableEq, Repr

/-- A LEN byte in range. -/
def ApLen (len : UInt8) : Prop := apMinLen ≤ len ∧ len ≤ apMaxLen

instance (len : UInt8) : Decidable (ApLen len) := inferInstanceAs (Decidable (_ ∧ _))

/-- The verdict on the bytes from SYNC on. -/
def apVerdict : List UInt8 → Verdict ApUnit
  | [] => .more
  | [b] => if b = apSyncByte then .more else .stop []
  | [_, len] => if ApLen len then .more else .stop [.badLen len]
  | sync :: len :: rest =>
    if rest.length = len.toNat + 1 then .stop [.frame (sync :: len :: rest)] else .more

/-- Reading a stream with a fresh framer. -/
abbrev apRun (stream : List UInt8) : List UInt8 × List ApUnit := run (step apVerdict) [] stream

/-- A whole frame: SYNC, a LEN in range, and as many bytes as LEN announces. -/
def ApFrame (frame : List UInt8) : Prop :=
  ∃ len rest, frame = apSyncByte :: len :: rest ∧ ApLen len ∧ rest.length = len.toNat + 1

theorem ApFrame.length_le {frame : List UInt8} (h : ApFrame frame) : frame.length ≤ 256 := by
  obtain ⟨len, rest, rfl, ⟨_, hmax⟩, hrest⟩ := h
  have hmax' : len.toNat ≤ 253 := hmax
  rw [List.length_cons, List.length_cons, hrest]
  omega

theorem ApFrame.ne_nil {frame : List UInt8} (h : ApFrame frame) : frame ≠ [] := by
  obtain ⟨len, rest, rfl, _, _⟩ := h
  exact List.cons_ne_nil _ _

/-- The length of a frame is in its second byte. -/
theorem ApFrame.length_eq {frame : List UInt8} (h : ApFrame frame) :
    frame.length = (frame.getD 1 0).toNat + 3 := by
  obtain ⟨len, rest, rfl, _, hrest⟩ := h
  rw [List.length_cons, List.length_cons, hrest]
  rfl

theorem ApFrame.le_length {frame : List UInt8} (h : ApFrame frame) : 4 ≤ frame.length := by
  obtain ⟨len, rest, rfl, ⟨hmin, _⟩, hrest⟩ := h
  have hmin' : 1 ≤ len.toNat := hmin
  rw [List.length_cons, List.length_cons, hrest]
  omega

/-- A packet is a whole frame. -/
theorem apFrame_apPacketBytes (cmd : UInt8) {payload : List UInt8}
    (h : payload.length ≤ apMaxPayloadSize) : ApFrame (apPacketBytes cmd payload) := by
  rw [apMaxPayloadSize] at h
  have hlen : (UInt8.ofNat (1 + payload.length)).toNat = 1 + payload.length := by
    rw [UInt8.toNat_ofNat']
    omega
  refine ⟨UInt8.ofNat (1 + payload.length), _, rfl, ⟨?_, ?_⟩, ?_⟩
  · rw [UInt8.le_iff_toNat_le, hlen]
    exact Nat.le_add_right 1 _
  · rw [UInt8.le_iff_toNat_le, hlen]
    exact Nat.add_le_add_left h 1
  · rw [hlen, List.length_cons, List.length_append, List.length_singleton]
    omega

/-- The bytes a framer can hold between two bytes of the stream. -/
inductive ApOpen : List UInt8 → Prop where
  | hunting : ApOpen []
  | synced : ApOpen [apSyncByte]
  | data {len : UInt8} {rest : List UInt8} (hlen : ApLen len) (hrest : rest.length ≤ len.toNat) :
      ApOpen (apSyncByte :: len :: rest)

section Steps

variable {len : UInt8} {rest : List UInt8}

theorem apStep_skip {b : UInt8} (hb : b ≠ apSyncByte) : step apVerdict [] b = ([], []) :=
  step_of_stop (if_neg hb)

theorem apStep_sync : step apVerdict [] apSyncByte = ([apSyncByte], []) := step_of_more rfl

theorem apStep_len (h : ApLen len) : step apVerdict [apSyncByte] len = ([apSyncByte, len], []) :=
  step_of_more (if_pos h)

theorem apStep_badLen (h : ¬ ApLen len) :
    step apVerdict [apSyncByte] len = ([], [.badLen len]) := step_of_stop (if_neg h)

/-- From two bytes on, the verdict counts. -/
theorem apVerdict_snoc (b : UInt8) :
    apVerdict ((apSyncByte :: len :: rest) ++ [b]) =
      if rest.length = len.toNat then .stop [.frame (apSyncByte :: len :: rest ++ [b])]
      else .more := by
  cases rest with
  | nil => simp [apVerdict, eq_comm]
  | cons c rest => simp [apVerdict]

theorem apStep_data (h : rest.length < len.toNat) (b : UInt8) :
    step apVerdict (apSyncByte :: len :: rest) b = (apSyncByte :: len :: (rest ++ [b]), []) :=
  step_of_more ((apVerdict_snoc b).trans (if_neg h.ne))

theorem apStep_frame (h : rest.length = len.toNat) (b : UInt8) :
    step apVerdict (apSyncByte :: len :: rest) b =
      ([], [.frame (apSyncByte :: len :: (rest ++ [b]))]) :=
  step_of_stop ((apVerdict_snoc b).trans (if_pos h))

end Steps

/-- An open framer stays open, and the frames it puts out are whole. -/
theorem ApOpen.step {acc : List UInt8} (h : ApOpen acc) (b : UInt8) :
    ApOpen (Framer.step apVerdict acc b).1 ∧
      ∀ f, ApUnit.frame f ∈ (Framer.step apVerdict acc b).2 → ApFrame f := by
  cases h with
  | hunting =>
    by_cases hb : b = apSyncByte
    · rw [hb, apStep_sync]
      exact ⟨.synced, by simp⟩
    · rw [apStep_skip hb]
      exact ⟨.hunting, by simp⟩
  | synced =>
    by_cases hb : ApLen b
    · rw [apStep_len hb]
      exact ⟨.data hb (Nat.zero_le _), by simp⟩
    · rw [apStep_badLen hb]
      exact ⟨.hunting, by simp⟩
  | @data len rest hlen hrest =>
    rcases hrest.lt_or_eq with hlt | heq
    · rw [apStep_data hlt]
      exact ⟨.data hlen (by rw [List.length_append]; exact hlt), by simp⟩
    · rw [apStep_frame heq]
      refine ⟨.hunting, ?_⟩
      intro f hf
      rw [ApUnit.frame.inj (List.mem_singleton.mp hf)]
      exact ⟨len, rest ++ [b], rfl, hlen, by simp [heq]⟩

/-- **Every frame is whole.** -/
theorem apFrame_of_mem_run {acc : List UInt8} (h : ApOpen acc) (stream : List UInt8) :
    ∀ u ∈ (run (step apVerdict) acc stream).2, ∀ f, u = .frame f → ApFrame f := by
  refine run_out_induction (P := ApOpen) (fun acc b hacc => (hacc.step b).1) ?_ h stream
  rintro acc b hacc _ hu f rfl
  exact (hacc.step b).2 f hu

/-- The framing never reads a byte again, and a frame it puts out is all it has read. -/
theorem apVerdict_cases (l : List UInt8) :
    apVerdict l = .more ∨ apVerdict l = .stop [] ∨ apVerdict l = .stop [.frame l] ∨
      ∃ len, apVerdict l = .stop [.badLen len] := by
  unfold apVerdict
  split
  · exact Or.inl rfl
  · split
    · exact Or.inl rfl
    · exact Or.inr (Or.inl rfl)
  · split
    · exact Or.inl rfl
    · exact Or.inr (Or.inr (Or.inr ⟨_, rfl⟩))
  · split
    · exact Or.inr (Or.inr (Or.inl rfl))
    · exact Or.inl rfl

/-- What a byte puts out: nothing, the frame it ends, or a bad LEN. -/
theorem apStep_out (acc : List UInt8) (b : UInt8) :
    (step apVerdict acc b).2 = [] ∨ (step apVerdict acc b).2 = [.frame (acc ++ [b])] ∨
      ∃ len, (step apVerdict acc b).2 = [.badLen len] := by
  rcases apVerdict_cases (acc ++ [b]) with h | h | h | ⟨len, h⟩
  · rw [step_of_more h]
    exact Or.inl rfl
  · rw [step_of_stop h]
    exact Or.inl rfl
  · rw [step_of_stop h]
    exact Or.inr (Or.inl rfl)
  · rw [step_of_stop h]
    exact Or.inr (Or.inr ⟨len, rfl⟩)

/-- What a byte of a stream puts out.  A frame is whole, and stands at the end of what was read. -/
theorem apRun_out (stream : List UInt8) (b : UInt8) :
    (step apVerdict (apRun stream).1 b).2 = [] ∨
      (∃ frame, (step apVerdict (apRun stream).1 b).2 = [.frame frame] ∧ ApFrame frame ∧
        frame <:+ stream ++ [b]) ∨
      ∃ len, (step apVerdict (apRun stream).1 b).2 = [.badLen len] := by
  rcases apStep_out (apRun stream).1 b with h | h | h
  · exact Or.inl h
  · refine Or.inr (Or.inl ⟨_, h, ?_, ?_⟩)
    · refine apFrame_of_mem_run .hunting (stream ++ [b]) (.frame _) ?_ _ rfl
      rw [run_append, run_singleton]
      exact List.mem_append_right _ (by rw [h]; exact List.mem_singleton_self _)
    · have hsuffix : (apRun stream).1 <:+ stream := run_suffix [] stream
      obtain ⟨t, ht⟩ := hsuffix
      exact ⟨t, by rw [← List.append_assoc, ht]⟩
  · exact Or.inr (Or.inr h)

/-- Data bytes are collected. -/
theorem apRun_data {len : UInt8} {rest : List UInt8} (l : List UInt8)
    (h : rest.length + l.length ≤ len.toNat) :
    run (step apVerdict) (apSyncByte :: len :: rest) l =
      (apSyncByte :: len :: (rest ++ l), []) := by
  induction l generalizing rest with
  | nil => simp
  | cons b l ih =>
    rw [List.length_cons] at h
    have hrest : (rest ++ [b]).length + l.length ≤ len.toNat := by
      rw [List.length_append, List.length_singleton]
      omega
    rw [run_cons, apStep_data (by omega), ih hrest]
    simp

/-- All bytes of a frame but the last are collected, and the last ends it. -/
theorem ApFrame.exists_last {frame : List UInt8} (h : ApFrame frame) :
    ∃ body last, frame = body ++ [last] ∧ run (step apVerdict) [] body = (body, []) ∧
      step apVerdict body last = ([], [.frame frame]) := by
  obtain ⟨len, rest, rfl, hlen, hrest⟩ := h
  have hne : rest ≠ [] := by
    rintro rfl
    simp at hrest
  obtain ⟨data, last, rfl⟩ : ∃ data last, rest = data ++ [last] :=
    ⟨_, _, (List.dropLast_concat_getLast hne).symm⟩
  have hdata : data.length = len.toNat := by simpa using hrest
  refine ⟨apSyncByte :: len :: data, last, rfl, ?_, apStep_frame hdata last⟩
  rw [run_cons, apStep_sync, run_cons, apStep_len hlen]
  exact @apRun_data len [] data (by simp [hdata])

/-- **A whole frame on the front of a stream** is put out, and the rest is read afresh. -/
theorem apRun_frame {frame : List UInt8} (h : ApFrame frame) (stream : List UInt8) :
    apRun (frame ++ stream) = ((apRun stream).1, .frame frame :: (apRun stream).2) := by
  obtain ⟨body, last, heq, hbody, hlast⟩ := h.exists_last
  have hstream : frame ++ stream = body ++ last :: stream := by
    rw [heq, List.append_assoc, List.singleton_append]
  rw [hstream, apRun, run_append, hbody, run_cons, hlast]
  rfl

/-- A frame is put out at its last byte. -/
theorem ApFrame.trace_eq {frame : List UInt8} (h : ApFrame frame) :
    trace (step apVerdict) [] frame =
      List.replicate (frame.length - 1) [] ++ [[.frame frame]] := by
  obtain ⟨body, last, heq, hbody, hlast⟩ := h.exists_last
  have hlen : frame.length - 1 = body.length := by
    rw [heq, List.length_append, List.length_singleton, Nat.add_sub_cancel]
  conv_lhs => rw [heq]
  rw [trace_append, hlen, trace_of_run_eq_nil (congrArg Prod.snd hbody), hbody, trace, hlast, trace]

/-- Frames one after another. -/
theorem apRun_frames {frames : List (List UInt8)} (h : ∀ f ∈ frames, ApFrame f) :
    apRun frames.flatten = ([], frames.map .frame) := by
  induction frames with
  | nil => rfl
  | cons f frames ih =>
    rw [List.flatten_cons, apRun_frame (h f List.mem_cons_self),
      ih fun g hg => h g (List.mem_cons_of_mem _ hg), List.map_cons]

end Al1Wmod
