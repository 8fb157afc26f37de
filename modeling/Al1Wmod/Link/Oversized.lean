import Al1Wmod.Link.Noise
import Al1Wmod.Link.Scanner

/-!
# Oversized frames

A receiver with a smaller cap meets the frames of a sender with a larger one.  At LEN_LO it counts a
length error and hunts for the next SYNC, so it drops the six header bytes only: the payload and the
CRC of the frame are read as if they were a stream of their own.

Whether the frame is dropped as a whole is therefore up to these bytes.  `Harmless` reads them from
left to right.  Everywhere a header may begin in them there must be a wrong version, or a whole
frame with a wrong CRC; then the receiver only counts errors, and the next frame finds it hunting.
If they are not harmless, they make it deliver a frame, count a second length error, or swallow a
frame that follows.
-/

namespace Al1Wmod

open Transducer Framer

/-- The bytes hold no header that gets the receiver off its track: each SYNC in them is the last
byte, or is followed by a wrong version, or begins a whole frame within the cap whose CRC field does
not match, and the reading goes on behind that frame. -/
inductive Harmless (maxPayload : ℕ) : List UInt8 → Prop where
  | nil : Harmless maxPayload []
  | skip {b : UInt8} {stream : List UInt8} :
      b ≠ al1LinkSync → Harmless maxPayload stream → Harmless maxPayload (b :: stream)
  | last : Harmless maxPayload [al1LinkSync]
  | stray {v : UInt8} {stream : List UInt8} :
      v ≠ al1LinkVersion → Harmless maxPayload (v :: stream) →
      Harmless maxPayload (al1LinkSync :: v :: stream)
  | badCrc {channel seq hi lo crcHi crcLo : UInt8} {payload stream : List UInt8} :
      payload.length = (Word16.ofBytes hi lo).toNat → payload.length ≤ maxPayload →
      Word16.ofBytes crcHi crcLo ≠
        al1Crc16Ccitt (al1LinkVersion :: channel :: seq :: hi :: lo :: payload) →
      Harmless maxPayload stream →
      Harmless maxPayload (al1LinkSync :: al1LinkVersion :: channel :: seq :: hi :: lo ::
        (payload ++ crcHi :: crcLo :: stream))

section Read

variable {maxPayload : ℕ}

/-- **Harmless bytes are skipped**, and cost only CRC and version errors. -/
theorem Harmless.linkRun {bytes : List UInt8} (h : Harmless maxPayload bytes)
    {frames : List LinkFrame} (hf : ∀ g ∈ frames, g.Fits maxPayload) :
    ∃ errs, (∀ o ∈ errs, o = .crcErr ∨ o = .verErr) ∧
      (Al1Wmod.linkRun maxPayload (bytes ++ frames.flatMap LinkFrame.encode)).2 =
        errs ++ frames.map .frame := by
  induction h with
  | nil => exact ⟨[], by simp, by rw [List.nil_append, linkRun_frames hf]; rfl⟩
  | skip hb _ ih =>
    obtain ⟨errs, herrs, heq⟩ := ih
    exact ⟨errs, herrs, by rw [List.cons_append, linkRun_cons_of_ne hb, heq]⟩
  | last =>
    cases frames with
    | nil => exact ⟨[], by simp, rfl⟩
    | cons g frames =>
      -- the SYNC of the next frame stands where a version should
      refine ⟨[.verErr], by simp, ?_⟩
      have hsync : al1LinkSync ≠ al1LinkVersion := by decide
      have hstream : [al1LinkSync] ++ (g :: frames).flatMap LinkFrame.encode =
          al1LinkSync :: al1LinkSync :: (g.covered ++ [Word16.hi g.crc, Word16.lo g.crc] ++
            frames.flatMap LinkFrame.encode) := rfl
      rw [hstream, linkRun_badVersion hsync]
      have hrest := linkRun_frames hf
      rw [List.flatMap_cons] at hrest
      exact congrArg (fun r => .verErr :: r.2) hrest
  | stray hv _ ih =>
    obtain ⟨errs, herrs, heq⟩ := ih
    refine ⟨.verErr :: errs, ?_, ?_⟩
    · exact List.forall_mem_cons.mpr ⟨Or.inr rfl, herrs⟩
    · rw [List.cons_append, List.cons_append, linkRun_badVersion hv, ← List.cons_append]
      exact congrArg (.verErr :: ·) heq
  | @badCrc channel seq hi lo crcHi crcLo payload stream hlen hM hcrc _ ih =>
    obtain ⟨errs, herrs, heq⟩ := ih
    refine ⟨.crcErr :: errs, ?_, ?_⟩
    · exact List.forall_mem_cons.mpr ⟨Or.inl rfl, herrs⟩
    · simp only [List.cons_append, List.append_assoc]
      rw [linkRun_frame (hlen ▸ hM) channel seq crcHi crcLo hlen, heq, linkCheck, if_neg hcrc]

/-- Bytes without SYNC VER are harmless. -/
theorem Quiet.harmless {bytes : List UInt8} (h : Quiet bytes) : Harmless maxPayload bytes := by
  induction bytes with
  | nil => exact .nil
  | cons b bytes ih =>
    have hrest := ih fun hin => h (hin.trans (List.suffix_cons b bytes).isInfix)
    by_cases hb : b = al1LinkSync
    · subst hb
      cases bytes with
      | nil => exact .last
      | cons v bytes =>
        refine .stray ?_ hrest
        rintro rfl
        exact h ⟨[], bytes, rfl⟩
    · exact .skip hb hrest

/-! ## Bytes that are not harmless -/

/-- Each frame in a stream takes eight bytes of it. -/
theorem StandIn.length_le {frames : List LinkFrame} {stream : List UInt8}
    (h : StandIn maxPayload frames stream) : 8 * frames.length ≤ stream.length := by
  induction h with
  | nil _ => exact Nat.zero_le _
  | skip b _ ih => exact ih.trans (Nat.le_succ _)
  | @frame f fs stream hf _ ih =>
    rw [LinkFrame.build_eq hf, List.length_append, LinkFrame.length_encode, List.length_cons]
    simp only [al1LinkOverhead, al1LinkHeaderLen, al1LinkCrcLen]
    omega

/-- Fewer than eight bytes hold no frame. -/
theorem linkRun_frames_of_short {stream : List UInt8} (h : stream.length < 8) :
    (linkRun maxPayload stream).2.filterMap LinkOutcome.frame? = [] := by
  have hle := (standIn_linkScan maxPayload stream).length_le
  rw [linkRun_scan]
  refine List.length_eq_zero_iff.mp ?_
  omega

/-- A header whose frame is cut off, with fewer than eight bytes behind it. -/
theorem linkRun_frames_of_cut {hi lo : UInt8} {tail : List UInt8} (channel seq : UInt8)
    (h : tail.length < (Word16.ofBytes hi lo).toNat + 2) (hshort : tail.length < 8) :
    (linkRun maxPayload (al1LinkSync :: al1LinkVersion :: channel :: seq :: hi :: lo ::
      tail)).2.filterMap LinkOutcome.frame? = [] := by
  by_cases hM : maxPayload < (Word16.ofBytes hi lo).toNat
  · rw [linkRun_oversized hM]
    exact linkRun_frames_of_short hshort
  · rw [linkRun_incomplete (Nat.not_lt.mp hM) channel seq h]
    rfl

/-- An unfinished frame swallows bytes of the next one, which is not delivered. -/
theorem linkRun_frames_of_unfinished {hi lo channel seq : UInt8} {tail w : List UInt8}
    (hM : (Word16.ofBytes hi lo).toNat ≤ maxPayload)
    (h : tail.length < (Word16.ofBytes hi lo).toNat + 2) (hw : w.length ≤ 8) {g : LinkFrame}
    (hg : g.channel ≠ channel) :
    (linkRun maxPayload (al1LinkSync :: al1LinkVersion :: channel :: seq :: hi :: lo ::
      (tail ++ w))).2.filterMap LinkOutcome.frame? ≠ [g] := by
  set n := (Word16.ofBytes hi lo).toNat with hn
  by_cases hcut : (tail ++ w).length < n + 2
  · rw [linkRun_incomplete hM channel seq hcut]
    exact (List.cons_ne_nil _ _).symm
  · have hpay : ((tail ++ w).take n).length = n := by
      rw [List.length_take]
      omega
    have hrest : ((tail ++ w).drop (n + 2)).length < 8 := by
      rw [List.length_drop, List.length_append]
      omega
    rw [take_append_two_drop (Nat.not_lt.mp hcut), linkRun_frame hM channel seq _ _ hpay,
      List.filterMap_cons, linkRun_frames_of_short hrest, frame?_linkCheck]
    split_ifs
    · exact fun hgot => hg (congrArg LinkFrame.channel (List.cons.inj hgot).1).symm
    · exact (List.cons_ne_nil _ _).symm

/-- So does a header that is itself unfinished. -/
theorem linkRun_frames_of_shortHeader {body : List UInt8} (h : body.length < 4) :
    (linkRun maxPayload (al1LinkSync :: al1LinkVersion ::
      (body ++ LinkFrame.encode ⟨1, 0, []⟩))).2.filterMap LinkOutcome.frame? = [] := by
  have hencode : LinkFrame.encode ⟨1, 0, []⟩ = [al1LinkSync, al1LinkVersion, 1, 0, 0, 0,
      Word16.hi (LinkFrame.crc ⟨1, 0, []⟩), Word16.lo (LinkFrame.crc ⟨1, 0, []⟩)] := rfl
  rw [hencode]
  -- LEN is completed by bytes of the frame, and is then larger than what is left of it
  match body, h with
  | [], _ => exact linkRun_frames_of_cut _ _ (show 4 < 256 + 2 by omega) (by simp)
  | [_], _ => exact linkRun_frames_of_cut _ _ (show 5 < 257 + 2 by omega) (by simp)
  | [_, _], _ => exact linkRun_frames_of_cut _ _ (show 6 < 42241 + 2 by omega) (by simp)
  | [_, _, hi], _ =>
    refine linkRun_frames_of_cut _ _ ?_ (by simp)
    rw [Word16.toNat_ofBytes]
    show 7 < hi.toNat * 256 + 165 + 2
    omega

/-- A decoder counts at most one error or frame for each byte. -/
theorem length_linkScan_le (maxPayload : ℕ) (stream : List UInt8) :
    (linkScan maxPayload stream).length ≤ stream.length := by
  induction stream using linkScan.induct maxPayload with
  | case1 => simp [linkScan]
  | case2 b stream hb ih =>
    rw [linkScan_cons_of_ne hb, List.length_cons]
    omega
  | case3 b hb =>
    rw [linkScan.eq_def]
    simp [hb]
  | case4 b hb v body hv ih =>
    rw [not_not.mp hb, linkScan_badVersion hv]
    simp only [List.length_cons] at ih ⊢
    omega
  | case5 b hb v hv channel seq hi lo tail len hM ih =>
    rw [not_not.mp hb, not_not.mp hv, linkScan_oversized hM]
    simp only [List.length_cons] at ih ⊢
    omega
  | case6 b hb v hv channel seq hi lo tail len hM hshort =>
    rw [not_not.mp hb, not_not.mp hv, linkScan_incomplete hM hshort]
    exact Nat.zero_le _
  | case7 b hb v hv channel seq hi lo tail len hM hlong ih =>
    rw [not_not.mp hb, not_not.mp hv, linkScan_frame hM hlong]
    rw [List.length_cons]
    refine (Nat.succ_le_succ ih).trans ?_
    simp only [List.length_cons, List.length_drop]
    omega
  | case8 b hb v body hv hbody =>
    rw [not_not.mp hb, not_not.mp hv, linkScan_short (length_lt_four hbody)]
    exact Nat.zero_le _

/-- A whole frame with a wrong CRC is a CRC error, whatever follows it. -/
theorem linkRun_badCrc {hi lo : UInt8} {n : ℕ} (hn : (Word16.ofBytes hi lo).toNat = n)
    (hM : n ≤ maxPayload) {tail : List UInt8} (htail : n + 2 ≤ tail.length) {channel seq : UInt8}
    (hbad : Word16.ofBytes (tail.getD n 0) (tail.getD (n + 1) 0) ≠ al1Crc16Ccitt
      (al1LinkVersion :: channel :: seq :: hi :: lo :: tail.take n)) (w : List UInt8) :
    (linkRun maxPayload
        (al1LinkSync :: al1LinkVersion :: channel :: seq :: hi :: lo :: tail ++ w)).2 =
      .crcErr :: (linkRun maxPayload (tail.drop (n + 2) ++ w)).2 := by
  rw [linkRun_whole hn hM htail, linkCheck, if_neg hbad]

/-- **Bytes that let every list of frames pass are harmless**, if they count no length error. -/
theorem harmless_of_frames {bytes : List UInt8}
    (hframes : ∀ frames : List LinkFrame, (∀ g ∈ frames, g.Fits maxPayload) →
      (linkRun maxPayload (bytes ++ frames.flatMap LinkFrame.encode)).2.filterMap
        LinkOutcome.frame? = frames)
    (hlenErr : .lenErr ∉ (linkRun maxPayload bytes).2) : Harmless maxPayload bytes := by
  have hempty : ∀ channel, ∀ g ∈ [(⟨channel, 0, []⟩ : LinkFrame)], g.Fits maxPayload := by
    intro channel g hg
    rw [List.mem_singleton.mp hg]
    exact ⟨Nat.zero_le _, Nat.zero_lt_succ _⟩
  induction bytes using linkScan.induct maxPayload with
  | case1 => exact .nil
  | case2 b stream hb ih =>
    rw [linkRun_cons_of_ne hb] at hlenErr
    refine .skip hb (ih (fun frames hf => ?_) hlenErr)
    have hpass := hframes frames hf
    rwa [List.cons_append, linkRun_cons_of_ne hb] at hpass
  | case3 b hb =>
    rw [not_not.mp hb]
    exact .last
  | case4 b hb v body hv ih =>
    obtain rfl := not_not.mp hb
    rw [linkRun_badVersion hv] at hlenErr
    refine .stray hv (ih (fun frames hf => ?_) fun hmem => hlenErr (List.mem_cons_of_mem _ hmem))
    have hpass := hframes frames hf
    rwa [List.cons_append, List.cons_append, linkRun_badVersion hv] at hpass
  | case5 b hb v hv channel seq hi lo tail len hM =>
    rw [not_not.mp hb, not_not.mp hv, linkRun_oversized (Word16.toNat_ofBytes hi lo ▸ hM)]
      at hlenErr
    exact absurd List.mem_cons_self hlenErr
  | case6 b hb v hv channel seq hi lo tail len hM hshort =>
    rw [not_not.mp hb, not_not.mp hv] at hframes
    have hpass := hframes [⟨channel + 1, 0, []⟩] (hempty _)
    rw [List.flatMap_singleton] at hpass
    refine absurd hpass (linkRun_frames_of_unfinished
      (Word16.toNat_ofBytes hi lo ▸ Nat.not_lt.mp hM) (Word16.toNat_ofBytes hi lo ▸ hshort) ?_ ?_)
    · rw [LinkFrame.length_encode]
      exact le_refl 8
    · show channel + 1 ≠ channel
      simp
  | case7 b hb v hv channel seq hi lo tail len hM hlong ih =>
    obtain rfl := not_not.mp hb
    obtain rfl := not_not.mp hv
    have hn : (Word16.ofBytes hi lo).toNat = len := Word16.toNat_ofBytes hi lo
    have hread := @linkRun_whole maxPayload hi lo len hn (Nat.not_lt.mp hM) tail
      (Nat.not_lt.mp hlong) channel seq
    have hbad : Word16.ofBytes (tail.getD len 0) (tail.getD (len + 1) 0) ≠ al1Crc16Ccitt
        (al1LinkVersion :: channel :: seq :: hi :: lo :: tail.take len) := by
      intro hcrc
      have hpass := hframes [] (by simp)
      rw [List.flatMap_nil, hread, linkCheck, if_pos hcrc] at hpass
      exact List.cons_ne_nil _ _ hpass
    have hskip := @linkRun_badCrc maxPayload hi lo len hn (Nat.not_lt.mp hM) tail
      (Nat.not_lt.mp hlong) channel seq hbad
    rw [take_append_two_drop (Nat.not_lt.mp hlong)]
    have hlen : (tail.take len).length = len := by
      rw [List.length_take]
      omega
    refine .badCrc (hlen.trans hn.symm) (hlen.trans_le (Nat.not_lt.mp hM)) hbad
      (ih (fun frames hf => ?_) fun hmem => hlenErr ?_)
    · have hpass := hframes frames hf
      rwa [hskip] at hpass
    · have hskip' := hskip []
      rw [List.append_nil, List.append_nil] at hskip'
      rw [hskip']
      exact List.mem_cons_of_mem _ hmem
  | case8 b hb v body hv hbody =>
    rw [not_not.mp hb, not_not.mp hv] at hframes
    have hpass := hframes [⟨1, 0, []⟩] (hempty _)
    rw [List.flatMap_singleton, List.cons_append, List.cons_append,
      linkRun_frames_of_shortHeader (length_lt_four hbody)] at hpass
    exact absurd hpass (List.cons_ne_nil _ _).symm

end Read

/-! ## What the parser does -/

/-- A frame of a sender with the cap `sendMax` is dropped as a whole by a receiver with the cap
`maxPayload`.  Whatever frames within the cap follow it, a parser in SYNC that is fed them all, in
any chunks, delivers the frames that follow, once and in order, and nothing else, and counts one
length error. -/
def DroppedWhole (maxPayload sendMax : ℕ) (f : LinkFrame) : Prop :=
  ∀ following : List LinkFrame, (∀ g ∈ following, g.Fits maxPayload) →
    ∀ (p : Al1Parser) (stats : Al1LinkStats) (chunks : List (List UInt8)),
      p.state = .sync → p.cb = true → p.stats = some stats →
      chunks.flatten = (f :: following).flatMap (LinkFrame.build sendMax) →
      let r := run (al1ParserFeed maxPayload) p chunks
      r.2.map Al1FrameCall.frame = following ∧
        r.1.stats.map Al1LinkStats.rxLenErr = some (stats.rxLenErr + 1)

/-- The bytes of a frame behind its header. -/
def LinkFrame.body (f : LinkFrame) : List UInt8 := f.payload ++ [Word16.hi f.crc, Word16.lo f.crc]

section Oversized

variable {maxPayload sendMax : ℕ} {f : LinkFrame}

theorem LinkFrame.encode_eq_body (f : LinkFrame) :
    f.encode = al1LinkSync :: al1LinkVersion :: f.channel :: f.seq :: Word16.hi f.len ::
      Word16.lo f.len :: f.body := rfl

/-- What a parser in SYNC makes of an oversized frame and what follows it. -/
theorem al1ParserFeed_oversized (hf : f.Fits sendMax) (hM : maxPayload < f.payload.length)
    {following : List LinkFrame} (hfollowing : ∀ g ∈ following, g.Fits maxPayload) {p : Al1Parser}
    {stats : Al1LinkStats} {chunks : List (List UInt8)} (hp : p.state = .sync) (hcb : p.cb = true)
    (hstats : p.stats = some stats)
    (hchunks : chunks.flatten = (f :: following).flatMap (LinkFrame.build sendMax)) :
    let r := run (al1ParserFeed maxPayload) p chunks
    let out := (linkRun maxPayload (f.body ++ following.flatMap LinkFrame.encode)).2
    r.2.map Al1FrameCall.frame = out.filterMap LinkOutcome.frame? ∧
      r.1.stats.map Al1LinkStats.rxLenErr =
        some (stats.rxLenErr + 1 + UInt32.ofNat (out.count .lenErr)) := by
  intro r out
  have hbuild : ∀ g ∈ following, g.build sendMax = g.encode := fun g hg =>
    LinkFrame.build_eq ⟨((hfollowing g hg).1.trans hM.le).trans hf.1, (hfollowing g hg).2⟩
  have hlen : maxPayload < (Word16.ofBytes (Word16.hi f.len) (Word16.lo f.len)).toNat := by
    rw [Word16.ofBytes_hi_lo, LinkFrame.toNat_len hf.2]
    exact hM
  have hread : (linkRun maxPayload chunks.flatten).2 = .lenErr :: out := by
    rw [hchunks, List.flatMap_cons, LinkFrame.build_eq hf, List.flatMap_congr hbuild,
      LinkFrame.encode_eq_body]
    simp only [List.cons_append]
    rw [linkRun_oversized hlen]
  have hfollows := @al1ParserFeed_of_sync maxPayload p hp chunks
  rw [← linkRun, hread] at hfollows
  constructor
  · rw [hfollows.calls, if_pos hcb]
    rfl
  · rw [hfollows.stats, hstats, Option.map_some, foldl_count, List.count_cons_self,
      Nat.add_comm, UInt32.ofNat_add, ← UInt32.add_assoc]
    rfl

/-- If the frame is dropped as a whole, its bytes let every list of frames pass. -/
theorem DroppedWhole.fed (hf : f.Fits sendMax) (hM : maxPayload < f.payload.length)
    (hdrop : DroppedWhole maxPayload sendMax f) {following : List LinkFrame}
    (hfollowing : ∀ g ∈ following, g.Fits maxPayload) :
    let out := (linkRun maxPayload (f.body ++ following.flatMap LinkFrame.encode)).2
    out.filterMap LinkOutcome.frame? = following ∧ UInt32.ofNat (out.count .lenErr) = 0 := by
  intro out
  have hchunks := @List.flatten_singleton _ ((f :: following).flatMap (LinkFrame.build sendMax))
  have hgot := hdrop following hfollowing capturingParser _ _ rfl rfl rfl hchunks
  have hdoes := al1ParserFeed_oversized hf hM hfollowing (p := capturingParser) rfl rfl rfl hchunks
  refine ⟨hdoes.1.symm.trans hgot.1, ?_⟩
  have hcount := Option.some.inj (hdoes.2.symm.trans hgot.2)
  simpa using hcount

/-- The body of a frame is too short to move a counter by a multiple of `2 ^ 32`. -/
theorem lenErr_not_mem_of_count (hf : f.Fits sendMax)
    (h : UInt32.ofNat ((linkRun maxPayload f.body).2.count .lenErr) = 0) :
    .lenErr ∉ (linkRun maxPayload f.body).2 := by
  have hle : (linkRun maxPayload f.body).2.count .lenErr ≤ f.body.length := by
    rw [linkRun_scan]
    exact List.count_le_length.trans (length_linkScan_le maxPayload f.body)
  have hlt : f.body.length < 65536 + 2 := by
    rw [LinkFrame.body, List.length_append]
    exact Nat.add_lt_add_right hf.2 2
  have hnat := congrArg UInt32.toNat h
  rw [UInt32.toNat_ofNat_of_lt' (lt_of_le_of_lt hle (hlt.trans (by decide)))] at hnat
  exact List.count_eq_zero.mp hnat

/-- Errors other than length errors deliver nothing and count no length error. -/
theorem silent_of_errs {errs : List LinkOutcome} (h : ∀ o ∈ errs, o = .crcErr ∨ o = .verErr) :
    errs.filterMap LinkOutcome.frame? = [] ∧ errs.count .lenErr = 0 := by
  constructor
  · refine List.filterMap_eq_nil_iff.mpr fun o ho => ?_
    rcases h o ho with rfl | rfl
    · rfl
    · rfl
  · refine List.count_eq_zero.mpr fun hmem => ?_
    rcases h _ hmem with heq | heq
    · exact LinkOutcome.noConfusion heq
    · exact LinkOutcome.noConfusion heq

/-- Harmless bytes are dropped with their frame. -/
theorem Harmless.droppedWhole (hf : f.Fits sendMax) (hM : maxPayload < f.payload.length)
    (hbody : Harmless maxPayload f.body) : DroppedWhole maxPayload sendMax f := by
  intro following hfollowing p stats chunks hp hcb hstats hchunks r
  obtain ⟨errs, herrs, hread⟩ := hbody.linkRun hfollowing
  obtain ⟨hsilent, hcount⟩ := silent_of_errs herrs
  have hdoes := al1ParserFeed_oversized hf hM hfollowing hp hcb hstats hchunks
  rw [hread] at hdoes
  refine ⟨hdoes.1.trans ?_, hdoes.2.trans ?_⟩
  · rw [List.filterMap_append, hsilent, List.filterMap_map]
    exact List.filterMap_some
  · have hframes : (following.map LinkOutcome.frame).count .lenErr = 0 := by
      refine List.count_eq_zero.mpr fun hmem => ?_
      obtain ⟨g, -, hg⟩ := List.mem_map.mp hmem
      exact LinkOutcome.noConfusion hg
    rw [List.count_append, hcount, hframes]
    simp

/-- **An oversized frame is dropped as a whole** exactly if its payload and CRC are harmless. -/
theorem dropped_whole_iff (hf : f.Fits sendMax) (hM : maxPayload < f.payload.length) :
    DroppedWhole maxPayload sendMax f ↔ Harmless maxPayload f.body := by
  constructor
  · intro hdrop
    refine harmless_of_frames (fun frames hframes => (hdrop.fed hf hM hframes).1) ?_
    have hzero := (@DroppedWhole.fed _ _ _ hf hM hdrop [] (by simp)).2
    rw [List.flatMap_nil, List.append_nil] at hzero
    exact lenErr_not_mem_of_count hf hzero
  · intro hbody
    exact hbody.droppedWhole hf hM

end Oversized

/-- A payload with a SYNC in it, but no SYNC VER. -/
theorem dropped_whole_quiet : DroppedWhole 2 4096 ⟨4, 0, [0x11, 0xA5, 0x22, 0xA5]⟩ :=
  (dropped_whole_iff (by decide) (by decide)).mpr (Quiet.harmless (by decide +kernel))

/-- **A frame in a frame.**  The payload of the oversized frame is itself a frame, and the callback
is invoked with it. -/
theorem oversized_delivers : LinkFrame.Fits 4096 ⟨4, 0, LinkFrame.encode ⟨2, 8, []⟩⟩ ∧
    (∀ p : Al1Parser, p.state = .sync → p.cb = true →
      (run (al1ParserFeed 4) p [LinkFrame.build 4096 ⟨4, 0, LinkFrame.encode ⟨2, 8, []⟩⟩]).2.map
        Al1FrameCall.frame = [⟨2, 8, []⟩]) ∧
    ¬ DroppedWhole 4 4096 ⟨4, 0, LinkFrame.encode ⟨2, 8, []⟩⟩ := by
  have hdelivered : ∀ p : Al1Parser, p.state = .sync → p.cb = true →
      (run (al1ParserFeed 4) p [LinkFrame.build 4096 ⟨4, 0, LinkFrame.encode ⟨2, 8, []⟩⟩]).2.map
        Al1FrameCall.frame = [⟨2, 8, []⟩] := by
    intro p hp hcb
    have hout : (linkRun 4 (LinkFrame.build 4096 ⟨4, 0, LinkFrame.encode ⟨2, 8, []⟩⟩)).2 =
        [.lenErr, .frame ⟨2, 8, []⟩] := by decide +kernel
    have hfollows := @al1ParserFeed_of_sync 4 p hp
      [LinkFrame.build 4096 ⟨4, 0, LinkFrame.encode ⟨2, 8, []⟩⟩]
    rw [List.flatten_singleton, ← linkRun, hout] at hfollows
    rw [hfollows.calls, if_pos hcb]
    rfl
  refine ⟨by decide, hdelivered, fun hdrop => ?_⟩
  have hnone := (hdrop [] (by simp) capturingParser _ _ rfl rfl rfl
    (List.flatten_singleton.trans (List.append_nil _).symm)).1
  rw [hdelivered capturingParser rfl rfl] at hnone
  exact List.cons_ne_nil _ _ hnone

end Al1Wmod
