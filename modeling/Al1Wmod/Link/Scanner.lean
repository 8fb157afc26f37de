import Al1Wmod.Link.Stream

/-!
# The whole-buffer reference decoder

`linkScan` decodes a stream that is there as a whole: it takes
slices, calls the one-shot CRC, and calls itself on what is left.  It has no states and
no counters.  The byte-fed parser, fed the stream in any chunks, makes the callback invocations of
this decoder and counts what it counts.
-/

namespace Al1Wmod

open Transducer Framer Buffer

/-- The reference decoder.  The CRC field is compared as a big-endian number. -/
def linkScan (maxPayload : ℕ) : List UInt8 → List LinkOutcome
  | [] => []
  | b :: stream =>
    if b ≠ al1LinkSync then linkScan maxPayload stream
    else
      match stream with
      | [] => []
      | v :: body =>
        if v ≠ al1LinkVersion then .verErr :: linkScan maxPayload (v :: body)
        else
          match body with
          | channel :: seq :: lenHi :: lenLo :: tail =>
            let len := lenHi.toNat * 256 + lenLo.toNat
            if maxPayload < len then .lenErr :: linkScan maxPayload tail
            else if tail.length < len + 2 then []
            else
              let payload := tail.take len
              let crc := al1Crc16Ccitt (v :: channel :: seq :: lenHi :: lenLo :: payload)
              let field := (tail.getD len 0).toNat * 256 + (tail.getD (len + 1) 0).toNat
              (if crc.toNat = field then .frame ⟨channel, seq, payload⟩ else .crcErr) ::
                linkScan maxPayload (tail.drop (len + 2))
          | _ => []
termination_by stream => stream.length
decreasing_by all_goals simp only [List.length_cons, List.length_drop]; omega

/-- A CRC field, compared as a number, is the comparison the parser makes. -/
theorem linkCheck_eq (channel seq hi lo : UInt8) (payload : List UInt8) (crcHi crcLo : UInt8) :
    linkCheck channel seq hi lo payload crcHi crcLo =
      if (al1Crc16Ccitt (al1LinkVersion :: channel :: seq :: hi :: lo :: payload)).toNat =
          crcHi.toNat * 256 + crcLo.toNat then
        .frame ⟨channel, seq, payload⟩ else .crcErr := by
  rw [linkCheck, ← Word16.toNat_ofBytes]
  simp only [UInt16.toNat_inj, eq_comm]

/-- A list with two entries behind its first `n` falls into these pieces. -/
theorem take_append_two_drop {n : ℕ} {l : List UInt8} (h : n + 2 ≤ l.length) :
    l = l.take n ++ l.getD n 0 :: l.getD (n + 1) 0 :: l.drop (n + 2) := by
  conv_lhs => rw [← List.take_append_drop n l, List.drop_eq_getElem_cons (by omega),
    List.drop_eq_getElem_cons (by omega)]
  rw [List.getD_eq_getElem?_getD, List.getElem?_eq_getElem (by omega), Option.getD_some,
    List.getD_eq_getElem?_getD, List.getElem?_eq_getElem (by omega), Option.getD_some]

/-! ## The equations of the decoder -/

section Equations

variable {maxPayload : ℕ}

theorem linkScan_cons_of_ne {b : UInt8} (hb : b ≠ al1LinkSync) (stream : List UInt8) :
    linkScan maxPayload (b :: stream) = linkScan maxPayload stream := by
  rw [linkScan.eq_def]
  simp only [hb, ne_eq, not_false_eq_true, if_true]

theorem linkScan_badVersion {v : UInt8} (hv : v ≠ al1LinkVersion) (body : List UInt8) :
    linkScan maxPayload (al1LinkSync :: v :: body) =
      .verErr :: linkScan maxPayload (v :: body) := by
  rw [linkScan.eq_def]
  simp only [ne_eq, not_true_eq_false, if_false, hv, not_false_eq_true, if_true]

theorem linkScan_oversized {hi lo : UInt8} (h : maxPayload < hi.toNat * 256 + lo.toNat)
    (channel seq : UInt8) (tail : List UInt8) :
    linkScan maxPayload (al1LinkSync :: al1LinkVersion :: channel :: seq :: hi :: lo :: tail) =
      .lenErr :: linkScan maxPayload tail := by
  rw [linkScan.eq_def]
  simp only [ne_eq, not_true_eq_false, if_false, h, if_true]

theorem linkScan_incomplete {hi lo : UInt8} {tail : List UInt8}
    (hM : ¬ maxPayload < hi.toNat * 256 + lo.toNat)
    (h : tail.length < hi.toNat * 256 + lo.toNat + 2) (channel seq : UInt8) :
    linkScan maxPayload (al1LinkSync :: al1LinkVersion :: channel :: seq :: hi :: lo :: tail) =
      [] := by
  rw [linkScan.eq_def]
  simp only [ne_eq, not_true_eq_false, if_false, hM, h, if_true]

theorem linkScan_frame {hi lo : UInt8} {tail : List UInt8}
    (hM : ¬ maxPayload < hi.toNat * 256 + lo.toNat)
    (h : ¬ tail.length < hi.toNat * 256 + lo.toNat + 2) (channel seq : UInt8) :
    linkScan maxPayload (al1LinkSync :: al1LinkVersion :: channel :: seq :: hi :: lo :: tail) =
      linkCheck channel seq hi lo (tail.take (hi.toNat * 256 + lo.toNat))
          (tail.getD (hi.toNat * 256 + lo.toNat) 0)
          (tail.getD (hi.toNat * 256 + lo.toNat + 1) 0) ::
        linkScan maxPayload (tail.drop (hi.toNat * 256 + lo.toNat + 2)) := by
  rw [linkScan.eq_def]
  simp only [ne_eq, not_true_eq_false, if_false, hM, h, linkCheck_eq]

theorem linkScan_short {body : List UInt8} (h : body.length < 4) :
    linkScan maxPayload (al1LinkSync :: al1LinkVersion :: body) = [] := by
  rw [linkScan.eq_def]
  match body, h with
  | [], _ | [_], _ | [_, _], _ | [_, _, _], _ => simp

end Equations

/-- Fewer than four bytes, when there are not four. -/
theorem length_lt_four {body : List UInt8}
    (h : ∀ channel seq hi lo tail, body = channel :: seq :: hi :: lo :: tail → False) :
    body.length < 4 := by
  match body, h with
  | [], _ | [_], _ | [_, _], _ | [_, _, _], _ => simp
  | channel :: seq :: hi :: lo :: tail, h => exact (h channel seq hi lo tail rfl).elim

/-- A whole frame at the front, cut out of the bytes behind its header. -/
theorem linkRun_whole {maxPayload : ℕ} {hi lo : UInt8} {n : ℕ} (hn : (Word16.ofBytes hi lo).toNat = n)
    (hM : n ≤ maxPayload) {tail : List UInt8} (htail : n + 2 ≤ tail.length) (channel seq : UInt8)
    (w : List UInt8) :
    (linkRun maxPayload
        (al1LinkSync :: al1LinkVersion :: channel :: seq :: hi :: lo :: tail ++ w)).2 =
      linkCheck channel seq hi lo (tail.take n) (tail.getD n 0) (tail.getD (n + 1) 0) ::
        (linkRun maxPayload (tail.drop (n + 2) ++ w)).2 := by
  have hlen : (tail.take n).length = (Word16.ofBytes hi lo).toNat := by
    rw [List.length_take, hn]
    omega
  conv_lhs => rw [take_append_two_drop htail]
  simp only [List.cons_append, List.append_assoc]
  rw [linkRun_frame (hn.trans_le hM) channel seq _ _ hlen]

/-- **The framer is the reference decoder.** -/
theorem linkRun_scan (maxPayload : ℕ) (stream : List UInt8) :
    (linkRun maxPayload stream).2 = linkScan maxPayload stream := by
  induction stream using linkScan.induct maxPayload with
  | case1 =>
    rw [linkScan]
    rfl
  | case2 b stream hb ih => rw [linkScan_cons_of_ne hb, linkRun_cons_of_ne hb, ih]
  | case3 b hb =>
    rw [linkScan.eq_def, linkRun, run_singleton, step_of_more (by simpa [linkVerdict] using hb)]
    simp only [if_neg hb]
  | case4 b hb v body hv ih =>
    rw [not_not.mp hb, linkScan_badVersion hv, linkRun_badVersion hv, ih]
  | case5 b hb v hv channel seq hi lo tail len hM ih =>
    rw [not_not.mp hb, not_not.mp hv, linkScan_oversized hM,
      linkRun_oversized (Word16.toNat_ofBytes hi lo ▸ hM), ih]
  | case6 b hb v hv channel seq hi lo tail len hM hshort =>
    rw [not_not.mp hb, not_not.mp hv, linkScan_incomplete hM hshort,
      linkRun_incomplete (Word16.toNat_ofBytes hi lo ▸ Nat.not_lt.mp hM) _ _
        (Word16.toNat_ofBytes hi lo ▸ hshort)]
  | case7 b hb v hv channel seq hi lo tail len hM hlong ih =>
    have hread := linkRun_whole (Word16.toNat_ofBytes hi lo) (Nat.not_lt.mp hM)
      (Nat.not_lt.mp hlong) channel seq []
    rw [List.append_nil, List.append_nil] at hread
    rw [not_not.mp hb, not_not.mp hv, hread, ih, linkScan_frame hM hlong]
  | case8 b hb v body hv hbody =>
    rw [not_not.mp hb, not_not.mp hv, linkScan_short (length_lt_four hbody),
      linkRun_shortHeader (length_lt_four hbody)]

/-! ## What the decoder delivers -/

/-- The counters after some outcomes, as 32-bit sums. -/
theorem foldl_count (s : Al1LinkStats) (out : List LinkOutcome) :
    out.foldl Al1LinkStats.count s =
      { s with
        rxFrames := s.rxFrames + UInt32.ofNat (out.filterMap LinkOutcome.frame?).length
        rxCrcErr := s.rxCrcErr + UInt32.ofNat (out.count .crcErr)
        rxVerErr := s.rxVerErr + UInt32.ofNat (out.count .verErr)
        rxLenErr := s.rxLenErr + UInt32.ofNat (out.count .lenErr)
        rxResync := s.rxResync + UInt32.ofNat (out.count .lenErr) } := by
  induction out generalizing s with
  | nil => simp
  | cons o out ih =>
    rw [List.foldl_cons, ih]
    cases o <;>
      simp [Al1LinkStats.count, LinkOutcome.frame?, List.filterMap_cons,
        UInt32.ofNat_add, UInt32.add_assoc, UInt32.add_comm]

/-- A delivered frame is the encoding that was on the wire. -/
theorem encode_of_linkCheck {channel seq hi lo crcHi crcLo : UInt8} {payload : List UInt8}
    {f : LinkFrame} (hlen : payload.length = (Word16.ofBytes hi lo).toNat)
    (h : linkCheck channel seq hi lo payload crcHi crcLo = .frame f) :
    f = ⟨channel, seq, payload⟩ ∧
      al1LinkSync :: al1LinkVersion :: channel :: seq :: hi :: lo :: (payload ++ [crcHi, crcLo]) =
        f.encode := by
  rw [linkCheck] at h
  split at h
  case isFalse => exact absurd h (by simp)
  case isTrue hcrc =>
    obtain rfl := (LinkOutcome.frame.inj h).symm
    have hword : (⟨channel, seq, payload⟩ : LinkFrame).len = Word16.ofBytes hi lo := by
      rw [LinkFrame.len, hlen, UInt16.ofNat_toNat]
    obtain ⟨h1, h2⟩ := Word16.ofBytes_eq_iff.mp hcrc
    simp [LinkFrame.encode, LinkFrame.crc, LinkFrame.covered, hword, h1, h2]

/-- The frames stand in the stream, in this order and without overlap, each as the contiguous
bytes that `al1_frame_build` writes for it. -/
inductive StandIn (maxPayload : ℕ) : List LinkFrame → List UInt8 → Prop where
  | nil (stream : List UInt8) : StandIn maxPayload [] stream
  | skip (b : UInt8) {fs : List LinkFrame} {stream : List UInt8} :
      StandIn maxPayload fs stream → StandIn maxPayload fs (b :: stream)
  | frame {f : LinkFrame} {fs : List LinkFrame} {stream : List UInt8} :
      f.Fits maxPayload → StandIn maxPayload fs stream →
      StandIn maxPayload (f :: fs) (f.build maxPayload ++ stream)

theorem StandIn.skip_append {maxPayload : ℕ} {fs : List LinkFrame} {stream : List UInt8}
    (l : List UInt8) (h : StandIn maxPayload fs stream) :
    StandIn maxPayload fs (l ++ stream) := by
  induction l with
  | nil => exact h
  | cons b l ih => exact ih.skip b

/-- **Delivered frames stand in the stream.** -/
theorem standIn_linkScan (maxPayload : ℕ) (stream : List UInt8) :
    StandIn maxPayload ((linkScan maxPayload stream).filterMap LinkOutcome.frame?) stream := by
  induction stream using linkScan.induct maxPayload with
  | case1 =>
    rw [linkScan]
    exact .nil _
  | case2 b stream hb ih =>
    rw [linkScan_cons_of_ne hb]
    exact ih.skip b
  | case3 b hb =>
    rw [linkScan.eq_def]
    simp only [if_neg hb]
    exact .nil _
  | case4 b hb v body hv ih =>
    rw [not_not.mp hb, linkScan_badVersion hv]
    exact ih.skip al1LinkSync
  | case5 b hb v hv channel seq hi lo tail len hM ih =>
    rw [not_not.mp hb, not_not.mp hv, linkScan_oversized hM]
    exact ih.skip_append [al1LinkSync, al1LinkVersion, channel, seq, hi, lo]
  | case6 b hb v hv channel seq hi lo tail len hM hshort =>
    rw [not_not.mp hb, not_not.mp hv, linkScan_incomplete hM hshort]
    exact .nil _
  | case7 b hb v hv channel seq hi lo tail len hM hlong ih =>
    have hlen : (tail.take len).length = (Word16.ofBytes hi lo).toNat := by
      rw [List.length_take, Word16.toNat_ofBytes]
      omega
    have htail := take_append_two_drop (Nat.not_lt.mp hlong)
    rw [not_not.mp hb, not_not.mp hv, linkScan_frame hM hlong]
    cases hc : linkCheck channel seq hi lo (tail.take len) (tail.getD len 0)
        (tail.getD (len + 1) 0) with
    | frame f =>
      obtain ⟨rfl, henc⟩ := encode_of_linkCheck hlen hc
      have hfits : LinkFrame.Fits maxPayload ⟨channel, seq, tail.take len⟩ := by
        refine ⟨?_, ?_⟩
        · rw [hlen, Word16.toNat_ofBytes]
          exact Nat.not_lt.mp hM
        · rw [hlen]
          exact (Word16.ofBytes hi lo).toNat_lt
      have hstream : al1LinkSync :: al1LinkVersion :: channel :: seq :: hi :: lo :: tail =
          LinkFrame.build maxPayload ⟨channel, seq, tail.take len⟩ ++ tail.drop (len + 2) := by
        rw [LinkFrame.build_eq hfits, ← henc]
        conv_lhs => rw [htail]
        simp
      rw [List.filterMap_cons, hstream]
      exact .frame hfits ih
    | crcErr | verErr | lenErr =>
      rw [List.filterMap_cons]
      conv => arg 3; rw [htail]
      exact (ih.skip_append [tail.getD len 0, tail.getD (len + 1) 0]).skip_append
        (al1LinkSync :: al1LinkVersion :: channel :: seq :: hi :: lo :: tail.take len)
  | case8 b hb v body hv hbody =>
    rw [not_not.mp hb, not_not.mp hv, linkScan_short (length_lt_four hbody)]
    exact .nil _

/-- Frames that stand in a stream fit. -/
theorem StandIn.fits {maxPayload : ℕ} {fs : List LinkFrame} {stream : List UInt8}
    (h : StandIn maxPayload fs stream) : ∀ f ∈ fs, f.Fits maxPayload := by
  induction h with
  | nil => exact fun f hf => absurd hf List.not_mem_nil
  | skip _ _ ih => exact ih
  | frame hf _ ih => exact List.forall_mem_cons.mpr ⟨hf, ih⟩

/-- **The parser is the reference decoder.**  Fresh from `al1_parser_init` and fed any stream in
any chunks, the parser invokes the callback with the frames the decoder finds in the whole
stream, and moves the counters by what the decoder counts.  Every frame it delivers stands in
the stream as `al1_frame_build` would write it. -/
theorem al1ParserFeed_scan (maxPayload : ℕ) (p : Al1Parser) (stats : Al1LinkStats)
    (chunks : List (List UInt8)) :
    let r := run (al1ParserFeed maxPayload) (al1ParserInit p true (some stats)) chunks
    let out := linkScan maxPayload chunks.flatten
    r.2.map Al1FrameCall.frame = out.filterMap LinkOutcome.frame? ∧
    r.1.stats = some { stats with
      rxFrames := stats.rxFrames + UInt32.ofNat (out.filterMap LinkOutcome.frame?).length
      rxCrcErr := stats.rxCrcErr + UInt32.ofNat (out.count .crcErr)
      rxVerErr := stats.rxVerErr + UInt32.ofNat (out.count .verErr)
      rxLenErr := stats.rxLenErr + UInt32.ofNat (out.count .lenErr)
      rxResync := stats.rxResync + UInt32.ofNat (out.count .lenErr) } ∧
    StandIn maxPayload (r.2.map Al1FrameCall.frame) chunks.flatten := by
  intro r out
  have h := @al1ParserFeed_of_sync maxPayload (al1ParserInit p true (some stats)) rfl chunks
  rw [linkRun_scan] at h
  have hcalls : r.2.map Al1FrameCall.frame = out.filterMap LinkOutcome.frame? := h.calls
  refine ⟨hcalls, ?_, hcalls ▸ standIn_linkScan maxPayload chunks.flatten⟩
  rw [h.stats, ← foldl_count]
  rfl

end Al1Wmod
