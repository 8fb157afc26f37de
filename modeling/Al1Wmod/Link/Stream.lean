import Al1Wmod.Link.Parser

/-!
# Streams of link bytes

What the pieces of a byte stream do to the framer of the link parser.  A piece is noise, a
stray SYNC with a wrong version, a header with an oversized length, or a frame; each lemma
reads one piece off the front of a stream and says what is left to read.  The results about
whole streams are inductions over the pieces.
-/

namespace Al1Wmod

open Transducer Framer

variable {maxPayload : ℕ}

/-- Reading a stream with a fresh framer. -/
abbrev linkRun (maxPayload : ℕ) (stream : List UInt8) : List UInt8 × List LinkOutcome :=
  run (step (linkVerdict maxPayload)) [] stream

/-- No byte is rescanned for ever. -/
theorem linkVerdict_singleton_ne_rescan (b : UInt8) (o : List LinkOutcome) :
    linkVerdict maxPayload [b] ≠ .rescan o := by
  rw [linkVerdict]
  split <;> simp

/-- A byte other than SYNC is discarded by a hunting framer. -/
theorem linkRun_cons_of_ne {b : UInt8} (hb : b ≠ al1LinkSync) (rest : List UInt8) :
    linkRun maxPayload (b :: rest) = linkRun maxPayload rest := by
  rw [linkRun, run_cons, step_of_stop (o := []) (by simp [linkVerdict, hb])]
  rfl

/-- A SYNC with a wrong version is dropped, and the byte in its place is read again. -/
theorem linkRun_badVersion {v : UInt8} (hv : v ≠ al1LinkVersion) (rest : List UInt8) :
    linkRun maxPayload (al1LinkSync :: v :: rest) =
      ((linkRun maxPayload (v :: rest)).1, .verErr :: (linkRun maxPayload (v :: rest)).2) := by
  rw [linkRun, run_cons, step_of_more (by simp [linkVerdict]), List.nil_append,
    run_of_rescan (o := [.verErr]) rest linkVerdict_singleton_ne_rescan (by simp [linkVerdict, hv])]
  rfl

/-- The first five bytes of a header are collected. -/
theorem linkRun_header (channel seq hi : UInt8) (rest : List UInt8) :
    linkRun maxPayload (al1LinkSync :: al1LinkVersion :: channel :: seq :: hi :: rest) =
      run (step (linkVerdict maxPayload)) [al1LinkSync, al1LinkVersion, channel, seq, hi] rest := by
  rw [linkRun, run_cons, step_of_more (by simp [linkVerdict]), run_cons,
    step_of_more (by simp [linkVerdict]), run_cons, step_of_more rfl, run_cons,
    step_of_more rfl, run_cons, step_of_more rfl]
  rfl

/-- A header that stops before its length is complete puts out nothing. -/
theorem linkRun_shortHeader {body : List UInt8} (hbody : body.length < 4) :
    (linkRun maxPayload (al1LinkSync :: al1LinkVersion :: body)).2 = [] := by
  rw [linkRun, run_cons, step_of_more (by simp [linkVerdict]), run_cons,
    step_of_more (by simp [linkVerdict])]
  rcases body with _ | ⟨channel, _ | ⟨seq, _ | ⟨hi, _ | ⟨lo, tail⟩⟩⟩⟩
  · rfl
  · rfl
  · rfl
  · rfl
  · simp only [List.length_cons] at hbody
    omega

/-- An oversized length drops the header, and the rest is read afresh. -/
theorem linkRun_oversized {hi lo : UInt8} (h : maxPayload < (Word16.ofBytes hi lo).toNat)
    (channel seq : UInt8) (rest : List UInt8) :
    linkRun maxPayload (al1LinkSync :: al1LinkVersion :: channel :: seq :: hi :: lo :: rest) =
      ((linkRun maxPayload rest).1, .lenErr :: (linkRun maxPayload rest).2) := by
  have hv : linkVerdict maxPayload ([al1LinkSync, al1LinkVersion, channel, seq, hi] ++ [lo]) =
      .stop [.lenErr] := (linkVerdict_body _ _ _ _ _ _ []).trans (if_pos h)
  rw [linkRun_header, run_cons, step_of_stop hv]
  rfl

section Body

variable {hi lo : UInt8} (hM : (Word16.ofBytes hi lo).toNat ≤ maxPayload)

include hM

/-- A length within the cap completes the header. -/
theorem linkRun_body (channel seq : UInt8) (rest : List UInt8) :
    linkRun maxPayload (al1LinkSync :: al1LinkVersion :: channel :: seq :: hi :: lo :: rest) =
      run (step (linkVerdict maxPayload))
        [al1LinkSync, al1LinkVersion, channel, seq, hi, lo] rest := by
  have hv : linkVerdict maxPayload ([al1LinkSync, al1LinkVersion, channel, seq, hi] ++ [lo]) =
      .more := linkVerdict_payload _ _ _ _ hM (Nat.zero_le _)
  rw [linkRun_header, run_cons, step_of_more hv]
  rfl

/-- Up to the first CRC byte, every prefix of the body wants more. -/
theorem linkVerdict_inBody (channel seq : UInt8) {l : List UInt8}
    (hl : l.length ≤ (Word16.ofBytes hi lo).toNat + 1) :
    ∀ p b q, l = p ++ b :: q →
      linkVerdict maxPayload ([al1LinkSync, al1LinkVersion, channel, seq, hi, lo] ++ p ++ [b]) =
        .more := by
  rintro p b q rfl
  rw [List.append_assoc]
  refine @linkVerdict_payload _ _ _ _ _ _ _ (p ++ [b]) hM ?_
  simp only [List.length_append, List.length_cons, List.length_nil] at hl ⊢
  omega

/-- A frame that is cut off before its second CRC byte puts out nothing. -/
theorem linkRun_incomplete (channel seq : UInt8) {tail : List UInt8}
    (ht : tail.length < (Word16.ofBytes hi lo).toNat + 2) :
    (linkRun maxPayload
      (al1LinkSync :: al1LinkVersion :: channel :: seq :: hi :: lo :: tail)).2 = [] := by
  rw [linkRun_body hM,
    run_of_more (linkVerdict_inBody hM channel seq (Nat.le_of_lt_succ ht))]

/-- **A frame on the front of a stream.**  Its payload and CRC are read to the end, the CRC
decides, and the rest is read afresh. -/
theorem linkRun_frame (channel seq : UInt8) {payload : List UInt8} (crcHi crcLo : UInt8)
    (hlen : payload.length = (Word16.ofBytes hi lo).toNat) (rest : List UInt8) :
    linkRun maxPayload (al1LinkSync :: al1LinkVersion :: channel :: seq :: hi :: lo ::
        (payload ++ crcHi :: crcLo :: rest)) =
      ((linkRun maxPayload rest).1,
        linkCheck channel seq hi lo payload crcHi crcLo :: (linkRun maxPayload rest).2) := by
  have hstop : linkVerdict maxPayload ([al1LinkSync, al1LinkVersion, channel, seq, hi, lo] ++
      (payload ++ [crcHi]) ++ [crcLo]) =
      .stop [linkCheck channel seq hi lo payload crcHi crcLo] := by
    rw [List.append_assoc, List.append_assoc]
    exact linkVerdict_end _ _ _ _ _ _ hM hlen
  have hpre := linkVerdict_inBody hM channel seq (l := payload ++ [crcHi])
    (by rw [List.length_append, List.length_singleton, hlen])
  rw [linkRun_body hM, show payload ++ crcHi :: crcLo :: rest =
    (payload ++ [crcHi]) ++ crcLo :: rest by simp, run_of_stop rest hpre hstop]
  rfl

end Body

/-- An encoded frame on the front of a stream is delivered. -/
theorem linkRun_encode {f : LinkFrame} (hf : f.Fits maxPayload) (rest : List UInt8) :
    linkRun maxPayload (f.encode ++ rest) =
      ((linkRun maxPayload rest).1, .frame f :: (linkRun maxPayload rest).2) := by
  have hlen : f.payload.length = (Word16.ofBytes (Word16.hi f.len) (Word16.lo f.len)).toNat := by
    rw [Word16.ofBytes_hi_lo, LinkFrame.toNat_len hf.2]
  have hcheck : linkCheck f.channel f.seq (Word16.hi f.len) (Word16.lo f.len) f.payload
      (Word16.hi f.crc) (Word16.lo f.crc) = .frame f := by
    rw [linkCheck, Word16.ofBytes_hi_lo]
    exact if_pos rfl
  have hframe := linkRun_frame (hlen ▸ hf.1) f.channel f.seq (Word16.hi f.crc) (Word16.lo f.crc)
    hlen rest
  rw [hcheck] at hframe
  simpa [LinkFrame.encode, LinkFrame.covered] using hframe

/-- Encoded frames one after another. -/
theorem linkRun_frames {frames : List LinkFrame} (h : ∀ f ∈ frames, f.Fits maxPayload) :
    linkRun maxPayload (frames.flatMap LinkFrame.encode) = ([], frames.map .frame) := by
  induction frames with
  | nil => rfl
  | cons f frames ih =>
    rw [List.flatMap_cons, linkRun_encode (h f List.mem_cons_self),
      ih fun g hg => h g (List.mem_cons_of_mem _ hg), List.map_cons]

/-- A parser in SYNC that is fed encoded frames in any chunks delivers them. -/
theorem al1ParserFeed_encoded (p : Al1Parser) {frames : List LinkFrame}
    (hf : ∀ f ∈ frames, f.Fits maxPayload) {chunks : List (List UInt8)}
    (hchunks : chunks.flatten = frames.flatMap LinkFrame.encode) :
    (run (al1ParserFeed maxPayload) { p with state := .sync, cb := true } chunks).2.map
      Al1FrameCall.frame = frames := by
  have h := (@al1ParserFeed_of_sync maxPayload { p with state := .sync, cb := true } rfl chunks).calls
  rw [h, if_pos rfl, hchunks]
  have hread := linkRun_frames hf
  rw [linkRun] at hread
  rw [hread, List.filterMap_map]
  exact List.filterMap_some

end Al1Wmod
