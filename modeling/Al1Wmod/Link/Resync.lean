import Al1Wmod.Link.Stream

/-!
# Resynchronisation

After any input, how long does it take the link parser to be in SYNC again?  `resyncRank` counts the
bytes it may still want: at worst it has just seen a SYNC, and wants VER, CHANNEL, SEQ, two bytes of
LEN, the longest payload and two bytes of CRC.  Every byte but a SYNC takes at least one off, so
`M + 7` such bytes bring the parser back, whatever it was doing; and only the last byte of a frame
makes a callback.

The longest frame is as long as that, so the bound cannot be improved.
-/

namespace Al1Wmod

open Transducer Framer

/-- In PAYLOAD the index is below the length, and the length within the cap. -/
def InBounds (maxPayload : ℕ) (p : Al1Parser) : Prop :=
  p.state = .payload → p.idx.toNat < p.len.toNat ∧ p.len.toNat ≤ maxPayload

/-- The number of bytes that a parser may want before it is in SYNC again. -/
def resyncRank (maxPayload : ℕ) (p : Al1Parser) : ℕ :=
  match p.state with
  | .sync => 0
  | .ver => maxPayload + 7
  | .channel => maxPayload + 6
  | .seq => maxPayload + 5
  | .lenHi => maxPayload + 4
  | .lenLo => maxPayload + 3
  | .payload => p.len.toNat - p.idx.toNat + 2
  | .crcHi => 2
  | .crcLo => 1

variable {maxPayload : ℕ} {p : Al1Parser}

theorem resyncRank_eq_zero_iff : resyncRank maxPayload p = 0 ↔ p.state = .sync := by
  unfold resyncRank
  cases p.state <;> simp

theorem InBounds.resyncRank_le (h : InBounds maxPayload p) :
    resyncRank maxPayload p ≤ maxPayload + 7 := by
  unfold resyncRank
  split
  case h_7 hs =>
    have hlen := (h hs).2
    omega
  all_goals omega

/-- What a byte does to the bounds and the rank. -/
structure Descends (maxPayload : ℕ) (p : Al1Parser) (b : UInt8) (p' : Al1Parser)
    (calls : List Al1FrameCall) : Prop where
  inBounds : InBounds maxPayload p'
  rank : b ≠ al1LinkSync → resyncRank maxPayload p' ≤ resyncRank maxPayload p - 1
  quiet : resyncRank maxPayload p = 0 → calls = []
  last : calls ≠ [] → calls.length = 1 ∧ resyncRank maxPayload p' = 0

/-- A byte that makes no callback and does not lead into PAYLOAD. -/
theorem Descends.silent {b : UInt8} {p' : Al1Parser} (hs : p'.state ≠ .payload)
    (hrank : b ≠ al1LinkSync → resyncRank maxPayload p' ≤ resyncRank maxPayload p - 1) :
    Descends maxPayload p b p' [] :=
  ⟨fun h => absurd h hs, hrank, fun _ => rfl, fun h => absurd rfl h⟩

/-- A byte in LEN_LO. -/
theorem Descends.lenLo (hs : p.state = .lenLo) (b : UInt8) :
    Descends maxPayload p b (al1ParserByte maxPayload p b).1 (al1ParserByte maxPayload p b).2 := by
  simp only [al1ParserByte, hs]
  by_cases hM : maxPayload < (p.len ||| b.toUInt16).toNat
  · rw [if_pos hM]
    exact .silent (by simp [parserResync]) fun _ => by simp [resyncRank, parserResync]
  · rw [if_neg hM]
    by_cases hzero : p.len ||| b.toUInt16 = 0
    · simp only [if_pos hzero]
      exact .silent (by simp) fun _ => by simp [resyncRank, hs]
    · simp only [if_neg hzero]
      have hpos : 0 < (p.len ||| b.toUInt16).toNat :=
        Nat.pos_of_ne_zero fun h => hzero (UInt16.toNat_inj.mp h)
      refine ⟨fun _ => ⟨hpos, Nat.not_lt.mp hM⟩, fun _ => ?_, fun _ => rfl, fun h => absurd rfl h⟩
      simp only [resyncRank, hs, UInt16.toNat_zero]
      omega

/-- A byte in PAYLOAD. -/
theorem InBounds.payload (h : InBounds maxPayload p) (hs : p.state = .payload) (b : UInt8) :
    Descends maxPayload p b (al1ParserByte maxPayload p b).1 (al1ParserByte maxPayload p b).2 := by
  simp only [al1ParserByte, hs]
  obtain ⟨hidx, hlen⟩ := h hs
  have hnext : (p.idx + 1).toNat = p.idx.toNat + 1 := by
    have := p.len.toNat_lt
    rw [UInt16.toNat_add, UInt16.toNat_one]
    omega
  by_cases hend : p.len ≤ p.idx + 1
  · rw [if_pos hend]
    refine .silent (by simp) fun _ => ?_
    simp only [resyncRank, hs]
    omega
  · rw [if_neg hend]
    have hlt : p.idx.toNat + 1 < p.len.toNat := by
      rw [← hnext]
      exact Nat.not_le.mp hend
    refine ⟨fun _ => ⟨?_, hlen⟩, fun _ => ?_, fun _ => rfl, fun h => absurd rfl h⟩
    · show (p.idx + 1).toNat < p.len.toNat
      omega
    · simp only [resyncRank, hs, hnext]
      omega

/-- A byte in CRC_LO. -/
theorem Descends.crcLo (hs : p.state = .crcLo) (b : UInt8) :
    Descends maxPayload p b (al1ParserByte maxPayload p b).1 (al1ParserByte maxPayload p b).2 := by
  simp only [al1ParserByte, hs]
  have hsync : ∀ q : Al1Parser, q.state = .sync → resyncRank maxPayload q = 0 := fun q hq =>
    resyncRank_eq_zero_iff.mpr hq
  by_cases hcrc : p.crcRx ||| b.toUInt16 = p.crcCalc
  · rw [if_pos hcrc]
    refine ⟨fun h => Al1ParseState.noConfusion h, fun _ => ?_, fun h => ?_, fun h => ⟨?_, ?_⟩⟩
    · rw [hsync _ rfl]
      exact Nat.zero_le _
    · simp [resyncRank, hs] at h
    · cases hcb : p.cb with
      | false => simp [hcb] at h
      | true => rfl
    · exact hsync _ rfl
  · rw [if_neg hcrc]
    exact .silent (by simp) fun _ => by simp [resyncRank]

/-- **One byte.** -/
theorem InBounds.byte (h : InBounds maxPayload p) (b : UInt8) :
    Descends maxPayload p b (al1ParserByte maxPayload p b).1 (al1ParserByte maxPayload p b).2 := by
  cases hs : p.state with
  | sync =>
    simp only [al1ParserByte, hs]
    by_cases hb : b = al1LinkSync
    · rw [if_pos hb]
      exact .silent (by simp) fun hb' => absurd hb hb'
    · rw [if_neg hb]
      exact .silent (by simp [hs]) fun _ => by simp [resyncRank, hs]
  | ver =>
    simp only [al1ParserByte, hs]
    by_cases hv : b ≠ al1LinkVersion
    · rw [if_pos hv]
      by_cases hb : b = al1LinkSync
      · simp only [if_pos hb]
        exact .silent (by simp) fun hb' => absurd hb hb'
      · simp only [if_neg hb]
        exact .silent (by simp) fun _ => by simp [resyncRank]
    · rw [if_neg hv]
      exact .silent (by simp) fun _ => by simp [resyncRank, hs]
  | channel | seq | lenHi | crcHi =>
    simp only [al1ParserByte, hs]
    exact .silent (by simp) fun _ => by simp [resyncRank, hs]
  | lenLo => exact .lenLo hs b
  | payload => exact h.payload hs b
  | crcLo => exact .crcLo hs b

/-- Every feed keeps the bounds. -/
theorem InBounds.feed (h : InBounds maxPayload p) (chunks : List (List UInt8)) :
    InBounds maxPayload (run (al1ParserFeed maxPayload) p chunks).1 := by
  have hbytes : ∀ l, InBounds maxPayload (run (al1ParserByte maxPayload) p l).1 := by
    intro l
    induction l generalizing p with
    | nil => exact h
    | cons b l ih => exact ih (h.byte b).inBounds
  have hrun : run (al1ParserFeed maxPayload) p chunks = al1ParserFeed maxPayload p chunks.flatten :=
    run_flatten _ _ chunks
  rw [hrun]
  exact hbytes chunks.flatten

/-- **Bytes without a SYNC** run the parser down to SYNC, with one callback at most. -/
theorem InBounds.quiet (h : InBounds maxPayload p) {noise : List (List UInt8)}
    (hnoise : ∀ b ∈ noise.flatten, b ≠ al1LinkSync)
    (hlen : maxPayload + 7 ≤ noise.flatten.length) :
    (run (al1ParserFeed maxPayload) p noise).1.state = .sync ∧
      (run (al1ParserFeed maxPayload) p noise).2.length ≤ 1 := by
  have hrun : run (al1ParserFeed maxPayload) p noise = al1ParserFeed maxPayload p noise.flatten :=
    run_flatten _ _ noise
  have hP : ∀ (q : Al1Parser) b, InBounds maxPayload q → b ≠ al1LinkSync →
      InBounds maxPayload (al1ParserByte maxPayload q b).1 := fun q b hq _ => (hq.byte b).inBounds
  have hstep : ∀ (q : Al1Parser) b, InBounds maxPayload q → b ≠ al1LinkSync →
      resyncRank maxPayload (al1ParserByte maxPayload q b).1 ≤ resyncRank maxPayload q - 1 :=
    fun q b hq hb => (hq.byte b).rank hb
  have hrank := rank_run hP hstep h hnoise
  have hcalls := length_run_out_le_one hP hstep (fun q b hq _ => (hq.byte b).quiet)
    (fun q b hq _ => (hq.byte b).last) h hnoise
  rw [hrun]
  refine ⟨resyncRank_eq_zero_iff.mp (Nat.le_zero.mp (hrank.trans ?_)), hcalls⟩
  have hle := h.resyncRank_le
  omega

/-- After any input, this many bytes without a SYNC bring the parser back to SYNC, with one callback
at most; and then a frame is delivered once, as it was sent. -/
def ResyncsWithin (maxPayload n : ℕ) : Prop :=
  ∀ (p₀ : Al1Parser) (stats : Option Al1LinkStats) (input noise : List (List UInt8)),
    (∀ b ∈ noise.flatten, b ≠ al1LinkSync) → n ≤ noise.flatten.length →
    let p := (run (al1ParserFeed maxPayload) (al1ParserInit p₀ true stats) input).1
    let r := run (al1ParserFeed maxPayload) p noise
    r.1.state = .sync ∧ r.2.length ≤ 1 ∧
      ∀ f : LinkFrame, f.Fits maxPayload → ∀ chunks : List (List UInt8),
        chunks.flatten = f.build maxPayload →
        (run (al1ParserFeed maxPayload) r.1 chunks).2.map Al1FrameCall.frame = [f]

/-- A parser in SYNC delivers a frame. -/
theorem al1ParserFeed_build (hsync : p.state = .sync) (hcb : p.cb = true) {f : LinkFrame}
    (hf : f.Fits maxPayload) {chunks : List (List UInt8)}
    (hchunks : chunks.flatten = f.build maxPayload) :
    (run (al1ParserFeed maxPayload) p chunks).2.map Al1FrameCall.frame = [f] := by
  have hp : { p with state := .sync, cb := true } = p := by rw [← hsync, ← hcb]
  have hone : chunks.flatten = [f].flatMap LinkFrame.encode := by
    rw [List.flatMap_singleton, hchunks, LinkFrame.build_eq hf]
  have hfits : ∀ g ∈ [f], g.Fits maxPayload := by simpa using hf
  have hdelivered := al1ParserFeed_encoded p hfits hone
  rw [hp] at hdelivered
  exact hdelivered

/-- **Resynchronisation is bounded.** -/
theorem resyncsWithin_add_seven (maxPayload : ℕ) : ResyncsWithin maxPayload (maxPayload + 7) := by
  intro p₀ stats input noise hnoise hlen p r
  have hinit : InBounds maxPayload (al1ParserInit p₀ true stats) :=
    fun h => Al1ParseState.noConfusion h
  obtain ⟨hsync, hcalls⟩ := (hinit.feed input).quiet hnoise hlen
  have hcb := (@al1ParserFeed_of_sync maxPayload (al1ParserInit p₀ true stats) rfl
    (input ++ noise)).cb
  rw [run_append] at hcb
  exact ⟨hsync, hcalls, fun f hf chunks hchunks => al1ParserFeed_build hsync hcb hf hchunks⟩

/-! ## The longest frame -/

/-- Before the second CRC byte the parser is not in SYNC. -/
theorem state_ne_sync_of_incomplete (hsync : p.state = .sync) {hi lo : UInt8}
    (hM : (Word16.ofBytes hi lo).toNat ≤ maxPayload) (channel seq : UInt8) {tail : List UInt8}
    (htail : tail.length ≤ (Word16.ofBytes hi lo).toNat + 1) :
    (run (al1ParserFeed maxPayload) p
      [[al1LinkSync], al1LinkVersion :: channel :: seq :: hi :: lo :: tail]).1.state ≠ .sync := by
  have hread := linkRun_body hM channel seq tail
  rw [run_of_more (linkVerdict_inBody hM channel seq htail)] at hread
  have hrep := (@al1ParserFeed_of_sync maxPayload p hsync
    [[al1LinkSync], al1LinkVersion :: channel :: seq :: hi :: lo :: tail]).represents
  have hflat : [[al1LinkSync], al1LinkVersion :: channel :: seq :: hi :: lo :: tail].flatten =
      al1LinkSync :: al1LinkVersion :: channel :: seq :: hi :: lo :: tail := by simp
  rw [hflat, ← linkRun, hread] at hrep
  intro hs
  unfold Represents at hrep
  rw [hs] at hrep
  exact absurd hrep (List.cons_ne_nil _ _)

/-- **Bounded resynchronisation.**  For every cap `M`, `M + 7` bytes without a SYNC are enough, after
any input.  For `M = 4096` there is an input after which some 4102 such bytes are not: a SYNC, and
then the longest frame up to its last byte. -/
theorem bounded_resync : (∀ maxPayload, ResyncsWithin maxPayload (maxPayload + 7)) ∧
    ∀ (p₀ : Al1Parser) (stats : Option Al1LinkStats), ∃ input noise : List (List UInt8),
      (∀ b ∈ noise.flatten, b ≠ al1LinkSync) ∧ noise.flatten.length = 4102 ∧
        (run (al1ParserFeed 4096) (run (al1ParserFeed 4096) (al1ParserInit p₀ true stats) input).1
          noise).1.state ≠ .sync := by
  refine ⟨resyncsWithin_add_seven, fun p₀ stats => ?_⟩
  obtain ⟨tail, hlen, hzero⟩ : ∃ tail : List UInt8, tail.length = 4097 ∧ ∀ b ∈ tail, b = 0 :=
    ⟨List.replicate 4097 0, List.length_replicate, fun b hb => List.eq_of_mem_replicate hb⟩
  have hword : (Word16.ofBytes 0x10 0x00).toNat = 4096 := by decide
  refine ⟨[[al1LinkSync]], [al1LinkVersion :: 0 :: 0 :: 0x10 :: 0x00 :: tail], ?_, ?_, ?_⟩
  · intro b hb
    rw [List.flatten_singleton] at hb
    simp only [List.mem_cons] at hb
    rcases hb with rfl | rfl | rfl | rfl | rfl | hb
    case inr.inr.inr.inr.inr =>
      rw [hzero b hb]
      decide
    all_goals decide
  · rw [List.flatten_singleton]
    simp only [List.length_cons, hlen]
  · exact state_ne_sync_of_incomplete rfl hword.le 0 0 (by omega)

end Al1Wmod
