import Al1Wmod.Link.Frame
import Al1Wmod.Stream.Framer

/-!
# The byte-fed link parser

`al1_parser_init` and `al1_parser_feed`.  The parser keeps nine states, a write index, the
length, a running CRC and a payload buffer that is never cleared, so its fields hold leftovers
of earlier frames.

What it does is decided by less: by the bytes since the last SYNC.  `linkVerdict` says so as a
`Framer`, and `Represents` relates a parser to the bytes of the unfinished frame.
`al1ParserByte_step` is the one case analysis of the parser; `al1ParserFeed_framer` is the
resulting statement about every feed, and nothing later opens the parser again.
-/

namespace Al1Wmod

open Buffer Transducer Framer

/-- `al1_parse_state_t`. -/
inductive Al1ParseState where
  | sync | ver | channel | seq | lenHi | lenLo | payload | crcHi | crcLo
  deriving DecidableEq, Repr

/-- `al1_link_stats_t`. -/
structure Al1LinkStats where
  rxFrames : UInt32
  rxCrcErr : UInt32
  rxVerErr : UInt32
  rxLenErr : UInt32
  rxResync : UInt32
  txFrames : UInt32
  txDrops : UInt32
  deriving DecidableEq, Repr

/-- `al1_parser_t`.  `cb` says whether a callback is registered, and `stats` is `none` for the
null pointer. -/
structure Al1Parser where
  state : Al1ParseState
  channel : UInt8
  seq : UInt8
  len : UInt16
  idx : UInt16
  crcCalc : UInt16
  crcRx : UInt16
  payload : ℕ → UInt8
  cb : Bool
  stats : Option Al1LinkStats

/-- One invocation of `al1_frame_cb_t`: the payload is a pointer into the parser's buffer. -/
structure Al1FrameCall where
  channel : UInt8
  seq : UInt8
  payload : ℕ → UInt8
  len : UInt16

/-- The frame an invocation hands over: the first `len` bytes behind the pointer. -/
def Al1FrameCall.frame (c : Al1FrameCall) : LinkFrame :=
  ⟨c.channel, c.seq, slice c.payload 0 c.len.toNat⟩

/-- `al1_parser_init`, on a parser whose memory holds `p`. -/
def al1ParserInit (p : Al1Parser) (cb : Bool) (stats : Option Al1LinkStats) : Al1Parser :=
  { p with
    state := .sync, channel := 0, seq := 0, len := 0, idx := 0, crcCalc := 0, crcRx := 0
    cb := cb, stats := stats }

/-- A parser in SYNC with a callback and counters at zero. -/
def capturingParser : Al1Parser :=
  { state := .sync, channel := 0, seq := 0, len := 0, idx := 0, crcCalc := 0, crcRx := 0
    payload := fun _ => 0, cb := true, stats := some ⟨0, 0, 0, 0, 0, 0, 0⟩ }

/-- `parser_resync`. -/
def parserResync (p : Al1Parser) : Al1Parser :=
  { p with
    stats := p.stats.map fun s => { s with rxResync := s.rxResync + 1 }
    state := .sync }

/-- The body of the loop of `al1_parser_feed`: one byte. -/
def al1ParserByte (maxPayload : ℕ) (p : Al1Parser) (b : UInt8) :
    Al1Parser × List Al1FrameCall :=
  match p.state with
  | .sync => (if b = al1LinkSync then { p with state := .ver } else p, [])
  | .ver =>
    if b ≠ al1LinkVersion then
      -- a stray SYNC starts a new frame
      ({ p with
         stats := p.stats.map fun s => { s with rxVerErr := s.rxVerErr + 1 }
         state := if b = al1LinkSync then .ver else .sync }, [])
    else
      ({ p with crcCalc := al1Crc16CcittUpdate al1Crc16Init b, state := .channel }, [])
  | .channel =>
    ({ p with channel := b, crcCalc := al1Crc16CcittUpdate p.crcCalc b, state := .seq }, [])
  | .seq =>
    ({ p with seq := b, crcCalc := al1Crc16CcittUpdate p.crcCalc b, state := .lenHi }, [])
  | .lenHi =>
    ({ p with
       len := b.toUInt16 <<< 8
       crcCalc := al1Crc16CcittUpdate p.crcCalc b
       state := .lenLo }, [])
  | .lenLo =>
    let q := { p with len := p.len ||| b.toUInt16, crcCalc := al1Crc16CcittUpdate p.crcCalc b }
    if maxPayload < q.len.toNat then
      (parserResync { q with
        stats := q.stats.map fun s => { s with rxLenErr := s.rxLenErr + 1 } }, [])
    else
      ({ q with idx := 0, state := if q.len = 0 then .crcHi else .payload }, [])
  | .payload =>
    let q := { p with
      payload := write p.payload p.idx.toNat b
      idx := p.idx + 1
      crcCalc := al1Crc16CcittUpdate p.crcCalc b }
    (if q.len ≤ q.idx then { q with state := .crcHi } else q, [])
  | .crcHi => ({ p with crcRx := b.toUInt16 <<< 8, state := .crcLo }, [])
  | .crcLo =>
    let q := { p with crcRx := p.crcRx ||| b.toUInt16 }
    if q.crcRx = q.crcCalc then
      ({ q with
         stats := q.stats.map fun s => { s with rxFrames := s.rxFrames + 1 }
         state := .sync },
       if q.cb then [⟨q.channel, q.seq, q.payload, q.len⟩] else [])
    else
      ({ q with
         stats := q.stats.map fun s => { s with rxCrcErr := s.rxCrcErr + 1 }
         state := .sync }, [])

/-- `al1_parser_feed`. -/
def al1ParserFeed (maxPayload : ℕ) (p : Al1Parser) (data : List UInt8) :
    Al1Parser × List Al1FrameCall :=
  run (al1ParserByte maxPayload) p data

/-! ## The parser as a framer -/

/-- What can become of a frame. -/
inductive LinkOutcome where
  | frame : LinkFrame → LinkOutcome
  | crcErr
  | verErr
  | lenErr
  deriving DecidableEq, Repr

/-- The frame of an outcome that delivers one. -/
def LinkOutcome.frame? : LinkOutcome → Option LinkFrame
  | .frame f => some f
  | _ => none

/-- The counters an outcome moves.  An oversized length also counts as a resync. -/
def Al1LinkStats.count (s : Al1LinkStats) : LinkOutcome → Al1LinkStats
  | .frame _ => { s with rxFrames := s.rxFrames + 1 }
  | .crcErr => { s with rxCrcErr := s.rxCrcErr + 1 }
  | .verErr => { s with rxVerErr := s.rxVerErr + 1 }
  | .lenErr => { s with rxLenErr := s.rxLenErr + 1, rxResync := s.rxResync + 1 }

/-- The end of a frame: compare the CRC field with the CRC of `VER..PAYLOAD`. -/
def linkCheck (channel seq hi lo : UInt8) (payload : List UInt8) (crcHi crcLo : UInt8) :
    LinkOutcome :=
  if Word16.ofBytes crcHi crcLo =
      al1Crc16Ccitt (al1LinkVersion :: channel :: seq :: hi :: lo :: payload) then
    .frame ⟨channel, seq, payload⟩
  else .crcErr

/-- A frame is delivered when the CRC matches. -/
theorem frame?_linkCheck (channel seq hi lo : UInt8) (payload : List UInt8)
    (crcHi crcLo : UInt8) :
    (linkCheck channel seq hi lo payload crcHi crcLo).frame? =
      if Word16.ofBytes crcHi crcLo =
          al1Crc16Ccitt (al1LinkVersion :: channel :: seq :: hi :: lo :: payload) then
        some ⟨channel, seq, payload⟩ else none := by
  rw [linkCheck]
  split <;> rfl

/-- The verdict on the bytes from the first SYNC on. -/
def linkVerdict (maxPayload : ℕ) : List UInt8 → Verdict LinkOutcome
  | [b] => if b = al1LinkSync then .more else .stop []
  | [_, v] => if v = al1LinkVersion then .more else .rescan [.verErr]
  | _ :: _ :: channel :: seq :: hi :: lo :: rest =>
    let len := (Word16.ofBytes hi lo).toNat
    if maxPayload < len then .stop [.lenErr]
    else
      match rest.drop len with
      | [crcHi, crcLo] => .stop [linkCheck channel seq hi lo (rest.take len) crcHi crcLo]
      | _ => .more
  | _ => .more

/-- The parser after the bytes `acc` of an unfinished frame.  Fields the next bytes do not
read are left open: they may hold anything. -/
def Represents (maxPayload : ℕ) (p : Al1Parser) (acc : List UInt8) : Prop :=
  match p.state with
  | .sync => acc = []
  | .ver => acc = [al1LinkSync]
  | .channel =>
    acc = [al1LinkSync, al1LinkVersion] ∧ p.crcCalc = al1Crc16Ccitt acc.tail
  | .seq =>
    acc = [al1LinkSync, al1LinkVersion, p.channel] ∧ p.crcCalc = al1Crc16Ccitt acc.tail
  | .lenHi =>
    acc = [al1LinkSync, al1LinkVersion, p.channel, p.seq] ∧
      p.crcCalc = al1Crc16Ccitt acc.tail
  | .lenLo => ∃ hi : UInt8,
    acc = [al1LinkSync, al1LinkVersion, p.channel, p.seq, hi] ∧
      p.len = hi.toUInt16 <<< 8 ∧ p.crcCalc = al1Crc16Ccitt acc.tail
  | .payload => ∃ hi lo : UInt8,
    acc = al1LinkSync :: al1LinkVersion :: p.channel :: p.seq :: hi :: lo ::
        slice p.payload 0 p.idx.toNat ∧
      p.len = Word16.ofBytes hi lo ∧ p.len.toNat ≤ maxPayload ∧ p.idx.toNat < p.len.toNat ∧
      p.crcCalc = al1Crc16Ccitt acc.tail
  | .crcHi => ∃ hi lo : UInt8,
    acc = al1LinkSync :: al1LinkVersion :: p.channel :: p.seq :: hi :: lo ::
        slice p.payload 0 p.len.toNat ∧
      p.len = Word16.ofBytes hi lo ∧ p.len.toNat ≤ maxPayload ∧
      p.crcCalc = al1Crc16Ccitt acc.tail
  | .crcLo => ∃ hi lo c : UInt8,
    acc = al1LinkSync :: al1LinkVersion :: p.channel :: p.seq :: hi :: lo ::
        slice p.payload 0 p.len.toNat ++ [c] ∧
      p.len = Word16.ofBytes hi lo ∧ p.len.toNat ≤ maxPayload ∧
      p.crcRx = c.toUInt16 <<< 8 ∧
      p.crcCalc = al1Crc16Ccitt (al1LinkVersion :: p.channel :: p.seq :: hi :: lo ::
        slice p.payload 0 p.len.toNat)

/-- What a parser has done when its framer has reached `acc` and put out `out`. -/
structure Follows (maxPayload : ℕ) (p p' : Al1Parser) (calls : List Al1FrameCall)
    (acc : List UInt8) (out : List LinkOutcome) : Prop where
  represents : Represents maxPayload p' acc
  cb : p'.cb = p.cb
  stats : p'.stats = p.stats.map fun s => out.foldl Al1LinkStats.count s
  calls : calls.map Al1FrameCall.frame = if p.cb then out.filterMap LinkOutcome.frame? else []

/-- Steps that move no counter and make no call. -/
theorem Follows.silent {maxPayload : ℕ} {p p' : Al1Parser} {acc : List UInt8}
    (hr : Represents maxPayload p' acc) (hcb : p'.cb = p.cb) (hstats : p'.stats = p.stats) :
    Follows maxPayload p p' [] acc [] :=
  ⟨hr, hcb, by simp [hstats], by simp⟩

theorem Follows.trans {maxPayload : ℕ} {p q r : Al1Parser} {calls calls' : List Al1FrameCall}
    {acc acc' : List UInt8} {out out' : List LinkOutcome}
    (h : Follows maxPayload p q calls acc out) (h' : Follows maxPayload q r calls' acc' out') :
    Follows maxPayload p r (calls ++ calls') acc' (out ++ out') := by
  refine ⟨h'.represents, h'.cb.trans h.cb, ?_, ?_⟩
  · rw [h'.stats, h.stats, Option.map_map]
    simp [Function.comp_def, List.foldl_append]
  · rw [List.map_append, h.calls, h'.calls, h.cb]
    split <;> simp

theorem represents_nil_iff {maxPayload : ℕ} {p : Al1Parser} :
    Represents maxPayload p [] ↔ p.state = .sync := by
  unfold Represents
  cases p.state <;> simp

section Step

variable {maxPayload : ℕ} {p : Al1Parser} {acc : List UInt8}

/-- After the length field, the verdict is about the rest alone. -/
theorem linkVerdict_body (a v channel seq hi lo : UInt8) (rest : List UInt8) :
    linkVerdict maxPayload (a :: v :: channel :: seq :: hi :: lo :: rest) =
      if maxPayload < (Word16.ofBytes hi lo).toNat then .stop [.lenErr]
      else
        match rest.drop (Word16.ofBytes hi lo).toNat with
        | [crcHi, crcLo] =>
          .stop [linkCheck channel seq hi lo (rest.take (Word16.ofBytes hi lo).toNat) crcHi crcLo]
        | _ => .more := rfl

/-- Payload bytes want more. -/
theorem linkVerdict_payload {hi lo : UInt8} (a v channel seq : UInt8) {rest : List UInt8}
    (hM : (Word16.ofBytes hi lo).toNat ≤ maxPayload)
    (hrest : rest.length ≤ (Word16.ofBytes hi lo).toNat + 1) :
    linkVerdict maxPayload (a :: v :: channel :: seq :: hi :: lo :: rest) = .more := by
  rw [linkVerdict_body, if_neg (Nat.not_lt.mpr hM)]
  have hdrop : (rest.drop (Word16.ofBytes hi lo).toNat).length ≤ 1 := by
    rw [List.length_drop]
    omega
  match rest.drop (Word16.ofBytes hi lo).toNat, hdrop with
  | [], _ => rfl
  | [_], _ => rfl

/-- The second CRC byte ends the frame. -/
theorem linkVerdict_end {hi lo : UInt8} (a v channel seq crcHi crcLo : UInt8)
    {payload : List UInt8} (hM : (Word16.ofBytes hi lo).toNat ≤ maxPayload)
    (hlen : payload.length = (Word16.ofBytes hi lo).toNat) :
    linkVerdict maxPayload
        (a :: v :: channel :: seq :: hi :: lo :: (payload ++ [crcHi, crcLo])) =
      .stop [linkCheck channel seq hi lo payload crcHi crcLo] := by
  rw [linkVerdict_body, if_neg (Nat.not_lt.mpr hM), ← hlen, List.drop_left, List.take_left]

/-! ### One byte, state by state -/

/-- At the byte `b`, the parser does what its framer says. -/
abbrev InStep (maxPayload : ℕ) (p : Al1Parser) (acc : List UInt8) (b : UInt8) : Prop :=
  Follows maxPayload p (al1ParserByte maxPayload p b).1 (al1ParserByte maxPayload p b).2
    (step (linkVerdict maxPayload) acc b).1 (step (linkVerdict maxPayload) acc b).2

/-- Hunting for SYNC. -/
theorem inStep_sync (hs : p.state = .sync) (b : UInt8) : InStep maxPayload p [] b := by
  by_cases hb : b = al1LinkSync
  · rw [InStep, step_of_more (by simp [linkVerdict, hb])]
    simp only [al1ParserByte, hs, hb, if_true]
    exact Follows.silent rfl rfl rfl
  · rw [InStep, step_of_stop (o := []) (by simp [linkVerdict, hb])]
    simp only [al1ParserByte, hs, hb, if_false]
    exact Follows.silent (represents_nil_iff.mpr hs) rfl rfl

/-- Expecting VER. -/
theorem inStep_ver (hs : p.state = .ver) (b : UInt8) : InStep maxPayload p [al1LinkSync] b := by
  by_cases hb : b = al1LinkVersion
  · rw [InStep, step_of_more (by simp [linkVerdict, hb])]
    simp only [al1ParserByte, hs, hb, ne_eq, not_true_eq_false, if_false]
    refine Follows.silent ?_ rfl rfl
    exact ⟨rfl, rfl⟩
  · rw [InStep, step_of_rescan (o := [.verErr]) (by simp [linkVerdict, hb])]
    simp only [al1ParserByte, hs, ne_eq, hb, not_false_eq_true, if_true, start, linkVerdict]
    by_cases hb' : b = al1LinkSync
    · simp only [hb', if_true]
      exact ⟨rfl, rfl, by simp [Al1LinkStats.count], by simp [LinkOutcome.frame?]⟩
    · simp only [hb', if_false]
      exact ⟨rfl, rfl, by simp [Al1LinkStats.count], by simp [LinkOutcome.frame?]⟩

section Body

variable {hi lo : UInt8}

/-- The length is complete. -/
theorem inStep_lenLo (hs : p.state = .lenLo) (hlen : p.len = hi.toUInt16 <<< 8)
    (hcrc : p.crcCalc = al1Crc16Ccitt [al1LinkVersion, p.channel, p.seq, hi]) (b : UInt8) :
    InStep maxPayload p [al1LinkSync, al1LinkVersion, p.channel, p.seq, hi] b := by
  have hword : p.len ||| b.toUInt16 = Word16.ofBytes hi b := by rw [hlen]; rfl
  have hbody := @linkVerdict_body maxPayload al1LinkSync al1LinkVersion p.channel p.seq hi b []
  by_cases hM : maxPayload < (Word16.ofBytes hi b).toNat
  · rw [if_pos hM] at hbody
    rw [InStep, step_of_stop hbody]
    simp only [al1ParserByte, hs, hword, hM, if_true, parserResync]
    exact ⟨rfl, rfl, by simp [Al1LinkStats.count, Function.comp_def], by simp [LinkOutcome.frame?]⟩
  · rw [if_neg hM, List.drop_nil] at hbody
    rw [InStep, step_of_more hbody]
    simp only [al1ParserByte, hs, hword, hM, if_false]
    have hcrc' : al1Crc16CcittUpdate p.crcCalc b =
        al1Crc16Ccitt [al1LinkVersion, p.channel, p.seq, hi, b] := by
      rw [hcrc, ← al1Crc16Ccitt_snoc]
      rfl
    by_cases h0 : Word16.ofBytes hi b = 0
    · simp only [h0, if_true]
      refine Follows.silent ⟨hi, b, ?_, h0.symm, Nat.zero_le _, hcrc'⟩ rfl rfl
      rfl
    · simp only [h0, if_false]
      refine Follows.silent ⟨hi, b, rfl, rfl, Nat.not_lt.mp hM, ?_, hcrc'⟩ rfl rfl
      exact Nat.pos_of_ne_zero fun h => h0 (UInt16.toNat_inj.mp h)

variable (hlen : p.len = Word16.ofBytes hi lo) (hM : p.len.toNat ≤ maxPayload)

include hlen hM

/-- One payload byte.  The index cannot wrap, because it stays below the length. -/
theorem inStep_payload (hs : p.state = .payload) (hidx : p.idx.toNat < p.len.toNat)
    (hcrc : p.crcCalc = al1Crc16Ccitt (al1LinkVersion :: p.channel :: p.seq :: hi :: lo ::
      slice p.payload 0 p.idx.toNat)) (b : UInt8) :
    InStep maxPayload p (al1LinkSync :: al1LinkVersion :: p.channel :: p.seq :: hi :: lo ::
      slice p.payload 0 p.idx.toNat) b := by
  have hlt : p.len.toNat < 65536 := p.len.toNat_lt
  have hsucc : (p.idx + 1).toNat = p.idx.toNat + 1 := by
    rw [UInt16.toNat_add, show (1 : UInt16).toNat = 1 from rfl]
    omega
  have hslice : slice (write p.payload p.idx.toNat b) 0 (p.idx.toNat + 1) =
      slice p.payload 0 p.idx.toNat ++ [b] := by
    simpa using slice_write_last p.payload 0 p.idx.toNat b
  have hcrc' : al1Crc16CcittUpdate p.crcCalc b = al1Crc16Ccitt
      (al1LinkVersion :: p.channel :: p.seq :: hi :: lo ::
        (slice p.payload 0 p.idx.toNat ++ [b])) := by
    rw [hcrc, ← al1Crc16Ccitt_snoc]
    rfl
  have hv : linkVerdict maxPayload (al1LinkSync :: al1LinkVersion :: p.channel :: p.seq ::
      hi :: lo :: (slice p.payload 0 p.idx.toNat ++ [b])) = .more :=
    linkVerdict_payload _ _ _ _ (hlen ▸ hM)
      (by rw [List.length_append, length_slice, ← hlen, List.length_singleton]; omega)
  rw [InStep, step_of_more hv]
  simp only [al1ParserByte, hs]
  by_cases hend : p.len ≤ p.idx + 1
  · have hfull : p.len.toNat = p.idx.toNat + 1 := by
      have := UInt16.le_iff_toNat_le.mp hend
      omega
    simp only [hend, if_true]
    refine Follows.silent ⟨hi, lo, ?_, hlen, hM, ?_⟩ rfl rfl
    · rw [hfull, hslice]
      rfl
    · exact hcrc'
  · have hmore : p.idx.toNat + 1 < p.len.toNat := by
      have := mt UInt16.le_iff_toNat_le.mpr hend
      omega
    simp only [hend, if_false]
    refine Follows.silent ⟨hi, lo, ?_, hlen, hM, ?_, hcrc'⟩ rfl rfl
    · rw [hsucc, hslice]
      rfl
    · rw [hsucc]
      exact hmore

variable (hcrc : p.crcCalc = al1Crc16Ccitt (al1LinkVersion :: p.channel :: p.seq :: hi :: lo ::
  slice p.payload 0 p.len.toNat))

include hcrc

/-- The first CRC byte. -/
theorem inStep_crcHi (hs : p.state = .crcHi) (b : UInt8) :
    InStep maxPayload p (al1LinkSync :: al1LinkVersion :: p.channel :: p.seq :: hi :: lo ::
      slice p.payload 0 p.len.toNat) b := by
  have hv : linkVerdict maxPayload (al1LinkSync :: al1LinkVersion :: p.channel :: p.seq ::
      hi :: lo :: (slice p.payload 0 p.len.toNat ++ [b])) = .more :=
    linkVerdict_payload _ _ _ _ (hlen ▸ hM)
      (by rw [List.length_append, length_slice, ← hlen, List.length_singleton])
  rw [InStep, step_of_more hv]
  simp only [al1ParserByte, hs]
  exact Follows.silent ⟨hi, lo, b, rfl, hlen, hM, rfl, hcrc⟩ rfl rfl

/-- The second CRC byte ends the frame. -/
theorem inStep_crcLo (hs : p.state = .crcLo) {c : UInt8} (hrx : p.crcRx = c.toUInt16 <<< 8)
    (b : UInt8) :
    InStep maxPayload p (al1LinkSync :: al1LinkVersion :: p.channel :: p.seq :: hi :: lo ::
      slice p.payload 0 p.len.toNat ++ [c]) b := by
  have hv : linkVerdict maxPayload (al1LinkSync :: al1LinkVersion :: p.channel :: p.seq ::
      hi :: lo :: (slice p.payload 0 p.len.toNat ++ [c] ++ [b])) =
      .stop [linkCheck p.channel p.seq hi lo (slice p.payload 0 p.len.toNat) c b] := by
    rw [List.append_assoc]
    exact linkVerdict_end _ _ _ _ _ _ (hlen ▸ hM) (by rw [length_slice, hlen])
  have hword : p.crcRx ||| b.toUInt16 = Word16.ofBytes c b := by rw [hrx]; rfl
  rw [InStep, step_of_stop hv]
  simp only [al1ParserByte, hs, hword, linkCheck, ← hcrc]
  by_cases hok : Word16.ofBytes c b = p.crcCalc
  · simp only [hok, if_true]
    refine ⟨rfl, rfl, by simp [Al1LinkStats.count], ?_⟩
    cases p.cb <;> simp [LinkOutcome.frame?, Al1FrameCall.frame]
  · simp only [hok, if_false]
    exact ⟨rfl, rfl, by simp [Al1LinkStats.count], by simp [LinkOutcome.frame?]⟩

end Body

/-- **One byte.**  The parser is in lock step with its framer. -/
theorem al1ParserByte_step (h : Represents maxPayload p acc) (b : UInt8) :
    InStep maxPayload p acc b := by
  unfold Represents at h
  split at h
  case h_1 hs => exact h ▸ inStep_sync hs b
  case h_2 hs => exact h ▸ inStep_ver hs b
  -- CHANNEL, SEQ and LEN_HI are stored
  case h_3 hs | h_4 hs =>
    obtain ⟨rfl, hcrc⟩ := h
    rw [InStep, step_of_more rfl]
    simp only [al1ParserByte, hs]
    refine Follows.silent ?_ rfl rfl
    exact ⟨rfl, by rw [hcrc, ← al1Crc16Ccitt_snoc]; rfl⟩
  case h_5 hs =>
    obtain ⟨rfl, hcrc⟩ := h
    rw [InStep, step_of_more rfl]
    simp only [al1ParserByte, hs]
    refine Follows.silent ?_ rfl rfl
    exact ⟨b, rfl, rfl, by rw [hcrc, ← al1Crc16Ccitt_snoc]; rfl⟩
  case h_6 hs =>
    obtain ⟨hi, rfl, hlen, hcrc⟩ := h
    exact inStep_lenLo hs hlen hcrc b
  case h_7 hs =>
    obtain ⟨hi, lo, rfl, hlen, hM, hidx, hcrc⟩ := h
    exact inStep_payload hlen hM hs hidx hcrc b
  case h_8 hs =>
    obtain ⟨hi, lo, rfl, hlen, hM, hcrc⟩ := h
    exact inStep_crcHi hlen hM hcrc hs b
  case h_9 hs =>
    obtain ⟨hi, lo, c, rfl, hlen, hM, hrx, hcrc⟩ := h
    exact inStep_crcLo hlen hM hcrc hs hrx b

/-- **Every feed.**  Fed any bytes, a parser does what its framer says. -/
theorem al1ParserFeed_framer (h : Represents maxPayload p acc) (data : List UInt8) :
    Follows maxPayload p (al1ParserFeed maxPayload p data).1 (al1ParserFeed maxPayload p data).2
      (run (step (linkVerdict maxPayload)) acc data).1
      (run (step (linkVerdict maxPayload)) acc data).2 := by
  induction data generalizing p acc with
  | nil => exact Follows.silent h rfl rfl
  | cons b data ih =>
    have hstep := al1ParserByte_step h b
    exact hstep.trans (ih hstep.represents)

/-- **Any chunks.**  A parser in SYNC starts a framer afresh, whatever its other fields hold and
however the stream is cut. -/
theorem al1ParserFeed_of_sync (h : p.state = .sync) (chunks : List (List UInt8)) :
    Follows maxPayload p (run (al1ParserFeed maxPayload) p chunks).1
      (run (al1ParserFeed maxPayload) p chunks).2
      (run (step (linkVerdict maxPayload)) [] chunks.flatten).1
      (run (step (linkVerdict maxPayload)) [] chunks.flatten).2 := by
  have hrun : run (al1ParserFeed maxPayload) p chunks = al1ParserFeed maxPayload p chunks.flatten :=
    run_flatten _ _ chunks
  rw [hrun]
  exact al1ParserFeed_framer (represents_nil_iff.mpr h) chunks.flatten

end Step

end Al1Wmod
