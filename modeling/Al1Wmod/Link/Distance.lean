import Al1Wmod.Link.Detection
import Al1Wmod.Stream.Distance

/-!
# How many flipped bits a frame can hide

The parser rejects a frame with flipped bits exactly if their syndrome is not zero.  In a frame with
a payload it takes four flipped bits to pass for a frame, because the polynomial has four terms; in
one of 4090 bytes and more there is room for two that are 32767 places apart.

An empty frame has no seventeen places in a row that may be flipped: LEN lies between SEQ and CRC.
There an error in CHANNEL and SEQ leaves a remainder, and the only bits of the CRC that cancel it
are those of the remainder.  No error of up to three bits has a remainder that makes four with it,
so it takes six.
-/

namespace Al1Wmod

open ShiftRegister

/-- The top bit is fed back to three bits. -/
theorem card_support_crcPoly : (crcCyclic.support ((crcShift ^ 16) crcUnit)).card = 3 := by
  rw [crcShift_pow_sixteen]
  decide +kernel

/-- The sizes of the sets of bits in CHANNEL, SEQ, PAYLOAD and CRC whose flipping is not detected. -/
def LinkFrame.hidden (maxPayload : ℕ) (f : LinkFrame) : Set ℕ :=
  {m | ∃ S : Finset ℕ, S.Nonempty ∧ (∀ i ∈ S, f.ErrorBit i) ∧
    ¬ Rejected maxPayload (f.flipped maxPayload S) ∧ S.card = m}

section Hidden

variable {maxPayload : ℕ} {f : LinkFrame}

/-- They are the sizes of the patterns with syndrome zero. -/
theorem LinkFrame.hidden_eq (hf : f.Fits maxPayload) : f.hidden maxPayload =
    unnoticedSizes crcShift crcUnit (8 * f.checked.length + 15) f.ErrorBit := by
  ext m
  refine exists_congr fun S => and_congr_right fun _ => and_congr_right fun hS => ?_
  rw [rejected_iff hf hS, not_not]
  exact Iff.rfl

theorem LinkFrame.ErrorBit.le {i : ℕ} (h : f.ErrorBit i) : i ≤ 8 * f.checked.length + 15 :=
  h.lt.le.trans (Nat.le_add_right _ 15)

/-- Two bits are enough if there is room for a distance of 32767. -/
theorem LinkFrame.isLeast_hidden_two (hf : f.Fits maxPayload) (h : 4090 ≤ f.payload.length) :
    IsLeast (f.hidden maxPayload) 2 := by
  have hi : f.ErrorBit 8 := Or.inl (by decide)
  have hj : f.ErrorBit 32775 := Or.inr ⟨by omega, by omega⟩
  rw [LinkFrame.hidden_eq hf]
  refine crcCyclic.isLeast_two weight_crcPoly crcShift_injective hi hj (by omega) hj.le ?_
  rw [orderOf_crcShift]

/-- Without that room they are not. -/
theorem LinkFrame.two_notMem (h : f.payload.length < 4090) :
    2 ∉ unnoticedSizes crcShift crcUnit (8 * f.checked.length + 15) f.ErrorBit := by
  refine crcCyclic.two_notMem_unnoticedSizes crcShift_injective (fun _ hi => hi.le) ?_
  intro i j hi hj hij hdvd
  rw [orderOf_crcShift] at hdvd
  have hle := Nat.le_of_dvd (by omega) hdvd
  unfold LinkFrame.ErrorBit at hi hj
  omega

/-- With a payload there are seventeen places in a row. -/
theorem LinkFrame.isLeast_hidden_four (hf : f.Fits maxPayload) (hpos : 0 < f.payload.length)
    (h : f.payload.length < 4090) : IsLeast (f.hidden maxPayload) 4 := by
  have hroom : 40 + 16 ≤ 8 * f.checked.length + 15 := by
    rw [f.length_checked]
    omega
  rw [LinkFrame.hidden_eq hf]
  exact crcCyclic.isLeast_four weight_crcPoly (LinkFrame.two_notMem h) card_support_crcPoly hroom
    fun i hlo hhi => Or.inr ⟨hlo, by omega⟩

/-! ## The empty frame -/

/-- An error of up to three bits in CHANNEL and SEQ does not make four with its remainder. -/
theorem remainder_card : ∀ m < 4, ∀ T ∈ (Finset.Ico 32 48).powersetCard m,
    (crcCyclic.support (∑ j ∈ T, (crcShift ^ j) crcUnit)).card + m ≠ 4 := by
  decide +kernel

/-- An error that is not detected has in the CRC the remainder of the rest. -/
theorem card_remainder (hnil : f.payload.length = 0) {S : Finset ℕ} (hS : ∀ i ∈ S, f.ErrorBit i)
    (hzero : syndrome crcShift crcUnit (8 * f.checked.length + 15) S = 0) :
    let T := (S.filter (· < 24)).image (55 - ·)
    T ⊆ Finset.Ico 32 48 ∧ T.card = (S.filter (· < 24)).card ∧
      (crcCyclic.support (∑ j ∈ T, (crcShift ^ j) crcUnit)).card + T.card = S.card := by
  intro T
  have hplaces : ∀ i ∈ S, (8 ≤ i ∧ i < 24) ∨ (40 ≤ i ∧ i < 56) := by
    intro i hi
    have hbit := hS i hi
    unfold LinkFrame.ErrorBit at hbit
    omega
  have hinj : ∀ R ⊆ S, (R.image (55 - ·)).card = R.card := by
    intro R hR
    refine Finset.card_image_of_injOn fun i hi j hj hij => ?_
    have hi' := hplaces i (hR hi)
    have hj' := hplaces j (hR hj)
    have hij' : 55 - i = 55 - j := hij
    omega
  set B := S.filter fun i => ¬ i < 24
  set U := B.image (55 - ·)
  have hU : ∀ j ∈ U, j < 16 := by
    intro j hj
    obtain ⟨i, hi, rfl⟩ := Finset.mem_image.mp hj
    obtain ⟨hi, hlt⟩ := Finset.mem_filter.mp hi
    have hi' := hplaces i hi
    show 55 - i < 16
    omega
  have hle : ∀ R ⊆ S, ∀ i ∈ R, i ≤ 55 := by
    intro R hR i hi
    have hi' := hplaces i (hR hi)
    omega
  -- the two parts leave the same
  have hsame : ∑ j ∈ T, (crcShift ^ j) crcUnit = ∑ j ∈ U, (crcShift ^ j) crcUnit := by
    have hn : 55 ≤ 8 * f.checked.length + 15 := by
      rw [f.length_checked]
      omega
    have hsplit : syndrome crcShift crcUnit (8 * f.checked.length + 15) (S.filter (· < 24)) +
        syndrome crcShift crcUnit (8 * f.checked.length + 15) B = 0 :=
      (Finset.sum_filter_add_sum_filter_not S (· < 24) _).trans hzero
    rw [crcCyclic.add_eq_zero_iff, syndrome_eq_pow crcShift crcUnit hn (hle _ (S.filter_subset _)),
      syndrome_eq_pow crcShift crcUnit hn (hle _ (S.filter_subset _))] at hsplit
    exact pow_injective crcShift crcShift_injective _ hsplit
  refine ⟨?_, hinj _ (S.filter_subset _), ?_⟩
  · intro j hj
    obtain ⟨i, hi, rfl⟩ := Finset.mem_image.mp hj
    obtain ⟨hi, hlt⟩ := Finset.mem_filter.mp hi
    have hi' := hplaces i hi
    rw [Finset.mem_Ico]
    omega
  · rw [hsame, crcCyclic.support_sum hU, hinj _ (S.filter_subset _), hinj _ (S.filter_subset _),
      add_comm]
    exact Finset.card_filter_add_card_filter_not (· < 24)

/-- Four bits are not enough. -/
theorem LinkFrame.four_notMem (hnil : f.payload.length = 0) :
    4 ∉ unnoticedSizes crcShift crcUnit (8 * f.checked.length + 15) f.ErrorBit := by
  rintro ⟨S, hne, hS, hzero, hcard⟩
  obtain ⟨hT, hTcard, hsum⟩ := card_remainder hnil hS hzero
  by_cases hall : (S.filter (· < 24)).card < 4
  · refine remainder_card _ hall _ (Finset.mem_powersetCard.mpr ⟨hT, hTcard⟩) ?_
    rw [← hTcard, hsum, hcard]
  · -- all four bits lie in CHANNEL and SEQ
    have hfilter : S.filter (· < 24) = S :=
      Finset.eq_of_subset_of_card_le (S.filter_subset _) (by omega)
    refine crcCyclic.syndrome_ne_zero_of_window (k := 8) crcShift_injective hne (fun i hi => ?_)
      (fun i hi => (hS i hi).le) hzero
    rw [← hfilter] at hi
    obtain ⟨hi, hlt⟩ := Finset.mem_filter.mp hi
    have hbit := hS i hi
    unfold LinkFrame.ErrorBit at hbit
    omega

/-- Six bits are. -/
theorem LinkFrame.isLeast_hidden_six (hf : f.Fits maxPayload) (hnil : f.payload.length = 0) :
    IsLeast (f.hidden maxPayload) 6 := by
  have hlen : 8 * f.checked.length + 15 = 71 := by
    rw [f.length_checked, hnil]
  rw [LinkFrame.hidden_eq hf]
  refine ⟨⟨{8, 9, 14, 17, 19, 54}, by decide, ?_, ?_, by decide⟩, fun m hm => ?_⟩
  · have hbits : ∀ i ∈ ({8, 9, 14, 17, 19, 54} : Finset ℕ),
        (8 ≤ i ∧ i < 24) ∨ (40 ≤ i ∧ i < 8 * 7) := by decide
    intro i hi
    have hbit := hbits i hi
    rw [LinkFrame.ErrorBit, hnil]
    exact hbit
  · rw [hlen]
    decide +kernel
  · obtain ⟨⟨r, hr⟩, hle⟩ := crcCyclic.even_of_mem_unnoticedSizes weight_crcPoly hm
    have htwo : m ≠ 2 := fun h => LinkFrame.two_notMem (by omega) (h ▸ hm)
    have hfour : m ≠ 4 := fun h => LinkFrame.four_notMem hnil (h ▸ hm)
    omega

end Hidden

/-- **The fewest flipped bits that pass for a frame**: six in an empty frame, two in one of 4090 bytes
and more, and four in all others. -/
theorem fewest_hidden {f : LinkFrame} (hf : f.Fits al1LinkMaxPayload) :
    IsLeast (f.hidden al1LinkMaxPayload)
      (if f.payload.length = 0 then 6 else if f.payload.length < 4090 then 4 else 2) := by
  split_ifs with hnil hlong
  · exact LinkFrame.isLeast_hidden_six hf hnil
  · exact LinkFrame.isLeast_hidden_four hf (Nat.pos_of_ne_zero hnil) hlong
  · exact LinkFrame.isLeast_hidden_two hf (Nat.not_lt.mp hlong)

/-- An empty frame, and one with a byte. -/
theorem fewest_hidden_small : IsLeast (LinkFrame.hidden al1LinkMaxPayload ⟨1, 0, []⟩) 6 ∧
    IsLeast (LinkFrame.hidden al1LinkMaxPayload ⟨2, 7, [0xA5]⟩) 4 :=
  ⟨fewest_hidden (f := ⟨1, 0, []⟩) (by decide), fewest_hidden (f := ⟨2, 7, [0xA5]⟩) (by decide)⟩

end Al1Wmod
