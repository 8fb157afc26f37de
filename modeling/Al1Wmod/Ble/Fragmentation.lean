import Al1Wmod.Ble.Notify
import Mathlib.Algebra.Order.Floor.Div

/-!
# Fragmentation over the whole range

For which lengths and MTUs does `al1_ble_notify_conn` notify exactly what it is given?  The offset
of its loop goes up in chunks until it is past the data, and has 16 bits.  So all is well if the
length, rounded up to whole chunks, still fits into 16 bits.  If it does not, the offset wraps around
before it is past the data, and the loop goes on inside them: it sends some of them again, and for
some chunks it never ends.
-/

namespace Al1Wmod

open Buffer Fragments

/-! ## Rounds of the loop -/

section Loop

variable {data : ℕ → UInt8} {len chunk off : UInt16} {fuel : ℕ} {rc : ℤ} {notify : ℕ → ℤ}

/-- **The loop ends** in the first round whose offset is past the data. -/
theorem al1BleNotifyLoop_isSome_iff : (al1BleNotifyLoop data len chunk fuel off rc notify).isSome ↔
    ∃ i < fuel, ¬ off + UInt16.ofNat i * chunk < len := by
  induction fuel generalizing off rc notify with
  | zero => simp [al1BleNotifyLoop]
  | succ fuel ih =>
    have hnext : ∀ i, off + UInt16.ofNat (i + 1) * chunk =
        off + chunk + UInt16.ofNat i * chunk := by
      intro i
      rw [UInt16.ofNat_add]
      grind
    rw [al1BleNotifyLoop]
    by_cases hoff : off < len
    · simp only [if_pos hoff, Option.isSome_map, ih]
      constructor
      · rintro ⟨i, hi, hend⟩
        exact ⟨i + 1, by omega, by rwa [hnext]⟩
      · rintro ⟨i, hi, hend⟩
        cases i with
        | zero => exact absurd (by simpa using hoff) hend
        | succ i => exact ⟨i, by omega, by rwa [← hnext]⟩
    · rw [if_neg hoff]
      refine ⟨fun _ => ⟨0, Nat.succ_pos fuel, ?_⟩, fun _ => rfl⟩
      simpa using hoff

/-- **A loop that runs for 65536 rounds never ends.** -/
theorem al1BleNotifyConn_eq_none_iff {mtu : UInt16} : al1BleNotifyConn mtu data len notify = none ↔
    len ≠ 0 ∧ ∀ fuel, al1BleNotifyLoop data len (notifyChunk mtu) fuel 0 0 notify = none := by
  rw [al1BleNotifyConn]
  by_cases hlen : len = 0
  · simp [hlen]
  · rw [if_neg hlen]
    refine ⟨fun h => ⟨hlen, fun fuel => ?_⟩, fun h => h.2 65536⟩
    rw [← Option.not_isSome_iff_eq_none, al1BleNotifyLoop_isSome_iff] at h ⊢
    rintro ⟨i, -, hend⟩
    -- the offset has come round to where it was 65536 rounds before
    have hmod : UInt16.ofNat (i % 65536) = UInt16.ofNat i := by
      rw [← UInt16.toNat_inj, UInt16.toNat_ofNat', UInt16.toNat_ofNat']
      omega
    exact h ⟨i % 65536, Nat.mod_lt i (by decide), by rwa [hmod]⟩

/-- A round of a loop that ends. -/
theorem exists_of_al1BleNotifyLoop (hoff : off < len) {frags : List (List UInt8)} {code : ℤ}
    (h : al1BleNotifyLoop data len chunk (fuel + 1) off rc notify = some (frags, code)) :
    ∃ rest rc' notify', al1BleNotifyLoop data len chunk fuel (off + chunk) rc' notify' =
        some (rest, code) ∧
      frags.flatten.length = min chunk.toNat (len.toNat - off.toNat) + rest.flatten.length := by
  simp only [al1BleNotifyLoop, if_pos hoff, Option.map_eq_some_iff, Prod.mk.injEq] at h
  obtain ⟨⟨rest, code'⟩, hloop, rfl, rfl⟩ := h
  refine ⟨rest, _, _, hloop, ?_⟩
  rw [List.flatten_cons, List.length_append, length_slice, toNat_fragment hoff]

/-- If the loop ends, it has notified something, unless there was nothing left. -/
theorem al1BleNotifyLoop_pos (hchunk : 0 < chunk.toNat) (hoff : off.toNat < len.toNat)
    {frags : List (List UInt8)} {code : ℤ}
    (h : al1BleNotifyLoop data len chunk fuel off rc notify = some (frags, code)) :
    0 < frags.flatten.length := by
  cases fuel with
  | zero => simp [al1BleNotifyLoop] at h
  | succ fuel =>
    obtain ⟨rest, rc', notify', -, hlen⟩ := exists_of_al1BleNotifyLoop hoff h
    omega

/-- **If the offset wraps around**, a loop that ends has notified more than the data. -/
theorem lt_length_of_wrap (hchunk : 0 < chunk.toNat)
    (hwrap : ¬ NoWrap len.toNat chunk.toNat off.toNat) {frags : List (List UInt8)} {code : ℤ}
    (h : al1BleNotifyLoop data len chunk fuel off rc notify = some (frags, code)) :
    len.toNat - off.toNat < frags.flatten.length := by
  induction fuel generalizing off rc notify frags code with
  | zero => simp [al1BleNotifyLoop] at h
  | succ fuel ih =>
    have hoff : off.toNat < len.toNat := by
      by_contra hoff
      exact hwrap fun i hi => absurd hi (by omega)
    obtain ⟨rest, rc', notify', hrest, hlen⟩ := exists_of_al1BleNotifyLoop hoff h
    have hlen' := len.toNat_lt
    have hchunk' := chunk.toNat_lt
    have hnext : (off + chunk).toNat = (off.toNat + chunk.toNat) % 65536 := UInt16.toNat_add off chunk
    by_cases hfits : off.toNat + chunk.toNat < 65536
    · rw [Nat.mod_eq_of_lt hfits] at hnext
      have hwrap' : ¬ NoWrap len.toNat chunk.toNat (off + chunk).toNat := by
        rw [hnext]
        intro hno
        refine hwrap fun i hi => ?_
        cases i with
        | zero => omega
        | succ i =>
          have hnext' := hno i
          simp only [Nat.add_mul, Nat.one_mul] at hi hnext' ⊢
          omega
      have hmore := ih hwrap' hrest
      rw [hnext] at hmore
      have hinside : (off + chunk).toNat < len.toNat := by
        by_contra hoff'
        exact hwrap' fun i hi => absurd hi (by omega)
      omega
    · -- the fragment reaches the end of the data, and the offset is back inside them
      have hinside : (off + chunk).toNat < len.toNat := by omega
      have hpos := al1BleNotifyLoop_pos hchunk hinside hrest
      omega

end Loop

/-! ## The exact range -/

/-- Rounded up to whole chunks, the length fits into 16 bits. -/
theorem noWrap_iff {len chunk : ℕ} (hchunk : 0 < chunk) :
    NoWrap len chunk 0 ↔ (len ⌈/⌉ chunk) * chunk < 65536 := by
  have hlt : ∀ i, i < len ⌈/⌉ chunk ↔ i * chunk < len := by
    intro i
    rw [← not_le, ceilDiv_le_iff_le_mul hchunk, Nat.mul_comm, not_le]
  constructor
  · intro h
    cases hk : len ⌈/⌉ chunk with
    | zero => omega
    | succ k =>
      have hround := h k (by rw [Nat.zero_add, ← hlt, hk]; exact Nat.lt_succ_self k)
      rwa [Nat.zero_add] at hround
  · intro h i hi
    rw [Nat.zero_add, ← hlt] at hi
    rw [Nat.zero_add]
    exact (Nat.mul_le_mul_right chunk hi).trans_lt h

section Codes

/-- One more code. -/
theorem lastFailure_concat (rc : ℤ) (codes : List ℤ) (r : ℤ) :
    lastFailure rc (codes ++ [r]) = if r ≠ 0 then r else lastFailure rc codes := by
  rw [lastFailure, List.foldl_append]
  rfl

/-- **The code returned** is 0 if nothing failed, and otherwise that of the last failure. -/
theorem lastFailure_spec (notify : ℕ → ℤ) (n : ℕ) :
    (lastFailure 0 ((List.range n).map notify) = 0 ↔ ∀ k < n, notify k = 0) ∧
      ∀ k < n, notify k ≠ 0 → (∀ j < n, k < j → notify j = 0) →
        lastFailure 0 ((List.range n).map notify) = notify k := by
  induction n with
  | zero => simp [lastFailure]
  | succ n ih =>
    rw [List.range_succ, List.map_append, List.map_singleton, lastFailure_concat]
    by_cases hn : notify n = 0
    · rw [if_neg (not_not.mpr hn)]
      refine ⟨ih.1.trans ⟨fun h k hk => ?_, fun h k hk => h k (Nat.lt_succ_of_lt hk)⟩, ?_⟩
      · rcases Nat.lt_succ_iff_lt_or_eq.mp hk with hk | rfl
        · exact h k hk
        · exact hn
      · intro k hk hfail hlast
        rcases Nat.lt_succ_iff_lt_or_eq.mp hk with hk | rfl
        · exact ih.2 k hk hfail fun j hj => hlast j (Nat.lt_succ_of_lt hj)
        · exact absurd hn hfail
    · rw [if_pos hn]
      refine ⟨⟨fun h => absurd h hn, fun h => absurd (h n (Nat.lt_succ_self n)) hn⟩, ?_⟩
      intro k hk _ hlast
      rcases Nat.lt_succ_iff_lt_or_eq.mp hk with hk | rfl
      · exact absurd (hlast n (Nat.lt_succ_self n) hk) hn
      · rfl

end Codes

/-- A call is exact: whatever the notifications return, it ends, its fragments carry the data and
have the right size, and it returns 0 or the code of the last failure. -/
def NotifyExact (mtu : UInt16) (data : ℕ → UInt8) (len : UInt16) : Prop :=
  ∀ notify : ℕ → ℤ, ∃ frags code, al1BleNotifyConn mtu data len notify = some (frags, code) ∧
    (∀ f ∈ frags, f ≠ [] ∧ f.length ≤ (notifyChunk mtu).toNat) ∧
    frags.flatten = slice data 0 len.toNat ∧
    (code = 0 ↔ ∀ k < frags.length, notify k = 0) ∧
    ∀ k < frags.length, notify k ≠ 0 → (∀ j < frags.length, k < j → notify j = 0) →
      code = notify k

/-- **Fragmentation.**  For every length, every MTU and all data, a call is exact if and only if the
length, rounded up to whole chunks, fits into 16 bits. -/
theorem notifyExact_iff (mtu : UInt16) (data : ℕ → UInt8) (len : UInt16) :
    NotifyExact mtu data len ↔
      (len.toNat ⌈/⌉ (notifyChunk mtu).toNat) * (notifyChunk mtu).toNat < 65536 := by
  rw [← noWrap_iff (notifyChunk_pos mtu)]
  constructor
  · intro h
    by_contra hwrap
    obtain ⟨frags, code, hcall, -, hflat, -⟩ := h fun _ => 0
    have hlen : len ≠ 0 := by
      rintro rfl
      exact hwrap fun i hi => absurd hi (by simp)
    rw [al1BleNotifyConn, if_neg hlen] at hcall
    have hmore := lt_length_of_wrap (notifyChunk_pos mtu) hwrap hcall
    rw [hflat, length_slice] at hmore
    exact absurd hmore (by simp)
  · intro hwrap notify
    refine ⟨_, _, al1BleNotifyConn_eq mtu data hwrap notify,
      length_of_mem_fragments (notifyChunk_pos mtu) _, flatten_fragments (notifyChunk_pos mtu) _, ?_⟩
    exact lastFailure_spec notify _

/-- **A call that never ends.**  65535 bytes go out in chunks of 20.  The offset is always a multiple
of 4, so it is never past the data. -/
theorem notify_never_ends : ¬ NotifyExact 23 (fun _ => 0) 65535 ∧
    ∀ notify fuel, al1BleNotifyLoop (fun _ => 0) 65535 (notifyChunk 23) fuel 0 0 notify = none := by
  have hnone : ∀ notify, al1BleNotifyConn 23 (fun _ => 0) 65535 notify = none := by
    intro notify
    refine al1BleNotifyConn_eq_none_iff.mpr ⟨by decide, fun fuel => ?_⟩
    rw [← Option.not_isSome_iff_eq_none, al1BleNotifyLoop_isSome_iff]
    rintro ⟨i, -, hend⟩
    refine hend ?_
    rw [UInt16.lt_iff_toNat_lt, UInt16.zero_add, UInt16.toNat_mul, UInt16.toNat_ofNat',
      show (notifyChunk 23).toNat = 20 from rfl, show (65535 : UInt16).toNat = 65535 from rfl]
    omega
  refine ⟨fun h => ?_, fun notify => (al1BleNotifyConn_eq_none_iff.mp (hnone notify)).2⟩
  obtain ⟨frags, code, hcall, -⟩ := h fun _ => 0
  rw [hnone] at hcall
  exact absurd hcall (Option.some_ne_none _).symm

end Al1Wmod
