import Al1Wmod.Protocol.Framing
import Al1Wmod.Stream.Fragments

/-!
# Notifications

`al1_ble_notify_conn` cuts what it is given into fragments of the connection's MTU and notifies
one after another.  Its offset has 16 bits, so advancing it can wrap around, and then the loop
starts over inside the data.  Where it does not wrap, the fragments are those of
`Fragments.fragments`, and the code returned is that of the last fragment that failed.
-/

namespace Al1Wmod

open Buffer Fragments

/-- What a notification carries: the MTU less the notify header, or the BLE minimum. -/
def notifyChunk (mtu : UInt16) : UInt16 := if 3 < mtu then mtu - 3 else 20

/-- The loop of `al1_ble_notify_conn`: the fragments it passes to `al1_gatt_notify`, and the code
it returns.  `notify k` is what the call after `k` more calls returns.  `none` says that the loop
is still running after `fuel` rounds. -/
def al1BleNotifyLoop (data : ℕ → UInt8) (len chunk : UInt16) :
    ℕ → UInt16 → ℤ → (ℕ → ℤ) → Option (List (List UInt8) × ℤ)
  | 0, _, _, _ => none
  | fuel + 1, off, rc, notify =>
    if off < len then
      let n := if chunk < len - off then chunk else len - off
      let r := notify 0
      (al1BleNotifyLoop data len chunk fuel (off + chunk) (if r ≠ 0 then r else rc)
        fun k => notify (k + 1)).map fun t => (slice data off.toNat n.toNat :: t.1, t.2)
    else some ([], rc)

/-- `al1_ble_notify_conn`, with `mtu` what `ble_att_mtu` returns.  The offset has 65536 values,
so a loop that runs for more rounds runs for ever. -/
def al1BleNotifyConn (mtu : UInt16) (data : ℕ → UInt8) (len : UInt16) (notify : ℕ → ℤ) :
    Option (List (List UInt8) × ℤ) :=
  if len = 0 then some ([], 0)
  else al1BleNotifyLoop data len (notifyChunk mtu) 65536 0 0 notify

/-- The last code that is not zero. -/
def lastFailure (rc : ℤ) (codes : List ℤ) : ℤ :=
  codes.foldl (fun rc r => if r ≠ 0 then r else rc) rc

/-- If nothing fails, the code is the first. -/
theorem lastFailure_zeros {ι : Type*} (rc : ℤ) (l : List ι) :
    lastFailure rc (l.map fun _ => 0) = rc := by
  induction l with
  | nil => rfl
  | cons i l ih => exact ih

/-- From `off` on, the offset reaches the end of the data before it wraps around. -/
def NoWrap (len chunk off : ℕ) : Prop := ∀ i, off + i * chunk < len → off + (i + 1) * chunk < 65536

theorem notifyChunk_pos (mtu : UInt16) : 0 < (notifyChunk mtu).toNat := by
  rw [notifyChunk]
  split_ifs with h
  · have h' : 3 < mtu.toNat := h
    rw [UInt16.toNat_sub_of_le _ _ (by rw [UInt16.le_iff_toNat_le]; exact h'.le)]
    exact Nat.sub_pos_of_lt h'
  · decide

theorem NoWrap.next {len chunk off : ℕ} (h : NoWrap len chunk off) :
    NoWrap len chunk (off + chunk) := by
  intro i hi
  have hnext := h (i + 1)
  simp only [Nat.add_mul, Nat.one_mul] at hi hnext ⊢
  omega

/-- Data of at most half the offset's range never makes it wrap. -/
theorem noWrap_of_le {len chunk : ℕ} (hlen : len ≤ 32768) (hchunk : chunk < 65536) :
    NoWrap len chunk 0 := by
  intro i hi
  rw [Nat.zero_add] at hi ⊢
  cases i with
  | zero => omega
  | succ i =>
    have hle : chunk ≤ (i + 1) * chunk := Nat.le_mul_of_pos_left chunk i.succ_pos
    rw [Nat.add_mul (i + 1), Nat.one_mul]
    omega

/-- A fragment off the front of the data. -/
theorem fragments_slice (data : ℕ → UInt8) {chunk off len : ℕ} (hchunk : 0 < chunk)
    (h : off < len) :
    fragments chunk (slice data off (len - off)) =
      slice data off (min chunk (len - off)) ::
        fragments chunk (slice data (off + chunk) (len - (off + chunk))) := by
  have hne : slice data off (len - off) ≠ [] := by
    rw [← List.length_pos_iff, length_slice]
    omega
  rw [fragments_of_ne_nil hchunk hne, take_slice, drop_slice, Nat.sub_sub]

/-- The size of a fragment. -/
theorem toNat_fragment {len chunk off : UInt16} (hoff : off < len) :
    (if chunk < len - off then chunk else len - off).toNat =
      min chunk.toNat (len.toNat - off.toNat) := by
  have hrest : (len - off).toNat = len.toNat - off.toNat :=
    UInt16.toNat_sub_of_le _ _ (UInt16.le_of_lt hoff)
  rw [← hrest]
  split_ifs with h
  · exact (min_eq_left (Nat.le_of_lt h)).symm
  · exact (min_eq_right (Nat.not_lt.mp h)).symm

/-- **The loop cuts the rest of the data into fragments.** -/
theorem al1BleNotifyLoop_eq (data : ℕ → UInt8) {len chunk off : UInt16} (hchunk : 0 < chunk.toNat)
    (hwrap : NoWrap len.toNat chunk.toNat off.toNat) {fuel : ℕ}
    (hfuel : len.toNat - off.toNat < fuel) (rc : ℤ) (notify : ℕ → ℤ) :
    al1BleNotifyLoop data len chunk fuel off rc notify =
      some (fragments chunk.toNat (slice data off.toNat (len.toNat - off.toNat)),
        lastFailure rc ((List.range (fragments chunk.toNat
          (slice data off.toNat (len.toNat - off.toNat))).length).map notify)) := by
  induction fuel generalizing off rc notify with
  | zero => omega
  | succ fuel ih =>
    rw [al1BleNotifyLoop]
    by_cases hoff : off < len
    · have hlt : off.toNat < len.toNat := hoff
      have hnext : (off + chunk).toNat = off.toNat + chunk.toNat := by
        rw [UInt16.toNat_add]
        have := hwrap 0 (by omega)
        omega
      have hloop := @ih (off + chunk) (by rw [hnext]; exact hwrap.next) (by omega)
        (if notify 0 ≠ 0 then notify 0 else rc) fun k => notify (k + 1)
      rw [hnext] at hloop
      simp only [if_pos hoff, hloop, toNat_fragment hoff, Option.map_some,
        fragments_slice data hchunk hlt, List.length_cons, List.range_succ_eq_map, List.map_cons,
        List.map_map, lastFailure, List.foldl_cons]
      rfl
    · have hle : len.toNat ≤ off.toNat := Nat.not_lt.mp hoff
      rw [if_neg hoff, Nat.sub_eq_zero_of_le hle]
      simp [lastFailure]

/-- **What is notified**, as long as the offset does not wrap around. -/
theorem al1BleNotifyConn_eq (mtu : UInt16) (data : ℕ → UInt8) {len : UInt16}
    (hwrap : NoWrap len.toNat (notifyChunk mtu).toNat 0) (notify : ℕ → ℤ) :
    al1BleNotifyConn mtu data len notify =
      some (fragments (notifyChunk mtu).toNat (slice data 0 len.toNat),
        lastFailure 0 ((List.range (fragments (notifyChunk mtu).toNat
          (slice data 0 len.toNat)).length).map notify)) := by
  rw [al1BleNotifyConn]
  split_ifs with h
  · rw [h]
    simp [lastFailure]
  · exact al1BleNotifyLoop_eq data (notifyChunk_pos mtu) hwrap
      (by have := len.toNat_lt; rw [UInt16.toNat_zero]; omega) 0 notify

/-- A call of `al1_ble_notify_conn`, with what `ble_att_mtu` returns in it. -/
structure NotifyCall where
  conn : UInt16
  mtu : UInt16
  data : List UInt8
  deriving DecidableEq, Repr

/-- The payloads of the calls of `al1_gatt_notify` that a call makes. -/
def NotifyCall.fragments (c : NotifyCall) : List (List UInt8) :=
  ((al1BleNotifyConn c.mtu (ofList 0 c.data) (UInt16.ofNat c.data.length) fun _ => 0).map
    Prod.fst).getD []

/-- The call fits into one notification. -/
def NotifyCall.Fits (c : NotifyCall) : Prop := c.data.length ≤ (notifyChunk c.mtu).toNat

section Fragments

variable {c : NotifyCall}

/-- A call with at most half the offset's range of data returns. -/
theorem NotifyCall.fragments_eq (h : c.data.length ≤ 32768) :
    c.fragments = Fragments.fragments (notifyChunk c.mtu).toNat c.data := by
  have hlen : (UInt16.ofNat c.data.length).toNat = c.data.length := by
    rw [UInt16.toNat_ofNat']
    omega
  rw [NotifyCall.fragments, al1BleNotifyConn_eq, hlen, slice_ofList]
  · rfl
  · rw [hlen]
    exact noWrap_of_le h (notifyChunk c.mtu).toNat_lt

/-- **The fragments of a call** carry its data in order.  None is empty, and none is longer than the
MTU allows. -/
theorem NotifyCall.fragments_spec (h : c.data.length ≤ 32768) :
    c.fragments.flatten = c.data ∧
      ∀ f ∈ c.fragments, f ≠ [] ∧ f.length ≤ (notifyChunk c.mtu).toNat := by
  rw [fragments_eq h]
  exact ⟨flatten_fragments (notifyChunk_pos _) _, length_of_mem_fragments (notifyChunk_pos _) _⟩

end Fragments

end Al1Wmod
