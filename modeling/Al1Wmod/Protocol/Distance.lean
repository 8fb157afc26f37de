import Al1Wmod.Protocol.Detection
import Al1Wmod.Stream.Distance
import Mathlib.Tactic.NormNum.Prime

/-!
# How many flipped bits a packet can hide

The parser rejects a packet with flipped bits exactly if their syndrome is not zero, so the fewest
flipped bits that pass for a packet are the smallest size of an error pattern with syndrome zero.

The polynomial has four terms, and the order of its shift is 127.  So it takes four flipped bits, as
long as no two bits that may be flipped are 127 places apart; and it takes two in longer packets.
The bits of CMD, PAYLOAD and CRC are that far apart from a payload of 14 bytes on.
-/

namespace Al1Wmod

open ShiftRegister BitRegister ByteRegister

/-- 127 shifts bring back the last bit. -/
theorem crc8Shift_pow_order : (crc8Shift ^ 127) unit = unit := by
  have halong : crc8Cyclic.along (List.replicate 7 false) = unit := by decide +kernel
  exact (crc8Cyclic.along_eq (List.replicate 7 false)).symm.trans halong

/-- **The order of the shift** is a prime, and one shift is not enough. -/
theorem orderOf_crc8Shift : orderOf crc8Shift = 127 := by
  have hprime : Fact (Nat.Prime 127) := ⟨by norm_num⟩
  refine orderOf_eq_prime (crc8Cyclic.pow_eq_one_iff.mpr crc8Shift_pow_order) fun hone => ?_
  have hunit : (crc8Shift ^ 1) unit = unit := crc8Cyclic.pow_eq_one_iff.mp (by rw [hone, pow_one])
  exact absurd hunit (by decide +kernel)

/-- The top bit is fed back to three bits. -/
theorem card_support_crc8 : (crc8Cyclic.support ((crc8Shift ^ 8) unit)).card = 3 := by
  decide +kernel

/-- The sizes of the sets of bits in CMD, PAYLOAD and CRC whose flipping is not detected. -/
def ApBuild.hidden (c : ApBuild) : Set ℕ :=
  {m | ∃ S : Finset ℕ, S.Nonempty ∧ (∀ i ∈ S, c.ErrorBit i) ∧ ¬ ApRejected (c.flipped S) ∧
    S.card = m}

section Hidden

variable {c : ApBuild}

/-- They are the sizes of the patterns with syndrome zero. -/
theorem ApBuild.hidden_eq (c : ApBuild) :
    c.hidden = unnoticedSizes crc8Shift unit (8 * c.checked.length + 7) c.ErrorBit := by
  ext m
  refine exists_congr fun S => and_congr_right fun _ => and_congr_right fun hS => ?_
  rw [apRejected_iff hS, not_not]
  exact Iff.rfl

theorem ApBuild.ErrorBit.le {i : ℕ} (h : c.ErrorBit i) : i ≤ 8 * c.checked.length + 7 :=
  h.lt_checked.le.trans (Nat.le_add_right _ 7)

/-- Two bits are enough if there is room for a distance of 127. -/
theorem ApBuild.isLeast_hidden_two (h : 13 < c.payload.length) : IsLeast c.hidden 2 := by
  have hi : c.ErrorBit 8 := ⟨le_rfl, by omega⟩
  have hj : c.ErrorBit 135 := ⟨by omega, by omega⟩
  rw [c.hidden_eq]
  refine crc8Cyclic.isLeast_two weight_crc8Taps crc8Shift_injective hi hj (by omega) hj.le ?_
  rw [orderOf_crc8Shift]

/-- Without that room it takes four. -/
theorem ApBuild.isLeast_hidden_four (h : c.payload.length ≤ 13) : IsLeast c.hidden 4 := by
  have hfar : ∀ i j, c.ErrorBit i → c.ErrorBit j → i < j → ¬ orderOf crc8Shift ∣ j - i := by
    rintro i j ⟨hi, -⟩ ⟨-, hj⟩ hij hdvd
    rw [orderOf_crc8Shift] at hdvd
    have hle := Nat.le_of_dvd (by omega) hdvd
    omega
  have hroom : 8 + 8 ≤ 8 * c.checked.length + 7 := by
    rw [c.length_checked]
    omega
  rw [c.hidden_eq]
  exact crc8Cyclic.isLeast_four weight_crc8Taps
    (crc8Cyclic.two_notMem_unnoticedSizes crc8Shift_injective (fun _ hi => hi.le) hfar)
    card_support_crc8 hroom fun i hlo hhi => ⟨hlo, by omega⟩

end Hidden

/-- **The fewest flipped bits that pass for a packet**: four with a payload of up to 13 bytes, and two
with a longer one. -/
theorem ap_fewest_hidden (c : ApBuild) :
    IsLeast c.hidden (if c.payload.length ≤ 13 then 4 else 2) := by
  by_cases h : c.payload.length ≤ 13
  · rw [if_pos h]
    exact ApBuild.isLeast_hidden_four h
  · rw [if_neg h]
    exact ApBuild.isLeast_hidden_two (Nat.lt_of_not_le h)

end Al1Wmod
