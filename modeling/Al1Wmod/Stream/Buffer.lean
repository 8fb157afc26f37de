import Mathlib.Data.List.Basic
import Mathlib.Data.List.Range

/-!
# Buffers

The memory a pointer leads to, as a function from offsets to values: it has no
length of its own, as a pointer has none, so what lies beyond the bytes a caller
filled is there and has to be argued away.  `slice b i n` are the `n` values from
offset `i`; `write` stores one value, `blit` copies a list, and the lemmas say which
slices these change.
-/

namespace Buffer

variable {α : Type*}

/-- The `n` values from offset `i`. -/
def slice (b : ℕ → α) (i : ℕ) : ℕ → List α
  | 0 => []
  | n + 1 => b i :: slice b (i + 1) n

/-- Store `v` at offset `i`. -/
def write (b : ℕ → α) (i : ℕ) (v : α) : ℕ → α := fun k => if k = i then v else b k

/-- Copy a list to offset `i`. -/
def blit (b : ℕ → α) (i : ℕ) : List α → ℕ → α
  | [] => b
  | v :: l => blit (write b i v) (i + 1) l

/-- The memory that begins with the list `l`. -/
def ofList (d : α) (l : List α) : ℕ → α := fun i => l.getD i d

/-- What a call wrote that returns its buffer and a count: the first bytes of the buffer.
`none` is the null pointer. -/
def written (r : Option (ℕ → α) × ℕ) : List α :=
  match r.1 with
  | none => []
  | some b => slice b 0 r.2

@[simp] theorem slice_zero (b : ℕ → α) (i : ℕ) : slice b i 0 = [] := rfl

theorem slice_succ (b : ℕ → α) (i n : ℕ) : slice b i (n + 1) = b i :: slice b (i + 1) n := rfl

@[simp] theorem length_slice (b : ℕ → α) (i n : ℕ) : (slice b i n).length = n := by
  induction n generalizing i with
  | zero => rfl
  | succ n ih => rw [slice_succ, List.length_cons, ih]

/-- A slice is one slice followed by the next. -/
theorem slice_add (b : ℕ → α) (i m n : ℕ) :
    slice b i (m + n) = slice b i m ++ slice b (i + m) n := by
  induction m generalizing i with
  | zero => simp
  | succ m ih =>
    rw [show m + 1 + n = m + n + 1 by omega, slice_succ, ih, slice_succ, List.cons_append,
      show i + 1 + m = i + (m + 1) by omega]

theorem slice_succ_last (b : ℕ → α) (i n : ℕ) :
    slice b i (n + 1) = slice b i n ++ [b (i + n)] := slice_add b i n 1

theorem take_slice (b : ℕ → α) (i n k : ℕ) : (slice b i n).take k = slice b i (min k n) := by
  induction n generalizing i k with
  | zero => simp
  | succ n ih =>
    cases k with
    | zero => simp
    | succ k => rw [slice_succ, List.take_succ_cons, ih, Nat.succ_min_succ, slice_succ]

theorem drop_slice (b : ℕ → α) (i n k : ℕ) :
    (slice b i n).drop k = slice b (i + k) (n - k) := by
  induction n generalizing i k with
  | zero => simp
  | succ n ih =>
    cases k with
    | zero => rfl
    | succ k =>
      rw [slice_succ, List.drop_succ_cons, ih, Nat.succ_sub_succ,
        show i + 1 + k = i + (k + 1) by omega]

/-- Slices read only their own offsets. -/
theorem slice_congr {b c : ℕ → α} {i n : ℕ} (h : ∀ k, i ≤ k → k < i + n → b k = c k) :
    slice b i n = slice c i n := by
  induction n generalizing i with
  | zero => rfl
  | succ n ih =>
    rw [slice_succ, slice_succ, h i le_rfl (by omega),
      ih fun k hk hk' => h k (by omega) (by omega)]

@[simp] theorem write_self (b : ℕ → α) (i : ℕ) (v : α) : write b i v i = v := if_pos rfl

theorem write_of_ne (b : ℕ → α) {i k : ℕ} (v : α) (h : k ≠ i) : write b i v k = b k := if_neg h

/-- A store outside a slice does not change it. -/
theorem slice_write_of_le (b : ℕ → α) {i n k : ℕ} (v : α) (h : i + n ≤ k) :
    slice (write b k v) i n = slice b i n :=
  slice_congr fun _ _ hk => write_of_ne b v (by omega)

/-- A store right after a slice extends it. -/
theorem slice_write_last (b : ℕ → α) (i n : ℕ) (v : α) :
    slice (write b (i + n) v) i (n + 1) = slice b i n ++ [v] := by
  rw [slice_succ_last, slice_write_of_le b v le_rfl, write_self]

theorem blit_of_lt (b : ℕ → α) {i k : ℕ} (l : List α) (h : k < i) : blit b i l k = b k := by
  induction l generalizing b i with
  | nil => rfl
  | cons v l ih => rw [blit, ih _ (by omega), write_of_ne b v (by omega)]

/-- What was copied can be read back. -/
@[simp] theorem slice_blit (b : ℕ → α) (i : ℕ) (l : List α) :
    slice (blit b i l) i l.length = l := by
  induction l generalizing b i with
  | nil => rfl
  | cons v l ih =>
    rw [List.length_cons, slice_succ, blit, ih, blit_of_lt _ _ (by omega), write_self]

theorem slice_blit_of_le (b : ℕ → α) {i n k : ℕ} (l : List α) (h : i + n ≤ k) :
    slice (blit b k l) i n = slice b i n :=
  slice_congr fun _ _ hk => blit_of_lt b l (by omega)

@[simp] theorem slice_ofList (d : α) (l : List α) : slice (ofList d l) 0 l.length = l := by
  induction l with
  | nil => rfl
  | cons v l ih =>
    have hshift : slice (ofList d (v :: l)) 1 l.length = slice (ofList d l) 0 l.length := by
      generalize l.length = n
      suffices h : ∀ i, slice (ofList d (v :: l)) (i + 1) n = slice (ofList d l) i n from h 0
      induction n with
      | zero => exact fun _ => rfl
      | succ n ihn =>
        intro i
        rw [slice_succ, slice_succ, ihn]
        rfl
    rw [List.length_cons, slice_succ, Nat.zero_add, hshift, ih]
    rfl

end Buffer
