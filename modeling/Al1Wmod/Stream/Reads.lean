import Al1Wmod.Stream.Buffer
import Mathlib.Data.List.Range

/-!
# What a computation reads

A computation over a buffer returns a result, or reads a place and goes on with the letter it finds
there.  `reads` are the places it reads, in order.

Nothing else matters to it: two buffers that agree on the places it reads in one of them give the
same result, by the same reads (`Reader.congr`).
-/

namespace Reads

open Buffer

variable {α β γ : Type}

/-- A computation over a buffer of letters `α` that returns a `β`. -/
inductive Reader (α β : Type) where
  | ret (b : β)
  | read (i : ℕ) (next : α → Reader α β)

namespace Reader

/-- The result over a buffer. -/
def result (buf : ℕ → α) : Reader α β → β
  | ret b => b
  | read i next => (next (buf i)).result buf

/-- The places read, in order. -/
def reads (buf : ℕ → α) : Reader α β → List ℕ
  | ret _ => []
  | read i next => i :: (next (buf i)).reads buf

/-- One computation, and another that depends on its result. -/
def andThen : Reader α β → (β → Reader α γ) → Reader α γ
  | ret b, f => f b
  | read i next, f => read i fun a => (next a).andThen f

instance : Monad (Reader α) where
  pure := ret
  bind := andThen

/-- The letter at a place. -/
def letter (i : ℕ) : Reader α α := read i ret

/-- The `n` letters from a place on. -/
def block (i : ℕ) : ℕ → Reader α (List α)
  | 0 => ret []
  | n + 1 => read i fun a => (block (i + 1) n).andThen fun l => ret (a :: l)

variable (buf : ℕ → α)

@[simp] theorem result_pure (b : β) : (pure b : Reader α β).result buf = b := rfl

@[simp] theorem reads_pure (b : β) : (pure b : Reader α β).reads buf = [] := rfl

@[simp] theorem result_letter (i : ℕ) : (letter i).result buf = buf i := rfl

@[simp] theorem reads_letter (i : ℕ) : (letter i : Reader α α).reads buf = [i] := rfl

@[simp] theorem result_bind (m : Reader α β) (f : β → Reader α γ) :
    (m >>= f).result buf = (f (m.result buf)).result buf := by
  induction m with
  | ret b => rfl
  | read i next ih => exact ih (buf i)

@[simp] theorem reads_bind (m : Reader α β) (f : β → Reader α γ) :
    (m >>= f).reads buf = m.reads buf ++ (f (m.result buf)).reads buf := by
  induction m with
  | ret b => rfl
  | read i next ih => exact congrArg (i :: ·) (ih (buf i))

@[simp] theorem reads_block (i n : ℕ) : (block i n).reads buf = List.range' i n := by
  induction n generalizing i with
  | zero => rfl
  | succ n ih =>
    have hnext := reads_bind buf (block (i + 1) n) fun l => (ret (buf i :: l) : Reader α (List α))
    rw [ih] at hnext
    exact congrArg (i :: ·) (hnext.trans (List.append_nil _))

@[simp] theorem result_block (i n : ℕ) : (block i n).result buf = slice buf i n := by
  induction n generalizing i with
  | zero => rfl
  | succ n ih =>
    have hnext := result_bind buf (block (i + 1) n) fun l => (ret (buf i :: l) : Reader α (List α))
    rw [ih] at hnext
    exact hnext

/-- **Only what is read matters.** -/
theorem congr {m : Reader α β} {buf buf' : ℕ → α} (h : ∀ i ∈ m.reads buf, buf' i = buf i) :
    m.result buf' = m.result buf ∧ m.reads buf' = m.reads buf := by
  induction m with
  | ret b => exact ⟨rfl, rfl⟩
  | read i next ih =>
    have hi : buf' i = buf i := h i List.mem_cons_self
    have hnext := ih (buf i) fun j hj => h j (List.mem_cons_of_mem _ hj)
    rw [result, result, reads, reads, hi]
    exact ⟨hnext.1, congrArg (i :: ·) hnext.2⟩

end Reader

end Reads
