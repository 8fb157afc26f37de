import Mathlib.Algebra.BigOperators.Group.List.Basic
import Mathlib.Algebra.Order.Group.Multiset
import Mathlib.Data.Finset.Basic
import Mathlib.Data.List.Perm.Basic

/-!
# Heaps and owners

A heap hands out blocks and takes them back; a block that it has not handed out, or has taken back,
cannot be freed.  A program keeps its blocks in variables, queues and the local variables of its
threads.  If these own exactly the live blocks, each block once (`Owns`), then nothing has leaked,
every free succeeds, and every block that somebody holds may be used.
-/

namespace Blocks

/-- A heap: the blocks that are allocated, and the number of the next one. -/
structure Heap where
  live : Finset ℕ
  next : ℕ
  fresh : ∀ b ∈ live, b < next

namespace Heap

/-- Nothing is allocated. -/
def empty : Heap := ⟨∅, 0, fun _ hb => absurd hb (Finset.notMem_empty _)⟩

/-- A new block. -/
def alloc (h : Heap) : Heap × ℕ where
  fst :=
    { live := insert h.next h.live
      next := h.next + 1
      fresh := fun b hb => (Finset.mem_insert.mp hb).elim (fun heq => heq ▸ Nat.lt_succ_self _)
        fun hb => (h.fresh b hb).trans (Nat.lt_succ_self _) }
  snd := h.next

/-- A block is given back.  `none` is undefined behaviour. -/
def free (h : Heap) (b : ℕ) : Option Heap :=
  if b ∈ h.live then
    some ⟨h.live.erase b, h.next, fun c hc => h.fresh c (Finset.mem_of_mem_erase hc)⟩
  else none

/-- A pointer is given back; the null pointer is left alone. -/
def freePtr (h : Heap) : Option ℕ → Option Heap
  | none => some h
  | some b => h.free b

/-- A block that was given back is not allocated any more. -/
theorem notMem_of_free {h h' : Heap} {b : ℕ} (hfree : h.free b = some h') : b ∉ h'.live := by
  rw [free] at hfree
  split_ifs at hfree
  obtain rfl := Option.some.inj hfree
  exact Finset.notMem_erase b h.live

end Heap

/-- The block behind a pointer. -/
def pointee : Option ℕ → Multiset ℕ
  | none => 0
  | some b => {b}

/-- The blocks that the members of a list hold. -/
def held {α : Type*} (f : α → Multiset ℕ) (l : List α) : Multiset ℕ := (l.map f).sum

/-- Each live block has one owner, and every owner has a live block. -/
def Owns (h : Heap) (owners : Multiset ℕ) : Prop := h.live.val = owners

section Held

variable {α : Type*} {f : α → Multiset ℕ} {l : List α} {k : ℕ} {a : α}

@[simp] theorem held_nil : held f [] = 0 := rfl

@[simp] theorem held_cons : held f (a :: l) = f a + held f l := by
  rw [held, List.map_cons, List.sum_cons, held]

@[simp] theorem held_concat : held f (l ++ [a]) = held f l + f a := by
  simp [held]

/-- What a member holds, and the others. -/
theorem held_at (h : l[k]? = some a) : held f l = f a + held f (l.eraseIdx k) := by
  obtain ⟨hk, rfl⟩ := List.getElem?_eq_some_iff.mp h
  rw [← held_cons]
  exact (((List.getElem_cons_eraseIdx_perm hk).map f).sum_eq).symm

/-- A member changes what it holds. -/
theorem held_set (h : l[k]? = some a) (c : α) :
    held f (l.set k c) = f c + held f (l.eraseIdx k) := by
  obtain ⟨hk, -⟩ := List.getElem?_eq_some_iff.mp h
  rw [← held_cons]
  exact ((List.set_perm_cons_eraseIdx hk c).map f).sum_eq

end Held

section Owns

variable {h : Heap} {owners owners' : Multiset ℕ} {b : ℕ}

theorem Owns.of_eq (ho : Owns h owners) (heq : owners = owners') : Owns h owners' := ho.trans heq

/-- **Each block once.** -/
theorem Owns.nodup (ho : Owns h owners) : owners.Nodup := ho ▸ h.live.nodup

theorem Owns.mem_live (ho : Owns h owners) (hb : b ∈ owners) : b ∈ h.live :=
  Finset.mem_val.mp (ho.symm ▸ hb)

theorem owns_empty : Owns Heap.empty 0 := rfl

/-- Whoever allocates a block owns it. -/
theorem Owns.alloc (ho : Owns h owners) : Owns h.alloc.1 ({h.alloc.2} + owners) := by
  have hnew : h.next ∉ h.live := fun hmem => (h.fresh _ hmem).ne rfl
  show (insert h.next h.live).val = _
  rw [Finset.insert_val_of_notMem hnew, show h.live.val = owners from ho, Multiset.singleton_add]
  rfl

/-- An owner can free its block. -/
theorem Owns.free (ho : Owns h ({b} + owners)) : ∃ h', h.free b = some h' ∧ Owns h' owners := by
  have hb : b ∈ h.live := ho.mem_live (by simp)
  refine ⟨_, if_pos hb, ?_⟩
  show (h.live.erase b).val = owners
  rw [Finset.erase_val, show h.live.val = _ from ho, Multiset.singleton_add,
    Multiset.erase_cons_head]

theorem Owns.freePtr {p : Option ℕ} (ho : Owns h (pointee p + owners)) :
    ∃ h', h.freePtr p = some h' ∧ Owns h' owners := by
  cases p with
  | none => exact ⟨h, rfl, ho.of_eq (zero_add _)⟩
  | some b => exact ho.free

end Owns

end Blocks
