import Mathlib.Data.List.Basic
import Mathlib.Data.List.Perm.Basic

/-!
# First-fit tables

A table of fixed size whose entries are in use or free.  A key is put into the first free
entry, and released from the first entry in use that holds it.  A full table drops the key.

`keys` are the keys in use.  When no key is in use twice, releasing a key removes it and
nothing else (`mem_keys_release`), which is false of a table that holds a key twice.
-/

namespace FirstFit

variable {α β κ : Type*} (used : α → Bool) (key : α → κ)

/-- The keys in use, in the order of the entries. -/
def keys (l : List α) : List κ := (l.filter used).map key

/-- Fill the first free entry. -/
def put (f : α → α) (l : List α) : List α := l.replaceF fun a => if used a then none else some (f a)

/-- Change the first entry in use with the key `k`. -/
def update [DecidableEq κ] (k : κ) (f : α → α) (l : List α) : List α :=
  l.replaceF fun a => if used a ∧ key a = k then some (f a) else none

variable {used key}

theorem mem_keys {k : κ} {l : List α} : k ∈ keys used key l ↔ ∃ a ∈ l, used a ∧ key a = k := by
  simp [keys, and_assoc]

theorem keys_append (l m : List α) :
    keys used key (l ++ m) = keys used key l ++ keys used key m := by
  simp [keys]

theorem keys_cons_of_used {a : α} (h : used a) (l : List α) :
    keys used key (a :: l) = key a :: keys used key l := by
  simp [keys, h]

theorem keys_cons_of_not_used {a : α} (h : ¬ used a) (l : List α) :
    keys used key (a :: l) = keys used key l := by
  simp [keys, h]

/-- Tables with the same entries have the same keys. -/
theorem keys_eq_of_map_eq {used' : β → Bool} {key' : β → κ} {l : List α} {m : List β}
    (h : l.map (fun a => (used a, key a)) = m.map fun b => (used' b, key' b)) :
    keys used key l = keys used' key' m := by
  induction l generalizing m with
  | nil =>
    rw [List.map_nil, eq_comm, List.map_eq_nil_iff] at h
    rw [h]
    rfl
  | cons a l ih =>
    cases m with
    | nil => simp at h
    | cons b m =>
      obtain ⟨hab, hlm⟩ := List.cons.inj h
      obtain ⟨hu, hk⟩ := Prod.mk.inj hab
      by_cases ha : used a
      · rw [keys_cons_of_used ha, keys_cons_of_used (hu ▸ ha), ih hlm, hk]
      · rw [keys_cons_of_not_used ha, keys_cons_of_not_used (hu ▸ ha), ih hlm]

/-! ## Putting -/

/-- A put finds a free entry, or there is none. -/
theorem put_cases (f : α → α) (l : List α) :
    (put used f l = l ∧ ∀ a ∈ l, used a) ∨
      ∃ l₁ a l₂, l = l₁ ++ a :: l₂ ∧ (∀ b ∈ l₁, used b) ∧ ¬ used a ∧
        put used f l = l₁ ++ f a :: l₂ := by
  induction l with
  | nil => exact Or.inl ⟨rfl, by simp⟩
  | cons a l ih =>
    by_cases ha : used a
    · have hput : put used f (a :: l) = a :: put used f l := by
        rw [put, List.replaceF_cons_of_none]
        · rfl
        · rw [if_pos ha]
      rcases ih with ⟨heq, hall⟩ | ⟨l₁, b, l₂, rfl, hl₁, hb, heq⟩
      · refine Or.inl ⟨by rw [hput, heq], ?_⟩
        simpa [ha] using hall
      · refine Or.inr ⟨a :: l₁, b, l₂, rfl, ?_, hb, by rw [hput, heq]; rfl⟩
        simpa [ha] using hl₁
    · refine Or.inr ⟨[], a, l, rfl, by simp, ha, ?_⟩
      rw [put, List.replaceF_cons_of_some]
      · rfl
      · rw [if_neg ha]

theorem length_put (f : α → α) (l : List α) : (put used f l).length = l.length :=
  List.length_replaceF

/-- A put adds its key, or nothing when the table is full. -/
theorem keys_put {f : α → α} {k : κ} (hf : ∀ a, used (f a) ∧ key (f a) = k) (l : List α) :
    (keys used key (put used f l) = keys used key l ∧ ∀ a ∈ l, used a) ∨
      (keys used key (put used f l)).Perm (k :: keys used key l) := by
  rcases put_cases f l with ⟨heq, hall⟩ | ⟨l₁, a, l₂, rfl, -, ha, heq⟩
  · exact Or.inl ⟨by rw [heq], hall⟩
  · refine Or.inr ?_
    rw [heq, keys_append, keys_cons_of_used (hf a).1, (hf a).2, keys_append,
      keys_cons_of_not_used ha]
    exact List.perm_middle

/-- A put into a table that is not full adds its key. -/
theorem keys_put_of_length_lt {f : α → α} {k : κ} (hf : ∀ a, used (f a) ∧ key (f a) = k)
    {l : List α} (h : (keys used key l).length < l.length) :
    (keys used key (put used f l)).Perm (k :: keys used key l) := by
  rcases keys_put hf l with ⟨-, hall⟩ | hperm
  · rw [keys, List.length_map, List.filter_eq_self.mpr hall] at h
    exact absurd h (Nat.lt_irrefl _)
  · exact hperm

theorem mem_of_mem_keys_put {f : α → α} {k k' : κ} (hf : ∀ a, used (f a) ∧ key (f a) = k)
    {l : List α} (h : k' ∈ keys used key (put used f l)) : k' = k ∨ k' ∈ keys used key l := by
  rcases keys_put hf l with ⟨heq, -⟩ | hperm
  · exact Or.inr (heq ▸ h)
  · exact List.mem_cons.mp (hperm.mem_iff.mp h)

theorem mem_keys_put_of_mem {f : α → α} {k k' : κ} (hf : ∀ a, used (f a) ∧ key (f a) = k)
    {l : List α} (h : k' ∈ keys used key l) : k' ∈ keys used key (put used f l) := by
  rcases keys_put hf l with ⟨heq, -⟩ | hperm
  · exact heq ▸ h
  · exact hperm.mem_iff.mpr (List.mem_cons_of_mem _ h)

/-- A new key is put in at most once. -/
theorem nodup_keys_put {f : α → α} {k : κ} (hf : ∀ a, used (f a) ∧ key (f a) = k) {l : List α}
    (hnew : k ∉ keys used key l) (h : (keys used key l).Nodup) :
    (keys used key (put used f l)).Nodup := by
  rcases keys_put hf l with ⟨heq, -⟩ | hperm
  · exact heq ▸ h
  · exact hperm.nodup_iff.mpr (List.nodup_cons.mpr ⟨hnew, h⟩)

/-- The entry a put fills is new; the others were there before. -/
theorem mem_put {f : α → α} {l : List α} {b : α} (h : b ∈ put used f l) :
    b ∈ l ∨ ∃ a, b = f a := by
  rcases put_cases f l with ⟨heq, -⟩ | ⟨l₁, a, l₂, rfl, -, -, heq⟩
  · exact Or.inl (heq ▸ h)
  · rw [heq, List.mem_append, List.mem_cons] at h
    rcases h with h | rfl | h
    · exact Or.inl (List.mem_append_left _ h)
    · exact Or.inr ⟨a, rfl⟩
    · exact Or.inl (List.mem_append_right _ (List.mem_cons_of_mem _ h))

/-! ## Updating and releasing -/

section Update

variable [DecidableEq κ]

/-- An update finds its key, or the key is not there. -/
theorem update_cases (k : κ) (f : α → α) (l : List α) :
    (update used key k f l = l ∧ k ∉ keys used key l) ∨
      ∃ l₁ a l₂, l = l₁ ++ a :: l₂ ∧ k ∉ keys used key l₁ ∧ used a ∧ key a = k ∧
        update used key k f l = l₁ ++ f a :: l₂ ∧
        l.find? (fun a => used a && key a == k) = some a := by
  induction l with
  | nil => exact Or.inl ⟨rfl, by simp [keys]⟩
  | cons a l ih =>
    by_cases ha : used a ∧ key a = k
    · refine Or.inr ⟨[], a, l, rfl, by simp [keys], ha.1, ha.2, ?_, ?_⟩
      · rw [update, List.replaceF_cons_of_some]
        · rfl
        · rw [if_pos ha]
      · simp [ha.1, ha.2]
    · have hupd : update used key k f (a :: l) = a :: update used key k f l := by
        rw [update, List.replaceF_cons_of_none]
        · rfl
        · rw [if_neg ha]
      have hkeys : ∀ m, k ∈ keys used key (a :: m) ↔ k ∈ keys used key m := by
        intro m
        simp [mem_keys, ha]
      have hfind : ∀ m, (a :: m).find? (fun a => used a && key a == k) =
          m.find? (fun a => used a && key a == k) := by
        intro m
        refine List.find?_cons_of_neg ?_
        simpa using ha
      rcases ih with ⟨heq, hk⟩ | ⟨l₁, b, l₂, rfl, hl₁, hb, hbk, heq, hfb⟩
      · exact Or.inl ⟨by rw [hupd, heq], (hkeys _).not.mpr hk⟩
      · exact Or.inr ⟨a :: l₁, b, l₂, rfl, (hkeys _).not.mpr hl₁, hb, hbk,
          by rw [hupd, heq]; rfl, (hfind _).trans hfb⟩

theorem length_update (k : κ) (f : α → α) (l : List α) :
    (update used key k f l).length = l.length := List.length_replaceF

/-- The lookup that goes with an update finds nothing when the key is not there. -/
theorem find?_eq_none_iff {k : κ} {l : List α} :
    l.find? (fun a => used a && key a == k) = none ↔ k ∉ keys used key l := by
  simp [mem_keys]

theorem find?_eq_some {k : κ} {l : List α} {a : α}
    (h : l.find? (fun a => used a && key a == k) = some a) : a ∈ l ∧ used a ∧ key a = k := by
  have h' := List.find?_some h
  rw [Bool.and_eq_true, beq_iff_eq] at h'
  exact ⟨List.mem_of_find?_eq_some h, h'⟩

/-- An update does not change what its function keeps. -/
theorem map_update_of_eq {γ : Type*} {p : α → γ} {f : α → α} (k : κ) (hf : ∀ a, p (f a) = p a)
    (l : List α) : (update used key k f l).map p = l.map p := by
  rcases @update_cases α κ used key _ k f l with ⟨heq, -⟩ | ⟨l₁, a, l₂, rfl, -, -, -, heq, -⟩
  · rw [heq]
  · rw [heq, List.map_append, List.map_append, List.map_cons, List.map_cons, hf]

/-- A release removes one copy of its key. -/
theorem keys_release {f : α → α} (k : κ) (hf : ∀ a, ¬ used (f a)) (l : List α) :
    keys used key (update used key k f l) = (keys used key l).erase k := by
  rcases @update_cases α κ used key _ k f l with
    ⟨heq, hk⟩ | ⟨l₁, a, l₂, rfl, hk, ha, rfl, heq, -⟩
  · rw [heq, List.erase_of_not_mem hk]
  · rw [heq, keys_append, keys_append, keys_cons_of_used ha, keys_cons_of_not_used (hf a),
      List.erase_append_right _ hk, List.erase_cons_head]

/-- **Releasing a key** removes it and nothing else, if no key is in use twice. -/
theorem mem_keys_release {f : α → α} {k k' : κ} (hf : ∀ a, ¬ used (f a)) {l : List α}
    (h : (keys used key l).Nodup) :
    k' ∈ keys used key (update used key k f l) ↔ k' ∈ keys used key l ∧ k' ≠ k := by
  rw [keys_release k hf, h.mem_erase_iff, and_comm]

theorem nodup_keys_release {f : α → α} {k : κ} (hf : ∀ a, ¬ used (f a)) {l : List α}
    (h : (keys used key l).Nodup) : (keys used key (update used key k f l)).Nodup := by
  rw [keys_release k hf]
  exact h.erase k

/-- **An update changes the entry of its key** and no other, if no key is in use twice. -/
theorem mem_update {f : α → α} {k : κ} {l : List α} (hn : (keys used key l).Nodup) {b : α}
    (h : b ∈ update used key k f l) :
    (b ∈ l ∧ (used b → key b ≠ k)) ∨
      ∃ a, l.find? (fun a => used a && key a == k) = some a ∧ b = f a := by
  rcases @update_cases α κ used key _ k f l with
    ⟨heq, hk⟩ | ⟨l₁, a, l₂, rfl, hk, ha, rfl, heq, hfind⟩
  · rw [heq] at h
    exact Or.inl ⟨h, fun hb e => hk (mem_keys.mpr ⟨b, h, hb, e⟩)⟩
  · rw [keys_append, keys_cons_of_used ha] at hn
    have hk₂ : key a ∉ keys used key l₂ := (List.nodup_cons.mp (List.nodup_append.mp hn).2.1).1
    rw [heq, List.mem_append, List.mem_cons] at h
    rcases h with h | rfl | h
    · exact Or.inl ⟨List.mem_append_left _ h, fun hb e => hk (mem_keys.mpr ⟨b, h, hb, e⟩)⟩
    · exact Or.inr ⟨a, hfind, rfl⟩
    · exact Or.inl ⟨List.mem_append_right _ (List.mem_cons_of_mem _ h),
        fun hb e => hk₂ (mem_keys.mpr ⟨b, h, hb, e⟩)⟩

end Update

/-! ## Looking up after a change

`l.find? fun a => used a && key a == k` is the lookup that goes with the table. -/

section Lookup

variable [DecidableEq κ] {k k' : κ}

theorem find?_append_cons_of_neg (p : α → Bool) {a : α} (h : ¬ p a) (l₁ l₂ : List α) :
    (l₁ ++ a :: l₂).find? p = (l₁ ++ l₂).find? p := by
  rw [List.find?_append, List.find?_cons_of_neg h, List.find?_append]

/-- A put hides no other key. -/
theorem find?_put_of_ne {f : α → α} (hf : ∀ a, key (f a) = k) (h : k' ≠ k) (l : List α) :
    (put used f l).find? (fun a => used a && key a == k') =
      l.find? fun a => used a && key a == k' := by
  rcases put_cases f l with ⟨heq, -⟩ | ⟨l₁, a, l₂, rfl, -, ha, heq⟩
  · rw [heq]
  · have hnew : ¬ (used (f a) && key (f a) == k') := by simp [hf a, h.symm]
    have hold : ¬ (used a && key a == k') := by simp [ha]
    rw [heq, find?_append_cons_of_neg (fun a => used a && key a == k') hnew,
      find?_append_cons_of_neg (fun a => used a && key a == k') hold]

/-- A key that was put in is found in the entry that was filled. -/
theorem find?_put_self {f : α → α} (hf : ∀ a, used (f a) ∧ key (f a) = k) {l : List α}
    (hnew : k ∉ keys used key l) (hput : k ∈ keys used key (put used f l)) :
    ∃ a ∈ l, (put used f l).find? (fun a => used a && key a == k) = some (f a) := by
  rcases put_cases f l with ⟨heq, -⟩ | ⟨l₁, a, l₂, rfl, -, -, heq⟩
  · rw [heq] at hput
    exact absurd hput hnew
  · have hnone : l₁.find? (fun a => used a && key a == k) = none := by
      refine find?_eq_none_iff.mpr fun hk => hnew ?_
      rw [keys_append]
      exact List.mem_append_left _ hk
    refine ⟨a, List.mem_append_right _ List.mem_cons_self, ?_⟩
    rw [heq, List.find?_append, hnone, Option.none_or]
    exact List.find?_cons_of_pos (by simp [(hf a).1, (hf a).2])

/-- A change of one entry hides no other key. -/
theorem find?_update_of_ne {f : α → α} (hf : ∀ a, key (f a) = key a) (h : k' ≠ k) (l : List α) :
    (update used key k f l).find? (fun a => used a && key a == k') =
      l.find? fun a => used a && key a == k' := by
  rcases @update_cases α κ used key _ k f l with ⟨heq, -⟩ | ⟨l₁, a, l₂, rfl, -, -, hk, heq, -⟩
  · rw [heq]
  · have hnew : ¬ (used (f a) && key (f a) == k') := by simp [hf a, hk, h.symm]
    have hold : ¬ (used a && key a == k') := by simp [hk, h.symm]
    rw [heq, find?_append_cons_of_neg (fun a => used a && key a == k') hnew,
      find?_append_cons_of_neg (fun a => used a && key a == k') hold]

/-- **The entry that was changed** is found, changed. -/
theorem find?_update_self {f : α → α} (hf : ∀ a, used (f a) = used a ∧ key (f a) = key a)
    (l : List α) :
    (update used key k f l).find? (fun a => used a && key a == k) =
      (l.find? fun a => used a && key a == k).map f := by
  rcases @update_cases α κ used key _ k f l with
    ⟨heq, hk⟩ | ⟨l₁, a, l₂, rfl, hk₁, ha, hk, heq, hfind⟩
  · rw [heq, find?_eq_none_iff.mpr hk]
    rfl
  · rw [heq, hfind, List.find?_append, find?_eq_none_iff.mpr hk₁, Option.none_or]
    exact List.find?_cons_of_pos (by simp [hf a, ha, hk])

end Lookup

/-! ## Entries by index -/

/-- A put changes the first free entry. -/
theorem put_eq_modify (f : α → α) (l : List α) :
    put used f l = (l.findIdx? fun a => ! used a).elim l fun i => l.modify i f := by
  induction l with
  | nil => rfl
  | cons a l ih =>
    by_cases ha : used a
    · have hput : put used f (a :: l) = a :: put used f l := by
        rw [put, List.replaceF_cons_of_none]
        · rfl
        · rw [if_pos ha]
      rw [hput, ih, List.findIdx?_cons, ha]
      cases l.findIdx? fun a => ! used a <;> rfl
    · have hput : put used f (a :: l) = f a :: l := by
        rw [put, List.replaceF_cons_of_some]
        rw [if_neg ha]
      rw [hput, List.findIdx?_cons, Bool.eq_false_iff.mpr ha]
      rfl

/-- An update changes an entry of its key, or there is none. -/
theorem update_eq_modify [DecidableEq κ] (k : κ) (f : α → α) (l : List α) :
    (update used key k f l = l ∧ k ∉ keys used key l) ∨
      ∃ i a, l[i]? = some a ∧ used a ∧ key a = k ∧ update used key k f l = l.modify i f := by
  rcases @update_cases α κ used key _ k f l with h | ⟨l₁, a, l₂, rfl, -, ha, hk, heq, -⟩
  · exact Or.inl h
  · refine Or.inr ⟨l₁.length, a, by simp, ha, hk, ?_⟩
    rw [heq, List.modify_eq_take_cons_drop (by simp)]
    simp

/-! ## Two tables side by side -/

/-- Two tables with the same entries, up to `p` and `q`, stay so when both are put into. -/
theorem map_put {used' : β → Bool} {γ : Type*} {p : α → γ} {q : β → γ} {f : α → α} {g : β → β}
    (hused : ∀ a b, p a = q b → used a = used' b) (hfg : ∀ a b, p a = q b → p (f a) = q (g b))
    {l : List α} {m : List β} (h : l.map p = m.map q) :
    (put used f l).map p = (put used' g m).map q := by
  induction l generalizing m with
  | nil =>
    rw [List.map_nil, eq_comm, List.map_eq_nil_iff] at h
    rw [h]
    rfl
  | cons a l ih =>
    cases m with
    | nil => simp at h
    | cons b m =>
      obtain ⟨hab, hlm⟩ := List.cons.inj h
      simp only [put, List.replaceF_cons, hused a b hab]
      by_cases hb : used' b
      · simp only [hb, if_true, List.map_cons, hab]
        exact congrArg _ (ih hlm)
      · simp only [hb, Bool.false_eq_true, if_false, List.map_cons, hfg a b hab, hlm]

theorem map_update [DecidableEq κ] {used' : β → Bool} {key' : β → κ} {γ : Type*} {p : α → γ}
    {q : β → γ} {f : α → α} {g : β → β} {k : κ}
    (hused : ∀ a b, p a = q b → used a = used' b ∧ key a = key' b)
    (hfg : ∀ a b, p a = q b → p (f a) = q (g b)) {l : List α} {m : List β}
    (h : l.map p = m.map q) :
    (update used key k f l).map p = (update used' key' k g m).map q := by
  induction l generalizing m with
  | nil =>
    rw [List.map_nil, eq_comm, List.map_eq_nil_iff] at h
    rw [h]
    rfl
  | cons a l ih =>
    cases m with
    | nil => simp at h
    | cons b m =>
      obtain ⟨hab, hlm⟩ := List.cons.inj h
      simp only [update, List.replaceF_cons, (hused a b hab).1, (hused a b hab).2]
      by_cases hb : used' b ∧ key' b = k
      · simp only [hb, and_self, if_true, List.map_cons, hfg a b hab, hlm]
      · simp only [hb, if_false, List.map_cons, hab]
        exact congrArg _ (ih hlm)

end FirstFit
