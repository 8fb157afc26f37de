import Mathlib.Logic.Basic

/-!
# Histories

A history lists what happened, the newest entry first, so the past of an entry is the list
behind it.  `Since P Q` says that at some entry `Q` held, of the entry and its past, and that
every entry after it satisfied `P`.  Laws about the order of events are built from it, and
because it looks at one more entry at a time, an invariant that relates a state to its history
is shown step by step.  `Historically Q` says that every entry satisfied `Q` together with its
own past: it is how a law about all moments of a run is stated.
-/

namespace PastTime

variable {α : Type*}

/-- Since some entry with `Q`, only entries with `P`. -/
def Since (P : α → Prop) (Q : α → List α → Prop) : List α → Prop
  | [] => False
  | a :: past => Q a past ∨ (P a ∧ Since P Q past)

instance decidableSince (P : α → Prop) (Q : α → List α → Prop) [DecidablePred P]
    [∀ a past, Decidable (Q a past)] : ∀ h, Decidable (Since P Q h)
  | [] => inferInstanceAs (Decidable False)
  | a :: past =>
    have := decidableSince P Q past
    inferInstanceAs (Decidable (Q a past ∨ (P a ∧ Since P Q past)))

/-- Every entry, with its past, satisfied `Q`. -/
def Historically (Q : α → List α → Prop) : List α → Prop
  | [] => True
  | a :: past => Q a past ∧ Historically Q past

instance decidableHistorically (Q : α → List α → Prop) [∀ a past, Decidable (Q a past)] :
    ∀ h, Decidable (Historically Q h)
  | [] => inferInstanceAs (Decidable True)
  | a :: past =>
    have := decidableHistorically Q past
    inferInstanceAs (Decidable (Q a past ∧ Historically Q past))

variable {P P' : α → Prop} {Q Q' : α → List α → Prop}

@[simp] theorem not_since_nil : ¬ Since P Q [] := id

theorem since_cons {a : α} {past : List α} :
    Since P Q (a :: past) ↔ Q a past ∨ (P a ∧ Since P Q past) := Iff.rfl

/-- **What starts with `Q` and outlives `P`.**  To derive a property of a history from `Since`,
show that the starting entry brings it about and that the later ones keep it. -/
theorem Since.elim {R : List α → Prop} {h : List α} (hs : Since P Q h)
    (hstart : ∀ a past, Q a past → R (a :: past))
    (hkeep : ∀ a past, P a → R past → R (a :: past)) : R h := by
  induction h with
  | nil => exact absurd hs not_since_nil
  | cons a past ih =>
    rcases hs with hQ | ⟨hP, hpast⟩
    · exact hstart a past hQ
    · exact hkeep a past hP (ih hpast)

/-- Weakening both sides. -/
theorem Since.imp {h : List α} (hP : ∀ a, P a → P' a) (hQ : ∀ a past, Q a past → Q' a past)
    (hs : Since P Q h) : Since P' Q' h :=
  hs.elim (fun a past ha => Or.inl (hQ a past ha)) fun a _ ha hpast => Or.inr ⟨hP a ha, hpast⟩

theorem historically_cons {a : α} {past : List α} :
    Historically Q (a :: past) ↔ Q a past ∧ Historically Q past := Iff.rfl

/-- What concerns the entries alone is a law about the members. -/
theorem historically_iff_mem {R : α → Prop} {h : List α} :
    Historically (fun a _ => R a) h ↔ ∀ a ∈ h, R a := by
  induction h with
  | nil => simp [Historically]
  | cons b h ih => rw [historically_cons, ih, List.forall_mem_cons]

end PastTime
