import Mathlib.Data.List.Basic

/-!
# Runs of a machine

A machine with a step function runs through a list of events.  `Along step P s l` says that `P`
holds of every step of the run from `s` along `l`, of the state before it and the event.  What is
assumed of the environment is stated in this way, and so is what is proved of the steps.

An invariant is proved for one step and used for the run: `Along.invariant` carries it to the
last state, `Along.congr` lets it decide between two laws about the steps.  `along_view_iff` takes a
law over to another machine.
-/

namespace Machine

variable {σ ε : Type*}

/-- `P` holds of every step. -/
def Along (step : σ → ε → σ) (P : σ → ε → Prop) (s : σ) : List ε → Prop
  | [] => True
  | e :: l => P s e ∧ Along step P (step s e) l

instance decidableAlong (step : σ → ε → σ) (P : σ → ε → Prop) [∀ s e, Decidable (P s e)] :
    ∀ s l, Decidable (Along step P s l)
  | _, [] => inferInstanceAs (Decidable True)
  | s, e :: l =>
    have := decidableAlong step P (step s e) l
    inferInstanceAs (Decidable (P s e ∧ _))

variable {step : σ → ε → σ} {P Q I : σ → ε → Prop} {R : σ → Prop}

theorem Along.imp (h : ∀ s e, P s e → Q s e) {s : σ} {l : List ε} (hs : Along step P s l) :
    Along step Q s l := by
  induction l generalizing s with
  | nil => trivial
  | cons e l ih => exact ⟨h s e hs.1, ih hs.2⟩

/-- A run in two parts. -/
theorem along_append {s : σ} {l m : List ε} :
    Along step P s (l ++ m) ↔ Along step P s l ∧ Along step P (l.foldl step s) m := by
  induction l generalizing s with
  | nil => simp [Along]
  | cons e l ih => rw [List.cons_append, Along, ih, Along, and_assoc, List.foldl_cons]

theorem along_and {s : σ} {l : List ε} :
    Along step (fun s e => P s e ∧ Q s e) s l ↔ Along step P s l ∧ Along step Q s l := by
  induction l generalizing s with
  | nil => simp [Along]
  | cons e l ih =>
    simp only [Along, ih]
    exact and_and_and_comm

/-- What every step along the run keeps holds at its end. -/
theorem Along.invariant (hstep : ∀ s e, R s → P s e → R (step s e)) {s : σ} {l : List ε}
    (hs : R s) (h : Along step P s l) : R (l.foldl step s) := by
  induction l generalizing s with
  | nil => exact hs
  | cons e l ih => exact ih (hstep s e hs h.1) h.2

/-- Two laws that agree where an invariant holds agree along a run. -/
theorem Along.congr (hstep : ∀ s e, R s → I s e → R (step s e))
    (hiff : ∀ s e, R s → I s e → (P s e ↔ Q s e)) {s : σ} {l : List ε} (hs : R s)
    (h : Along step I s l) : Along step P s l ↔ Along step Q s l := by
  induction l generalizing s with
  | nil => exact Iff.rfl
  | cons e l ih =>
    exact and_congr (hiff s e hs h.1) (ih (hstep s e hs h.1) h.2)

/-- Two laws that agree where an invariant holds agree along a run, if either keeps it. -/
theorem Along.iff_of_invariant (hstep : ∀ s e, R s → Q s e → R (step s e))
    (hiff : ∀ s e, R s → (P s e ↔ Q s e)) {s : σ} {l : List ε} (hs : R s) :
    Along step P s l ↔ Along step Q s l := by
  induction l generalizing s with
  | nil => exact Iff.rfl
  | cons e l ih =>
    rw [Along, Along, hiff s e hs]
    exact and_congr_right fun hQ => ih (hstep s e hs hQ)

/-- A law that an invariant implies holds along a run. -/
theorem Along.of_invariant (hstep : ∀ s e, R s → I s e → R (step s e))
    (hlaw : ∀ s e, R s → I s e → P s e) {s : σ} {l : List ε} (hs : R s) (h : Along step I s l) :
    Along step P s l := by
  induction l generalizing s with
  | nil => trivial
  | cons e l ih => exact ⟨hlaw s e hs h.1, ih (hstep s e hs h.1) h.2⟩

/-- What every step leads to holds of the states of the run. -/
theorem along_next_iff {s : σ} (hs : R s) {l : List ε} :
    Along step (fun s e => R (step s e)) s l ↔ ∀ m, m <+: l → R (m.foldl step s) := by
  induction l generalizing s with
  | nil =>
    refine ⟨fun _ m hm => ?_, fun _ => trivial⟩
    rw [List.prefix_nil.mp hm]
    exact hs
  | cons e l ih =>
    constructor
    · rintro ⟨hnext, hl⟩ m hm
      rcases List.prefix_cons_iff.mp hm with rfl | ⟨t, rfl, ht⟩
      · exact hs
      · exact (ih hnext).mp hl t ht
    · intro h
      have hnext := h [e] ((List.prefix_cons_inj e).mpr List.nil_prefix)
      exact ⟨hnext, (ih hnext).mpr fun t ht => h (e :: t) ((List.prefix_cons_inj e).mpr ht)⟩

/-- **A law seen from above.**  Two machines agree along a run, if they agree on each step, and the
state of the one is that of the other seen through `view` as long as the law holds. -/
theorem along_view_iff {τ : Type*} (view : σ → τ) {step' : τ → ε → τ} {P' : τ → ε → Prop}
    {A : ε → Prop}
    (hstep : ∀ s e, R s → A e → (P s e ↔ P' (view s) e) ∧
      (P s e → R (step s e) ∧ view (step s e) = step' (view s) e))
    {s : σ} (hs : R s) {l : List ε} (hl : ∀ e ∈ l, A e) :
    Along step P s l ↔ Along step' P' (view s) l := by
  induction l generalizing s with
  | nil => exact Iff.rfl
  | cons e l ih =>
    obtain ⟨hiff, hnext⟩ := hstep s e hs (hl e List.mem_cons_self)
    have hl' : ∀ e ∈ l, A e := fun e' he' => hl e' (List.mem_cons_of_mem e he')
    constructor
    · rintro ⟨hP, hrest⟩
      obtain ⟨hR, hview⟩ := hnext hP
      exact ⟨hiff.mp hP, hview ▸ (ih hR hl').mp hrest⟩
    · rintro ⟨hP', hrest⟩
      obtain ⟨hR, hview⟩ := hnext (hiff.mpr hP')
      exact ⟨hiff.mpr hP', (ih hR hl').mpr (hview ▸ hrest)⟩

end Machine
