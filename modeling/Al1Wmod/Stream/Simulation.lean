import Al1Wmod.Stream.Transducer
import Al1Wmod.Stream.Machine

/-!
# Simulations between transducers

Two transducers at two levels of one design.  The lower one reads events; the upper one reads what
it gets to see of them: none, one or several, depending on the state of the lower one.  What the
two put out need not be equal.  It agrees in the sense of a relation that holds of nothing and
nothing, and of outputs that agree piece by piece.

A simulation is a relation between the states that every step keeps, with outputs that agree.  So
they agree over whole runs (`Simulates.run`).  Where the lower transducer holds back something of
what it has read, what the upper one has seen and what is held are together what has been read
(`seen_held`).
-/

namespace Simulation

open Transducer Machine

variable {σ τ ε α ω π : Type*}

/-- What the upper transducer sees of a run of the lower one. -/
def seen (step : σ → ε → σ × List ω) (see : σ → ε → List α) : σ → List ε → List α
  | _, [] => []
  | s, e :: l => see s e ++ seen step see (step s e).1 l

/-- Each step of the lower transducer is what the upper one does with what it sees. -/
structure Simulates (step : σ → ε → σ × List ω) (Allowed : σ → ε → Prop)
    (see : σ → ε → List α) (step' : τ → α → τ × List π) (Rel : σ → τ → Prop)
    (Agree : List ω → List π → Prop) : Prop where
  nil : Agree [] []
  append : ∀ {a b c d}, Agree a b → Agree c d → Agree (a ++ c) (b ++ d)
  step : ∀ {s t e}, Rel s t → Allowed s e →
    Rel (step s e).1 (run step' t (see s e)).1 ∧ Agree (step s e).2 (run step' t (see s e)).2

/-- **Runs.**  A run of the lower transducer is the run of the upper one on what it sees. -/
theorem Simulates.run {step : σ → ε → σ × List ω} {Allowed : σ → ε → Prop} {see : σ → ε → List α}
    {step' : τ → α → τ × List π} {Rel : σ → τ → Prop} {Agree : List ω → List π → Prop}
    (h : Simulates step Allowed see step' Rel Agree) {s : σ} {t : τ} (hst : Rel s t)
    {events : List ε} (hadm : Along (fun s e => (step s e).1) Allowed s events) :
    Rel (Transducer.run step s events).1 (Transducer.run step' t (seen step see s events)).1 ∧
      Agree (Transducer.run step s events).2
        (Transducer.run step' t (seen step see s events)).2 := by
  induction events generalizing s t with
  | nil => exact ⟨hst, h.nil⟩
  | cons e events ih =>
    obtain ⟨hrel, hagree⟩ := h.step hst hadm.1
    obtain ⟨hrel', hagree'⟩ := ih hrel hadm.2
    rw [seen, run_append]
    exact ⟨hrel', h.append hagree hagree'⟩

/-- **What is held back.**  If at each step what the upper transducer gets of the input and what the
lower one then holds are what it held and what it reads, this is so over a run. -/
theorem seen_held {step : σ → ε → σ × List ω} {Allowed : σ → ε → Prop} {see : σ → ε → List α}
    (got : α → List π) (held : σ → List π) (read : ε → List π)
    (hstep : ∀ s e, Allowed s e → (see s e).flatMap got ++ held (step s e).1 = held s ++ read e)
    {s : σ} {events : List ε} (hadm : Along (fun s e => (step s e).1) Allowed s events) :
    (seen step see s events).flatMap got ++ held (Transducer.run step s events).1 =
      held s ++ events.flatMap read := by
  induction events generalizing s with
  | nil => exact (List.append_nil _).symm
  | cons e events ih =>
    rw [seen, List.flatMap_append, List.append_assoc, run_cons, ih hadm.2, ← List.append_assoc,
      hstep s e hadm.1, List.append_assoc, List.flatMap_cons]

end Simulation
