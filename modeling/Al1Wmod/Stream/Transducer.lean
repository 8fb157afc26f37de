import Mathlib.Data.List.Basic
import Mathlib.Data.List.Flatten

/-!
# Transducers

A transducer reads one letter at a time, keeps a state, and puts out a list of
letters at each step.  `run` feeds a whole list and collects the output.  Every
machine of a byte stream or of an event loop is one of these, so the facts that
do not depend on the machine are proved here once:

* `run_append`, `run_flatten`: feeding a stream in pieces is feeding it whole,
  however the pieces are cut, the empty ones included;
* `run_out_induction`: what every step out of a good state puts out, a run puts out;
* `rank_run`, `length_run_out_le_one`: a machine that runs down, and what it puts out meanwhile.

`trace` keeps apart what the steps of a run put out, and `outAt` takes it from some of them.
-/

namespace Transducer

variable {σ α β : Type*}

/-- Feed a list of letters, collecting the output. -/
def run (step : σ → α → σ × List β) : σ → List α → σ × List β
  | s, [] => (s, [])
  | s, a :: l =>
    let r := step s a
    let t := run step r.1 l
    (t.1, r.2 ++ t.2)

section Laws

variable (step : σ → α → σ × List β)

@[simp] theorem run_nil (s : σ) : run step s [] = (s, []) := rfl

theorem run_cons (s : σ) (a : α) (l : List α) :
    run step s (a :: l) =
      ((run step (step s a).1 l).1, (step s a).2 ++ (run step (step s a).1 l).2) := rfl

@[simp] theorem run_singleton (s : σ) (a : α) : run step s [a] = step s a := by
  rw [run_cons, run_nil, List.append_nil]

/-- Feeding a list is feeding its first part and then the rest. -/
theorem run_append (s : σ) (l m : List α) :
    run step s (l ++ m) =
      ((run step (run step s l).1 m).1, (run step s l).2 ++ (run step (run step s l).1 m).2) := by
  induction l generalizing s with
  | nil => simp
  | cons a l ih => rw [List.cons_append, run_cons, ih, run_cons, List.append_assoc]

/-- The states of a run. -/
theorem run_fst (s : σ) (l : List α) :
    (run step s l).1 = l.foldl (fun s a => (step s a).1) s := by
  induction l generalizing s with
  | nil => rfl
  | cons a l ih => rw [run_cons, ih, List.foldl_cons]

/-- **The cuts do not matter.**  Feeding chunk after chunk ends in the state, and puts
out the letters, of feeding their concatenation. -/
theorem run_flatten (s : σ) (chunks : List (List α)) :
    run (run step) s chunks = run step s chunks.flatten := by
  induction chunks generalizing s with
  | nil => rfl
  | cons c chunks ih => rw [run_cons, ih, List.flatten_cons, run_append]

variable {step}

/-- What every step out of a good state puts out, a run puts out. -/
theorem run_out_induction {P : σ → Prop} {Q : β → Prop}
    (hstep : ∀ s a, P s → P (step s a).1) (hout : ∀ s a, P s → ∀ b ∈ (step s a).2, Q b)
    {s : σ} (hs : P s) (l : List α) : ∀ b ∈ (run step s l).2, Q b := by
  induction l generalizing s with
  | nil => exact fun b hb => absurd hb (List.not_mem_nil)
  | cons a l ih =>
    intro b hb
    rw [run_cons, List.mem_append] at hb
    rcases hb with hb | hb
    · exact hout s a hs b hb
    · exact ih (hstep s a hs) b hb

/-! ### Ranks

A machine runs down if, over the letters in `A` and out of the states in `P`, each step takes one
off its rank.  It puts something out only as it reaches rank 0, and there it is quiet. -/

section Rank

variable {P : σ → Prop} {A : α → Prop} {rank : σ → ℕ}
  (hP : ∀ s a, P s → A a → P (step s a).1)
  (hrank : ∀ s a, P s → A a → rank (step s a).1 ≤ rank s - 1)

include hP hrank

/-- Each letter takes one off the rank. -/
theorem rank_run {s : σ} (hs : P s) {l : List α} (hl : ∀ a ∈ l, A a) :
    rank (run step s l).1 ≤ rank s - l.length := by
  induction l generalizing s with
  | nil => exact Nat.le_refl _
  | cons a l ih =>
    have ha := hl a List.mem_cons_self
    have hnext := ih (hP s a hs ha) fun b hb => hl b (List.mem_cons_of_mem _ hb)
    have hstep := hrank s a hs ha
    rw [run_cons, List.length_cons]
    show rank (run step (step s a).1 l).1 ≤ _
    omega

/-- At rank 0 a machine stays quiet. -/
theorem run_out_of_rank_zero (hquiet : ∀ s a, P s → A a → rank s = 0 → (step s a).2 = []) {s : σ}
    (hs : P s) {l : List α} (hl : ∀ a ∈ l, A a) (hzero : rank s = 0) : (run step s l).2 = [] := by
  induction l generalizing s with
  | nil => rfl
  | cons a l ih =>
    have ha := hl a List.mem_cons_self
    have hnext := hrank s a hs ha
    rw [run_cons, hquiet s a hs ha hzero]
    exact ih (hP s a hs ha) (fun b hb => hl b (List.mem_cons_of_mem _ hb)) (by omega)

/-- **On the way down** it puts out at most one letter. -/
theorem length_run_out_le_one (hquiet : ∀ s a, P s → A a → rank s = 0 → (step s a).2 = [])
    (hlast : ∀ s a, P s → A a → (step s a).2 ≠ [] →
      (step s a).2.length = 1 ∧ rank (step s a).1 = 0)
    {s : σ} (hs : P s) {l : List α} (hl : ∀ a ∈ l, A a) : (run step s l).2.length ≤ 1 := by
  induction l generalizing s with
  | nil => exact Nat.zero_le 1
  | cons a l ih =>
    have ha := hl a List.mem_cons_self
    have hl' : ∀ b ∈ l, A b := fun b hb => hl b (List.mem_cons_of_mem _ hb)
    rw [run_cons]
    show ((step s a).2 ++ (run step (step s a).1 l).2).length ≤ 1
    by_cases hout : (step s a).2 = []
    · rw [hout]
      exact ih (hP s a hs ha) hl'
    · obtain ⟨hone, hzero⟩ := hlast s a hs ha hout
      rw [run_out_of_rank_zero hP hrank hquiet (hP s a hs ha) hl' hzero, List.append_nil]
      exact Nat.le_of_eq hone

end Rank

end Laws

/-- What each letter of a list puts out. -/
def trace (step : σ → α → σ × List β) : σ → List α → List (List β)
  | _, [] => []
  | s, a :: l => (step s a).2 :: trace step (step s a).1 l

section Trace

variable (step : σ → α → σ × List β)

theorem trace_append (s : σ) (l m : List α) :
    trace step s (l ++ m) = trace step s l ++ trace step (run step s l).1 m := by
  induction l generalizing s with
  | nil => rfl
  | cons a l ih => rw [List.cons_append, trace, ih, trace, run_cons, List.cons_append]

/-- Together they are what the run puts out. -/
theorem flatten_trace (s : σ) (l : List α) : (trace step s l).flatten = (run step s l).2 := by
  induction l generalizing s with
  | nil => rfl
  | cons a l ih => rw [trace, List.flatten_cons, ih, run_cons]

@[simp] theorem length_trace (s : σ) (l : List α) : (trace step s l).length = l.length := by
  induction l generalizing s with
  | nil => rfl
  | cons a l ih => rw [trace, List.length_cons, ih, List.length_cons]

variable {step}

/-- If a run puts out nothing, no letter of it does. -/
theorem trace_of_run_eq_nil {s : σ} {l : List α} (h : (run step s l).2 = []) :
    trace step s l = List.replicate l.length [] := by
  rw [List.eq_replicate_iff, length_trace]
  refine ⟨rfl, ?_⟩
  rw [← flatten_trace, List.flatten_eq_nil_iff] at h
  exact h

end Trace

/-- What a run puts out at the letters that satisfy `p`. -/
def outAt (step : σ → α → σ × List β) (p : α → Bool) : σ → List α → List β
  | _, [] => []
  | s, a :: l => (if p a then (step s a).2 else []) ++ outAt step p (step s a).1 l

end Transducer
