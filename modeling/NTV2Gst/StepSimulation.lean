import NTV2Gst.TransitionRuns

/-!
# Refinement between machines

A mapping of states takes every step of a machine to some steps of another one, possibly to
none. Runs are then mapped to runs, and what holds of all reachable states of the second
machine holds of the images.
-/
namespace StepSimulation

open TransitionRuns

variable {σ ε τ δ : Type*} {c : Machine σ ε} {a : Machine τ δ} {f : σ → τ} {act : σ → ε → List δ}

structure Refines (c : Machine σ ε) (a : Machine τ δ) (f : σ → τ) (act : σ → ε → List δ) :
    Prop where
  initial : ∀ s, c.initial s → a.initial (f s)
  step : ∀ s e t, c.next s e = some t → runTrace a (f s) (act s e) = some (f t)

theorem Refines.execution {allowed : σ → ε → Prop} {s t : σ} (h : Refines c a f act)
    (he : Execution c allowed s t) : Execution a (fun _ _ => True) (f s) (f t) := by
  induction he with
  | refl => exact .refl _
  | tail _ _ hn ih => exact ih.trans (run_trace_execution (h.step _ _ _ hn))

theorem Refines.reachable {allowed : σ → ε → Prop} {s : σ} (h : Refines c a f act)
    (hr : ReachableWhile c allowed s) : Reachable a (f s) := by
  obtain ⟨i, hi, he⟩ := hr
  exact ⟨f i, h.initial i hi, h.execution he⟩

end StepSimulation
