import Mathlib.Data.Nat.Notation
import Mathlib.Order.Basic

/-!
# Runs of event-driven machines

All nondeterminism is in the event: a scheduler choice, a clock reading, a value
chosen by the environment. `next s e = none` says that `e` cannot happen in `s`.
A run may be restricted by a condition on each state and the event taken there.
-/
namespace TransitionRuns

structure Machine (σ ε : Type*) where
  initial : σ → Prop
  next : σ → ε → Option σ

variable {σ ε : Type*}

inductive Execution (m : Machine σ ε) (allowed : σ → ε → Prop) : σ → σ → Prop where
  | refl (s) : Execution m allowed s s
  | tail {s t u e} : Execution m allowed s t → allowed t e → m.next t e = some u →
      Execution m allowed s u

/-- Reachable by steps that all meet `allowed` in the state they are taken in. -/
def ReachableWhile (m : Machine σ ε) (allowed : σ → ε → Prop) (s : σ) : Prop :=
  ∃ i, m.initial i ∧ Execution m allowed i s

def Reachable (m : Machine σ ε) (s : σ) : Prop := ReachableWhile m (fun _ _ => True) s

variable {m : Machine σ ε} {allowed : σ → ε → Prop}

theorem Execution.invariant {I : σ → Prop} {s t : σ} (h : Execution m allowed s t)
    (hs : I s) (step : ∀ a e b, I a → allowed a e → m.next a e = some b → I b) : I t := by
  induction h with
  | refl => exact hs
  | tail _ ha hn ih => exact step _ _ _ ih ha hn

theorem Execution.trans {s t u : σ} (h : Execution m allowed s t)
    (k : Execution m allowed t u) : Execution m allowed s u := by
  induction k with
  | refl => exact h
  | tail _ ha hn ih => exact .tail ih ha hn

theorem Execution.mono {other : σ → ε → Prop} {s t : σ} (h : Execution m allowed s t)
    (hsub : ∀ a e, allowed a e → other a e) : Execution m other s t := by
  induction h with
  | refl => exact .refl _
  | tail _ ha hn ih => exact .tail ih (hsub _ _ ha) hn

theorem ReachableWhile.invariant {I : σ → Prop} {s : σ} (h : ReachableWhile m allowed s)
    (init : ∀ i, m.initial i → I i)
    (step : ∀ a e b, I a → allowed a e → m.next a e = some b → I b) : I s := by
  obtain ⟨i, hi, he⟩ := h
  exact he.invariant (init i hi) step

theorem ReachableWhile.reachable {s : σ} (h : ReachableWhile m allowed s) : Reachable m s := by
  obtain ⟨i, hi, he⟩ := h
  exact ⟨i, hi, he.mono fun _ _ _ => trivial⟩

theorem ReachableWhile.mono {other : σ → ε → Prop} {s : σ} (h : ReachableWhile m allowed s)
    (hsub : ∀ a e, allowed a e → other a e) : ReachableWhile m other s := by
  obtain ⟨i, hi, he⟩ := h
  exact ⟨i, hi, he.mono hsub⟩

theorem ReachableWhile.step {s t : σ} {e : ε} (h : ReachableWhile m allowed s)
    (ha : allowed s e) (hn : m.next s e = some t) : ReachableWhile m allowed t := by
  obtain ⟨i, hi, he⟩ := h
  exact ⟨i, hi, he.tail ha hn⟩

def runTrace (m : Machine σ ε) (s : σ) : List ε → Option σ
  | [] => some s
  | e :: es => (m.next s e).bind fun t => runTrace m t es

theorem run_trace_execution {s t : σ} {es : List ε} (h : runTrace m s es = some t) :
    Execution m (fun _ _ => True) s t := by
  induction es generalizing s with
  | nil => cases h; exact .refl _
  | cons e es ih =>
    obtain ⟨u, hu, ht⟩ := Option.bind_eq_some_iff.mp h
    exact (Execution.tail (.refl s) trivial hu).trans (ih ht)

/-- Every step of a trace meets a condition in the state that it is taken in. -/
def Throughout (m : Machine σ ε) (allowed : σ → ε → Prop) (s : σ) (es : List ε) : Prop :=
  ∀ before e after u, es = before ++ e :: after → runTrace m s before = some u → allowed u e

theorem execution_of_trace {s t : σ} {es : List ε} (h : runTrace m s es = some t)
    (ha : Throughout m allowed s es) : Execution m allowed s t := by
  induction es generalizing s with
  | nil =>
    cases h
    exact .refl _
  | cons e es ih =>
    obtain ⟨v, hv, hr⟩ := Option.bind_eq_some_iff.mp h
    have rest := ih hr fun before d after u hes hu =>
      ha (e :: before) d after u (by rw [hes, List.cons_append])
        (Option.bind_eq_some_iff.mpr ⟨v, hv, hu⟩)
    exact (Execution.tail (.refl s) (ha [] e es s rfl rfl) hv).trans rest

theorem Throughout.before {s : σ} {before after : List ε}
    (h : Throughout m allowed s (before ++ after)) : Throughout m allowed s before := by
  intro first e rest u hes hu
  exact h first e (rest ++ after) u (by simp [hes]) hu

theorem run_trace_concat {s t u : σ} {es : List ε} {e : ε} (h : runTrace m s es = some t)
    (hn : m.next t e = some u) : runTrace m s (es ++ [e]) = some u := by
  induction es generalizing s with
  | nil =>
    cases h
    exact Option.bind_eq_some_iff.mpr ⟨u, hn, rfl⟩
  | cons d es ih =>
    obtain ⟨v, hv, hr⟩ := Option.bind_eq_some_iff.mp h
    exact Option.bind_eq_some_iff.mpr ⟨v, hv, ih hr⟩

theorem run_trace_split {s : σ} {before after : List ε} {e : ε}
    (h : (runTrace m s (before ++ e :: after)).isSome) :
    ∃ u v, runTrace m s before = some u ∧ m.next u e = some v := by
  induction before generalizing s with
  | nil =>
    obtain ⟨t, ht⟩ := Option.isSome_iff_exists.mp h
    obtain ⟨v, hv, -⟩ := Option.bind_eq_some_iff.mp ht
    exact ⟨s, v, rfl, hv⟩
  | cons a before ih =>
    obtain ⟨t, ht⟩ := Option.isSome_iff_exists.mp h
    obtain ⟨d, hd, hrest⟩ := Option.bind_eq_some_iff.mp ht
    obtain ⟨u, v, hu, hv⟩ := ih (Option.isSome_iff_exists.mpr ⟨t, hrest⟩)
    exact ⟨u, v, Option.bind_eq_some_iff.mpr ⟨d, hd, hu⟩, hv⟩

/-- A concrete trace that ends in a state with a decidable property. -/
theorem reachable_of_trace {i : σ} {l : List ε} {p : σ → Bool} (hi : m.initial i)
    (h : (runTrace m i l).any p = true) : ∃ s, Reachable m s ∧ p s = true := by
  obtain ⟨t, ht, hp⟩ := (Option.any_eq_true _ _).mp h
  exact ⟨t, ⟨i, hi, run_trace_execution ht⟩, hp⟩

def runsWhile (m : Machine σ ε) (allowed : σ → ε → Prop) [∀ s e, Decidable (allowed s e)]
    (s : σ) : List ε → Option σ
  | [] => some s
  | e :: es => if allowed s e then (m.next s e).bind fun t => runsWhile m allowed t es else none

theorem throughout_of_runs_while {a : σ → ε → Prop} [∀ s e, Decidable (a s e)] {s : σ}
    {es : List ε} (h : (runsWhile m a s es).isSome) : Throughout m a s es := by
  induction es generalizing s with
  | nil =>
    intro before e after u hes
    simp at hes
  | cons d es ih =>
    by_cases had : a s d
    · cases hn : m.next s d with
      | none => simp [runsWhile, had, hn] at h
      | some v =>
        intro before e after u hes hu
        cases before with
        | nil =>
          obtain ⟨rfl, -⟩ := List.cons.inj hes
          cases hu
          exact had
        | cons b before =>
          obtain ⟨rfl, htail⟩ := List.cons.inj hes
          rw [runTrace, hn, Option.bind_some] at hu
          exact ih (by simpa [runsWhile, had, hn] using h) before e after u htail hu
    · simp [runsWhile, had] at h

theorem execution_of_runs_while {a : σ → ε → Prop} [∀ s e, Decidable (a s e)] {s t : σ}
    {es : List ε} (h : runsWhile m a s es = some t) : Execution m a s t := by
  induction es generalizing s with
  | nil =>
    cases h
    exact .refl _
  | cons e es ih =>
    obtain ⟨ha, h⟩ := Option.ite_none_right_eq_some.mp h
    obtain ⟨u, hu, ht⟩ := Option.bind_eq_some_iff.mp h
    exact (Execution.tail (.refl s) ha hu).trans (ih ht)

theorem reachable_while_of_trace {a : σ → ε → Prop} [∀ s e, Decidable (a s e)] {i : σ}
    {l : List ε} {p : σ → Bool} (hi : m.initial i) (h : (runsWhile m a i l).any p = true) :
    ∃ s, ReachableWhile m a s ∧ p s = true := by
  obtain ⟨t, ht, hp⟩ := (Option.any_eq_true _ _).mp h
  exact ⟨t, ⟨i, hi, execution_of_runs_while ht⟩, hp⟩

end TransitionRuns
