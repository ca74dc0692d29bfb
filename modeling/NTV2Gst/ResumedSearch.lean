import Mathlib.Data.Nat.Notation
import Mathlib.Tactic.ByContra

/-!
# A search that resumes where it last succeeded

Each round looks for the first hit among `n` places, starting at the last hit. After a miss
the next round starts at the first place again.
-/
namespace ResumedSearch

def firstFrom (hit : ℕ → Bool) : ℕ → ℕ → Option ℕ
  | 0, _ => none
  | remaining + 1, i => if hit i then some i else firstFrom hit remaining (i + 1)

/-- One round; its result is where the next one resumes. -/
def next (n : ℕ) (last : Option ℕ) (hit : ℕ → Bool) : Option ℕ :=
  let i := last.getD 0
  firstFrom hit (n - i) i

def Resumes (last : Option ℕ) (found : List ℕ) : Prop :=
  last.getD 0 = 0 ∨ found.getLast? = last

section Search

variable {hit : ℕ → Bool} {n k : ℕ} {last : Option ℕ}

theorem first_from_some {remaining i : ℕ} (h : firstFrom hit remaining i = some k) :
    i ≤ k ∧ k < i + remaining ∧ hit k = true ∧ ∀ j, i ≤ j → j < k → hit j = false := by
  induction remaining generalizing i with
  | zero => cases h
  | succ remaining ih =>
    unfold firstFrom at h
    split at h
    case isTrue hi =>
      cases h
      exact ⟨Nat.le_refl _, by omega, hi, fun j hj hlt => absurd hj (by omega)⟩
    case isFalse hi =>
      obtain ⟨hle, hlt, hk, hbefore⟩ := ih h
      refine ⟨by omega, by omega, hk, fun j hj hjk => ?_⟩
      by_cases hij : j = i
      · subst hij
        simpa using hi
      · exact hbefore j (by omega) hjk

theorem first_from_none {remaining i : ℕ} (h : firstFrom hit remaining i = none) :
    ∀ j, i ≤ j → j < i + remaining → hit j = false := by
  induction remaining generalizing i with
  | zero =>
    intro j hj hlt
    omega
  | succ remaining ih =>
    unfold firstFrom at h
    split at h
    case isTrue => cases h
    case isFalse hi =>
      intro j hj hlt
      by_cases hij : j = i
      · subst hij
        simpa using hi
      · exact ih h j (by omega) (by omega)

theorem next_some (h : next n last hit = some k) :
    last.getD 0 ≤ k ∧ k < n ∧ hit k = true ∧ ∀ j, last.getD 0 ≤ j → j < k → hit j = false := by
  obtain ⟨hle, hlt, hk, hbefore⟩ := first_from_some h
  exact ⟨hle, by omega, hk, hbefore⟩

theorem before_of_missed (h : next n last hit = none) (hk : k < n) (hit_k : hit k = true) :
    k < last.getD 0 := by
  by_contra hle
  have hmiss := first_from_none h k (by omega) (by omega)
  rw [hit_k] at hmiss
  cases hmiss

theorem found_from_start (h : ∃ k < n, hit k = true) : (next n none hit).isSome := by
  by_contra hnone
  obtain ⟨k, hk, hit_k⟩ := h
  have hlt := before_of_missed (Option.not_isSome_iff_eq_none.mp hnone) hk hit_k
  exact absurd hlt (Nat.not_lt_zero k)

theorem resumes_next (n : ℕ) (hit : ℕ → Bool) (last : Option ℕ) (found : List ℕ) :
    Resumes (next n last hit) (found ++ (next n last hit).toList) := by
  cases next n last hit with
  | none => exact Or.inl rfl
  | some k =>
    right
    exact List.getLast?_concat

/-- What a round misses lies before the place of the last hit. -/
theorem missed_behind {found : List ℕ} (hr : Resumes last found) (h : next n last hit = none)
    (hex : ∃ k < n, hit k = true) :
    ∃ m, found.getLast? = some m ∧ ∀ k < n, hit k = true → k < m := by
  obtain ⟨k, hk, hit_k⟩ := hex
  have hlt := before_of_missed h hk hit_k
  rcases hr with hzero | hlast
  · omega
  · cases hl : last with
    | none => simp [hl] at hlt
    | some m =>
      refine ⟨m, hlast.trans hl, fun j hj hit_j => ?_⟩
      have hlt' := before_of_missed h hj hit_j
      rwa [hl] at hlt'

end Search

end ResumedSearch
