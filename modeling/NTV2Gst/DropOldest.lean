import Mathlib.Data.List.Basic

/-!
# Dropping the oldest entries of a bounded queue

The producer of a bounded queue pops from the head while the queue is full.
`overflow bound q` splits `q` into what that loop pops and what it leaves.
-/
namespace DropOldest

variable {α : Type*}

def overflow (bound : ℕ) : List α → List α × List α
  | [] => ([], [])
  | x :: q =>
    if bound ≤ (x :: q).length then (x :: (overflow bound q).1, (overflow bound q).2)
    else ([], x :: q)

def popped (bound : ℕ) (q : List α) : List α := (overflow bound q).1

def left (bound : ℕ) (q : List α) : List α := (overflow bound q).2

theorem popped_append_left (bound : ℕ) (q : List α) : popped bound q ++ left bound q = q := by
  induction q with
  | nil => rfl
  | cons x q ih =>
    unfold popped left at *
    simp only [overflow]
    split
    · simpa using ih
    · rfl

theorem left_length_lt {bound : ℕ} (hb : 0 < bound) (q : List α) :
    (left bound q).length < bound := by
  induction q with
  | nil => simpa [left, overflow] using hb
  | cons x q ih =>
    unfold left at *
    simp only [overflow]
    split
    · exact ih
    · exact Nat.lt_of_not_le ‹_›

theorem overflow_map {β : Type*} (f : α → β) (bound : ℕ) (q : List α) :
    popped bound (q.map f) = (popped bound q).map f ∧
      left bound (q.map f) = (left bound q).map f := by
  induction q with
  | nil => exact ⟨rfl, rfl⟩
  | cons x q ih =>
    unfold popped left at *
    simp only [List.map_cons, overflow, List.length_cons, List.length_map]
    split
    · exact ⟨by simp [ih.1], ih.2⟩
    · exact ⟨rfl, rfl⟩

theorem length_lt_of_popped_nil {bound : ℕ} (hb : 0 < bound) {q : List α}
    (h : popped bound q = []) : q.length < bound := by
  have hq := popped_append_left bound q
  rw [h, List.nil_append] at hq
  rw [← hq]
  exact left_length_lt hb q

theorem left_length_of_popped {bound : ℕ} (hb : 0 < bound) {q : List α}
    (h : popped bound q ≠ []) : (left bound q).length + 1 = bound := by
  induction q with
  | nil => exact absurd rfl h
  | cons x q ih =>
    by_cases hx : bound ≤ (x :: q).length
    · have hl : left bound (x :: q) = left bound q := by
        rw [left, overflow, if_pos hx]
        rfl
      rw [hl]
      by_cases hq : popped bound q = []
      · have hlt := length_lt_of_popped_nil hb hq
        have hleft := popped_append_left bound q
        rw [hq, List.nil_append] at hleft
        rw [hleft]
        simp only [List.length_cons] at hx
        omega
      · exact ih hq
    · exact absurd (by rw [popped, overflow, if_neg hx]) h

end DropOldest
