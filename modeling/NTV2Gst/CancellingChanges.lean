import Mathlib.Data.List.Chain

/-!
# Changes of a two-valued level

The changes of a level that is either up or down alternate. A reader that misses a
change and the opposite one right after it still ends at the same level; `Cancels`
drops such pairs.
-/
namespace CancellingChanges

def Alternates (l : List Bool) : Prop := l.IsChain (· ≠ ·)

inductive Cancels : List Bool → List Bool → Prop where
  | refl (l) : Cancels l l
  | drop {l p q} (a : Bool) : Cancels l (p ++ a :: (!a) :: q) → Cancels l (p ++ q)

variable {l r m : List Bool}

theorem Cancels.trans (h : Cancels l r) (k : Cancels r m) : Cancels l m := by
  induction k with
  | refl => exact h
  | drop a _ ih => exact .drop a ih

theorem Cancels.append (x y : List Bool) (h : Cancels l r) :
    Cancels (x ++ (l ++ y)) (x ++ (r ++ y)) := by
  induction h with
  | refl => exact .refl _
  | @drop p q a _ ih =>
    have h := Cancels.drop (l := x ++ (l ++ y)) (p := x ++ p) (q := q ++ y) a (by simpa using ih)
    simpa using h

theorem alternates_append_singleton {a : Bool} (h : Alternates l) (hl : l.getLast? ≠ some a) :
    Alternates (l ++ [a]) :=
  List.IsChain.append h (List.isChain_singleton a) fun x hx y hy => by
    cases hy
    rintro rfl
    exact hl hx

section Neighbours

variable {p q : List Bool} {a b : Bool}

theorem Alternates.next (h : Alternates (p ++ a :: b :: q)) : b = !a :=
  Bool.eq_not.mpr (List.isChain_append_cons_cons.mp h).2.1.symm

theorem Alternates.previous (h : Alternates (p ++ a :: q)) : ∀ x ∈ p.getLast?, x = !a := by
  intro x hx
  exact Bool.eq_not.mpr ((List.isChain_append.mp h).2.2 x hx a rfl)

theorem not_alternates_repeat (p q : List Bool) (a : Bool) : ¬ Alternates (p ++ a :: a :: q) :=
  fun h => (List.isChain_append_cons_cons.mp h).2.1 rfl

theorem Alternates.same_change (h : Alternates (p ++ a :: l)) (k : Alternates (p ++ b :: r))
    (hh : (p ++ a :: l).head? = (p ++ b :: r).head?) : a = b := by
  rcases List.eq_nil_or_concat p with rfl | ⟨p, x, rfl⟩
  · simpa using hh
  · have ha := h.previous x (by simp)
    have hb := k.previous x (by simp)
    exact Bool.not_inj (ha.symm.trans hb)

theorem Alternates.single (h : Alternates (a :: l)) (hn : (!a) ∉ l) : l = [] := by
  cases l with
  | nil => rfl
  | cons b l =>
    have hb : b = !a := Alternates.next (p := []) h
    exact absurd (hb ▸ List.mem_cons_self) hn

end Neighbours

theorem Cancels.alternates (h : Cancels l r) (ha : Alternates l) : Alternates r := by
  induction h with
  | refl => exact ha
  | @drop p q a _ ih =>
    have hc := List.isChain_append.mp ih
    apply List.IsChain.append hc.1 (hc.2.1.tail.tail)
    intro x hx y hy
    rw [ih.previous x hx]
    exact (List.isChain_cons.mp hc.2.1.tail).1 y hy

/-- Cancelling keeps the level at the end, as long as a change remains to tell it. -/
theorem Cancels.last (h : Cancels l r) (ha : Alternates l) :
    r = [] ∨ r.getLast? = l.getLast? := by
  induction h with
  | refl => exact Or.inr rfl
  | @drop p q a hc ih =>
    have hp := (hc.alternates ha).previous
    rcases ih with ih | ih
    · simp at ih
    cases q with
    | cons b q => exact Or.inr (by simpa using ih)
    | nil =>
      rcases List.eq_nil_or_concat p with rfl | ⟨p', x, rfl⟩
      · exact Or.inl rfl
      · have hx := hp x (by simp)
        exact Or.inr (by simpa [hx] using ih)

theorem Cancels.head (h : Cancels l r) (ha : Alternates l) : r = [] ∨ r.head? = l.head? := by
  induction h with
  | refl => exact Or.inr rfl
  | @drop p q a hc ih =>
    have hal := hc.alternates ha
    rcases ih with ih | ih
    · simp at ih
    cases p with
    | cons b p => exact Or.inr (by simpa using ih)
    | nil =>
      cases q with
      | nil => exact Or.inl rfl
      | cons b q =>
        have hb : b = a := (Alternates.next (p := [a]) hal).trans (Bool.not_not a)
        exact Or.inr (by simpa [hb] using ih)

/-- An alternating block collapses to its first change, or to nothing, depending on
where it ends. -/
theorem cancels_block (a : Bool) :
    ∀ l : List Bool, Alternates (a :: l) →
      Cancels (a :: l) (if (a :: l).getLast? = some a then [a] else [])
  | [], _ => by simpa using Cancels.refl [a]
  | [b], h => by
    have hb : b = !a := Alternates.next (p := []) h
    subst hb
    have hne : (!a) ≠ a := by cases a <;> decide
    simpa [hne] using Cancels.drop (p := []) (q := []) a (.refl [a, !a])
  | b :: c :: m, h => by
    have hb : b = !a := Alternates.next (p := []) h
    have hc : c = a := by simpa [hb] using Alternates.next (p := [a]) h
    subst hb hc
    have ih := cancels_block c m h.tail.tail
    have hd := Cancels.drop (p := []) (q := c :: m) c (.refl (c :: (!c) :: c :: m))
    simpa using hd.trans ih

theorem cancels_to_head {a : Bool} (h : Alternates (a :: l))
    (hl : (a :: l).getLast? = some a) : Cancels (a :: l) [a] := by
  have := cancels_block a l h
  rwa [if_pos hl] at this

theorem cancels_to_nil {a : Bool} (h : Alternates (a :: l))
    (hl : (a :: l).getLast? = some !a) : Cancels (a :: l) [] := by
  have := cancels_block a l h
  rwa [if_neg (by rw [hl]; cases a <;> decide)] at this

end CancellingChanges
