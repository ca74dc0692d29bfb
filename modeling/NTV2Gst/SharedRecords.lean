import Mathlib.Algebra.BigOperators.Group.List.Basic
import Mathlib.Algebra.Order.Group.Multiset

/-!
# Records shared by reference counting

A reference belongs to the party that holds it. A block of operations is described by the
references it needs and those it leaves; whatever else is held does not matter.
-/
namespace SharedRecords

abbrev Refs (π α : Type*) := Multiset (π × α)

inductive Op (π α : Type*) where
  | acquire (p : π) (x : α)
  | access (p : π) (x : α)
  | ref (p : π) (x : α)
  | unref (p : π) (x : α)
  | hand (p q : π) (x : α)
  deriving DecidableEq, Repr

variable {π α : Type*}

def heldBy (p : π) (xs : List α) : Refs π α := (xs.map fun x => {(p, x)}).sum

theorem held_by_nil (p : π) : heldBy p ([] : List α) = 0 := rfl

theorem held_by_cons (p : π) (x : α) (xs : List α) :
    heldBy p (x :: xs) = {(p, x)} + heldBy p xs := rfl

theorem held_by_append (p : π) (xs ys : List α) :
    heldBy p (xs ++ ys) = heldBy p xs + heldBy p ys := by
  simp [heldBy]

theorem held_by_party {p : π} {xs : List α} {h : π × α} (hh : h ∈ heldBy p xs) : h.1 = p := by
  induction xs with
  | nil => cases hh
  | cons x xs ih =>
    rw [held_by_cons, Multiset.mem_add, Multiset.mem_singleton] at hh
    rcases hh with rfl | hh
    · rfl
    · exact ih hh

variable [DecidableEq α]

def Refs.refCount (r : Refs π α) (x : α) : ℕ := r.countP (·.2 = x)

theorem ref_count_pos {r : Refs π α} {p : π} {x : α} (h : (p, x) ∈ r) : 0 < r.refCount x :=
  Multiset.countP_pos.mpr ⟨(p, x), h, rfl⟩

variable [DecidableEq π]

/-- The reference without which the operation must not be done. -/
def Op.holder : Op π α → Option (π × α)
  | .acquire _ _ => none
  | .access p x | .ref p x | .unref p x | .hand p _ x => some (p, x)

def Op.exec (r : Refs π α) : Op π α → Refs π α
  | .acquire p x | .ref p x => {(p, x)} + r
  | .access _ _ => r
  | .unref p x => r.erase (p, x)
  | .hand p q x => {(q, x)} + r.erase (p, x)

def Op.Allowed (r : Refs π α) (op : Op π α) : Prop := ∀ h, op.holder = some h → h ∈ r

def exec (r : Refs π α) (ops : List (Op π α)) : Refs π α := ops.foldl Op.exec r

def Held : Refs π α → List (Op π α) → Prop
  | _, [] => True
  | r, op :: ops => op.Allowed r ∧ Held (op.exec r) ops

structure Triple (r : Refs π α) (ops : List (Op π α)) (u : Refs π α) : Prop where
  held : Held r ops
  result : exec r ops = u

section Rules

variable {r u v f : Refs π α} {op : Op π α} {ops rest : List (Op π α)}

theorem Op.exec_add (h : op.Allowed r) : op.exec (r + f) = op.exec r + f := by
  cases op with
  | acquire p x | ref p x => exact (add_assoc _ _ _).symm
  | access p x => rfl
  | unref p x => exact Multiset.erase_add_left_pos _ (h _ rfl)
  | hand p q x =>
    simp only [Op.exec]
    rw [Multiset.erase_add_left_pos _ (h _ rfl), add_assoc]

namespace Triple

theorem nil (r : Refs π α) : Triple r [] r := ⟨trivial, rfl⟩

theorem of_eq (h : r = u) : Triple r [] u := ⟨trivial, h⟩

theorem cons (ha : op.Allowed r) (h : Triple (op.exec r) ops u) : Triple r (op :: ops) u :=
  ⟨⟨ha, h.held⟩, h.result⟩

theorem append (h : Triple r ops u) (k : Triple u rest v) : Triple r (ops ++ rest) v := by
  induction ops generalizing r with
  | nil =>
    obtain ⟨-, rfl⟩ := h
    exact k
  | cons op ops ih => exact cons h.held.1 (ih ⟨h.held.2, h.result⟩)

theorem frame (h : Triple r ops u) (f : Refs π α) : Triple (r + f) ops (u + f) := by
  induction ops generalizing r with
  | nil =>
    obtain ⟨-, rfl⟩ := h
    exact nil _
  | cons op ops ih =>
    refine cons (fun x hx => Multiset.mem_add.mpr (Or.inl (h.held.1 x hx))) ?_
    rw [Op.exec_add h.held.1]
    exact ih ⟨h.held.2, h.result⟩

theorem within {r' u' : Refs π α} (h : Triple r ops u) (f : Refs π α) (hr : r' = r + f)
    (hu : u' = u + f) : Triple r' ops u' := by
  rw [hr, hu]
  exact h.frame f

theorem acquire (p : π) (x : α) : Triple 0 [.acquire p x] {(p, x)} := ⟨⟨nofun, trivial⟩, rfl⟩

theorem access (p : π) (x : α) : Triple {(p, x)} [.access p x] {(p, x)} :=
  cons (fun _ hx => by cases hx; simp) (nil _)

theorem ref (p : π) (x : α) : Triple {(p, x)} [.ref p x] ({(p, x)} + {(p, x)}) :=
  cons (fun _ hx => by cases hx; simp) (nil _)

theorem unref (p : π) (x : α) : Triple {(p, x)} [.unref p x] 0 :=
  cons (fun _ hx => by cases hx; simp) ⟨trivial, by simp [exec, Op.exec]⟩

theorem hand (p q : π) (x : α) : Triple {(p, x)} [.hand p q x] {(q, x)} :=
  cons (fun _ hx => by cases hx; simp) ⟨trivial, by simp [exec, Op.exec]⟩

theorem each {need leave : α → Refs π α} {block : α → List (Op π α)}
    (h : ∀ x, Triple (need x) (block x) (leave x)) (xs : List α) :
    Triple (xs.map need).sum (xs.flatMap block) (xs.map leave).sum := by
  induction xs with
  | nil => exact nil _
  | cons x xs ih =>
    simp only [List.flatMap_cons, List.map_cons, List.sum_cons]
    exact ((h x).frame _).append (ih.within (leave x) (add_comm _ _) (add_comm _ _))

theorem each_kept {p q : π} {block : α → List (Op π α)}
    (h : ∀ x, Triple {(p, x)} (block x) {(q, x)}) (xs : List α) :
    Triple (heldBy p xs) (xs.flatMap block) (heldBy q xs) := each h xs

theorem each_gone {p : π} {block : α → List (Op π α)} (h : ∀ x, Triple {(p, x)} (block x) 0)
    (xs : List α) : Triple (heldBy p xs) (xs.flatMap block) 0 := by
  have hzero : (xs.map fun _ => (0 : Refs π α)).sum = 0 := List.sum_eq_zero (by simp)
  rw [← hzero]
  exact each h xs

end Triple

end Rules

end SharedRecords
