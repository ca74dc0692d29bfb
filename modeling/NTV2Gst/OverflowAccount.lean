import NTV2Gst.DropOldest
import Mathlib.Data.List.ReduceOption
import Mathlib.Data.List.Pairwise
import Mathlib.Order.Nat

/-!
# Counting what overflow removes

Numbered items go through a bounded queue that drops its oldest entries; entries without
an item may stand between them. What is dropped is counted in `last` until an item is
queued without a loss, and is then added to `overall`. The consumer reports about an item
after it took it, and may do so late.
-/
namespace OverflowAccount

open DropOldest

/-- `position` is the number of the latest item, which the producer may still have in its
hand. -/
structure Account (α : Type*) where
  overall : ℕ
  last : ℕ
  removed : ℕ
  queue : List (Option α)
  hand : Option α
  position : ℕ
  taken : Option α
  size : ℕ

variable {α : Type*}

namespace Account

variable (a : Account α)

def inside : List α := a.queue.reduceOption ++ a.hand.toList

def produce (x : α) : Account α := { a with hand := some x, position := a.position + 1 }

def lose : Account α := { a with hand := none }

def mark (n : ℕ) : Account α := { a with queue := a.queue ++ List.replicate n none }

def surplus : List α := (popped a.size a.queue).reduceOption

def push (x : α) : Account α :=
  { a with
    overall := if a.surplus = [] then a.overall + a.last else a.overall
    last := (if a.surplus = [] then 0 else a.last) + a.surplus.length
    removed := a.removed + a.surplus.length
    queue := left a.size a.queue ++ [some x]
    hand := none }

def take (x : Option α) (q : List (Option α)) : Account α :=
  { a with queue := q, taken := x }

def report : Account α := { a with taken := none }

def drain (q : List (Option α)) : Account α := { a with queue := q }

end Account

/-- Nothing is lost in the counts, and no report comes out below zero. -/
structure Exact (number : α → ℕ) (good : α → Prop) (a : Account α) : Prop where
  sum : a.overall + a.last = a.removed
  increasing : (a.inside.map number).Pairwise (· < ·)
  above : ∀ x ∈ a.inside, a.removed < number x
  within : ∀ x ∈ a.inside, number x ≤ a.position
  removed_le : a.removed ≤ a.position
  taken : ∀ x ∈ a.taken, a.overall ≤ number x ∧
    (a.removed ≤ number x ∨ a.size ≤ a.queue.length)
  good : ∀ x, x ∈ a.inside ∨ x ∈ a.taken → good x

variable {a : Account α} {number : α → ℕ} {good : α → Prop}

theorem inside_push (a : Account α) (x : α) :
    (a.push x).inside = (left a.size a.queue).reduceOption ++ [x] := by
  simp [Account.inside, Account.push, List.reduceOption_append]

theorem inside_split (a : Account α) :
    a.inside = a.surplus ++ ((left a.size a.queue).reduceOption ++ a.hand.toList) := by
  rw [Account.inside, Account.surplus, ← List.append_assoc, ← List.reduceOption_append,
    popped_append_left]

theorem length_below {r : ℕ} {l : List ℕ} {m : ℕ} (h : (l ++ [m]).Pairwise (· < ·))
    (hr : ∀ n ∈ l ++ [m], r < n) : r + l.length < m := by
  induction l generalizing r with
  | nil => exact hr m (by simp)
  | cons n l ih =>
    obtain ⟨hn, hl⟩ := List.pairwise_cons.mp h
    have hrn : r < n := hr n (by simp)
    have := ih (r := r + 1) hl fun k hk => by
      have := hn k hk
      omega
    rw [List.length_cons]
    omega

theorem Exact.above_surplus (h : Exact number good a) {x : α}
    (hx : x ∈ (left a.size a.queue).reduceOption ++ a.hand.toList) :
    a.removed + a.surplus.length < number x := by
  obtain ⟨l, l', hl⟩ := List.append_of_mem hx
  have hsub : (a.surplus ++ [x]).Sublist a.inside := by
    rw [inside_split, hl]
    apply List.Sublist.append_left
    simp
  have hp := h.increasing.sublist (hsub.map number)
  rw [List.map_append, List.map_singleton] at hp
  have hlt := length_below (r := a.removed) hp (by
    intro n hn
    rw [← List.map_singleton, ← List.map_append] at hn
    obtain ⟨y, hy, rfl⟩ := List.mem_map.mp hn
    exact h.above y (hsub.subset hy))
  rwa [List.length_map] at hlt

/-! ## Moves -/

theorem Exact.of_sublist (h : Exact number good a) {b : Account α} (ho : b.overall = a.overall)
    (hl : b.last = a.last) (hr : b.removed = a.removed) (hp : b.position = a.position)
    (hi : b.inside.Sublist a.inside)
    (ht : ∀ x ∈ b.taken, x ∈ a.taken ∧ b.size = a.size ∧ a.queue.length ≤ b.queue.length) :
    Exact number good b where
  sum := by rw [ho, hl, hr]; exact h.sum
  increasing := h.increasing.sublist (hi.map number)
  above x hx := by rw [hr]; exact h.above x (hi.subset hx)
  within x hx := by rw [hp]; exact h.within x (hi.subset hx)
  removed_le := by rw [hr, hp]; exact h.removed_le
  taken := by
    intro x hx
    obtain ⟨hxa, hs, hq⟩ := ht x hx
    have := h.taken x hxa
    rw [ho, hr, hs]
    omega
  good x hx := by
    apply h.good x
    rcases hx with hx | hx
    · exact Or.inl (hi.subset hx)
    · exact Or.inr (ht x hx).1

theorem Exact.lose (h : Exact number good a) : Exact number good a.lose := by
  apply h.of_sublist (b := a.lose) rfl rfl rfl rfl
  · simp [Account.inside, Account.lose]
  · exact fun x hx => ⟨hx, rfl, le_rfl⟩

theorem Exact.mark (h : Exact number good a) (n : ℕ) : Exact number good (a.mark n) := by
  apply h.of_sublist (b := a.mark n) rfl rfl rfl rfl
  · simp [Account.inside, Account.mark, List.reduceOption_append]
  · exact fun x hx => ⟨hx, rfl, by simp [Account.mark]⟩

theorem Exact.report (h : Exact number good a) : Exact number good a.report := by
  apply h.of_sublist (b := a.report) rfl rfl rfl rfl (List.Sublist.refl _)
  exact fun x hx => absurd hx (by simp [Account.report])

theorem Exact.drain (h : Exact number good a) {q : List (Option α)} (hq : q.Sublist a.queue)
    (ht : a.taken = none) : Exact number good (a.drain q) := by
  apply h.of_sublist (b := a.drain q) rfl rfl rfl rfl
  · exact (hq.filterMap id).append_right _
  · intro x hx
    rw [Account.drain, ht] at hx
    cases hx

theorem Exact.produce (h : Exact number good a) (hh : a.hand = none) {x : α}
    (hx : number x = a.position + 1) (hg : good x) : Exact number good (a.produce x) := by
  have hi : (a.produce x).inside = a.inside ++ [x] := by
    simp [Account.inside, Account.produce, hh]
  constructor
  · exact h.sum
  · rw [hi, List.map_append, List.pairwise_append]
    refine ⟨h.increasing, List.pairwise_singleton _ _, ?_⟩
    intro n hn m hm
    obtain ⟨y, hy, rfl⟩ := List.mem_map.mp hn
    have := h.within y hy
    simp only [List.map_cons, List.map_nil, List.mem_singleton] at hm
    omega
  · intro y hy
    rw [hi, List.mem_append, List.mem_singleton] at hy
    rcases hy with hy | rfl
    · exact h.above y hy
    · have := h.removed_le
      change a.removed < number y
      omega
  · intro y hy
    change number y ≤ a.position + 1
    rw [hi, List.mem_append, List.mem_singleton] at hy
    rcases hy with hy | rfl
    · exact (h.within y hy).trans (Nat.le_succ _)
    · exact hx.le
  · exact h.removed_le.trans (Nat.le_succ _)
  · exact h.taken
  · intro y hy
    rw [hi, List.mem_append, List.mem_singleton] at hy
    rcases hy with (hy | rfl) | hy
    · exact h.good y (Or.inl hy)
    · exact hg
    · exact h.good y (Or.inr hy)

theorem Exact.take (h : Exact number good a) {x : Option α} {q : List (Option α)}
    (hq : a.queue = x :: q) (ht : a.taken = none) : Exact number good (a.take x q) := by
  have hi : a.inside = x.toList ++ (a.take x q).inside := by
    cases x with
    | none => simp [Account.inside, Account.take, hq]
    | some x => simp [Account.inside, Account.take, hq]
  have drained : Exact number good (a.drain q) := by
    apply h.drain _ ht
    rw [hq]
    exact List.sublist_cons_self x q
  refine { drained with taken := ?_, good := ?_ }
  · intro y hy
    have hmem : y ∈ a.inside := by
      rw [hi]
      exact List.mem_append_left _ (Option.mem_toList.mpr hy)
    have hlt := h.above y hmem
    have hsum := h.sum
    change a.overall ≤ number y ∧ (a.removed ≤ number y ∨ _)
    omega
  · intro y hy
    apply h.good y
    left
    rw [hi, List.mem_append, Option.mem_toList]
    rcases hy with hy | hy
    · exact Or.inr hy
    · exact Or.inl hy

/-- A push that drops no item although the queue is full ends the count too early; it does no
harm when nothing behind the item in hand of the consumer was removed. -/
theorem Exact.push (h : Exact number good a) {x : α} (hx : a.hand = some x) (hs : 0 < a.size)
    (hmarks : popped a.size a.queue ≠ [] → a.surplus = [] → ∀ y ∈ a.taken, a.removed ≤ number y) :
    Exact number good (a.push x) := by
  have hsum := h.sum
  have hsplit := inside_split a
  rw [hx, Option.toList_some, ← inside_push] at hsplit
  have hsub : (a.push x).inside.Sublist a.inside := by
    rw [hsplit]
    exact List.sublist_append_right _ _
  have hstay : ∀ y ∈ (a.push x).inside, a.removed + a.surplus.length < number y := by
    intro y hy
    apply h.above_surplus
    rwa [hx, Option.toList_some, ← inside_push]
  constructor
  · by_cases he : a.surplus = []
    · simp [Account.push, he, hsum]
    · simp only [Account.push, he, if_false]
      omega
  · exact h.increasing.sublist (hsub.map number)
  · exact hstay
  · exact fun y hy => h.within y (hsub.subset hy)
  · have hlast : x ∈ (a.push x).inside := by simp [inside_push]
    exact (hstay x hlast).le.trans (h.within x (hsub.subset hlast))
  · intro y hy
    have ht := h.taken y hy
    have hlen : (a.push x).queue.length = (left a.size a.queue).length + 1 := by
      simp [Account.push]
    by_cases he : a.surplus = []
    · have hle : a.removed ≤ number y := by
        by_cases hp : popped a.size a.queue = []
        · have hlt := length_lt_of_popped_nil hs hp
          omega
        · exact hmarks hp he y hy
      simp only [Account.push, he, if_true, List.length_nil]
      omega
    · have hp : popped a.size a.queue ≠ [] := by
        intro hp
        exact he (by rw [Account.surplus, hp]; rfl)
      have hfull := left_length_of_popped hs hp
      rw [hlen, hfull]
      simp only [Account.push, he, if_false]
      exact ⟨ht.1, Or.inr le_rfl⟩
  · intro y hy
    apply h.good y
    rcases hy with hy | hy
    · exact Or.inl (hsub.subset hy)
    · exact Or.inr hy

end OverflowAccount
