import Mathlib.Algebra.Order.Group.Multiset
import Mathlib.Data.Multiset.UnionInter

/-!
# A pool of blocks, some of them idle

Blocks are acquired outside, handed out from the head of an idle list and come back. One
that comes back is kept unless `low` blocks are idle already and more than `floor` are
owned. `count` is the pool's own idea of how many blocks it owns.
-/
namespace BlockPool

variable {α : Type*}

inductive Change (α : Type*) where
  | acquired (b : α)
  | returned (b : α)
  deriving DecidableEq

def Change.block : Change α → α
  | .acquired b => b
  | .returned b => b

@[simp] theorem block_acquired (b : α) : (Change.acquired b).block = b := rfl
@[simp] theorem block_returned (b : α) : (Change.returned b).block = b := rfl

structure Pool (α : Type*) where
  idle : List α
  used : Multiset α
  count : ℕ
  changes : List (Change α)

def Pool.owned (p : Pool α) : Multiset α := p.idle + p.used

inductive Step (low floor : ℕ) : Pool α → Pool α → Prop where
  | recycle {b q used n c} : Step low floor ⟨b :: q, used, n, c⟩ ⟨q, b ::ₘ used, n, c⟩
  | extend {b used n c} : b ∉ used →
      Step low floor ⟨[], used, n, c⟩ ⟨[], b ::ₘ used, n + 1, c ++ [.acquired b]⟩
  | keep {b q used n c} : ¬ (low ≤ q.length ∧ floor < n) →
      Step low floor ⟨q, b ::ₘ used, n, c⟩ ⟨q ++ [b], used, n, c⟩
  | release {b q used n c} : low ≤ q.length → floor < n →
      Step low floor ⟨q, b ::ₘ used, n, c⟩ ⟨q, used, n - 1, c ++ [.returned b]⟩

def rounds (b : α) (n : ℕ) : List (Change α) :=
  (List.replicate n [Change.acquired b, Change.returned b]).flatten

theorem rounds_succ (b : α) (n : ℕ) :
    rounds b (n + 1) = rounds b n ++ [.acquired b, .returned b] := by
  simp [rounds, List.replicate_succ']

section Changes

variable [DecidableEq α]

def changesOf (c : List (Change α)) (b : α) : List (Change α) := c.filter fun x => x.block = b

theorem changes_of_append (c d : List (Change α)) (b : α) :
    changesOf (c ++ d) b = changesOf c b ++ changesOf d b := List.filter_append c d

theorem changes_of_map {f : α → Change α} (hf : ∀ x, (f x).block = x) {l : List α}
    (hl : l.Nodup) (b : α) : changesOf (l.map f) b = if b ∈ l then [f b] else [] := by
  have hfilter : changesOf (l.map f) b = (l.filter fun x => x = b).map f := by
    simp [changesOf, List.filter_map, Function.comp_def, hf]
  have heq : (l.filter fun x => x = b) = List.replicate (l.count b) b := List.filter_eq b
  rw [hfilter, heq]
  by_cases hb : b ∈ l
  · simp [hb, List.count_eq_one_of_mem hl hb]
  · simp [hb, List.count_eq_zero_of_not_mem hb]

/-- What the pool promises. A block has been acquired once more than returned exactly while
the pool owns it, and the two alternate. -/
structure Balanced (low floor : ℕ) (p : Pool α) : Prop where
  count : p.count = p.owned.card
  distinct : p.owned.Nodup
  floor_le : floor ≤ p.count
  idle_le : p.idle.length ≤ max low floor
  changes : ∀ b, ∃ n, changesOf p.changes b =
    rounds b n ++ if b ∈ p.owned then [.acquired b] else []

variable {low floor : ℕ} {p q : Pool α}

theorem changes_acquired {c : List (Change α)} {owned : Multiset α} {b x : α} {n : ℕ}
    (hx : x ∉ owned) (h : changesOf c b = rounds b n ++ if b ∈ owned then [.acquired b] else []) :
    changesOf (c ++ [.acquired x]) b =
      rounds b n ++ if b ∈ x ::ₘ owned then [.acquired b] else [] := by
  rw [changes_of_append, h]
  by_cases hb : b = x
  · subst hb
    simp [changesOf, hx]
  · simp [changesOf, hb, Ne.symm hb]

theorem changes_returned {c : List (Change α)} {owned : Multiset α} {b x : α} {n : ℕ}
    (hx : x ∉ owned)
    (h : changesOf c b = rounds b n ++ if b ∈ x ::ₘ owned then [.acquired b] else []) :
    ∃ k, changesOf (c ++ [.returned x]) b =
      rounds b k ++ if b ∈ owned then [.acquired b] else [] := by
  rw [changes_of_append, h]
  by_cases hb : b = x
  · subst hb
    exact ⟨n + 1, by simp [changesOf, hx, rounds_succ]⟩
  · exact ⟨n, by simp [changesOf, hb, Ne.symm hb]⟩

theorem Step.balanced (hs : Step low floor p q) (h : Balanced low floor p) :
    Balanced low floor q := by
  cases hs with
  | @recycle b l used n c =>
    have owned : Pool.owned ⟨l, b ::ₘ used, n, c⟩ = Pool.owned ⟨b :: l, used, n, c⟩ := by
      simp [Pool.owned, ← Multiset.cons_coe]
    have hi := h.idle_le
    exact ⟨by rw [owned]; exact h.count, by rw [owned]; exact h.distinct, h.floor_le,
      (Nat.le_succ _).trans hi, by rw [owned]; exact h.changes⟩
  | @extend b used n c hb =>
    have owned : Pool.owned ⟨[], b ::ₘ used, n + 1, c ++ [.acquired b]⟩ = b ::ₘ used := by
      simp [Pool.owned]
    have before : Pool.owned ⟨[], used, n, c⟩ = used := by simp [Pool.owned]
    have hc := h.count
    have hd := h.distinct
    have hch := h.changes
    rw [before] at hc hd hch
    constructor
    · rw [owned, Multiset.card_cons, ← hc]
    · rw [owned]
      exact Multiset.nodup_cons.mpr ⟨hb, hd⟩
    · exact h.floor_le.trans (Nat.le_succ _)
    · exact h.idle_le
    · intro x
      obtain ⟨k, hk⟩ := hch x
      exact ⟨k, by rw [owned]; exact changes_acquired hb hk⟩
  | @keep b l used n c hk =>
    have owned : Pool.owned ⟨l ++ [b], used, n, c⟩ = Pool.owned ⟨l, b ::ₘ used, n, c⟩ := by
      simp [Pool.owned, ← Multiset.coe_add, add_assoc]
    have hc : n = l.length + used.card + 1 := by simpa [Pool.owned] using h.count
    have hi := h.idle_le
    have hf := h.floor_le
    refine ⟨by rw [owned]; exact h.count, by rw [owned]; exact h.distinct, h.floor_le, ?_,
      by rw [owned]; exact h.changes⟩
    simp only [List.length_append, List.length_singleton]
    by_cases hl : low ≤ l.length
    · have : n ≤ floor := by
        by_contra hn
        exact hk ⟨hl, by omega⟩
      omega
    · omega
  | @release b l used n c hl hn =>
    have owned : Pool.owned ⟨l, b ::ₘ used, n, c⟩ =
        b ::ₘ Pool.owned ⟨l, used, n - 1, c ++ [.returned b]⟩ := by
      simp [Pool.owned]
    have hc := h.count
    have hd := h.distinct
    rw [owned] at hc hd
    rw [Multiset.card_cons] at hc
    obtain ⟨hb, hd⟩ := Multiset.nodup_cons.mp hd
    constructor
    · simp only at hc ⊢
      omega
    · exact hd
    · simp only
      omega
    · exact h.idle_le
    · intro x
      obtain ⟨k, hx⟩ := h.changes x
      rw [owned] at hx
      exact changes_returned hb hx

/-! ## The first and the last state -/

def preallocated (blocks : List α) : Pool α where
  idle := blocks
  used := 0
  count := blocks.length
  changes := blocks.map .acquired

theorem preallocated_balanced {blocks : List α} (hd : blocks.Nodup) :
    Balanced low blocks.length (preallocated blocks) where
  count := by simp [preallocated, Pool.owned]
  distinct := by simpa [preallocated, Pool.owned] using hd
  floor_le := le_rfl
  idle_le := le_max_right _ _
  changes := by
    intro b
    refine ⟨0, ?_⟩
    simp [preallocated, Pool.owned, rounds, changes_of_map (f := Change.acquired) (fun _ => rfl) hd]

def Pool.drained (p : Pool α) : Pool α :=
  { p with idle := [], changes := p.changes ++ p.idle.map .returned }

/-- A pool with nothing handed out gives every block back. -/
theorem drained_rounds (h : Balanced low floor p) (hu : p.used = 0) (b : α) :
    ∃ n, changesOf p.drained.changes b = rounds b n := by
  obtain ⟨n, hn⟩ := h.changes b
  have hd : p.idle.Nodup := by simpa [Pool.owned, hu] using h.distinct
  have ho : b ∈ p.owned ↔ b ∈ p.idle := by simp [Pool.owned, hu]
  rw [Pool.drained, changes_of_append, hn,
    changes_of_map (f := Change.returned) (fun _ => rfl) hd]
  by_cases hb : b ∈ p.idle
  · exact ⟨n + 1, by simp [ho, hb, rounds_succ]⟩
  · exact ⟨n, by simp [ho, hb]⟩

end Changes

end BlockPool
