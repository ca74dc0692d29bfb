import NTV2Gst.TransitionRuns
import Mathlib.Data.List.Perm.Basic
import Mathlib.Data.List.Nodup

/-!
# A ledger for single-owner tokens

A producer captures fresh tokens one at a time and either gives each up itself or
pushes it onto a queue, which may shed its oldest tokens at any time. A consumer
takes tokens from the head and delivers them. Every token that leaves the system is
entered in `givenUp` with the reason; `receipt` is the reason of a delivery.
-/
namespace HandoverLedger

open TransitionRuns

structure Ledger (α ρ : Type*) where
  hand : Option α
  queue : List α
  taken : Option α
  captured : List α
  delivered : List α
  givenUp : List (α × ρ)

inductive Move (α ρ : Type*) where
  | capture (x : α)
  | give (why : ρ)
  | push
  | shed (oldest : ℕ) (why : ρ)
  | take
  | deliver

variable {α ρ : Type*} [DecidableEq ρ]

def Ledger.empty : Ledger α ρ := ⟨none, [], none, [], [], []⟩

def Ledger.move [DecidableEq α] (receipt : ρ) (l : Ledger α ρ) : Move α ρ → Option (Ledger α ρ)
  | .capture x =>
    match l.hand with
    | none =>
      if x ∈ l.captured then none
      else some { l with hand := some x, captured := l.captured ++ [x] }
    | some _ => none
  | .give why =>
    match l.hand with
    | some x =>
      if why = receipt then none
      else some { l with hand := none, givenUp := l.givenUp ++ [(x, why)] }
    | none => none
  | .push =>
    match l.hand with
    | some x => some { l with hand := none, queue := l.queue ++ [x] }
    | none => none
  | .shed oldest why =>
    if why = receipt then none
    else some { l with
      queue := l.queue.drop oldest
      givenUp := l.givenUp ++ (l.queue.take oldest).map (·, why) }
  | .take =>
    match l.queue, l.taken with
    | x :: q, none => some { l with queue := q, taken := some x }
    | _, _ => none
  | .deliver =>
    match l.taken with
    | some x => some { l with
        taken := none
        delivered := l.delivered ++ [x]
        givenUp := l.givenUp ++ [(x, receipt)] }
    | none => none

def machine [DecidableEq α] (receipt : ρ) : Machine (Ledger α ρ) (Move α ρ) where
  initial l := l = .empty
  next := Ledger.move receipt

def Ledger.places (l : Ledger α ρ) : List α :=
  l.givenUp.map Prod.fst ++ (l.taken.toList ++ (l.queue ++ l.hand.toList))

/-- What was or may still be delivered, oldest first. -/
def Ledger.inOrder (l : Ledger α ρ) : List α :=
  l.delivered ++ (l.taken.toList ++ (l.queue ++ l.hand.toList))

structure Balanced (receipt : ρ) (l : Ledger α ρ) : Prop where
  nodup : l.captured.Nodup
  places : l.places.Perm l.captured
  order : l.inOrder.Sublist l.captured
  receipts : (l.givenUp.filter (·.2 = receipt)).map Prod.fst = l.delivered

theorem balanced_empty (receipt : ρ) : Balanced receipt (Ledger.empty : Ledger α ρ) := by
  constructor <;> simp [Ledger.empty, Ledger.places, Ledger.inOrder]

private theorem no_receipts {receipt why : ρ} (h : why ≠ receipt) (xs : List α) :
    ((xs.map (·, why)).filter (·.2 = receipt)) = [] := by
  simp [List.filter_eq_nil_iff, h]

section Moves

variable {receipt why : ρ} {l : Ledger α ρ} {x : α}

theorem capture_balanced (h : Balanced receipt l) (hh : l.hand = none) (hx : x ∉ l.captured) :
    Balanced receipt { l with hand := some x, captured := l.captured ++ [x] } := by
  obtain ⟨hn, hp, ho, hr⟩ := h
  simp only [Ledger.places, hh, Option.toList_none, List.append_nil] at hp
  simp only [Ledger.inOrder, hh, Option.toList_none, List.append_nil] at ho
  refine ⟨?_, ?_, ?_, hr⟩
  · refine List.nodup_append.mpr ⟨hn, by simp, ?_⟩
    rintro a ha b hb rfl
    exact hx (List.mem_singleton.mp hb ▸ ha)
  · simpa [Ledger.places] using hp.append_right [x]
  · simpa [Ledger.inOrder] using ho.append_right [x]

theorem give_balanced (h : Balanced receipt l) (hh : l.hand = some x) (hw : why ≠ receipt) :
    Balanced receipt { l with hand := none, givenUp := l.givenUp ++ [(x, why)] } := by
  obtain ⟨hn, hp, ho, hr⟩ := h
  simp only [Ledger.places, hh, Option.toList_some] at hp
  simp only [Ledger.inOrder, hh, Option.toList_some] at ho
  refine ⟨hn, ?_, ?_, ?_⟩
  · refine List.Perm.trans ?_ hp
    simp only [Ledger.places, List.map_append, List.map_cons, List.map_nil,
      Option.toList_none, List.append_nil, List.append_assoc]
    apply List.Perm.append_left _
    simpa using @List.perm_append_comm α [x] (l.taken.toList ++ l.queue)
  · refine List.Sublist.trans ?_ ho
    simp [Ledger.inOrder]
  · simpa [List.filter_append, hw] using hr

theorem push_balanced (h : Balanced receipt l) (hh : l.hand = some x) :
    Balanced receipt { l with hand := none, queue := l.queue ++ [x] } := by
  obtain ⟨hn, hp, ho, hr⟩ := h
  rw [Ledger.places, hh] at hp
  rw [Ledger.inOrder, hh] at ho
  exact ⟨hn, by simpa [Ledger.places] using hp, by simpa [Ledger.inOrder] using ho, hr⟩

theorem shed_balanced (h : Balanced receipt l) (hw : why ≠ receipt) (oldest : ℕ) :
    Balanced receipt { l with
      queue := l.queue.drop oldest
      givenUp := l.givenUp ++ (l.queue.take oldest).map (·, why) } := by
  obtain ⟨hn, hp, ho, hr⟩ := h
  refine ⟨hn, ?_, ?_, ?_⟩
  · refine List.Perm.trans ?_ hp
    simp only [Ledger.places, List.map_append, List.map_map, Function.comp_def,
      List.map_id', List.append_assoc]
    apply List.Perm.append_left _
    -- the head of the queue changes places with what was taken
    have hq : l.queue ++ l.hand.toList =
        l.queue.take oldest ++ (l.queue.drop oldest ++ l.hand.toList) := by
      rw [← List.append_assoc, List.take_append_drop]
    rw [hq]
    exact List.perm_append_comm_assoc _ _ _
  · refine List.Sublist.trans ?_ ho
    simp only [Ledger.inOrder]
    exact (List.Sublist.refl _).append ((List.Sublist.refl _).append
      ((List.drop_sublist _ _).append (List.Sublist.refl _)))
  · rw [List.filter_append, no_receipts hw, List.append_nil]
    exact hr

theorem take_balanced {q : List α} (h : Balanced receipt l) (hq : l.queue = x :: q)
    (ht : l.taken = none) : Balanced receipt { l with queue := q, taken := some x } := by
  obtain ⟨hn, hp, ho, hr⟩ := h
  rw [Ledger.places, hq, ht] at hp
  rw [Ledger.inOrder, hq, ht] at ho
  exact ⟨hn, by simpa [Ledger.places] using hp, by simpa [Ledger.inOrder] using ho, hr⟩

theorem deliver_balanced (h : Balanced receipt l) (ht : l.taken = some x) :
    Balanced receipt { l with
      taken := none
      delivered := l.delivered ++ [x]
      givenUp := l.givenUp ++ [(x, receipt)] } := by
  obtain ⟨hn, hp, ho, hr⟩ := h
  rw [Ledger.places, ht] at hp
  rw [Ledger.inOrder, ht] at ho
  exact ⟨hn, by simpa [Ledger.places] using hp, by simpa [Ledger.inOrder] using ho,
    by simp [List.filter_append, hr]⟩

theorem move_balanced [DecidableEq α] {k : Ledger α ρ} {e : Move α ρ}
    (h : Balanced receipt l) (hm : l.move receipt e = some k) : Balanced receipt k := by
  cases e with
  | capture x =>
    cases hh : l.hand with
    | some y => simp [Ledger.move, hh] at hm
    | none =>
      by_cases hx : x ∈ l.captured
      · simp [Ledger.move, hh, hx] at hm
      · simp only [Ledger.move, hh, hx, if_false, Option.some.injEq] at hm
        exact hm ▸ capture_balanced h hh hx
  | give why =>
    cases hh : l.hand with
    | none => simp [Ledger.move, hh] at hm
    | some x =>
      by_cases hw : why = receipt
      · simp [Ledger.move, hh, hw] at hm
      · simp only [Ledger.move, hh, hw, if_false, Option.some.injEq] at hm
        exact hm ▸ give_balanced h hh hw
  | push =>
    cases hh : l.hand with
    | none => simp [Ledger.move, hh] at hm
    | some x =>
      simp only [Ledger.move, hh, Option.some.injEq] at hm
      exact hm ▸ push_balanced h hh
  | shed oldest why =>
    by_cases hw : why = receipt
    · simp [Ledger.move, hw] at hm
    · simp only [Ledger.move, hw, if_false, Option.some.injEq] at hm
      exact hm ▸ shed_balanced h hw oldest
  | take =>
    cases hq : l.queue with
    | nil => simp [Ledger.move, hq] at hm
    | cons x q =>
      cases ht : l.taken with
      | some y => simp [Ledger.move, hq, ht] at hm
      | none =>
        simp only [Ledger.move, hq, ht, Option.some.injEq] at hm
        exact hm ▸ take_balanced h hq ht
  | deliver =>
    cases ht : l.taken with
    | none => simp [Ledger.move, ht] at hm
    | some x =>
      simp only [Ledger.move, ht, Option.some.injEq] at hm
      exact hm ▸ deliver_balanced h ht

end Moves

def Moves [DecidableEq α] (receipt : ρ) (l k : Ledger α ρ) : Prop :=
  ∃ es, runTrace (machine receipt) l es = some k

namespace Moves

variable [DecidableEq α] {receipt : ρ} {l k m : Ledger α ρ}

theorem refl (l : Ledger α ρ) : Moves receipt l l := ⟨[], rfl⟩

theorem of_eq (h : l = k) : Moves receipt l k := h ▸ refl l

theorem cons {e : Move α ρ} (h : l.move receipt e = some k) (hm : Moves receipt k m) :
    Moves receipt l m := by
  obtain ⟨es, he⟩ := hm
  exact ⟨e :: es, Option.bind_eq_some_iff.mpr ⟨k, h, he⟩⟩

theorem of_move {e : Move α ρ} (h : l.move receipt e = some k) : Moves receipt l k :=
  cons h (refl k)

theorem balanced (hm : Moves receipt l k) (h : Balanced receipt l) : Balanced receipt k := by
  obtain ⟨es, he⟩ := hm
  exact (run_trace_execution he).invariant h fun _ _ _ hb _ hn => move_balanced hb hn

end Moves

namespace Balanced

variable {receipt : ρ} {l : Ledger α ρ}

theorem given_up_once (h : Balanced receipt l) : (l.givenUp.map Prod.fst).Nodup :=
  (List.nodup_append.mp (h.places.nodup_iff.mpr h.nodup)).1

theorem not_given_up (h : Balanced receipt l) {x : α}
    (hx : l.taken = some x ∨ x ∈ l.queue ∨ l.hand = some x) :
    x ∉ l.givenUp.map Prod.fst := by
  intro hg
  have hp := h.places.nodup_iff.mpr h.nodup
  have hin : x ∈ l.taken.toList ++ (l.queue ++ l.hand.toList) := by
    rcases hx with hx | hx | hx <;> simp [hx]
  exact (List.nodup_append.mp hp).2.2 x hg x hin rfl

theorem delivered_sublist (h : Balanced receipt l) : l.delivered.Sublist l.captured :=
  (List.sublist_append_left _ _).trans h.order

theorem delivered_nodup (h : Balanced receipt l) : l.delivered.Nodup :=
  h.delivered_sublist.nodup h.nodup

theorem mem_delivered_iff (h : Balanced receipt l) {x : α} :
    x ∈ l.delivered ↔ (x, receipt) ∈ l.givenUp := by
  rw [← h.receipts]
  simp

theorem accounted (h : Balanced receipt l) {x : α} (hx : x ∈ l.captured) :
    l.hand = some x ∨ x ∈ l.queue ∨ l.taken = some x ∨ x ∈ l.delivered ∨
      ∃ why, why ≠ receipt ∧ (x, why) ∈ l.givenUp := by
  have hm : x ∈ l.places := h.places.mem_iff.mpr hx
  simp only [Ledger.places, List.mem_append, List.mem_map, Option.mem_toList,
    Prod.exists, exists_and_right, exists_eq_right] at hm
  rcases hm with ⟨why, hw⟩ | ht | hq | hh
  · by_cases hr : why = receipt
    · exact Or.inr (Or.inr (Or.inr (Or.inl (h.mem_delivered_iff.mpr (hr ▸ hw)))))
    · exact Or.inr (Or.inr (Or.inr (Or.inr ⟨why, hr, hw⟩)))
  · exact Or.inr (Or.inr (Or.inl ht))
  · exact Or.inr (Or.inl hq)
  · exact Or.inl hh

end Balanced

end HandoverLedger
