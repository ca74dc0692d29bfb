import NTV2Gst.TransitionRuns
import Mathlib.Data.List.Chain

/-!
# Marking gaps in a numbered stream

Items are numbered in the order they are produced; a jump loses some before they
exist. An item may be lost in the producer's hand or shed from the head of a queue.
The consumer learns of a gap from the mark on the item behind it. The producer marks
an item behind a jump and the first item it queues after it was interrupted.
-/
namespace GapMarking

open TransitionRuns

structure Item where
  number : ℕ
  mark : Bool
  deriving DecidableEq, Repr

/-- `out` is what the consumer took; `live` is cleared when an item is lost in the hand
and set when one is queued. -/
structure Stream where
  out : List Item
  queue : List Item
  hand : Option Item
  position : ℕ
  jumped : Bool
  live : Bool

inductive Move where
  | jump (missing : ℕ)
  | produce
  | lose
  | interrupt
  | forget (live : Bool)
  | push (oldest : ℕ) (extra : Bool)
  | take
  | raise (mark : Bool)

def Stream.pushed (s : Stream) (i : Item) (extra : Bool) : Item :=
  { i with mark := i.mark || !s.live || extra }

def raiseLast (mark : Bool) : List Item → List Item
  | [] => []
  | [i] => [{ i with mark := i.mark || mark }]
  | i :: j :: l => i :: raiseLast mark (j :: l)

def Stream.move (s : Stream) : Move → Option Stream
  | .jump missing =>
    match s.hand with
    | none => some { s with position := s.position + missing, jumped := true }
    | some _ => none
  | .produce =>
    match s.hand with
    | none => some { s with
        hand := some ⟨s.position + 1, s.jumped⟩
        position := s.position + 1
        jumped := false }
    | some _ => none
  | .lose => some { s with hand := none, live := false }
  | .interrupt => some { s with live := false }
  | .forget live => some { s with hand := none, live := live }
  | .push oldest extra =>
    match s.hand with
    | some i => some { s with
        hand := none
        queue := s.queue.drop oldest ++ [s.pushed i extra]
        live := true }
    | none => none
  | .take =>
    match s.queue with
    | i :: q => some { s with out := s.out ++ [i], queue := q }
    | [] => none
  | .raise mark => some { s with out := raiseLast mark s.out }

/-- Forgetting is harmless before the first item; shedding is while the consumer has
nothing, or when the item it takes next is marked anyway. -/
def Careful (s : Stream) : Move → Prop
  | .forget _ => s.out = [] ∧ s.queue = []
  | .push oldest extra => oldest = 0 ∨ s.out = [] ∨
      ∀ i, s.hand = some i →
        ((s.queue.drop oldest ++ [s.pushed i extra]).head?.any (·.mark)) = true
  | _ => True

def Follows (x y : Item) : Prop := y.number = x.number + 1 ∨ y.mark = true

/-- Every gap is marked, and what the producer still has to mark is known to it. -/
structure Flagged (s : Stream) : Prop where
  chain : (s.out ++ s.queue).IsChain Follows
  idle : s.hand = none → s.live = true → s.jumped = false →
    ∀ x ∈ (s.out ++ s.queue).getLast?, x.number = s.position
  busy : ∀ i, s.hand = some i → i.number = s.position ∧ s.jumped = false ∧
    (s.live = true → i.mark = false → ∀ x ∈ (s.out ++ s.queue).getLast?, x.number + 1 = i.number)

theorem flagged_empty (position : ℕ) (jumped live : Bool) :
    Flagged ⟨[], [], none, position, jumped, live⟩ :=
  ⟨List.isChain_nil, by simp, by simp⟩

private theorem chain_append_singleton {l : List Item} {i : Item} (h : l.IsChain Follows)
    (hl : ∀ x ∈ l.getLast?, Follows x i) : (l ++ [i]).IsChain Follows :=
  h.append (List.isChain_singleton i) fun x hx y hy => by cases hy; exact hl x hx

theorem raise_last_concat (m : Bool) (l : List Item) (i : Item) :
    raiseLast m (l ++ [i]) = l ++ [{ i with mark := i.mark || m }] := by
  induction l with
  | nil => rfl
  | cons j l ih =>
    cases l with
    | nil => rfl
    | cons k l => simp only [List.cons_append, raiseLast] at ih ⊢; rw [ih]

theorem raise_last_chain {m : Bool} {l q : List Item} (h : (l ++ q).IsChain Follows) :
    (raiseLast m l ++ q).IsChain Follows := by
  rcases List.eq_nil_or_concat l with rfl | ⟨l, i, rfl⟩
  · exact h
  · rw [List.concat_eq_append] at h ⊢
    rw [raise_last_concat]
    obtain ⟨h₁, h₂, h₃⟩ := List.isChain_append.mp h
    obtain ⟨h₄, -, h₅⟩ := List.isChain_append.mp h₁
    refine (chain_append_singleton h₄ ?_).append h₂ ?_
    · intro x hx
      rcases h₅ x hx i rfl with h | h
      · exact Or.inl h
      · exact Or.inr (by simp [h])
    · intro x hx y hy
      obtain rfl : { i with mark := i.mark || m } = x := by simpa using hx
      exact h₃ i (by simp) y hy

theorem raise_last_number (m : Bool) (l q : List Item) :
    (raiseLast m l ++ q).getLast?.map (·.number) = (l ++ q).getLast?.map (·.number) := by
  cases q with
  | cons j q =>
    rw [List.getLast?_append_of_ne_nil _ (List.cons_ne_nil j q),
      List.getLast?_append_of_ne_nil _ (List.cons_ne_nil j q)]
  | nil =>
    rcases List.eq_nil_or_concat l with rfl | ⟨l, i, rfl⟩
    · rfl
    · rw [List.concat_eq_append, raise_last_concat]
      simp

private theorem last_drop {l q : List Item} {n : ℕ} (h : q.drop n ≠ []) :
    (l ++ q.drop n).getLast? = (l ++ q).getLast? := by
  have hq : q ≠ [] := by
    rintro rfl
    simp at h
  rw [List.getLast?_append_of_ne_nil _ h, List.getLast?_append_of_ne_nil _ hq]
  conv_rhs => rw [← List.take_append_drop n q]
  rw [List.getLast?_append_of_ne_nil _ h]

theorem push_flagged {s : Stream} {oldest : ℕ} {extra : Bool} (h : Flagged s)
    (hc : Careful s (.push oldest extra)) {i : Item} (hi : s.hand = some i) :
    Flagged { s with
      hand := none
      queue := s.queue.drop oldest ++ [s.pushed i extra]
      live := true } := by
  obtain ⟨hnum, hjump, hlast⟩ := h.busy i hi
  have joint : ∀ x ∈ (s.out ++ s.queue).getLast?, Follows x (s.pushed i extra) := by
    intro x hx
    by_cases hl : s.live = true
    · by_cases hm : i.mark = true
      · exact Or.inr (by simp [Stream.pushed, hm])
      · exact Or.inl (hlast hl (by simpa using hm) x hx).symm
    · exact Or.inr (by simp [Stream.pushed, hl])
  have hout := (List.isChain_append.mp h.chain).1
  have hqueue : (s.queue.drop oldest).IsChain Follows :=
    (List.isChain_append.mp h.chain).2.1.drop oldest
  refine ⟨?_, ?_, by simp⟩
  · simp only
    by_cases hd : s.queue.drop oldest = []
    · rw [hd, List.nil_append]
      rcases hc with rfl | ho | hm
      · have : s.queue = [] := by simpa using hd
        exact chain_append_singleton hout (by simpa [this] using joint)
      · simp [ho]
      · have hmark : (s.pushed i extra).mark = true := by simpa [hd] using hm i hi
        exact chain_append_singleton hout fun x _ => Or.inr hmark
    · rw [← List.append_assoc]
      refine chain_append_singleton ?_ (by rw [last_drop hd]; exact joint)
      rcases hc with rfl | ho | hm
      · exact h.chain
      · simpa [ho] using hqueue
      · refine hout.append hqueue fun x _ y hy => Or.inr ?_
        obtain ⟨z, q, hz⟩ := List.exists_cons_of_ne_nil hd
        rw [hz] at hy
        have hmark : z.mark = true := by simpa [hz] using hm i hi
        cases hy
        exact hmark
  · intro _ _ _ x hx
    have : s.pushed i extra = x := by simpa [← List.append_assoc] using hx
    rw [← this]
    exact hnum

theorem move_flagged {s t : Stream} {e : Move} (h : Flagged s) (hc : Careful s e)
    (hm : s.move e = some t) : Flagged t := by
  cases e with
  | jump missing =>
    cases hh : s.hand with
    | some i => simp [Stream.move, hh] at hm
    | none =>
      simp only [Stream.move, hh, Option.some.injEq] at hm
      subst hm
      exact ⟨h.chain, by simp, by simp⟩
  | produce =>
    cases hh : s.hand with
    | some i => simp [Stream.move, hh] at hm
    | none =>
      simp only [Stream.move, hh, Option.some.injEq] at hm
      subst hm
      refine ⟨h.chain, by simp, ?_⟩
      rintro i ⟨⟩
      refine ⟨rfl, rfl, ?_⟩
      intro hl hj x hx
      rw [h.idle hh hl hj x hx]
  | lose =>
    cases hm
    exact ⟨h.chain, by simp, by simp⟩
  | interrupt =>
    cases hm
    refine ⟨h.chain, by simp, ?_⟩
    intro i hi
    obtain ⟨h₁, h₂, -⟩ := h.busy i hi
    exact ⟨h₁, h₂, by simp⟩
  | forget live =>
    cases hm
    obtain ⟨ho, hq⟩ := hc
    exact ⟨h.chain, by simp [ho, hq], by simp⟩
  | push oldest extra =>
    cases hh : s.hand with
    | none => simp [Stream.move, hh] at hm
    | some i =>
      simp only [Stream.move, hh, Option.some.injEq] at hm
      subst hm
      exact push_flagged h hc hh
  | take =>
    cases hq : s.queue with
    | nil => simp [Stream.move, hq] at hm
    | cons i q =>
      simp only [Stream.move, hq, Option.some.injEq] at hm
      subst hm
      have hs : s.out ++ [i] ++ q = s.out ++ s.queue := by simp [hq]
      refine ⟨?_, ?_, ?_⟩
      · simp only; rw [hs]; exact h.chain
      · simp only; rw [hs]; exact h.idle
      · simp only; rw [hs]; exact h.busy
  | raise mark =>
    cases hm
    have last : ∀ {P : ℕ → Prop}, (∀ x ∈ (s.out ++ s.queue).getLast?, P x.number) →
        ∀ x ∈ (raiseLast mark s.out ++ s.queue).getLast?, P x.number := by
      intro P hP x hx
      have hn := raise_last_number mark s.out s.queue
      rw [Option.mem_def.mp hx] at hn
      obtain ⟨y, hy, hxy⟩ := Option.map_eq_some_iff.mp hn.symm
      have hnum : y.number = x.number := hxy
      rw [← hnum]
      exact hP y hy
    refine ⟨raise_last_chain h.chain,
      fun h₁ h₂ h₃ => last (P := (· = s.position)) (h.idle h₁ h₂ h₃), ?_⟩
    intro i hi
    obtain ⟨h₁, h₂, h₃⟩ := h.busy i hi
    exact ⟨h₁, h₂, fun hl hm => last (P := (· + 1 = i.number)) (h₃ hl hm)⟩

def stream : Machine Stream Move where
  initial s := s.out = [] ∧ s.queue = [] ∧ s.hand = none
  next := Stream.move

abbrev Steps := Execution stream Careful

namespace Steps

variable {s t : Stream}

theorem of_eq (h : s = t) : Steps s t := h ▸ .refl s

theorem one {e : Move} (hc : Careful s e) (hm : s.move e = some t) : Steps s t :=
  .tail (.refl s) hc hm

theorem flagged (h : Steps s t) (hs : Flagged s) : Flagged t :=
  h.invariant hs fun _ _ _ hf hc hm => move_flagged hf hc hm

end Steps

end GapMarking
