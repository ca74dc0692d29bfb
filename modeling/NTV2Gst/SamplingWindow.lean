import Mathlib.Algebra.Order.Group.Nat
import Mathlib.Data.List.Chain
import Mathlib.Data.Nat.Notation

/-!
# Sampling into a window

One value comes with every call, and every `skip`-th one is stored, round and round in a
window of a fixed number of slots. Each time the window is full, `skip` doubles, up to a
limit. The history of a run tells when every sample was taken.
-/
namespace SamplingWindow

variable {α : Type*}

/-- A sample with the number of calls and of full windows before it, and the skip it was
taken with. -/
structure Sample (α : Type*) where
  call : ℕ
  window : ℕ
  skip : ℕ
  value : α
  deriving DecidableEq, Repr

/-- The last three fields are the history. -/
structure Sampler (α : Type*) where
  slots : List α
  fill : ℕ
  skip : ℕ
  count : ℕ
  calls : ℕ
  fulls : ℕ
  taken : List (Sample α)
  deriving DecidableEq, Repr

def Sampler.start (slots : List α) : Sampler α := ⟨slots, 0, 1, 0, 0, 0, []⟩

def grown (limit skip : ℕ) : ℕ := min (if skip < limit then skip * 2 else skip) limit

def nextCount (skip count : ℕ) : ℕ := if skip ≤ count + 1 then 0 else count + 1

def Sampler.take (limit : ℕ) (s : Sampler α) (x : α) : Sampler α :=
  let full := s.slots.length ≤ s.fill + 1
  { slots := s.slots.set s.fill x
    fill := if full then 0 else s.fill + 1
    skip := if full then grown limit s.skip else s.skip
    count := nextCount s.skip s.count
    calls := s.calls + 1
    fulls := if full then s.fulls + 1 else s.fulls
    taken := s.taken ++ [⟨s.calls, s.fulls, s.skip, x⟩] }

def Sampler.tick (limit : ℕ) (s : Sampler α) (x : α) : Sampler α :=
  if s.count = 0 then s.take limit x
  else { s with count := nextCount s.skip s.count, calls := s.calls + 1 }

/-! ## The window as a ring -/

def RingHolds (slots xs : List α) : Prop :=
  ∀ j x, xs[j]? = some x → xs.length ≤ j + slots.length → slots[j % slots.length]? = some x

theorem RingHolds.nil (slots : List α) : RingHolds slots [] := by
  intro j x h
  simp at h

theorem mod_ne_of_lt {i j n : ℕ} (hlt : i < j) (hle : j < i + n) : i % n ≠ j % n := by
  intro h
  have hsub : (j - i) % n = 0 := Nat.sub_mod_eq_zero_of_mod_eq h.symm
  rw [Nat.mod_eq_of_lt (by omega)] at hsub
  omega

theorem RingHolds.set {slots xs : List α} (h : RingHolds slots xs) (hpos : 0 < slots.length)
    (x : α) : RingHolds (slots.set (xs.length % slots.length) x) (xs ++ [x]) := by
  intro j y hy hrecent
  rw [List.length_set] at hrecent ⊢
  rw [List.length_append, List.length_singleton] at hrecent
  rcases Nat.lt_trichotomy j xs.length with hj | rfl | hj
  · rw [List.getElem?_append_left hj] at hy
    rw [List.getElem?_set_ne (mod_ne_of_lt hj (by omega)).symm]
    exact h j y hy (by omega)
  · rw [List.getElem?_concat_length] at hy
    rw [List.getElem?_set_self (Nat.mod_lt _ hpos), hy]
  · rw [List.getElem?_eq_none (by rw [List.length_append]; exact hj)] at hy
    cases hy

theorem RingHolds.full {slots xs : List α} (h : RingHolds slots xs)
    (hfull : slots.length ≤ xs.length) {p : ℕ} (hp : p < slots.length) :
    ∃ j x, xs[j]? = some x ∧ j % slots.length = p ∧ slots[p]? = some x := by
  -- the last number below `xs.length` with this remainder
  obtain ⟨j, hj, hrecent, hmod⟩ : ∃ j < xs.length, xs.length ≤ j + slots.length ∧
      j % slots.length = p := by
    generalize slots.length = n at hp hfull
    refine ⟨xs.length - 1 - (xs.length - 1 - p) % n, by omega, ?_, ?_⟩
    · have := Nat.mod_lt (xs.length - 1 - p) (by omega : 0 < n)
      omega
    · have hdiv := Nat.div_add_mod (xs.length - 1 - p) n
      have heq : xs.length - 1 - (xs.length - 1 - p) % n =
          p + n * ((xs.length - 1 - p) / n) := by omega
      rw [heq, Nat.add_mul_mod_self_left, Nat.mod_eq_of_lt hp]
  obtain ⟨x, hx⟩ : ∃ x, xs[j]? = some x := ⟨xs[j], List.getElem?_eq_getElem hj⟩
  exact ⟨j, x, hx, hmod, hmod ▸ h j x hx hrecent⟩

/-! ## The skip -/

theorem grown_min (limit k : ℕ) : grown limit (min (2 ^ k) limit) = min (2 ^ (k + 1)) limit := by
  unfold grown
  rw [Nat.pow_succ]
  split <;> omega

theorem next_count_lt {skip count : ℕ} (hskip : 0 < skip) : nextCount skip count < skip := by
  unfold nextCount
  split <;> omega

/-! ## Runs -/

def Sampler.due (s : Sampler α) : ℕ := if s.count = 0 then s.calls else s.calls + (s.skip - s.count)

def Spaced (taken : List (Sample α)) : Prop :=
  taken.IsChain fun x y => x.window = y.window → x.skip = y.skip ∧ y.call = x.call + y.skip

structure Sound (n limit : ℕ) (s : Sampler α) : Prop where
  length : s.slots.length = n
  fill : s.fill = s.taken.length % n
  fulls : s.fulls = s.taken.length / n
  skip : s.skip = min (2 ^ s.fulls) limit
  count_lt : s.count < s.skip
  ring : RingHolds s.slots (s.taken.map (·.value))
  spaced : Spaced s.taken
  last : ∀ x ∈ s.taken.getLast?, x.window = s.fulls → x.skip = s.skip ∧ s.due = x.call + s.skip

variable {n limit : ℕ} {s : Sampler α}

theorem sound_start {slots : List α} (hl : slots.length = n) (hlimit : 0 < limit) :
    Sound n limit (Sampler.start slots) where
  length := hl
  fill := (Nat.zero_mod n).symm
  fulls := (Nat.zero_div n).symm
  skip := (Nat.min_eq_left hlimit).symm
  count_lt := Nat.one_pos
  ring := .nil slots
  spaced := List.isChain_nil
  last := by simp [Sampler.start]

theorem Sound.skip_pos (h : Sound n limit s) : 0 < s.skip := Nat.zero_lt_of_lt h.count_lt

theorem due_skipped (hcount : s.count ≠ 0) (hlt : s.count < s.skip) :
    { s with count := nextCount s.skip s.count, calls := s.calls + 1 }.due = s.due := by
  simp only [Sampler.due, hcount, if_false, nextCount]
  by_cases hlast : s.skip ≤ s.count + 1
  · simp only [hlast, if_true]
    omega
  · simp only [hlast, if_false, Nat.succ_ne_zero]
    omega

theorem sound_skipped (h : Sound n limit s) (hcount : s.count ≠ 0) :
    Sound n limit { s with count := nextCount s.skip s.count, calls := s.calls + 1 } where
  length := h.length
  fill := h.fill
  fulls := h.fulls
  skip := h.skip
  count_lt := next_count_lt h.skip_pos
  ring := h.ring
  spaced := h.spaced
  last x hx hw := by
    rw [due_skipped hcount h.count_lt]
    exact h.last x hx hw

theorem due_taken (hcount : s.count = 0) (hskip : 0 < s.skip) {fill : ℕ} {slots : List α}
    {taken : List (Sample α)} :
    (⟨slots, fill, s.skip, nextCount s.skip s.count, s.calls + 1, s.fulls, taken⟩ :
      Sampler α).due = s.calls + s.skip := by
  simp only [Sampler.due, hcount, nextCount]
  by_cases hone : s.skip ≤ 0 + 1
  · simp only [hone, if_true]
    omega
  · simp only [hone, if_false, Nat.succ_ne_zero]
    omega

theorem Sound.spaced_take (h : Sound n limit s) (hcount : s.count = 0) (x : α) :
    Spaced (s.taken ++ [⟨s.calls, s.fulls, s.skip, x⟩]) := by
  apply List.IsChain.append h.spaced (List.isChain_singleton _)
  intro y hy z hz
  obtain rfl : ⟨s.calls, s.fulls, s.skip, x⟩ = z := by simpa using hz
  intro hw
  obtain ⟨hskip, hdue⟩ := h.last y hy hw
  exact ⟨hskip, by simpa [Sampler.due, hcount] using hdue⟩

theorem count_taken {k : ℕ} (hn : 0 < n) :
    (k + 1) % n = (if n ≤ k % n + 1 then 0 else k % n + 1) ∧
      (k + 1) / n = if n ≤ k % n + 1 then k / n + 1 else k / n := by
  have hlt := Nat.mod_lt k hn
  have hdiv := Nat.div_add_mod k n
  rw [and_comm]
  split
  case isTrue hfull =>
    rw [Nat.div_mod_unique hn]
    refine ⟨?_, hn⟩
    rw [Nat.mul_add, Nat.mul_one]
    omega
  case isFalse hfree =>
    rw [Nat.div_mod_unique hn]
    omega

theorem min_le_grown (limit k : ℕ) : min (2 ^ k) limit ≤ grown limit (min (2 ^ k) limit) := by
  rw [grown_min]
  have hpow : 2 ^ k ≤ 2 ^ (k + 1) := Nat.pow_le_pow_right (by decide) (Nat.le_succ k)
  omega

theorem Sound.count_lt_take (h : Sound n limit s) (x : α) :
    (s.take limit x).count < (s.take limit x).skip := by
  have hlt : nextCount s.skip s.count < s.skip := next_count_lt h.skip_pos
  have hgrown := min_le_grown limit s.fulls
  rw [← h.skip] at hgrown
  unfold Sampler.take
  dsimp only
  split
  · exact hlt.trans_le hgrown
  · exact hlt

theorem Sound.last_take (h : Sound n limit s) (hcount : s.count = 0) (x : α) :
    ∀ y ∈ (s.take limit x).taken.getLast?, y.window = (s.take limit x).fulls →
      y.skip = (s.take limit x).skip ∧ (s.take limit x).due = y.call + (s.take limit x).skip := by
  intro y hy hw
  simp only [Sampler.take, List.getLast?_concat, Option.mem_some] at hy
  subst hy
  unfold Sampler.take at hw ⊢
  by_cases hfull : s.slots.length ≤ s.fill + 1
  · simp only [hfull, if_true] at hw
    exact absurd hw (Nat.ne_of_lt (Nat.lt_succ_self _))
  · simp only [hfull, if_false]
    exact ⟨trivial, due_taken hcount h.skip_pos⟩

theorem sound_take (h : Sound n limit s) (hn : 0 < n) (hcount : s.count = 0) (x : α) :
    Sound n limit (s.take limit x) := by
  obtain ⟨hmod, hdiv⟩ := count_taken (n := n) (k := s.taken.length) hn
  rw [← h.fill, ← h.fulls, ← h.length] at hdiv
  rw [← h.fill, ← h.length] at hmod
  have hring := h.ring.set (by rw [h.length]; exact hn) x
  rw [List.length_map, h.length, ← h.fill] at hring
  have htaken : (s.take limit x).taken.length = s.taken.length + 1 := List.length_append
  refine ⟨?_, ?_, ?_, ?_, h.count_lt_take x, ?_, h.spaced_take hcount x, h.last_take hcount x⟩
  · rw [← h.length]
    exact List.length_set
  · rw [htaken, ← h.length, hmod]
    rfl
  · rw [htaken, ← h.length, hdiv]
    rfl
  · unfold Sampler.take
    dsimp only
    split
    · rw [h.skip, grown_min]
    · exact h.skip
  · exact (congrArg (RingHolds _) List.map_append).mpr hring

theorem sound_tick (h : Sound n limit s) (hn : 0 < n) (x : α) :
    Sound n limit (s.tick limit x) := by
  unfold Sampler.tick
  split
  case isTrue hcount => exact sound_take h hn hcount x
  case isFalse hcount => exact sound_skipped h hcount

end SamplingWindow
