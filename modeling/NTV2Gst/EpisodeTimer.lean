import Mathlib.Data.List.TakeWhile

/-!
# How long a condition has lasted

Items arrive one by one. An item may be over a limit, and one may be acted on. An episode
is a stretch of items that are all over the limit and none of which was acted on. Whoever
waits for an episode to last needs no more than the item that opened it.
-/
namespace EpisodeTimer

variable {α : Type*} {above acted : α → Bool}

/-- The episode in progress at the end of a log that has its latest item first. -/
def episode (above acted : α → Bool) (log : List α) : List α :=
  log.takeWhile fun a => above a && !acted a

def opening (above acted : α → Bool) (log : List α) : Option α :=
  (episode above acted log).getLast?

@[simp] theorem opening_nil : opening above acted ([] : List α) = none := rfl

theorem opening_ended {a : α} (log : List α) (h : above a = false ∨ acted a = true) :
    opening above acted (a :: log) = none := by
  have ha : (above a && !acted a) = false := by
    rcases h with h | h
    · simp [h]
    · simp [h]
  simp [opening, episode, ha]

theorem opening_continued {a : α} {log : List α} (ho : above a = true) (ha : acted a = false) :
    opening above acted (a :: log) = some ((opening above acted log).getD a) := by
  simp [opening, episode, ho, ha, List.getLast?_cons]

theorem opening_eq_some {a f : α} {log : List α} (h : opening above acted (a :: log) = some f) :
    above a = true ∧ acted a = false ∧ f = (opening above acted log).getD a := by
  cases ho : above a with
  | false => simp [opening_ended log (Or.inl ho)] at h
  | true =>
    cases ha : acted a with
    | true => simp [opening_ended log (Or.inr ha)] at h
    | false =>
      rw [opening_continued ho ha] at h
      exact ⟨rfl, rfl, (Option.some.inj h).symm⟩

end EpisodeTimer
