import NTV2Gst.KeyedInserts

/-!
# Several holders of entries in one map

Each holder has put a list of entries into a map that all of them share. What one holder
inserts leaves the entries of the others alone exactly when the lists agree on the keys that
they have in common.
-/
namespace SharedEntries

open KeyedInserts

variable {κ ν ι α : Type*} {replace : Bool} {m : κ → Option ν} {l r : List (κ × ν)}

def Agree (l r : List (κ × ν)) : Prop := ∀ e ∈ l, ∀ f ∈ r, e.1 = f.1 → e.2 = f.2

theorem Agree.symm (h : Agree l r) : Agree r l := fun f hf e he hk => (h e he f hf hk.symm).symm

section Insert

variable [DecidableEq κ]

theorem present_stays (hm : Present m l) (h : Agree l r) : Present (insertAll replace m r) l :=
  fun e he => insert_all_stays (hm e he) fun f hf hk => (h e he f hf hk.symm).symm

/-- In a map that replaces what it finds, nothing less than agreement will do. -/
theorem present_stays_iff (hm : Present m l) (hr : Functional r) :
    Present (insertAll true m r) l ↔ Agree l r := by
  constructor
  · intro h e he f hf hk
    have hnew : insertAll true m r f.1 = some f.2 := insert_all_mem hr hf (Or.inl rfl)
    rw [← hk, h e he] at hnew
    exact Option.some.inj hnew
  · exact present_stays hm

theorem present_clear [DecidableEq ν] {keys : List κ} {values : List ν} (hm : Present m l)
    (h : ∀ e ∈ l, e.1 ∉ keys ∧ e.2 ∉ values) : Present (clear keys values m) l := by
  intro e he
  obtain ⟨hk, hv⟩ := h e he
  simp [clear, hm e he, hk, hv]

end Insert

/-! ## Holders -/

def Held (holders : ι → Option α) (entries : α → List (κ × ν)) (m : κ → Option ν) : Prop :=
  ∀ i, ∀ a ∈ holders i, Present m (entries a)

variable {holders : ι → Option α} {entries : α → List (κ × ν)} {m' : κ → Option ν}

theorem held_none : Held (fun _ : ι => none) entries m := fun _ _ ha => by cases ha

variable [DecidableEq ι]

theorem held_update_iff {i : ι} {a : Option α} :
    Held (Function.update holders i a) entries m ↔
      (∀ b ∈ a, Present m (entries b)) ∧ ∀ j, j ≠ i → ∀ b ∈ holders j, Present m (entries b) := by
  constructor
  · intro h
    constructor
    · intro b hb
      exact h i b (by rwa [Function.update_self])
    · intro j hj b hb
      exact h j b (by rwa [Function.update_of_ne hj])
  · rintro ⟨hnew, hold⟩ j b hb
    by_cases hj : j = i
    · subst hj
      rw [Function.update_self] at hb
      exact hnew b hb
    · rw [Function.update_of_ne hj] at hb
      exact hold j hj b hb

/-- A holder that takes its place keeps everyone's entries exactly when its own agree with
each other and with those of the others. -/
theorem held_insert_iff [DecidableEq κ] {i : ι} {a : α} (h : Held holders entries m) :
    Held (Function.update holders i (some a)) entries (insertAll true m (entries a)) ↔
      Functional (entries a) ∧
        ∀ j, j ≠ i → ∀ b ∈ holders j, Agree (entries b) (entries a) := by
  rw [held_update_iff]
  constructor
  · rintro ⟨hnew, hold⟩
    have hf : Functional (entries a) := (present_insert_all_iff.mp (hnew a rfl)).1
    exact ⟨hf, fun j hj b hb => (present_stays_iff (h j b hb) hf).mp (hold j hj b hb)⟩
  · rintro ⟨hf, hagree⟩
    constructor
    · intro b hb
      obtain rfl := Option.mem_some.mp hb
      exact present_insert_all_iff.mpr ⟨hf, fun hr => by cases hr⟩
    · exact fun j hj b hb => present_stays (h j b hb) (hagree j hj b hb)

theorem held_leave_iff [DecidableEq κ] {i : ι} {l : List (κ × ν)} (h : Held holders entries m)
    (hl : Functional l) :
    Held (Function.update holders i none) entries (insertAll true m l) ↔
      ∀ j, j ≠ i → ∀ b ∈ holders j, Agree (entries b) l := by
  rw [held_update_iff]
  constructor
  · rintro ⟨-, hold⟩ j hj b hb
    exact (present_stays_iff (h j b hb) hl).mp (hold j hj b hb)
  · intro hagree
    constructor
    · intro b hb
      cases hb
    · exact fun j hj b hb => present_stays (h j b hb) (hagree j hj b hb)

end SharedEntries
