import Mathlib.Data.List.Nodup
import Mathlib.Logic.Equiv.Basic

/-!
# Insertions into a partial map

A list of entries is inserted one after the other. An entry whose key is taken already
replaces the old one or is ignored, depending on the map.
-/
namespace KeyedInserts

variable {κ ν : Type*}

def Functional (l : List (κ × ν)) : Prop := ∀ e ∈ l, ∀ f ∈ l, e.1 = f.1 → e.2 = f.2

def Present (m : κ → Option ν) (l : List (κ × ν)) : Prop := ∀ e ∈ l, m e.1 = some e.2

theorem functional_of_nodup {l : List (κ × ν)} (h : (l.map Prod.fst).Nodup) : Functional l := by
  intro e he f hf hk
  rw [List.inj_on_of_nodup_map h he hf hk]

theorem not_functional {l : List (κ × ν)} {e f : κ × ν} (he : e ∈ l) (hf : f ∈ l)
    (hk : e.1 = f.1) (hv : e.2 ≠ f.2) : ¬ Functional l := fun h => hv (h e he f hf hk)

def relabel (ι : Equiv.Perm κ) (ο : Equiv.Perm ν) (m : κ → Option ν) : κ → Option ν :=
  fun k => (m (ι.symm k)).map ο

variable {ι : Equiv.Perm κ} {ο : Equiv.Perm ν}

theorem relabel_apply (m : κ → Option ν) (k : κ) : relabel ι ο m (ι k) = (m k).map ο := by
  rw [relabel, Equiv.symm_apply_apply]

variable [DecidableEq κ]

def insert (replace : Bool) (m : κ → Option ν) (e : κ × ν) : κ → Option ν :=
  if replace || (m e.1).isNone then Function.update m e.1 (some e.2) else m

def insertAll (replace : Bool) (m : κ → Option ν) (l : List (κ × ν)) : κ → Option ν :=
  l.foldl (insert replace) m

variable {replace : Bool} {m : κ → Option ν} {l : List (κ × ν)} {k : κ} {v : ν}

theorem insert_of_ne {e : κ × ν} (h : k ≠ e.1) : insert replace m e k = m k := by
  unfold insert
  split
  · exact Function.update_of_ne h _ _
  · rfl

theorem insert_stays {e : κ × ν} (hm : m k = some v) (he : e.1 = k → e.2 = v) :
    insert replace m e k = some v := by
  by_cases hk : k = e.1
  · subst hk
    unfold insert
    split
    · rw [Function.update_self, he rfl]
    · exact hm
  · rw [insert_of_ne hk, hm]

theorem insert_all_stays (hm : m k = some v) (hl : ∀ e ∈ l, e.1 = k → e.2 = v) :
    insertAll replace m l k = some v := by
  induction l generalizing m with
  | nil => exact hm
  | cons x l ih =>
    apply ih
    · exact insert_stays hm (hl x List.mem_cons_self)
    · exact fun e he => hl e (List.mem_cons_of_mem _ he)

theorem insert_all_keeps (hm : m k = some v) : insertAll false m l k = some v := by
  induction l generalizing m with
  | nil => exact hm
  | cons x l ih =>
    apply ih
    by_cases hk : k = x.1
    · subst hk
      simp [insert, hm]
    · rw [insert_of_ne hk, hm]

theorem insert_all_of_ne (h : ∀ e ∈ l, e.1 ≠ k) : insertAll replace m l k = m k := by
  induction l generalizing m with
  | nil => rfl
  | cons x l ih =>
    obtain ⟨hx, hl⟩ := List.forall_mem_cons.mp h
    exact (ih hl).trans (insert_of_ne hx.symm)

theorem insert_isSome {e : κ × ν} (h : e.1 = k ∨ (m k).isSome) :
    (insert replace m e k).isSome := by
  by_cases hk : e.1 = k
  · subst hk
    unfold insert
    split
    · rw [Function.update_self, Option.isSome_some]
    · simp_all [Option.isSome_iff_ne_none]
  · rw [insert_of_ne (Ne.symm hk)]
    exact h.resolve_left hk

theorem insert_all_isSome (h : (∃ e ∈ l, e.1 = k) ∨ (m k).isSome) :
    (insertAll replace m l k).isSome := by
  induction l generalizing m with
  | nil => exact h.resolve_left (by simp)
  | cons x l ih =>
    apply ih
    rcases h with ⟨e, he, hk⟩ | hm
    · rcases List.mem_cons.mp he with rfl | he
      · exact Or.inr (insert_isSome (Or.inl hk))
      · exact Or.inl ⟨e, he, hk⟩
    · exact Or.inr (insert_isSome (Or.inr hm))

theorem insert_all_mem (hf : Functional l) {e : κ × ν} (he : e ∈ l)
    (hm : replace = true ∨ ∀ v, m e.1 = some v → v = e.2) :
    insertAll replace m l e.1 = some e.2 := by
  induction l generalizing m with
  | nil => cases he
  | cons x l ih =>
    by_cases hx : x.1 = e.1
    · have hv : x.2 = e.2 := hf x List.mem_cons_self e he hx
      have now : insert replace m x e.1 = some e.2 := by
        unfold insert
        split
        · rw [hx, Function.update_self, hv]
        · rename_i hn
          simp only [Bool.or_eq_true, not_or, Bool.not_eq_true, Option.isNone_eq_false_iff] at hn
          obtain ⟨w, hw⟩ := Option.isSome_iff_exists.mp hn.2
          rw [hx] at hw
          rw [hw, (hm.resolve_left (by simp [hn.1])) w hw]
      apply insert_all_stays now
      intro f hfl hfe
      exact hf f (List.mem_cons_of_mem _ hfl) e he hfe
    · have hel : e ∈ l := (List.mem_cons.mp he).resolve_left fun h => hx (by rw [h])
      apply ih
      · exact fun a ha b hb => hf a (List.mem_cons_of_mem _ ha) b (List.mem_cons_of_mem _ hb)
      · exact hel
      · rw [insert_of_ne (Ne.symm hx)]
        exact hm

/-- All entries are present at the end when they agree with each other and, in a map that
ignores entries under a taken key, with what was there before. -/
theorem present_insert_all_iff : Present (insertAll replace m l) l ↔
    Functional l ∧ (replace = false → ∀ e ∈ l, ∀ v, m e.1 = some v → v = e.2) := by
  constructor
  · intro h
    constructor
    · intro e he f hf hk
      have hef := h e he
      rw [hk, h f hf] at hef
      exact (Option.some.inj hef).symm
    · intro hr e he v hv
      subst hr
      have hk := h e he
      rw [insert_all_keeps hv] at hk
      exact Option.some.inj hk
  · rintro ⟨hf, hm⟩ e he
    apply insert_all_mem hf he
    cases replace with
    | true => exact Or.inl rfl
    | false => exact Or.inr (hm rfl e he)

/-! ## Clearing before inserting -/

def clear (keys : List κ) (values : List ν) [DecidableEq ν] (m : κ → Option ν) : κ → Option ν :=
  fun k => (m k).filter fun v => !(k ∈ keys || v ∈ values)

theorem present_clear_insert_all_iff [DecidableEq ν] {keys : List κ} {values : List ν} :
    Present (insertAll replace (clear keys values m) l) l ↔
      Functional l ∧ (replace = false → ∀ e ∈ l, e.1 ∉ keys → ∀ v, m e.1 = some v →
        v = e.2 ∨ v ∈ values) := by
  have hclear : ∀ k v, clear keys values m k = some v ↔
      m k = some v ∧ k ∉ keys ∧ v ∉ values := by
    intro k v
    simp [clear, Option.filter_eq_some_iff]
  rw [present_insert_all_iff]
  refine and_congr_right fun _ => imp_congr_right fun _ => forall₂_congr fun e _ => ?_
  constructor
  · intro h hk v hv
    by_cases hvv : v ∈ values
    · exact Or.inr hvv
    · exact Or.inl (h v ((hclear e.1 v).mpr ⟨hv, hk, hvv⟩))
  · intro h v hv
    obtain ⟨hm, hk, hvv⟩ := (hclear e.1 v).mp hv
    exact (h hk v hm).resolve_right hvv

/-! ## Renaming keys and values -/

theorem relabel_insert (m : κ → Option ν) (e : κ × ν) :
    relabel ι ο (insert replace m e) = insert replace (relabel ι ο m) (e.map ι ο) := by
  funext k
  obtain ⟨k, rfl⟩ := ι.surjective k
  rw [relabel_apply]
  by_cases hk : k = e.1
  · subst hk
    unfold insert
    rw [show (e.map ι ο).1 = ι e.1 from rfl, relabel_apply, Option.isNone_map]
    split
    · simp
    · exact (relabel_apply m e.1).symm
  · have hk' : ι k ≠ (e.map ι ο).1 := fun h => hk (ι.injective h)
    rw [insert_of_ne hk, insert_of_ne hk', relabel_apply]

theorem relabel_insert_all (m : κ → Option ν) (l : List (κ × ν)) :
    relabel ι ο (insertAll replace m l) =
      insertAll replace (relabel ι ο m) (l.map (Prod.map ι ο)) := by
  induction l generalizing m with
  | nil => rfl
  | cons e l ih =>
    have hstep := ih (insert replace m e)
    rw [relabel_insert] at hstep
    exact hstep

theorem relabel_clear [DecidableEq ν] (keys : List κ) (values : List ν) (m : κ → Option ν) :
    relabel ι ο (clear keys values m) =
      clear (keys.map ι) (values.map ο) (relabel ι ο m) := by
  funext k
  obtain ⟨k, rfl⟩ := ι.surjective k
  rw [relabel_apply]
  simp only [clear, relabel_apply]
  cases m k with
  | none => rfl
  | some v =>
    simp only [Option.map_some, Option.filter, List.mem_map_of_injective ι.injective,
      List.mem_map_of_injective ο.injective]
    split <;> rfl

end KeyedInserts
