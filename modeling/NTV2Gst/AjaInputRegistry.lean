import NTV2Gst.AjaInput
import NTV2Gst.TransitionRuns
import Mathlib.Logic.Function.Basic
import Mathlib.Data.List.Nodup

/-!
# The registry of inputs

Devices are looked up by their specifier and made on first use; each has one input for
every channel. Elements of any number acquire inputs and close the ones they acquired. A
grant is a successful acquisition that is not closed yet.
-/
namespace AjaInputRegistry

open TransitionRuns AjaInput

structure Grant (E : Type*) where
  device : String
  channel : ℕ
  src : E
  isAudio : Bool
  deriving DecidableEq, Repr

/-- `refs` counts the references to an element that the registry holds. -/
structure Registry (E : Type*) where
  devices : String → Option (ℕ → GstAjaInput E)
  refs : E → ℕ
  nextId : ℕ
  grants : List (Grant E)

inductive Call (E : Type*) where
  | acquire (inDeviceSpecifier : String) (channel : ℕ) (src : E) (isAudio : Bool)
  | close (grant : Grant E)
  deriving DecidableEq, Repr

variable {E : Type*}

def Registry.empty : Registry E := ⟨fun _ => none, fun _ => 0, 0, []⟩

/-- The inputs of a device, zeroed when it is made. -/
def Registry.device (r : Registry E) (inDeviceSpecifier : String) : ℕ → GstAjaInput E :=
  (r.devices inDeviceSpecifier).getD fun _ => .empty

def Registry.input (r : Registry E) (inDeviceSpecifier : String) (channel : ℕ) : GstAjaInput E :=
  r.device inDeviceSpecifier channel

def Registry.set (r : Registry E) (inDeviceSpecifier : String) (channel : ℕ)
    (input : GstAjaInput E) : Registry E :=
  { r with
    devices := Function.update r.devices inDeviceSpecifier
      (some (Function.update (r.device inDeviceSpecifier) channel input)) }

theorem input_set_self (r : Registry E) (d : String) (c : ℕ) (input : GstAjaInput E) :
    (r.set d c input).input d c = input := by
  simp [Registry.set, Registry.input, Registry.device]

theorem input_set_ne (r : Registry E) {d d' : String} {c c' : ℕ} (input : GstAjaInput E)
    (h : (d', c') ≠ (d, c)) : (r.set d c input).input d' c' = r.input d' c' := by
  by_cases hd : d' = d
  · subst hd
    have hc : c' ≠ c := fun hc => h (by rw [hc])
    simp [Registry.set, Registry.input, Registry.device, Function.update_of_ne hc]
  · simp [Registry.set, Registry.input, Registry.device, Function.update_of_ne hd]

theorem close_slots (input : GstAjaInput E) (isAudio k : Bool) :
    (if isAudio then input.closeAudio else input.closeVideo).slot k =
      if k = isAudio then none else input.slot k := by
  cases isAudio <;> cases k <;> rfl

variable [DecidableEq E]

/-- `gst_aja_acquire_input` for a device with `channels` channels; the second component
tells whether it returns an input. -/
def Registry.acquire (r : Registry E) (channels : ℕ) (inDeviceSpecifier : String) (channel : ℕ)
    (src : E) (isAudio : Bool) : Registry E × Bool :=
  if channel < channels then
    let a := (r.input inDeviceSpecifier channel).acquire r.nextId src isAudio
    ({ r.set inDeviceSpecifier channel a.1 with
        refs := if a.2 then Function.update r.refs src (r.refs src + 1) else r.refs
        nextId := r.nextId + 1
        grants := if a.2 then r.grants ++ [⟨inDeviceSpecifier, channel, src, isAudio⟩]
          else r.grants }, a.2)
  else (r, false)

def unref (refs : E → ℕ) : Option E → E → ℕ
  | none => refs
  | some e => Function.update refs e (refs e - 1)

def Registry.close (r : Registry E) (g : Grant E) : Registry E :=
  let input := r.input g.device g.channel
  { r.set g.device g.channel (if g.isAudio then input.closeAudio else input.closeVideo) with
    refs := unref r.refs (input.slot g.isAudio)
    grants := r.grants.erase g }

def registry (E : Type*) [DecidableEq E] (channels : ℕ) : Machine (Registry E) (Call E) where
  initial r := r = .empty
  next r
    | .acquire spec channel src isAudio => some (r.acquire channels spec channel src isAudio).1
    | .close g => if g ∈ r.grants then some (r.close g) else none

/-- Each slot is free or holds an element that acquired it as that kind, and every
reference belongs to one open acquisition. -/
structure SlotsOwned (r : Registry E) : Prop where
  slots : ∀ d c isAudio e,
    (r.input d c).slot isAudio = some e ↔ (⟨d, c, e, isAudio⟩ : Grant E) ∈ r.grants
  once : r.grants.Nodup
  refs : ∀ e, r.refs e = r.grants.countP fun g => g.src = e

structure AcquireContract (channels : ℕ) (r : Registry E) (spec : String) (channel : ℕ) (src : E)
    (isAudio : Bool) : Prop where
  returned : (r.acquire channels spec channel src isAudio).2 = true ↔
    (r.input spec channel).slot isAudio = none
  refused : (r.acquire channels spec channel src isAudio).2 = false →
    (r.acquire channels spec channel src isAudio).1.refs = r.refs ∧
      ∀ d c k, ((r.acquire channels spec channel src isAudio).1.input d c).slot k =
        (r.input d c).slot k
  others : ∀ d c, (d, c) ≠ (spec, channel) →
    (r.acquire channels spec channel src isAudio).1.input d c = r.input d c

/-- No audio element asks for an input whose audio slot is taken while the other one is
free. -/
def NoMixUp (r : Registry E) : Call E → Prop
  | .acquire spec channel _ isAudio =>
    ¬(isAudio = true ∧ (r.input spec channel).audiosrc.isSome = true ∧
      (r.input spec channel).videosrc = none)
  | .close _ => True

instance (r : Registry E) (x : Call E) : Decidable (NoMixUp r x) := by
  cases x with
  | acquire spec channel src isAudio =>
    unfold NoMixUp
    cases (r.input spec channel).videosrc <;> infer_instance
  | close g => exact isTrue trivial

/-! ## Calls -/

variable {r : Registry E} {channels : ℕ} {spec : String} {channel : ℕ} {src : E}
  {isAudio : Bool}

theorem acquire_input_self (r : Registry E) (spec : String) (src : E) (isAudio : Bool)
    (hc : channel < channels) :
    (r.acquire channels spec channel src isAudio).1.input spec channel =
      ((r.input spec channel).acquire r.nextId src isAudio).1 := by
  simp only [Registry.acquire, hc, if_true]
  exact input_set_self r spec channel _

theorem acquire_input_ne (hc : channel < channels) {d : String} {c : ℕ}
    (h : (d, c) ≠ (spec, channel)) :
    (r.acquire channels spec channel src isAudio).1.input d c = r.input d c := by
  simp only [Registry.acquire, hc, if_true]
  exact input_set_ne r _ h

theorem acquire_result (hc : channel < channels) :
    (r.acquire channels spec channel src isAudio).2 =
      ((r.input spec channel).acquire r.nextId src isAudio).2 := by
  simp only [Registry.acquire, hc, if_true]

theorem acquire_contract (hc : channel < channels) :
    AcquireContract channels r spec channel src isAudio ↔
      NoMixUp r (.acquire spec channel src isAudio) := by
  have cases := acquire_slots (r.input spec channel) r.nextId src isAudio
  constructor
  · rintro h ⟨rfl, ha, hv⟩
    rcases cases with ⟨hfree, -⟩ | ⟨-, -, -, hres, -⟩ | ⟨-, htaken, -⟩
    · simp only [GstAjaInput.slot, if_true] at hfree
      rw [hfree] at ha
      cases ha
    · have := h.returned.mp (by rw [acquire_result hc, hres])
      simp only [GstAjaInput.slot, if_true] at this
      rw [this] at ha
      cases ha
    · exact htaken rfl hv
  · intro hmix
    refine ⟨?_, ?_, fun d c hne => acquire_input_ne hc hne⟩
    · rw [acquire_result hc]
      rcases cases with ⟨hfree, hres, -⟩ | ⟨h₁, h₂, h₃, -⟩ | ⟨htaken, -, hres, -⟩
      · simp [hfree, hres]
      · exact absurd ⟨h₁, h₂, h₃⟩ hmix
      · rw [hres]
        constructor
        · intro h; cases h
        · intro h; rw [h] at htaken; cases htaken
    · intro hres
      rw [acquire_result hc] at hres
      refine ⟨by simp [Registry.acquire, hc, hres], ?_⟩
      intro d c k
      by_cases hdc : (d, c) = (spec, channel)
      · obtain ⟨rfl, rfl⟩ := Prod.mk.inj hdc
        rw [acquire_input_self _ _ _ _ hc]
        rcases cases with ⟨-, h, -⟩ | ⟨-, -, -, h, -⟩ | ⟨-, -, -, ha, hv⟩
        · rw [hres] at h; cases h
        · rw [hres] at h; cases h
        · cases k <;> simp [GstAjaInput.slot, ha, hv]
      · rw [acquire_input_ne hc hdc]

/-! ## Runs -/

private theorem count_append (gs : List (Grant E)) (g : Grant E) (e : E) :
    (gs ++ [g]).countP (fun g => g.src = e) =
      gs.countP (fun g => g.src = e) + if g.src = e then 1 else 0 := by
  simp [List.countP_append, List.countP_singleton]

theorem acquire_owned (h : SlotsOwned r) (hc : channel < channels)
    (hmix : NoMixUp r (.acquire spec channel src isAudio)) :
    SlotsOwned (r.acquire channels spec channel src isAudio).1 := by
  have contract := (acquire_contract hc).mpr hmix
  have hself := acquire_input_self r spec src isAudio hc
  rcases acquire_slots (r.input spec channel) r.nextId src isAudio with
    ⟨hfree, hres, hnew, hother⟩ | ⟨h₁, h₂, h₃, -⟩ | ⟨-, -, hres, -⟩
  · have hgrants : (r.acquire channels spec channel src isAudio).1.grants =
        r.grants ++ [⟨spec, channel, src, isAudio⟩] := by simp [Registry.acquire, hc, hres]
    have hrefs : (r.acquire channels spec channel src isAudio).1.refs =
        Function.update r.refs src (r.refs src + 1) := by simp [Registry.acquire, hc, hres]
    have hfresh : ∀ e, (⟨spec, channel, e, isAudio⟩ : Grant E) ∉ r.grants := by
      intro e he
      rw [← h.slots, hfree] at he
      cases he
    refine ⟨?_, ?_, ?_⟩
    · intro d c k e
      rw [hgrants, List.mem_append, List.mem_singleton]
      by_cases hdc : (d, c) = (spec, channel)
      · obtain ⟨rfl, rfl⟩ := Prod.mk.inj hdc
        rw [hself]
        by_cases hk : k = isAudio
        · subst hk
          rw [hnew, Option.some.injEq]
          constructor
          · rintro rfl; exact Or.inr rfl
          · rintro (he | he)
            · exact absurd he (hfresh e)
            · cases he; rfl
        · have hk' : k = !isAudio := by cases k <;> cases isAudio <;> simp_all
          rw [hk', hother, h.slots]
          refine ⟨Or.inl, fun he => he.resolve_right ?_⟩
          intro heq
          cases isAudio <;> cases heq
      · rw [contract.others d c hdc, h.slots]
        refine ⟨Or.inl, fun he => he.resolve_right fun heq => hdc ?_⟩
        cases heq
        rfl
    · rw [hgrants]
      exact h.once.append (List.nodup_singleton _) (by simpa using hfresh src)
    · intro e
      rw [hgrants, hrefs, count_append]
      by_cases he : src = e
      · subst he
        simp [h.refs]
      · simp [Function.update_of_ne (Ne.symm he), h.refs, he]
  · exact absurd ⟨h₁, h₂, h₃⟩ hmix
  · have hnone : (r.acquire channels spec channel src isAudio).2 = false := by
      rw [acquire_result hc, hres]
    obtain ⟨hrefs, hslots⟩ := contract.refused hnone
    have hgrants : (r.acquire channels spec channel src isAudio).1.grants = r.grants := by
      simp [Registry.acquire, hc, hres]
    refine ⟨?_, ?_, ?_⟩
    · intro d c k e
      rw [hslots, hgrants]; exact h.slots d c k e
    · rw [hgrants]; exact h.once
    · intro e
      rw [hrefs, hgrants]; exact h.refs e

theorem close_owned (h : SlotsOwned r) {g : Grant E} (hg : g ∈ r.grants) :
    SlotsOwned (r.close g) := by
  have hheld : (r.input g.device g.channel).slot g.isAudio = some g.src :=
    (h.slots g.device g.channel g.isAudio g.src).mpr hg
  refine ⟨?_, h.once.erase g, ?_⟩
  · intro d c k e
    have hmem : (⟨d, c, e, k⟩ : Grant E) ∈ (r.close g).grants ↔
        (⟨d, c, e, k⟩ : Grant E) ≠ g ∧ (⟨d, c, e, k⟩ : Grant E) ∈ r.grants :=
      h.once.mem_erase_iff
    rw [hmem]
    by_cases hdc : (d, c) = (g.device, g.channel)
    · obtain ⟨rfl, rfl⟩ := Prod.mk.inj hdc
      have hself : (r.close g).input g.device g.channel = if g.isAudio then
          (r.input g.device g.channel).closeAudio else (r.input g.device g.channel).closeVideo :=
        input_set_self r g.device g.channel _
      rw [hself, close_slots]
      split
      case isTrue hk =>
        subst hk
        refine ⟨fun he => (by cases he), ?_⟩
        rintro ⟨hne, he⟩
        rw [← h.slots, hheld, Option.some.injEq] at he
        subst he
        exact absurd rfl hne
      case isFalse hk =>
        rw [h.slots]
        refine ⟨fun he => ⟨fun heq => hk ?_, he⟩, fun he => he.2⟩
        rw [← heq]
    · have hne : (r.close g).input d c = r.input d c := input_set_ne r _ hdc
      rw [hne, h.slots]
      refine ⟨fun he => ⟨fun heq => hdc ?_, he⟩, fun he => he.2⟩
      rw [← heq]
  · intro e
    have hrefs : (r.close g).refs = Function.update r.refs g.src (r.refs g.src - 1) := by
      simp [Registry.close, hheld, unref]
    have hcount := (List.perm_cons_erase hg).countP_eq (fun g' => decide (g'.src = e))
    have hgrants : (r.close g).grants = r.grants.erase g := rfl
    rw [List.countP_cons, ← h.refs e] at hcount
    rw [hrefs, hgrants]
    by_cases he : e = g.src
    · subst he
      simp [hcount]
    · simpa [Function.update_of_ne he, Ne.symm he] using hcount

theorem slots_owned (h : ReachableWhile (registry E channels) NoMixUp r) : SlotsOwned r := by
  apply h.invariant
  · intro i hi
    cases hi
    refine ⟨?_, List.nodup_nil, fun e => rfl⟩
    intro d c k e
    cases k <;> simp [Registry.input, Registry.device, Registry.empty, GstAjaInput.empty,
      GstAjaInput.slot]
  · intro a x b ha hx hn
    cases x with
    | acquire spec channel src isAudio =>
      cases hn
      by_cases hc : channel < channels
      · exact acquire_owned ha hc hx
      · simpa [Registry.acquire, hc] using ha
    | close g =>
      simp only [registry] at hn
      split at hn
      · cases hn
        exact close_owned ha ‹_›
      · cases hn

/-- Every slot has an owner of its kind as long as no audio element slips into the other
slot, and `acquire` answers as it should exactly then. -/
theorem registry_sound (h : ReachableWhile (registry E channels) NoMixUp r) :
    SlotsOwned r ∧ ∀ spec channel src isAudio, channel < channels →
      (AcquireContract channels r spec channel src isAudio ↔
        NoMixUp r (.acquire spec channel src isAudio)) :=
  ⟨slots_owned h, fun _ _ _ _ hc => acquire_contract hc⟩

theorem registry_sound_four : ∃ r, Reachable (registry ℕ 8) r ∧
    (SlotsOwned r ∧ ∀ spec channel src isAudio, channel < 8 →
      (AcquireContract 8 r spec channel src isAudio ↔
        NoMixUp r (.acquire spec channel src isAudio))) ∧
    r.grants = [⟨"0", 0, 2, false⟩] := by
  obtain ⟨r, hr, hp⟩ := reachable_while_of_trace (m := registry ℕ 8) (a := NoMixUp)
    (i := .empty)
    (l := [.acquire "0" 0 1 true, .acquire "0" 0 2 false, .acquire "0" 0 3 true,
      .acquire "0" 0 4 false, .close ⟨"0", 0, 1, true⟩])
    (p := fun r => decide (r.grants = [⟨"0", 0, 2, false⟩]))
    rfl
    (by decide +kernel)
  exact ⟨r, hr.reachable, registry_sound hr, of_decide_eq_true hp⟩

/-- A second audio element on an input without video source becomes its video source. -/
theorem audio_in_video_slot : ¬∀ r, Reachable (registry ℕ 8) r →
    SlotsOwned r ∧ ∀ spec channel src isAudio, channel < 8 →
      AcquireContract 8 r spec channel src isAudio := by
  intro h
  obtain ⟨r, hr, hp⟩ := reachable_of_trace (m := registry ℕ 8) (i := .empty)
    (l := [.acquire "0" 0 1 true, .acquire "0" 0 2 true])
    (p := fun r => decide ((r.input "0" 0).slot false = some 2 ∧
      (⟨"0", 0, 2, false⟩ : Grant ℕ) ∉ r.grants))
    rfl (by decide +kernel)
  obtain ⟨hslot, hgrant⟩ := of_decide_eq_true hp
  exact hgrant (((h r hr).1.slots "0" 0 false 2).mp hslot)

end AjaInputRegistry
