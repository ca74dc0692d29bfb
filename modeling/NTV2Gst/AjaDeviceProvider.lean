import Mathlib.Data.Nat.Basic
import NTV2Gst.AjaInputRegistry

/-!
# Listed cards and the elements made from them

The provider lists a video and an audio device for every card with inputs, and the elements
made from them name the card by its number. The registry tells elements apart by the
specifier they use, and not by the card that is found for it.
-/
namespace AjaDeviceProvider

open TransitionRuns AjaInput AjaInputRegistry

structure NTV2DeviceInfo where
  deviceIndex : ℕ
  deviceIdentifier : String
  numVidInputs : ℕ
  deriving DecidableEq, Repr

structure GstAjaDevice where
  displayName : String
  deviceClass : String
  video : Bool
  deviceIndex : ℕ
  deriving DecidableEq, Repr

def gstAjaDeviceNew (device : NTV2DeviceInfo) (video : Bool) : GstAjaDevice where
  displayName := "AJA " ++ device.deviceIdentifier ++ (if video then " (Video)" else " (Audio)")
  deviceClass := if video then "Video/Source" else "Audio/Source"
  video := video
  deviceIndex := device.deviceIndex

/-- Both devices are put in front of the list, which is reversed in the end. -/
def probe (devices : List NTV2DeviceInfo) : List GstAjaDevice :=
  (devices.foldl (fun ret it =>
    if it.numVidInputs = 0 then ret
    else gstAjaDeviceNew it false :: gstAjaDeviceNew it true :: ret) []).reverse

structure Properties where
  isAudio : Bool
  deviceIdentifier : String
  inputChannel : ℕ
  deriving DecidableEq, Repr

/-- Only the identifier is set, the channel is the default one. -/
def createElement (self : GstAjaDevice) : Properties where
  isAudio := !self.video
  deviceIdentifier := Nat.repr self.deviceIndex
  inputChannel := 0

/-! ## The list -/

section Probe

variable {devices : List NTV2DeviceInfo} {d : GstAjaDevice}

/-- The cards with inputs in the order of the scan, each with its video device first. -/
theorem probe_eq (devices : List NTV2DeviceInfo) :
    probe devices = (devices.filter (·.numVidInputs ≠ 0)).flatMap fun it =>
      [gstAjaDeviceNew it true, gstAjaDeviceNew it false] := by
  have loop : ∀ ret : List GstAjaDevice, (devices.foldl (fun ret it =>
      if it.numVidInputs = 0 then ret
      else gstAjaDeviceNew it false :: gstAjaDeviceNew it true :: ret) ret).reverse =
        ret.reverse ++ (devices.filter (·.numVidInputs ≠ 0)).flatMap fun it =>
          [gstAjaDeviceNew it true, gstAjaDeviceNew it false] := by
    induction devices with
    | nil => simp
    | cons it devices ih =>
      intro ret
      rw [List.foldl_cons, ih]
      by_cases h : it.numVidInputs = 0 <;> simp [h]
  exact loop []

theorem mem_probe_iff :
    d ∈ probe devices ↔ ∃ it ∈ devices, it.numVidInputs ≠ 0 ∧
      ∃ video, d = gstAjaDeviceNew it video := by
  simp only [probe_eq, List.mem_flatMap, List.mem_filter, decide_eq_true_eq, List.mem_cons,
    List.not_mem_nil, or_false, Bool.exists_bool, and_assoc]
  exact exists_congr fun it => and_congr_right fun _ => and_congr_right fun _ => or_comm

end Probe

/-! ## Elements of one card -/

section Cards

-- `find` is the number of the card that the SDK finds for a specifier
variable (find : String → Option ℕ)

variable {E : Type*}

def OneEach (r : Registry E) : Prop :=
  ∀ g ∈ r.grants, ∀ h ∈ r.grants, ∀ card ∈ find g.device, card ∈ find h.device →
    g.channel = h.channel → g.isAudio = h.isAudio → g = h

/-- Elements open one input at a time and use the given specifiers. -/
def Named (names : String → Prop) (r : Registry E) : Call E → Prop
  | .acquire spec _ src _ => names spec ∧ ∀ g ∈ r.grants, g.src ≠ src
  | .close _ => True

variable {find} [DecidableEq E] {names : String → Prop} {r : Registry E}
  {spec : String} {channel : ℕ} {src : E} {isAudio : Bool}

theorem grant_eq (h : SlotsOwned r) {a b : Grant E} (ha : a ∈ r.grants) (hb : b ∈ r.grants)
    (hd : a.device = b.device) (hc : a.channel = b.channel) (hk : a.isAudio = b.isAudio) :
    a = b := by
  have ha' := (h.slots a.device a.channel a.isAudio a.src).mpr ha
  have hb' := (h.slots b.device b.channel b.isAudio b.src).mpr hb
  rw [hd, hc, hk, hb', Option.some.injEq] at ha'
  cases a
  cases b
  simp_all

theorem grants_named
    (h : ReachableWhile (registry E 8) (fun r x => NoMixUp r x ∧ Named names r x) r) :
    ∀ g ∈ r.grants, names g.device := by
  apply h.invariant
  · intro i hi
    cases hi
    simp [Registry.empty]
  · intro a x b ha hx hn g hg
    cases x with
    | acquire spec channel src isAudio =>
      cases hn
      by_cases hc : channel < 8
      · simp only [Registry.acquire, hc, if_true] at hg
        split at hg
        · rcases List.mem_append.mp hg with hg | hg
          · exact ha g hg
          · rw [List.mem_singleton.mp hg]
            exact hx.2.1
        · exact ha g hg
      · simp only [Registry.acquire, hc, if_false] at hg
        exact ha g hg
    | close g' =>
      simp only [registry] at hn
      split at hn
      · cases hn
        exact ha g (List.mem_of_mem_erase hg)
      · cases hn

theorem acquire_grants (h : NoMixUp r (.acquire spec channel src isAudio)) (hc : channel < 8)
    (hfree : (r.input spec channel).slot isAudio = none) :
    (r.acquire 8 spec channel src isAudio).2 = true ∧
      (r.acquire 8 spec channel src isAudio).1.grants =
        r.grants ++ [⟨spec, channel, src, isAudio⟩] := by
  have hres := ((acquire_contract hc).mpr h).returned.mpr hfree
  exact ⟨hres, by simpa [Registry.acquire, hc] using (acquire_result hc).symm.trans hres⟩

end Cards

/-- Exclusive use of the channels of a card holds in every run exactly when the specifiers in
use stand for different cards. -/
theorem one_each_iff {E : Type*} [DecidableEq E] [Nontrivial E] (find : String → Option ℕ)
    (names : String → Prop) :
    (∀ r : Registry E, ReachableWhile (registry E 8)
        (fun r x => NoMixUp r x ∧ Named names r x) r → OneEach find r) ↔
      ∀ a b, names a → names b → ∀ card ∈ find a, card ∈ find b → a = b := by
  constructor
  · intro h a b ha hb card hca hcb
    by_contra hne
    obtain ⟨e, f, hef⟩ := exists_pair_ne E
    -- one video source opens the card under each of the two specifiers
    have hmix : ∀ r spec (src : E), NoMixUp r (.acquire spec 0 src false) := by simp [NoMixUp]
    obtain ⟨-, hgrants⟩ := acquire_grants (hmix .empty a e) (by decide) rfl
    set r := (Registry.empty.acquire 8 a 0 e false).1
    have hfirst : ReachableWhile (registry E 8) (fun r x => NoMixUp r x ∧ Named names r x) r :=
      ReachableWhile.step (e := .acquire a 0 e false) ⟨.empty, rfl, .refl _⟩
        ⟨hmix _ _ _, ha, by simp [Registry.empty]⟩ rfl
    have hsecond : ReachableWhile (registry E 8) (fun r x => NoMixUp r x ∧ Named names r x)
        (r.acquire 8 b 0 f false).1 :=
      hfirst.step (e := .acquire b 0 f false)
        ⟨hmix _ _ _, hb, by simp [hgrants, Registry.empty, hef]⟩ rfl
    have hfree : (r.input b 0).slot false = none := by
      rw [acquire_input_ne (by decide) (by simpa using Ne.symm hne)]
      rfl
    obtain ⟨-, hgrants'⟩ := acquire_grants (hmix r b f) (by decide) hfree
    have same := h _ hsecond ⟨a, 0, e, false⟩ (by simp [hgrants', hgrants])
      ⟨b, 0, f, false⟩ (by simp [hgrants']) card hca hcb rfl rfl
    exact hne (congrArg Grant.device same)
  · intro hinj r hr g hg t ht card hcg hct hc hk
    have named := grants_named hr
    have owned : SlotsOwned r := slots_owned (hr.mono fun _ _ hx => hx.1)
    exact grant_eq owned hg ht (hinj _ _ (named g hg) (named t ht) card hcg hct) hc hk

def findCard (spec : String) : Option ℕ :=
  if spec = "0" ∨ spec = "00T6450203" then some 0 else if spec = "1" then some 1 else none

theorem one_each_iff_serial : ¬ ∀ r : Registry ℕ, ReachableWhile (registry ℕ 8)
    (fun r x => NoMixUp r x ∧ Named (fun _ => True) r x) r → OneEach findCard r := by
  intro h
  have same := (one_each_iff findCard fun _ => True).mp h "0" "00T6450203" trivial trivial 0
    (by decide) (by decide)
  exact absurd same (by decide)

/-! ## Elements made from listed devices -/

section Provided

variable {E : Type*} (devices : List NTV2DeviceInfo)

/-- The specifier and kind of a source made from a listed device, by a source that has no input
open. -/
def Provided (r : Registry E) : Call E → Prop
  | .acquire spec _ src isAudio =>
    (∃ d ∈ probe devices,
      (createElement d).deviceIdentifier = spec ∧ (createElement d).isAudio = isAudio) ∧
      ∀ g ∈ r.grants, g.src ≠ src
  | .close _ => True

def InUse (find : String → Option ℕ) (r : Registry E) (spec : String) (channel : ℕ)
    (isAudio : Bool) : Prop :=
  ∃ g ∈ r.grants, find g.device = find spec ∧ g.channel = channel ∧ g.isAudio = isAudio

variable {devices} {find : String → Option ℕ} {r : Registry E} {spec : String} {channel : ℕ}
  {src : E} {isAudio : Bool}

variable [DecidableEq E]

instance (r : Registry E) : ∀ x, Decidable (Provided devices r x)
  | .acquire spec _ src isAudio => inferInstanceAs (Decidable
    ((∃ d ∈ probe devices,
      (createElement d).deviceIdentifier = spec ∧ (createElement d).isAudio = isAudio) ∧
      ∀ g ∈ r.grants, g.src ≠ src))
  | .close _ => isTrue trivial

/-- The SDK finds the listed cards under their numbers. -/
def FindsListed (find : String → Option ℕ) (devices : List NTV2DeviceInfo) : Prop :=
  ∀ it ∈ devices, find (Nat.repr it.deviceIndex) = some it.deviceIndex

def Listed (devices : List NTV2DeviceInfo) (spec : String) : Prop :=
  ∃ d ∈ probe devices, (createElement d).deviceIdentifier = spec

theorem listed_inj (known : FindsListed find devices) {a b : String} (ha : Listed devices a)
    (hb : Listed devices b) (h : find a = find b) : a = b := by
  obtain ⟨d, hd, rfl⟩ := ha
  obtain ⟨e, he, rfl⟩ := hb
  obtain ⟨it, hit, -, video, rfl⟩ := mem_probe_iff.mp hd
  obtain ⟨it', hit', -, video', rfl⟩ := mem_probe_iff.mp he
  have hcard : it.deviceIndex = it'.deviceIndex :=
    Option.some.inj ((known it hit).symm.trans (h.trans (known it' hit')))
  exact congrArg Nat.repr hcard

theorem provided_named
    (h : ReachableWhile (registry E 8) (fun r x => NoMixUp r x ∧ Provided devices r x) r) :
    ReachableWhile (registry E 8) (fun r x => NoMixUp r x ∧ Named (Listed devices) r x) r := by
  refine h.mono fun r x hx => ⟨hx.1, ?_⟩
  cases x with
  | acquire spec channel src isAudio =>
    obtain ⟨-, ⟨d, hd, hspec, -⟩, hclosed⟩ := hx
    exact ⟨⟨d, hd, hspec⟩, hclosed⟩
  | close g => trivial

theorem slot_free_iff (known : FindsListed find devices) (owned : SlotsOwned r)
    (named : ∀ g ∈ r.grants, Listed devices g.device) (hspec : Listed devices spec) :
    (r.input spec channel).slot isAudio = none ↔ ¬ InUse find r spec channel isAudio := by
  constructor
  · rintro hfree ⟨g, hg, hd, rfl, rfl⟩
    have hsame := listed_inj known (named g hg) hspec hd
    have hslot := (owned.slots g.device g.channel g.isAudio g.src).mpr hg
    rw [hsame, hfree] at hslot
    cases hslot
  · intro hfree
    by_contra hne
    obtain ⟨e, he⟩ := Option.ne_none_iff_exists'.mp hne
    exact hfree ⟨_, (owned.slots _ _ _ _).mp he, rfl, rfl, rfl⟩

theorem mix_up_granted (hc : channel < 8)
    (h : ¬ NoMixUp r (.acquire spec channel src isAudio)) :
    (r.acquire 8 spec channel src isAudio).2 = true ∧
      (r.input spec channel).slot isAudio ≠ none := by
  obtain ⟨rfl, ha, hv⟩ := not_not.mp h
  rw [acquire_result hc]
  rcases acquire_slots (r.input spec channel) r.nextId src true with
    ⟨hfree, -⟩ | ⟨-, -, -, hres, -⟩ | ⟨-, htaken, -⟩
  · simp only [GstAjaInput.slot, if_true] at hfree
    rw [hfree] at ha
    cases ha
  · refine ⟨hres, fun hnone => ?_⟩
    simp only [GstAjaInput.slot, if_true] at hnone
    rw [hnone] at ha
    cases ha
  · exact absurd hv (htaken rfl)

end Provided

/-- Sources made from the list share no channel of a card with another one of their kind, in
every run in which no audio source asks for a channel whose audio slot alone is taken. Then one
more is granted a channel if and only if none of its kind has that channel of the card; one
that asks for such a channel is granted it although another one has it. -/
theorem provided_elements_open {E : Type*} [DecidableEq E] (find : String → Option ℕ)
    (devices : List NTV2DeviceInfo) (known : FindsListed find devices) (r : Registry E)
    (h : ReachableWhile (registry E 8) (fun r x => NoMixUp r x ∧ Provided devices r x) r) :
    OneEach find r ∧
      ∀ spec channel src isAudio, channel < 8 →
        Provided devices r (.acquire spec channel src isAudio) →
          (((r.acquire 8 spec channel src isAudio).2 = true ↔
            ¬ InUse find r spec channel isAudio) ↔
          NoMixUp r (.acquire spec channel src isAudio)) := by
  have hr := provided_named h
  have owned : SlotsOwned r := slots_owned (hr.mono fun _ _ hx => hx.1)
  have named : ∀ g ∈ r.grants, Listed devices g.device := grants_named hr
  constructor
  · intro g hg t ht card hcg hct hc hk
    have hfind : find g.device = find t.device :=
      (Option.mem_def.mp hcg).trans (Option.mem_def.mp hct).symm
    exact grant_eq owned hg ht (listed_inj known (named g hg) (named t ht) hfind) hc hk
  · intro spec channel src isAudio hc hp
    obtain ⟨⟨d, hd, hspec, -⟩, -⟩ := hp
    rw [← slot_free_iff known owned named ⟨d, hd, hspec⟩]
    constructor
    · intro hres
      by_contra hmix
      obtain ⟨hgranted, htaken⟩ := mix_up_granted hc hmix
      exact htaken (hres.mp hgranted)
    · exact fun hmix => ((acquire_contract hc).mpr hmix).returned

theorem provided_elements_open_pair : ∃ r : Registry ℕ,
    r.grants = [⟨"0", 0, 7, true⟩, ⟨"0", 0, 8, false⟩] ∧ OneEach findCard r ∧
      (((r.acquire 8 "0" 0 9 true).2 = true ↔ ¬ InUse findCard r "0" 0 true) ↔
        NoMixUp r (.acquire "0" 0 9 true)) := by
  obtain ⟨r, hr, hp⟩ := reachable_while_of_trace (m := registry ℕ 8)
    (a := fun r x => NoMixUp r x ∧ Provided [⟨0, "Corvid 44", 4⟩, ⟨1, "Kona", 0⟩] r x)
    (i := .empty) (l := [.acquire "0" 0 7 true, .acquire "0" 0 8 false])
    (p := fun r => decide (r.grants = [⟨"0", 0, 7, true⟩, ⟨"0", 0, 8, false⟩] ∧
      Provided [⟨0, "Corvid 44", 4⟩, ⟨1, "Kona", 0⟩] r (.acquire "0" 0 9 true)))
    rfl (by decide +kernel)
  obtain ⟨hgrants, hthird⟩ := of_decide_eq_true hp
  obtain ⟨hone, hopen⟩ := provided_elements_open findCard
    [⟨0, "Corvid 44", 4⟩, ⟨1, "Kona", 0⟩] (by unfold FindsListed; decide +kernel) r hr
  exact ⟨r, hgrants, hone, hopen "0" 0 9 true (by decide) hthird⟩

end AjaDeviceProvider
