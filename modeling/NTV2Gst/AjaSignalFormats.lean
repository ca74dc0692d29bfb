import NTV2Gst.AjaCaptureLoop

/-!
# Which inputs count as the configured signal

`Init` turns the format of the mode into the one that the device captures, and the worker
compares it with what a single input sees, once more mapped for quad links. This follows both
mappings for every configuration that `Init` accepts.
-/
namespace AjaSignalFormats

open GstAjaModes AjaVideoSetup AjaCaptureLoop

def captured (a : InitArgs) : NTV2VideoFormat :=
  if a.sdiInputMode.isQuadLink || a.inputSource == .hdmi1 then
    (quadFormat a.videoFormat).getD a.videoFormat
  else a.videoFormat

/-- The link of a quad link can be told from the whole. -/
def Divided (a : InitArgs) : Prop :=
  a.sdiInputMode.isQuadLink = true ∧ a.inputSource = .sdi1

/-- The numbers between the two UHD-2 bounds are those of the 8K formats. -/
def BoundsUhd2 (sdk : Sdk) : Prop :=
  ∀ f, sdk.isUhd2 f = true → linkFormat f ≠ f

theorem map_format_captured {sdk : Sdk} {av : NTV2GstAV} {a : InitArgs}
    (h : ((av.configure a).mapFormat sdk a.videoFormat).2 = true) :
    ((av.configure a).mapFormat sdk a.videoFormat).1.mVideoFormat = captured a := by
  unfold NTV2GstAV.mapFormat captured at *
  cases hq : quadFormat a.videoFormat <;> cases hu : sdk.isUhd2 a.videoFormat <;>
    cases hl : a.sdiInputMode.isQuadLink <;> by_cases hs : a.inputSource = .hdmi1 <;>
    simp_all [NTV2GstAV.configure]

theorem init_captured {sdk : Sdk} {nvmmEnabled : Bool} {av : NTV2GstAV} {a : InitArgs}
    {sdiFormat : NTV2VideoFormat} (hauto : a.isAuto = false)
    (h : (av.init sdk nvmmEnabled a sdiFormat).2 = .setupVideo) :
    (av.init sdk nvmmEnabled a sdiFormat).1.mVideoFormat = captured a ∧
      (av.init sdk nvmmEnabled a sdiFormat).1.mVideoSource = a.inputSource ∧
      (av.init sdk nvmmEnabled a sdiFormat).1.mSDIInputMode = a.sdiInputMode := by
  unfold NTV2GstAV.init at *
  dsimp only at *
  obtain ⟨hmode, hsource, -, -⟩ := map_format_same sdk (av.configure a) a.videoFormat
  have hauto' : ((av.configure a).mapFormat sdk a.videoFormat).1.mIsAuto = false := by
    unfold NTV2GstAV.mapFormat
    cases quadFormat a.videoFormat <;> cases sdk.isUhd2 a.videoFormat <;>
      cases hl : a.sdiInputMode.isQuadLink <;> by_cases hs : a.inputSource = .hdmi1 <;>
      simp [NTV2GstAV.configure, hauto, hl, hs]
  by_cases hn : (a.useNvmm && !nvmmEnabled) = true
  · simp [hn] at h
  by_cases hok : ((av.configure a).mapFormat sdk a.videoFormat).2 = true
  swap
  · simp [hn, hok] at h
  have hformat := map_format_captured hok
  generalize ((av.configure a).mapFormat sdk a.videoFormat).1 = t at *
  by_cases hc : (t.mSDIInputMode.isQuadLink && t.mInputChannel != 0 &&
      t.mInputChannel != 4) = true
  · simp [hn, hok, hc] at h
  rw [if_neg hn, if_neg (by simp [hok]), if_neg hc, NTV2GstAV.latch, if_neg (by simp [hauto'])]
  exact ⟨hformat, hsource, hmode⟩

theorem effective_captured {sdk : Sdk} {nvmmEnabled : Bool} {av : NTV2GstAV} {a : InitArgs}
    {sdiFormat : NTV2VideoFormat} (hauto : a.isAuto = false)
    (h : (av.init sdk nvmmEnabled a sdiFormat).2 = .setupVideo) (i : NTV2VideoFormat) :
    haveSignal (av.init sdk nvmmEnabled a sdiFormat).1 i = true ↔
      i = captured a ∨ (Divided a ∧ i = linkFormat (captured a)) := by
  have hacc := init_accepted sdk nvmmEnabled av a sdiFormat h
  obtain ⟨hformat, hsource, hmode⟩ := init_captured hauto h
  generalize (av.init sdk nvmmEnabled a sdiFormat).1 = t at *
  have hquad : (t.mQuad && t.mVideoSource == .sdi1) = true ↔ Divided a := by
    rw [Bool.and_eq_true, beq_iff_eq, hsource, Divided]
    refine and_congr_left fun hs => ⟨fun hq => ?_, fun hl => hacc.link_quad (hmode ▸ hl)⟩
    rcases hacc.quad_source hq with hl | hh
    · exact hmode ▸ hl
    · rw [hsource, hs] at hh
      cases hh
  by_cases hd : Divided a
  · simp only [haveSignal, effectiveVideoFormat, hquad.mpr hd, if_true, hformat,
      Bool.or_eq_true, beq_iff_eq, hd, true_and]
    exact ⟨fun h => h.symm.imp Eq.symm Eq.symm, fun h => h.symm.imp Eq.symm Eq.symm⟩
  · have hno : (t.mQuad && t.mVideoSource == .sdi1) = false := by
      simpa using fun hq => hd (hquad.mp hq)
    simpa [haveSignal, effectiveVideoFormat, hno, hformat, hd] using eq_comm

/-- Only the two fastest 4K formats have no counterpart for a single link. -/
theorem link_format_quad {f g : NTV2VideoFormat} (h : quadFormat f = some g) :
    linkFormat g ≠ g ↔ f ≠ .format4096x2160p_11988 ∧ f ≠ .format4096x2160p_12000 := by
  cases f <;> cases h <;> decide

theorem quarter_in_table : ∀ whole ∈ modesRaw, ∀ part ∈ modesRaw,
    part.videoFormat = linkFormat ((quadFormat whole.videoFormat).getD whole.videoFormat) →
    part.videoFormat ≠ (quadFormat whole.videoFormat).getD whole.videoFormat →
    2 * part.width = whole.width ∧ 2 * part.height = whole.height ∧
      part.fpsN = whole.fpsN ∧ part.fpsD = whole.fpsD := by
  decide +kernel

theorem quad_link_format {sdk : Sdk} {nvmmEnabled : Bool} {av : NTV2GstAV} {a : InitArgs}
    {sdiFormat : NTV2VideoFormat} (hlink : a.sdiInputMode.isQuadLink = true)
    (h : (av.init sdk nvmmEnabled a sdiFormat).2 = .setupVideo) :
    (quadFormat a.videoFormat).isSome ∨ sdk.isUhd2 a.videoFormat = true := by
  by_contra hno
  simp only [not_or, Bool.not_eq_true, Option.isSome_eq_false_iff, Option.isNone_iff_eq_none]
    at hno
  have hbad : ((av.configure a).mapFormat sdk a.videoFormat).2 = false := by
    simp [NTV2GstAV.mapFormat, NTV2GstAV.configure, hlink, hno.1, hno.2]
  simp only [NTV2GstAV.init, hbad, Bool.not_false, if_true] at h
  split at h <;> cases h

theorem link_format_captured {sdk : Sdk} (hsdk : BoundsUhd2 sdk) {nvmmEnabled : Bool}
    {av : NTV2GstAV} {a : InitArgs} {sdiFormat : NTV2VideoFormat} (hd : Divided a)
    (h : (av.init sdk nvmmEnabled a sdiFormat).2 = .setupVideo) :
    linkFormat (captured a) ≠ captured a ↔
      a.videoFormat ≠ .format4096x2160p_11988 ∧ a.videoFormat ≠ .format4096x2160p_12000 := by
  have hcap : captured a = (quadFormat a.videoFormat).getD a.videoFormat := by
    simp [captured, hd.1]
  rw [hcap]
  cases hq : quadFormat a.videoFormat with
  | some g => exact link_format_quad hq
  | none =>
    have huhd : sdk.isUhd2 a.videoFormat = true := by simpa [hq] using quad_link_format hd.1 h
    have hne : a.videoFormat ≠ .format4096x2160p_11988 ∧
        a.videoFormat ≠ .format4096x2160p_12000 := by
      constructor <;> intro hf <;> rw [hf] at hq <;> cases hq
    exact iff_of_true (hsdk _ huhd) hne

/-- For every configuration that `Init` accepts: the inputs that count as its signal are the
format that is captured and, on a quad link, the one that a single link sees; a link can be
recognised by itself unless the mode is one of the two fastest; and a mode of the table that a
link is recognised by is a quarter of the selected one at the same rate. -/
theorem signal_formats {sdk : Sdk} (hsdk : BoundsUhd2 sdk) {nvmmEnabled : Bool} {av : NTV2GstAV}
    {a : InitArgs} {sdiFormat : NTV2VideoFormat} (hauto : a.isAuto = false)
    (h : (av.init sdk nvmmEnabled a sdiFormat).2 = .setupVideo) :
    (∀ i, haveSignal (av.init sdk nvmmEnabled a sdiFormat).1 i = true ↔
      i = captured a ∨ (Divided a ∧ i = linkFormat (captured a))) ∧
    ((∃ i, i ≠ captured a ∧ haveSignal (av.init sdk nvmmEnabled a sdiFormat).1 i = true) ↔
      Divided a ∧ a.videoFormat ≠ .format4096x2160p_11988 ∧
        a.videoFormat ≠ .format4096x2160p_12000) ∧
    ∀ whole ∈ modesRaw, whole.videoFormat = a.videoFormat → ∀ part ∈ modesRaw,
      haveSignal (av.init sdk nvmmEnabled a sdiFormat).1 part.videoFormat = true →
      part.videoFormat ≠ captured a →
      2 * part.width = whole.width ∧ 2 * part.height = whole.height ∧
        part.fpsN = whole.fpsN ∧ part.fpsD = whole.fpsD := by
  have hiff := effective_captured hauto h
  refine ⟨hiff, ⟨?_, ?_⟩, ?_⟩
  · rintro ⟨i, hne, hi⟩
    obtain hi | ⟨hd, rfl⟩ := (hiff i).mp hi
    · exact absurd hi hne
    · exact ⟨hd, (link_format_captured hsdk hd h).mp hne⟩
  · rintro ⟨hd, hne⟩
    exact ⟨_, (link_format_captured hsdk hd h).mpr hne, (hiff _).mpr (Or.inr ⟨hd, rfl⟩)⟩
  · intro whole hwhole hformat part hpart hsig hne
    obtain hi | ⟨hd, hi⟩ := (hiff _).mp hsig
    · exact absurd hi hne
    · have hcap : captured a = (quadFormat whole.videoFormat).getD whole.videoFormat := by
        simp [captured, hd.1, hformat]
      exact quarter_in_table whole hwhole part hpart (hcap ▸ hi) (hcap ▸ hne)

theorem signal_formats_uhd :
    let av : NTV2GstAV :=
      ⟨0, .sdi1, false, false, false, .singleLink, .format720p_5994, false, false⟩
    let a : InitArgs := ⟨.format3840x2160p_2500, .sdi1, false, false, .quadLinkTSI, false, false⟩
    (∀ i, haveSignal (av.init commonSdk false a .unknown).1 i = true ↔
      i = captured a ∨ (Divided a ∧ i = linkFormat (captured a))) ∧
    ((∃ i, i ≠ captured a ∧ haveSignal (av.init commonSdk false a .unknown).1 i = true) ↔
      Divided a ∧ a.videoFormat ≠ .format4096x2160p_11988 ∧
        a.videoFormat ≠ .format4096x2160p_12000) ∧
    ∀ whole ∈ modesRaw, whole.videoFormat = a.videoFormat → ∀ part ∈ modesRaw,
      haveSignal (av.init commonSdk false a .unknown).1 part.videoFormat = true →
      part.videoFormat ≠ captured a →
      2 * part.width = whole.width ∧ 2 * part.height = whole.height ∧
        part.fpsN = whole.fpsN ∧ part.fpsD = whole.fpsD := by
  intro av a
  have bounds : BoundsUhd2 commonSdk := by
    intro f
    cases f <;> decide
  exact signal_formats bounds rfl (by decide)

end AjaSignalFormats
