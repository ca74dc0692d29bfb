import Mathlib.Tactic.Common
import NTV2Gst.GstAjaModes

/-!
# What `Init` makes of a configuration

The checks of `NTV2GstAV::Init` and the fields of the engine that the routing and the
frame buffers are computed from. The order of the SDK's video formats and its tests on
them are parameters.
-/
namespace AjaVideoSetup

open GstAjaModes

abbrev NTV2Channel := Fin 8

instance ntv2ChannelNeZero : @NeZero ℕ Zero.ofOfNat0 8 := Nat.instNeZeroSucc

inductive SDIInputMode where
  | singleLink | quadLinkSQD | quadLinkTSI
  deriving DecidableEq, Repr

def SDIInputMode.isQuadLink (m : SDIInputMode) : Bool := m == .quadLinkSQD || m == .quadLinkTSI

/-- The three sources that `Init` is called with. -/
inductive NTV2InputSource where
  | sdi1 | hdmi1 | analog1
  deriving DecidableEq, Repr

/-- The numbers behind the video formats and the `NTV2_IS_*` macros. -/
structure Sdk where
  value : NTV2VideoFormat → ℕ
  firstUhd2DefFormat : ℕ
  endUhd2FullDefFormats : ℕ
  is12GFormat : NTV2VideoFormat → Bool
  isQuadFrameFormat : NTV2VideoFormat → Bool
  isQuadQuadFormat : NTV2VideoFormat → Bool
  isQuadQuadHfrVideoFormat : NTV2VideoFormat → Bool

def Sdk.isUhd2 (sdk : Sdk) (f : NTV2VideoFormat) : Bool :=
  sdk.firstUhd2DefFormat ≤ sdk.value f && sdk.value f ≤ sdk.endUhd2FullDefFormats

/-- Formats in use with their place in the SDK: UHD and 4K are quad-frame formats and from 50
frames per second on need 12G links, UHD-2 and 8K are quad-quad formats. -/
def commonSdk : Sdk where
  value f := match f with
    | .format4x3840x2160p_2500 => 352
    | .format4x3840x2160p_6000 => 357
    | .format4x4096x2160p_6000 => 409
    | _ => 0
  firstUhd2DefFormat := 350
  endUhd2FullDefFormats := 413
  is12GFormat f := f == .format3840x2160p_5000 || f == .format3840x2160p_6000
  isQuadFrameFormat f := f == .format3840x2160p_2500 || f == .format3840x2160p_5000 ||
    f == .format3840x2160p_6000 || f == .format4x1920x1080p_2500 ||
    f == .format4x1920x1080p_5000 || f == .format4x1920x1080p_6000
  isQuadQuadFormat f := f == .format4x3840x2160p_2500 || f == .format4x3840x2160p_6000 ||
    f == .format4x4096x2160p_6000
  isQuadQuadHfrVideoFormat f := f == .format4x3840x2160p_6000 || f == .format4x4096x2160p_6000

structure NTV2GstAV where
  mInputChannel : NTV2Channel
  mVideoSource : NTV2InputSource
  mIsRGBA : Bool
  mIsAuto : Bool
  mPassthrough : Bool
  mSDIInputMode : SDIInputMode
  mVideoFormat : NTV2VideoFormat
  mQuad : Bool
  mStarted : Bool
  deriving DecidableEq, Repr

structure InitArgs where
  videoFormat : NTV2VideoFormat
  inputSource : NTV2InputSource
  isRGBA : Bool
  isAuto : Bool
  sdiInputMode : SDIInputMode
  passthrough : Bool
  useNvmm : Bool
  deriving DecidableEq, Repr

def quadFormat : NTV2VideoFormat → Option NTV2VideoFormat
  | .format3840x2160p_2398 => some .format4x1920x1080p_2398
  | .format3840x2160p_2400 => some .format4x1920x1080p_2400
  | .format3840x2160p_2500 => some .format4x1920x1080p_2500
  | .format3840x2160p_2997 => some .format4x1920x1080p_2997
  | .format3840x2160p_3000 => some .format4x1920x1080p_3000
  | .format3840x2160p_5000 => some .format4x1920x1080p_5000
  | .format3840x2160p_5994 => some .format4x1920x1080p_5994
  | .format3840x2160p_6000 => some .format4x1920x1080p_6000
  | .format4096x2160p_2398 => some .format4x2048x1080p_2398
  | .format4096x2160p_2400 => some .format4x2048x1080p_2400
  | .format4096x2160p_2500 => some .format4x2048x1080p_2500
  | .format4096x2160p_2997 => some .format4x2048x1080p_2997
  | .format4096x2160p_3000 => some .format4x2048x1080p_3000
  | .format4096x2160p_4795 => some .format4x2048x1080p_4795
  | .format4096x2160p_4800 => some .format4x2048x1080p_4800
  | .format4096x2160p_5000 => some .format4x2048x1080p_5000
  | .format4096x2160p_5994 => some .format4x2048x1080p_5994
  | .format4096x2160p_6000 => some .format4x2048x1080p_6000
  | .format4096x2160p_11988 => some .format4x2048x1080p_11988
  | .format4096x2160p_12000 => some .format4x2048x1080p_12000
  | _ => none

def determineInputFormat (sdiFormat : NTV2VideoFormat) (quad : Bool) : Option NTV2VideoFormat :=
  match sdiFormat with
  | .unknown => none
  | .format1080p_5000_A | .format1080p_5000_B =>
    some (if quad then .format4x1920x1080p_5000 else .format1080p_5000_A)
  | .format1080p_5994_A | .format1080p_5994_B =>
    some (if quad then .format4x1920x1080p_5994 else .format1080p_5994_A)
  | .format1080p_6000_A | .format1080p_6000_B =>
    some (if quad then .format4x1920x1080p_6000 else .format1080p_6000_A)
  | f => some f

/-- How a call of `Init` ends. `setupVideo` is the only way to the routing, and from there
on nothing fails. -/
inductive InitStatus where
  | nvmmNotSupported
  | quadRequiresUhd
  | quadRequiresChannel
  | noInputFormat
  | alreadyStarted
  | setupVideo
  deriving DecidableEq, Repr

def InitStatus.isSuccess (s : InitStatus) : Bool := s == .alreadyStarted || s == .setupVideo

/-- Map the video mode: quad links and UHD or 4K over HDMI use the 4x modes. The flag is
false when a quad link cannot carry the format. -/
def NTV2GstAV.mapFormat (sdk : Sdk) (av : NTV2GstAV) (f : NTV2VideoFormat) : NTV2GstAV × Bool :=
  let av := { av with mQuad := true }
  if av.mSDIInputMode.isQuadLink || av.mVideoSource == .hdmi1 then
    match quadFormat f with
    | some g => ({ av with mVideoFormat := g }, true)
    | none =>
      if sdk.isUhd2 f then ({ av with mVideoFormat := f, mQuad := true }, true)
      else if av.mSDIInputMode.isQuadLink then (av, false)
      else ({ av with mVideoFormat := f, mQuad := false }, true)
  else ({ av with mVideoFormat := f, mQuad := false }, true)

def NTV2GstAV.configure (av : NTV2GstAV) (a : InitArgs) : NTV2GstAV :=
  { av with
    mVideoSource := a.inputSource
    mIsRGBA := a.isRGBA
    mIsAuto := a.isAuto
    mPassthrough := a.passthrough
    mSDIInputMode := a.sdiInputMode }

/-- In auto mode an engine that runs is left alone, any other latches onto its input. -/
def NTV2GstAV.latch (av : NTV2GstAV) (sdiFormat : NTV2VideoFormat) : NTV2GstAV × InitStatus :=
  if av.mIsAuto then
    if av.mStarted then (av, .alreadyStarted)
    else match determineInputFormat sdiFormat av.mSDIInputMode.isQuadLink with
      | none => (av, .noInputFormat)
      | some f => ({ av with mVideoFormat := f }, .setupVideo)
  else (av, .setupVideo)

/-- `Init`, with what the device sees on its SDI input. `nvmmEnabled` is a build option. -/
def NTV2GstAV.init (sdk : Sdk) (nvmmEnabled : Bool) (av : NTV2GstAV) (a : InitArgs)
    (sdiFormat : NTV2VideoFormat) : NTV2GstAV × InitStatus :=
  let av := av.configure a
  if a.useNvmm && !nvmmEnabled then (av, .nvmmNotSupported)
  else
    let (av, ok) := av.mapFormat sdk a.videoFormat
    if !ok then (av, .quadRequiresUhd)
    else if av.mSDIInputMode.isQuadLink && av.mInputChannel != 0 && av.mInputChannel != 4 then
      (av, .quadRequiresChannel)
    else av.latch sdiFormat

/-! ## What an accepted configuration looks like -/

structure Accepted (av : NTV2GstAV) : Prop where
  quad_source : av.mQuad = true → av.mSDIInputMode.isQuadLink = true ∨ av.mVideoSource = .hdmi1
  link_quad : av.mSDIInputMode.isQuadLink = true → av.mQuad = true
  link_channel : av.mSDIInputMode.isQuadLink = true → av.mInputChannel = 0 ∨ av.mInputChannel = 4

theorem map_format_quad (sdk : Sdk) (av : NTV2GstAV) (f : NTV2VideoFormat)
    (h : (av.mapFormat sdk f).2 = true) :
    ((av.mapFormat sdk f).1.mQuad = true → av.mSDIInputMode.isQuadLink = true ∨
      av.mVideoSource = .hdmi1) ∧
    (av.mSDIInputMode.isQuadLink = true → (av.mapFormat sdk f).1.mQuad = true) := by
  unfold NTV2GstAV.mapFormat at *
  cases hf : quadFormat f <;> cases hu : sdk.isUhd2 f <;>
    cases hl : av.mSDIInputMode.isQuadLink <;> by_cases hs : av.mVideoSource = .hdmi1 <;>
    simp_all

@[simp] theorem map_format_same (sdk : Sdk) (av : NTV2GstAV) (f : NTV2VideoFormat) :
    (av.mapFormat sdk f).1.mSDIInputMode = av.mSDIInputMode ∧
      (av.mapFormat sdk f).1.mVideoSource = av.mVideoSource ∧
      (av.mapFormat sdk f).1.mInputChannel = av.mInputChannel ∧
      (av.mapFormat sdk f).1.mStarted = av.mStarted := by
  unfold NTV2GstAV.mapFormat
  cases quadFormat f <;> cases sdk.isUhd2 f <;> cases hl : av.mSDIInputMode.isQuadLink <;>
    by_cases hs : av.mVideoSource = .hdmi1 <;> simp [hl, hs]

theorem latch_cases (av : NTV2GstAV) (sdiFormat : NTV2VideoFormat) :
    ∃ f, (av.latch sdiFormat).1 = { av with mVideoFormat := f } := by
  have same : av = { av with mVideoFormat := av.mVideoFormat } := rfl
  unfold NTV2GstAV.latch
  by_cases ha : av.mIsAuto = true
  swap
  · exact ⟨_, by rw [if_neg ha]⟩
  by_cases hs : av.mStarted = true
  · exact ⟨_, by rw [if_pos ha, if_pos hs]⟩
  rw [if_pos ha, if_neg hs]
  cases determineInputFormat sdiFormat av.mSDIInputMode.isQuadLink with
  | none => exact ⟨_, same⟩
  | some f => exact ⟨f, rfl⟩

theorem init_accepted (sdk : Sdk) (nvmmEnabled : Bool) (av : NTV2GstAV) (a : InitArgs)
    (sdiFormat : NTV2VideoFormat)
    (h : (av.init sdk nvmmEnabled a sdiFormat).2 = .setupVideo) :
    Accepted (av.init sdk nvmmEnabled a sdiFormat).1 := by
  unfold NTV2GstAV.init at *
  dsimp only at *
  generalize av.configure a = av' at *
  obtain ⟨hm, hv, -, -⟩ := map_format_same sdk av' a.videoFormat
  by_cases hn : (a.useNvmm && !nvmmEnabled) = true
  · simp [hn] at h
  by_cases hok : (av'.mapFormat sdk a.videoFormat).2 = true
  swap
  · simp [hn, hok] at h
  obtain ⟨hq, hl⟩ := map_format_quad sdk av' a.videoFormat hok
  rw [← hm] at hl
  rw [← hm, ← hv] at hq
  generalize (av'.mapFormat sdk a.videoFormat).1 = t at *
  by_cases hc : (t.mSDIInputMode.isQuadLink && t.mInputChannel != 0 &&
      t.mInputChannel != 4) = true
  · simp [hn, hok, hc] at h
  rw [if_neg hn, if_neg (by simp [hok]), if_neg hc]
  obtain ⟨f, hf⟩ := latch_cases t sdiFormat
  rw [hf]
  refine ⟨hq, hl, fun hlink => ?_⟩
  by_contra hne
  simp_all

end AjaVideoSetup
