import NTV2Gst.AjaInputRegistry
import NTV2Gst.AjaVideoSetup

/-!
# What a failed open leaves behind

`open` of the two elements: the input is acquired, then the device is opened, then the
video or the audio of the engine is initialised. Each of the three may fail, the last one
for every reason that it checks.
-/
namespace AjaFailedOpen

open GstAjaModes AjaInput AjaInputRegistry
open AjaVideoSetup (Sdk InitArgs InitStatus NTV2InputSource SDIInputMode commonSdk)

inductive GstAjaVideoInputMode where
  | sdi | hdmi | analog
  deriving DecidableEq, Repr

def GstAjaVideoInputMode.inputSource : GstAjaVideoInputMode → NTV2InputSource
  | .sdi => .sdi1
  | .hdmi => .hdmi1
  | .analog => .analog1

structure VideoProperties where
  deviceIdentifier : String
  inputChannel : ℕ
  mode : GstAjaMode
  inputMode : GstAjaVideoInputMode
  sdiInputMode : SDIInputMode
  passthrough : Bool
  useNvmm : Bool
  deriving DecidableEq, Repr

def VideoProperties.initArgs (p : VideoProperties) : InitArgs where
  videoFormat := p.mode.videoFormat
  inputSource := p.inputMode.inputSource
  isRGBA := p.mode.isRGBA
  isAuto := false
  sdiInputMode := p.sdiInputMode
  passthrough := p.passthrough
  useNvmm := p.useNvmm

structure AudioProperties where
  deviceIdentifier : String
  inputChannel : ℕ
  channels : ℕ
  deriving DecidableEq, Repr

/-- What the device answers, and the fields of the engine that `Init` starts from; its channel
is the one of the input. -/
structure Hardware where
  found : Bool
  setup : AjaVideoSetup.NTV2GstAV
  sdiFormat : NTV2VideoFormat
  maxAudioChannels : ℕ
  deriving DecidableEq, Repr

inductive OpenResult where
  | refused
  | notFound
  | initFailed (status : InitStatus)
  | tooManyChannels
  | opened
  deriving DecidableEq, Repr

def OpenResult.returns (o : OpenResult) : Bool := o == .opened

/-- The check of `SetupAudio`: no number stands for all channels of the device. -/
def setupAudio (hw : Hardware) (numAudioChannels : ℕ) : Bool :=
  (if numAudioChannels = 0 then hw.maxAudioChannels else numAudioChannels) ≤ hw.maxAudioChannels

/-- The engine of an input; an acquisition has made one when there was none. -/
def engine {E : Type*} (r : Registry E) (spec : String) (channel : ℕ) : NTV2GstAV :=
  (r.input spec channel).ntv2AV.getD (.new r.nextId)

section Open

variable {E : Type*} [DecidableEq E] (channels : ℕ)

/-- `gst_aja_video_src_open`: every `return FALSE` leaves everything as it is by then. -/
def videoOpen (sdk : Sdk) (nvmmEnabled : Bool) (hw : Hardware) (r : Registry E) (src : E)
    (p : VideoProperties) : Registry E × OpenResult :=
  let a := r.acquire channels p.deviceIdentifier p.inputChannel src false
  if a.2 then
    let av := engine a.1 p.deviceIdentifier p.inputChannel
    let setup := { hw.setup with mInputChannel := Fin.ofNat 8 p.inputChannel }
    let status := (setup.init sdk nvmmEnabled p.initArgs hw.sdiFormat).2
    (a.1.set p.deviceIdentifier p.inputChannel
      { a.1.input p.deviceIdentifier p.inputChannel with
        mode := some p.mode
        startStreams := true
        ntv2AV := some (av.openInit p.mode hw.found status.isSuccess).1 },
      if (av.openDevice hw.found).2 then
        if status.isSuccess then .opened else .initFailed status
      else .notFound)
  else (a.1, .refused)

def audioOpen (hw : Hardware) (r : Registry E) (src : E) (p : AudioProperties) :
    Registry E × OpenResult :=
  let a := r.acquire channels p.deviceIdentifier p.inputChannel src true
  if a.2 then
    let av := engine a.1 p.deviceIdentifier p.inputChannel
    let ok := setupAudio hw p.channels
    (a.1.set p.deviceIdentifier p.inputChannel
      { a.1.input p.deviceIdentifier p.inputChannel with
        ntv2AV := some (av.openInitAudio hw.found ok).1 },
      if (av.openDevice hw.found).2 then
        if ok then .opened else .tooManyChannels
      else .notFound)
  else (a.1, .refused)

structure LeftAlone (r r' : Registry E) (spec : String) (channel : ℕ) (src : E) : Prop where
  videosrc : (r'.input spec channel).videosrc = (r.input spec channel).videosrc
  audiosrc : (r'.input spec channel).audiosrc = (r.input spec channel).audiosrc
  mode : (r'.input spec channel).mode = (r.input spec channel).mode
  start_streams : (r'.input spec channel).startStreams = (r.input spec channel).startStreams
  refs : r'.refs src = r.refs src
  later : ∀ src' isAudio, (r'.acquire channels spec channel src' isAudio).2 =
    (r.acquire channels spec channel src' isAudio).2

/-- There is no such channel, or no slot is free that an element of the kind may take. -/
def NoSlot (r : Registry E) (spec : String) (channel : ℕ) (isAudio : Bool) : Prop :=
  channel < channels → (isAudio = true → (r.input spec channel).audiosrc.isSome = true) ∧
    (r.input spec channel).videosrc.isSome = true

end Open

variable {E : Type*} [DecidableEq E] {channels : ℕ} {r r' : Registry E} {spec : String}
  {channel : ℕ} {src : E} {isAudio : Bool}

/-! ## Acquiring -/

theorem acquire_answer (r : Registry E) (spec : String) (channel : ℕ) (src : E)
    (isAudio : Bool) :
    (r.acquire channels spec channel src isAudio).2 = (decide (channel < channels) &&
      (isAudio && (r.input spec channel).audiosrc.isNone ||
        (r.input spec channel).videosrc.isNone)) := by
  by_cases hc : channel < channels
  · obtain ⟨ha, hv⟩ := with_engine_slots (r.input spec channel) r.nextId
    rw [acquire_result hc, GstAjaInput.acquire]
    simp only [ha, hv, hc, decide_true, Bool.true_and]
    cases isAudio <;> cases (r.input spec channel).audiosrc <;>
      cases (r.input spec channel).videosrc <;> rfl
  · simp [Registry.acquire, hc]

theorem refused_iff (src : E) :
    (r.acquire channels spec channel src isAudio).2 = false ↔
      NoSlot channels r spec channel isAudio := by
  rw [acquire_answer]
  unfold NoSlot
  by_cases hc : channel < channels
  · cases isAudio <;> cases (r.input spec channel).audiosrc <;>
      cases (r.input spec channel).videosrc <;> simp [hc]
  · simp [hc]

theorem refused_input (hc : channel < channels)
    (h : (r.acquire channels spec channel src isAudio).2 = false) :
    (r.acquire channels spec channel src isAudio).1.input spec channel =
      (r.input spec channel).withEngine r.nextId := by
  rw [acquire_result hc] at h
  rw [acquire_input_self _ _ _ _ hc]
  unfold GstAjaInput.acquire at h ⊢
  dsimp only at h ⊢
  split
  case isTrue ha => simp [ha] at h
  case isFalse ha =>
    split
    case isTrue hv => simp [ha, hv] at h
    case isFalse => rfl

theorem left_alone_of_refused (h : (r.acquire channels spec channel src isAudio).2 = false) :
    LeftAlone channels r (r.acquire channels spec channel src isAudio).1 spec channel src := by
  by_cases hc : channel < channels
  · have hin := refused_input hc h
    obtain ⟨ha, hv⟩ := with_engine_slots (r.input spec channel) r.nextId
    have hrest : ((r.input spec channel).withEngine r.nextId).mode =
          (r.input spec channel).mode ∧
        ((r.input spec channel).withEngine r.nextId).startStreams =
          (r.input spec channel).startStreams := by
      unfold GstAjaInput.withEngine
      split
      · exact ⟨rfl, rfl⟩
      · exact ⟨rfl, rfl⟩
    have hrefs : (r.acquire channels spec channel src isAudio).1.refs = r.refs := by
      rw [acquire_result hc] at h
      simp [Registry.acquire, hc, h]
    constructor
    · rw [hin, hv]
    · rw [hin, ha]
    · rw [hin, hrest.1]
    · rw [hin, hrest.2]
    · rw [hrefs]
    · intro src' k
      rw [acquire_answer, acquire_answer, hin, ha, hv]
  · have hsame : (r.acquire channels spec channel src isAudio).1 = r := by
      simp [Registry.acquire, hc]
    rw [hsame]
    exact ⟨rfl, rfl, rfl, rfl, rfl, fun _ _ => rfl⟩

theorem not_left_alone_of_granted (h : (r.acquire channels spec channel src isAudio).2 = true)
    (hv : (r'.input spec channel).videosrc =
      ((r.acquire channels spec channel src isAudio).1.input spec channel).videosrc)
    (ha : (r'.input spec channel).audiosrc =
      ((r.acquire channels spec channel src isAudio).1.input spec channel).audiosrc) :
    ¬ LeftAlone channels r r' spec channel src := by
  intro hl
  have hc : channel < channels := by
    by_contra hc
    simp [Registry.acquire, hc] at h
  rw [acquire_input_self _ _ _ _ hc] at hv ha
  rw [hl.videosrc] at hv
  rw [hl.audiosrc] at ha
  rw [acquire_result hc] at h
  rcases acquire_slots (r.input spec channel) r.nextId src isAudio with
    ⟨hfree, -, htaken, -⟩ | ⟨-, -, hfree, -, htaken, -⟩ | ⟨-, -, hno, -⟩
  · cases isAudio with
    | true =>
      have : (r.input spec channel).audiosrc = some src := ha.trans htaken
      simp [GstAjaInput.slot, this] at hfree
    | false =>
      have : (r.input spec channel).videosrc = some src := hv.trans htaken
      simp [GstAjaInput.slot, this] at hfree
  · rw [htaken, hfree] at hv
    cases hv
  · rw [hno] at h
    cases h

/-! ## Opening -/

theorem video_open_slots (sdk : Sdk) (nvmmEnabled : Bool) (hw : Hardware) (r : Registry E)
    (src : E) (p : VideoProperties)
    (h : (r.acquire channels p.deviceIdentifier p.inputChannel src false).2 = true) :
    ¬ LeftAlone channels r (videoOpen channels sdk nvmmEnabled hw r src p).1 p.deviceIdentifier
      p.inputChannel src := by
  apply not_left_alone_of_granted h
  · rw [videoOpen, if_pos h]
    simp only [input_set_self]
  · rw [videoOpen, if_pos h]
    simp only [input_set_self]

theorem audio_open_slots (hw : Hardware) (r : Registry E) (src : E) (p : AudioProperties)
    (h : (r.acquire channels p.deviceIdentifier p.inputChannel src true).2 = true) :
    ¬ LeftAlone channels r (audioOpen channels hw r src p).1 p.deviceIdentifier
      p.inputChannel src := by
  apply not_left_alone_of_granted h
  · rw [audioOpen, if_pos h]
    simp only [input_set_self]
  · rw [audioOpen, if_pos h]
    simp only [input_set_self]

/-- An open that fails leaves the input alone exactly if it fails in `acquire`. -/
theorem failed_open_left_alone_iff (channels : ℕ) (hw : Hardware) (r : Registry E) (src : E) :
    (∀ sdk nvmmEnabled p, (videoOpen channels sdk nvmmEnabled hw r src p).2.returns = false →
      (LeftAlone channels r (videoOpen channels sdk nvmmEnabled hw r src p).1 p.deviceIdentifier
        p.inputChannel src ↔ NoSlot channels r p.deviceIdentifier p.inputChannel false)) ∧
    ∀ p, (audioOpen channels hw r src p).2.returns = false →
      (LeftAlone channels r (audioOpen channels hw r src p).1 p.deviceIdentifier
        p.inputChannel src ↔ NoSlot channels r p.deviceIdentifier p.inputChannel true) := by
  constructor
  · intro sdk nvmmEnabled p _
    rw [← refused_iff src]
    cases h : (r.acquire channels p.deviceIdentifier p.inputChannel src false).2 with
    | true => simpa using video_open_slots sdk nvmmEnabled hw r src p h
    | false =>
      have hopen : (videoOpen channels sdk nvmmEnabled hw r src p).1 =
          (r.acquire channels p.deviceIdentifier p.inputChannel src false).1 := by
        simp [videoOpen, h]
      rw [hopen]
      simpa using left_alone_of_refused h
  · intro p _
    rw [← refused_iff src]
    cases h : (r.acquire channels p.deviceIdentifier p.inputChannel src true).2 with
    | true => simpa using audio_open_slots hw r src p h
    | false =>
      have hopen : (audioOpen channels hw r src p).1 =
          (r.acquire channels p.deviceIdentifier p.inputChannel src true).1 := by
        simp [audioOpen, h]
      rw [hopen]
      simpa using left_alone_of_refused h

def quadLinkHd : VideoProperties :=
  ⟨"0", 0, hd .format1080p_2500 1920 1080 8 yuv 25 1 false true, .sdi, .quadLinkSQD, false, false⟩

def device (found : Bool) : Hardware :=
  ⟨found, ⟨0, .sdi1, false, false, false, .singleLink, .unknown, false, false⟩, .unknown, 8⟩

def openedByOne : Registry ℕ :=
  (videoOpen 8 commonSdk false (device true) .empty 1 { quadLinkHd with
    sdiInputMode := .singleLink }).1

theorem second_video_open_left_alone :
    (videoOpen 8 commonSdk false (device true) openedByOne 2 quadLinkHd).2 = .refused ∧
      LeftAlone 8 openedByOne (videoOpen 8 commonSdk false (device true) openedByOne 2
        quadLinkHd).1 "0" 0 2 := by
  refine ⟨by decide +kernel, ?_⟩
  apply ((failed_open_left_alone_iff 8 (device true) openedByOne 2).1 commonSdk false quadLinkHd
    (by decide +kernel)).2
  intro _
  exact ⟨nofun, by decide +kernel⟩

/-- Each failure behind `acquire` leaves the element in its slot: the same element is refused
when it tries again. -/
theorem failed_opens_keep_slot :
    (videoOpen 8 commonSdk false (device true) .empty 1 quadLinkHd).2 =
        .initFailed .quadRequiresUhd ∧
      (videoOpen 8 commonSdk false (device false) .empty 1 quadLinkHd).2 = .notFound ∧
      (audioOpen 8 (device true) .empty 1 ⟨"0", 0, 16⟩).2 = .tooManyChannels ∧
      ¬ ∀ (r : Registry ℕ) hw src p,
        (videoOpen 8 commonSdk false hw r src p).2.returns = false →
        LeftAlone 8 r (videoOpen 8 commonSdk false hw r src p).1 p.deviceIdentifier
          p.inputChannel src := by
  refine ⟨by decide +kernel, by decide +kernel, by decide +kernel, ?_⟩
  intro h
  have hl := (h .empty (device true) 1 quadLinkHd (by decide +kernel)).later 1 false
  revert hl
  decide +kernel

end AjaFailedOpen
