import NTV2Gst.StepSimulation
import NTV2Gst.AjaPipelineSteps
import NTV2Gst.AjaVpid
import NTV2Gst.AjaTimecodeDigits

/-!
# The loop of the capture worker

`ACInputWorker` with its decisions: what the device answers at the top of an iteration tells
whether there is a signal and whether there is a frame, and without a frame the worker waits,
reports a loss, or stops after the last frame. The other threads take their steps at any time.
A run ends when `start_streams` is called again: it forgets the signal and runs a second loop.
-/
namespace AjaCaptureLoop

open TransitionRuns StepSimulation GstAjaModes AjaVideoSrc AjaCapturePipeline AjaVideoSetup
  AjaVpid AjaTimecodeDigits

/-! ## What counts as a signal -/

def linkFormat : NTV2VideoFormat → NTV2VideoFormat
  | .format4x1920x1080p_2398 => .format1080p_2398
  | .format4x1920x1080p_2400 => .format1080p_2400
  | .format4x1920x1080p_2500 => .format1080p_2500
  | .format4x1920x1080p_2997 => .format1080p_2997
  | .format4x1920x1080p_3000 => .format1080p_3000
  | .format4x1920x1080p_5000 => .format1080p_5000_A
  | .format4x1920x1080p_5994 => .format1080p_5994_A
  | .format4x1920x1080p_6000 => .format1080p_6000_A
  | .format4x2048x1080p_2398 => .format1080p_2K_2398
  | .format4x2048x1080p_2400 => .format1080p_2K_2400
  | .format4x2048x1080p_2500 => .format1080p_2K_2500
  | .format4x2048x1080p_2997 => .format1080p_2K_2997
  | .format4x2048x1080p_3000 => .format1080p_2K_3000
  | .format4x2048x1080p_4795 => .format1080p_2K_4795_A
  | .format4x2048x1080p_4800 => .format1080p_2K_4800_A
  | .format4x2048x1080p_5000 => .format1080p_2K_5000_A
  | .format4x2048x1080p_5994 => .format1080p_2K_5994_A
  | .format4x2048x1080p_6000 => .format1080p_2K_6000_A
  | .format4x3840x2160p_2398 => .format3840x2160p_2398
  | .format4x3840x2160p_2400 => .format3840x2160p_2400
  | .format4x3840x2160p_2500 => .format3840x2160p_2500
  | .format4x3840x2160p_2997 => .format3840x2160p_2997
  | .format4x3840x2160p_3000 => .format3840x2160p_3000
  | .format4x3840x2160p_5000 => .format3840x2160p_5000
  | .format4x3840x2160p_5994 => .format3840x2160p_5994
  | .format4x3840x2160p_6000 => .format3840x2160p_6000
  | .format4x4096x2160p_2398 => .format4096x2160p_2398
  | .format4x4096x2160p_2400 => .format4096x2160p_2400
  | .format4x4096x2160p_2500 => .format4096x2160p_2500
  | .format4x4096x2160p_2997 => .format4096x2160p_2997
  | .format4x4096x2160p_3000 => .format4096x2160p_3000
  | .format4x4096x2160p_4795 => .format4096x2160p_4795
  | .format4x4096x2160p_4800 => .format4096x2160p_4800
  | .format4x4096x2160p_5000 => .format4096x2160p_5000
  | .format4x4096x2160p_5994 => .format4096x2160p_5994
  | .format4x4096x2160p_6000 => .format4096x2160p_6000
  | f => f

def effectiveVideoFormat (av : NTV2GstAV) : NTV2VideoFormat :=
  if av.mQuad && av.mVideoSource == .sdi1 then linkFormat av.mVideoFormat else av.mVideoFormat

def haveSignal (av : NTV2GstAV) (inputVideoFormat : NTV2VideoFormat) : Bool :=
  effectiveVideoFormat av == inputVideoFormat || av.mVideoFormat == inputVideoFormat

/-! ## What the device answers -/

structure DeviceStatus where
  running : Bool
  bufferLevel : ℕ
  framesDropped : ℕ
  inputVideoFormat : NTV2VideoFormat
  vpidA : BitVec 32
  deriving DecidableEq, Repr

def DeviceStatus.hasFrame (st : DeviceStatus) : Bool := st.running && 1 < st.bufferLevel

/-- With a transfer; `record` is the capture record as its last use left it. -/
structure Transfer where
  frameTime : ℕ
  fieldCount : ℕ
  timeCode : Option Rp188
  audioSize : ℕ
  record : AjaVideoBuff
  deriving DecidableEq, Repr

def deviceFrame (av : NTV2GstAV) (isNvmm : Bool) (st : DeviceStatus) (t : Transfer) :
    DeviceFrame :=
  let colors := vpidColors av.mVideoSource st.vpidA
  let b := captureTimeCode t.timeCode t.record
  { haveSignal := haveSignal av st.inputVideoFormat
    timeStamp := t.frameTime
    isNvmm := isNvmm
    fieldCount := t.fieldCount
    timeCodeValid := b.timeCodeValid
    timeCodeLow := b.timeCodeLow
    timeCodeHigh := b.timeCodeHigh
    transferCharacteristics := colors.transferCharacteristics
    colorimetry := colors.colorimetry
    fullRange := colors.fullRange
    audioDataSize := t.audioSize }

/-! ## The loop -/

/-- `lastFrame` is read into the video record and then into the audio record. -/
inductive LoopPc where
  | top
  | decided (st : DeviceStatus)
  | filling (lastVideo : Bool)
  | video (lastVideo lastAudio : Bool)
  | audio (lastAudio : Bool)
  | lossVideo
  | lossAudio
  | ended
  deriving DecidableEq, Repr

structure Capture where
  buffer : ℕ
  status : DeviceStatus
  transfer : Transfer
  deriving DecidableEq, Repr

/-- `captures`, `lastCapture`, `frameless` and `lastTops` are history: all transfers, the
signal of the last one, the signals of the iterations without a frame since, and how often the
loop went round after `lastFrame` was set. -/
structure CaptureLoop where
  av : NTV2GstAV
  isNvmm : Bool
  pipe : Pipeline
  pc : LoopPc
  iterationsWithoutFrame : ℕ
  lastFrame : Bool
  globalQuit : Bool
  lastFrameVideoOut : Bool
  lastFrameAudioOut : Bool
  captures : List Capture
  lastCapture : Option Bool
  frameless : List Bool
  lastTops : ℕ

inductive Event where
  | status (st : DeviceStatus)
  | quitSeen
  | transfer (t : Transfer)
  | fillAudio
  | worker (e : AjaCapturePipeline.Event)
  | videoOut
  | audioOut
  | noFrame
  | lossVideo
  | lossAudio
  | other (e : AjaCapturePipeline.Event)
  | setLastFrame
  | setGlobalQuit
  deriving DecidableEq, Repr

def videoPart : AjaCapturePipeline.Event → Bool
  | .videoCallback | .gotFrame _ | .queueFrame => true
  | _ => false

def audioPart : AjaCapturePipeline.Event → Bool
  | .audioCallback | .gotPacket | .queuePacket => true
  | _ => false

def otherThread : AjaCapturePipeline.Event → Bool
  | .status _ | .capture _ | .nullVideo | .nullAudio | .workerEnds => false
  | e => !videoPart e && !audioPart e

section Loop

variable (videoInfoFromCaps : GstCaps → GstVideoInfo)

def CaptureLoop.piped (s : CaptureLoop) (e : AjaCapturePipeline.Event)
    (f : CaptureLoop → CaptureLoop) : Option CaptureLoop :=
  (s.pipe.next videoInfoFromCaps e).map fun p => f { s with pipe := p }

def CaptureLoop.statusStep (s : CaptureLoop) (st : DeviceStatus) : Option CaptureLoop :=
  if s.pc = .top ∧ s.globalQuit = false then
    s.piped videoInfoFromCaps (.status st.framesDropped) fun s =>
      { s with pc := .decided st, lastTops := if s.lastFrame then s.lastTops + 1 else s.lastTops }
  else none

def CaptureLoop.transferStep (s : CaptureLoop) (t : Transfer) : Option CaptureLoop :=
  match s.pc with
  | .decided st =>
    if st.hasFrame then
      let buffer := s.pipe.nextBuffer
      s.piped videoInfoFromCaps (.capture (deviceFrame s.av s.isNvmm st t)) fun s =>
        { s with
          pc := .filling s.lastFrame
          iterationsWithoutFrame := 0
          captures := s.captures ++ [⟨buffer, st, t⟩]
          lastCapture := some (haveSignal s.av st.inputVideoFormat)
          frameless := [] }
    else none
  | _ => none

def CaptureLoop.workerStep (s : CaptureLoop) (e : AjaCapturePipeline.Event) :
    Option CaptureLoop :=
  match s.pc with
  | .video _ _ => if videoPart e then s.piped videoInfoFromCaps e id else none
  | .audio _ => if audioPart e then s.piped videoInfoFromCaps e id else none
  | _ => none

def CaptureLoop.videoOut (s : CaptureLoop) : Option CaptureLoop :=
  match s.pc, s.pipe.pc with
  | .video lastVideo lastAudio, .audioCallback _ _ => some { s with
      pc := .audio lastAudio
      lastFrameVideoOut := s.lastFrameVideoOut || lastVideo }
  | _, _ => none

def CaptureLoop.audioOut (s : CaptureLoop) : Option CaptureLoop :=
  match s.pc, s.pipe.pc with
  | .audio lastAudio, .idle => some { s with
      pc := .top
      lastFrameAudioOut := s.lastFrameAudioOut || lastAudio }
  | _, _ => none

/-- An iteration without a frame: leave after the last frame, wait for the next interrupt, or
report the loss. -/
def CaptureLoop.noFrame (s : CaptureLoop) : Option CaptureLoop :=
  match s.pc with
  | .decided st =>
    if st.hasFrame then none
    else if s.lastFrame then
      s.piped videoInfoFromCaps .workerEnds fun s =>
        { s with pc := .ended, lastFrameVideoOut := true, lastFrameAudioOut := true }
    else
      let signal := haveSignal s.av st.inputVideoFormat
      let s' := { s with frameless := s.frameless ++ [signal] }
      if signal && s.iterationsWithoutFrame < 32 then
        some { s' with pc := .top, iterationsWithoutFrame := s.iterationsWithoutFrame + 1 }
      else some { s' with pc := .lossVideo }
  | _ => none

def CaptureLoop.next (s : CaptureLoop) : Event → Option CaptureLoop
  | .status st => s.statusStep videoInfoFromCaps st
  | .quitSeen =>
    if s.pc = .top ∧ s.globalQuit = true then
      s.piped videoInfoFromCaps .workerEnds fun s => { s with pc := .ended }
    else none
  | .transfer t => s.transferStep videoInfoFromCaps t
  | .fillAudio =>
    match s.pc with
    | .filling lastVideo => some { s with pc := .video lastVideo s.lastFrame }
    | _ => none
  | .worker e => s.workerStep videoInfoFromCaps e
  | .videoOut => s.videoOut
  | .audioOut => s.audioOut
  | .noFrame => s.noFrame videoInfoFromCaps
  | .lossVideo =>
    if s.pc = .lossVideo then
      s.piped videoInfoFromCaps .nullVideo fun s => { s with pc := .lossAudio }
    else none
  | .lossAudio =>
    if s.pc = .lossAudio then
      s.piped videoInfoFromCaps .nullAudio fun s => { s with pc := .top }
    else none
  | .other e => if otherThread e then s.piped videoInfoFromCaps e id else none
  | .setLastFrame => some { s with lastFrame := true }
  | .setGlobalQuit => some { s with globalQuit := true }

structure Begun (s : CaptureLoop) : Prop where
  pipe : Started s.pipe
  no_caps : s.pipe.caps = none
  pc : s.pc = .top
  iterations : s.iterationsWithoutFrame = 0
  last_frame : s.lastFrame = false
  global_quit : s.globalQuit = false
  video_out : s.lastFrameVideoOut = false
  audio_out : s.lastFrameAudioOut = false
  captures : s.captures = []
  last_capture : s.lastCapture = none
  frameless : s.frameless = []
  last_tops : s.lastTops = 0

def captureLoop : Machine CaptureLoop Event where
  initial := Begun
  next := CaptureLoop.next videoInfoFromCaps

end Loop

/-! ## A loop to run by hand -/

def begunLoop : CaptureLoop where
  av := ⟨0, .sdi1, false, false, false, .singleLink, .format720p_5994, false, true⟩
  isNvmm := false
  pipe := startedPipeline 16 false
  pc := .top
  iterationsWithoutFrame := 0
  lastFrame := false
  globalQuit := false
  lastFrameVideoOut := false
  lastFrameAudioOut := false
  captures := []
  lastCapture := none
  frameless := []
  lastTops := 0

theorem begun_loop : Begun begunLoop := by
  constructor <;> first | rfl | exact started_pipeline (by decide) false

def seen (bufferLevel : ℕ) : DeviceStatus := ⟨true, bufferLevel, 0, .format720p_5994, 0xC0102001⟩

def frameAt (frameTime : ℕ) : Transfer where
  frameTime := frameTime
  fieldCount := 0
  timeCode := none
  audioSize := 6400
  record := (ACInputWorker.start).videoBuff 0 (AjaCapturePipeline.deviceFrame true 0)

def frameRound (frameTime : ℕ) : List Event :=
  [.status (seen 2), .transfer (frameAt frameTime), .fillAudio, .worker .videoCallback,
    .worker (.gotFrame (clockAt 1000)), .worker .queueFrame, .videoOut, .worker .audioCallback,
    .audioOut]

/-! ## What the steps do -/

variable {videoInfoFromCaps : GstCaps → GstVideoInfo} {s t : CaptureLoop}

theorem piped_eq {e : AjaCapturePipeline.Event} {f : CaptureLoop → CaptureLoop}
    (h : s.piped videoInfoFromCaps e f = some t) :
    ∃ p, s.pipe.next videoInfoFromCaps e = some p ∧ t = f { s with pipe := p } := by
  obtain ⟨p, hp, rfl⟩ := Option.map_eq_some_iff.mp h
  exact ⟨p, hp, rfl⟩

theorem status_step_eq {st : DeviceStatus} (h : s.next videoInfoFromCaps (.status st) = some t) :
    s.pc = .top ∧ s.globalQuit = false ∧ ∃ p,
      s.pipe.next videoInfoFromCaps (.status st.framesDropped) = some p ∧ t = { s with
        pipe := p
        pc := .decided st
        lastTops := if s.lastFrame then s.lastTops + 1 else s.lastTops } := by
  obtain ⟨⟨hpc, hq⟩, h⟩ := Option.ite_none_right_eq_some.mp h
  exact ⟨hpc, hq, piped_eq h⟩

theorem quit_seen_eq (h : s.next videoInfoFromCaps .quitSeen = some t) :
    s.pc = .top ∧ s.globalQuit = true ∧ ∃ p,
      s.pipe.next videoInfoFromCaps .workerEnds = some p ∧
      t = { s with pipe := p, pc := .ended } := by
  obtain ⟨⟨hpc, hq⟩, h⟩ := Option.ite_none_right_eq_some.mp h
  exact ⟨hpc, hq, piped_eq h⟩

theorem transfer_step_eq {tr : Transfer} (h : s.next videoInfoFromCaps (.transfer tr) = some t) :
    ∃ st, s.pc = .decided st ∧ st.hasFrame = true ∧ ∃ p,
      s.pipe.next videoInfoFromCaps (.capture (deviceFrame s.av s.isNvmm st tr)) = some p ∧
      t = { s with
        pipe := p
        pc := .filling s.lastFrame
        iterationsWithoutFrame := 0
        captures := s.captures ++ [⟨s.pipe.nextBuffer, st, tr⟩]
        lastCapture := some (haveSignal s.av st.inputVideoFormat)
        frameless := [] } := by
  simp only [CaptureLoop.next, CaptureLoop.transferStep] at h
  split at h
  case h_2 => cases h
  case h_1 st hpc =>
    obtain ⟨hframe, h⟩ := Option.ite_none_right_eq_some.mp h
    exact ⟨st, hpc, hframe, piped_eq h⟩

theorem fill_audio_eq (h : s.next videoInfoFromCaps .fillAudio = some t) :
    ∃ lastVideo, s.pc = .filling lastVideo ∧ t = { s with pc := .video lastVideo s.lastFrame } := by
  simp only [CaptureLoop.next] at h
  split at h
  case h_2 => cases h
  case h_1 lastVideo hpc => exact ⟨lastVideo, hpc, (Option.some.inj h).symm⟩

theorem worker_step_cases {e : AjaCapturePipeline.Event}
    (h : s.next videoInfoFromCaps (.worker e) = some t) :
    ∃ p, s.pipe.next videoInfoFromCaps e = some p ∧ t = { s with pipe := p } ∧
      ((∃ lastVideo lastAudio, s.pc = .video lastVideo lastAudio ∧ videoPart e = true) ∨
        ∃ lastAudio, s.pc = .audio lastAudio ∧ audioPart e = true) := by
  simp only [CaptureLoop.next, CaptureLoop.workerStep] at h
  split at h
  case h_1 lastVideo lastAudio hpc =>
    obtain ⟨he, h⟩ := Option.ite_none_right_eq_some.mp h
    obtain ⟨p, hp, ht⟩ := piped_eq h
    exact ⟨p, hp, ht, Or.inl ⟨lastVideo, lastAudio, hpc, he⟩⟩
  case h_2 lastAudio hpc =>
    obtain ⟨he, h⟩ := Option.ite_none_right_eq_some.mp h
    obtain ⟨p, hp, ht⟩ := piped_eq h
    exact ⟨p, hp, ht, Or.inr ⟨lastAudio, hpc, he⟩⟩
  case h_3 => cases h

theorem video_out_eq (h : s.next videoInfoFromCaps .videoOut = some t) :
    ∃ lastVideo lastAudio a verdict, s.pc = .video lastVideo lastAudio ∧
      s.pipe.pc = .audioCallback a verdict ∧ t = { s with
        pc := .audio lastAudio
        lastFrameVideoOut := s.lastFrameVideoOut || lastVideo } := by
  simp only [CaptureLoop.next, CaptureLoop.videoOut] at h
  split at h
  case h_2 => cases h
  case h_1 lastVideo lastAudio a verdict hpc hp =>
    exact ⟨lastVideo, lastAudio, a, verdict, hpc, hp, (Option.some.inj h).symm⟩

theorem audio_out_eq (h : s.next videoInfoFromCaps .audioOut = some t) :
    ∃ lastAudio, s.pc = .audio lastAudio ∧ s.pipe.pc = .idle ∧ t = { s with
      pc := .top
      lastFrameAudioOut := s.lastFrameAudioOut || lastAudio } := by
  simp only [CaptureLoop.next, CaptureLoop.audioOut] at h
  split at h
  case h_2 => cases h
  case h_1 lastAudio hpc hp => exact ⟨lastAudio, hpc, hp, (Option.some.inj h).symm⟩

theorem no_frame_cases (h : s.next videoInfoFromCaps .noFrame = some t) :
    ∃ st, s.pc = .decided st ∧ st.hasFrame = false ∧
      ((s.lastFrame = true ∧ ∃ p, s.pipe.next videoInfoFromCaps .workerEnds = some p ∧
          t = { s with
            pipe := p
            pc := .ended
            lastFrameVideoOut := true
            lastFrameAudioOut := true }) ∨
        (s.lastFrame = false ∧ haveSignal s.av st.inputVideoFormat = true ∧
          s.iterationsWithoutFrame < 32 ∧ t = { s with
            pc := .top
            iterationsWithoutFrame := s.iterationsWithoutFrame + 1
            frameless := s.frameless ++ [true] }) ∨
        (s.lastFrame = false ∧
          (haveSignal s.av st.inputVideoFormat = true → 32 ≤ s.iterationsWithoutFrame) ∧
          t = { s with
            pc := .lossVideo
            frameless := s.frameless ++ [haveSignal s.av st.inputVideoFormat] })) := by
  simp only [CaptureLoop.next, CaptureLoop.noFrame] at h
  split at h
  case h_2 => cases h
  case h_1 st hpc =>
    split at h
    case isTrue => cases h
    case isFalse hframe =>
      refine ⟨st, hpc, by simpa using hframe, ?_⟩
      split at h
      case isTrue hlast => exact Or.inl ⟨hlast, piped_eq h⟩
      case isFalse hlast =>
        simp only [Bool.not_eq_true] at hlast
        split at h
        case isTrue hwait =>
          simp only [Bool.and_eq_true, decide_eq_true_eq] at hwait
          cases h
          exact Or.inr (Or.inl ⟨hlast, hwait.1, hwait.2, by rw [hwait.1]⟩)
        case isFalse hloss =>
          cases h
          refine Or.inr (Or.inr ⟨hlast, fun hs => ?_, rfl⟩)
          simpa [hs] using hloss

theorem loss_video_eq (h : s.next videoInfoFromCaps .lossVideo = some t) :
    s.pc = .lossVideo ∧ ∃ p, s.pipe.next videoInfoFromCaps .nullVideo = some p ∧
      t = { s with pipe := p, pc := .lossAudio } := by
  obtain ⟨hpc, h⟩ := Option.ite_none_right_eq_some.mp h
  exact ⟨hpc, piped_eq h⟩

theorem loss_audio_eq (h : s.next videoInfoFromCaps .lossAudio = some t) :
    s.pc = .lossAudio ∧ ∃ p, s.pipe.next videoInfoFromCaps .nullAudio = some p ∧
      t = { s with pipe := p, pc := .top } := by
  obtain ⟨hpc, h⟩ := Option.ite_none_right_eq_some.mp h
  exact ⟨hpc, piped_eq h⟩

theorem other_step_eq {e : AjaCapturePipeline.Event}
    (h : s.next videoInfoFromCaps (.other e) = some t) :
    otherThread e = true ∧ ∃ p, s.pipe.next videoInfoFromCaps e = some p ∧
      t = { s with pipe := p } := by
  obtain ⟨he, h⟩ := Option.ite_none_right_eq_some.mp h
  exact ⟨he, piped_eq h⟩

/-! ## The loop refines the pipeline -/

def pipelineSteps (s : CaptureLoop) : Event → List AjaCapturePipeline.Event
  | .status st => [.status st.framesDropped]
  | .quitSeen => [.workerEnds]
  | .transfer t =>
    match s.pc with
    | .decided st => [.capture (deviceFrame s.av s.isNvmm st t)]
    | _ => []
  | .worker e | .other e => [e]
  | .noFrame => if s.lastFrame then [.workerEnds] else []
  | .lossVideo => [.nullVideo]
  | .lossAudio => [.nullAudio]
  | .fillAudio | .videoOut | .audioOut | .setLastFrame | .setGlobalQuit => []

theorem run_one {p q : Pipeline} {e : AjaCapturePipeline.Event}
    (h : p.next videoInfoFromCaps e = some q) :
    runTrace (pipeline videoInfoFromCaps) p [e] = some q := by
  simp [runTrace, pipeline, h]

theorem loop_refines :
    Refines (captureLoop videoInfoFromCaps) (pipeline videoInfoFromCaps) CaptureLoop.pipe
      pipelineSteps where
  initial _ h := h.pipe
  step s e t h := by
    change s.next videoInfoFromCaps e = some t at h
    cases e with
    | status st =>
      obtain ⟨-, -, p, hp, rfl⟩ := status_step_eq h
      exact run_one hp
    | quitSeen =>
      obtain ⟨-, -, p, hp, rfl⟩ := quit_seen_eq h
      exact run_one hp
    | transfer tr =>
      obtain ⟨st, hpc, -, p, hp, rfl⟩ := transfer_step_eq h
      rw [pipelineSteps, hpc]
      exact run_one hp
    | fillAudio =>
      obtain ⟨_, -, rfl⟩ := fill_audio_eq h
      rfl
    | worker e =>
      obtain ⟨p, hp, rfl, -⟩ := worker_step_cases h
      exact run_one hp
    | videoOut =>
      obtain ⟨_, _, _, _, -, -, rfl⟩ := video_out_eq h
      rfl
    | audioOut =>
      obtain ⟨_, -, -, rfl⟩ := audio_out_eq h
      rfl
    | noFrame =>
      obtain ⟨st, -, -, ⟨hlast, p, hp, rfl⟩ | ⟨hlast, -, -, rfl⟩ | ⟨hlast, -, rfl⟩⟩ :=
        no_frame_cases h
      · rw [pipelineSteps, if_pos hlast]
        exact run_one hp
      · simp [pipelineSteps, hlast, runTrace]
      · simp [pipelineSteps, hlast, runTrace]
    | lossVideo =>
      obtain ⟨-, p, hp, rfl⟩ := loss_video_eq h
      exact run_one hp
    | lossAudio =>
      obtain ⟨-, p, hp, rfl⟩ := loss_audio_eq h
      exact run_one hp
    | other e =>
      obtain ⟨-, p, hp, rfl⟩ := other_step_eq h
      exact run_one hp
    | setLastFrame | setGlobalQuit =>
      cases h
      rfl

end AjaCaptureLoop
