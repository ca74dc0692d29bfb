import NTV2Gst.DropOldest
import NTV2Gst.GstAjaModes
import NTV2Gst.GstClockMath

/-!
# The video source element

The functions of the video source that work on its own record: the capture
callback `gotFrame` and its helpers, flushing, starting and the `create` function.
What a function reads from the clock, from the regression and from the shared
input is an argument. A lock-protected section of the source is one function here.
-/
namespace AjaVideoSrc

open DropOldest GstAjaModes GstClockMath

/-- A capture record; `buffer` stands for the one reference taken on acquisition. -/
structure AjaVideoBuff where
  buffer : ℕ
  isNvmm : Bool
  frameNumber : ℕ
  fieldCount : ℕ
  timeCodeValid : Bool
  timeCodeLow : ℕ
  timeCodeHigh : ℕ
  timeStamp : ℕ
  haveSignal : Bool
  transferCharacteristics : ℕ
  colorimetry : ℕ
  fullRange : Bool
  framesProcessed : ℕ
  framesDropped : ℕ
  droppedChanged : Bool
  deriving DecidableEq, Repr

inductive SignalChange where
  | noChange | gotSignal | recoveredSignal | lostSignal
  deriving DecidableEq, Repr

inductive GstAjaSignalState where
  | unknown | lost | available
  deriving DecidableEq, Repr

structure AjaCaptureVideoFrame where
  signalChange : SignalChange
  videoBuff : Option AjaVideoBuff
  captureTime : ℕ
  streamTime : ℕ
  mode : ℕ
  firstBuffer : Bool
  deriving DecidableEq, Repr

/-- A zeroed entry that only carries a signal change. -/
def marker (change : SignalChange) : AjaCaptureVideoFrame := ⟨change, none, 0, 0, 0, false⟩

inductive GstVideoColorMatrix where
  | unknown | bt601 | bt709 | bt2020 | other
  deriving DecidableEq, Repr

inductive GstVideoColorPrimaries where
  | unknown | smpte170m | bt709 | bt2020 | other
  deriving DecidableEq, Repr

inductive GstVideoTransfer where
  | unknown | bt601 | bt709 | aribStdB67 | smpte2084 | other
  deriving DecidableEq, Repr

inductive GstVideoColorRange where
  | unknown | range0_255 | range16_235
  deriving DecidableEq, Repr

structure GstVideoColorimetry where
  range : GstVideoColorRange
  matrix : GstVideoColorMatrix
  transfer : GstVideoTransfer
  primaries : GstVideoColorPrimaries
  deriving DecidableEq, Repr

/-- The part of `GstVideoInfo` that is read or rewritten here; `base` is the rest,
as it came from the caps. -/
structure GstVideoInfo where
  base : Option GstCaps
  height : ℕ
  fpsN : ℕ
  fpsD : ℕ
  colorimetry : GstVideoColorimetry
  deriving DecidableEq, Repr

def GstVideoInfo.empty : GstVideoInfo :=
  ⟨none, 0, 0, 0, ⟨.unknown, .unknown, .unknown, .unknown⟩⟩

structure GstAjaVideoSrc where
  modeEnum : ℕ
  transferCharacteristics : ℕ
  colorimetry : ℕ
  fullRange : Bool
  info : GstVideoInfo
  flushing : Bool
  currentFrames : List AjaCaptureVideoFrame
  queueSize : ℕ
  outputStreamTime : Bool
  skipFirstTime : ℕ
  skippedLast : ℕ
  skippedOverall : ℕ
  skipFromTimestamp : ℕ
  skipToTimestamp : ℕ
  signalState : GstAjaSignalState
  firstTime : ℕ
  discontTime : ℕ
  discontFrameNumber : ℕ
  times : List (ℕ × ℕ)
  windowSize : ℕ
  windowFill : ℕ
  windowFilled : Bool
  windowSkip : ℕ
  windowSkipCount : ℕ
  currentTimeMapping : Calibration
  nextTimeMapping : Calibration
  nextTimeMappingPending : Bool
  deriving DecidableEq, Repr

def GstAjaVideoSrc.init (modeEnum queueSize : ℕ) (outputStreamTime : Bool)
    (skipFirstTime : ℕ) : GstAjaVideoSrc where
  modeEnum := modeEnum
  transferCharacteristics := 0
  colorimetry := 0
  fullRange := false
  info := .empty
  flushing := false
  currentFrames := []
  queueSize := queueSize
  outputStreamTime := outputStreamTime
  skipFirstTime := skipFirstTime
  skippedLast := 0
  skippedOverall := 0
  skipFromTimestamp := clockTimeNone
  skipToTimestamp := clockTimeNone
  signalState := .unknown
  firstTime := 0
  discontTime := 0
  discontFrameNumber := 0
  times := List.replicate 64 (0, 0)
  windowSize := 64
  windowFill := 0
  windowFilled := false
  windowSkip := 1
  windowSkipCount := 0
  currentTimeMapping := ⟨0, 0, 0, 0⟩
  nextTimeMapping := ⟨0, 0, 0, 0⟩
  nextTimeMappingPending := false

def GstAjaVideoSrc.startStreams (src : GstAjaVideoSrc) : GstAjaVideoSrc :=
  { src with
    signalState := .unknown
    discontTime := clockTimeNone
    discontFrameNumber := 0
    firstTime := clockTimeNone
    windowFill := 0
    windowFilled := false
    windowSkip := 1
    windowSkipCount := 0
    currentTimeMapping := .identity
    nextTimeMapping := .identity }

/-! ## Capture callback -/

/-- The clock readings at the top of `got_frame`: real time in microseconds,
pipeline clock and base time in nanoseconds. -/
structure CaptureClock where
  nowSys : ℕ
  nowPipeline : ℕ
  baseTime : ℕ
  deriving DecidableEq, Repr

/-- `capture_pipeline`. Truncated subtraction clamps at zero as the source does; the
delay is in microseconds, the times it is taken from are not. -/
def CaptureClock.capturePipeline (clock : CaptureClock) (videoBuff : Option AjaVideoBuff) : ℕ :=
  let captureSys := match videoBuff with
    | some b => b.timeStamp / 10
    | none => clock.nowSys
  let captureDelay :=
    if captureSys ≤ clock.nowSys ∧ clock.nowSys - captureSys < 1000000 then
      clock.nowSys - captureSys
    else 0
  clock.nowPipeline - captureDelay - clock.baseTime

def GstAjaVideoSrc.pushMarker (src : GstAjaVideoSrc) (change : SignalChange) : GstAjaVideoSrc :=
  if src.flushing then src
  else { src with currentFrames := src.currentFrames ++ [marker change] }

def GstAjaVideoSrc.loseSignal (src : GstAjaVideoSrc) : GstAjaVideoSrc :=
  if src.signalState = .lost then src
  else { src with signalState := .lost }.pushMarker .lostSignal

def GstAjaSignalState.gain : GstAjaSignalState → SignalChange
  | .lost => .recoveredSignal
  | _ => .gotSignal

/-- A frame with signal: announce the signal if it is new, re-anchor the stream if it
is new or was never anchored. The result tells whether there was signal before. -/
def GstAjaVideoSrc.gainSignal (src : GstAjaVideoSrc) (capturePipeline frameNumber : ℕ) :
    GstAjaVideoSrc × Bool :=
  if src.signalState = .available then
    if src.discontTime = clockTimeNone then
      ({ src with discontTime := capturePipeline, discontFrameNumber := frameNumber }, true)
    else (src, true)
  else
    let src' := { src with signalState := .available }.pushMarker src.signalState.gain
    ({ src' with discontTime := capturePipeline, discontFrameNumber := frameNumber }, false)

/-- The stream time of a frame number from an anchor; also the audio source's formula. -/
def streamTime (mode : GstAjaMode) (discontTime discontFrameNumber frameNumber : ℕ) : ℕ :=
  u64Add discontTime
    (uint64Scale (u64Sub frameNumber discontFrameNumber) (mode.fpsD * second) mode.fpsN)

def GstAjaVideoSrc.skips (src : GstAjaVideoSrc) (streamTime : ℕ) : Bool :=
  0 < src.skipFirstTime && u64Sub streamTime src.firstTime < src.skipFirstTime

def GstAjaVideoSrc.timestamp (src : GstAjaVideoSrc) (streamTime : ℕ) : ℕ :=
  if src.outputStreamTime then streamTime
  else clockAdjustWithCalibration streamTime src.currentTimeMapping

/-! ### Time mapping -/

def GstAjaVideoSrc.countSkip (src : GstAjaVideoSrc) : GstAjaVideoSrc :=
  { src with windowSkipCount :=
      if src.windowSkip ≤ src.windowSkipCount + 1 then 0 else src.windowSkipCount + 1 }

/-- Once the window is full, sample half as often, down to once every four seconds. -/
def GstAjaVideoSrc.grownSkip (src : GstAjaVideoSrc) : ℕ :=
  let fps := (src.info.fpsN + src.info.fpsD - 1) / src.info.fpsD
  min (if src.windowSkip < 4 * fps then src.windowSkip * 2 else src.windowSkip) (4 * fps)

def GstAjaVideoSrc.storeSample (src : GstAjaVideoSrc) (captureTime streamTime : ℕ) :
    GstAjaVideoSrc :=
  let src := { src with
    times := src.times.set src.windowFill (streamTime, captureTime)
    windowFill := src.windowFill + 1 }.countSkip
  if src.windowSize ≤ src.windowFill then
    { src with windowSkip := src.grownSkip, windowFill := 0, windowFilled := true }
  else src

def GstAjaVideoSrc.startMapping (src : GstAjaVideoSrc) (captureTime streamTime : ℕ) :
    GstAjaVideoSrc :=
  if src.windowFilled = false ∧ src.windowFill = 1 then
    { src with
      currentTimeMapping := ⟨streamTime, captureTime, 1, 1⟩
      nextTimeMappingPending := false }
  else src

def GstAjaVideoSrc.fitMapping (src : GstAjaVideoSrc) (regression : Option Calibration) :
    GstAjaVideoSrc :=
  match src.windowFilled, regression with
  | true, some mapping => { src with nextTimeMapping := mapping, nextTimeMappingPending := true }
  | _, _ => src

def GstAjaVideoSrc.takeSample (src : GstAjaVideoSrc) (captureTime streamTime : ℕ)
    (regression : Option Calibration) : GstAjaVideoSrc :=
  ((src.storeSample captureTime streamTime).startMapping captureTime streamTime).fitMapping
    regression

/-- At most 5% of a frame per update. -/
def GstAjaVideoSrc.maxDiff (src : GstAjaVideoSrc) : ℕ :=
  uint64Scale (second / 20) src.info.fpsD src.info.fpsN

def GstAjaVideoSrc.mappingDiff (src : GstAjaVideoSrc) (streamTime : ℕ) : ℕ :=
  let expected := clockAdjustWithCalibration streamTime src.currentTimeMapping
  let newCalculated := clockAdjustWithCalibration streamTime src.nextTimeMapping
  if expected < newCalculated then newCalculated - expected else expected - newCalculated

/-- Move towards the pending mapping by `maxDiff`, or take it over at once when it is
that close, or when it is too far off, or on a discontinuity. -/
def GstAjaVideoSrc.applyPending (src : GstAjaVideoSrc) (streamTime : ℕ) (discont : Bool) :
    GstAjaVideoSrc :=
  if src.nextTimeMappingPending then
    let expected := clockAdjustWithCalibration streamTime src.currentTimeMapping
    let newCalculated := clockAdjustWithCalibration streamTime src.nextTimeMapping
    let diff := src.mappingDiff streamTime
    if discont = false ∧ src.maxDiff < diff ∧ diff < 50000000 then
      { src with currentTimeMapping := { src.currentTimeMapping with
          xbase := streamTime
          b := if expected < newCalculated then expected + src.maxDiff
            else expected - src.maxDiff } }
    else
      { src with currentTimeMapping := src.nextTimeMapping, nextTimeMappingPending := false }
  else src

def GstAjaVideoSrc.sample (src : GstAjaVideoSrc) (captureTime streamTime : ℕ)
    (regression : Option Calibration) : GstAjaVideoSrc :=
  if src.windowSkipCount = 0 then src.takeSample captureTime streamTime regression
  else src.countSkip

def GstAjaVideoSrc.updateTimeMapping (src : GstAjaVideoSrc) (captureTime streamTime : ℕ)
    (discont : Bool) (regression : Option Calibration) : GstAjaVideoSrc :=
  (src.sample captureTime streamTime regression).applyPending streamTime discont

/-! ### The two halves of `got_frame` -/

/-- What the environment answers during one call. -/
structure CaptureEnv where
  clock : CaptureClock
  regression : Option Calibration
  deriving DecidableEq, Repr

inductive FrameVerdict where
  | noSignal
  | skipped
  | queue (timestamp streamTime : ℕ) (hadSignal : Bool)
  deriving DecidableEq, Repr

def GstAjaVideoSrc.noteFirstTime (src : GstAjaVideoSrc) (streamTime : ℕ) : GstAjaVideoSrc :=
  if src.firstTime = clockTimeNone then { src with firstTime := streamTime } else src

def GstAjaVideoSrc.streamTime (src : GstAjaVideoSrc) (mode : GstAjaMode) (frameNumber : ℕ) : ℕ :=
  AjaVideoSrc.streamTime mode src.discontTime src.discontFrameNumber frameNumber

def GstAjaVideoSrc.anchor (src : GstAjaVideoSrc) (mode : GstAjaMode)
    (capturePipeline frameNumber : ℕ) : GstAjaVideoSrc × Bool :=
  let r := src.gainSignal capturePipeline frameNumber
  (r.1.noteFirstTime (r.1.streamTime mode frameNumber), r.2)

/-- Up to taking `src->lock`; only the capture thread touches these fields. -/
def GstAjaVideoSrc.gotFramePrepare (src : GstAjaVideoSrc) (mode : GstAjaMode)
    (env : CaptureEnv) (videoBuff : Option AjaVideoBuff) : GstAjaVideoSrc × FrameVerdict :=
  match videoBuff.filter (·.haveSignal) with
  | none => (src.loseSignal, .noSignal)
  | some b =>
    let time := env.clock.capturePipeline (some b)
    let r := src.anchor mode time b.frameNumber
    let s := r.1.streamTime mode b.frameNumber
    if r.1.skips s then (r.1, .skipped)
    else
      let src' := r.1.updateTimeMapping time s b.droppedChanged env.regression
      (src', .queue (src'.timestamp s) s r.2)

/-- Overflow remembers a change into `available`, the latest recovery first. -/
def rememberChange (acc : SignalChange) (f : AjaCaptureVideoFrame) : SignalChange :=
  if (f.signalChange = .gotSignal ∧ acc ≠ .recoveredSignal) ∨
      f.signalChange = .recoveredSignal then f.signalChange
  else acc

def rememberedChange (old : List AjaCaptureVideoFrame) : SignalChange :=
  old.foldl rememberChange .noChange

def writeBack (change : SignalChange) : List AjaCaptureVideoFrame → List AjaCaptureVideoFrame
  | [] => []
  | f :: q => (if change = .noChange then f else { f with signalChange := change }) :: q

def withBuffer (q : List AjaCaptureVideoFrame) : List AjaCaptureVideoFrame :=
  q.filter (·.videoBuff.isSome)

def GstAjaVideoSrc.skippedBefore (src : GstAjaVideoSrc)
    (dropped : List AjaCaptureVideoFrame) : Bool :=
  dropped.isEmpty && 0 < src.skippedLast

def GstAjaVideoSrc.countSkipped (src : GstAjaVideoSrc) (dropped : List AjaCaptureVideoFrame) :
    GstAjaVideoSrc :=
  { src with
    skipFromTimestamp :=
      if src.skippedLast = 0 then (dropped.head?.map (·.captureTime)).getD src.skipFromTimestamp
      else src.skipFromTimestamp
    skipToTimestamp := (dropped.getLast?.map (·.captureTime)).getD src.skipToTimestamp
    skippedOverall :=
      if src.skippedBefore dropped then u64Add src.skippedOverall src.skippedLast
      else src.skippedOverall
    skippedLast :=
      ((if src.skippedBefore dropped then 0 else src.skippedLast) + dropped.length) % 2 ^ 32 }

/-- The section under `src->lock` when not flushing: drop the oldest entries, write a
remembered change onto the oldest entry left, queue the frame. -/
def GstAjaVideoSrc.queueFrame (src : GstAjaVideoSrc) (videoBuff : AjaVideoBuff)
    (timestamp streamTime : ℕ) (hadSignal : Bool) : GstAjaVideoSrc :=
  let old := popped src.queueSize src.currentFrames
  let before := src.skippedBefore (withBuffer old)
  { src.countSkipped (withBuffer old) with
    currentFrames :=
      writeBack (rememberedChange old) (left src.queueSize src.currentFrames) ++
        [{ signalChange := .noChange
           videoBuff := some { videoBuff with
             droppedChanged := videoBuff.droppedChanged || before }
           captureTime := timestamp
           streamTime := streamTime
           mode := src.modeEnum
           firstBuffer := !hadSignal }] }

/-- `got_frame` as a whole, with the entry it queues; `flushing` is what it finds when it has
the lock. -/
def GstAjaVideoSrc.gotFrame (src : GstAjaVideoSrc) (mode : GstAjaMode) (env : CaptureEnv)
    (videoBuff : Option AjaVideoBuff) (flushing : Bool) :
    GstAjaVideoSrc × Option AjaCaptureVideoFrame :=
  let r := src.gotFramePrepare mode env videoBuff
  match videoBuff, r.2 with
  | some b, .queue timestamp streamTime hadSignal =>
    if flushing then (r.1, none)
    else
      let src' := r.1.queueFrame b timestamp streamTime hadSignal
      (src', src'.currentFrames.getLast?)
  | _, _ => (r.1, none)

/-! ## Flushing and stopping -/

def GstAjaVideoSrc.unlock (src : GstAjaVideoSrc) : GstAjaVideoSrc := { src with flushing := true }

def GstAjaVideoSrc.unlockStop (src : GstAjaVideoSrc) : GstAjaVideoSrc :=
  { src with flushing := false, currentFrames := [] }

def GstAjaVideoSrc.stopDrain (src : GstAjaVideoSrc) : GstAjaVideoSrc :=
  { src with currentFrames := [], signalState := .unknown }

def GstAjaVideoSrc.startReset (src : GstAjaVideoSrc) : GstAjaVideoSrc :=
  { src with
    skippedLast := 0
    skippedOverall := 0
    skipFromTimestamp := clockTimeNone
    skipToTimestamp := clockTimeNone }

/-! ## Create -/

/-- One pass of the retry loop; nothing happens while flushing or on an empty queue. -/
def GstAjaVideoSrc.popFrame (src : GstAjaVideoSrc) :
    Option (AjaCaptureVideoFrame × GstAjaVideoSrc) :=
  if src.flushing then none
  else match src.currentFrames with
    | [] => none
    | f :: q => some (f, { src with currentFrames := q })

structure CapsInForce where
  info : GstVideoInfo
  nvmm : Bool
  deriving DecidableEq, Repr

def GstAjaVideoSrc.capsOutdated (src : GstAjaVideoSrc) (f : AjaCaptureVideoFrame)
    (b : AjaVideoBuff) (hasCaps : Bool) : Bool :=
  src.modeEnum != f.mode ||
    src.transferCharacteristics != b.transferCharacteristics ||
    src.colorimetry != b.colorimetry ||
    src.fullRange != b.fullRange ||
    !hasCaps

def GstVideoInfo.withColorimetry (info : GstVideoInfo) (transferCharacteristics colorimetry : ℕ)
    (fullRange : Bool) : GstVideoInfo :=
  let transfer :=
    if transferCharacteristics = 1 then .aribStdB67
    else if transferCharacteristics = 2 then .smpte2084
    else info.colorimetry.transfer
  let space : GstVideoColorMatrix × GstVideoColorPrimaries :=
    if colorimetry = 0 then
      if info.height < 720 then (.bt601, .smpte170m)
      else if info.height < 2160 then (.bt709, .bt709)
      else (.bt2020, .bt2020)
    else if colorimetry = 2 then (.bt2020, .bt2020)
    else if transferCharacteristics = 1 ∨ transferCharacteristics = 2 then (.bt2020, .bt2020)
    else (info.colorimetry.matrix, info.colorimetry.primaries)
  { info with colorimetry :=
      { range := if fullRange then .range0_255 else .range16_235
        matrix := space.1
        transfer := transfer
        primaries := space.2 } }

def capsVideoInfo (caps : GstCaps) : GstVideoInfo where
  base := some caps
  height := caps.content.height
  fpsN := caps.content.fpsN
  fpsD := caps.content.fpsD
  colorimetry := ⟨.range16_235, .bt709, .bt709, .bt709⟩

/-- The info `create` builds for a mode and a frame's colorimetry. `videoInfoFromCaps`
is the library function of that name. -/
def frameInfo (videoInfoFromCaps : GstCaps → GstVideoInfo) (mode : GstAjaMode) (isNvmm : Bool)
    (transferCharacteristics colorimetry : ℕ) (fullRange : Bool) : GstVideoInfo :=
  (videoInfoFromCaps (mode.capsRaw isNvmm)).withColorimetry transferCharacteristics colorimetry
    fullRange

/-- New caps for the popped frame; `none` only for a mode that is not in the table. -/
def GstAjaVideoSrc.rebuildCaps (src : GstAjaVideoSrc)
    (videoInfoFromCaps : GstCaps → GstVideoInfo) (f : AjaCaptureVideoFrame)
    (b : AjaVideoBuff) : Option (GstAjaVideoSrc × CapsInForce) :=
  (getModeRaw f.mode).map fun mode =>
    let info := frameInfo videoInfoFromCaps mode b.isNvmm b.transferCharacteristics
      b.colorimetry b.fullRange
    ({ src with
      modeEnum := f.mode
      transferCharacteristics := b.transferCharacteristics
      colorimetry := b.colorimetry
      fullRange := b.fullRange
      info := info }, ⟨info, b.isNvmm⟩)

def GstAjaVideoSrc.negotiate (src : GstAjaVideoSrc) (videoInfoFromCaps : GstCaps → GstVideoInfo)
    (f : AjaCaptureVideoFrame) (b : AjaVideoBuff) (caps : Option CapsInForce) :
    Option (GstAjaVideoSrc × Option CapsInForce) :=
  if src.capsOutdated f b caps.isSome then
    (src.rebuildCaps videoInfoFromCaps f b).map fun r => (r.1, some r.2)
  else some (src, caps)

def frameDuration (mode : GstAjaMode) : ℕ := uint64Scale second mode.fpsD mode.fpsN

/-- A timecode as it is handed to the library; `high` and `low` are the raw words that
the digits are read off. -/
structure GstVideoTimeCode where
  fpsN : ℕ
  fpsD : ℕ
  interlaced : Bool
  dropFrame : Bool
  fieldCount : ℕ
  high : ℕ
  low : ℕ
  deriving DecidableEq, Repr

def frameTimeCode (mode : GstAjaMode) (b : AjaVideoBuff) : Option GstVideoTimeCode :=
  if b.timeCodeValid then
    some
      { fpsN := mode.fpsN
        fpsD := mode.fpsD
        interlaced := mode.isInterlaced
        dropFrame := mode.fpsD == 1001 && (mode.fpsN == 30000 || mode.fpsN == 60000)
        fieldCount :=
          if mode.isInterlaced then (if b.fieldCount = 0 then 2 else b.fieldCount) else 0
        high := b.timeCodeHigh
        low := b.timeCodeLow }
  else none

structure QosStats where
  streamTime : ℕ
  timestamp : ℕ
  duration : ℕ
  processed : ℕ
  dropped : ℕ
  deriving DecidableEq, Repr

/-- The buffer `create` returns, with the message it posts on the way. -/
structure GstVideoBuffer where
  buffer : ℕ
  timestamp : ℕ
  duration : ℕ
  interlaced : Bool
  tff : Bool
  discont : Bool
  timecode : Option GstVideoTimeCode
  referenceTime : ℕ
  qos : Option QosStats
  deriving DecidableEq, Repr

def GstAjaVideoSrc.output (src : GstAjaVideoSrc) (mode : GstAjaMode) (f : AjaCaptureVideoFrame)
    (b : AjaVideoBuff) : GstVideoBuffer where
  buffer := b.buffer
  timestamp := f.captureTime
  duration := frameDuration mode
  interlaced := mode.isInterlaced
  tff := mode.isInterlaced && mode.isTff
  discont := f.firstBuffer || b.droppedChanged
  timecode := frameTimeCode mode b
  referenceTime := f.streamTime
  qos :=
    if b.droppedChanged then
      some ⟨f.streamTime, f.captureTime, frameDuration mode,
        u64Sub b.framesProcessed src.skippedOverall, u64Add b.framesDropped src.skippedOverall⟩
    else none

theorem capture_pipeline_le (clock : CaptureClock) (videoBuff : Option AjaVideoBuff) :
    clock.capturePipeline videoBuff ≤ clock.nowPipeline := by
  unfold CaptureClock.capturePipeline
  exact (Nat.sub_le _ _).trans (Nat.sub_le _ _)

theorem pop_frame_some {src src' : GstAjaVideoSrc} {f : AjaCaptureVideoFrame}
    (h : src.popFrame = some (f, src')) :
    src.flushing = false ∧ src = { src' with currentFrames := f :: src'.currentFrames } := by
  unfold GstAjaVideoSrc.popFrame at h
  split at h
  · cases h
  case isFalse hf =>
    split at h
    · cases h
    case h_2 g q hq =>
      cases h
      exact ⟨by simpa using hf, by rw [← hq]⟩

theorem negotiate_some {videoInfoFromCaps : GstCaps → GstVideoInfo} {src : GstAjaVideoSrc}
    {f : AjaCaptureVideoFrame} {b : AjaVideoBuff} {caps : Option CapsInForce}
    {r : GstAjaVideoSrc × Option CapsInForce}
    (h : src.negotiate videoInfoFromCaps f b caps = some r) :
    r.1 = { src with
      modeEnum := r.1.modeEnum
      transferCharacteristics := r.1.transferCharacteristics
      colorimetry := r.1.colorimetry
      fullRange := r.1.fullRange
      info := r.1.info } := by
  unfold GstAjaVideoSrc.negotiate GstAjaVideoSrc.rebuildCaps at h
  split at h
  · obtain ⟨r', h', rfl⟩ := Option.map_eq_some_iff.mp h
    obtain ⟨mode, -, rfl⟩ := Option.map_eq_some_iff.mp h'
    rfl
  · cases h; rfl

/-! ## What the capture thread leaves alone -/

/-- The fields that the capture thread does not write before it takes the lock. -/
structure SameSettings (a b : GstAjaVideoSrc) : Prop where
  modeEnum : b.modeEnum = a.modeEnum
  transferCharacteristics : b.transferCharacteristics = a.transferCharacteristics
  colorimetry : b.colorimetry = a.colorimetry
  fullRange : b.fullRange = a.fullRange
  info : b.info = a.info
  flushing : b.flushing = a.flushing
  queueSize : b.queueSize = a.queueSize
  outputStreamTime : b.outputStreamTime = a.outputStreamTime
  skipFirstTime : b.skipFirstTime = a.skipFirstTime
  skippedLast : b.skippedLast = a.skippedLast
  skippedOverall : b.skippedOverall = a.skippedOverall

namespace SameSettings

variable {a b c : GstAjaVideoSrc}

theorem refl (a : GstAjaVideoSrc) : SameSettings a a := by constructor <;> rfl

theorem trans (h : SameSettings a b) (k : SameSettings b c) : SameSettings a c := by
  obtain ⟨h₁, h₂, h₃, h₄, h₅, h₆, h₇, h₈, h₉, h₁₀, h₁₁⟩ := h
  obtain ⟨k₁, k₂, k₃, k₄, k₅, k₆, k₇, k₈, k₉, k₁₀, k₁₁⟩ := k
  exact ⟨k₁.trans h₁, k₂.trans h₂, k₃.trans h₃, k₄.trans h₄, k₅.trans h₅, k₆.trans h₆,
    k₇.trans h₇, k₈.trans h₈, k₉.trans h₉, k₁₀.trans h₁₀, k₁₁.trans h₁₁⟩

theorem ite {p : Prop} [Decidable p] (h : SameSettings a b) (k : SameSettings a c) :
    SameSettings a (if p then b else c) := by
  split
  · exact h
  · exact k

end SameSettings

theorem push_marker_settings (src : GstAjaVideoSrc) (c : SignalChange) :
    SameSettings src (src.pushMarker c) :=
  .ite (.refl src) (by constructor <;> rfl)

theorem lose_signal_settings (src : GstAjaVideoSrc) : SameSettings src src.loseSignal :=
  .ite (.refl src) (.trans (by constructor <;> rfl) (push_marker_settings _ _))

theorem gain_signal_settings (src : GstAjaVideoSrc) (t n : ℕ) :
    SameSettings src (src.gainSignal t n).1 := by
  unfold GstAjaVideoSrc.gainSignal
  split
  · split <;> constructor <;> rfl
  · exact .trans (b := { src with signalState := .available }) (by constructor <;> rfl)
      (.trans (push_marker_settings _ _) (by constructor <;> rfl))

theorem anchor_settings (src : GstAjaVideoSrc) (mode : GstAjaMode) (t n : ℕ) :
    SameSettings src (src.anchor mode t n).1 :=
  .trans (gain_signal_settings src t n) (.ite (by constructor <;> rfl) (.refl _))

structure SameStream (a b : GstAjaVideoSrc) : Prop extends SameSettings a b where
  currentFrames : b.currentFrames = a.currentFrames
  signalState : b.signalState = a.signalState
  firstTime : b.firstTime = a.firstTime
  discontTime : b.discontTime = a.discontTime
  discontFrameNumber : b.discontFrameNumber = a.discontFrameNumber

namespace SameStream

variable {a b c : GstAjaVideoSrc}

theorem refl (a : GstAjaVideoSrc) : SameStream a a := ⟨.refl a, rfl, rfl, rfl, rfl, rfl⟩

theorem trans (h : SameStream a b) (k : SameStream b c) : SameStream a c :=
  ⟨h.toSameSettings.trans k.toSameSettings, k.currentFrames.trans h.currentFrames,
    k.signalState.trans h.signalState, k.firstTime.trans h.firstTime,
    k.discontTime.trans h.discontTime, k.discontFrameNumber.trans h.discontFrameNumber⟩

theorem ite {p : Prop} [Decidable p] (h : SameStream a b) (k : SameStream a c) :
    SameStream a (if p then b else c) := by
  split
  · exact h
  · exact k

end SameStream

private theorem store_sample_stream (src : GstAjaVideoSrc) (t s : ℕ) :
    SameStream src (src.storeSample t s) :=
  .ite ⟨by constructor <;> rfl, rfl, rfl, rfl, rfl, rfl⟩
    ⟨by constructor <;> rfl, rfl, rfl, rfl, rfl, rfl⟩

private theorem start_mapping_stream (src : GstAjaVideoSrc) (t s : ℕ) :
    SameStream src (src.startMapping t s) :=
  .ite ⟨by constructor <;> rfl, rfl, rfl, rfl, rfl, rfl⟩ (.refl src)

private theorem fit_mapping_stream (src : GstAjaVideoSrc) (regression : Option Calibration) :
    SameStream src (src.fitMapping regression) := by
  unfold GstAjaVideoSrc.fitMapping
  split
  · exact ⟨by constructor <;> rfl, rfl, rfl, rfl, rfl, rfl⟩
  · exact .refl src

theorem apply_pending_stream (src : GstAjaVideoSrc) (s : ℕ) (discont : Bool) :
    SameStream src (src.applyPending s discont) :=
  .ite (.ite ⟨by constructor <;> rfl, rfl, rfl, rfl, rfl, rfl⟩
    ⟨by constructor <;> rfl, rfl, rfl, rfl, rfl, rfl⟩) (.refl src)

theorem sample_stream (src : GstAjaVideoSrc) (t s : ℕ) (regression : Option Calibration) :
    SameStream src (src.sample t s regression) :=
  .ite (.trans (store_sample_stream src t s)
      (.trans (start_mapping_stream _ t s) (fit_mapping_stream _ regression)))
    ⟨by constructor <;> rfl, rfl, rfl, rfl, rfl, rfl⟩

theorem update_time_mapping_stream (src : GstAjaVideoSrc) (t s : ℕ) (discont : Bool)
    (regression : Option Calibration) :
    SameStream src (src.updateTimeMapping t s discont regression) :=
  .trans (sample_stream src t s regression) (apply_pending_stream _ s discont)

theorem prepare_settings (src : GstAjaVideoSrc) (mode : GstAjaMode) (env : CaptureEnv)
    (videoBuff : Option AjaVideoBuff) :
    SameSettings src (src.gotFramePrepare mode env videoBuff).1 := by
  unfold GstAjaVideoSrc.gotFramePrepare
  split
  · exact lose_signal_settings src
  · simp only
    split
    · exact anchor_settings _ _ _ _
    · exact (anchor_settings _ _ _ _).trans (update_time_mapping_stream _ _ _ _ _).toSameSettings

/-! ## Signal changes -/

def GstAjaVideoSrc.change (src : GstAjaVideoSrc) (videoBuff : Option AjaVideoBuff) :
    Option SignalChange :=
  if (videoBuff.filter (·.haveSignal)).isSome then
    if src.signalState = .available then none else some src.signalState.gain
  else if src.signalState = .lost then none else some .lostSignal

theorem push_marker_frames (src : GstAjaVideoSrc) (c : SignalChange) :
    (src.pushMarker c).currentFrames =
      src.currentFrames ++ if src.flushing then [] else [marker c] := by
  unfold GstAjaVideoSrc.pushMarker
  split <;> simp_all

theorem push_marker_signal_state (src : GstAjaVideoSrc) (c : SignalChange) :
    (src.pushMarker c).signalState = src.signalState := by
  unfold GstAjaVideoSrc.pushMarker
  split <;> rfl

theorem note_first_time_frames (src : GstAjaVideoSrc) (s : ℕ) :
    (src.noteFirstTime s).currentFrames = src.currentFrames := by
  unfold GstAjaVideoSrc.noteFirstTime
  split <;> rfl

theorem note_first_time_signal_state (src : GstAjaVideoSrc) (s : ℕ) :
    (src.noteFirstTime s).signalState = src.signalState := by
  unfold GstAjaVideoSrc.noteFirstTime
  split <;> rfl

theorem anchor_frames (src : GstAjaVideoSrc) (mode : GstAjaMode) (t n : ℕ) :
    (src.anchor mode t n).1.currentFrames = src.currentFrames ++
      if src.signalState = .available ∨ src.flushing then []
      else [marker src.signalState.gain] := by
  unfold GstAjaVideoSrc.anchor GstAjaVideoSrc.gainSignal
  simp only [note_first_time_frames]
  by_cases ha : src.signalState = .available
  · by_cases hd : src.discontTime = clockTimeNone <;> simp [ha, hd]
  · simp [ha, push_marker_frames]

theorem anchor_signal_state (src : GstAjaVideoSrc) (mode : GstAjaMode) (t n : ℕ) :
    (src.anchor mode t n).1.signalState = .available := by
  unfold GstAjaVideoSrc.anchor GstAjaVideoSrc.gainSignal
  simp only [note_first_time_signal_state]
  by_cases ha : src.signalState = .available
  · by_cases hd : src.discontTime = clockTimeNone <;> simp [ha, hd]
  · simp [ha, push_marker_signal_state]

theorem prepare_frames (src : GstAjaVideoSrc) (mode : GstAjaMode) (env : CaptureEnv)
    (videoBuff : Option AjaVideoBuff) :
    (src.gotFramePrepare mode env videoBuff).1.currentFrames = src.currentFrames ++
      if src.flushing then [] else (src.change videoBuff).toList.map marker := by
  unfold GstAjaVideoSrc.gotFramePrepare GstAjaVideoSrc.change
  cases hb : videoBuff.filter (·.haveSignal) with
  | none =>
    by_cases hl : src.signalState = .lost <;>
      simp [GstAjaVideoSrc.loseSignal, hl, push_marker_frames]
  | some b =>
    have ha : (src.anchor mode (env.clock.capturePipeline (some b)) b.frameNumber).1.currentFrames =
        src.currentFrames ++ if src.flushing then [] else
          (if src.signalState = .available then none else some src.signalState.gain).toList.map
            marker := by
      rw [anchor_frames]
      by_cases hs : src.signalState = .available <;> by_cases hf : src.flushing = true <;>
        simp [hs, hf]
    simp only
    split
    · exact ha
    · exact (update_time_mapping_stream _ _ _ _ _).currentFrames.trans ha

theorem lose_signal_state (src : GstAjaVideoSrc) : src.loseSignal.signalState = .lost := by
  unfold GstAjaVideoSrc.loseSignal
  split
  · assumption
  · rw [push_marker_signal_state]

theorem prepare_signal_state (src : GstAjaVideoSrc) (mode : GstAjaMode) (env : CaptureEnv)
    (videoBuff : Option AjaVideoBuff) :
    (src.gotFramePrepare mode env videoBuff).1.signalState =
      if (videoBuff.filter (·.haveSignal)).isSome then .available else .lost := by
  unfold GstAjaVideoSrc.gotFramePrepare
  cases hb : videoBuff.filter (·.haveSignal) with
  | none => simp [lose_signal_state]
  | some b =>
    simp only
    split
    · simp [anchor_signal_state]
    · simp [(update_time_mapping_stream _ _ _ _ _).signalState, anchor_signal_state]

theorem prepare_queue_some {src : GstAjaVideoSrc} {mode : GstAjaMode} {env : CaptureEnv}
    {videoBuff : Option AjaVideoBuff} {timestamp streamTime : ℕ} {hadSignal : Bool}
    (h : (src.gotFramePrepare mode env videoBuff).2 = .queue timestamp streamTime hadSignal) :
    (videoBuff.filter (·.haveSignal)).isSome := by
  unfold GstAjaVideoSrc.gotFramePrepare at h
  split at h
  · cases h
  case h_2 b hb => rw [hb]; rfl

theorem anchor_had_signal (src : GstAjaVideoSrc) (mode : GstAjaMode) (t n : ℕ) :
    (src.anchor mode t n).2 = decide (src.signalState = .available) := by
  unfold GstAjaVideoSrc.anchor GstAjaVideoSrc.gainSignal
  by_cases ha : src.signalState = .available
  · by_cases hd : src.discontTime = clockTimeNone <;> simp [ha, hd]
  · simp [ha]

theorem prepare_had_signal {src : GstAjaVideoSrc} {mode : GstAjaMode} {env : CaptureEnv}
    {videoBuff : Option AjaVideoBuff} {timestamp streamTime : ℕ} {hadSignal : Bool}
    (h : (src.gotFramePrepare mode env videoBuff).2 = .queue timestamp streamTime hadSignal) :
    hadSignal = decide (src.signalState = .available) := by
  unfold GstAjaVideoSrc.gotFramePrepare at h
  split at h
  · cases h
  · simp only at h
    split at h
    · cases h
    · cases h
      exact anchor_had_signal _ _ _ _

def GstAjaVideoSrc.skipsFrame (src : GstAjaVideoSrc) (mode : GstAjaMode) (env : CaptureEnv)
    (b : AjaVideoBuff) : Bool :=
  let r := src.anchor mode (env.clock.capturePipeline (some b)) b.frameNumber
  b.haveSignal && r.1.skips (r.1.streamTime mode b.frameNumber)

theorem no_signal_of_prepare {src : GstAjaVideoSrc} {mode : GstAjaMode} {env : CaptureEnv}
    {b : AjaVideoBuff} (h : (src.gotFramePrepare mode env (some b)).2 = .noSignal) :
    b.haveSignal = false := by
  by_contra hs
  simp only [Bool.not_eq_false] at hs
  simp only [GstAjaVideoSrc.gotFramePrepare, Option.filter, hs, if_true] at h
  split at h <;> cases h

theorem skips_of_prepare {src : GstAjaVideoSrc} {mode : GstAjaMode} {env : CaptureEnv}
    {b : AjaVideoBuff} (h : (src.gotFramePrepare mode env (some b)).2 = .skipped) :
    src.skipsFrame mode env b = true := by
  unfold GstAjaVideoSrc.gotFramePrepare at h
  unfold GstAjaVideoSrc.skipsFrame
  cases hs : b.haveSignal with
  | false => simp [Option.filter, hs] at h
  | true =>
    simp only [Option.filter, hs, if_true] at h
    split at h
    case isTrue hk => simpa using hk
    case isFalse => cases h

end AjaVideoSrc
