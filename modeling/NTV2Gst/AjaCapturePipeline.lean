import NTV2Gst.TransitionRuns
import NTV2Gst.AjaAudioSrc

/-!
# One capture thread and its two streams

The loop of `ACInputWorker` hands each captured pair of buffers to the video callback
and then to the audio callback; the two `create` functions take from the queues. A
step is one section of the source that runs under a lock or shares nothing but a call
on a queue. Such a call is taken to be atomic also where the source makes it without the
lock, which it does for the markers and when the audio source stops. A run lasts from one
call of `start_streams` to the next, so the audio source is started without one. The
64-bit counters of the worker are natural numbers here.
-/
namespace AjaCapturePipeline

open TransitionRuns GstAjaModes AjaVideoSrc AjaAudioSrc

/-! ## The worker's own data -/

structure ACInputWorker where
  processedFrames : ℕ
  droppedFrames : ℕ
  lastDroppedFrames : ℕ
  droppedFramesNow : Bool
  deriving DecidableEq, Repr

def ACInputWorker.start : ACInputWorker := ⟨0, 0, 0, false⟩

def ACInputWorker.countDrops (w : ACInputWorker) (acFramesDropped : ℕ) : ACInputWorker :=
  if w.lastDroppedFrames = acFramesDropped then w
  else { w with
    droppedFrames := w.droppedFrames +
      if acFramesDropped < w.lastDroppedFrames then
        (2 ^ 32 - 1 - w.lastDroppedFrames) + acFramesDropped
      else acFramesDropped - w.lastDroppedFrames
    lastDroppedFrames := acFramesDropped
    droppedFramesNow := true }

def ACInputWorker.transferred (w : ACInputWorker) : ACInputWorker :=
  { w with processedFrames := w.processedFrames + 1, droppedFramesNow := false }

structure DeviceFrame where
  haveSignal : Bool
  timeStamp : ℕ
  isNvmm : Bool
  fieldCount : ℕ
  timeCodeValid : Bool
  timeCodeLow : ℕ
  timeCodeHigh : ℕ
  transferCharacteristics : ℕ
  colorimetry : ℕ
  fullRange : Bool
  audioDataSize : ℕ
  deriving DecidableEq, Repr

def ACInputWorker.videoBuff (w : ACInputWorker) (buffer : ℕ) (d : DeviceFrame) :
    AjaVideoBuff where
  buffer := buffer
  isNvmm := d.isNvmm
  frameNumber := w.processedFrames + w.droppedFrames
  fieldCount := d.fieldCount
  timeCodeValid := d.timeCodeValid
  timeCodeLow := d.timeCodeLow
  timeCodeHigh := d.timeCodeHigh
  timeStamp := d.timeStamp
  haveSignal := d.haveSignal
  transferCharacteristics := d.transferCharacteristics
  colorimetry := d.colorimetry
  fullRange := d.fullRange
  framesProcessed := w.processedFrames + 1
  framesDropped := w.droppedFrames
  droppedChanged := w.droppedFramesNow

/-- `frameNumber` is stored in 32 bits. -/
def ACInputWorker.audioBuff (w : ACInputWorker) (buffer : ℕ) (d : DeviceFrame) :
    AjaAudioBuff where
  buffer := buffer
  audioDataSize := d.audioDataSize
  frameNumber := (w.processedFrames + w.droppedFrames) % 2 ^ 32
  haveSignal := d.haveSignal
  framesProcessed := w.processedFrames + 1
  framesDropped := w.droppedFrames
  droppedChanged := w.droppedFramesNow

/-- Where the worker is. After the video callback it remembers the verdict on the
frame; `none` there means that the callback returned false. -/
inductive WorkerPc where
  | idle
  | videoCallback (v : AjaVideoBuff) (a : AjaAudioBuff)
  | gotFrame (v : AjaVideoBuff) (a : AjaAudioBuff)
  | queueFrame (v : AjaVideoBuff) (a : AjaAudioBuff) (timestamp streamTime : ℕ) (hadSignal : Bool)
  | audioCallback (a : AjaAudioBuff) (verdict : Option FrameVerdict)
  | gotPacket (a : AjaAudioBuff) (verdict : Option FrameVerdict)
  | queuePacket (a : AjaAudioBuff) (timestamp streamTime : ℕ)
  | nullAudio
  | ended
  deriving DecidableEq, Repr

/-! ## What became of the buffers -/

inductive Path where
  | callbackRefused | noSignal | skipFirstTime | flushing | overflow | unlockStop | stop | create
  deriving DecidableEq, Repr

/-- A buffer that `create` returned; `frame` is its position in the capture, drops
included. -/
structure Delivery where
  buffer : ℕ
  frame : ℕ
  discont : Bool
  deriving DecidableEq, Repr

structure Trail where
  captured : List ℕ
  released : List (ℕ × Path)
  delivered : List Delivery
  deriving DecidableEq, Repr

def Trail.empty : Trail := ⟨[], [], []⟩

def Trail.release (t : Trail) (why : Path) (buffers : List ℕ) : Trail :=
  { t with released := t.released ++ buffers.map (·, why) }

def Trail.deliver (t : Trail) (d : Delivery) : Trail :=
  { t.release .create [d.buffer] with delivered := t.delivered ++ [d] }

@[simp] theorem Trail.release_delivered (t : Trail) (why : Path) (buffers : List ℕ) :
    (t.release why buffers).delivered = t.delivered := rfl

structure Pipeline where
  videosrc : GstAjaVideoSrc
  audiosrc : GstAjaAudioSrc
  mode : GstAjaMode
  videoCallback : Bool
  videoEnabled : Bool
  audioCallback : Bool
  audioEnabled : Bool
  worker : ACInputWorker
  pc : WorkerPc
  nextBuffer : ℕ
  caps : Option CapsInForce
  videoTaken : Option (AjaCaptureVideoFrame × AjaVideoBuff)
  audioTaken : Option AjaCaptureAudioPacket
  video : Trail
  audio : Trail
  changes : List SignalChange
  reported : List SignalChange
  deriving DecidableEq, Repr

inductive Event where
  | status (acFramesDropped : ℕ)
  | capture (d : DeviceFrame)
  | nullVideo
  | nullAudio
  | videoCallback
  | gotFrame (env : CaptureEnv)
  | queueFrame
  | audioCallback
  | gotPacket
  | queuePacket
  | workerEnds
  | videoPop
  | videoReturn
  | audioPop
  | audioReturn
  | videoUnlock
  | videoUnlockStop
  | videoStop
  | videoStartReset
  | audioUnlock
  | audioUnlockStop
  | audioReadyToPaused
  | audioEnable
  | audioStartReset
  | audioStop
  | audioStopPop
  deriving DecidableEq, Repr

/-! ## The worker's steps -/

def Pipeline.capture (s : Pipeline) (d : DeviceFrame) : Option Pipeline :=
  if s.pc = .idle then
    some { s with
      pc := .videoCallback (s.worker.videoBuff s.nextBuffer d) (s.worker.audioBuff s.nextBuffer d)
      worker := s.worker.transferred
      nextBuffer := s.nextBuffer + 1
      video := { s.video with captured := s.video.captured ++ [s.nextBuffer] }
      audio := { s.audio with captured := s.audio.captured ++ [s.nextBuffer] } }
  else none

/-- `DoCallback` and the test at the top of `video_callback`. -/
def Pipeline.videoCallbackStep (s : Pipeline) : Option Pipeline :=
  match s.pc with
  | .videoCallback v a =>
    if s.videoCallback && s.videoEnabled then some { s with pc := .gotFrame v a }
    else some { s with
      pc := .audioCallback a none
      video := s.video.release .callbackRefused [v.buffer] }
  | _ => none

def Pipeline.gotFrame (s : Pipeline) (env : CaptureEnv) : Option Pipeline :=
  match s.pc with
  | .gotFrame v a =>
    let r := s.videosrc.gotFramePrepare s.mode env (some v)
    let s' := { s with
      videosrc := r.1
      changes := s.changes ++ (s.videosrc.change (some v)).toList }
    match r.2 with
    | .noSignal => some { s' with
        pc := .audioCallback a (some .noSignal)
        video := s.video.release .noSignal [v.buffer] }
    | .skipped => some { s' with
        pc := .audioCallback a (some .skipped)
        video := s.video.release .skipFirstTime [v.buffer] }
    | .queue timestamp streamTime hadSignal =>
        some { s' with pc := .queueFrame v a timestamp streamTime hadSignal }
  | _ => none

def videoBuffers (q : List AjaCaptureVideoFrame) : List ℕ :=
  q.filterMap fun f => f.videoBuff.map (·.buffer)

def audioBuffers (q : List AjaCaptureAudioPacket) : List ℕ := q.map (·.audioBuff.buffer)

def Pipeline.queueFrame (s : Pipeline) : Option Pipeline :=
  match s.pc with
  | .queueFrame v a timestamp streamTime hadSignal =>
    let s' := { s with pc := .audioCallback a (some (.queue timestamp streamTime hadSignal)) }
    if s.videosrc.flushing then
      some { s' with video := s.video.release .flushing [v.buffer] }
    else some { s' with
      videosrc := s.videosrc.queueFrame v timestamp streamTime hadSignal
      video := s.video.release .overflow
        (videoBuffers (DropOldest.popped s.videosrc.queueSize s.videosrc.currentFrames)) }
  | _ => none

def Pipeline.audioCallbackStep (s : Pipeline) : Option Pipeline :=
  match s.pc with
  | .audioCallback a verdict =>
    if s.audioCallback && s.audioEnabled then some { s with pc := .gotPacket a verdict }
    else some { s with
      pc := .idle
      audio := s.audio.release .callbackRefused [a.buffer] }
  | _ => none

/-- A failed assertion ends the process; the step is not taken. -/
def Pipeline.gotPacket (s : Pipeline) : Option Pipeline :=
  match s.pc with
  | .gotPacket a _ =>
    let r := s.audiosrc.gotPacketPrepare (some s.videosrc) s.mode (some a)
    match r.2 with
    | .noSignal => some { s with
        audiosrc := r.1
        pc := .idle
        audio := s.audio.release .noSignal [a.buffer] }
    | .assertion => none
    | .skipped => some { s with
        audiosrc := r.1
        pc := .idle
        audio := s.audio.release .skipFirstTime [a.buffer] }
    | .queue timestamp streamTime => some { s with
        audiosrc := r.1
        pc := .queuePacket a timestamp streamTime }
  | _ => none

def Pipeline.queuePacket (s : Pipeline) : Option Pipeline :=
  match s.pc with
  | .queuePacket a timestamp streamTime =>
    if s.audiosrc.flushing then some { s with
      pc := .idle
      audiosrc := { s.audiosrc with hadSignal := true }
      audio := s.audio.release .flushing [a.buffer] }
    else some { s with
      pc := .idle
      audiosrc := s.audiosrc.queuePacket a timestamp streamTime
      audio := s.audio.release .overflow
        (audioBuffers (DropOldest.popped s.audiosrc.queueSize s.audiosrc.currentPackets)) }
  | _ => none

def Pipeline.nullVideo (s : Pipeline) : Option Pipeline :=
  if s.pc = .idle then
    if s.videoCallback && s.videoEnabled then some { s with
      pc := .nullAudio
      videosrc := s.videosrc.loseSignal
      changes := s.changes ++ (s.videosrc.change none).toList }
    else some { s with pc := .nullAudio }
  else none

def Pipeline.nullAudio (s : Pipeline) : Option Pipeline :=
  if s.pc = .nullAudio then
    if s.audioCallback && s.audioEnabled then
      some { s with pc := .idle, audiosrc := { s.audiosrc with hadSignal := false } }
    else some { s with pc := .idle }
  else none

/-! ## The streaming threads and the application -/

section Consumer

variable (videoInfoFromCaps : GstCaps → GstVideoInfo)

/-- One entry of the video queue: a marker is only reported, a frame is kept by `create`. -/
def Pipeline.videoPop (s : Pipeline) : Option Pipeline :=
  if s.videoTaken.isSome then none
  else match s.videosrc.popFrame with
    | none => none
    | some (f, src) =>
      let reported := s.reported ++ if f.signalChange = .noChange then [] else [f.signalChange]
      match f.videoBuff with
      | none => some { s with videosrc := src, reported := reported }
      | some b =>
        (src.negotiate videoInfoFromCaps f b s.caps).map fun r =>
          { s with videosrc := r.1, caps := r.2, reported := reported, videoTaken := some (f, b) }

def Pipeline.videoReturn (s : Pipeline) : Option Pipeline :=
  match s.videoTaken with
  | some (f, b) =>
    let out := s.videosrc.output s.mode f b
    some { s with
      videoTaken := none
      video := s.video.deliver ⟨out.buffer, b.framesProcessed + b.framesDropped, out.discont⟩ }
  | none => none

def Pipeline.audioPop (s : Pipeline) : Option Pipeline :=
  if s.audioTaken.isSome then none
  else s.audiosrc.popPacket.map fun r => { s with audioTaken := some r.1, audiosrc := r.2 }

def Pipeline.audioReturn (s : Pipeline) : Option Pipeline :=
  match s.audioTaken with
  | some p =>
    let r := s.audiosrc.output s.mode p
    some { s with
      audioTaken := none
      audiosrc := r.1
      audio := s.audio.deliver
        ⟨r.2.buffer, p.audioBuff.framesProcessed + p.audioBuff.framesDropped, r.2.discont⟩ }
  | none => none

def Pipeline.videoUnlockStop (s : Pipeline) : Pipeline :=
  { s with
    videosrc := s.videosrc.unlockStop
    video := s.video.release .unlockStop (videoBuffers s.videosrc.currentFrames) }

/-- `Quit` has waited for the worker. -/
def Pipeline.videoStop (s : Pipeline) : Option Pipeline :=
  if s.pc = .ended then
    some { s with
      videoEnabled := false
      videoCallback := false
      videosrc := s.videosrc.stopDrain
      video := s.video.release .stop (videoBuffers s.videosrc.currentFrames) }
  else none

def Pipeline.audioUnlockStop (s : Pipeline) : Pipeline :=
  { s with
    audiosrc := s.audiosrc.unlockStop
    audio := s.audio.release .unlockStop (audioBuffers s.audiosrc.currentPackets) }

/-- The audio source stops without waiting for the worker and empties its queue without
the lock, one packet at a time. -/
def Pipeline.audioStopPop (s : Pipeline) : Pipeline :=
  match s.audiosrc.currentPackets with
  | [] => { s with audiosrc := { s.audiosrc with hadSignal := false } }
  | p :: q => { s with
      audiosrc := { s.audiosrc with currentPackets := q }
      audio := s.audio.release .stop [p.audioBuff.buffer] }

def Pipeline.next (s : Pipeline) : Event → Option Pipeline
  | .status ac => if s.pc = .idle then some { s with worker := s.worker.countDrops ac } else none
  | .capture d => s.capture d
  | .nullVideo => s.nullVideo
  | .nullAudio => s.nullAudio
  | .videoCallback => s.videoCallbackStep
  | .gotFrame env => s.gotFrame env
  | .queueFrame => s.queueFrame
  | .audioCallback => s.audioCallbackStep
  | .gotPacket => s.gotPacket
  | .queuePacket => s.queuePacket
  | .workerEnds => if s.pc = .idle then some { s with pc := .ended } else none
  | .videoPop => s.videoPop videoInfoFromCaps
  | .videoReturn => s.videoReturn
  | .audioPop => s.audioPop
  | .audioReturn => s.audioReturn
  | .videoUnlock => some { s with videosrc := s.videosrc.unlock }
  | .videoUnlockStop => some s.videoUnlockStop
  | .videoStop => s.videoStop
  | .videoStartReset => some { s with videosrc := s.videosrc.startReset }
  | .audioUnlock => some { s with audiosrc := s.audiosrc.unlock }
  | .audioUnlockStop => some s.audioUnlockStop
  | .audioReadyToPaused => some { s with
      audioCallback := true
      audiosrc := { s.audiosrc with hadSignal := false }.readyToPaused }
  | .audioEnable => some { s with audioEnabled := true }
  | .audioStartReset => some { s with audiosrc := s.audiosrc.startReset }
  | .audioStop => some { s with audioEnabled := false, audioCallback := false }
  | .audioStopPop => some s.audioStopPop

/-- Right after `start_streams` let the worker run: empty queues, a fresh worker, nothing
handed out; the input has a mode of the table, the video source is set up and enabled, the
audio source may still come. -/
structure Started (s : Pipeline) : Prop where
  mode : ∃ modeEnum, getModeRaw modeEnum = some s.mode
  video_callback : s.videoCallback = true
  video_enabled : s.videoEnabled = true
  streams : s.videosrc.startStreams = s.videosrc
  no_frames : s.videosrc.currentFrames = []
  no_packets : s.audiosrc.currentPackets = []
  video_queue_size : 0 < s.videosrc.queueSize
  audio_queue_size : 0 < s.audiosrc.queueSize
  worker : s.worker = .start
  pc : s.pc = .idle
  video_taken : s.videoTaken = none
  audio_taken : s.audioTaken = none
  video : s.video = .empty
  audio : s.audio = .empty
  changes : s.changes = []
  reported : s.reported = []

def pipeline : Machine Pipeline Event where
  initial := Started
  next := Pipeline.next videoInfoFromCaps

end Consumer

/-! ## A pipeline to run by hand -/

def startedPipeline (queueSize : ℕ) (audio : Bool) : Pipeline where
  videosrc := (GstAjaVideoSrc.init 15 queueSize false 0).startStreams
  audiosrc := (GstAjaAudioSrc.init 8 queueSize 40000000 1000000000).readyToPaused
  mode := mode720p5994
  videoCallback := true
  videoEnabled := true
  audioCallback := audio
  audioEnabled := audio
  worker := .start
  pc := .idle
  nextBuffer := 0
  caps := none
  videoTaken := none
  audioTaken := none
  video := .empty
  audio := .empty
  changes := []
  reported := []

theorem started_pipeline {queueSize : ℕ} (hq : 0 < queueSize) (audio : Bool) :
    Started (startedPipeline queueSize audio) := by
  constructor <;> first | rfl | exact hq | exact ⟨15, rfl⟩

def deviceFrame (haveSignal : Bool) (timeStamp : ℕ) : DeviceFrame :=
  ⟨haveSignal, timeStamp, false, 0, false, 0, 0, 3, 3, false, 25600⟩

def clockAt (time : ℕ) : CaptureEnv := ⟨⟨0, time, 0⟩, none⟩

def videoIteration (d : DeviceFrame) (env : CaptureEnv) : List Event :=
  [.capture d, .videoCallback, .gotFrame env, .queueFrame, .audioCallback]

def bothIteration (d : DeviceFrame) (env : CaptureEnv) : List Event :=
  videoIteration d env ++ [.gotPacket, .queuePacket]

end AjaCapturePipeline
