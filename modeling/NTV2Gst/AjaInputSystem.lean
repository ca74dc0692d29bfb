import NTV2Gst.AjaInput
import NTV2Gst.AjaAudioSrc
import NTV2Gst.TransitionRuns

/-!
# A video and an audio element on one input

The life cycles of both elements, their `create` functions and the capture threads, in
any order that the element state machine allows. A step is a state transition, a call or
a part of one that runs under a lock. The base class calls `unlock` and `unlock_stop`
around its own work, so these are steps too. `create` runs only while its element is
live: from within the transition to PLAYING until it leaves PLAYING.
-/
namespace AjaInputSystem

open TransitionRuns GstAjaModes AjaVideoSrc AjaAudioSrc AjaInput

inductive Element where
  | video | audio
  deriving DecidableEq, Repr

inductive GstState where
  | null | ready | paused | playing
  deriving DecidableEq, Repr

/-- `pending` is set on the way from PAUSED to PLAYING. -/
structure ElementStatus where
  state : GstState
  pending : Bool
  liveRunning : Bool
  hasInput : Bool
  deriving DecidableEq, Repr

def ElementStatus.init : ElementStatus := ⟨.null, false, false, false⟩

/-- A pointer that is NULL is followed, or an element is taken for one of the other kind;
nothing is said about what happens afterwards. -/
inductive Fault where
  | nullEngine | nullPointer | wrongKind
  deriving DecidableEq, Repr

/-- A buffer that `create` returned, the frame it was made from, the caps then in force and
the mode that the engine was initialised with. -/
structure Delivery where
  frame : AjaVideoBuff
  caps : Option CapsInForce
  mode : GstAjaMode
  initMode : Option GstAjaMode
  buffer : GstVideoBuffer
  deriving DecidableEq, Repr

/-- The last five fields are a record of the run: the engine that the audio element's
`InitAudio` was called on, whether the element ran on an engine without audio, packets that
nobody released, the buffers delivered, and a fault that ended the run. -/
structure System where
  input : GstAjaInput Element
  captures : Captures
  video : ElementStatus
  audio : ElementStatus
  videosrc : GstAjaVideoSrc
  audiosrc : GstAjaAudioSrc
  caps : Option CapsInForce
  audioInitOn : Option ℕ
  audioUnset : Bool
  kept : List ℕ
  delivered : List Delivery
  fault : Option Fault
  deriving DecidableEq, Repr

inductive Event where
  | videoOpen (found ok : Bool)
  | videoReadyToPaused (ok : Bool)
  | videoPlay
  | videoPlaying
  | videoPause
  | videoStop
  | videoClose
  | videoStart
  | videoCreate
  | videoUnlock
  | videoUnlockStop
  | setMode (modeEnum : ℕ)
  | audioOpen (found ok : Bool)
  | audioReadyToPaused (ok : Bool)
  | audioPlay
  | audioPause
  | audioStop
  | audioClose
  | audioStart (capsSet : Bool)
  | audioCreate
  | audioUnlock
  | audioUnlockStop
  | frame (thread : ℕ) (env : CaptureEnv) (videoBuff : Option AjaVideoBuff)
  | packet (thread : ℕ) (audioBuff : Option AjaAudioBuff)
  | threadEnds (thread : ℕ)
  deriving DecidableEq, Repr

/-! ## Starting the streams -/

def System.setEngine (s : System) (av : NTV2GstAV) : System :=
  { s with input := { s.input with ntv2AV := some av } }

/-- The test of `start_streams`: the video source was started, no audio source is missing,
and the video source is in PLAYING or on the way there. -/
def System.readyToStream (s : System) : Bool :=
  s.input.videoEnabled && (s.input.audiosrc.isNone || s.input.audioEnabled) &&
    (s.video.state == .playing || s.video.pending)

def System.runEngine (s : System) : System :=
  match s.input.ntv2AV with
  | none => s
  | some av => { s with
      input := { s.input with started := true, ntv2AV := some (av.run s.captures).1 }
      captures := (av.run s.captures).2 }

def System.callStartStreams (s : System) : System :=
  if s.input.startStreams then
    match s.input.videosrc with
    | some .video =>
      if s.video.hasInput then
        if s.readyToStream then { s with videosrc := s.videosrc.startStreams }.runEngine else s
      else { s with fault := some .nullPointer }
    | some .audio => { s with fault := some .wrongKind }
    | none => { s with fault := some .nullPointer }
  else s

/-! ## The video element -/

def System.acquire (s : System) (src : Element) : System × Bool :=
  let a := s.input.acquire s.captures.nextId src (src == .audio)
  ({ s with
      input := a.1
      captures := { s.captures with nextId := s.captures.nextId + 1 } }, a.2)

/-- A failed open leaves the element in NULL, without undoing anything. -/
def System.videoOpen (s : System) (found ok : Bool) : Option System :=
  if s.video.state = .null then
    let a := s.acquire .video
    let s := { a.1 with video := { a.1.video with hasInput := a.2 } }
    if a.2 then
      match getModeRaw s.videosrc.modeEnum, s.input.ntv2AV with
      | some mode, some av =>
        let r := av.openInit mode found ok
        some { s with
          input := { s.input with
            mode := some mode
            startStreams := true
            ntv2AV := some r.1 }
          video := { s.video with state := if r.2 then .ready else .null } }
      | _, _ => none
    else some s
  else none

def System.videoReadyToPaused (s : System) (ok : Bool) : Option System :=
  if s.video.state = .ready then
    match s.input.ntv2AV with
    | none => some { s with fault := some .nullEngine }
    | some av =>
      let s := s.setEngine { av with mVideoCallback := true }
      some { s with
        videosrc := { s.videosrc with flushing := false }
        video := { s.video with state := if ok then .paused else .ready } }
  else none

def System.videoPlay (s : System) : Option System :=
  if s.video.state = .paused ∧ s.video.pending = false then
    some { s with video := { s.video with pending := true, liveRunning := true } }
  else none

def System.videoPlaying (s : System) : Option System :=
  if s.video.pending then
    let s := s.callStartStreams
    some { s with video := { s.video with state := .playing, pending := false } }
  else none

def System.videoPause (s : System) : Option System :=
  if s.video.state = .playing then
    some { s with
      input := { s.input with started := false }
      video := { s.video with state := .paused, liveRunning := false } }
  else none

/-- Leaving PAUSED takes the caps off the pad, then `stop` runs. -/
def System.videoStop (s : System) : Option System :=
  if s.video.state = .paused ∧ s.video.pending = false then
    let s := { s with caps := none, video := { s.video with state := .ready } }
    if s.video.hasInput && s.input.videoEnabled then
      match s.input.ntv2AV with
      | none => some { s with fault := some .nullEngine }
      | some av => some { s with
          input := { s.input with
            ntv2AV := some { (av.quit s.captures).1 with mVideoCallback := false }
            videoEnabled := false }
          captures := (av.quit s.captures).2
          videosrc := s.videosrc.stopDrain }
    else some { s with videosrc := s.videosrc.stopDrain }
  else none

def System.videoClose (s : System) : Option System :=
  if s.video.state = .ready then
    let s := { s with video := { s.video with state := .null } }
    if s.video.hasInput then
      some { s with
        input := s.input.closeVideo
        captures := match s.input.ntv2AV with
          | some av => av.delete s.captures
          | none => s.captures
        video := { s.video with hasInput := false } }
    else some s
  else none

def System.enableVideo (s : System) (mode : GstAjaMode) : System :=
  { s with input := { s.input with mode := some mode, videoEnabled := true } }

def System.videoStart (s : System) : Option System :=
  if s.video.liveRunning then
    if s.input.videoEnabled then some s
    else (getModeRaw s.videosrc.modeEnum).map fun mode =>
      let s := (s.enableVideo mode).callStartStreams
      { s with videosrc := s.videosrc.startReset }
  else none

section Create

variable (videoInfoFromCaps : GstCaps → GstVideoInfo)

def System.videoCreate (s : System) : Option System :=
  if s.video.liveRunning && s.input.videoEnabled then
    match s.videosrc.popFrame with
    | none => none
    | some (f, src) =>
      match f.videoBuff with
      | none => some { s with videosrc := src }
      | some b =>
        (src.negotiate videoInfoFromCaps f b s.caps).map fun r =>
          let s := { s with videosrc := r.1, caps := r.2 }
          match s.input.mode with
          | none => { s with fault := some .nullPointer }
          | some mode => { s with
              delivered := s.delivered ++
                [⟨b, r.2, mode, s.input.ntv2AV.bind (·.initMode), r.1.output mode f b⟩] }
  else none

end Create

/-! ## The audio element -/

def System.audioOpen (s : System) (found ok : Bool) : Option System :=
  if s.audio.state = .null then
    let a := s.acquire .audio
    let s := { a.1 with audio := { a.1.audio with hasInput := a.2 } }
    if a.2 then
      match s.input.ntv2AV with
      | some av =>
        let r := av.openInitAudio found ok
        some { s.setEngine r.1 with
          audioInitOn := if (av.openDevice found).2 then some av.id else s.audioInitOn
          audio := { s.audio with state := if r.2 then .ready else .null } }
      | none => none
    else some s
  else none

/-- Without a video source the transition fails, with the callback set. -/
def System.audioReadyToPaused (s : System) (ok : Bool) : Option System :=
  if s.audio.state = .ready then
    let s := { s with audiosrc := { s.audiosrc with hadSignal := false } }
    match s.input.ntv2AV with
    | none => some { s with fault := some .nullEngine }
    | some av =>
      let s := { s.setEngine { av with mAudioCallback := true } with
        audioUnset := s.audioUnset || !av.audioSetUp }
      some (if s.input.videosrc.isNone then s
        else { s with
          audiosrc := s.audiosrc.readyToPaused
          audio := { s.audio with state := if ok then .paused else .ready } })
  else none

def System.audioPlay (s : System) : Option System :=
  if s.audio.state = .paused then
    some { s with audio := { s.audio with state := .playing, liveRunning := true } }
  else none

def System.audioPause (s : System) : Option System :=
  if s.audio.state = .playing then
    some { s with audio := { s.audio with state := .paused, liveRunning := false } }
  else none

/-- `aja_capture_audio_packet_clear` on some packets: without an engine their references
stay. -/
def System.clearPackets (s : System) (packets : List AjaCaptureAudioPacket) : System :=
  if s.audio.hasInput && s.input.ntv2AV.isSome then s
  else { s with kept := s.kept ++ packets.map (·.audioBuff.buffer) }

def System.drainPackets (s : System) : System :=
  let s' := s.clearPackets s.audiosrc.currentPackets
  { s' with audiosrc := { s'.audiosrc with currentPackets := [] } }

def System.audioStop (s : System) : Option System :=
  if s.audio.state = .paused then
    let s := { s with audio := { s.audio with state := .ready } }
    let drain (s : System) : System :=
      let s := s.drainPackets
      { s with audiosrc := { s.audiosrc with hadSignal := false } }
    if s.audio.hasInput && s.input.audioEnabled then
      match s.input.ntv2AV with
      | none => some { s with fault := some .nullEngine }
      | some av =>
        let s := s.setEngine { av with mAudioCallback := false }
        some (drain { s with input := { s.input with audioEnabled := false } })
    else some (drain s)
  else none

def System.audioClose (s : System) : Option System :=
  if s.audio.state = .ready then
    let s := { s with audio := { s.audio with state := .null } }
    some (if s.audio.hasInput then
      { s with input := s.input.closeAudio, audio := { s.audio with hasInput := false } }
    else s)
  else none

def System.enableAudio (s : System) : System :=
  { s with input := { s.input with audioEnabled := true } }

/-- `gst_aja_audio_src_start`; when the caps are refused it fails with the source enabled and
the counters as they were. -/
def System.audioStart (s : System) (capsSet : Bool) : Option System :=
  if s.audio.liveRunning then
    if s.input.audioEnabled then some s
    else
      let s := s.enableAudio
      let s := if s.input.videosrc.isSome then s.callStartStreams else s
      some { s with audiosrc := if capsSet then s.audiosrc.startReset else s.audiosrc }
  else none

/-- The message about drops reads the mode of the input. -/
def System.audioCreate (s : System) : Option System :=
  if s.audio.liveRunning && s.input.audioEnabled then
    s.audiosrc.popPacket.map fun r =>
      let s := { s with audiosrc := r.2 }
      match s.input.mode with
      | some mode => { s with audiosrc := (r.2.output mode r.1).1 }.clearPackets [r.1]
      | none =>
        if r.1.audioBuff.droppedChanged then { s with fault := some .nullPointer }
        else s.clearPackets [r.1]
  else none

/-! ## Capture threads -/

/-- The engine of a running thread, while it is the engine of the input. A thread that
outlives its engine has nothing defined to do. -/
def System.engineOf (s : System) (thread : ℕ) : Option NTV2GstAV :=
  s.input.ntv2AV.filter fun av => ⟨thread, av.id⟩ ∈ s.captures.threads

def System.frame (s : System) (thread : ℕ) (env : CaptureEnv) (videoBuff : Option AjaVideoBuff) :
    Option System :=
  (s.engineOf thread).map fun av =>
    if av.mVideoCallback then
      if s.video.hasInput then
        if s.input.videoEnabled then
          match s.input.mode with
          | none => { s with fault := some .nullPointer }
          | some mode => { s with
              videosrc := (s.videosrc.gotFrame mode env videoBuff s.videosrc.flushing).1 }
        else s
      else { s with fault := some .nullPointer }
    else s

/-- The video source that a packet is dated by is whatever is in its slot. -/
def System.packet (s : System) (thread : ℕ) (audioBuff : Option AjaAudioBuff) : Option System :=
  (s.engineOf thread).bind fun av =>
    if av.mAudioCallback then
      if s.audio.hasInput then
        if s.input.audioEnabled then
          let s := { s with audioUnset := s.audioUnset || !av.audioSetUp }
          match audioBuff.filter (·.haveSignal), s.input.videosrc, s.input.mode with
          | some _, some .audio, _ => some { s with fault := some .wrongKind }
          | some _, some .video, none => some { s with fault := some .nullPointer }
          | _, videosrc, mode =>
            -- the mode is read only together with the video source
            (s.audiosrc.gotPacket (videosrc.map fun _ => s.videosrc) (mode.getD mode720p5994)
              audioBuff).map fun a => { s with audiosrc := a }
        else some s
      else some { s with fault := some .nullPointer }
    else some s

def System.threadEnds (s : System) (thread : ℕ) : Option System :=
  match s.engineOf thread with
  | some av =>
    if av.mGlobalQuit || av.mLastFrame then
      some { s with captures := { s.captures with
        threads := s.captures.threads.filter fun t => t.id != thread } }
    else none
  | none => none

/-! ## Runs -/

def System.step (videoInfoFromCaps : GstCaps → GstVideoInfo) (s : System) :
    Event → Option System
  | .videoOpen found ok => s.videoOpen found ok
  | .videoReadyToPaused ok => s.videoReadyToPaused ok
  | .videoPlay => s.videoPlay
  | .videoPlaying => s.videoPlaying
  | .videoPause => s.videoPause
  | .videoStop => s.videoStop
  | .videoClose => s.videoClose
  | .videoStart => s.videoStart
  | .videoCreate => s.videoCreate videoInfoFromCaps
  | .videoUnlock => some { s with videosrc := s.videosrc.unlock }
  | .videoUnlockStop => some { s with videosrc := s.videosrc.unlockStop }
  | .setMode modeEnum =>
    (getModeRaw modeEnum).map fun _ =>
      { s with videosrc := { s.videosrc with modeEnum := modeEnum } }
  | .audioOpen found ok => s.audioOpen found ok
  | .audioReadyToPaused ok => s.audioReadyToPaused ok
  | .audioPlay => s.audioPlay
  | .audioPause => s.audioPause
  | .audioStop => s.audioStop
  | .audioClose => s.audioClose
  | .audioStart capsSet => s.audioStart capsSet
  | .audioCreate => s.audioCreate
  | .audioUnlock => some { s with audiosrc := s.audiosrc.unlock }
  | .audioUnlockStop =>
    let s := s.drainPackets
    some { s with audiosrc := { s.audiosrc with flushing := false } }
  | .frame thread env videoBuff => s.frame thread env videoBuff
  | .packet thread audioBuff => s.packet thread audioBuff
  | .threadEnds thread => s.threadEnds thread

def System.next (videoInfoFromCaps : GstCaps → GstVideoInfo) (s : System) (e : Event) :
    Option System :=
  if s.fault.isSome then none else s.step videoInfoFromCaps e

def System.start (videosrc : GstAjaVideoSrc) (audiosrc : GstAjaAudioSrc) : System where
  input := .empty
  captures := .start
  video := .init
  audio := .init
  videosrc := videosrc
  audiosrc := audiosrc
  caps := none
  audioInitOn := none
  audioUnset := false
  kept := []
  delivered := []
  fault := none

def system (videoInfoFromCaps : GstCaps → GstVideoInfo) : Machine System Event where
  initial s := ∃ modeEnum queueSize outputStreamTime skipFirstTime channels audioQueueSize
    alignmentThreshold discontWait, s = System.start
      (.init modeEnum queueSize outputStreamTime skipFirstTime)
      (.init channels audioQueueSize alignmentThreshold discontWait)
  next := System.next videoInfoFromCaps

def newElements : System :=
  System.start (.init 15 5 false 0) (.init 2 5 0 0)

/-! ## What starting the streams does -/

def System.startsEngine (s : System) : Bool :=
  s.input.startStreams && s.input.videosrc == some .video && s.video.hasInput &&
    s.readyToStream && s.input.ntv2AV.isSome

structure StartStep (s t : System) : Prop where
  video : t.video = s.video
  audio : t.audio = s.audio
  audiosrc : t.audiosrc = s.audiosrc
  caps : t.caps = s.caps
  audioInitOn : t.audioInitOn = s.audioInitOn
  audioUnset : t.audioUnset = s.audioUnset
  kept : t.kept = s.kept
  delivered : t.delivered = s.delivered
  videosrc : t.videosrc = s.videosrc ∨ t.videosrc = s.videosrc.startStreams
  engine : (s.startsEngine = false ∧ t.input = s.input ∧ t.captures = s.captures) ∨
    (s.startsEngine = true ∧ t.fault = s.fault ∧ ∃ av, s.input.ntv2AV = some av ∧
      t.input = { s.input with started := true, ntv2AV := some (av.run s.captures).1 } ∧
      t.captures = (av.run s.captures).2)
  fault : t.fault = s.fault ∨ t.fault = some .nullPointer ∨
    (t.fault = some .wrongKind ∧ s.input.videosrc = some .audio)

theorem start_streams_step (s : System) : StartStep s s.callStartStreams := by
  unfold System.callStartStreams
  cases hstart : s.input.startStreams with
  | false => constructor <;> simp [System.startsEngine, hstart]
  | true =>
    cases hslot : s.input.videosrc with
    | none => constructor <;> simp [System.startsEngine, hslot]
    | some e =>
      cases e with
      | audio => constructor <;> simp [System.startsEngine, hslot]
      | video =>
        cases hinput : s.video.hasInput with
        | false => constructor <;> simp [System.startsEngine, hinput]
        | true =>
          cases hready : s.readyToStream with
          | false => constructor <;> simp [System.startsEngine, hready]
          | true =>
            cases hav : s.input.ntv2AV with
            | none => constructor <;> simp [System.startsEngine, System.runEngine, hav]
            | some av =>
              constructor <;>
                simp [System.startsEngine, System.runEngine, hav, hstart, hslot, hinput, hready]

theorem StartStep.rest {s t : System} (h : StartStep s t) :
    t.input.videoEnabled = s.input.videoEnabled ∧ t.input.mode = s.input.mode ∧
      t.input.audiosrc = s.input.audiosrc ∧ t.input.audioEnabled = s.input.audioEnabled ∧
      t.input.ntv2AV.isSome = s.input.ntv2AV.isSome := by
  rcases h.engine with ⟨-, hi, -⟩ | ⟨-, -, av, hav, hi, -⟩ <;> simp [hi]
  simp [hav]

end AjaInputSystem
