import NTV2Gst.GstAjaModes

/-!
# The input that a video and an audio source share

One channel of a device: the capture engine, the mode and one slot for an element of
each kind. Of the engine only what its life cycle turns on is kept; an engine, a capture
thread and a pair of buffer pools are told apart by a number that is never used again.
-/
namespace AjaInput

open GstAjaModes

/-- `initMode` is the mode of the last `Init` that succeeded; the two buffer pools are
set up and freed together. -/
structure NTV2GstAV where
  id : ℕ
  deviceOpen : Bool
  initMode : Option GstAjaMode
  audioSetUp : Bool
  mVideoCallback : Bool
  mAudioCallback : Bool
  mLastFrame : Bool
  mGlobalQuit : Bool
  mStarted : Bool
  mACInputThread : Option ℕ
  mBufferPools : Option ℕ
  deriving DecidableEq, Repr

def NTV2GstAV.new (id : ℕ) : NTV2GstAV where
  id := id
  deviceOpen := false
  initMode := none
  audioSetUp := false
  mVideoCallback := false
  mAudioCallback := false
  mLastFrame := false
  mGlobalQuit := false
  mStarted := false
  mACInputThread := none
  mBufferPools := none

def NTV2GstAV.openDevice (av : NTV2GstAV) (found : Bool) : NTV2GstAV × Bool :=
  if av.deviceOpen then (av, true) else ({ av with deviceOpen := found }, found)

def NTV2GstAV.init (av : NTV2GstAV) (mode : GstAjaMode) (ok : Bool) : NTV2GstAV × Bool :=
  (if ok then { av with initMode := some mode } else av, ok)

def NTV2GstAV.initAudio (av : NTV2GstAV) (ok : Bool) : NTV2GstAV × Bool :=
  ({ av with audioSetUp := ok }, ok)

/-- `Open` and, on a device that answered, `Init`: the calls of the video source. -/
def NTV2GstAV.openInit (av : NTV2GstAV) (mode : GstAjaMode) (found ok : Bool) :
    NTV2GstAV × Bool :=
  let o := av.openDevice found
  if o.2 then o.1.init mode ok else o

def NTV2GstAV.openInitAudio (av : NTV2GstAV) (found ok : Bool) : NTV2GstAV × Bool :=
  let o := av.openDevice found
  if o.2 then o.1.initAudio ok else o

/-! ## Capture threads -/

structure RunEntry where
  threadNull : Bool
  poolsNull : Bool
  running : ℕ
  deriving DecidableEq, Repr

structure CaptureThread where
  id : ℕ
  engine : ℕ
  deriving DecidableEq, Repr

structure Captures where
  threads : List CaptureThread
  pools : List ℕ
  nextId : ℕ
  runs : List RunEntry
  deriving DecidableEq, Repr

def Captures.start : Captures := ⟨[], [], 0, []⟩

/-- `Run` sets up new pools and a new thread whether or not there are any. -/
def NTV2GstAV.run (av : NTV2GstAV) (c : Captures) : NTV2GstAV × Captures :=
  ({ av with
      mLastFrame := false
      mGlobalQuit := false
      mStarted := true
      mACInputThread := some c.nextId
      mBufferPools := some c.nextId },
    { threads := c.threads ++ [⟨c.nextId, av.id⟩]
      pools := c.pools ++ [c.nextId]
      nextId := c.nextId + 1
      runs := c.runs ++
        [⟨av.mACInputThread.isNone, av.mBufferPools.isNone, c.threads.length⟩] })

/-- `Quit`, once it has waited for the thread that the engine knows of. -/
def NTV2GstAV.quit (av : NTV2GstAV) (c : Captures) : NTV2GstAV × Captures :=
  ({ av with
      mLastFrame := av.mLastFrame || !av.mGlobalQuit
      mGlobalQuit := true
      mStarted := false
      mACInputThread := none
      mBufferPools := none },
    { c with
      threads := c.threads.filter fun t => some t.id != av.mACInputThread
      pools := c.pools.filter fun p => some p != av.mBufferPools })

/-- `Quit` and then the destructor, which quits once more. -/
def NTV2GstAV.delete (av : NTV2GstAV) (c : Captures) : Captures :=
  let r := av.quit c
  (r.1.quit r.2).2

structure SameRun (a b : NTV2GstAV) : Prop where
  id : b.id = a.id
  last_frame : b.mLastFrame = a.mLastFrame
  global_quit : b.mGlobalQuit = a.mGlobalQuit
  started : b.mStarted = a.mStarted
  thread : b.mACInputThread = a.mACInputThread
  pools : b.mBufferPools = a.mBufferPools

theorem SameRun.refl (av : NTV2GstAV) : SameRun av av := ⟨rfl, rfl, rfl, rfl, rfl, rfl⟩

theorem open_init_same_run (av : NTV2GstAV) (mode : GstAjaMode) (found ok : Bool) :
    SameRun av (av.openInit mode found ok).1 := by
  cases ho : av.deviceOpen <;> cases found <;> cases ok <;> constructor <;>
    simp [NTV2GstAV.openInit, NTV2GstAV.openDevice, NTV2GstAV.init, ho]

theorem open_init_audio_same_run (av : NTV2GstAV) (found ok : Bool) :
    SameRun av (av.openInitAudio found ok).1 := by
  cases ho : av.deviceOpen <;> cases found <;> constructor <;>
    simp [NTV2GstAV.openInitAudio, NTV2GstAV.openDevice, NTV2GstAV.initAudio, ho]

/-! ## Input -/

structure GstAjaInput (E : Type*) where
  ntv2AV : Option NTV2GstAV
  mode : Option GstAjaMode
  started : Bool
  audiosrc : Option E
  audioEnabled : Bool
  videosrc : Option E
  videoEnabled : Bool
  startStreams : Bool
  deriving DecidableEq, Repr

variable {E : Type*}

def GstAjaInput.empty : GstAjaInput E := ⟨none, none, false, none, false, none, false, false⟩

def GstAjaInput.withEngine (input : GstAjaInput E) (fresh : ℕ) : GstAjaInput E :=
  match input.ntv2AV with
  | none => { input with ntv2AV := some (.new fresh) }
  | some _ => input

/-- The locked part of `gst_aja_acquire_input`. The slot is chosen as the source does: an
audio element that finds its slot taken goes on to the other one. -/
def GstAjaInput.acquire (input : GstAjaInput E) (fresh : ℕ) (src : E) (isAudio : Bool) :
    GstAjaInput E × Bool :=
  let input := input.withEngine fresh
  if isAudio && input.audiosrc.isNone then ({ input with audiosrc := some src }, true)
  else if input.videosrc.isNone then ({ input with videosrc := some src }, true)
  else (input, false)

def GstAjaInput.closeVideo (input : GstAjaInput E) : GstAjaInput E :=
  { input with
    ntv2AV := none
    mode := none
    videoEnabled := false
    videosrc := none
    startStreams := false }

def GstAjaInput.closeAudio (input : GstAjaInput E) : GstAjaInput E :=
  { input with audioEnabled := false, audiosrc := none }

def GstAjaInput.slot (input : GstAjaInput E) (isAudio : Bool) : Option E :=
  if isAudio then input.audiosrc else input.videosrc

theorem acquire_engine (input : GstAjaInput E) (fresh : ℕ) (src : E) (isAudio : Bool) :
    (input.acquire fresh src isAudio).1.ntv2AV = some (input.ntv2AV.getD (.new fresh)) ∧
      (input.acquire fresh src isAudio).1.mode = input.mode ∧
      (input.acquire fresh src isAudio).1.audioEnabled = input.audioEnabled ∧
      (input.acquire fresh src isAudio).1.videoEnabled = input.videoEnabled := by
  unfold GstAjaInput.acquire GstAjaInput.withEngine
  cases h : input.ntv2AV <;> simp only [Option.getD_none, Option.getD_some] <;>
    repeat' split
  all_goals exact ⟨by simp_all, rfl, rfl, rfl⟩

theorem with_engine_slots (input : GstAjaInput E) (fresh : ℕ) :
    (input.withEngine fresh).audiosrc = input.audiosrc ∧
      (input.withEngine fresh).videosrc = input.videosrc := by
  unfold GstAjaInput.withEngine
  split <;> exact ⟨rfl, rfl⟩

/-- What `acquire` does to the slots: it takes the slot of the kind when that is free,
gives an audio element the slot of the video source when only that is free, and refuses
otherwise. -/
theorem acquire_slots (input : GstAjaInput E) (fresh : ℕ) (src : E) (isAudio : Bool) :
    (input.slot isAudio = none ∧ (input.acquire fresh src isAudio).2 = true ∧
      (input.acquire fresh src isAudio).1.slot isAudio = some src ∧
      (input.acquire fresh src isAudio).1.slot (!isAudio) = input.slot (!isAudio)) ∨
    (isAudio = true ∧ input.audiosrc.isSome = true ∧ input.videosrc = none ∧
      (input.acquire fresh src isAudio).2 = true ∧
      (input.acquire fresh src isAudio).1.videosrc = some src ∧
      (input.acquire fresh src isAudio).1.audiosrc = input.audiosrc) ∨
    ((input.slot isAudio).isSome = true ∧ (isAudio = true → input.videosrc ≠ none) ∧
      (input.acquire fresh src isAudio).2 = false ∧
      (input.acquire fresh src isAudio).1.audiosrc = input.audiosrc ∧
      (input.acquire fresh src isAudio).1.videosrc = input.videosrc) := by
  obtain ⟨ha, hv⟩ := with_engine_slots input fresh
  unfold GstAjaInput.acquire GstAjaInput.slot
  cases isAudio <;> cases hA : input.audiosrc <;> cases hV : input.videosrc <;>
    simp [ha, hv, hA, hV]

end AjaInput
