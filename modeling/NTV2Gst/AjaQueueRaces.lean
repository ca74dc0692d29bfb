import NTV2Gst.AjaBufferOwnership

/-!
# Calls on the queues outside the lock

All accesses to the queues hold `src->lock`, except that the capture thread pushes the marker
of a signal change without it, and that `stop` of the audio source empties its queue without
it while the capture thread may still be in `got_packet`. Such a call changes several fields
of the queue, so it is entered in one step and returns in another. The drain in `stop` of the
video source meets nobody: the worker has ended and the base class has stopped `create`.
-/
namespace AjaQueueRaces

open TransitionRuns GstAjaModes AjaVideoSrc AjaAudioSrc AjaCapturePipeline AjaPipelineSteps
  AjaBufferOwnership

/-! ## What a call leaves behind -/

/-- The content of a queue after a call without the lock, from what was there when it was
entered and what other threads have left there since. -/
structure UnlockedCalls where
  pushTail (before now : List AjaCaptureVideoFrame) (f : AjaCaptureVideoFrame) :
    List AjaCaptureVideoFrame
  popHead (before now : List AjaCaptureAudioPacket) : List AjaCaptureAudioPacket

/-- `GstQueueArray` is a queue; about calls that overlap it promises nothing. -/
structure UnlockedCalls.Queue (c : UnlockedCalls) : Prop where
  push : ∀ q f, c.pushTail q q f = q ++ [f]
  pop : ∀ p q, c.popHead (p :: q) (p :: q) = q

/-- `pushing` is the step that pushes a marker, with the queue as it was on entry; `popping` is
the queue as `stop` of the audio source found it. -/
structure Unlocked where
  pipe : Pipeline
  pushing : Option (Event × List AjaCaptureVideoFrame)
  popping : Option (AjaCaptureAudioPacket × List AjaCaptureAudioPacket)
  deriving DecidableEq, Repr

inductive UnlockedEvent where
  | step (e : Event)
  | enterPush (e : Event)
  | leavePush
  | enterPop
  | leavePop
  deriving DecidableEq, Repr

def ofWorker : Event → Bool
  | .status _ | .capture _ | .nullVideo | .nullAudio | .videoCallback | .gotFrame _
  | .queueFrame | .audioCallback | .gotPacket | .queuePacket | .workerEnds => true
  | _ => false

def markerOf (s : Pipeline) (e : Event) : Option AjaCaptureVideoFrame :=
  if s.videosrc.flushing then none
  else match e, s.pc with
    | .gotFrame _, .gotFrame v _ => (s.videosrc.change (some v)).map marker
    | .nullVideo, .idle =>
      if s.videoCallback && s.videoEnabled then (s.videosrc.change none).map marker else none
    | _, _ => none

def withFlushing (s : Pipeline) (flushing : Bool) : Pipeline :=
  { s with videosrc := { s.videosrc with flushing := flushing } }

def withFrames (s : Pipeline) (q : List AjaCaptureVideoFrame) : Pipeline :=
  { s with videosrc := { s.videosrc with currentFrames := q } }

section Steps

variable (calls : UnlockedCalls) (videoInfoFromCaps : GstCaps → GstVideoInfo)

/-- A step that makes no call without the lock, while its thread is not within one. -/
def Unlocked.plainStep (s : Unlocked) (e : Event) : Option Unlocked :=
  if (s.pushing.isSome && ofWorker e) || (markerOf s.pipe e).isSome ||
      (e == .audioStopPop && !s.pipe.audiosrc.currentPackets.isEmpty) then none
  else (s.pipe.next videoInfoFromCaps e).map fun pipe => { s with pipe := pipe }

/-- The test of `flushing` is behind the call by now. -/
def Unlocked.leavePush (s : Unlocked) : Option Unlocked :=
  s.pushing.bind fun p =>
    let entered := withFlushing s.pipe false
    (markerOf entered p.1).bind fun f => (entered.next videoInfoFromCaps p.1).map fun t =>
      { s with
        pushing := none
        pipe := withFrames (withFlushing t s.pipe.videosrc.flushing)
          (calls.pushTail p.2 s.pipe.videosrc.currentFrames f) }

def Unlocked.leavePop (s : Unlocked) : Option Unlocked :=
  s.popping.map fun p =>
    { s with
      popping := none
      pipe := { s.pipe with
        audiosrc := { s.pipe.audiosrc with
          currentPackets := calls.popHead (p.1 :: p.2) s.pipe.audiosrc.currentPackets }
        audio := s.pipe.audio.release .stop [p.1.audioBuff.buffer] } }

def Unlocked.next (s : Unlocked) : UnlockedEvent → Option Unlocked
  | .step e => s.plainStep videoInfoFromCaps e
  | .enterPush e =>
    if s.pushing.isNone && (markerOf s.pipe e).isSome then
      some { s with pushing := some (e, s.pipe.videosrc.currentFrames) }
    else none
  | .leavePush => s.leavePush calls videoInfoFromCaps
  | .enterPop =>
    match s.popping, s.pipe.audiosrc.currentPackets with
    | none, p :: q => some { s with popping := some (p, q) }
    | _, _ => none
  | .leavePop => s.leavePop calls

def unlocked : Machine Unlocked UnlockedEvent where
  initial s := Started s.pipe ∧ s.pushing = none ∧ s.popping = none
  next := Unlocked.next calls videoInfoFromCaps

end Steps

/-! ## Overlap -/

/-- The sections under the lock in which other threads than the one that pushes markers change
the queue of frames. -/
def changesFrames (s : Pipeline) : Event → Bool
  | .videoPop => true
  | .videoUnlockStop | .videoStop => !s.videosrc.currentFrames.isEmpty
  | _ => false

def changesPackets (s : Pipeline) : Event → Bool
  | .queuePacket => !s.audiosrc.flushing
  | .audioPop => true
  | .audioUnlockStop => !s.audiosrc.currentPackets.isEmpty
  | _ => false

/-- Nobody changes a queue while a call without the lock is under way on it. -/
def Apart (s : Unlocked) : UnlockedEvent → Prop
  | .step e => (s.pushing.isSome = true → changesFrames s.pipe e = false) ∧
      (s.popping.isSome = true → changesPackets s.pipe e = false)
  | _ => True

instance (s : Unlocked) (e : UnlockedEvent) : Decidable (Apart s e) := by
  unfold Apart
  split <;> infer_instance

/-! ## Runs -/

/-- The pipeline is sound, and while nobody interferes a call returns to the queue that it was
entered with. -/
structure Sound (s : Unlocked) : Prop where
  pipe : Invariant s.pipe
  pushing : ∀ p ∈ s.pushing, s.pipe.videosrc.currentFrames = p.2
  popping : ∀ p ∈ s.popping, s.pipe.audiosrc.currentPackets = p.1 :: p.2

variable {calls : UnlockedCalls} {videoInfoFromCaps : GstCaps → GstVideoInfo} {s t : Unlocked}
  {a b : Pipeline}

theorem plain_step_cases {e : Event} (h : s.plainStep videoInfoFromCaps e = some t) :
    (s.pushing.isSome = true → ofWorker e = false) ∧ markerOf s.pipe e = none ∧
      (e = .audioStopPop → s.pipe.audiosrc.currentPackets = []) ∧
      ∃ pipe, s.pipe.next videoInfoFromCaps e = some pipe ∧ t = { s with pipe := pipe } := by
  unfold Unlocked.plainStep at h
  split at h
  · cases h
  · rename_i hno
    obtain ⟨pipe, hn, rfl⟩ := Option.map_eq_some_iff.mp h
    simp only [Bool.or_eq_true, Bool.and_eq_true, not_or, not_and, Bool.not_eq_true,
      Option.isSome_eq_false_iff, Option.isNone_iff_eq_none, beq_iff_eq, Bool.not_eq_true',
      Bool.not_eq_false, List.isEmpty_iff] at hno
    exact ⟨hno.1.1, hno.1.2, hno.2, pipe, hn, rfl⟩

theorem frames_kept {e : Event} (h : a.next videoInfoFromCaps e = some b)
    (hw : ofWorker e = false) (hc : changesFrames a e = false) :
    b.videosrc.currentFrames = a.videosrc.currentFrames := by
  cases e with
  | videoPop => cases hc
  | videoReturn =>
    obtain ⟨f, v, -, rfl⟩ := video_return_eq h
    rfl
  | videoUnlock | videoStartReset => cases h; rfl
  | videoUnlockStop =>
    cases h
    exact (List.isEmpty_iff.mp (by simpa [changesFrames] using hc)).symm
  | videoStop =>
    obtain ⟨-, rfl⟩ := video_stop_eq h
    exact (List.isEmpty_iff.mp (by simpa [changesFrames] using hc)).symm
  | audioPop | audioReturn | audioUnlock | audioUnlockStop | audioReadyToPaused | audioEnable
  | audioStartReset | audioStop | audioStopPop => rw [(video_kept rfl h).videosrc]
  | _ => cases hw

theorem packets_kept {e : Event} (h : a.next videoInfoFromCaps e = some b)
    (hp : e = .audioStopPop → a.audiosrc.currentPackets = [])
    (hc : changesPackets a e = false) :
    b.audiosrc.currentPackets = a.audiosrc.currentPackets := by
  rcases side_cases e with ⟨ac, rfl⟩ | ⟨d, rfl⟩ | he | he
  · obtain ⟨-, rfl⟩ := status_eq h
    rfl
  · obtain ⟨-, rfl⟩ := capture_eq h
    rfl
  · cases e with
    | audioPop => cases hc
    | workerEnds => rw [(audio_kept rfl h).audiosrc]
    | nullAudio => obtain ⟨-, rfl | rfl⟩ := null_audio_cases h <;> rfl
    | audioCallback => obtain ⟨x, verdict, -, ⟨-, rfl⟩ | ⟨-, rfl⟩⟩ := audio_callback_cases h <;> rfl
    | gotPacket =>
      obtain ⟨x, memory, -, pc, audio, rfl, -⟩ := got_packet_cases h
      rfl
    | queuePacket =>
      obtain ⟨x, ts, st, -, ⟨-, rfl⟩ | ⟨hf, rfl⟩⟩ := queue_packet_cases h
      · rfl
      · simp [changesPackets, hf] at hc
    | audioReturn =>
      obtain ⟨p, memory, offset, -, rfl⟩ := audio_return_eq h
      rfl
    | audioStopPop =>
      cases h
      obtain ⟨-, hs⟩ | ⟨p, q, hq, -⟩ := audio_stop_pop_cases a
      · rw [hs]
      · rw [hp rfl] at hq; cases hq
    | audioUnlock | audioReadyToPaused | audioEnable | audioStartReset | audioStop =>
      cases h
      rfl
    | audioUnlockStop =>
      cases h
      exact (List.isEmpty_iff.mp (by simpa [changesPackets] using hc)).symm
    | _ => cases he
  · rw [(audio_kept he h).audiosrc]

theorem frames_with_marker {e : Event} {f : AjaCaptureVideoFrame} (hm : markerOf a e = some f)
    (h : a.next videoInfoFromCaps e = some b) :
    b.videosrc.currentFrames = a.videosrc.currentFrames ++ [f] := by
  unfold markerOf at hm
  split at hm
  · cases hm
  rename_i hflush
  split at hm
  · rename_i env v x hpc
    obtain ⟨v', x', verdict, hpc', -, pc, video, rfl, -⟩ := got_frame_cases h
    cases hpc.symm.trans hpc'
    have hframes := prepare_frames a.videosrc a.mode env (some v)
    obtain ⟨c, hc, rfl⟩ := Option.map_eq_some_iff.mp hm
    rw [if_neg hflush, hc] at hframes
    exact hframes
  · rename_i hpc
    split at hm
    · rename_i hon
      have hframes := prepare_frames a.videosrc a.mode ⟨⟨0, 0, 0⟩, none⟩ none
      obtain ⟨c, hc, rfl⟩ := Option.map_eq_some_iff.mp hm
      rw [if_neg hflush, hc] at hframes
      simp only [Pipeline.next, Pipeline.nullVideo, hpc, hon, if_true] at h
      cases h
      exact hframes
    · cases hm
  · cases hm

theorem marker_side {e : Event} {f : AjaCaptureVideoFrame} (hm : markerOf a e = some f) :
    onVideoSide e = true := by
  unfold markerOf at hm
  split at hm
  · cases hm
  · split at hm
    · rfl
    · rfl
    · cases hm

theorem invariant_flushing (h : Invariant a) (flushing : Bool) :
    Invariant (withFlushing a flushing) :=
  ⟨⟨h.fresh.video, h.fresh.audio⟩, h.video, h.audio, h.video_queue_size, h.audio_queue_size⟩

theorem sound_step {e : UnlockedEvent} (hq : calls.Queue) (h : Sound s) (ha : Apart s e)
    (hn : s.next calls videoInfoFromCaps e = some t) : Sound t := by
  cases e with
  | step e =>
    obtain ⟨hwork, -, hpop, pipe, hstep, rfl⟩ := plain_step_cases hn
    refine ⟨invariant_step h.pipe hstep, ?_, ?_⟩
    · intro p hp
      have hsome : s.pushing.isSome = true := Option.isSome_of_mem hp
      exact (frames_kept hstep (hwork hsome) (ha.1 hsome)).trans (h.pushing p hp)
    · intro p hp
      have hsome : s.popping.isSome = true := Option.isSome_of_mem hp
      exact (packets_kept hstep hpop (ha.2 hsome)).trans (h.popping p hp)
  | enterPush e =>
    simp only [Unlocked.next] at hn
    split at hn <;> cases hn
    refine ⟨h.pipe, ?_, h.popping⟩
    intro p hp
    cases hp
    rfl
  | leavePush =>
    obtain ⟨p, hp, hn⟩ := Option.bind_eq_some_iff.mp hn
    obtain ⟨f, hf, hn⟩ := Option.bind_eq_some_iff.mp hn
    obtain ⟨u, hu, rfl⟩ := Option.map_eq_some_iff.mp hn
    have hinv : Invariant u := invariant_step (invariant_flushing h.pipe false) hu
    have hframes : calls.pushTail p.2 s.pipe.videosrc.currentFrames f =
        u.videosrc.currentFrames := by
      rw [h.pushing p hp, hq.push, frames_with_marker hf hu]
      exact congrArg (· ++ [f]) (h.pushing p hp).symm
    rw [hframes]
    refine ⟨invariant_flushing hinv s.pipe.videosrc.flushing, by simp, ?_⟩
    intro p' hp'
    have hkept := (audio_kept (marker_side hf) hu).audiosrc
    exact (congrArg GstAjaAudioSrc.currentPackets hkept).trans (h.popping p' hp')
  | enterPop =>
    simp only [Unlocked.next] at hn
    split at hn
    · rename_i hpackets
      cases hn
      refine ⟨h.pipe, h.pushing, ?_⟩
      intro p hp
      cases hp
      exact hpackets
    · cases hn
  | leavePop =>
    obtain ⟨p, hp, rfl⟩ := Option.map_eq_some_iff.mp hn
    have hpackets := h.popping p hp
    have hstop : s.pipe.next videoInfoFromCaps .audioStopPop = some { s.pipe with
        audiosrc := { s.pipe.audiosrc with
          currentPackets := calls.popHead (p.1 :: p.2) s.pipe.audiosrc.currentPackets }
        audio := s.pipe.audio.release .stop [p.1.audioBuff.buffer] } := by
      simp only [Pipeline.next, Pipeline.audioStopPop, hpackets, hq.pop]
    exact ⟨invariant_step h.pipe hstop, h.pushing, by simp⟩

theorem sound (hq : calls.Queue)
    (h : ReachableWhile (unlocked calls videoInfoFromCaps) Apart s) : Sound s := by
  apply h.invariant
  · rintro i ⟨hi, hpush, hpop⟩
    exact ⟨invariant_started hi, by simp [hpush], by simp [hpop]⟩
  · intro a e b hi ha hn
    exact sound_step hq hi ha hn

end AjaQueueRaces
