import NTV2Gst.AjaPipelineSteps
import NTV2Gst.GapMarking

/-!
# Discontinuities

Both streams of the pipeline are read as streams of numbered items with marks. The
steps of the capture thread and of `create` are moves of such a stream, careful ones
as long as overflow leaves a marked item behind.
-/
namespace AjaDiscontinuity

open TransitionRuns DropOldest GapMarking GstAjaModes AjaVideoSrc AjaAudioSrc
  AjaCapturePipeline AjaPipelineSteps

def videoItem (v : AjaVideoBuff) (mark : Bool) : Item :=
  ⟨v.framesProcessed + v.framesDropped, mark⟩

def videoItems (q : List AjaCaptureVideoFrame) : List Item :=
  q.filterMap fun f => f.videoBuff.map fun b => videoItem b (f.firstBuffer || b.droppedChanged)

def audioItem (a : AjaAudioBuff) (mark : Bool) : Item :=
  ⟨a.framesProcessed + a.framesDropped, mark⟩

def audioItems (q : List AjaCaptureAudioPacket) : List Item :=
  q.map fun p => audioItem p.audioBuff p.marked

def deliveries (ds : List Delivery) : List Item := ds.map fun d => ⟨d.frame, d.discont⟩

def videoHand : WorkerPc → Option Item
  | .videoCallback v _ | .gotFrame v _ | .queueFrame v _ _ _ _ =>
    some (videoItem v v.droppedChanged)
  | _ => none

def audioHand : WorkerPc → Option Item
  | .videoCallback _ a | .gotFrame _ a | .queueFrame _ a _ _ _ | .audioCallback a _
  | .gotPacket a _ | .queuePacket a _ _ => some (audioItem a a.droppedChanged)
  | _ => none

def videoLive (s : Pipeline) : Bool :=
  match s.pc with
  | .queueFrame _ _ _ _ hadSignal => hadSignal
  | _ => decide (s.videosrc.signalState = .available)

def takenFrame (s : Pipeline) : List Item :=
  (s.videoTaken.map fun r => videoItem r.2 (r.1.firstBuffer || r.2.droppedChanged)).toList

def takenPacket (s : Pipeline) : List Item :=
  (s.audioTaken.map fun p => audioItem p.audioBuff p.marked).toList

def videoStream (s : Pipeline) : Stream where
  out := deliveries s.video.delivered ++ takenFrame s
  queue := videoItems s.videosrc.currentFrames
  hand := videoHand s.pc
  position := s.worker.processedFrames + s.worker.droppedFrames
  jumped := s.worker.droppedFramesNow
  live := videoLive s

def audioStream (s : Pipeline) : Stream where
  out := deliveries s.audio.delivered ++ takenPacket s
  queue := audioItems s.audiosrc.currentPackets
  hand := audioHand s.pc
  position := s.worker.processedFrames + s.worker.droppedFrames
  jumped := s.worker.droppedFramesNow
  live := s.audiosrc.hadSignal

/-- Two buffers delivered one after the other: consecutive, or the second is marked. -/
def GapsMarked (ds : List Delivery) : Prop :=
  ds.IsChain fun x y => y.frame = x.frame + 1 ∨ y.discont = true

/-- The capture thread and the two `create` functions, without flushing or stopping. -/
def CaptureAndCreate (s : Pipeline) (e : Event) : Prop :=
  s.videosrc.flushing = false ∧ s.audiosrc.flushing = false ∧
    match e with
    | .videoUnlock | .videoUnlockStop | .videoStop | .audioUnlock | .audioUnlockStop
    | .audioReadyToPaused | .audioStop | .audioStopPop => False
    | _ => True

/-- Overflow in the video queue: nothing is dropped, or `create` took no frame yet, or
the frame it takes next is marked. -/
def FrameOverflowMarked (s : Pipeline) : Prop :=
  match s.pc with
  | .queueFrame v _ _ _ hadSignal =>
    let q := s.videosrc.currentFrames
    videoItems (popped s.videosrc.queueSize q) = [] ∨
      deliveries s.video.delivered ++ takenFrame s = [] ∨
      ((videoItems (left s.videosrc.queueSize q) ++
        [videoItem v (v.droppedChanged || !hadSignal)]).head?.any (·.mark)) = true
  | _ => True

def PacketOverflowMarked (s : Pipeline) : Prop :=
  match s.pc with
  | .queuePacket a _ _ =>
    let q := s.audiosrc.currentPackets
    audioItems (popped s.audiosrc.queueSize q) = [] ∨
      deliveries s.audio.delivered ++ takenPacket s = [] ∨
      ((audioItems (left s.audiosrc.queueSize q) ++
        [audioItem a (a.droppedChanged || !s.audiosrc.hadSignal)]).head?.any (·.mark)) = true
  | _ => True

/-- A frame is only skipped at the beginning, before one was queued. -/
def FrameSkippedEarly (s : Pipeline) (env : CaptureEnv) : Prop :=
  match s.pc with
  | .gotFrame v _ => s.videosrc.skipsFrame s.mode env v = true →
      (videoStream s).out = [] ∧ (videoStream s).queue = []
  | _ => True

def PacketSkippedEarly (s : Pipeline) : Prop :=
  match s.pc with
  | .gotPacket a _ =>
    a.haveSignal = true ∧ s.videosrc.skips (s.videosrc.streamTime s.mode a.frameNumber) = true →
      (audioStream s).out = [] ∧ (audioStream s).queue = []
  | _ => True

def LeavesMarks (s : Pipeline) (e : Event) : Prop :=
  CaptureAndCreate s e ∧
    match e with
    | .gotFrame env => FrameSkippedEarly s env
    | .queueFrame => FrameOverflowMarked s
    | .gotPacket => PacketSkippedEarly s
    | .queuePacket => PacketOverflowMarked s
    | _ => True

/-! ## Items of a queue -/

theorem video_items_append (p q : List AjaCaptureVideoFrame) :
    videoItems (p ++ q) = videoItems p ++ videoItems q := by simp [videoItems]

theorem video_items_markers (cs : List SignalChange) : videoItems (cs.map marker) = [] := by
  simp [videoItems, marker, List.filterMap_eq_nil_iff]

theorem video_items_write_back (c : SignalChange) (q : List AjaCaptureVideoFrame) :
    videoItems (writeBack c q) = videoItems q := by
  cases q with
  | nil => rfl
  | cons f q =>
    by_cases hc : c = .noChange <;> simp [writeBack, videoItems, List.filterMap_cons, hc]

theorem video_items_prepare (src : GstAjaVideoSrc) (mode : GstAjaMode) (env : CaptureEnv)
    (videoBuff : Option AjaVideoBuff) :
    videoItems (src.gotFramePrepare mode env videoBuff).1.currentFrames =
      videoItems src.currentFrames := by
  rw [prepare_frames, video_items_append]
  split
  · simp [videoItems]
  · rw [video_items_markers, List.append_nil]

theorem video_items_lose_signal (src : GstAjaVideoSrc) :
    videoItems src.loseSignal.currentFrames = videoItems src.currentFrames := by
  have h := video_items_prepare src mode720p5994 ⟨⟨0, 0, 0⟩, none⟩ none
  exact h

theorem video_items_queue_frame (src : GstAjaVideoSrc) (v : AjaVideoBuff) (ts st : ℕ)
    (had : Bool) :
    videoItems (src.queueFrame v ts st had).currentFrames =
      videoItems (left src.queueSize src.currentFrames) ++
        [videoItem v (v.droppedChanged || !had || src.skippedBefore
          (withBuffer (popped src.queueSize src.currentFrames)))] := by
  simp only [GstAjaVideoSrc.queueFrame, video_items_append, video_items_write_back]
  simp [videoItems, videoItem, Bool.or_comm, Bool.or_left_comm, Bool.or_assoc]

theorem audio_items_queue_packet (src : GstAjaAudioSrc) (a : AjaAudioBuff) (ts st : ℕ) :
    audioItems (src.queuePacket a ts st).currentPackets =
      audioItems (left src.queueSize src.currentPackets) ++
        [audioItem a (a.droppedChanged || !src.hadSignal || src.skippedBefore
          (popped src.queueSize src.currentPackets))] := by
  simp [GstAjaAudioSrc.queuePacket, audioItems, audioItem, AjaCaptureAudioPacket.marked,
    Bool.or_left_comm, Bool.or_assoc]

/-! ## The video stream -/

variable {videoInfoFromCaps : GstCaps → GstVideoInfo} {s t : Pipeline} {e : Event}

/-- What the streams rely on besides: the callbacks stay, a prepared frame had signal,
and while the audio element is not there nothing of it is around. -/
structure Attached (s : Pipeline) : Prop where
  video : s.videoCallback && s.videoEnabled
  prepared : ∀ v a ts st had, s.pc = .queueFrame v a ts st had →
    s.videosrc.signalState = .available
  no_audio : (s.audioCallback && s.audioEnabled) = false →
    (audioStream s).out = [] ∧ (audioStream s).queue = [] ∧
      (∀ a verdict, s.pc ≠ .gotPacket a verdict) ∧ ∀ a ts st, s.pc ≠ .queuePacket a ts st

theorem worker_jump (w : ACInputWorker) (ac : ℕ) :
    (w.countDrops ac = w) ∨ ∃ missing, (w.countDrops ac).processedFrames = w.processedFrames ∧
      (w.countDrops ac).droppedFrames = w.droppedFrames + missing ∧
      (w.countDrops ac).droppedFramesNow = true := by
  unfold ACInputWorker.countDrops
  split
  · exact Or.inl rfl
  · exact Or.inr ⟨_, rfl, rfl, rfl⟩

theorem status_steps {ac : ℕ} (h : s.next videoInfoFromCaps (.status ac) = some t) :
    Steps (videoStream s) (videoStream t) ∧ Steps (audioStream s) (audioStream t) := by
  obtain ⟨hpc, rfl⟩ := status_eq h
  rcases worker_jump s.worker ac with hw | ⟨missing, h₁, h₂, h₃⟩
  · rw [hw]
    exact ⟨.refl _, .refl _⟩
  · constructor
    · refine .one (e := .jump missing) trivial ?_
      simp [Stream.move, videoStream, videoHand, takenFrame, videoLive, hpc, h₁, h₂, h₃,
        Nat.add_assoc]
    · refine .one (e := .jump missing) trivial ?_
      simp [Stream.move, audioStream, audioHand, takenPacket, hpc, h₁, h₂, h₃, Nat.add_assoc]

theorem capture_steps {d : DeviceFrame} (h : s.capture d = some t) :
    Steps (videoStream s) (videoStream t) ∧ Steps (audioStream s) (audioStream t) := by
  obtain ⟨hpc, rfl⟩ := capture_eq h
  constructor
  · refine .one (e := .produce) trivial ?_
    simp [Stream.move, videoStream, videoHand, takenFrame, videoLive, videoItem, hpc,
      ACInputWorker.transferred, ACInputWorker.videoBuff, Nat.add_right_comm]
  · refine .one (e := .produce) trivial ?_
    simp [Stream.move, audioStream, audioHand, takenPacket, audioItem, hpc,
      ACInputWorker.transferred, ACInputWorker.audioBuff, Nat.add_right_comm]

theorem video_null (h : s.nullVideo = some t) : Steps (videoStream s) (videoStream t) := by
  obtain ⟨hpc, rfl | rfl⟩ := null_video_cases h
  · refine .one (e := .interrupt) trivial ?_
    simp [Stream.move, videoStream, videoHand, takenFrame, videoLive, hpc, lose_signal_state,
      video_items_lose_signal]
  · refine .of_eq ?_
    simp [videoStream, videoHand, takenFrame, videoLive, hpc]

theorem video_callback (hi : Attached s) (h : s.videoCallbackStep = some t) :
    Steps (videoStream s) (videoStream t) := by
  obtain ⟨v, a, hpc, ⟨-, rfl⟩ | ⟨hoff, -⟩⟩ := video_callback_cases h
  · refine .of_eq ?_
    simp [videoStream, videoHand, takenFrame, videoLive, hpc]
  · have hon : (s.videoCallback && s.videoEnabled) = true := hi.video
    rw [hoff] at hon
    cases hon

theorem video_got_frame {env : CaptureEnv} (hc : FrameSkippedEarly s env)
    (h : s.gotFrame env = some t) : Steps (videoStream s) (videoStream t) := by
  obtain ⟨v, a, verdict, hpc, hverdict, pc, video, rfl, hv⟩ := got_frame_cases h
  have hstate := prepare_signal_state s.videosrc s.mode env (some v)
  have hitems := video_items_prepare s.videosrc s.mode env (some v)
  rcases hv with ⟨rfl, rfl, rfl⟩ | ⟨rfl, rfl, rfl⟩ | ⟨ts, st, had, rfl, rfl, rfl⟩
  · refine .one (e := .lose) trivial ?_
    simp [Stream.move, videoStream, videoHand, takenFrame, videoLive, hitems, hstate,
      Option.filter, no_signal_of_prepare hverdict]
  · have hs := skips_of_prepare hverdict
    have early : Careful (videoStream s) (.forget true) := by
      simpa [Careful, FrameSkippedEarly, hpc, hs] using hc
    refine .one early ?_
    have hb : v.haveSignal = true := (Bool.and_eq_true_iff.mp hs).1
    simp [Stream.move, videoStream, videoHand, takenFrame, videoLive, hitems, hstate,
      Option.filter, hb]
  · refine .of_eq ?_
    simp [videoStream, videoHand, takenFrame, videoLive, hpc, hitems, prepare_had_signal hverdict]

theorem video_items_left (src : GstAjaVideoSrc) :
    videoItems (left src.queueSize src.currentFrames) =
      (videoItems src.currentFrames).drop
        (videoItems (popped src.queueSize src.currentFrames)).length := by
  conv_rhs => rw [← popped_append_left src.queueSize src.currentFrames, video_items_append]
  rw [popped_append_left, List.drop_left]

theorem frame_overflow_careful {v : AjaVideoBuff} {a : AjaAudioBuff} {ts st : ℕ} {had : Bool}
    (hpc : s.pc = .queueFrame v a ts st had) (hc : FrameOverflowMarked s) :
    Careful (videoStream s)
      (.push (videoItems (popped s.videosrc.queueSize s.videosrc.currentFrames)).length
        (s.videosrc.skippedBefore
          (withBuffer (popped s.videosrc.queueSize s.videosrc.currentFrames)))) := by
  simp only [FrameOverflowMarked, hpc] at hc
  rcases hc with hc | hc | hc
  · exact Or.inl (by rw [hc]; rfl)
  · exact Or.inr (Or.inl hc)
  · refine Or.inr (Or.inr ?_)
    intro i hi
    have hi' : i = videoItem v v.droppedChanged := by
      simpa [videoStream, videoHand, hpc] using hi.symm
    subst hi'
    have hq : (videoStream s).queue.drop
        (videoItems (popped s.videosrc.queueSize s.videosrc.currentFrames)).length =
        videoItems (left s.videosrc.queueSize s.videosrc.currentFrames) :=
      (video_items_left s.videosrc).symm
    rw [hq]
    cases hl : videoItems (left s.videosrc.queueSize s.videosrc.currentFrames) with
    | nil =>
      rw [hl] at hc
      have hmark : (v.droppedChanged || !had) = true := by simpa [videoItem] using hc
      simp [Stream.pushed, videoStream, videoLive, videoItem, hpc, hmark]
    | cons x q => simpa [hl] using hc

theorem video_queue_frame (hf : s.videosrc.flushing = false) (hi : Attached s)
    (hc : FrameOverflowMarked s) (h : s.queueFrame = some t) :
    Steps (videoStream s) (videoStream t) := by
  obtain ⟨v, a, ts, st, had, hpc, ⟨hflush, -⟩ | ⟨-, rfl⟩⟩ := queue_frame_cases h
  · rw [hf] at hflush
    cases hflush
  · have hlive : (s.videosrc.queueFrame v ts st had).signalState = .available :=
      hi.prepared v a ts st had hpc
    have hlast := video_items_left s.videosrc
    refine .one (frame_overflow_careful hpc hc) ?_
    simp [Stream.move, videoStream, videoHand, takenFrame, videoLive, hpc, hlive,
      video_items_queue_frame, hlast, Stream.pushed, videoItem]

theorem video_pop (h : s.videoPop videoInfoFromCaps = some t) :
    Steps (videoStream s) (videoStream t) := by
  obtain ⟨f, src, hnone, -, hsrc, _, _, _, _, _, _, rfl⟩ := video_pop_cases h
  have hlive : src.signalState = s.videosrc.signalState := by rw [hsrc]
  cases hb : f.videoBuff with
  | none =>
    refine .of_eq ?_
    simp [videoStream, takenFrame, videoLive, hsrc, videoItems, hb, hnone]
  | some b =>
    refine .one (e := .take) trivial ?_
    have hq : videoItems s.videosrc.currentFrames =
        videoItem b (f.firstBuffer || b.droppedChanged) :: videoItems src.currentFrames := by
      simp [hsrc, videoItems, hb]
    simp [Stream.move, videoStream, takenFrame, videoLive, hq, hlive, hnone]

theorem video_return (h : s.videoReturn = some t) : Steps (videoStream s) (videoStream t) := by
  obtain ⟨f, b, htaken, rfl⟩ := video_return_eq h
  refine .of_eq ?_
  simp [videoStream, takenFrame, videoLive, htaken, deliveries, Trail.deliver,
    GstAjaVideoSrc.output, videoItem]

theorem video_hand_eq (pc : WorkerPc) :
    videoHand pc = (frameInHand pc).map fun v => videoItem v v.droppedChanged := by
  cases pc <;> rfl

theorem video_live_of_free (h : frameInHand s.pc = none) :
    videoLive s = decide (s.videosrc.signalState = .available) := by
  unfold videoLive
  split
  case h_1 hpc =>
    rw [hpc] at h
    cases h
  case h_2 => rfl

theorem video_stream_kept (k : VideoKept s t) : videoStream t = videoStream s := by
  have hlive : videoLive t = videoLive s := by
    rcases k.pc with hp | ⟨hs, ht⟩
    · unfold videoLive
      rw [hp, k.videosrc]
    · rw [video_live_of_free hs, video_live_of_free ht, k.videosrc]
  simp only [videoStream, takenFrame, video_hand_eq, k.frame_in_hand, k.trail, k.taken,
    k.videosrc, k.worker, hlive]

theorem video_step (hi : Attached s) (hc : LeavesMarks s e)
    (h : s.next videoInfoFromCaps e = some t) : Steps (videoStream s) (videoStream t) := by
  by_cases hside : onAudioSide e = true
  · exact .of_eq (video_stream_kept (video_kept hside h)).symm
  obtain ⟨⟨hvf, -, hcc⟩, hmark⟩ := hc
  cases e with
  | status ac => exact (status_steps h).1
  | capture d => exact (capture_steps h).1
  | nullVideo => exact video_null h
  | videoCallback => exact video_callback hi h
  | gotFrame env => exact video_got_frame hmark h
  | queueFrame => exact video_queue_frame hvf hi hmark h
  | videoPop => exact video_pop h
  | videoReturn => exact video_return h
  | videoUnlock | videoUnlockStop | videoStop => exact hcc.elim
  | videoStartReset =>
    cases h
    exact .refl _
  | _ => exact absurd rfl hside

/-! ## The audio stream -/

theorem audio_null (h : s.nullAudio = some t) : Steps (audioStream s) (audioStream t) := by
  obtain ⟨hpc, rfl | rfl⟩ := null_audio_cases h
  · refine .one (e := .interrupt) trivial ?_
    simp [Stream.move, audioStream, audioHand, takenPacket, hpc]
  · refine .of_eq ?_
    simp [audioStream, audioHand, takenPacket, hpc]

theorem audio_callback (hi : Attached s) (h : s.audioCallbackStep = some t) :
    Steps (audioStream s) (audioStream t) := by
  obtain ⟨a, verdict, hpc, ⟨-, rfl⟩ | ⟨hoff, rfl⟩⟩ := audio_callback_cases h
  · refine .of_eq ?_
    simp [audioStream, audioHand, takenPacket, hpc]
  · obtain ⟨ho, hq, -, -⟩ := hi.no_audio hoff
    refine .one (e := .forget s.audiosrc.hadSignal) ⟨ho, hq⟩ ?_
    simp [Stream.move, audioStream, audioHand, takenPacket]

theorem audio_got_packet (hc : PacketSkippedEarly s) (h : s.gotPacket = some t) :
    Steps (audioStream s) (audioStream t) := by
  obtain ⟨a, memory, hpc, pc, audio, rfl, hv⟩ := got_packet_cases h
  have hmem := packet_memory s.audiosrc s.videosrc s.mode a
  rcases hv with ⟨hv, rfl, rfl⟩ | ⟨hv, rfl, rfl⟩ | ⟨ts, st, hv, rfl, rfl⟩
  · refine .one (e := .lose) trivial ?_
    simp [Stream.move, audioStream, audioHand, takenPacket, hmem.no_signal hv]
  · obtain ⟨hs, hsignal⟩ := hmem.skipped hv
    have early : Careful (audioStream s) (.forget true) := by
      simp only [PacketSkippedEarly, hpc] at hc
      exact hc hs
    refine .one early ?_
    simp [Stream.move, audioStream, audioHand, takenPacket, hsignal]
  · refine .of_eq ?_
    simp [audioStream, audioHand, takenPacket, hpc, hmem.queue hv]

theorem audio_items_append (p q : List AjaCaptureAudioPacket) :
    audioItems (p ++ q) = audioItems p ++ audioItems q := by simp [audioItems]

theorem audio_items_left (src : GstAjaAudioSrc) :
    audioItems (left src.queueSize src.currentPackets) =
      (audioItems src.currentPackets).drop
        (audioItems (popped src.queueSize src.currentPackets)).length := by
  conv_rhs => rw [← popped_append_left src.queueSize src.currentPackets, audio_items_append]
  rw [popped_append_left, List.drop_left]

theorem packet_overflow_careful {a : AjaAudioBuff} {ts st : ℕ}
    (hpc : s.pc = .queuePacket a ts st) (hc : PacketOverflowMarked s) :
    Careful (audioStream s)
      (.push (audioItems (popped s.audiosrc.queueSize s.audiosrc.currentPackets)).length
        (s.audiosrc.skippedBefore
          (popped s.audiosrc.queueSize s.audiosrc.currentPackets))) := by
  simp only [PacketOverflowMarked, hpc] at hc
  rcases hc with hc | hc | hc
  · exact Or.inl (by rw [hc]; rfl)
  · exact Or.inr (Or.inl hc)
  · refine Or.inr (Or.inr ?_)
    intro i hi
    have hi' : i = audioItem a a.droppedChanged := by
      simpa [audioStream, audioHand, hpc] using hi.symm
    subst hi'
    have hq : (audioStream s).queue.drop
        (audioItems (popped s.audiosrc.queueSize s.audiosrc.currentPackets)).length =
        audioItems (left s.audiosrc.queueSize s.audiosrc.currentPackets) :=
      (audio_items_left s.audiosrc).symm
    rw [hq]
    cases hl : audioItems (left s.audiosrc.queueSize s.audiosrc.currentPackets) with
    | nil =>
      rw [hl] at hc
      have hmark : (a.droppedChanged || !s.audiosrc.hadSignal) = true := by
        simpa [audioItem] using hc
      simp [Stream.pushed, audioStream, audioItem, hmark]
    | cons x q => simpa [hl] using hc

theorem audio_queue_packet (hf : s.audiosrc.flushing = false) (hc : PacketOverflowMarked s)
    (h : s.queuePacket = some t) : Steps (audioStream s) (audioStream t) := by
  obtain ⟨a, ts, st, hpc, ⟨hflush, -⟩ | ⟨-, rfl⟩⟩ := queue_packet_cases h
  · rw [hf] at hflush
    cases hflush
  · have hlast := audio_items_left s.audiosrc
    have hlive : (s.audiosrc.queuePacket a ts st).hadSignal = true := rfl
    refine .one (packet_overflow_careful hpc hc) ?_
    simp [Stream.move, audioStream, audioHand, takenPacket, hpc, hlive,
      audio_items_queue_packet, hlast, Stream.pushed, audioItem]

theorem audio_pop (h : s.audioPop = some t) : Steps (audioStream s) (audioStream t) := by
  obtain ⟨p, src, hnone, -, hsrc, rfl⟩ := audio_pop_eq h
  refine .one (e := .take) trivial ?_
  simp [Stream.move, audioStream, takenPacket, hsrc, audioItems, hnone]

theorem audio_return (h : s.audioReturn = some t) : Steps (audioStream s) (audioStream t) := by
  obtain ⟨p, _, _, htaken, rfl⟩ := audio_return_eq h
  refine .one (e := .raise (s.audiosrc.output s.mode p).2.discont) trivial ?_
  have hmark : (p.marked || (s.audiosrc.output s.mode p).2.discont) =
      (s.audiosrc.output s.mode p).2.discont := by
    cases hm : p.marked with
    | false => rfl
    | true => simp [output_discont_of_marked hm]
  simp [Stream.move, audioStream, takenPacket, htaken, deliveries, Trail.deliver,
    raise_last_concat, audioItem, hmark]

theorem audio_hand_eq (pc : WorkerPc) :
    audioHand pc = (packetInHand pc).map fun a => audioItem a a.droppedChanged := by
  cases pc <;> rfl

theorem audio_stream_kept (k : AudioKept s t) : audioStream t = audioStream s := by
  simp only [audioStream, takenPacket, audio_hand_eq, k.in_hand, k.trail, k.taken, k.audiosrc,
    k.worker]

theorem audio_step (hi : Attached s) (hc : LeavesMarks s e)
    (h : s.next videoInfoFromCaps e = some t) : Steps (audioStream s) (audioStream t) := by
  by_cases hside : onVideoSide e = true
  · exact .of_eq (audio_stream_kept (audio_kept hside h)).symm
  obtain ⟨⟨-, haf, hcc⟩, hmark⟩ := hc
  cases e with
  | status ac => exact (status_steps h).2
  | capture d => exact (capture_steps h).2
  | nullAudio => exact audio_null h
  | audioCallback => exact audio_callback hi h
  | gotPacket => exact audio_got_packet hmark h
  | queuePacket => exact audio_queue_packet haf hmark h
  | audioPop => exact audio_pop h
  | audioReturn => exact audio_return h
  | audioUnlock | audioUnlockStop | audioReadyToPaused | audioStop | audioStopPop =>
    exact hcc.elim
  | audioEnable | audioStartReset =>
    cases h
    exact .refl _
  | _ => exact absurd rfl hside

/-! ## Every gap is marked -/

theorem attached_init (hs : Started s) : Attached s := by
  refine ⟨by simp [hs.video_callback, hs.video_enabled], by simp [hs.pc], ?_⟩
  intro _
  simp [audioStream, takenPacket, audioItems, deliveries, hs.audio_taken, hs.audio, hs.no_packets,
    Trail.empty, hs.pc]

theorem callbacks_step (hc : CaptureAndCreate s e) (h : s.next videoInfoFromCaps e = some t) :
    t.videoCallback = s.videoCallback ∧ t.videoEnabled = s.videoEnabled ∧
      ((t.audioCallback && t.audioEnabled) = false →
        (s.audioCallback && s.audioEnabled) = false) := by
  obtain ⟨-, -, hcc⟩ := hc
  cases e with
  | status ac => obtain ⟨-, rfl⟩ := status_eq h; exact ⟨rfl, rfl, id⟩
  | capture d => obtain ⟨-, rfl⟩ := capture_eq h; exact ⟨rfl, rfl, id⟩
  | nullVideo => obtain ⟨-, rfl | rfl⟩ := null_video_cases h <;> exact ⟨rfl, rfl, id⟩
  | nullAudio => obtain ⟨-, rfl | rfl⟩ := null_audio_cases h <;> exact ⟨rfl, rfl, id⟩
  | videoCallback =>
    obtain ⟨_, _, -, ⟨-, rfl⟩ | ⟨-, rfl⟩⟩ := video_callback_cases h <;> exact ⟨rfl, rfl, id⟩
  | gotFrame env =>
    obtain ⟨_, _, _, -, -, _, _, rfl, -⟩ := got_frame_cases h
    exact ⟨rfl, rfl, id⟩
  | queueFrame =>
    obtain ⟨_, _, _, _, _, -, ⟨-, rfl⟩ | ⟨-, rfl⟩⟩ := queue_frame_cases h <;> exact ⟨rfl, rfl, id⟩
  | audioCallback =>
    obtain ⟨_, _, -, ⟨-, rfl⟩ | ⟨-, rfl⟩⟩ := audio_callback_cases h <;> exact ⟨rfl, rfl, id⟩
  | gotPacket =>
    obtain ⟨_, _, -, _, _, rfl, -⟩ := got_packet_cases h
    exact ⟨rfl, rfl, id⟩
  | queuePacket =>
    obtain ⟨_, _, _, -, ⟨-, rfl⟩ | ⟨-, rfl⟩⟩ := queue_packet_cases h <;> exact ⟨rfl, rfl, id⟩
  | workerEnds => obtain ⟨-, rfl⟩ := worker_ends_eq h; exact ⟨rfl, rfl, id⟩
  | videoPop =>
    obtain ⟨_, _, -, -, -, _, _, _, _, _, _, rfl⟩ := video_pop_cases h
    exact ⟨rfl, rfl, id⟩
  | videoReturn => obtain ⟨_, _, -, rfl⟩ := video_return_eq h; exact ⟨rfl, rfl, id⟩
  | audioPop => obtain ⟨_, _, -, -, -, rfl⟩ := audio_pop_eq h; exact ⟨rfl, rfl, id⟩
  | audioReturn => obtain ⟨_, _, _, -, rfl⟩ := audio_return_eq h; exact ⟨rfl, rfl, id⟩
  | videoStartReset | audioStartReset => cases h; exact ⟨rfl, rfl, id⟩
  | audioEnable =>
    cases h
    refine ⟨rfl, rfl, fun hoff => ?_⟩
    have hcallback : s.audioCallback = false := by simpa using hoff
    rw [hcallback, Bool.false_and]
  | videoUnlock | videoUnlockStop | videoStop | audioUnlock | audioUnlockStop
  | audioReadyToPaused | audioStop | audioStopPop => exact hcc.elim

theorem prepared_step
    (hi : ∀ v a ts st had, s.pc = .queueFrame v a ts st had → s.videosrc.signalState = .available)
    (hc : CaptureAndCreate s e) (h : s.next videoInfoFromCaps e = some t) :
    ∀ v a ts st had, t.pc = .queueFrame v a ts st had → t.videosrc.signalState = .available := by
  intro v a ts st had hpc
  by_cases hside : onAudioSide e = true
  · have k := video_kept hside h
    rw [k.videosrc]
    rcases k.pc with hp | ⟨-, ht⟩
    · exact hi v a ts st had (hp.symm.trans hpc)
    · rw [hpc] at ht
      cases ht
  cases e with
  | status ac =>
    obtain ⟨-, rfl⟩ := status_eq h
    exact hi v a ts st had hpc
  | capture d =>
    obtain ⟨-, rfl⟩ := capture_eq h
    cases hpc
  | nullVideo => obtain ⟨-, rfl | rfl⟩ := null_video_cases h <;> cases hpc
  | videoCallback => obtain ⟨_, _, -, ⟨-, rfl⟩ | ⟨-, rfl⟩⟩ := video_callback_cases h <;> cases hpc
  | gotFrame env =>
    obtain ⟨w, b, verdict, -, hverdict, pc, video, rfl, hv⟩ := got_frame_cases h
    rcases hv with ⟨rfl, rfl, rfl⟩ | ⟨rfl, rfl, rfl⟩ | ⟨ts', st', had', rfl, rfl, rfl⟩
    · cases hpc
    · cases hpc
    · simp only [prepare_signal_state, prepare_queue_some hverdict, if_true]
  | queueFrame =>
    obtain ⟨_, _, _, _, _, -, ⟨-, rfl⟩ | ⟨-, rfl⟩⟩ := queue_frame_cases h <;> cases hpc
  | videoPop =>
    obtain ⟨f, src, -, -, hsrc, _, _, _, _, _, _, rfl⟩ := video_pop_cases h
    have hlive : src.signalState = s.videosrc.signalState := by rw [hsrc]
    exact hlive.trans (hi v a ts st had hpc)
  | videoReturn =>
    obtain ⟨f, b, -, rfl⟩ := video_return_eq h
    exact hi v a ts st had hpc
  | videoStartReset =>
    cases h
    exact hi v a ts st had hpc
  | videoUnlock | videoUnlockStop | videoStop => exact hc.2.2.elim
  | _ => exact absurd rfl hside

def NoAudio (s : Pipeline) : Prop :=
  (audioStream s).out = [] ∧ (audioStream s).queue = [] ∧
    (∀ a verdict, s.pc ≠ .gotPacket a verdict) ∧ ∀ a ts st, s.pc ≠ .queuePacket a ts st

theorem no_audio_kept (k : AudioKept s t) (h : NoAudio s) : NoAudio t := by
  obtain ⟨ho, hq, hg, hqp⟩ := h
  refine ⟨?_, ?_, ?_, ?_⟩
  · rw [audio_stream_kept k]
    exact ho
  · rw [audio_stream_kept k]
    exact hq
  · exact fun a verdict hpc => hg a verdict (k.got_packet a verdict hpc)
  · exact fun a ts st hpc => hqp a ts st (k.queue_packet a ts st hpc)

theorem no_audio_step (hi : Attached s) (hc : CaptureAndCreate s e)
    (h : s.next videoInfoFromCaps e = some t)
    (hoff : (s.audioCallback && s.audioEnabled) = false) : NoAudio t := by
  have hno : NoAudio s := hi.no_audio hoff
  by_cases hside : onVideoSide e = true
  · exact no_audio_kept (audio_kept hside h) hno
  obtain ⟨ho, hq, hg, hqp⟩ := hno
  cases e with
  | status ac =>
    obtain ⟨-, rfl⟩ := status_eq h
    exact ⟨ho, hq, hg, hqp⟩
  | capture d =>
    obtain ⟨-, rfl⟩ := capture_eq h
    exact ⟨ho, hq, nofun, nofun⟩
  | nullAudio =>
    obtain ⟨-, rfl | rfl⟩ := null_audio_cases h <;> exact ⟨ho, hq, nofun, nofun⟩
  | audioCallback =>
    obtain ⟨a, verdict, -, ⟨hon, -⟩ | ⟨-, rfl⟩⟩ := audio_callback_cases h
    · rw [hoff] at hon
      cases hon
    · exact ⟨ho, hq, nofun, nofun⟩
  | gotPacket =>
    obtain ⟨a, memory, hpc, -⟩ := got_packet_cases h
    exact absurd hpc (hg a memory)
  | queuePacket =>
    obtain ⟨a, ts, st, hpc, -⟩ := queue_packet_cases h
    exact absurd hpc (hqp a ts st)
  | audioPop =>
    obtain ⟨p, src, -, -, hsrc, -⟩ := audio_pop_eq h
    simp [audioStream, audioItems, hsrc] at hq
  | audioReturn =>
    obtain ⟨p, _, _, htaken, -⟩ := audio_return_eq h
    simp [audioStream, takenPacket, htaken] at ho
  | audioEnable | audioStartReset =>
    cases h
    exact ⟨ho, hq, hg, hqp⟩
  | audioUnlock | audioUnlockStop | audioReadyToPaused | audioStop | audioStopPop =>
    exact hc.2.2.elim
  | _ => exact absurd rfl hside

theorem attached_step (hi : Attached s) (hc : CaptureAndCreate s e)
    (h : Pipeline.next videoInfoFromCaps s e = some t) : Attached t := by
  obtain ⟨hcb, hen, haudio⟩ := callbacks_step hc h
  refine ⟨?_, prepared_step hi.prepared hc h, fun ht => no_audio_step hi hc h (haudio ht)⟩
  rw [hcb, hen]
  exact hi.video

structure BothFlagged (s : Pipeline) : Prop where
  attached : Attached s
  video : Flagged (videoStream s)
  audio : Flagged (audioStream s)

theorem both_flagged (h : ReachableWhile (pipeline videoInfoFromCaps) LeavesMarks s) :
    BothFlagged s := by
  refine h.invariant (fun i hi => ⟨attached_init hi, ?_, ?_⟩) fun a e b hi hc hn =>
    ⟨attached_step hi.attached hc.1 hn, (video_step hi.attached hc hn).flagged hi.video,
      (audio_step hi.attached hc hn).flagged hi.audio⟩
  · have : videoStream i = ⟨[], [], none, 0, false, videoLive i⟩ := by
      simp [videoStream, deliveries, takenFrame, videoItems, videoHand, hi.video, hi.video_taken,
        hi.no_frames, hi.pc, hi.worker, Trail.empty, ACInputWorker.start]
    rw [this]
    exact flagged_empty 0 false _
  · have : audioStream i = ⟨[], [], none, 0, false, i.audiosrc.hadSignal⟩ := by
      simp [audioStream, deliveries, takenPacket, audioItems, audioHand, hi.audio, hi.audio_taken,
        hi.no_packets, hi.pc, hi.worker, Trail.empty, ACInputWorker.start]
    rw [this]
    exact flagged_empty 0 false _

theorem gaps_marked_of_chain {ds : List Delivery} (rest : List Item)
    (h : (deliveries ds ++ rest).IsChain Follows) : GapsMarked ds := by
  have hd := (List.isChain_append.mp h).1
  rw [deliveries, List.isChain_map] at hd
  exact hd

theorem gaps_marked (h : ReachableWhile (pipeline videoInfoFromCaps) LeavesMarks s) :
    GapsMarked s.video.delivered ∧ GapsMarked s.audio.delivered := by
  have hb := both_flagged h
  refine ⟨gaps_marked_of_chain (takenFrame s ++ videoItems s.videosrc.currentFrames) ?_,
    gaps_marked_of_chain (takenPacket s ++ audioItems s.audiosrc.currentPackets) ?_⟩
  · rw [← List.append_assoc]
    exact hb.video.chain
  · rw [← List.append_assoc]
    exact hb.audio.chain

instance (s : Pipeline) (e : Event) : Decidable (CaptureAndCreate s e) := by
  unfold CaptureAndCreate
  split <;> infer_instance

instance (s : Pipeline) : Decidable (FrameOverflowMarked s) := by
  unfold FrameOverflowMarked
  split <;> infer_instance

instance (s : Pipeline) : Decidable (PacketOverflowMarked s) := by
  unfold PacketOverflowMarked
  split <;> infer_instance

instance (s : Pipeline) (env : CaptureEnv) : Decidable (FrameSkippedEarly s env) := by
  unfold FrameSkippedEarly
  split <;> infer_instance

instance (s : Pipeline) : Decidable (PacketSkippedEarly s) := by
  unfold PacketSkippedEarly
  split <;> infer_instance

instance (s : Pipeline) (e : Event) : Decidable (LeavesMarks s e) := by
  unfold LeavesMarks
  split <;> infer_instance

instance (ds : List Delivery) : Decidable (GapsMarked ds) := by
  unfold GapsMarked
  infer_instance

def frameAt (frame : ℕ) : List Event :=
  bothIteration (deviceFrame true 0) (clockAt (1000000 + 16683333 * frame))

def createBoth : List Event := [.videoPop, .videoReturn, .audioPop, .audioReturn]

theorem gaps_marked_after_drop : ∃ s, Reachable (pipeline capsVideoInfo) s ∧
    (GapsMarked s.video.delivered ∧ GapsMarked s.audio.delivered) ∧
    s.video.delivered.map (·.frame) = [1, 2, 4] := by
  obtain ⟨s, hs, hp⟩ := reachable_while_of_trace (m := pipeline capsVideoInfo)
    (a := LeavesMarks) (i := startedPipeline 2 true)
    (l := frameAt 0 ++ [.videoPop] ++ createBoth ++ frameAt 1 ++ createBoth ++
      [.status 1] ++ frameAt 3 ++ createBoth)
    (p := fun s => decide (s.video.delivered.map (·.frame) = [1, 2, 4]))
    (started_pipeline (by decide) true) (by decide +kernel)
  exact ⟨s, hs.reachable, gaps_marked hs, of_decide_eq_true hp⟩

/-- Queues of two: after the first frame `create` pauses for three frames, and the
second one is dropped. The mark goes onto a later frame, so frame 3 follows frame 1
without one. -/
theorem gap_not_marked : ¬∀ s,
    ReachableWhile (pipeline capsVideoInfo) CaptureAndCreate s →
      GapsMarked s.video.delivered ∧ GapsMarked s.audio.delivered := by
  intro h
  obtain ⟨s, hs, hp⟩ := reachable_while_of_trace (m := pipeline capsVideoInfo)
    (a := CaptureAndCreate) (i := startedPipeline 2 true)
    (l := frameAt 0 ++ [.videoPop] ++ createBoth ++ frameAt 1 ++ frameAt 2 ++ frameAt 3 ++
      createBoth)
    (p := fun s => decide ¬(GapsMarked s.video.delivered ∧ GapsMarked s.audio.delivered))
    (started_pipeline (by decide) true) (by decide +kernel)
  exact of_decide_eq_true hp (h s hs)

end AjaDiscontinuity
