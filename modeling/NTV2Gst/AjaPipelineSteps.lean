import NTV2Gst.AjaCapturePipeline

/-!
# What the steps of the pipeline do

One lemma for each step that hands a buffer on, and for the steps of one side what they
leave alone on the other.
-/
namespace AjaPipelineSteps

open DropOldest GstAjaModes AjaVideoSrc AjaAudioSrc AjaCapturePipeline

variable {videoInfoFromCaps : GstCaps → GstVideoInfo} {s t : Pipeline}

def frameInHand : WorkerPc → Option AjaVideoBuff
  | .videoCallback v _ | .gotFrame v _ | .queueFrame v _ _ _ _ => some v
  | _ => none

def packetInHand : WorkerPc → Option AjaAudioBuff
  | .videoCallback _ a | .gotFrame _ a | .queueFrame _ a _ _ _ | .audioCallback a _
  | .gotPacket a _ | .queuePacket a _ _ => some a
  | _ => none

/-! ## The worker -/

theorem status_eq {ac : ℕ} (h : s.next videoInfoFromCaps (.status ac) = some t) :
    s.pc = .idle ∧ t = { s with worker := s.worker.countDrops ac } := by
  simp only [Pipeline.next] at h
  split at h
  case isTrue hpc => exact ⟨hpc, (Option.some.inj h).symm⟩
  case isFalse => cases h

theorem capture_eq {d : DeviceFrame} (h : s.capture d = some t) :
    s.pc = .idle ∧ t = { s with
      pc := .videoCallback (s.worker.videoBuff s.nextBuffer d) (s.worker.audioBuff s.nextBuffer d)
      worker := s.worker.transferred
      nextBuffer := s.nextBuffer + 1
      video := { s.video with captured := s.video.captured ++ [s.nextBuffer] }
      audio := { s.audio with captured := s.audio.captured ++ [s.nextBuffer] } } := by
  unfold Pipeline.capture at h
  split at h
  case isTrue hpc => exact ⟨hpc, (Option.some.inj h).symm⟩
  case isFalse => cases h

theorem video_callback_cases (h : s.videoCallbackStep = some t) :
    ∃ v a, s.pc = .videoCallback v a ∧
      (((s.videoCallback && s.videoEnabled) = true ∧ t = { s with pc := .gotFrame v a }) ∨
        ((s.videoCallback && s.videoEnabled) = false ∧ t = { s with
          pc := .audioCallback a none
          video := s.video.release .callbackRefused [v.buffer] })) := by
  unfold Pipeline.videoCallbackStep at h
  split at h
  case h_2 => cases h
  case h_1 v a hpc =>
    refine ⟨v, a, hpc, ?_⟩
    split at h
    case isTrue hon => exact Or.inl ⟨hon, (Option.some.inj h).symm⟩
    case isFalse hoff => exact Or.inr ⟨by simpa using hoff, (Option.some.inj h).symm⟩

theorem got_frame_cases {env : CaptureEnv} (h : s.gotFrame env = some t) :
    ∃ v a verdict, s.pc = .gotFrame v a ∧
      (s.videosrc.gotFramePrepare s.mode env (some v)).2 = verdict ∧
      ∃ pc video, t = { s with
          videosrc := (s.videosrc.gotFramePrepare s.mode env (some v)).1
          changes := s.changes ++ (s.videosrc.change (some v)).toList
          pc := pc
          video := video } ∧
        ((verdict = .noSignal ∧ pc = .audioCallback a (some verdict) ∧
            video = s.video.release .noSignal [v.buffer]) ∨
          (verdict = .skipped ∧ pc = .audioCallback a (some verdict) ∧
            video = s.video.release .skipFirstTime [v.buffer]) ∨
          ∃ timestamp streamTime hadSignal, verdict = .queue timestamp streamTime hadSignal ∧
            pc = .queueFrame v a timestamp streamTime hadSignal ∧ video = s.video) := by
  unfold Pipeline.gotFrame at h
  split at h
  case h_2 => cases h
  case h_1 v a hpc =>
    refine ⟨v, a, _, hpc, rfl, ?_⟩
    simp only at h
    split at h
    case h_1 hv => cases h; exact ⟨_, _, rfl, Or.inl ⟨hv, by rw [hv], rfl⟩⟩
    case h_2 hv => cases h; exact ⟨_, _, rfl, Or.inr (Or.inl ⟨hv, by rw [hv], rfl⟩)⟩
    case h_3 ts st had hv =>
      cases h
      exact ⟨_, _, rfl, Or.inr (Or.inr ⟨ts, st, had, hv, rfl, rfl⟩)⟩

theorem queue_frame_cases (h : s.queueFrame = some t) :
    ∃ v a timestamp streamTime hadSignal,
      s.pc = .queueFrame v a timestamp streamTime hadSignal ∧
      ((s.videosrc.flushing = true ∧ t = { s with
          pc := .audioCallback a (some (.queue timestamp streamTime hadSignal))
          video := s.video.release .flushing [v.buffer] }) ∨
        (s.videosrc.flushing = false ∧ t = { s with
          pc := .audioCallback a (some (.queue timestamp streamTime hadSignal))
          videosrc := s.videosrc.queueFrame v timestamp streamTime hadSignal
          video := s.video.release .overflow
            (videoBuffers (popped s.videosrc.queueSize s.videosrc.currentFrames)) })) := by
  unfold Pipeline.queueFrame at h
  split at h
  case h_2 => cases h
  case h_1 v a ts st had hpc =>
    refine ⟨v, a, ts, st, had, hpc, ?_⟩
    split at h
    case isTrue hf => exact Or.inl ⟨hf, (Option.some.inj h).symm⟩
    case isFalse hf => exact Or.inr ⟨by simpa using hf, (Option.some.inj h).symm⟩

theorem audio_callback_cases (h : s.audioCallbackStep = some t) :
    ∃ a verdict, s.pc = .audioCallback a verdict ∧
      (((s.audioCallback && s.audioEnabled) = true ∧ t = { s with pc := .gotPacket a verdict }) ∨
        ((s.audioCallback && s.audioEnabled) = false ∧ t = { s with
          pc := .idle
          audio := s.audio.release .callbackRefused [a.buffer] })) := by
  unfold Pipeline.audioCallbackStep at h
  split at h
  case h_2 => cases h
  case h_1 a verdict hpc =>
    refine ⟨a, verdict, hpc, ?_⟩
    split at h
    case isTrue hon => exact Or.inl ⟨hon, (Option.some.inj h).symm⟩
    case isFalse hoff => exact Or.inr ⟨by simpa using hoff, (Option.some.inj h).symm⟩

theorem got_packet_cases (h : s.gotPacket = some t) :
    ∃ a memory, s.pc = .gotPacket a memory ∧ ∃ pc audio, t = { s with
        audiosrc := { s.audiosrc with
          hadSignal := (s.audiosrc.gotPacketPrepare (some s.videosrc) s.mode (some a)).1.hadSignal }
        pc := pc
        audio := audio } ∧
      (((s.audiosrc.gotPacketPrepare (some s.videosrc) s.mode (some a)).2 = .noSignal ∧
          pc = .idle ∧ audio = s.audio.release .noSignal [a.buffer]) ∨
        ((s.audiosrc.gotPacketPrepare (some s.videosrc) s.mode (some a)).2 = .skipped ∧
          pc = .idle ∧ audio = s.audio.release .skipFirstTime [a.buffer]) ∨
        ∃ timestamp streamTime,
          (s.audiosrc.gotPacketPrepare (some s.videosrc) s.mode (some a)).2 =
            .queue timestamp streamTime ∧
          pc = .queuePacket a timestamp streamTime ∧ audio = s.audio) := by
  unfold Pipeline.gotPacket at h
  split at h
  case h_2 => cases h
  case h_1 a memory hpc =>
    refine ⟨a, memory, hpc, ?_⟩
    simp only at h
    rw [← packet_prepare_keeps s.audiosrc (some s.videosrc) s.mode (some a)]
    split at h
    case h_1 hv => cases h; exact ⟨_, _, rfl, Or.inl ⟨hv, rfl, rfl⟩⟩
    case h_2 => cases h
    case h_3 hv => cases h; exact ⟨_, _, rfl, Or.inr (Or.inl ⟨hv, rfl, rfl⟩)⟩
    case h_4 ts st hv => cases h; exact ⟨_, _, rfl, Or.inr (Or.inr ⟨ts, st, hv, rfl, rfl⟩)⟩

theorem queue_packet_cases (h : s.queuePacket = some t) :
    ∃ a timestamp streamTime, s.pc = .queuePacket a timestamp streamTime ∧
      ((s.audiosrc.flushing = true ∧ t = { s with
          pc := .idle
          audiosrc := { s.audiosrc with hadSignal := true }
          audio := s.audio.release .flushing [a.buffer] }) ∨
        (s.audiosrc.flushing = false ∧ t = { s with
          pc := .idle
          audiosrc := s.audiosrc.queuePacket a timestamp streamTime
          audio := s.audio.release .overflow
            (audioBuffers (popped s.audiosrc.queueSize s.audiosrc.currentPackets)) })) := by
  unfold Pipeline.queuePacket at h
  split at h
  case h_2 => cases h
  case h_1 a ts st hpc =>
    refine ⟨a, ts, st, hpc, ?_⟩
    split at h
    case isTrue hf => exact Or.inl ⟨hf, (Option.some.inj h).symm⟩
    case isFalse hf => exact Or.inr ⟨by simpa using hf, (Option.some.inj h).symm⟩

theorem null_video_cases (h : s.nullVideo = some t) :
    s.pc = .idle ∧ ((t = { s with
        pc := .nullAudio
        videosrc := s.videosrc.loseSignal
        changes := s.changes ++ (s.videosrc.change none).toList }) ∨
      t = { s with pc := .nullAudio }) := by
  unfold Pipeline.nullVideo at h
  split at h
  case isFalse => cases h
  case isTrue hpc =>
    refine ⟨hpc, ?_⟩
    split at h
    · exact Or.inl (Option.some.inj h).symm
    · exact Or.inr (Option.some.inj h).symm

theorem null_audio_cases (h : s.nullAudio = some t) :
    s.pc = .nullAudio ∧
      (t = { s with pc := .idle, audiosrc := { s.audiosrc with hadSignal := false } } ∨
        t = { s with pc := .idle }) := by
  unfold Pipeline.nullAudio at h
  split at h
  case isFalse => cases h
  case isTrue hpc =>
    refine ⟨hpc, ?_⟩
    split at h
    · exact Or.inl (Option.some.inj h).symm
    · exact Or.inr (Option.some.inj h).symm

theorem worker_ends_eq (h : s.next videoInfoFromCaps .workerEnds = some t) :
    s.pc = .idle ∧ t = { s with pc := .ended } := by
  simp only [Pipeline.next] at h
  split at h
  case isTrue hpc => exact ⟨hpc, (Option.some.inj h).symm⟩
  case isFalse => cases h

/-! ## `create` and the application -/

theorem video_pop_entry (h : s.videoPop videoInfoFromCaps = some t) :
    ∃ (f : AjaCaptureVideoFrame) (src : GstAjaVideoSrc), s.videoTaken = none ∧
      s.videosrc.flushing = false ∧
      s.videosrc = { src with currentFrames := f :: src.currentFrames } ∧
      let reported := s.reported ++ if f.signalChange = .noChange then [] else [f.signalChange]
      ((f.videoBuff = none ∧ t = { s with videosrc := src, reported := reported }) ∨
        ∃ b r, f.videoBuff = some b ∧ src.negotiate videoInfoFromCaps f b s.caps = some r ∧
          t = { s with
            videosrc := r.1, caps := r.2, reported := reported, videoTaken := some (f, b) }) := by
  simp only [Pipeline.videoPop] at h
  split at h
  case isTrue => cases h
  case isFalse htaken =>
    have hnone : s.videoTaken = none := by simpa using htaken
    split at h
    case h_1 => cases h
    case h_2 f src hpop =>
      obtain ⟨hflush, hsrc⟩ := pop_frame_some hpop
      refine ⟨f, src, hnone, hflush, hsrc, ?_⟩
      split at h
      case h_1 hb =>
        cases h
        exact Or.inl ⟨hb, rfl⟩
      case h_2 b hb =>
        obtain ⟨r, hr, rfl⟩ := Option.map_eq_some_iff.mp h
        exact Or.inr ⟨b, r, hb, hr, rfl⟩

theorem video_pop_cases (h : s.videoPop videoInfoFromCaps = some t) :
    ∃ (f : AjaCaptureVideoFrame) (src : GstAjaVideoSrc), s.videoTaken = none ∧
      s.videosrc.flushing = false ∧
      s.videosrc = { src with currentFrames := f :: src.currentFrames } ∧
      ∃ modeEnum transferCharacteristics colorimetry fullRange info caps, t = { s with
          videosrc := { src with
            modeEnum := modeEnum
            transferCharacteristics := transferCharacteristics
            colorimetry := colorimetry
            fullRange := fullRange
            info := info }
          caps := caps
          reported := s.reported ++ if f.signalChange = .noChange then [] else [f.signalChange]
          videoTaken := f.videoBuff.map fun b => (f, b) } := by
  obtain ⟨f, src, hnone, hflush, hsrc, ⟨hb, rfl⟩ | ⟨b, r, hb, hr, rfl⟩⟩ := video_pop_entry h
  · refine ⟨f, src, hnone, hflush, hsrc, src.modeEnum, src.transferCharacteristics,
      src.colorimetry, src.fullRange, src.info, s.caps, ?_⟩
    rw [hb, Option.map_none, ← hnone]
  · refine ⟨f, src, hnone, hflush, hsrc, r.1.modeEnum, r.1.transferCharacteristics,
      r.1.colorimetry, r.1.fullRange, r.1.info, r.2, ?_⟩
    rw [← negotiate_some hr, hb, Option.map_some]

theorem video_return_eq (h : s.videoReturn = some t) :
    ∃ f b, s.videoTaken = some (f, b) ∧ t = { s with
      videoTaken := none
      video := s.video.deliver
        ⟨(s.videosrc.output s.mode f b).buffer, b.framesProcessed + b.framesDropped,
          (s.videosrc.output s.mode f b).discont⟩ } := by
  unfold Pipeline.videoReturn at h
  split at h
  case h_1 f b ht => exact ⟨f, b, ht, (Option.some.inj h).symm⟩
  case h_2 => cases h

theorem audio_pop_eq (h : s.audioPop = some t) :
    ∃ (p : AjaCaptureAudioPacket) (src : GstAjaAudioSrc), s.audioTaken = none ∧
      s.audiosrc.flushing = false ∧
      s.audiosrc = { src with currentPackets := p :: src.currentPackets } ∧
      t = { s with audioTaken := some p, audiosrc := src } := by
  unfold Pipeline.audioPop at h
  split at h
  case isTrue => cases h
  case isFalse ht =>
    obtain ⟨⟨p, src⟩, hp, rfl⟩ := Option.map_eq_some_iff.mp h
    obtain ⟨hflush, hsrc⟩ := pop_packet_some hp
    exact ⟨p, src, by simpa using ht, hflush, hsrc, rfl⟩

theorem audio_return_eq (h : s.audioReturn = some t) :
    ∃ p nextOffset discontTime, s.audioTaken = some p ∧ t = { s with
      audioTaken := none
      audiosrc := { s.audiosrc with nextOffset := nextOffset, discontTime := discontTime }
      audio := s.audio.deliver
        ⟨p.audioBuff.buffer, p.audioBuff.framesProcessed + p.audioBuff.framesDropped,
          (s.audiosrc.output s.mode p).2.discont⟩ } := by
  unfold Pipeline.audioReturn at h
  split at h
  case h_1 p ht =>
    refine ⟨p, (s.audiosrc.output s.mode p).1.nextOffset,
      (s.audiosrc.output s.mode p).1.discontTime, ht, (Option.some.inj h).symm.trans ?_⟩
    rw [← output_keeps, ← output_buffer s.audiosrc s.mode p]
  case h_2 => cases h

theorem video_stop_eq (h : s.videoStop = some t) :
    s.pc = .ended ∧ t = { s with
      videoEnabled := false
      videoCallback := false
      videosrc := s.videosrc.stopDrain
      video := s.video.release .stop (videoBuffers s.videosrc.currentFrames) } := by
  unfold Pipeline.videoStop at h
  split at h
  case isTrue hpc => exact ⟨hpc, (Option.some.inj h).symm⟩
  case isFalse => cases h

theorem audio_stop_pop_cases (s : Pipeline) :
    (s.audiosrc.currentPackets = [] ∧
      s.audioStopPop = { s with audiosrc := { s.audiosrc with hadSignal := false } }) ∨
    ∃ p q, s.audiosrc.currentPackets = p :: q ∧ s.audioStopPop = { s with
      audiosrc := { s.audiosrc with currentPackets := q }
      audio := s.audio.release .stop [p.audioBuff.buffer] } := by
  unfold Pipeline.audioStopPop
  cases hq : s.audiosrc.currentPackets with
  | nil => exact Or.inl ⟨rfl, rfl⟩
  | cons p q => exact Or.inr ⟨p, q, rfl, rfl⟩

/-! ## One side and the other -/

/-- What the steps of the audio side keep: all of the video side, and on their own side what
was captured and the queue size. -/
structure VideoKept (s t : Pipeline) : Prop where
  videosrc : t.videosrc = s.videosrc
  mode : t.mode = s.mode
  callback : t.videoCallback = s.videoCallback
  enabled : t.videoEnabled = s.videoEnabled
  worker : t.worker = s.worker
  next_buffer : t.nextBuffer = s.nextBuffer
  taken : t.videoTaken = s.videoTaken
  trail : t.video = s.video
  captured : t.audio.captured = s.audio.captured
  queue_size : t.audiosrc.queueSize = s.audiosrc.queueSize
  changes : t.changes = s.changes
  reported : t.reported = s.reported
  pc : t.pc = s.pc ∨ (frameInHand s.pc = none ∧ frameInHand t.pc = none)

structure AudioKept (s t : Pipeline) : Prop where
  audiosrc : t.audiosrc = s.audiosrc
  callback : t.audioCallback = s.audioCallback
  enabled : t.audioEnabled = s.audioEnabled
  worker : t.worker = s.worker
  next_buffer : t.nextBuffer = s.nextBuffer
  taken : t.audioTaken = s.audioTaken
  trail : t.audio = s.audio
  captured : t.video.captured = s.video.captured
  queue_size : t.videosrc.queueSize = s.videosrc.queueSize
  in_hand : packetInHand t.pc = packetInHand s.pc
  got_packet : ∀ a verdict, t.pc = .gotPacket a verdict → s.pc = .gotPacket a verdict
  queue_packet : ∀ a ts st, t.pc = .queuePacket a ts st → s.pc = .queuePacket a ts st

def onAudioSide : Event → Bool
  | .workerEnds | .nullAudio | .audioCallback | .gotPacket | .queuePacket | .audioPop
  | .audioReturn | .audioUnlock | .audioUnlockStop | .audioReadyToPaused | .audioEnable
  | .audioStartReset | .audioStop | .audioStopPop => true
  | _ => false

def onVideoSide : Event → Bool
  | .workerEnds | .nullVideo | .videoCallback | .gotFrame _ | .queueFrame | .videoPop
  | .videoReturn | .videoUnlock | .videoUnlockStop | .videoStop | .videoStartReset => true
  | _ => false

theorem VideoKept.of_rest {pc : WorkerPc} {audiosrc : GstAjaAudioSrc}
    {audioTaken : Option AjaCaptureAudioPacket} {audio : Trail} {audioCallback audioEnabled : Bool}
    (hc : audio.captured = s.audio.captured) (hs : audiosrc.queueSize = s.audiosrc.queueSize)
    (hp : pc = s.pc ∨ (frameInHand s.pc = none ∧ frameInHand pc = none)) :
    VideoKept s { s with
      pc := pc
      audiosrc := audiosrc
      audioTaken := audioTaken
      audio := audio
      audioCallback := audioCallback
      audioEnabled := audioEnabled } := by
  constructor <;> first | rfl | assumption

theorem AudioKept.of_rest {pc : WorkerPc} {videosrc : GstAjaVideoSrc}
    {videoTaken : Option (AjaCaptureVideoFrame × AjaVideoBuff)} {video : Trail}
    {videoCallback videoEnabled : Bool} {caps : Option CapsInForce}
    {changes reported : List SignalChange} (hc : video.captured = s.video.captured)
    (hs : videosrc.queueSize = s.videosrc.queueSize)
    (hp : packetInHand pc = packetInHand s.pc)
    (hg : ∀ a verdict, pc = .gotPacket a verdict → s.pc = .gotPacket a verdict)
    (hq : ∀ a ts st, pc = .queuePacket a ts st → s.pc = .queuePacket a ts st) :
    AudioKept s { s with
      pc := pc
      videosrc := videosrc
      videoTaken := videoTaken
      video := video
      videoCallback := videoCallback
      videoEnabled := videoEnabled
      caps := caps
      changes := changes
      reported := reported } := by
  constructor <;> first | rfl | assumption

theorem video_kept {e : Event} (he : onAudioSide e = true)
    (h : s.next videoInfoFromCaps e = some t) : VideoKept s t := by
  cases e with
  | workerEnds =>
    obtain ⟨hpc, rfl⟩ := worker_ends_eq h
    exact .of_rest rfl rfl (Or.inr ⟨by rw [hpc]; rfl, rfl⟩)
  | nullAudio =>
    obtain ⟨hpc, rfl | rfl⟩ := null_audio_cases h <;>
      exact .of_rest rfl rfl (Or.inr ⟨by rw [hpc]; rfl, rfl⟩)
  | audioCallback =>
    obtain ⟨a, verdict, hpc, ⟨-, rfl⟩ | ⟨-, rfl⟩⟩ := audio_callback_cases h <;>
      exact .of_rest rfl rfl (Or.inr ⟨by rw [hpc]; rfl, rfl⟩)
  | gotPacket =>
    obtain ⟨a, memory, hpc, pc, audio, rfl, hv⟩ := got_packet_cases h
    rcases hv with ⟨-, rfl, rfl⟩ | ⟨-, rfl, rfl⟩ | ⟨ts, st, -, rfl, rfl⟩ <;>
      exact .of_rest rfl rfl (Or.inr ⟨by rw [hpc]; rfl, rfl⟩)
  | queuePacket =>
    obtain ⟨a, ts, st, hpc, ⟨-, rfl⟩ | ⟨-, rfl⟩⟩ := queue_packet_cases h <;>
      exact .of_rest rfl rfl (Or.inr ⟨by rw [hpc]; rfl, rfl⟩)
  | audioPop =>
    obtain ⟨p, src, -, -, hsrc, rfl⟩ := audio_pop_eq h
    exact .of_rest rfl (by rw [hsrc]) (Or.inl rfl)
  | audioReturn =>
    obtain ⟨p, _, _, -, rfl⟩ := audio_return_eq h
    exact .of_rest rfl rfl (Or.inl rfl)
  | audioStopPop =>
    cases h
    obtain ⟨-, hs⟩ | ⟨p, q, -, hs⟩ := audio_stop_pop_cases s <;> rw [hs] <;>
      exact .of_rest rfl rfl (Or.inl rfl)
  | audioUnlock | audioUnlockStop | audioReadyToPaused | audioEnable | audioStartReset
  | audioStop =>
    cases h
    exact .of_rest rfl rfl (Or.inl rfl)
  | _ => cases he

theorem audio_kept {e : Event} (he : onVideoSide e = true)
    (h : s.next videoInfoFromCaps e = some t) : AudioKept s t := by
  cases e with
  | workerEnds =>
    obtain ⟨hpc, rfl⟩ := worker_ends_eq h
    exact .of_rest rfl rfl (by rw [hpc]; rfl) nofun nofun
  | nullVideo =>
    obtain ⟨hpc, rfl | rfl⟩ := null_video_cases h
    · exact .of_rest rfl (lose_signal_settings _).queueSize (by rw [hpc]; rfl) nofun nofun
    · exact .of_rest rfl rfl (by rw [hpc]; rfl) nofun nofun
  | videoCallback =>
    obtain ⟨v, a, hpc, ⟨-, rfl⟩ | ⟨-, rfl⟩⟩ := video_callback_cases h <;>
      exact .of_rest rfl rfl (by rw [hpc]; rfl) nofun nofun
  | gotFrame env =>
    obtain ⟨v, a, verdict, hpc, -, pc, video, rfl, hv⟩ := got_frame_cases h
    have hs := (prepare_settings s.videosrc s.mode env (some v)).queueSize
    rcases hv with ⟨-, rfl, rfl⟩ | ⟨-, rfl, rfl⟩ | ⟨ts, st, had, -, rfl, rfl⟩ <;>
      exact .of_rest rfl hs (by rw [hpc]; rfl) nofun nofun
  | queueFrame =>
    obtain ⟨v, a, ts, st, had, hpc, ⟨-, rfl⟩ | ⟨-, rfl⟩⟩ := queue_frame_cases h <;>
      exact .of_rest rfl rfl (by rw [hpc]; rfl) nofun nofun
  | videoPop =>
    obtain ⟨f, src, -, -, hsrc, _, _, _, _, _, _, rfl⟩ := video_pop_cases h
    exact .of_rest rfl (by rw [hsrc]) rfl (fun _ _ => id) fun _ _ _ => id
  | videoReturn =>
    obtain ⟨f, b, -, rfl⟩ := video_return_eq h
    exact .of_rest rfl rfl rfl (fun _ _ => id) fun _ _ _ => id
  | videoStop =>
    obtain ⟨-, rfl⟩ := video_stop_eq h
    exact .of_rest rfl rfl rfl (fun _ _ => id) fun _ _ _ => id
  | videoUnlock | videoUnlockStop | videoStartReset =>
    cases h
    exact .of_rest rfl rfl rfl (fun _ _ => id) fun _ _ _ => id
  | _ => cases he

/-- A step that is neither of the worker alone belongs to one of the sides. -/
theorem side_cases (e : Event) : (∃ ac, e = .status ac) ∨ (∃ d, e = .capture d) ∨
    onAudioSide e = true ∨ onVideoSide e = true := by
  cases e <;> simp [onAudioSide, onVideoSide]

theorem queue_sizes_kept {e : Event} (h : s.next videoInfoFromCaps e = some t) :
    t.videosrc.queueSize = s.videosrc.queueSize ∧ t.audiosrc.queueSize = s.audiosrc.queueSize := by
  rcases side_cases e with ⟨ac, rfl⟩ | ⟨d, rfl⟩ | he | he
  · obtain ⟨-, rfl⟩ := status_eq h
    exact ⟨rfl, rfl⟩
  · obtain ⟨-, rfl⟩ := capture_eq h
    exact ⟨rfl, rfl⟩
  · have k := video_kept he h
    exact ⟨congrArg _ k.videosrc, k.queue_size⟩
  · have k := audio_kept he h
    exact ⟨k.queue_size, congrArg _ k.audiosrc⟩

theorem VideoKept.frame_in_hand (h : VideoKept s t) : frameInHand t.pc = frameInHand s.pc := by
  rcases h.pc with hp | ⟨hs, ht⟩
  · rw [hp]
  · rw [hs, ht]

end AjaPipelineSteps
