import NTV2Gst.AjaBufferOwnership

/-!
# How long the queues get

Only a frame makes room in the video queue; the marker of a change of signal is pushed without
a look at the size. Each marker is followed by one of the other kind, and the one of a signal
that came back by its frame, so little more than the size is ever in the queue, except while
frames are skipped.
-/
namespace AjaQueueBound

open TransitionRuns DropOldest GstAjaModes GstClockMath AjaVideoSrc AjaAudioSrc
  AjaCapturePipeline AjaPipelineSteps AjaBufferOwnership

variable {videoInfoFromCaps : GstCaps → GstVideoInfo} {s t : Pipeline}

/-! ## Buffers -/

structure BuffersBounded (s : Pipeline) : Prop where
  video : (withBuffer s.videosrc.currentFrames).length ≤ s.videosrc.queueSize
  audio : s.audiosrc.currentPackets.length ≤ s.audiosrc.queueSize
  video_queue_size : 0 < s.videosrc.queueSize
  audio_queue_size : 0 < s.audiosrc.queueSize

theorem with_buffer_markers (q : List AjaCaptureVideoFrame) (changes : List SignalChange) :
    withBuffer (q ++ changes.map marker) = withBuffer q := by
  simp [withBuffer, marker]

theorem with_buffer_prepare (src : GstAjaVideoSrc) (mode : GstAjaMode) (env : CaptureEnv)
    (v : Option AjaVideoBuff) :
    withBuffer (src.gotFramePrepare mode env v).1.currentFrames =
      withBuffer src.currentFrames := by
  rw [prepare_frames]
  split
  · rw [List.append_nil]
  · exact with_buffer_markers _ _

theorem with_buffer_length_le (q : List AjaCaptureVideoFrame) :
    (withBuffer q).length ≤ q.length :=
  List.length_filter_le _ _

theorem video_bounded_step {e : Event} (he : onVideoSide e = true)
    (h : (withBuffer s.videosrc.currentFrames).length ≤ s.videosrc.queueSize)
    (hq : 0 < s.videosrc.queueSize) (hn : s.next videoInfoFromCaps e = some t) :
    (withBuffer t.videosrc.currentFrames).length ≤ s.videosrc.queueSize := by
  cases e with
  | workerEnds =>
    obtain ⟨-, rfl⟩ := worker_ends_eq hn
    exact h
  | nullVideo =>
    obtain ⟨-, rfl | rfl⟩ := null_video_cases hn
    · have hw := with_buffer_prepare s.videosrc s.mode (clockAt 0) none
      change withBuffer s.videosrc.loseSignal.currentFrames = _ at hw
      simpa only [hw] using h
    · exact h
  | videoCallback =>
    obtain ⟨_, _, -, ⟨-, rfl⟩ | ⟨-, rfl⟩⟩ := video_callback_cases hn <;> exact h
  | gotFrame env =>
    obtain ⟨v, _, _, -, -, _, _, rfl, -⟩ := got_frame_cases hn
    simpa only [with_buffer_prepare] using h
  | queueFrame =>
    obtain ⟨_, _, _, _, _, -, ⟨-, rfl⟩ | ⟨-, rfl⟩⟩ := queue_frame_cases hn
    · exact h
    · exact (with_buffer_length_le _).trans (queue_frame_length hq _ _ _ _)
  | videoPop =>
    obtain ⟨f, src, -, -, hsrc, _, _, _, _, _, _, rfl⟩ := video_pop_cases hn
    refine Nat.le_trans ?_ h
    rw [hsrc]
    exact ((List.sublist_cons_self f src.currentFrames).filter _).length_le
  | videoReturn =>
    obtain ⟨_, _, -, rfl⟩ := video_return_eq hn
    exact h
  | videoUnlockStop =>
    obtain rfl := Option.some.inj hn
    exact Nat.zero_le _
  | videoStop =>
    obtain ⟨-, rfl⟩ := video_stop_eq hn
    exact Nat.zero_le _
  | videoUnlock | videoStartReset =>
    obtain rfl := Option.some.inj hn
    exact h
  | _ => cases he

theorem audio_bounded_step {e : Event} (he : onAudioSide e = true)
    (h : s.audiosrc.currentPackets.length ≤ s.audiosrc.queueSize)
    (hq : 0 < s.audiosrc.queueSize) (hn : s.next videoInfoFromCaps e = some t) :
    t.audiosrc.currentPackets.length ≤ s.audiosrc.queueSize := by
  cases e with
  | workerEnds =>
    obtain ⟨-, rfl⟩ := worker_ends_eq hn
    exact h
  | nullAudio =>
    obtain ⟨-, rfl | rfl⟩ := null_audio_cases hn <;> exact h
  | audioCallback =>
    obtain ⟨_, _, -, ⟨-, rfl⟩ | ⟨-, rfl⟩⟩ := audio_callback_cases hn <;> exact h
  | gotPacket =>
    obtain ⟨_, _, -, _, _, rfl, -⟩ := got_packet_cases hn
    exact h
  | queuePacket =>
    obtain ⟨_, _, _, -, ⟨-, rfl⟩ | ⟨-, rfl⟩⟩ := queue_packet_cases hn
    · exact h
    · exact queue_packet_length hq _ _ _
  | audioPop =>
    obtain ⟨p, src, -, -, hsrc, rfl⟩ := audio_pop_eq hn
    refine Nat.le_trans ?_ h
    rw [hsrc]
    exact Nat.le_succ _
  | audioReturn =>
    obtain ⟨_, _, _, -, rfl⟩ := audio_return_eq hn
    exact h
  | audioStopPop =>
    obtain rfl := Option.some.inj hn
    obtain ⟨-, hs⟩ | ⟨p, q, hp, hs⟩ := audio_stop_pop_cases s <;> rw [hs]
    · exact h
    · rw [hp] at h
      exact Nat.le_of_succ_le h
  | audioUnlockStop =>
    obtain rfl := Option.some.inj hn
    exact Nat.zero_le _
  | audioUnlock | audioReadyToPaused | audioEnable | audioStartReset | audioStop =>
    obtain rfl := Option.some.inj hn
    exact h
  | _ => cases he

theorem buffers_bounded_next {e : Event} (h : BuffersBounded s)
    (hn : s.next videoInfoFromCaps e = some t) : BuffersBounded t := by
  obtain ⟨hvs, has⟩ := queue_sizes_kept hn
  have sizes : 0 < t.videosrc.queueSize ∧ 0 < t.audiosrc.queueSize := by
    rw [hvs, has]
    exact ⟨h.video_queue_size, h.audio_queue_size⟩
  suffices hb : (withBuffer t.videosrc.currentFrames).length ≤ s.videosrc.queueSize ∧
      t.audiosrc.currentPackets.length ≤ s.audiosrc.queueSize from
    ⟨hvs ▸ hb.1, has ▸ hb.2, sizes.1, sizes.2⟩
  rcases side_cases e with ⟨ac, rfl⟩ | ⟨d, rfl⟩ | he | he
  · obtain ⟨-, rfl⟩ := status_eq hn
    exact ⟨h.video, h.audio⟩
  · obtain ⟨-, rfl⟩ := capture_eq hn
    exact ⟨h.video, h.audio⟩
  · exact ⟨by rw [(video_kept he hn).videosrc]; exact h.video,
      audio_bounded_step he h.audio h.audio_queue_size hn⟩
  · exact ⟨video_bounded_step he h.video h.video_queue_size hn,
      by rw [(audio_kept he hn).audiosrc]; exact h.audio⟩

theorem buffers_bounded (h : Reachable (pipeline videoInfoFromCaps) s) : BuffersBounded s :=
  h.invariant
    (fun i hi => ⟨by simp [hi.no_frames, withBuffer], by simp [hi.no_packets],
      hi.video_queue_size, hi.audio_queue_size⟩)
    fun _ _ _ hb _ hn => buffers_bounded_next hb hn

/-! ## Markers -/

def NoSkip (s : Pipeline) : Event → Prop
  | .gotFrame env => ∀ v a, s.pc = .gotFrame v a → s.videosrc.skipsFrame s.mode env v = false
  | _ => True

/-- The marker that the frame of a recovered signal will make room for. -/
def slack (src : GstAjaVideoSrc) : ℕ := if src.signalState = .lost then 1 else 0

def Queueing (pc : WorkerPc) : Prop := ∃ v a ts st had, pc = .queueFrame v a ts st had

structure EntriesBounded (s : Pipeline) : Prop where
  size : s.videosrc.currentFrames.length ≤ s.videosrc.queueSize + 2
  settled : s.videosrc.flushing = false → ¬ Queueing s.pc →
    s.videosrc.currentFrames.length ≤ s.videosrc.queueSize + slack s.videosrc
  queue_size : 0 < s.videosrc.queueSize

theorem slack_le (src : GstAjaVideoSrc) : slack src ≤ 1 := by
  unfold slack
  split <;> decide

theorem prepare_length (src : GstAjaVideoSrc) (mode : GstAjaMode) (env : CaptureEnv)
    (v : Option AjaVideoBuff) :
    (src.gotFramePrepare mode env v).1.currentFrames.length = src.currentFrames.length +
      if src.flushing then 0 else (src.change v).toList.length := by
  rw [prepare_frames]
  split <;> simp

theorem lost_slack (src : GstAjaVideoSrc) {v : Option AjaVideoBuff}
    (h : (v.filter (·.haveSignal)).isSome = false) (mode : GstAjaMode) (env : CaptureEnv) :
    (src.change v).toList.length + slack src = slack (src.gotFramePrepare mode env v).1 := by
  by_cases hl : src.signalState = .lost <;>
    simp [GstAjaVideoSrc.change, slack, prepare_signal_state, h, hl]

theorem change_length_le (src : GstAjaVideoSrc) (v : Option AjaVideoBuff) :
    (src.change v).toList.length ≤ 1 := by
  cases src.change v <;> simp

theorem entries_prepare {v : Option AjaVideoBuff} (h : EntriesBounded s)
    (hpc : ¬ Queueing s.pc) (env : CaptureEnv) :
    ((s.videosrc.gotFramePrepare s.mode env v).1.currentFrames.length ≤
      s.videosrc.queueSize + 2) ∧
    (s.videosrc.flushing = false → (v.filter (·.haveSignal)).isSome = false →
      (s.videosrc.gotFramePrepare s.mode env v).1.currentFrames.length ≤
        s.videosrc.queueSize + slack (s.videosrc.gotFramePrepare s.mode env v).1) := by
  rw [prepare_length]
  constructor
  · cases hf : s.videosrc.flushing with
    | true =>
      have := h.size
      simpa using this
    | false =>
      have h₁ := h.settled hf hpc
      have h₂ := slack_le s.videosrc
      have h₃ := change_length_le s.videosrc v
      simp only [Bool.false_eq_true, if_false]
      omega
  · intro hf hlost
    have h₁ := h.settled hf hpc
    have h₂ := lost_slack s.videosrc hlost s.mode env
    simp only [hf, Bool.false_eq_true, if_false]
    omega

theorem EntriesBounded.of_same (h : EntriesBounded s)
    (hframes : t.videosrc.currentFrames = s.videosrc.currentFrames)
    (hsize : t.videosrc.queueSize = s.videosrc.queueSize)
    (hflush : t.videosrc.flushing = false → s.videosrc.flushing = false)
    (hstate : t.videosrc.signalState = s.videosrc.signalState)
    (hpc : ¬ Queueing t.pc → ¬ Queueing s.pc) : EntriesBounded t := by
  refine ⟨by rw [hframes, hsize]; exact h.size, fun hf hq => ?_, by rw [hsize]; exact h.queue_size⟩
  rw [hframes, hsize, slack, hstate]
  exact h.settled (hflush hf) (hpc hq)

theorem EntriesBounded.of_empty (hq : 0 < t.videosrc.queueSize)
    (h : t.videosrc.currentFrames = []) : EntriesBounded t :=
  ⟨by simp [h], fun _ _ => by simp [h], hq⟩

theorem entries_bounded_video {e : Event} (he : onVideoSide e = true) (h : EntriesBounded s)
    (hskip : NoSkip s e) (hn : s.next videoInfoFromCaps e = some t) : EntriesBounded t := by
  cases e with
  | workerEnds =>
    obtain ⟨hpc, rfl⟩ := worker_ends_eq hn
    exact h.of_same rfl rfl id rfl fun _ => by simp [Queueing, hpc]
  | nullVideo =>
    obtain ⟨hpc, ht⟩ := null_video_cases hn
    have hno : ¬ Queueing s.pc := by simp [Queueing, hpc]
    rcases ht with rfl | rfl
    · have k := lose_signal_settings s.videosrc
      obtain ⟨hsize, hsettled⟩ := entries_prepare (v := none) h hno (clockAt 0)
      refine ⟨?_, fun hf _ => ?_, ?_⟩
      · exact k.queueSize ▸ hsize
      · exact k.queueSize ▸ hsettled (k.flushing ▸ hf) rfl
      · exact k.queueSize ▸ h.queue_size
    · exact h.of_same rfl rfl id rfl fun _ => hno
  | videoCallback =>
    obtain ⟨_, _, hpc, ⟨-, rfl⟩ | ⟨-, rfl⟩⟩ := video_callback_cases hn <;>
      exact h.of_same rfl rfl id rfl fun _ => by simp [Queueing, hpc]
  | gotFrame env =>
    obtain ⟨v, a, verdict, hpc, hverdict, pc, video, rfl, hv⟩ := got_frame_cases hn
    have k := prepare_settings s.videosrc s.mode env (some v)
    have hno : ¬ Queueing s.pc := by simp [Queueing, hpc]
    obtain ⟨hsize, hsettled⟩ := entries_prepare (v := some v) h hno env
    refine ⟨k.queueSize ▸ hsize, fun hf hq => ?_, k.queueSize ▸ h.queue_size⟩
    rcases hv with ⟨hno', rfl, -⟩ | ⟨hskips, rfl, -⟩ | ⟨ts, st, had, -, rfl, -⟩
    · have hlost : ((some v).filter (·.haveSignal)).isSome = false := by
        rw [hno'] at hverdict
        simp [Option.filter, no_signal_of_prepare hverdict]
      exact k.queueSize ▸ hsettled (k.flushing ▸ hf) hlost
    · have hskip' := hskip v a hpc
      rw [skips_of_prepare (hverdict.trans hskips)] at hskip'
      cases hskip'
    · exact absurd ⟨v, a, ts, st, had, rfl⟩ hq
  | queueFrame =>
    obtain ⟨_, _, _, _, _, -, ⟨hflush, rfl⟩ | ⟨-, rfl⟩⟩ := queue_frame_cases hn
    · refine ⟨h.size, fun hf => ?_, h.queue_size⟩
      rw [show s.videosrc.flushing = false from hf] at hflush
      cases hflush
    · have hlen := queue_frame_length (s := s) h.queue_size
      exact ⟨(hlen _ _ _ _).trans (Nat.le_add_right _ _),
        fun _ _ => (hlen _ _ _ _).trans (Nat.le_add_right _ _), h.queue_size⟩
  | videoPop =>
    obtain ⟨f, src, -, hflush, hsrc, _, _, _, _, _, _, rfl⟩ := video_pop_cases hn
    have hlen : src.currentFrames.length ≤ s.videosrc.currentFrames.length := by
      rw [hsrc]
      exact Nat.le_succ _
    have hsize : src.queueSize = s.videosrc.queueSize := by rw [hsrc]
    have hslack : slack src = slack s.videosrc := by rw [slack, slack, hsrc]
    refine ⟨?_, fun _ hq => ?_, by simpa [hsize] using h.queue_size⟩
    · exact hsize ▸ hlen.trans h.size
    · exact hsize ▸ hlen.trans ((h.settled hflush hq).trans (Nat.le_of_eq (by rw [← hslack]; rfl)))
  | videoReturn =>
    obtain ⟨_, _, -, rfl⟩ := video_return_eq hn
    exact h.of_same rfl rfl id rfl id
  | videoUnlock =>
    obtain rfl := Option.some.inj hn
    exact h.of_same rfl rfl (by simp [GstAjaVideoSrc.unlock]) rfl id
  | videoStartReset =>
    obtain rfl := Option.some.inj hn
    exact h.of_same rfl rfl id rfl id
  | videoUnlockStop =>
    obtain rfl := Option.some.inj hn
    exact .of_empty h.queue_size rfl
  | videoStop =>
    obtain ⟨-, rfl⟩ := video_stop_eq hn
    exact .of_empty h.queue_size rfl
  | _ => cases he

theorem entries_bounded_next {e : Event} (h : EntriesBounded s) (hskip : NoSkip s e)
    (hn : s.next videoInfoFromCaps e = some t) : EntriesBounded t := by
  rcases side_cases e with ⟨ac, rfl⟩ | ⟨d, rfl⟩ | he | he
  · obtain ⟨-, rfl⟩ := status_eq hn
    exact h.of_same rfl rfl id rfl id
  · obtain ⟨hpc, rfl⟩ := capture_eq hn
    exact h.of_same rfl rfl id rfl fun _ => by simp [Queueing, hpc]
  · have k := video_kept he hn
    refine h.of_same (by rw [k.videosrc]) (by rw [k.videosrc]) (by rw [k.videosrc]; exact id)
      (by rw [k.videosrc]) fun hq hqs => ?_
    rcases k.pc with hsame | ⟨hnone, -⟩
    · exact hq (hsame ▸ hqs)
    · obtain ⟨_, _, _, _, _, hpc⟩ := hqs
      rw [hpc] at hnone
      cases hnone
  · exact entries_bounded_video he h hskip hn

theorem entries_bounded (h : ReachableWhile (pipeline videoInfoFromCaps) NoSkip s) :
    EntriesBounded s :=
  h.invariant (fun _ hi => .of_empty hi.video_queue_size hi.no_frames)
    fun _ _ _ hb ha hn => entries_bounded_next hb ha hn

/-! ## While frames are skipped -/

theorem stream_time_anchor (n : ℕ) : streamTime mode720p5994 1000 n n = 1000 := by
  have hsub : u64Sub n n = 0 := by
    rw [u64Sub, Nat.add_sub_cancel]
    rfl
  rw [streamTime, hsub]
  decide

theorem skipped_after_loss {src : GstAjaVideoSrc} {b : AjaVideoBuff}
    (hlost : src.signalState = .lost)
    (hfirst : src.firstTime = clockTimeNone ∨ src.firstTime = 1000)
    (hskip : 0 < src.skipFirstTime) (hb : b.haveSignal = true) (ht : b.timeStamp = 0) :
    (src.gotFramePrepare mode720p5994 (clockAt 1000) (some b)).2 = .skipped ∧
      (src.gotFramePrepare mode720p5994 (clockAt 1000) (some b)).1.firstTime = 1000 := by
  have htime : (clockAt 1000).clock.capturePipeline (some b) = 1000 := by
    simp [CaptureClock.capturePipeline, clockAt, ht]
  have hanchor : (src.anchor mode720p5994 1000 b.frameNumber).1.firstTime = 1000 ∧
      (src.anchor mode720p5994 1000 b.frameNumber).1.discontTime = 1000 ∧
      (src.anchor mode720p5994 1000 b.frameNumber).1.discontFrameNumber = b.frameNumber ∧
      (src.anchor mode720p5994 1000 b.frameNumber).1.skipFirstTime = src.skipFirstTime := by
    rcases hfirst with hf | hf <;> cases hfl : src.flushing <;>
      simp [GstAjaVideoSrc.anchor, GstAjaVideoSrc.gainSignal, GstAjaVideoSrc.pushMarker,
        GstAjaVideoSrc.noteFirstTime, GstAjaVideoSrc.streamTime, hlost, hf, hfl,
        stream_time_anchor, clockTimeNone, maxUint64]
  obtain ⟨hfirst', htime', hnumber, hskip'⟩ := hanchor
  have hskips : (src.anchor mode720p5994 1000 b.frameNumber).1.skips
      ((src.anchor mode720p5994 1000 b.frameNumber).1.streamTime mode720p5994 b.frameNumber) =
        true := by
    rw [GstAjaVideoSrc.skips, GstAjaVideoSrc.streamTime, hfirst', htime', hnumber, hskip',
      stream_time_anchor]
    have h0 : u64Sub 1000 1000 = 0 := by decide
    simp [h0, hskip]
  simp [GstAjaVideoSrc.gotFramePrepare, Option.filter, hb, htime, hskips, hfirst']

structure Stuttering (s : Pipeline) : Prop where
  mode : s.mode = mode720p5994
  pc : s.pc = .idle
  video : (s.videoCallback && s.videoEnabled) = true
  audio : (s.audioCallback && s.audioEnabled) = false
  flushing : s.videosrc.flushing = false
  first_time : s.videosrc.firstTime = clockTimeNone ∨ s.videosrc.firstTime = 1000
  skip : 0 < s.videosrc.skipFirstTime
  queue_size : s.videosrc.queueSize = 1

def stutter : List Event :=
  [.nullVideo, .nullAudio, .capture (deviceFrame true 0), .videoCallback, .gotFrame (clockAt 1000),
    .audioCallback]

theorem lose_signal_frames_le (src : GstAjaVideoSrc) :
    src.currentFrames.length ≤ src.loseSignal.currentFrames.length := by
  have h := prepare_length src mode720p5994 (clockAt 0) none
  change src.loseSignal.currentFrames.length = _ at h
  exact h ▸ Nat.le_add_right _ _

theorem lose_signal_first_time (src : GstAjaVideoSrc) :
    src.loseSignal.firstTime = src.firstTime := by
  unfold GstAjaVideoSrc.loseSignal GstAjaVideoSrc.pushMarker
  split
  · rfl
  · split <;> rfl

theorem stutter_grows (h : Stuttering s) :
    ∃ t, runTrace (pipeline videoInfoFromCaps) s stutter = some t ∧ Stuttering t ∧
      s.videosrc.currentFrames.length < t.videosrc.currentFrames.length := by
  have k := lose_signal_settings s.videosrc
  let b := s.worker.videoBuff s.nextBuffer (deviceFrame true 0)
  have hskipped := skipped_after_loss (b := b) (lose_signal_state s.videosrc)
    (by rw [lose_signal_first_time]; exact h.first_time) (by rw [k.skipFirstTime]; exact h.skip)
    rfl rfl
  have k' := prepare_settings s.videosrc.loseSignal mode720p5994 (clockAt 1000) (some b)
  have hgain : s.videosrc.loseSignal.change (some b) = some .recoveredSignal := by
    simp [GstAjaVideoSrc.change, Option.filter, lose_signal_state, GstAjaSignalState.gain, b,
      ACInputWorker.videoBuff, deviceFrame]
  have hlen := prepare_length s.videosrc.loseSignal mode720p5994 (clockAt 1000) (some b)
  rw [hgain, k.flushing, h.flushing] at hlen
  have hrun : ∃ t, runTrace (pipeline videoInfoFromCaps) s stutter = some t ∧
      t.mode = s.mode ∧ t.pc = .idle ∧ t.videoCallback = s.videoCallback ∧
      t.videoEnabled = s.videoEnabled ∧ t.audioCallback = s.audioCallback ∧
      t.audioEnabled = s.audioEnabled ∧ t.videosrc =
        (s.videosrc.loseSignal.gotFramePrepare mode720p5994 (clockAt 1000) (some b)).1 := by
    have hv : s.videoCallback = true ∧ s.videoEnabled = true := by simpa using h.video
    have ha : s.audioCallback = true → s.audioEnabled = false := by simpa using h.audio
    have hverdict : (s.videosrc.loseSignal.gotFramePrepare mode720p5994 (clockAt 1000)
        (some (s.worker.videoBuff s.nextBuffer (deviceFrame true 0)))).2 = .skipped := hskipped.1
    by_cases hc : s.audioCallback = true
    · simp [runTrace, stutter, pipeline, Pipeline.next, Pipeline.nullVideo, Pipeline.nullAudio,
        Pipeline.capture, Pipeline.videoCallbackStep, Pipeline.gotFrame,
        Pipeline.audioCallbackStep, h.pc, hv.1, hv.2, hc, ha hc, h.mode, hverdict, b]
    · simp [runTrace, stutter, pipeline, Pipeline.next, Pipeline.nullVideo, Pipeline.nullAudio,
        Pipeline.capture, Pipeline.videoCallbackStep, Pipeline.gotFrame,
        Pipeline.audioCallbackStep, h.pc, hv.1, hv.2, hc, h.mode, hverdict, b]
  obtain ⟨t, hr, hmode, hpc, hvc, hve, hac, hae, hsrc⟩ := hrun
  refine ⟨t, hr, ⟨hmode.trans h.mode, hpc, ?_, ?_, ?_, Or.inr ?_, ?_, ?_⟩, ?_⟩
  · rw [hvc, hve, h.video]
  · rw [hac, hae, h.audio]
  · rw [hsrc, k'.flushing, k.flushing, h.flushing]
  · rw [hsrc, hskipped.2]
  · rw [hsrc, k'.skipFirstTime, k.skipFirstTime]
    exact h.skip
  · rw [hsrc, k'.queueSize, k.queueSize, h.queue_size]
  · rw [hsrc, hlen]
    exact Nat.lt_succ_of_le (lose_signal_frames_le _)

def skippingPipeline : Pipeline :=
  { startedPipeline 1 false with
    videosrc := (GstAjaVideoSrc.init 15 1 false (2 ^ 63)).startStreams }

theorem skipping_started : Started skippingPipeline := by
  constructor <;> first | rfl | decide | exact ⟨15, rfl⟩

theorem stuttering_reachable (n : ℕ) : ∃ s, Reachable (pipeline videoInfoFromCaps) s ∧
    Stuttering s ∧ n ≤ s.videosrc.currentFrames.length := by
  induction n with
  | zero =>
    refine ⟨skippingPipeline, ⟨_, skipping_started, .refl _⟩, ?_, Nat.zero_le _⟩
    constructor <;> first | rfl | decide
  | succ n ih =>
    obtain ⟨s, ⟨i, hi, he⟩, hs, hn⟩ := ih
    obtain ⟨t, hr, ht, hlt⟩ := @stutter_grows videoInfoFromCaps s hs
    exact ⟨t, ⟨i, hi, he.trans (run_trace_execution hr)⟩, ht, Nat.lt_of_le_of_lt hn hlt⟩

/-- In every run the buffers in each queue are within its size. The entries of the video queue
exceed it by at most two as long as no frame is skipped, and by any number when frames are. -/
theorem queue_bounded :
    (∀ s, Reachable (pipeline videoInfoFromCaps) s →
      (withBuffer s.videosrc.currentFrames).length ≤ s.videosrc.queueSize ∧
        s.audiosrc.currentPackets.length ≤ s.audiosrc.queueSize) ∧
    (∀ s, ReachableWhile (pipeline videoInfoFromCaps) NoSkip s →
      s.videosrc.currentFrames.length ≤ s.videosrc.queueSize + 2) ∧
    ∀ n, ∃ s, Reachable (pipeline videoInfoFromCaps) s ∧ s.videosrc.queueSize = 1 ∧
      n ≤ s.videosrc.currentFrames.length := by
  refine ⟨fun s h => ?_, fun s h => (entries_bounded h).size, fun n => ?_⟩
  · have hb := buffers_bounded h
    exact ⟨hb.video, hb.audio⟩
  · obtain ⟨s, hs, hstutter, hn⟩ := @stuttering_reachable videoInfoFromCaps n
    exact ⟨s, hs, hstutter.queue_size, hn⟩

end AjaQueueBound
