import NTV2Gst.AjaPipelineSteps

/-!
# Times of a frame and of its packet

The audio source dates a packet with the anchor and the mapping of the video source,
after the video source dated the frame. The two formulas agree as long as the frame
number fits into the 32 bits a packet has for it. Property writes and a restart of the
streams are steps here too.
-/
namespace AjaTimeAgreement

open TransitionRuns GstClockMath GstAjaModes AjaVideoSrc AjaAudioSrc AjaCapturePipeline
  AjaPipelineSteps

inductive Action where
  | pipeline (e : Event)
  | setProperties (modeEnum queueSize : ℕ) (outputStreamTime : Bool) (skipFirstTime : ℕ)
  | startStreams
  deriving DecidableEq, Repr

def timedNext (videoInfoFromCaps : GstCaps → GstVideoInfo) (s : Pipeline) :
    Action → Option Pipeline
  | .pipeline e => s.next videoInfoFromCaps e
  | .setProperties modeEnum queueSize outputStreamTime skipFirstTime =>
    some { s with videosrc := { s.videosrc with
      modeEnum := modeEnum
      queueSize := queueSize
      outputStreamTime := outputStreamTime
      skipFirstTime := skipFirstTime } }
  | .startStreams => some { s with videosrc := s.videosrc.startStreams }

def timed (videoInfoFromCaps : GstCaps → GstVideoInfo) : Machine Pipeline Action where
  initial := Started
  next := timedNext videoInfoFromCaps

def WorkerPc.prepared : WorkerPc → Option (AjaAudioBuff × FrameVerdict)
  | .queueFrame _ a timestamp streamTime hadSignal =>
    some (a, .queue timestamp streamTime hadSignal)
  | .audioCallback a (some verdict) | .gotPacket a (some verdict) => some (a, verdict)
  | _ => none

def WorkerPc.captured : WorkerPc → Option (AjaVideoBuff × AjaAudioBuff)
  | .videoCallback v a | .gotFrame v a => some (v, a)
  | _ => none

/-- The clock never reads `GST_CLOCK_TIME_NONE`, and between the two callbacks of a frame
the video source is left alone. -/
def Undisturbed (s : Pipeline) : Action → Prop
  | .pipeline (.gotFrame env) => env.clock.nowPipeline < clockTimeNone
  | .pipeline _ => True
  | .setProperties .. | .startStreams => WorkerPc.prepared s.pc = none

def NumberFits (s : Pipeline) : Action → Prop
  | .pipeline (.capture d) => d.haveSignal = true →
    s.worker.processedFrames + s.worker.droppedFrames < 2 ^ 32
  | _ => True

def NumbersFit (s : Pipeline) (x : Action) : Prop := Undisturbed s x ∧ NumberFits s x

def Agrees (verdict : FrameVerdict) (packet : PacketVerdict) : Prop :=
  (packet = .skipped ↔ verdict = .skipped) ∧
    ∀ timestamp streamTime hadSignal, verdict = .queue timestamp streamTime hadSignal →
      packet = .queue timestamp streamTime

def SameTimes (s : Pipeline) : Prop :=
  ∀ a verdict, s.pc = .gotPacket a (some verdict) → a.haveSignal = true →
    Agrees verdict (s.audiosrc.gotPacketPrepare (some s.videosrc) s.mode (some a)).2

/-! ## What both formulas read -/

structure SameTiming (a b : GstAjaVideoSrc) : Prop where
  first_time : b.firstTime = a.firstTime
  discont_time : b.discontTime = a.discontTime
  discont_frame_number : b.discontFrameNumber = a.discontFrameNumber
  skip_first_time : b.skipFirstTime = a.skipFirstTime
  output_stream_time : b.outputStreamTime = a.outputStreamTime
  current_time_mapping : b.currentTimeMapping = a.currentTimeMapping

/-- The verdict follows from the state that the audio source will see. -/
def Dated (src : GstAjaVideoSrc) (mode : GstAjaMode) (frameNumber : ℕ) : FrameVerdict → Prop
  | .noSignal => False
  | .skipped => src.skips (src.streamTime mode frameNumber) = true
  | .queue timestamp streamTime _ =>
    src.skips streamTime = false ∧ streamTime = src.streamTime mode frameNumber ∧
      timestamp = src.timestamp streamTime

theorem dated_of_same_timing {a b : GstAjaVideoSrc} (h : SameTiming a b) (mode : GstAjaMode)
    (n : ℕ) (verdict : FrameVerdict) : Dated b mode n verdict ↔ Dated a mode n verdict := by
  have hskips : b.skips = a.skips := by
    funext t
    rw [GstAjaVideoSrc.skips, GstAjaVideoSrc.skips, h.first_time, h.skip_first_time]
  have htime : b.streamTime mode n = a.streamTime mode n := by
    rw [GstAjaVideoSrc.streamTime, GstAjaVideoSrc.streamTime, h.discont_time,
      h.discont_frame_number]
  have hstamp : b.timestamp = a.timestamp := by
    funext t
    rw [GstAjaVideoSrc.timestamp, GstAjaVideoSrc.timestamp, h.output_stream_time,
      h.current_time_mapping]
  cases verdict <;> simp only [Dated, hskips, htime, hstamp]

theorem agrees_of_dated {src : GstAjaVideoSrc} {mode : GstAjaMode} {a : AjaAudioBuff}
    {verdict : FrameVerdict} (audiosrc : GstAjaAudioSrc) (ha : a.haveSignal = true)
    (hf : src.firstTime ≠ clockTimeNone) (hd : Dated src mode a.frameNumber verdict) :
    Agrees verdict (audiosrc.gotPacketPrepare (some src) mode (some a)).2 := by
  unfold GstAjaAudioSrc.gotPacketPrepare
  simp only [Option.filter, ha, if_true, hf, if_false]
  cases verdict with
  | noSignal => exact hd.elim
  | skipped => simp [show src.skips _ = true from hd, Agrees]
  | queue timestamp streamTime hadSignal =>
    obtain ⟨hk, rfl, rfl⟩ := hd
    simp [hk, Agrees]

/-! ## The anchor -/

def Anchored (src : GstAjaVideoSrc) : Prop :=
  src.firstTime = clockTimeNone → src.discontTime = clockTimeNone

theorem push_marker_timing (src : GstAjaVideoSrc) (c : SignalChange) :
    SameTiming src (src.pushMarker c) := by
  unfold GstAjaVideoSrc.pushMarker
  split <;> constructor <;> rfl

theorem lose_signal_timing (src : GstAjaVideoSrc) : SameTiming src src.loseSignal := by
  unfold GstAjaVideoSrc.loseSignal GstAjaVideoSrc.pushMarker
  split
  · constructor <;> rfl
  · split <;> constructor <;> rfl

theorem stream_time_at_anchor {mode : GstAjaMode} (hm : RateValid mode.fpsN mode.fpsD) {t : ℕ}
    (ht : t < 2 ^ 64) (n : ℕ) : streamTime mode t n n = t := by
  have hsub : u64Sub n n = 0 := by simp [u64Sub]
  have hscale : uint64Scale 0 (mode.fpsD * second) mode.fpsN = 0 := by
    simp [uint64Scale, hm.num_pos.ne']
  rw [streamTime, hsub, hscale]
  exact u64_add_of_lt ht

theorem gain_signal_discont_time {src : GstAjaVideoSrc} (h : src.discontTime = clockTimeNone)
    (t n : ℕ) : (src.gainSignal t n).1.discontTime = t ∧
      (src.gainSignal t n).1.discontFrameNumber = n := by
  unfold GstAjaVideoSrc.gainSignal
  split
  · simp
  · exact ⟨rfl, rfl⟩

theorem gain_signal_first_time (src : GstAjaVideoSrc) (t n : ℕ) :
    (src.gainSignal t n).1.firstTime = src.firstTime := by
  unfold GstAjaVideoSrc.gainSignal
  split
  · split <;> rfl
  · exact (push_marker_timing { src with signalState := .available } _).first_time

theorem anchor_first_time {src : GstAjaVideoSrc} (hs : Anchored src) {mode : GstAjaMode}
    (hm : RateValid mode.fpsN mode.fpsD) {t : ℕ} (ht : t < clockTimeNone) (n : ℕ) :
    (src.anchor mode t n).1.firstTime ≠ clockTimeNone := by
  unfold GstAjaVideoSrc.anchor GstAjaVideoSrc.noteFirstTime
  simp only [gain_signal_first_time]
  split
  case isFalse hf => rwa [gain_signal_first_time]
  case isTrue hf =>
    obtain ⟨h₁, h₂⟩ := gain_signal_discont_time (hs hf) t n
    have ht' : t < 2 ^ 64 := ht.trans (by decide)
    simp only [GstAjaVideoSrc.streamTime, h₁, h₂, stream_time_at_anchor hm ht']
    exact ht.ne

theorem same_stream_time {a b : GstAjaVideoSrc} (h : SameStream a b) (mode : GstAjaMode) (n : ℕ) :
    b.streamTime mode n = a.streamTime mode n := by
  rw [GstAjaVideoSrc.streamTime, GstAjaVideoSrc.streamTime, h.discontTime, h.discontFrameNumber]

theorem dated_of_prepare {src : GstAjaVideoSrc} (hs : Anchored src) {mode : GstAjaMode}
    (hm : RateValid mode.fpsN mode.fpsD) {env : CaptureEnv} {v : AjaVideoBuff}
    (ht : env.clock.capturePipeline (some v) < clockTimeNone) (hv : v.haveSignal = true) :
    (src.gotFramePrepare mode env (some v)).1.firstTime ≠ clockTimeNone ∧
      Dated (src.gotFramePrepare mode env (some v)).1 mode v.frameNumber
        (src.gotFramePrepare mode env (some v)).2 := by
  have hfirst := anchor_first_time hs hm ht v.frameNumber
  simp only [GstAjaVideoSrc.gotFramePrepare, Option.filter, hv, if_true]
  generalize (src.anchor mode (env.clock.capturePipeline (some v)) v.frameNumber).1 = a at hfirst ⊢
  split
  case isTrue hk => exact ⟨hfirst, hk⟩
  case isFalse hk =>
    have same := update_time_mapping_stream a (env.clock.capturePipeline (some v))
      (a.streamTime mode v.frameNumber) v.droppedChanged env.regression
    refine ⟨same.firstTime ▸ hfirst, ?_, ?_, rfl⟩
    · simpa only [GstAjaVideoSrc.skips, same.firstTime, same.skipFirstTime, Bool.not_eq_true]
        using hk
    · exact (same_stream_time same mode v.frameNumber).symm

theorem anchored_of_prepare {src : GstAjaVideoSrc} (hs : Anchored src) {mode : GstAjaMode}
    (hm : RateValid mode.fpsN mode.fpsD) {env : CaptureEnv} {v : AjaVideoBuff}
    (ht : env.clock.capturePipeline (some v) < clockTimeNone) :
    Anchored (src.gotFramePrepare mode env (some v)).1 := by
  cases hv : v.haveSignal with
  | true => exact fun h => absurd h (dated_of_prepare hs hm ht hv).1
  | false =>
    have same := lose_signal_timing src
    simp only [GstAjaVideoSrc.gotFramePrepare, Option.filter, hv]
    exact fun h => same.discont_time.trans (hs (same.first_time ▸ h))

/-! ## Runs -/

variable {videoInfoFromCaps : GstCaps → GstVideoInfo} {s t : Pipeline} {e : Event}

/-- The invariant behind the agreement. -/
structure Consistent (s : Pipeline) : Prop where
  mode : RateValid s.mode.fpsN s.mode.fpsD
  anchored : Anchored s.videosrc
  numbers : ∀ v a, WorkerPc.captured s.pc = some (v, a) →
    a.haveSignal = v.haveSignal ∧ (v.haveSignal = true → a.frameNumber = v.frameNumber)
  dated : ∀ a verdict, WorkerPc.prepared s.pc = some (a, verdict) → a.haveSignal = true →
    s.videosrc.firstTime ≠ clockTimeNone ∧ Dated s.videosrc s.mode a.frameNumber verdict

structure Quiet (s t : Pipeline) : Prop where
  timing : SameTiming s.videosrc t.videosrc
  mode : t.mode = s.mode
  captured : WorkerPc.captured t.pc = none ∨ WorkerPc.captured t.pc = WorkerPc.captured s.pc
  prepared : WorkerPc.prepared t.pc = none ∨ WorkerPc.prepared t.pc = WorkerPc.prepared s.pc

theorem same_timing_refl (a : GstAjaVideoSrc) : SameTiming a a := by constructor <;> rfl

theorem consistent_of_quiet (hi : Consistent s) (hq : Quiet s t) : Consistent t := by
  obtain ⟨hmode, hanchored, hnumbers, hdated⟩ := hi
  refine ⟨by rwa [hq.mode], ?_, ?_, ?_⟩
  · intro hf
    exact hq.timing.discont_time.trans (hanchored (hq.timing.first_time ▸ hf))
  · intro v a hv
    rcases hq.captured with h | h
    · rw [h] at hv; cases hv
    · exact hnumbers v a (h ▸ hv)
  · intro a verdict hv ha
    rcases hq.prepared with h | h
    · rw [h] at hv; cases hv
    · obtain ⟨h₁, h₂⟩ := hdated a verdict (h ▸ hv) ha
      refine ⟨by rwa [hq.timing.first_time], ?_⟩
      rw [hq.mode]
      exact (dated_of_same_timing hq.timing _ _ _).mpr h₂

theorem Quiet.of_idle (hs : SameTiming s.videosrc t.videosrc) (hm : t.mode = s.mode)
    (hpc : t.pc = .idle ∨ t.pc = .nullAudio ∨ t.pc = .ended) : Quiet s t := by
  rcases hpc with hpc | hpc | hpc <;>
    exact ⟨hs, hm, Or.inl (by rw [hpc]; rfl), Or.inl (by rw [hpc]; rfl)⟩

theorem Quiet.of_pc (hs : SameTiming s.videosrc t.videosrc) (hm : t.mode = s.mode)
    (hpc : t.pc = s.pc) : Quiet s t :=
  ⟨hs, hm, Or.inr (by rw [hpc]), Or.inr (by rw [hpc])⟩

theorem quiet_step (hcap : ∀ d, e ≠ .capture d) (hgot : ∀ env, e ≠ .gotFrame env)
    (h : s.next videoInfoFromCaps e = some t) : Quiet s t := by
  have same := same_timing_refl s.videosrc
  cases e with
  | status ac =>
    obtain ⟨-, rfl⟩ := status_eq h
    exact .of_pc same rfl rfl
  | capture d => exact absurd rfl (hcap d)
  | nullVideo =>
    obtain ⟨-, rfl | rfl⟩ := null_video_cases h
    · exact .of_idle (lose_signal_timing _) rfl (Or.inr (Or.inl rfl))
    · exact .of_idle same rfl (Or.inr (Or.inl rfl))
  | nullAudio =>
    obtain ⟨-, rfl | rfl⟩ := null_audio_cases h <;> exact .of_idle same rfl (Or.inl rfl)
  | videoCallback =>
    obtain ⟨v, a, hpc, ⟨-, rfl⟩ | ⟨-, rfl⟩⟩ := video_callback_cases h
    · exact ⟨same, rfl, Or.inr (by rw [hpc]; rfl), Or.inl rfl⟩
    · exact ⟨same, rfl, Or.inl rfl, Or.inl rfl⟩
  | gotFrame env => exact absurd rfl (hgot env)
  | queueFrame =>
    obtain ⟨v, a, ts, st, had, hpc, ⟨-, rfl⟩ | ⟨-, rfl⟩⟩ := queue_frame_cases h
    · exact ⟨same, rfl, Or.inl rfl, Or.inr (by rw [hpc]; rfl)⟩
    · exact ⟨by constructor <;> rfl, rfl, Or.inl rfl, Or.inr (by rw [hpc]; rfl)⟩
  | audioCallback =>
    obtain ⟨a, verdict, hpc, ⟨-, rfl⟩ | ⟨-, rfl⟩⟩ := audio_callback_cases h
    · exact ⟨same, rfl, Or.inl rfl, Or.inr (by rw [hpc]; cases verdict <;> rfl)⟩
    · exact .of_idle same rfl (Or.inl rfl)
  | gotPacket =>
    obtain ⟨a, memory, -, pc, audio, rfl, hv⟩ := got_packet_cases h
    rcases hv with ⟨-, rfl, -⟩ | ⟨-, rfl, -⟩ | ⟨ts, st, -, rfl, -⟩
    · exact .of_idle same rfl (Or.inl rfl)
    · exact .of_idle same rfl (Or.inl rfl)
    · exact ⟨same, rfl, Or.inl rfl, Or.inl rfl⟩
  | queuePacket =>
    obtain ⟨_, _, _, -, ⟨-, rfl⟩ | ⟨-, rfl⟩⟩ := queue_packet_cases h <;>
      exact .of_idle same rfl (Or.inl rfl)
  | workerEnds =>
    obtain ⟨-, rfl⟩ := worker_ends_eq h
    exact .of_idle same rfl (Or.inr (Or.inr rfl))
  | videoPop =>
    obtain ⟨f, src, -, -, hsrc, _, _, _, _, _, _, rfl⟩ := video_pop_cases h
    exact .of_pc (by rw [hsrc]; constructor <;> rfl) rfl rfl
  | videoReturn =>
    obtain ⟨f, b, -, rfl⟩ := video_return_eq h
    exact .of_pc same rfl rfl
  | audioPop =>
    obtain ⟨p, src, -, -, -, rfl⟩ := audio_pop_eq h
    exact .of_pc same rfl rfl
  | audioReturn =>
    obtain ⟨p, _, _, -, rfl⟩ := audio_return_eq h
    exact .of_pc same rfl rfl
  | videoStop =>
    obtain ⟨-, rfl⟩ := video_stop_eq h
    exact .of_pc (by constructor <;> rfl) rfl rfl
  | audioStopPop =>
    cases h
    obtain ⟨-, hs⟩ | ⟨p, q, -, hs⟩ := audio_stop_pop_cases s <;> rw [hs] <;>
      exact .of_pc same rfl rfl
  | videoUnlock | videoUnlockStop | videoStartReset | audioUnlock | audioUnlockStop
  | audioReadyToPaused | audioEnable | audioStartReset | audioStop =>
    cases h
    exact .of_pc (by constructor <;> rfl) rfl rfl

theorem capture_step (hi : Consistent s) {d : DeviceFrame}
    (hd : d.haveSignal = true → s.worker.processedFrames + s.worker.droppedFrames < 2 ^ 32)
    (h : s.capture d = some t) : Consistent t := by
  obtain ⟨-, rfl⟩ := capture_eq h
  refine ⟨hi.mode, hi.anchored, ?_, fun a verdict hv => by cases hv⟩
  intro v a hv
  cases hv
  exact ⟨rfl, fun hs => Nat.mod_eq_of_lt (hd hs)⟩

theorem got_frame_step (hi : Consistent s) {env : CaptureEnv}
    (ht : env.clock.nowPipeline < clockTimeNone) (h : s.gotFrame env = some t) : Consistent t := by
  obtain ⟨v, a, verdict, hpc, hverdict, pc, video, rfl, hv⟩ := got_frame_cases h
  have hclock := (capture_pipeline_le env.clock (some v)).trans_lt ht
  obtain ⟨hsignal, hnumber⟩ := hi.numbers v a (by rw [hpc]; rfl)
  have hcaptured : WorkerPc.captured pc = none ∧ WorkerPc.prepared pc = some (a, verdict) := by
    rcases hv with ⟨rfl, rfl, -⟩ | ⟨rfl, rfl, -⟩ | ⟨ts, st, had, rfl, rfl, -⟩ <;> exact ⟨rfl, rfl⟩
  refine ⟨hi.mode, anchored_of_prepare hi.anchored hi.mode hclock, ?_, ?_⟩
  · intro w b hw
    exact absurd (hcaptured.1.symm.trans hw) nofun
  · intro b verdict' hb hsig
    cases hcaptured.2.symm.trans hb
    have hv : v.haveSignal = true := hsignal ▸ hsig
    rw [hnumber hv, ← hverdict]
    exact dated_of_prepare hi.anchored hi.mode hclock hv

theorem timed_step {x : Action} (hi : Consistent s) (hx : NumbersFit s x)
    (h : timedNext videoInfoFromCaps s x = some t) : Consistent t := by
  obtain ⟨hx, hfit⟩ := hx
  cases x with
  | setProperties modeEnum queueSize outputStreamTime skipFirstTime =>
    cases h
    exact ⟨hi.mode, hi.anchored, hi.numbers, fun a verdict hv => by rw [hx] at hv; cases hv⟩
  | startStreams =>
    cases h
    exact ⟨hi.mode, fun _ => rfl, hi.numbers, fun a verdict hv => by rw [hx] at hv; cases hv⟩
  | pipeline e =>
    by_cases hcap : ∃ d, e = .capture d
    · obtain ⟨d, rfl⟩ := hcap
      exact capture_step hi hfit h
    by_cases hgot : ∃ env, e = .gotFrame env
    · obtain ⟨env, rfl⟩ := hgot
      exact got_frame_step hi hx h
    exact consistent_of_quiet hi
      (quiet_step (fun d he => hcap ⟨d, he⟩) (fun env he => hgot ⟨env, he⟩) h)

theorem consistent_init (hs : Started s) : Consistent s := by
  obtain ⟨modeEnum, hm⟩ := hs.mode
  refine ⟨mode_rate_valid hm, fun _ => by rw [← hs.streams]; rfl, ?_, ?_⟩ <;>
    simp [hs.pc, WorkerPc.captured, WorkerPc.prepared]

theorem consistent (h : ReachableWhile (timed videoInfoFromCaps) NumbersFit s) : Consistent s :=
  h.invariant (fun _ hi => consistent_init hi) fun _ _ _ hi hx hn => timed_step hi hx hn

/-- Within 32 bits the packet of a frame is skipped with it and dated like it. -/
theorem same_times (h : ReachableWhile (timed videoInfoFromCaps) NumbersFit s) : SameTimes s := by
  intro a verdict hpc ha
  obtain ⟨hfirst, hdated⟩ := (consistent h).dated a verdict (by rw [hpc]; rfl) ha
  exact agrees_of_dated s.audiosrc ha hfirst hdated

def untilPacket (time : ℕ) : List Action :=
  (videoIteration (deviceFrame true 0) (clockAt time)).map .pipeline

def afterPacket : List Action := [.pipeline .gotPacket, .pipeline .queuePacket]

def timesDue (s : Pipeline) : Option ((ℕ × ℕ) × (ℕ × ℕ)) :=
  match s.pc with
  | .gotPacket a (some (.queue timestamp streamTime _)) =>
    match (s.audiosrc.gotPacketPrepare (some s.videosrc) s.mode (some a)).2 with
    | .queue timestamp' streamTime' =>
      if a.haveSignal then some ((timestamp, streamTime), (timestamp', streamTime')) else none
    | _ => none
  | _ => none

theorem times_due_equal (hs : SameTimes s) {x y : ℕ × ℕ} (h : timesDue s = some (x, y)) :
    x = y := by
  unfold timesDue at h
  split at h
  case h_2 => cases h
  case h_1 a timestamp streamTime had hpc =>
    split at h
    case h_2 => cases h
    case h_1 timestamp' streamTime' hp =>
      split at h
      case isFalse => cases h
      case isTrue ha =>
        cases h
        have := (hs a _ hpc ha).2 timestamp streamTime had rfl
        rw [hp] at this
        cases this
        rfl

instance (s : Pipeline) (x : Action) : Decidable (Undisturbed s x) := by
  unfold Undisturbed
  split <;> infer_instance

instance (s : Pipeline) (x : Action) : Decidable (NumberFits s x) := by
  unfold NumberFits
  split <;> infer_instance

instance (s : Pipeline) (x : Action) : Decidable (NumbersFit s x) :=
  inferInstanceAs (Decidable (_ ∧ _))

theorem same_times_last_number : ∃ s, Reachable (timed capsVideoInfo) s ∧ SameTimes s ∧
    (timesDue s).isSome = true ∧ s.worker.droppedFrames = 2 ^ 32 - 2 := by
  obtain ⟨s, hs, hp⟩ := reachable_while_of_trace (m := timed capsVideoInfo)
    (a := NumbersFit) (i := startedPipeline 2 true)
    (l := .pipeline (.status (2 ^ 32 - 2)) :: untilPacket 1000000 ++ afterPacket ++
      untilPacket 17683333)
    (p := fun s => decide ((timesDue s).isSome = true ∧ s.worker.droppedFrames = 2 ^ 32 - 2))
    (started_pipeline (by decide) true) (by decide +kernel)
  exact ⟨s, hs.reachable, same_times hs, of_decide_eq_true hp⟩

/-- Two frames later the number of the packet has wrapped around and that of the frame
has not. -/
theorem times_apart_after_wrap :
    ¬∀ s, ReachableWhile (timed capsVideoInfo) Undisturbed s → SameTimes s := by
  intro h
  obtain ⟨s, hs, hp⟩ := reachable_while_of_trace (m := timed capsVideoInfo)
    (a := Undisturbed) (i := startedPipeline 2 true)
    (l := .pipeline (.status (2 ^ 32 - 1)) :: untilPacket 1000000 ++ afterPacket ++
      untilPacket 17683333)
    (p := fun s => (timesDue s).any fun r : (ℕ × ℕ) × ℕ × ℕ => decide (r.1 ≠ r.2))
    (started_pipeline (by decide) true) (by decide +kernel)
  obtain ⟨⟨x, y⟩, hr, hne⟩ := (Option.any_eq_true _ _).mp hp
  exact of_decide_eq_true hne (times_due_equal (h s hs) hr)

end AjaTimeAgreement
