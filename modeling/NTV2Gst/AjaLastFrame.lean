import NTV2Gst.AjaLoopSignal

/-!
# The last frame

`Quit` sets `mLastFrame` and waits for the two flags of the worker. The flag is looked at once
an iteration, so the wait is over after the rest of one iteration and another one, whatever
the device answers and the other threads do.
-/
namespace AjaLastFrame

open TransitionRuns GstAjaModes AjaVideoSrc AjaAudioSrc AjaCapturePipeline AjaPipelineSteps
  AjaVideoSetup AjaCaptureLoop AjaLoopSignal

variable {videoInfoFromCaps : GstCaps → GstVideoInfo} {s t : CaptureLoop}

def FlagsOut (s : CaptureLoop) : Prop :=
  s.lastFrameVideoOut = true ∧ s.lastFrameAudioOut = true

def RoundKept (s : CaptureLoop) : Prop :=
  match s.pc with
  | .top => FlagsOut s
  | .decided _ => True
  | .filling lastVideo => lastVideo = true
  | .video lastVideo lastAudio => lastVideo = true ∧ lastAudio = true
  | .audio lastAudio => s.lastFrameVideoOut = true ∧ lastAudio = true
  | .lossVideo | .lossAudio => False
  | .ended => True

structure LastKept (s : CaptureLoop) : Prop where
  set : 0 < s.lastTops → s.lastFrame = true
  round : 0 < s.lastTops → RoundKept s

theorem last_kept_next {e : AjaCaptureLoop.Event} (h : LastKept s)
    (hs : s.next videoInfoFromCaps e = some t) : LastKept t := by
  cases e with
  | status st =>
    obtain ⟨-, -, p, -, rfl⟩ := status_step_eq hs
    refine ⟨fun hpos => ?_, fun _ => trivial⟩
    by_cases hl : s.lastFrame = true
    · exact hl
    · exact h.set (by simpa [hl] using hpos)
  | quitSeen =>
    obtain ⟨-, -, p, -, rfl⟩ := quit_seen_eq hs
    exact ⟨h.set, fun _ => trivial⟩
  | transfer tr =>
    obtain ⟨st, -, -, p, -, rfl⟩ := transfer_step_eq hs
    exact ⟨h.set, h.set⟩
  | fillAudio =>
    obtain ⟨lastVideo, hpc, rfl⟩ := fill_audio_eq hs
    refine ⟨h.set, fun hpos => ⟨?_, h.set hpos⟩⟩
    have hr := h.round hpos
    simp only [RoundKept, hpc] at hr
    exact hr
  | worker e =>
    obtain ⟨p, -, rfl, -⟩ := worker_step_cases hs
    exact ⟨h.set, h.round⟩
  | videoOut =>
    obtain ⟨_, _, _, _, hpc, -, rfl⟩ := video_out_eq hs
    refine ⟨h.set, fun hpos => ?_⟩
    have hr := h.round hpos
    simp only [RoundKept, hpc] at hr
    exact ⟨by simp [hr.1], hr.2⟩
  | audioOut =>
    obtain ⟨_, hpc, -, rfl⟩ := audio_out_eq hs
    refine ⟨h.set, fun hpos => ?_⟩
    have hr := h.round hpos
    simp only [RoundKept, hpc] at hr
    exact ⟨hr.1, by simp [hr.2]⟩
  | noFrame =>
    obtain ⟨st, -, -, ⟨-, p, -, rfl⟩ | ⟨hl, -, -, rfl⟩ | ⟨hl, -, rfl⟩⟩ := no_frame_cases hs
    · exact ⟨h.set, fun _ => trivial⟩
    all_goals exact ⟨h.set, fun hpos => absurd (h.set hpos) (by simp [hl])⟩
  | lossVideo =>
    obtain ⟨hpc, p, -, rfl⟩ := loss_video_eq hs
    refine ⟨h.set, fun hpos => ?_⟩
    have hr := h.round hpos
    simp only [RoundKept, hpc] at hr
  | lossAudio =>
    obtain ⟨hpc, p, -, rfl⟩ := loss_audio_eq hs
    refine ⟨h.set, fun hpos => ?_⟩
    have hr := h.round hpos
    simp only [RoundKept, hpc] at hr
  | other e =>
    obtain ⟨-, p, -, rfl⟩ := other_step_eq hs
    exact ⟨h.set, h.round⟩
  | setLastFrame =>
    cases hs
    exact ⟨fun _ => rfl, h.round⟩
  | setGlobalQuit =>
    cases hs
    exact ⟨h.set, h.round⟩

theorem last_kept (h : Reachable (captureLoop videoInfoFromCaps) s) : LastKept s :=
  h.invariant
    (fun i hi => ⟨by simp [hi.last_tops], by simp [hi.last_tops]⟩)
    fun _ _ _ hs _ hn => last_kept_next hs hn

/-! ## Steps to the top -/

def onWorker : AjaCaptureLoop.Event → Bool
  | .other _ | .setLastFrame | .setGlobalQuit => false
  | _ => true

def roundLeft : LoopPc → WorkerPc → ℕ
  | .decided _, _ => 10
  | .filling _, _ => 9
  | .video _ _, .videoCallback _ _ => 8
  | .video _ _, .gotFrame _ _ => 7
  | .video _ _, .queueFrame _ _ _ _ _ => 6
  | .video _ _, _ => 5
  | .audio _, .audioCallback _ _ => 4
  | .audio _, .gotPacket _ _ => 3
  | .audio _, .queuePacket _ _ _ => 2
  | .audio _, _ => 1
  | .lossVideo, _ => 2
  | .lossAudio, _ => 1
  | .top, _ | .ended, _ => 0

def stepsLeft (s : CaptureLoop) : ℕ :=
  roundLeft s.pc s.pipe.pc + if s.lastTops = 0 then 11 else 0

/-- What `Quit` waits for, or the worker has left the loop for another reason. -/
def LastFrameDone (s : CaptureLoop) : Prop := s.pc = .ended ∨ FlagsOut s

theorem round_left_le (l : LoopPc) (p : WorkerPc) : roundLeft l p ≤ 10 := by
  unfold roundLeft
  split <;> decide

theorem steps_left_le (s : CaptureLoop) : stepsLeft s ≤ 21 := by
  have := round_left_le s.pc s.pipe.pc
  unfold stepsLeft
  split <;> omega

theorem done_of_none_left (h : LastKept s) (hn : stepsLeft s = 0) : LastFrameDone s := by
  unfold stepsLeft at hn
  obtain ⟨hr, ht⟩ := Nat.add_eq_zero_iff.mp hn
  have hpos : 0 < s.lastTops := by
    by_contra h0
    simp [Nat.eq_zero_of_not_pos h0] at ht
  have hround := h.round hpos
  unfold roundLeft at hr
  split at hr
  case h_13 hpc =>
    simp only [RoundKept, hpc] at hround
    exact Or.inr hround
  case h_14 hpc => exact Or.inl hpc
  all_goals cases hr

theorem video_part_left {p q : Pipeline} {e : AjaCapturePipeline.Event}
    {lastVideo lastAudio : Bool} (he : videoPart e = true)
    (h : p.next videoInfoFromCaps e = some q) :
    roundLeft (.video lastVideo lastAudio) q.pc < roundLeft (.video lastVideo lastAudio) p.pc := by
  cases e with
  | videoCallback =>
    obtain ⟨_, _, hp, ⟨-, rfl⟩ | ⟨-, rfl⟩⟩ := video_callback_cases h <;>
      simp [hp, roundLeft]
  | gotFrame env =>
    obtain ⟨_, _, _, hp, -, _, _, rfl, hv⟩ := got_frame_cases h
    rcases hv with ⟨-, rfl, rfl⟩ | ⟨-, rfl, rfl⟩ | ⟨_, _, _, -, rfl, rfl⟩ <;>
      simp [hp, roundLeft]
  | queueFrame =>
    obtain ⟨_, _, _, _, _, hp, ⟨-, rfl⟩ | ⟨-, rfl⟩⟩ := queue_frame_cases h <;>
      simp [hp, roundLeft]
  | _ => cases he

theorem audio_part_left {p q : Pipeline} {e : AjaCapturePipeline.Event} {lastAudio : Bool}
    (he : audioPart e = true) (h : p.next videoInfoFromCaps e = some q) :
    roundLeft (.audio lastAudio) q.pc < roundLeft (.audio lastAudio) p.pc := by
  cases e with
  | audioCallback =>
    obtain ⟨_, _, hp, ⟨-, rfl⟩ | ⟨-, rfl⟩⟩ := audio_callback_cases h <;> simp [hp, roundLeft]
  | gotPacket =>
    obtain ⟨_, _, hp, _, _, rfl, hv⟩ := got_packet_cases h
    rcases hv with ⟨-, rfl, rfl⟩ | ⟨-, rfl, rfl⟩ | ⟨_, _, -, rfl, rfl⟩ <;> simp [hp, roundLeft]
  | queuePacket =>
    obtain ⟨_, _, _, hp, ⟨-, rfl⟩ | ⟨-, rfl⟩⟩ := queue_packet_cases h <;> simp [hp, roundLeft]
  | _ => cases he

theorem video_left_le (lastVideo lastAudio : Bool) (p : WorkerPc) :
    roundLeft (.video lastVideo lastAudio) p ≤ 8 := by
  cases p <;> simp [roundLeft]

theorem worker_progress {e : AjaCaptureLoop.Event} (h : LastKept s) (hl : s.lastFrame = true)
    (he : onWorker e = true) (hs : s.next videoInfoFromCaps e = some t) :
    LastFrameDone t ∨ stepsLeft t < stepsLeft s := by
  cases e with
  | status st =>
    obtain ⟨hpc, -, p, -, rfl⟩ := status_step_eq hs
    by_cases h0 : s.lastTops = 0
    · exact Or.inr (by simp [stepsLeft, hpc, roundLeft, hl, h0])
    · have hround := h.round (Nat.pos_of_ne_zero h0)
      simp only [RoundKept, hpc] at hround
      exact Or.inl (Or.inr hround)
  | quitSeen =>
    obtain ⟨-, -, p, -, rfl⟩ := quit_seen_eq hs
    exact Or.inl (Or.inl rfl)
  | transfer tr =>
    obtain ⟨st, hpc, -, p, -, rfl⟩ := transfer_step_eq hs
    exact Or.inr (by simp [stepsLeft, hpc, roundLeft])
  | fillAudio =>
    obtain ⟨lastVideo, hpc, rfl⟩ := fill_audio_eq hs
    have hle := video_left_le lastVideo s.lastFrame s.pipe.pc
    have hnine : roundLeft s.pc s.pipe.pc = 9 := by rw [hpc]; rfl
    exact Or.inr (Nat.add_lt_add_right (by rw [hnine]; exact Nat.lt_succ_of_le hle) _)
  | worker e =>
    obtain ⟨p, hp, rfl, ⟨_, _, hpc, he⟩ | ⟨_, hpc, he⟩⟩ := worker_step_cases hs
    · exact Or.inr (by simpa [stepsLeft, hpc] using video_part_left he hp)
    · exact Or.inr (by simpa [stepsLeft, hpc] using audio_part_left he hp)
  | videoOut =>
    obtain ⟨_, _, _, _, hpc, hp, rfl⟩ := video_out_eq hs
    exact Or.inr (by simp [stepsLeft, hpc, hp, roundLeft])
  | audioOut =>
    obtain ⟨_, hpc, hp, rfl⟩ := audio_out_eq hs
    exact Or.inr (by simp [stepsLeft, hpc, hp, roundLeft])
  | noFrame =>
    obtain ⟨st, -, -, ⟨-, p, -, rfl⟩ | ⟨hno, -, -, -⟩ | ⟨hno, -, -⟩⟩ := no_frame_cases hs
    · exact Or.inl (Or.inl rfl)
    all_goals simp [hl] at hno
  | lossVideo =>
    obtain ⟨hpc, p, -, rfl⟩ := loss_video_eq hs
    exact Or.inr (by simp [stepsLeft, hpc, roundLeft])
  | lossAudio =>
    obtain ⟨hpc, p, -, rfl⟩ := loss_audio_eq hs
    exact Or.inr (by simp [stepsLeft, hpc, roundLeft])
  | _ => cases he

theorem other_left {e : AjaCaptureLoop.Event} (he : onWorker e = false)
    (hs : s.next videoInfoFromCaps e = some t) : stepsLeft t = stepsLeft s := by
  cases e with
  | other e =>
    obtain ⟨he, p, hp, rfl⟩ := other_step_eq hs
    simp only [stepsLeft, other_thread_pc he hp]
  | setLastFrame | setGlobalQuit =>
    cases hs
    rfl
  | _ => cases he

structure FlagsGrow (s t : CaptureLoop) : Prop where
  last_frame : s.lastFrame = true → t.lastFrame = true
  video_out : s.lastFrameVideoOut = true → t.lastFrameVideoOut = true
  audio_out : s.lastFrameAudioOut = true → t.lastFrameAudioOut = true
  ended : s.pc = .ended → t.pc = .ended

theorem flags_grow {e : AjaCaptureLoop.Event} (hs : s.next videoInfoFromCaps e = some t) :
    FlagsGrow s t := by
  cases e with
  | status st =>
    obtain ⟨hpc, -, p, -, rfl⟩ := status_step_eq hs
    exact ⟨id, id, id, by simp [hpc]⟩
  | quitSeen =>
    obtain ⟨-, -, p, -, rfl⟩ := quit_seen_eq hs
    exact ⟨id, id, id, fun _ => rfl⟩
  | transfer tr =>
    obtain ⟨st, hpc, -, p, -, rfl⟩ := transfer_step_eq hs
    exact ⟨id, id, id, by simp [hpc]⟩
  | fillAudio =>
    obtain ⟨_, hpc, rfl⟩ := fill_audio_eq hs
    exact ⟨id, id, id, by simp [hpc]⟩
  | worker e =>
    obtain ⟨p, -, rfl, -⟩ := worker_step_cases hs
    exact ⟨id, id, id, id⟩
  | videoOut =>
    obtain ⟨_, _, _, _, hpc, -, rfl⟩ := video_out_eq hs
    exact ⟨id, fun h => by simp [h], id, by simp [hpc]⟩
  | audioOut =>
    obtain ⟨_, hpc, -, rfl⟩ := audio_out_eq hs
    exact ⟨id, id, fun h => by simp [h], by simp [hpc]⟩
  | noFrame =>
    obtain ⟨st, hpc, -, ⟨-, p, -, rfl⟩ | ⟨-, -, -, rfl⟩ | ⟨-, -, rfl⟩⟩ := no_frame_cases hs
    · exact ⟨id, fun _ => rfl, fun _ => rfl, fun _ => rfl⟩
    all_goals exact ⟨id, id, id, by simp [hpc]⟩
  | lossVideo =>
    obtain ⟨hpc, p, -, rfl⟩ := loss_video_eq hs
    exact ⟨id, id, id, by simp [hpc]⟩
  | lossAudio =>
    obtain ⟨hpc, p, -, rfl⟩ := loss_audio_eq hs
    exact ⟨id, id, id, by simp [hpc]⟩
  | other e =>
    obtain ⟨-, p, -, rfl⟩ := other_step_eq hs
    exact ⟨id, id, id, id⟩
  | setLastFrame =>
    cases hs
    exact ⟨fun _ => rfl, id, id, id⟩
  | setGlobalQuit =>
    cases hs
    exact ⟨id, id, id, id⟩

theorem LastFrameDone.next {e : AjaCaptureLoop.Event} (h : LastFrameDone s)
    (hs : s.next videoInfoFromCaps e = some t) : LastFrameDone t := by
  have hf := flags_grow hs
  exact h.imp hf.ended fun h => ⟨hf.video_out h.1, hf.audio_out h.2⟩

theorem run_progress {es : List AjaCaptureLoop.Event} (h : LastKept s) (hl : s.lastFrame = true)
    (hr : runTrace (captureLoop videoInfoFromCaps) s es = some t) :
    LastFrameDone t ∨ stepsLeft t + es.countP onWorker ≤ stepsLeft s := by
  induction es generalizing s with
  | nil =>
    cases hr
    exact Or.inr (Nat.le_refl _)
  | cons e es ih =>
    obtain ⟨u, hu, hr⟩ := Option.bind_eq_some_iff.mp hr
    have hstep : LastFrameDone u ∨ stepsLeft u + (if onWorker e then 1 else 0) ≤ stepsLeft s := by
      cases he : onWorker e with
      | false => exact Or.inr (Nat.le_of_eq (other_left he hu))
      | true => exact worker_progress h hl he hu
    rcases hstep with hdone | hle
    · exact Or.inl ((run_trace_execution hr).invariant hdone fun _ _ _ hd _ hn => hd.next hn)
    · refine (ih (last_kept_next h hu) ((flags_grow hu).last_frame hl) hr).imp_right fun hle' => ?_
      rw [List.countP_cons]
      omega

/-- Once `Quit` has set the flag, 21 further steps of the worker are enough, in between any
number of steps of other threads and with any answers of the device: both flags that `Quit`
waits for are set, unless the worker has already left the loop. -/
theorem last_frame_out {es : List AjaCaptureLoop.Event}
    (h : Reachable (captureLoop videoInfoFromCaps) s) (hl : s.lastFrame = true)
    (hr : runTrace (captureLoop videoInfoFromCaps) s es = some t)
    (hn : 21 ≤ es.countP onWorker) :
    t.pc = .ended ∨ (t.lastFrameVideoOut = true ∧ t.lastFrameAudioOut = true) := by
  rcases run_progress (last_kept h) hl hr with hdone | hle
  · exact hdone
  · have hkept : LastKept t := last_kept (by
      obtain ⟨i, hi, he⟩ := h
      exact ⟨i, hi, he.trans (run_trace_execution hr)⟩)
    have hmax := steps_left_le s
    exact done_of_none_left hkept (by omega)

theorem last_frame_out_third : ∃ s t : CaptureLoop, ∃ es : List AjaCaptureLoop.Event,
    s.lastFrame = true ∧ s.lastFrameVideoOut = false ∧
      runTrace (captureLoop capsVideoInfo) s es = some t ∧ 21 ≤ es.countP onWorker ∧
      (t.pc = .ended ∨ (t.lastFrameVideoOut = true ∧ t.lastFrameAudioOut = true)) := by
  have hs : Reachable (captureLoop capsVideoInfo) { begunLoop with lastFrame := true } :=
    ⟨begunLoop, begun_loop, .tail (e := .setLastFrame) (.refl _) trivial rfl⟩
  have hr : (runTrace (captureLoop capsVideoInfo) { begunLoop with lastFrame := true }
      (frameRound 0 ++ frameRound 166000 ++ frameRound 333000)).isSome := by
    decide
  obtain ⟨t, ht⟩ := Option.isSome_iff_exists.mp hr
  exact ⟨_, t, _, rfl, rfl, ht, by decide, last_frame_out hs rfl ht (by decide)⟩

end AjaLastFrame
