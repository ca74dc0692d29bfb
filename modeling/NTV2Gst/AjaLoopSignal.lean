import NTV2Gst.AjaCaptureLoop

/-!
# What the loop makes of a signal

The loop and the callbacks take turns, and the source learns about the signal from both frames
and their absence. What it believes at the top of the loop is a function of the last frame and
of the iterations since; the last frame is out after one more round.
-/
namespace AjaLoopSignal

open TransitionRuns GstAjaModes AjaVideoSrc AjaAudioSrc AjaCapturePipeline AjaPipelineSteps
  AjaVideoSetup AjaCaptureLoop

variable {videoInfoFromCaps : GstCaps → GstVideoInfo}

/-! ## Where the two program counters are -/

def InStep : LoopPc → WorkerPc → Prop
  | .top, .idle | .decided _, .idle | .filling _, .videoCallback _ _
  | .video _ _, .videoCallback _ _ | .video _ _, .gotFrame _ _ | .video _ _, .queueFrame _ _ _ _ _
  | .video _ _, .audioCallback _ _ | .audio _, .audioCallback _ _ | .audio _, .gotPacket _ _
  | .audio _, .queuePacket _ _ _ | .audio _, .idle | .lossVideo, .idle | .lossAudio, .nullAudio
  | .ended, .ended => True
  | _, _ => False

theorem in_step_decided {st : DeviceStatus} {p : WorkerPc} :
    InStep (.decided st) p ↔ p = .idle := by
  cases p <;> simp [InStep]

theorem in_step_filling {lastVideo : Bool} {p : WorkerPc} :
    InStep (.filling lastVideo) p ↔ ∃ v a, p = .videoCallback v a := by
  cases p <;> simp [InStep]

theorem other_thread_pc {p q : Pipeline} {e : AjaCapturePipeline.Event}
    (he : otherThread e = true) (h : p.next videoInfoFromCaps e = some q) : q.pc = p.pc := by
  cases e with
  | videoPop =>
    obtain ⟨_, _, -, -, -, _, _, _, _, _, _, rfl⟩ := video_pop_cases h
    rfl
  | videoReturn =>
    obtain ⟨_, _, -, rfl⟩ := video_return_eq h
    rfl
  | audioPop =>
    obtain ⟨_, _, -, -, -, rfl⟩ := audio_pop_eq h
    rfl
  | audioReturn =>
    obtain ⟨_, _, _, -, rfl⟩ := audio_return_eq h
    rfl
  | videoStop =>
    obtain ⟨-, rfl⟩ := video_stop_eq h
    rfl
  | audioStopPop =>
    cases h
    obtain ⟨-, hs⟩ | ⟨_, _, -, hs⟩ := audio_stop_pop_cases p <;> rw [hs]
  | videoUnlock | videoUnlockStop | videoStartReset | audioUnlock | audioUnlockStop
  | audioReadyToPaused | audioEnable | audioStartReset | audioStop =>
    cases h
    rfl
  | _ => cases he

theorem video_part_pc {p q : Pipeline} {e : AjaCapturePipeline.Event} {lastVideo lastAudio : Bool}
    (he : videoPart e = true) (h : p.next videoInfoFromCaps e = some q) :
    InStep (.video lastVideo lastAudio) q.pc := by
  cases e with
  | videoCallback =>
    obtain ⟨_, _, -, ⟨-, rfl⟩ | ⟨-, rfl⟩⟩ := video_callback_cases h <;> trivial
  | gotFrame env =>
    obtain ⟨_, _, _, -, -, _, _, rfl, hv⟩ := got_frame_cases h
    rcases hv with ⟨-, rfl, rfl⟩ | ⟨-, rfl, rfl⟩ | ⟨_, _, _, -, rfl, rfl⟩ <;> trivial
  | queueFrame =>
    obtain ⟨_, _, _, _, _, -, ⟨-, rfl⟩ | ⟨-, rfl⟩⟩ := queue_frame_cases h <;> trivial
  | _ => cases he

theorem audio_part_pc {p q : Pipeline} {e : AjaCapturePipeline.Event} {lastAudio : Bool}
    (he : audioPart e = true) (h : p.next videoInfoFromCaps e = some q) :
    InStep (.audio lastAudio) q.pc := by
  cases e with
  | audioCallback =>
    obtain ⟨_, _, -, ⟨-, rfl⟩ | ⟨-, rfl⟩⟩ := audio_callback_cases h <;> trivial
  | gotPacket =>
    obtain ⟨_, _, -, _, _, rfl, hv⟩ := got_packet_cases h
    rcases hv with ⟨-, rfl, rfl⟩ | ⟨-, rfl, rfl⟩ | ⟨_, _, -, rfl, rfl⟩ <;> trivial
  | queuePacket =>
    obtain ⟨_, _, _, -, ⟨-, rfl⟩ | ⟨-, rfl⟩⟩ := queue_packet_cases h <;> trivial
  | _ => cases he

theorem in_step_next {s t : CaptureLoop} {e : AjaCaptureLoop.Event} (h : InStep s.pc s.pipe.pc)
    (hs : s.next videoInfoFromCaps e = some t) : InStep t.pc t.pipe.pc := by
  cases e with
  | status st =>
    obtain ⟨-, -, p, hp, rfl⟩ := status_step_eq hs
    obtain ⟨hpc, rfl⟩ := status_eq hp
    simp only [hpc, InStep]
  | quitSeen =>
    obtain ⟨-, -, p, hp, rfl⟩ := quit_seen_eq hs
    obtain ⟨-, rfl⟩ := worker_ends_eq hp
    trivial
  | transfer tr =>
    obtain ⟨st, -, -, p, hp, rfl⟩ := transfer_step_eq hs
    obtain ⟨-, rfl⟩ := capture_eq hp
    trivial
  | fillAudio =>
    obtain ⟨lastVideo, hpc, rfl⟩ := fill_audio_eq hs
    rw [hpc, in_step_filling] at h
    obtain ⟨v, a, hp⟩ := h
    simp only [hp, InStep]
  | worker e =>
    obtain ⟨p, hp, rfl, ⟨_, _, hpc, he⟩ | ⟨_, hpc, he⟩⟩ := worker_step_cases hs <;>
      simp only [hpc]
    · exact video_part_pc he hp
    · exact audio_part_pc he hp
  | videoOut =>
    obtain ⟨_, _, _, _, -, hp, rfl⟩ := video_out_eq hs
    simp only [hp, InStep]
  | audioOut =>
    obtain ⟨_, -, hp, rfl⟩ := audio_out_eq hs
    simp only [hp, InStep]
  | noFrame =>
    obtain ⟨st, hpc, -, ⟨-, p, hp, rfl⟩ | ⟨-, -, -, rfl⟩ | ⟨-, -, rfl⟩⟩ := no_frame_cases hs
    · obtain ⟨-, rfl⟩ := worker_ends_eq hp
      trivial
    all_goals
      rw [hpc, in_step_decided] at h
      simp only [h, InStep]
  | lossVideo =>
    obtain ⟨-, p, hp, rfl⟩ := loss_video_eq hs
    obtain ⟨-, rfl | rfl⟩ := null_video_cases hp <;> trivial
  | lossAudio =>
    obtain ⟨-, p, hp, rfl⟩ := loss_audio_eq hs
    obtain ⟨-, rfl | rfl⟩ := null_audio_cases hp <;> trivial
  | other e =>
    obtain ⟨he, p, hp, rfl⟩ := other_step_eq hs
    simp only [other_thread_pc he hp]
    exact h
  | setLastFrame | setGlobalQuit =>
    cases hs
    exact h

/-! ## The signal as the source sees it -/

/-- The last frame had no signal, or since then the device saw another format at some point or
there has been no frame for more than 32 iterations. -/
def signalLost (lastCapture : Option Bool) (frameless : List Bool) : Bool :=
  lastCapture == some false || frameless.contains false || 32 < frameless.length

def signalSeen (lastCapture : Option Bool) (frameless : List Bool) : GstAjaSignalState :=
  if signalLost lastCapture frameless then .lost
  else if lastCapture = some true then .available
  else .unknown

theorem signal_lost_wait {lastCapture : Option Bool} {frameless : List Bool}
    (h : frameless.count true < 32) :
    signalLost lastCapture (frameless ++ [true]) = signalLost lastCapture frameless := by
  by_cases hf : false ∈ frameless
  · simp [signalLost, hf]
  · have hall : frameless.count true = frameless.length :=
      List.count_eq_length.mpr fun b hb => by
        cases b with
        | false => exact absurd hb hf
        | true => rfl
    have hlt : frameless.length < 32 := hall ▸ h
    simp [signalLost, hf, Nat.not_lt.mpr (Nat.le_of_lt hlt), Nat.not_lt.mpr hlt]

theorem signal_lost_report {lastCapture : Option Bool} {frameless : List Bool} {signal : Bool}
    (h : signal = true → 32 ≤ frameless.count true) :
    signalLost lastCapture (frameless ++ [signal]) = true := by
  cases signal with
  | false => simp [signalLost]
  | true =>
    have hlen : 32 ≤ frameless.length := (h rfl).trans List.count_le_length
    simp [signalLost, Nat.lt_succ_of_le hlen]

def Settled (s : CaptureLoop) : Prop :=
  s.pipe.videosrc.signalState = signalSeen s.lastCapture s.frameless

/-- The frame just captured is still on its way to the source. -/
def Pending (s : CaptureLoop) : Prop :=
  s.frameless = [] ∧ ∃ v a, (s.pipe.pc = .videoCallback v a ∨ s.pipe.pc = .gotFrame v a) ∧
    s.lastCapture = some v.haveSignal

def SignalState (s : CaptureLoop) : Prop :=
  match s.pc with
  | .top | .decided _ | .audio _ | .lossAudio => Settled s
  | .filling _ => Pending s
  | .video _ _ => Pending s ∨
      (Settled s ∧ ∀ v a, s.pipe.pc ≠ .videoCallback v a ∧ s.pipe.pc ≠ .gotFrame v a)
  | .lossVideo => signalLost s.lastCapture s.frameless = true
  | .ended => True

structure SignalKept (s : CaptureLoop) : Prop where
  enabled : s.pc ≠ .ended → (s.pipe.videoCallback && s.pipe.videoEnabled) = true
  waits : s.iterationsWithoutFrame = min 32 (s.frameless.count true)
  state : SignalState s

theorem other_thread_signal {p q : Pipeline} {e : AjaCapturePipeline.Event}
    (he : otherThread e = true) (hp : p.pc ≠ .ended) (h : p.next videoInfoFromCaps e = some q) :
    q.videosrc.signalState = p.videosrc.signalState ∧
      (q.videoCallback && q.videoEnabled) = (p.videoCallback && p.videoEnabled) := by
  by_cases ha : onAudioSide e = true
  · have k := video_kept ha h
    exact ⟨by rw [k.videosrc], by rw [k.callback, k.enabled]⟩
  · cases e with
    | videoPop =>
      obtain ⟨_, src, -, -, hsrc, _, _, _, _, _, _, rfl⟩ := video_pop_cases h
      exact ⟨by rw [hsrc], rfl⟩
    | videoReturn =>
      obtain ⟨_, _, -, rfl⟩ := video_return_eq h
      exact ⟨rfl, rfl⟩
    | videoStop => exact absurd (video_stop_eq h).1 hp
    | videoUnlock | videoUnlockStop | videoStartReset =>
      cases h
      exact ⟨rfl, rfl⟩
    | _ => first | exact absurd rfl ha | cases he

theorem audio_part_kept {p q : Pipeline} {e : AjaCapturePipeline.Event}
    (he : audioPart e = true) (h : p.next videoInfoFromCaps e = some q) : VideoKept p q := by
  cases e with
  | audioCallback | gotPacket | queuePacket => exact video_kept rfl h
  | _ => cases he

theorem in_step_not_ended {l : LoopPc} {p : WorkerPc} (h : InStep l p) (hl : l ≠ .ended) :
    p ≠ .ended := by
  rintro rfl
  cases l <;> first | exact hl rfl | exact h

theorem video_part_signal {s : CaptureLoop} {p : Pipeline} {e : AjaCapturePipeline.Event}
    {lastVideo lastAudio : Bool} (hpc : s.pc = .video lastVideo lastAudio)
    (hon : (s.pipe.videoCallback && s.pipe.videoEnabled) = true) (hst : SignalState s)
    (he : videoPart e = true) (h : s.pipe.next videoInfoFromCaps e = some p) :
    (p.videoCallback && p.videoEnabled) = true ∧ SignalState { s with pipe := p } := by
  simp only [SignalState, hpc] at hst ⊢
  cases e with
  | videoCallback =>
    obtain ⟨v, a, hp, ⟨-, rfl⟩ | ⟨hoff, rfl⟩⟩ := video_callback_cases h
    · refine ⟨hon, ?_⟩
      rcases hst with ⟨hf, v', a', hv, hlast⟩ | ⟨-, hgiven⟩
      · simp only [hp, WorkerPc.videoCallback.injEq, reduceCtorEq, or_false] at hv
        obtain ⟨rfl, rfl⟩ := hv
        exact Or.inl ⟨hf, v, a, Or.inr rfl, hlast⟩
      · exact absurd hp (hgiven v a).1
    · rw [hon] at hoff
      cases hoff
  | gotFrame env =>
    obtain ⟨v, a, verdict, hp, -, pc, video, rfl, hv⟩ := got_frame_cases h
    refine ⟨hon, Or.inr ⟨?_, ?_⟩⟩
    · rcases hst with ⟨hf, v', a', hv', hlast⟩ | ⟨-, hgiven⟩
      · simp only [hp, WorkerPc.gotFrame.injEq, reduceCtorEq, false_or] at hv'
        obtain ⟨rfl, rfl⟩ := hv'
        simp only [Settled, hf, hlast, prepare_signal_state]
        cases hsig : v.haveSignal <;> simp [Option.filter, hsig, signalSeen, signalLost]
      · exact absurd hp (hgiven v a).2
    · intro v' a'
      rcases hv with ⟨-, rfl, -⟩ | ⟨-, rfl, -⟩ | ⟨_, _, _, -, rfl, -⟩ <;> exact ⟨nofun, nofun⟩
  | queueFrame =>
    obtain ⟨v, a, _, _, _, hp, ht⟩ := queue_frame_cases h
    have hset : Settled s := by
      rcases hst with ⟨-, v', a', hv', -⟩ | ⟨hset, -⟩
      · simp [hp] at hv'
      · exact hset
    rcases ht with ⟨-, rfl⟩ | ⟨-, rfl⟩ <;>
      exact ⟨hon, Or.inr ⟨hset, fun _ _ => ⟨nofun, nofun⟩⟩⟩
  | _ => cases he

theorem null_video_signal {p q : Pipeline} (hon : (p.videoCallback && p.videoEnabled) = true)
    (h : p.next videoInfoFromCaps .nullVideo = some q) :
    q.videosrc.signalState = .lost ∧ (q.videoCallback && q.videoEnabled) = true := by
  change p.nullVideo = some q at h
  simp only [Pipeline.nullVideo, hon, if_true] at h
  split at h
  case isFalse => cases h
  case isTrue =>
    cases h
    exact ⟨lose_signal_state _, hon⟩

theorem signal_kept_worker {s t : CaptureLoop} {e : AjaCapturePipeline.Event} (h : SignalKept s)
    (hs : s.next videoInfoFromCaps (.worker e) = some t) : SignalKept t := by
  obtain ⟨p, hp, rfl, ⟨lastVideo, lastAudio, hpc, he⟩ | ⟨lastAudio, hpc, he⟩⟩ :=
    worker_step_cases hs
  · have hv := video_part_signal hpc (h.enabled (by simp [hpc])) h.state he hp
    exact ⟨fun _ => hv.1, h.waits, hv.2⟩
  · have k := audio_part_kept he hp
    have hst := h.state
    simp only [SignalState, hpc] at hst
    refine ⟨fun _ => ?_, h.waits, ?_⟩
    · simp only [k.callback, k.enabled]
      exact h.enabled (by simp [hpc])
    · simp only [SignalState, hpc]
      simp only [Settled, k.videosrc]
      exact hst

theorem signal_kept_no_frame {s t : CaptureLoop} (h : SignalKept s)
    (hs : s.next videoInfoFromCaps .noFrame = some t) : SignalKept t := by
  obtain ⟨st, hpc, -, ⟨-, p, -, rfl⟩ | ⟨-, -, hlt, rfl⟩ | ⟨-, hle, rfl⟩⟩ := no_frame_cases hs
  · exact ⟨fun hne => absurd rfl hne, h.waits, trivial⟩
  · have hcount : s.frameless.count true < 32 := by
      have := h.waits
      omega
    have hst := h.state
    simp only [SignalState, hpc, Settled, signalSeen] at hst
    refine ⟨fun _ => h.enabled (by simp [hpc]), ?_, ?_⟩
    · simp only [List.count_append, List.count_singleton_self]
      have := h.waits
      omega
    · simp only [SignalState, Settled, signalSeen, signal_lost_wait hcount]
      exact hst
  · have hcount : haveSignal s.av st.inputVideoFormat = true → 32 ≤ s.frameless.count true := by
      intro hsig
      have := hle hsig
      have := h.waits
      omega
    refine ⟨fun _ => h.enabled (by simp [hpc]), ?_, signal_lost_report hcount⟩
    simp only [List.count_append]
    have := h.waits
    cases hsig : haveSignal s.av st.inputVideoFormat with
    | false => simpa using this
    | true =>
      have := hcount hsig
      simp only [List.count_singleton_self]
      omega

theorem signal_kept_next {s t : CaptureLoop} {e : AjaCaptureLoop.Event}
    (hi : InStep s.pc s.pipe.pc) (h : SignalKept s) (hs : s.next videoInfoFromCaps e = some t) :
    SignalKept t := by
  cases e with
  | status st =>
    obtain ⟨hpc, -, p, hp, rfl⟩ := status_step_eq hs
    obtain ⟨-, rfl⟩ := status_eq hp
    have hst := h.state
    simp only [SignalState, hpc] at hst
    exact ⟨fun _ => h.enabled (by simp [hpc]), h.waits, hst⟩
  | quitSeen =>
    obtain ⟨-, -, p, -, rfl⟩ := quit_seen_eq hs
    exact ⟨fun hne => absurd rfl hne, h.waits, trivial⟩
  | transfer tr =>
    obtain ⟨st, hpc, -, p, hp, rfl⟩ := transfer_step_eq hs
    obtain ⟨-, rfl⟩ := capture_eq hp
    exact ⟨fun _ => h.enabled (by simp [hpc]), rfl, rfl, _, _, Or.inl rfl, rfl⟩
  | fillAudio =>
    obtain ⟨_, hpc, rfl⟩ := fill_audio_eq hs
    have hst := h.state
    simp only [SignalState, hpc] at hst
    exact ⟨fun _ => h.enabled (by simp [hpc]), h.waits, Or.inl hst⟩
  | worker e => exact signal_kept_worker h hs
  | videoOut =>
    obtain ⟨_, _, a, verdict, hpc, hp, rfl⟩ := video_out_eq hs
    have hst := h.state
    simp only [SignalState, hpc] at hst
    refine ⟨fun _ => h.enabled (by simp [hpc]), h.waits, ?_⟩
    rcases hst with ⟨-, v, a', hv, -⟩ | ⟨hset, -⟩
    · simp [hp] at hv
    · exact hset
  | audioOut =>
    obtain ⟨_, hpc, -, rfl⟩ := audio_out_eq hs
    have hst := h.state
    simp only [SignalState, hpc] at hst
    exact ⟨fun _ => h.enabled (by simp [hpc]), h.waits, hst⟩
  | noFrame => exact signal_kept_no_frame h hs
  | lossVideo =>
    obtain ⟨hpc, p, hp, rfl⟩ := loss_video_eq hs
    obtain ⟨hlost, hon⟩ := null_video_signal (h.enabled (by simp [hpc])) hp
    have hst := h.state
    simp only [SignalState, hpc] at hst
    refine ⟨fun _ => hon, h.waits, ?_⟩
    simp only [SignalState, Settled, signalSeen, hst, if_true]
    exact hlost
  | lossAudio =>
    obtain ⟨hpc, p, hp, rfl⟩ := loss_audio_eq hs
    have k := video_kept rfl hp
    have hst := h.state
    simp only [SignalState, hpc] at hst
    refine ⟨fun _ => ?_, h.waits, ?_⟩
    · simp only [k.callback, k.enabled]
      exact h.enabled (by simp [hpc])
    · simp only [SignalState, Settled, k.videosrc]
      exact hst
  | other e =>
    obtain ⟨he, p, hp, rfl⟩ := other_step_eq hs
    by_cases hend : s.pc = .ended
    · exact ⟨fun hne => absurd hend hne, h.waits, by simp only [SignalState, hend]⟩
    · have hpc := other_thread_pc he hp
      obtain ⟨hsig, hon⟩ := other_thread_signal he (in_step_not_ended hi hend) hp
      refine ⟨fun hne => hon.trans (h.enabled hne), h.waits, ?_⟩
      have hst := h.state
      simp only [SignalState, Settled, Pending, hpc, hsig] at hst ⊢
      exact hst
  | setLastFrame | setGlobalQuit =>
    cases hs
    exact ⟨h.enabled, h.waits, h.state⟩

theorem signal_kept {s : CaptureLoop} (h : Reachable (captureLoop videoInfoFromCaps) s) :
    InStep s.pc s.pipe.pc ∧ SignalKept s := by
  refine ReachableWhile.invariant (I := fun s => InStep s.pc s.pipe.pc ∧ SignalKept s) h
    (fun i hi => ⟨by rw [hi.pc, hi.pipe.pc]; trivial, ?_⟩)
    fun _ _ _ hs _ hn => ⟨in_step_next hs.1 hn, signal_kept_next hs.1 hs.2 hn⟩
  have hsig : i.pipe.videosrc.signalState = .unknown := by rw [← hi.pipe.streams]; rfl
  refine ⟨fun _ => by rw [hi.pipe.video_callback, hi.pipe.video_enabled]; rfl, ?_, ?_⟩
  · rw [hi.iterations, hi.frameless]
    rfl
  · simp only [SignalState, hi.pc, Settled, hi.last_capture, hi.frameless, hsig]
    rfl

/-- Whenever the loop is at its top, the state of the signal in the source is the one that the
device's answers since the last frame call for: lost after a frame without signal, after any
answer of another format, and from the 33rd iteration without a frame on, not before. -/
theorem signal_state_exact {s : CaptureLoop} (h : Reachable (captureLoop videoInfoFromCaps) s)
    (hpc : s.pc = .top) :
    s.pipe.videosrc.signalState = signalSeen s.lastCapture s.frameless := by
  have hst := (signal_kept h).2.state
  simp only [SignalState, hpc] at hst
  exact hst

theorem signal_state_exact_stalled : ∃ s : CaptureLoop,
    s.lastCapture = some true ∧ s.frameless = List.replicate 33 true ∧
      s.pipe.videosrc.signalState = .lost ∧
      s.pipe.videosrc.signalState = signalSeen s.lastCapture s.frameless := by
  obtain ⟨s, h, hp⟩ := reachable_of_trace (m := captureLoop capsVideoInfo) begun_loop
    (l := frameRound 0 ++ (List.replicate 33 [.status (seen 1), .noFrame]).flatten ++
      [.lossVideo, .lossAudio])
    (p := fun s => s.pc == .top && s.lastCapture == some true &&
      s.frameless == List.replicate 33 true && s.pipe.videosrc.signalState == .lost)
    (by decide)
  simp only [Bool.and_eq_true, beq_iff_eq] at hp
  exact ⟨s, hp.1.1.2, hp.1.2, hp.2, signal_state_exact h hp.1.1.1⟩

end AjaLoopSignal
