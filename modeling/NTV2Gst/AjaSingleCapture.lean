import NTV2Gst.AjaTransitions
import Mathlib.Data.Option.Defs

/-!
# At most one capture thread

The engine knows of every capture thread as long as `Run` is not entered on an engine
that was started. `create` and `stop` of the video source see to that by themselves; the
transition to PLAYING and the start of the audio source do not.
-/
namespace AjaSingleCapture

open TransitionRuns GstAjaModes AjaVideoSrc AjaAudioSrc AjaInput AjaInputSystem AjaTransitions

/-- At most one capture thread and one pair of pools, `Run` entered only without, and
nothing running after `stop`. -/
structure OneCapture (s : System) : Prop where
  runs : ∀ r ∈ s.captures.runs, r.threadNull = true ∧ r.poolsNull = true ∧ r.running = 0
  threads : s.captures.threads.length ≤ 1
  pools : s.captures.pools.length ≤ 1
  stopped : s.video.state = .null ∨ s.video.state = .ready → s.captures.threads = []

def startsAgain (s : System) : Bool := s.startsEngine && s.input.ntv2AV.any (·.mStarted)

def StartsOnce (s : System) : Event → Prop
  | .videoPlaying => startsAgain s = false
  | .audioStart _ => s.input.audioEnabled = false → startsAgain s.enableAudio = false
  | _ => True

instance (s : System) (e : Event) : Decidable (StartsOnce s e) := by
  unfold StartsOnce
  split <;> infer_instance

/-! ## The engine and its thread -/

/-- The engine knows of everything that runs. -/
def Matches (av : NTV2GstAV) (c : Captures) : Prop :=
  (av.mStarted = true ∧ av.mGlobalQuit = false ∧ av.mLastFrame = false ∧ ∃ n,
    av.mACInputThread = some n ∧ av.mBufferPools = some n ∧ c.threads = [⟨n, av.id⟩] ∧
      c.pools = [n]) ∨
  (av.mStarted = false ∧ av.mACInputThread = none ∧ av.mBufferPools = none ∧
    c.threads = [] ∧ c.pools = [])

theorem matches_of_same {a b : NTV2GstAV} {c c' : Captures} (h : SameRun a b)
    (ht : c'.threads = c.threads) (hp : c'.pools = c.pools) (hm : Matches a c) :
    Matches b c' := by
  unfold Matches at *
  rw [h.id, h.last_frame, h.global_quit, h.started, h.thread, h.pools, ht, hp]
  exact hm

theorem run_matches {av : NTV2GstAV} {c : Captures} (h : Matches av c)
    (hs : av.mStarted = false) : Matches (av.run c).1 (av.run c).2 := by
  rcases h with ⟨h, -⟩ | ⟨-, -, -, ht, hp⟩
  · rw [hs] at h; cases h
  · exact Or.inl ⟨rfl, rfl, rfl, c.nextId, rfl, rfl, by simp [NTV2GstAV.run, ht],
      by simp [NTV2GstAV.run, hp]⟩

theorem quit_idle {av : NTV2GstAV} {c : Captures} (h : Matches av c) :
    (av.quit c).2.threads = [] ∧ (av.quit c).2.pools = [] := by
  rcases h with ⟨-, -, -, n, ht, hp, htn, hpn⟩ | ⟨-, ht, hp, htn, hpn⟩ <;>
    simp [NTV2GstAV.quit, ht, hp, htn, hpn]

theorem quit_matches {av : NTV2GstAV} {c : Captures} (h : Matches av c) :
    Matches (av.quit c).1 (av.quit c).2 :=
  Or.inr ⟨rfl, rfl, rfl, quit_idle h⟩

/-! ## The invariant -/

def RunsIdle (c : Captures) : Prop :=
  ∀ r ∈ c.runs, r.threadNull = true ∧ r.poolsNull = true ∧ r.running = 0

structure Tracked (s : System) : Prop where
  engine : ∀ av, s.input.ntv2AV = some av → Matches av s.captures
  no_engine : s.input.ntv2AV = none → s.captures.threads = [] ∧ s.captures.pools = []
  enabled : ∀ av, s.input.ntv2AV = some av → av.mStarted = true → s.input.videoEnabled = true
  runs : RunsIdle s.captures

variable {videoInfoFromCaps : GstCaps → GstVideoInfo} {s t : System}

theorem tracked_init (h : (system videoInfoFromCaps).initial s) : Tracked s := by
  obtain ⟨_, _, _, _, _, _, _, _, rfl⟩ := h
  exact ⟨fun _ h => (by cases h), fun _ => ⟨rfl, rfl⟩, fun _ h => (by cases h),
    fun _ h => (by cases h)⟩

theorem idle_of_disabled (h : Tracked s) (hen : s.input.videoEnabled = false) :
    s.captures.threads = [] ∧ s.captures.pools = [] := by
  cases hav : s.input.ntv2AV with
  | none => exact h.no_engine hav
  | some av =>
    rcases h.engine av hav with ⟨hs, -⟩ | ⟨-, -, -, hidle⟩
    · rw [h.enabled av hav hs] at hen
      cases hen
    · exact hidle

theorem one_capture_of_tracked (h : Tracked s) (hl : VideoLife s) : OneCapture s := by
  have hone : s.captures.threads.length ≤ 1 ∧ s.captures.pools.length ≤ 1 := by
    cases hav : s.input.ntv2AV with
    | none => simp [h.no_engine hav]
    | some av =>
      rcases h.engine av hav with ⟨-, -, -, n, -, -, ht, hp⟩ | ⟨-, -, -, ht, hp⟩ <;>
        simp [ht, hp]
  exact ⟨h.runs, hone.1, hone.2, fun hs => (idle_of_disabled h (hl.idle hs).2.2).1⟩

theorem tracked_of_same (h : Tracked s)
    (hav : Option.Rel SameRun s.input.ntv2AV t.input.ntv2AV)
    (hen : t.input.videoEnabled = s.input.videoEnabled)
    (ht : t.captures.threads = s.captures.threads) (hp : t.captures.pools = s.captures.pools)
    (hr : t.captures.runs = s.captures.runs) : Tracked t := by
  generalize hs' : s.input.ntv2AV = old at hav
  generalize ht' : t.input.ntv2AV = new at hav
  refine ⟨?_, ?_, ?_,
    fun r hmem => h.runs r (hr ▸ hmem)⟩
  · intro b hb
    cases ht'.symm.trans hb
    cases hav with
    | some hab => exact matches_of_same hab ht hp (h.engine _ hs')
  · intro hn
    cases ht'.symm.trans hn
    cases hav
    rw [ht, hp]
    exact h.no_engine hs'
  · intro b hb hstarted
    cases ht'.symm.trans hb
    cases hav with
    | some hab => rw [hen]; exact h.enabled _ hs' (hab.started ▸ hstarted)

theorem tracked_of_same_input (h : Tracked s) (hi : t.input = s.input)
    (hc : t.captures = s.captures) : Tracked t := by
  obtain ⟨h₁, h₂, h₃, h₄⟩ := h
  constructor <;> simp only [hi, hc] <;> assumption

theorem tracked_of_engine (h : Tracked s) {a b : NTV2GstAV} (ha : s.input.ntv2AV = some a)
    (hb : t.input.ntv2AV = some b) (hab : SameRun a b)
    (hen : t.input.videoEnabled = s.input.videoEnabled) (hc : t.captures = s.captures) :
    Tracked t := by
  refine tracked_of_same h ?_ hen (by rw [hc]) (by rw [hc]) (by rw [hc])
  rw [ha, hb]
  exact .some hab

theorem acquire_tracked (h : Tracked s) (src : Element) : Tracked (s.acquire src).1 := by
  obtain ⟨hav, hen⟩ := acquire_engine_some s src
  cases hold : s.input.ntv2AV with
  | some av =>
    refine tracked_of_same h ?_ hen rfl rfl rfl
    rw [hav, hold]
    exact .some (.refl av)
  | none =>
    obtain ⟨ht, hp⟩ := h.no_engine hold
    rw [hold] at hav
    refine ⟨?_, ?_, ?_, h.runs⟩
    · intro b hb
      cases hav.symm.trans hb
      exact Or.inr ⟨rfl, rfl, rfl, ht, hp⟩
    · intro hn
      cases hav.symm.trans hn
    · intro b hb hs
      cases hav.symm.trans hb
      cases hs

/-! ## Starting -/

theorem start_streams_tracked (h : Tracked s) (hstep : StartStep s t)
    (hagain : startsAgain s = false) : Tracked t := by
  rcases hstep.engine with ⟨-, hi, hc⟩ | ⟨hstart, -, av, hav, hi, hc⟩
  · exact tracked_of_same_input h hi hc
  · have hidle : av.mStarted = false := by simpa [startsAgain, hstart, hav] using hagain
    have hmatch := h.engine av hav
    have hvideo : s.input.videoEnabled = true := by
      simp only [System.startsEngine, System.readyToStream, Bool.and_eq_true] at hstart
      exact hstart.1.2.1.1
    refine ⟨?_, ?_, ?_, ?_⟩
    · intro b hb
      rw [hi] at hb
      cases hb
      rw [hc]
      exact run_matches hmatch hidle
    · intro hn
      rw [hi] at hn; cases hn
    · intro _ _ _
      rw [hi]; exact hvideo
    · intro r hr
      rw [hc] at hr
      rcases List.mem_append.mp hr with hr | hr
      · exact h.runs r hr
      · obtain rfl := List.mem_singleton.mp hr
        rcases hmatch with ⟨hs, -⟩ | ⟨-, ht, hp, htn, -⟩
        · rw [hidle] at hs; cases hs
        · simp [ht, hp, htn]

theorem start_streams_again (h : Tracked s) (hstep : StartStep s t)
    (hagain : startsAgain s = true) : ¬RunsIdle t.captures := by
  simp only [startsAgain, Bool.and_eq_true] at hagain
  obtain ⟨hstart, hstarted⟩ := hagain
  rcases hstep.engine with ⟨hno, -⟩ | ⟨-, -, av, hav, -, hc⟩
  · rw [hstart] at hno; cases hno
  · rw [hav] at hstarted
    have hs : av.mStarted = true := hstarted
    rcases h.engine av hav with ⟨-, -, -, n, ht, -⟩ | ⟨hn, -⟩
    · intro hidle
      have := (hidle ⟨_, _, _⟩ (by rw [hc]; exact List.mem_append_right _ List.mem_cons_self)).1
      rw [ht] at this
      cases this
    · rw [hs] at hn; cases hn

theorem first_create_starts_once (h : Tracked s) (hen : s.input.videoEnabled = false)
    (mode : GstAjaMode) : startsAgain (s.enableVideo mode) = false := by
  cases hav : s.input.ntv2AV with
  | none => simp [startsAgain, System.enableVideo, hav]
  | some av =>
    have hidle : av.mStarted = false := by
      rw [Bool.eq_false_iff]
      intro hs
      rw [h.enabled av hav hs] at hen
      cases hen
    simp [startsAgain, System.enableVideo, hav, hidle]

/-! ## Stopping -/

theorem stop_tracked (h : Tracked s) (hs : s.videoStop = some t) : Tracked t := by
  obtain ⟨-, -, ⟨-, rfl⟩ | ⟨-, rfl⟩ | ⟨av, hav, rfl⟩⟩ := video_stop_cases hs
  · exact tracked_of_same_input h rfl rfl
  · exact tracked_of_same_input h rfl rfl
  · have hq := quit_matches (h.engine av hav)
    refine ⟨?_, fun hn => (by cases hn), ?_, h.runs⟩
    · intro b hb
      cases hb
      exact matches_of_same (by constructor <;> rfl) rfl rfl hq
    · intro b hb hst
      cases hb
      cases hst

theorem close_tracked (h : Tracked s) (hs : s.videoClose = some t) : Tracked t := by
  obtain ⟨-, ⟨-, rfl⟩ | ⟨-, rfl⟩⟩ := video_close_cases hs
  · exact tracked_of_same_input h rfl rfl
  · refine ⟨fun b hb => (by cases hb), ?_, fun b hb => (by cases hb), ?_⟩
    · intro _
      cases hav : s.input.ntv2AV with
      | none => exact h.no_engine hav
      | some av => exact quit_idle (quit_matches (h.engine av hav))
    · cases hav : s.input.ntv2AV with
      | none => exact h.runs
      | some av => exact h.runs

/-- No thread ends by itself: the engine that it belongs to has not quit. -/
theorem no_thread_ends (h : Tracked s) {thread : ℕ} : s.threadEnds thread = none := by
  rw [Option.eq_none_iff_forall_not_mem]
  intro t ht
  obtain ⟨av, hav, hmem, hflag, -⟩ := thread_ends_cases ht
  rcases h.engine av hav with ⟨-, hg, hl, -⟩ | ⟨-, -, -, ht, -⟩
  · simp [hg, hl] at hflag
  · rw [ht] at hmem; cases hmem

theorem tracked_step {e : Event} (h : Tracked s) (ha : StartsOnce s e)
    (hs : s.step videoInfoFromCaps e = some t) : Tracked t := by
  by_cases hq : quietEvent e = true
  · have hsame := quiet_step hq hs
    exact tracked_of_same_input h hsame.input hsame.captures
  cases e with
  | videoOpen found ok =>
    have hacq := acquire_tracked h .video
    obtain ⟨-, ⟨-, rfl⟩ | ⟨-, mode, av, -, hav, rfl⟩⟩ := video_open_cases hs
    · exact tracked_of_same_input hacq rfl rfl
    · exact tracked_of_engine hacq hav rfl (open_init_same_run av mode found ok) rfl rfl
  | videoReadyToPaused ok =>
    obtain ⟨-, ⟨-, rfl⟩ | ⟨av, hav, rfl⟩⟩ := video_ready_cases hs
    · exact tracked_of_same_input h rfl rfl
    · exact tracked_of_engine h hav rfl (by constructor <;> rfl) rfl rfl
  | videoPlay =>
    obtain ⟨-, -, rfl⟩ := video_play_cases hs
    exact tracked_of_same_input h rfl rfl
  | videoPlaying =>
    obtain ⟨-, u, hu, rfl⟩ := video_playing_cases hs
    exact tracked_of_same_input (start_streams_tracked h hu ha) rfl rfl
  | videoPause =>
    obtain ⟨-, rfl⟩ := video_pause_cases hs
    exact ⟨h.engine, h.no_engine, h.enabled, h.runs⟩
  | videoStop => exact stop_tracked h hs
  | videoClose => exact close_tracked h hs
  | videoStart =>
    obtain ⟨-, ⟨-, rfl⟩ | ⟨hen, mode, -, u, hu, rfl⟩⟩ := video_start_cases hs
    · exact h
    · have hon : Tracked (s.enableVideo mode) :=
        ⟨h.engine, h.no_engine, fun _ _ _ => rfl, h.runs⟩
      exact tracked_of_same_input
        (start_streams_tracked hon hu (first_create_starts_once h hen mode)) rfl rfl
  | audioOpen found ok =>
    have hacq := acquire_tracked h .audio
    obtain ⟨-, ⟨-, rfl⟩ | ⟨-, av, hav, rfl⟩⟩ := audio_open_cases hs
    · exact tracked_of_same_input hacq rfl rfl
    · exact tracked_of_engine hacq hav rfl (open_init_audio_same_run av found ok) rfl rfl
  | audioReadyToPaused ok =>
    obtain ⟨-, hv, -, -, -, -, -, -, ⟨-, hi, -⟩ | ⟨av, hav, hi, -⟩⟩ := audio_ready_cases hs
    · exact tracked_of_same_input h hi hv.captures
    · exact tracked_of_engine h hav (by rw [hi]) (by constructor <;> rfl) (by rw [hi]) hv.captures
  | audioPlay =>
    obtain ⟨-, rfl⟩ := audio_play_cases hs
    exact tracked_of_same_input h rfl rfl
  | audioPause =>
    obtain ⟨-, rfl⟩ := audio_pause_cases hs
    exact tracked_of_same_input h rfl rfl
  | audioStop =>
    obtain ⟨-, hv, -, -, -, ⟨-, hi, -⟩ | ⟨-, hi, -⟩ | ⟨av, hav, hi, -⟩⟩ := audio_stop_cases hs
    · exact tracked_of_same_input h hi hv.captures
    · exact tracked_of_same_input h hi hv.captures
    · exact tracked_of_engine h hav (by rw [hi]) (by constructor <;> rfl) (by rw [hi]) hv.captures
  | audioClose =>
    obtain ⟨-, ⟨-, rfl⟩ | ⟨-, rfl⟩⟩ := audio_close_cases hs
    · exact tracked_of_same_input h rfl rfl
    · exact ⟨h.engine, h.no_engine, h.enabled, h.runs⟩
  | audioStart capsSet =>
    have hon : Tracked s.enableAudio := ⟨h.engine, h.no_engine, h.enabled, h.runs⟩
    obtain ⟨-, ⟨-, rfl⟩ | ⟨hen, u, hu | ⟨-, rfl⟩, rfl⟩⟩ := audio_start_cases hs
    · exact h
    · exact tracked_of_same_input (start_streams_tracked hon hu (ha hen)) rfl rfl
    · exact tracked_of_same_input hon rfl rfl
  | threadEnds thread =>
    have hs : s.threadEnds thread = some t := hs
    rw [no_thread_ends h] at hs
    cases hs
  | _ => exact absurd rfl hq

theorem runs_idle_of_step {e : Event} (h : Tracked s)
    (hs : s.step videoInfoFromCaps e = some t) (hidle : RunsIdle t.captures) :
    StartsOnce s e := by
  cases e with
  | videoPlaying =>
    obtain ⟨-, u, hu, rfl⟩ := video_playing_cases hs
    by_contra hagain
    exact start_streams_again h hu (by simpa [StartsOnce] using hagain) hidle
  | audioStart capsSet =>
    have hon : Tracked s.enableAudio := ⟨h.engine, h.no_engine, h.enabled, h.runs⟩
    intro hen
    obtain ⟨-, ⟨hon', -⟩ | ⟨-, u, hu | ⟨hslot, rfl⟩, rfl⟩⟩ := audio_start_cases hs
    · rw [hen] at hon'; cases hon'
    · by_contra hagain
      exact start_streams_again hon hu (by simpa using hagain) hidle
    · simp [startsAgain, System.startsEngine, System.enableAudio, hslot]
  | _ => trivial

/-! ## Every run -/

theorem tracked (h : ReachableWhile (system videoInfoFromCaps) StartsOnce s) : Tracked s :=
  h.invariant (fun _ hi => tracked_init hi)
    fun _ _ _ hi ha hn => tracked_step hi ha (system_step_of_next hn).2

/-- One capture at a time as long as no engine is started twice, and not beyond. -/
theorem one_capture_thread (h : ReachableWhile (system videoInfoFromCaps) StartsOnce s) :
    OneCapture s ∧ ∀ e t, (system videoInfoFromCaps).next s e = some t →
      (OneCapture t ↔ StartsOnce s e) := by
  refine ⟨one_capture_of_tracked (tracked h) (video_life h), fun e t hn => ⟨?_,
    ?_⟩⟩
  · intro ht
    exact runs_idle_of_step (tracked h) (system_step_of_next hn).2 ht.runs
  · intro ha
    have hstep := h.step ha hn
    exact one_capture_of_tracked (tracked hstep) (video_life hstep)

def untilCapture : List Event :=
  [.videoOpen true true, .videoReadyToPaused true, .videoPlay, .videoPlaying, .videoStart]

theorem one_capture_thread_running : ∃ s, s.captures.threads.length = 1 ∧ OneCapture s ∧
    ∀ e t, (system capsVideoInfo).next s e = some t → (OneCapture t ↔ StartsOnce s e) := by
  obtain ⟨s, hs, hp⟩ := reachable_while_of_trace (m := system capsVideoInfo)
    (a := StartsOnce) (i := newElements) (l := untilCapture)
    (p := fun s => decide (s.captures.threads.length = 1))
    ⟨15, 5, false, 0, 2, 5, 0, 0, rfl⟩ (by decide +kernel)
  exact ⟨s, of_decide_eq_true hp, one_capture_thread hs⟩

/-- Pausing does not stop the capture, and resuming starts another. -/
theorem second_thread_after_pause :
    ¬∀ s, Reachable (system capsVideoInfo) s → OneCapture s := by
  intro h
  obtain ⟨s, hs, hp⟩ := reachable_of_trace (m := system capsVideoInfo) (i := newElements)
    (l := untilCapture ++ [.videoPause, .videoPlay, .videoPlaying])
    (p := fun s => decide (s.captures.threads.length = 2))
    ⟨15, 5, false, 0, 2, 5, 0, 0, rfl⟩ (by decide +kernel)
  have hone := (h s hs).threads
  rw [of_decide_eq_true hp] at hone
  omega

end AjaSingleCapture
