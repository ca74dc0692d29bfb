import NTV2Gst.AjaTransitions
import NTV2Gst.AjaFrameSteps

/-!
# The video source is passed the frame first

A capture thread hands a frame to the video callback and then its packet to the audio
callback, which takes it for granted that the video source has noted a first time.
`start_streams` forgets that time from any other thread, also while the frame is still in
`got_frame`, and either callback may decline.
-/
namespace AjaFirstTime

open TransitionRuns GstAjaModes GstClockMath AjaVideoSrc AjaAudioSrc AjaInput AjaInputSystem
  AjaTransitions AjaFrameSteps
open AjaCapturePipeline (ACInputWorker DeviceFrame)

/-! ## The two callbacks of a frame -/

structure Captured where
  worker : ACInputWorker
  buffer : ℕ
  frame : DeviceFrame
  deriving DecidableEq, Repr

def Captured.videoBuff (c : Captured) : AjaVideoBuff := c.worker.videoBuff c.buffer c.frame

def Captured.audioBuff (c : Captured) : AjaAudioBuff := c.worker.audioBuff c.buffer c.frame

/-- A capture thread with a frame in hand. `taken` tells that the video source was handed the
frame, `passed` that it has seen to its first time since the last reset. -/
structure Held where
  thread : ℕ
  captured : Option Captured
  pc : FramePc
  taken : Bool
  passed : Bool
  deriving DecidableEq, Repr

def Held.haveSignal (h : Held) : Bool := h.captured.any (·.frame.haveSignal)

structure CaptureState where
  system : System
  between : List Held
  deriving DecidableEq, Repr

/-- Without a frame both callbacks are called with NULL. -/
inductive CaptureEvent where
  | system (e : Event)
  | videoCallback (thread : ℕ) (clock : CaptureClock) (captured : Option Captured)
  | gotFrame (thread : ℕ) (regression : Option Calibration)
  | audioCallback (thread : ℕ)
  deriving DecidableEq, Repr

def CaptureState.holds (s : CaptureState) (thread : ℕ) : Option Held :=
  s.between.find? (·.thread == thread)

def resetsStreams (s : System) : Bool :=
  s.input.startStreams && s.input.videosrc == some .video && s.video.hasInput && s.readyToStream

def resets (s : System) : Event → Bool
  | .videoPlaying => resetsStreams s
  | .videoStart => !s.input.videoEnabled &&
      (getModeRaw s.videosrc.modeEnum).any fun mode => resetsStreams (s.enableVideo mode)
  | .audioStart _ => !s.input.audioEnabled && resetsStreams s.enableAudio
  | _ => false

section Steps

variable (videoInfoFromCaps : GstCaps → GstVideoInfo)

/-- Any step but a callback. A thread is gone with its engine or once `Quit` has waited for
it, and it ends only at the top of its loop. -/
def CaptureState.systemStep (s : CaptureState) (e : Event) : Option CaptureState :=
  match e with
  | .frame _ _ _ | .packet _ _ => none
  | e =>
    if s.between.any fun h => e == .threadEnds h.thread then none
    else (s.system.next videoInfoFromCaps e).map fun t =>
      { system := t
        between := (s.between.filter fun h => (t.engineOf h.thread).isSome).map fun h =>
          { h with passed := h.passed && !resets s.system e } }

/-- The callback up to the anchor, or back at once when the source declines. -/
def CaptureState.videoCallback (s : CaptureState) (thread : ℕ) (clock : CaptureClock)
    (captured : Option Captured) : Option CaptureState :=
  if s.system.fault.isSome || (s.holds thread).isSome then none
  else (s.system.engineOf thread).map fun av =>
    if av.mVideoCallback && !s.system.video.hasInput then
      { s with system := { s.system with fault := some .nullPointer } }
    else if av.mVideoCallback && s.system.input.videoEnabled then
      let r := enterFrame s.system.videosrc clock (captured.map Captured.videoBuff)
      { system := { s.system with videosrc := r.1 }
        between := s.between ++ [⟨thread, captured, r.2, true, false⟩] }
    else { s with between := s.between ++ [⟨thread, captured, .returned, false, false⟩] }

def CaptureState.advance (s : CaptureState) (h : Held) (r : GstAjaVideoSrc × FramePc) :
    CaptureState where
  system := { s.system with videosrc := r.1 }
  between := s.between.map fun k =>
    if k.thread = h.thread then
      { h with pc := r.2, passed := h.passed || (!h.pc.noted && r.2.noted) }
    else k

def CaptureState.gotFrame (s : CaptureState) (thread : ℕ) (regression : Option Calibration) :
    Option CaptureState :=
  (s.holds thread).bind fun h => h.captured.bind fun c =>
    if s.system.fault.isSome || h.pc == .returned then none
    else
      match s.system.input.mode, h.pc with
      | none, .readAnchor _ _ =>
        some { s with system := { s.system with fault := some .nullPointer } }
      -- only there is the mode read
      | mode, pc => some <| s.advance h <|
        pc.next s.system.videosrc (mode.getD mode720p5994) c.videoBuff regression

def CaptureState.audioCallback (s : CaptureState) (thread : ℕ) : Option CaptureState :=
  (s.holds thread).bind fun h =>
    if h.pc = .returned then
      (s.system.next videoInfoFromCaps
        (.packet thread (h.captured.map Captured.audioBuff))).map fun t =>
      { system := t
        between := s.between.filter (·.thread != thread) }
    else none

def CaptureState.next (s : CaptureState) : CaptureEvent → Option CaptureState
  | .system e => s.systemStep videoInfoFromCaps e
  | .videoCallback thread clock captured => s.videoCallback thread clock captured
  | .gotFrame thread regression => s.gotFrame thread regression
  | .audioCallback thread => s.audioCallback videoInfoFromCaps thread

def capture : Machine CaptureState CaptureEvent where
  initial s := (system videoInfoFromCaps).initial s.system ∧ s.between = []
  next := CaptureState.next videoInfoFromCaps

end Steps

/-! ## The assertion -/

/-- The audio callback on what the thread holds gets to the assertion in `got_packet`. -/
def CaptureState.reachesAssertion (s : CaptureState) (h : Held) : Bool :=
  h.pc == .returned && s.system.fault.isNone &&
    (s.system.engineOf h.thread).any (·.mAudioCallback) && s.system.audio.hasInput &&
    s.system.input.audioEnabled && h.haveSignal && s.system.input.videosrc.isSome

def FramePc.notes : FramePc → Option ℕ
  | .noteFirst _ streamTime _ => some streamTime
  | _ => none

/-- No reset from the moment that `got_frame` has seen to the first time of a frame until the
audio callback has its packet, no first time noted that is none, and no packet for the audio
source whose frame the video callback declined. -/
def Undisturbed (s : CaptureState) : CaptureEvent → Prop
  | .system e => resets s.system e = true → ∀ h ∈ s.between, h.passed = false
  | .videoCallback _ _ _ => True
  | .gotFrame thread _ => ∀ h ∈ s.holds thread, FramePc.notes h.pc = some clockTimeNone →
      s.system.videosrc.firstTime ≠ clockTimeNone
  | .audioCallback thread => ∀ h ∈ s.holds thread, s.reachesAssertion h = true → h.taken = true

instance (s : CaptureState) (e : CaptureEvent) : Decidable (Undisturbed s e) := by
  unfold Undisturbed
  split <;> infer_instance

variable {videoInfoFromCaps : GstCaps → GstVideoInfo} {s t : System}

/-! ## The first time of the video source -/

def HasVideo (input : GstAjaInput Element) : Prop :=
  input.videosrc = some .video ∧ input.mode.isSome = true

/-- Streams are started, and a capture runs, only while the video source has its slot and
there is a mode. -/
structure InputSound (s : System) : Prop where
  start : s.input.startStreams = true → HasVideo s.input
  live : ∀ av, s.input.ntv2AV = some av → ∀ th ∈ s.captures.threads, th.engine = av.id →
    HasVideo s.input
  engines : ∀ th ∈ s.captures.threads, th.engine < s.captures.nextId
  fresh : ∀ av, s.input.ntv2AV = some av → av.id < s.captures.nextId

theorem input_sound_init (h : (system videoInfoFromCaps).initial s) : InputSound s := by
  obtain ⟨_, _, _, _, _, _, _, _, rfl⟩ := h
  constructor <;> intros <;> contradiction

structure SameInput (s t : System) : Prop where
  slot : t.input.videosrc = s.input.videosrc
  start : t.input.startStreams = s.input.startStreams
  mode : t.input.mode = s.input.mode
  engine : ∀ b, t.input.ntv2AV = some b → ∃ a, s.input.ntv2AV = some a ∧ b.id = a.id
  threads : ∀ th ∈ t.captures.threads, th ∈ s.captures.threads
  next_id : t.captures.nextId = s.captures.nextId

theorem SameInput.of_eq (hi : t.input = s.input) (hc : t.captures = s.captures) :
    SameInput s t := by
  refine ⟨by rw [hi], by rw [hi], by rw [hi], ?_, by simp [hc], by rw [hc]⟩
  intro b hb
  exact ⟨b, hi ▸ hb, rfl⟩

theorem SameInput.of_engine {a b : NTV2GstAV} (ha : s.input.ntv2AV = some a)
    (hi : t.input = { s.input with ntv2AV := some b }) (hc : t.captures = s.captures)
    (hid : b.id = a.id) : SameInput s t := by
  constructor <;> simp [hi, hc, ha, hid]

theorem InputSound.of_same (h : InputSound s) (hf : SameInput s t) : InputSound t := by
  have hvideo : HasVideo s.input → HasVideo t.input := by
    intro hv
    rwa [HasVideo, hf.slot, hf.mode]
  constructor
  · intro hs
    exact hvideo (h.start (hf.start ▸ hs))
  · intro b hb th hth hid
    obtain ⟨a, ha, hab⟩ := hf.engine b hb
    exact hvideo <| h.live a ha th (hf.threads th hth) (hid.trans hab)
  · intro th hth
    rw [hf.next_id]
    exact h.engines th (hf.threads th hth)
  · intro b hb
    obtain ⟨a, ha, hab⟩ := hf.engine b hb
    rw [hf.next_id, hab]
    exact h.fresh a ha

theorem acquire_start_streams (s : System) (src : Element) :
    (s.acquire src).1.input.startStreams = s.input.startStreams := by
  have hwith : (s.input.withEngine s.captures.nextId).startStreams = s.input.startStreams := by
    unfold GstAjaInput.withEngine
    split <;> rfl
  simp only [System.acquire, GstAjaInput.acquire]
  repeat' split
  all_goals exact hwith

theorem acquire_has_video (src : Element) (h : HasVideo s.input) :
    HasVideo (s.acquire src).1.input := by
  obtain ⟨-, hmode, -, -⟩ := acquire_engine s.input s.captures.nextId src (src == .audio)
  have hmode : (s.acquire src).1.input.mode = s.input.mode := hmode
  refine ⟨?_, hmode ▸ h.2⟩
  have hslot := (with_engine_slots s.input s.captures.nextId).2.trans h.1
  simp only [System.acquire, GstAjaInput.acquire, hslot]
  split <;> simp [hslot]

theorem acquire_sound (h : InputSound s) (src : Element) : InputSound (s.acquire src).1 := by
  obtain ⟨hav, -, -, -⟩ := acquire_engine s.input s.captures.nextId src (src == .audio)
  have hav : (s.acquire src).1.input.ntv2AV =
    some (s.input.ntv2AV.getD (.new s.captures.nextId)) := hav
  constructor
  · intro hs
    exact acquire_has_video src (h.start (acquire_start_streams s src ▸ hs))
  · intro b hb th hth hid
    cases hav.symm.trans hb
    cases hold : s.input.ntv2AV with
    | some a =>
      rw [hold] at hid
      exact acquire_has_video src (h.live a hold th hth hid)
    | none =>
      -- no thread belongs to an engine that is only made now
      have hlt := h.engines th hth
      rw [hold] at hid
      rw [hid] at hlt
      exact absurd hlt (lt_irrefl _)
  · intro th hth
    exact (h.engines th hth).trans (Nat.lt_succ_self _)
  · intro b hb
    cases hav.symm.trans hb
    cases hold : s.input.ntv2AV with
    | some a => exact (h.fresh a hold).trans (Nat.lt_succ_self _)
    | none => exact Nat.lt_succ_self _

theorem start_step_sound (h : InputSound s) (hstep : StartStep s t) : InputSound t := by
  obtain ⟨-, hi, hc⟩ | ⟨hstart, -, av, hav, hi, hc⟩ := hstep.engine
  · exact h.of_same (.of_eq hi hc)
  · have hvideo : HasVideo s.input := by
      simp only [System.startsEngine, Bool.and_eq_true] at hstart
      exact h.start hstart.1.1.1.1
    have hid := h.fresh av hav
    constructor
    · intro _
      rw [hi]
      exact hvideo
    · intro _ _ _ _ _
      rw [hi]
      exact hvideo
    · intro th hth
      rw [hc] at hth ⊢
      rcases List.mem_append.mp hth with hth | hth
      · exact (h.engines th hth).trans (Nat.lt_succ_self _)
      · rw [List.mem_singleton.mp hth]
        exact hid.trans (Nat.lt_succ_self _)
    · intro b hb
      rw [hi] at hb
      cases hb
      rw [hc]
      exact hid.trans (Nat.lt_succ_self _)

theorem quit_threads (av : NTV2GstAV) (c : Captures) :
    ∀ th ∈ (av.quit c).2.threads, th ∈ c.threads := by
  intro th hth
  exact (List.mem_filter.mp hth).1

theorem video_acquire_slot (h : (s.acquire .video).2 = true) :
    (s.acquire .video).1.input.videosrc = some .video := by
  obtain ⟨-, -, hslot, -⟩ | ⟨hno, -⟩ | ⟨-, -, hno, -⟩ :=
    acquire_slots s.input s.captures.nextId Element.video false
  · exact hslot
  · cases hno
  · exact absurd (hno.symm.trans h) (by decide)

theorem video_open_sound {found ok : Bool} (h : InputSound s)
    (hs : s.videoOpen found ok = some t) : InputSound t := by
  have hacq := acquire_sound h .video
  obtain ⟨-, ⟨-, rfl⟩ | ⟨hok, mode, av, -, hav, rfl⟩⟩ := video_open_cases hs
  · exact hacq.of_same (.of_eq rfl rfl)
  · have hvideo := video_acquire_slot hok
    have hid := (open_init_same_run av mode found ok).id
    refine ⟨fun _ => ⟨hvideo, rfl⟩, fun _ _ _ _ _ => ⟨hvideo, rfl⟩, hacq.engines, ?_⟩
    intro b hb
    cases hb
    rw [hid]
    exact hacq.fresh av hav

theorem video_close_sound (h : InputSound s) (hs : s.videoClose = some t) : InputSound t := by
  obtain ⟨-, ⟨-, rfl⟩ | ⟨-, rfl⟩⟩ := video_close_cases hs
  · exact h.of_same (.of_eq rfl rfl)
  · refine ⟨fun hs => (by cases hs), fun b hb => (by cases hb), ?_, fun b hb => (by cases hb)⟩
    cases hav : s.input.ntv2AV with
    | none => exact h.engines
    | some av =>
      intro th hth
      exact h.engines th (quit_threads _ _ th (quit_threads _ _ th hth))

theorem input_sound_step {e : Event} (h : InputSound s)
    (hs : s.step videoInfoFromCaps e = some t) : InputSound t := by
  by_cases hq : quietEvent e = true
  · have hsame := quiet_step hq hs
    exact h.of_same (.of_eq hsame.input hsame.captures)
  cases e with
  | videoOpen found ok => exact video_open_sound h hs
  | videoReadyToPaused ok =>
    obtain ⟨-, ⟨-, rfl⟩ | ⟨av, hav, rfl⟩⟩ := video_ready_cases hs
    · exact h.of_same (.of_eq rfl rfl)
    · exact h.of_same (.of_engine hav rfl rfl rfl)
  | videoPlay =>
    obtain ⟨-, -, rfl⟩ := video_play_cases hs
    exact h.of_same (.of_eq rfl rfl)
  | videoPlaying =>
    obtain ⟨-, u, hu, rfl⟩ := video_playing_cases hs
    exact (start_step_sound h hu).of_same (.of_eq rfl rfl)
  | videoPause =>
    obtain ⟨-, rfl⟩ := video_pause_cases hs
    exact ⟨h.start, h.live, h.engines, h.fresh⟩
  | videoStop =>
    obtain ⟨-, -, ⟨-, rfl⟩ | ⟨-, rfl⟩ | ⟨av, hav, rfl⟩⟩ := video_stop_cases hs
    · exact h.of_same (.of_eq rfl rfl)
    · exact h.of_same (.of_eq rfl rfl)
    · refine h.of_same ⟨rfl, rfl, rfl, ?_, quit_threads av s.captures, rfl⟩
      intro b hb
      cases hb
      exact ⟨av, hav, rfl⟩
  | videoClose => exact video_close_sound h hs
  | videoStart =>
    obtain ⟨-, ⟨-, rfl⟩ | ⟨-, mode, -, u, hu, rfl⟩⟩ := video_start_cases hs
    · exact h
    · have hvideo : HasVideo s.input → HasVideo (s.enableVideo mode).input := by
        intro hv
        exact ⟨hv.1, rfl⟩
      have hon : InputSound (s.enableVideo mode) :=
        ⟨fun hs => hvideo (h.start hs), fun a ha th hth hid => hvideo (h.live a ha th hth hid),
          h.engines, h.fresh⟩
      exact (start_step_sound hon hu).of_same (.of_eq rfl rfl)
  | audioOpen found ok =>
    have hacq := acquire_sound h .audio
    obtain ⟨-, ⟨-, rfl⟩ | ⟨-, av, hav, rfl⟩⟩ := audio_open_cases hs
    · exact hacq.of_same (.of_eq rfl rfl)
    · exact hacq.of_same (.of_engine hav rfl rfl (open_init_audio_same_run av found ok).id)
  | audioReadyToPaused ok =>
    obtain ⟨-, hv, -, -, -, -, -, -, ⟨-, hi, -⟩ | ⟨av, hav, hi, -⟩⟩ := audio_ready_cases hs
    · exact h.of_same (.of_eq hi hv.captures)
    · exact h.of_same (.of_engine hav hi hv.captures rfl)
  | audioPlay =>
    obtain ⟨-, rfl⟩ := audio_play_cases hs
    exact h.of_same (.of_eq rfl rfl)
  | audioPause =>
    obtain ⟨-, rfl⟩ := audio_pause_cases hs
    exact h.of_same (.of_eq rfl rfl)
  | audioStop =>
    obtain ⟨-, hv, -, -, -, ⟨-, hi, -⟩ | ⟨-, hi, -⟩ | ⟨av, hav, hi, -⟩⟩ := audio_stop_cases hs
    · exact h.of_same (.of_eq hi hv.captures)
    · exact h.of_same (.of_eq hi hv.captures)
    · refine h.of_same ⟨by rw [hi], by rw [hi], by rw [hi], ?_, by simp [hv.captures],
        by rw [hv.captures]⟩
      intro b hb
      rw [hi] at hb
      cases hb
      exact ⟨av, hav, rfl⟩
  | audioClose =>
    obtain ⟨-, ⟨-, rfl⟩ | ⟨-, rfl⟩⟩ := audio_close_cases hs
    · exact h.of_same (.of_eq rfl rfl)
    · exact ⟨h.start, h.live, h.engines, h.fresh⟩
  | audioStart capsSet =>
    have hon : InputSound s.enableAudio := ⟨h.start, h.live, h.engines, h.fresh⟩
    obtain ⟨-, ⟨-, rfl⟩ | ⟨-, u, hu | ⟨-, rfl⟩, rfl⟩⟩ := audio_start_cases hs
    · exact h
    · exact (start_step_sound hon hu).of_same (.of_eq rfl rfl)
    · exact hon.of_same (.of_eq rfl rfl)
  | threadEnds thread =>
    obtain ⟨av, -, -, -, rfl⟩ := thread_ends_cases hs
    refine h.of_same ⟨rfl, rfl, rfl, fun b hb => ⟨b, hb, rfl⟩, ?_, rfl⟩
    intro th hth
    exact (List.mem_filter.mp hth).1
  | _ => exact absurd rfl hq

/-! ## `got_frame` -/

theorem lose_signal_first_time (src : GstAjaVideoSrc) : src.loseSignal.firstTime = src.firstTime :=
  (AjaTimeAgreement.lose_signal_timing src).first_time

section Next

variable {src : GstAjaVideoSrc} {mode : GstAjaMode} {b : AjaVideoBuff}
  {regression : Option Calibration} {pc : FramePc}

end Next

/-! ## Frames in flight -/

variable {c d : CaptureState}

theorem system_step_cases {e : Event} (h : c.systemStep videoInfoFromCaps e = some d) :
    (∀ thread env b, e ≠ .frame thread env b) ∧
      c.system.step videoInfoFromCaps e = some d.system ∧
      d.between = (c.between.filter fun h => (d.system.engineOf h.thread).isSome).map fun h =>
        { h with passed := h.passed && !resets c.system e } := by
  unfold CaptureState.systemStep at h
  split at h
  · cases h
  · cases h
  case h_3 hframe hpacket =>
    split at h
    · cases h
    · obtain ⟨t, ht, rfl⟩ := Option.map_eq_some_iff.mp h
      exact ⟨hframe, (system_step_of_next ht).2, rfl⟩

theorem video_callback_cases {thread : ℕ} {clock : CaptureClock} {captured : Option Captured}
    (h : c.videoCallback thread clock captured = some d) :
    (c.system.engineOf thread).isSome = true ∧
      (d = { c with system := { c.system with fault := some .nullPointer } } ∨
        (d.system = { c.system with videosrc :=
            (enterFrame c.system.videosrc clock (captured.map Captured.videoBuff)).1 } ∧
          d.between = c.between ++ [⟨thread, captured,
            (enterFrame c.system.videosrc clock (captured.map Captured.videoBuff)).2,
            true, false⟩]) ∨
        (d.system = c.system ∧
          d.between = c.between ++ [⟨thread, captured, .returned, false, false⟩])) := by
  unfold CaptureState.videoCallback at h
  split at h
  · cases h
  · obtain ⟨av, hav, rfl⟩ := Option.map_eq_some_iff.mp h
    refine ⟨by rw [hav]; rfl, ?_⟩
    split
    · exact Or.inl rfl
    · split
      · exact Or.inr (Or.inl ⟨rfl, rfl⟩)
      · exact Or.inr (Or.inr ⟨rfl, rfl⟩)

theorem got_frame_cases {thread : ℕ} {regression : Option Calibration}
    (h : c.gotFrame thread regression = some d) :
    ∃ held captured, c.holds thread = some held ∧ held.captured = some captured ∧
      held.pc ≠ .returned ∧
      (((FramePc.notes held.pc) = none ∧
          d = { c with system := { c.system with fault := some .nullPointer } }) ∨
        ∃ mode, d = c.advance held
          (held.pc.next c.system.videosrc mode captured.videoBuff regression)) := by
  obtain ⟨held, hheld, h⟩ := Option.bind_eq_some_iff.mp h
  obtain ⟨captured, hcap, h⟩ := Option.bind_eq_some_iff.mp h
  split at h
  · cases h
  · rename_i hgo
    simp only [Bool.or_eq_true, beq_iff_eq, not_or] at hgo
    refine ⟨held, captured, hheld, hcap, hgo.2, ?_⟩
    split at h
    · rename_i hpc
      cases h
      exact Or.inl ⟨by rw [hpc]; rfl, rfl⟩
    · cases h
      exact Or.inr ⟨_, rfl⟩

theorem audio_callback_cases {thread : ℕ} (h : c.audioCallback videoInfoFromCaps thread = some d) :
    (∃ b, c.system.packet thread b = some d.system) ∧
      d.between = c.between.filter (·.thread != thread) := by
  obtain ⟨held, -, h⟩ := Option.bind_eq_some_iff.mp h
  split at h
  · obtain ⟨t, ht, rfl⟩ := Option.map_eq_some_iff.mp h
    exact ⟨⟨_, (system_step_of_next ht).2⟩, rfl⟩
  · cases h

theorem video_callback_input {thread : ℕ} {clock : CaptureClock} {captured : Option Captured}
    (h : c.videoCallback thread clock captured = some d) :
    d.system.input = c.system.input ∧ d.system.captures = c.system.captures := by
  obtain ⟨-, rfl | ⟨hd, -⟩ | ⟨hd, -⟩⟩ := video_callback_cases h
  · exact ⟨rfl, rfl⟩
  · rw [hd]; exact ⟨rfl, rfl⟩
  · rw [hd]; exact ⟨rfl, rfl⟩

theorem got_frame_input {thread : ℕ} {regression : Option Calibration}
    (h : c.gotFrame thread regression = some d) :
    d.system.input = c.system.input ∧ d.system.captures = c.system.captures := by
  obtain ⟨held, captured, -, -, -, ⟨-, rfl⟩ | ⟨mode, rfl⟩⟩ := got_frame_cases h
  · exact ⟨rfl, rfl⟩
  · exact ⟨rfl, rfl⟩

theorem capture_input_sound {e : CaptureEvent} (h : InputSound c.system)
    (hs : (capture videoInfoFromCaps).next c e = some d) : InputSound d.system := by
  cases e with
  | system e => exact input_sound_step h (system_step_cases hs).2.1
  | videoCallback thread clock captured =>
    obtain ⟨hi, hc⟩ := video_callback_input hs
    exact h.of_same (.of_eq hi hc)
  | gotFrame thread regression =>
    obtain ⟨hi, hc⟩ := got_frame_input hs
    exact h.of_same (.of_eq hi hc)
  | audioCallback thread =>
    obtain ⟨⟨b, hpacket⟩, -⟩ := audio_callback_cases hs
    have hquiet := packet_quiet hpacket
    exact h.of_same (.of_eq hquiet.input hquiet.captures)

theorem live_has_video (h : InputSound s) {thread : ℕ}
    (ha : (s.engineOf thread).isSome = true) : HasVideo s.input := by
  obtain ⟨av, hav⟩ := Option.isSome_iff_exists.mp ha
  obtain ⟨hengine, hmem⟩ := Option.filter_eq_some_iff.mp hav
  exact h.live av hengine _ (of_decide_eq_true hmem) rfl

theorem got_packet_none_iff (src : GstAjaAudioSrc) (v : GstAjaVideoSrc) (mode : GstAjaMode)
    {b : AjaAudioBuff} (hb : b.haveSignal = true) :
    src.gotPacket (some v) mode (some b) = none ↔ v.firstTime = clockTimeNone := by
  unfold GstAjaAudioSrc.gotPacket GstAjaAudioSrc.gotPacketPrepare
  simp only [Option.filter, hb, if_true]
  by_cases hf : v.firstTime = clockTimeNone
  · simp [hf]
  · by_cases hk : v.skips (v.streamTime mode b.frameNumber) = true
    · simp [hf, hk]
    · simp only [hf, hk, if_false, iff_false, Bool.false_eq_true]
      split <;> simp

structure OnTheWay (s : System) (h : Held) : Prop where
  returned : h.pc = .returned
  fault : s.fault = none
  engine : ∃ av, s.engineOf h.thread = some av ∧ av.mAudioCallback = true
  has_input : s.audio.hasInput = true
  enabled : s.input.audioEnabled = true
  signal : h.haveSignal = true

theorem on_the_way {held : Held} (hr : c.reachesAssertion held = true) :
    OnTheWay c.system held := by
  simp only [CaptureState.reachesAssertion, Bool.and_eq_true, beq_iff_eq,
    Option.isNone_iff_eq_none, Option.any_eq_true] at hr
  obtain ⟨⟨⟨⟨⟨⟨hpc, hfault⟩, hcall⟩, hinput⟩, hen⟩, hsig⟩, -⟩ := hr
  exact ⟨hpc, hfault, hcall, hinput, hen, hsig⟩

theorem OnTheWay.has_video {held : Held} (h : OnTheWay s held) (hs : InputSound s) :
    HasVideo s.input := by
  obtain ⟨av, hav, -⟩ := h.engine
  exact live_has_video hs (by rw [hav]; rfl)

theorem audio_callback_aborts_iff (h : Reachable (capture videoInfoFromCaps) c) {thread : ℕ}
    {held : Held} (hheld : c.holds thread = some held) (hr : c.reachesAssertion held = true) :
    (capture videoInfoFromCaps).next c (.audioCallback thread) = none ↔
      c.system.videosrc.firstTime = clockTimeNone := by
  have hsound : InputSound c.system :=
    h.invariant (fun _ hi => input_sound_init hi.1) fun _ _ _ hi _ hn => capture_input_sound hi hn
  have hway := on_the_way hr
  obtain ⟨hslot, hmode⟩ := hway.has_video hsound
  obtain ⟨hpc, hfault, ⟨av, hav, hcall⟩, hinput, hen, hsig⟩ := hway
  obtain ⟨mode, hmode⟩ := Option.isSome_iff_exists.mp hmode
  obtain ⟨captured, hcap, hcsig⟩ := (Option.any_eq_true _ _).mp hsig
  have hthread : held.thread = thread := by simpa using List.find?_some hheld
  have hbuff : captured.audioBuff.haveSignal = true := hcsig
  rw [← got_packet_none_iff c.system.audiosrc c.system.videosrc mode hbuff]
  simp only [capture, CaptureState.next, CaptureState.audioCallback, hheld, hcap, hpc, system,
    System.next, System.step, System.packet, hthread ▸ hav, hfault, hcall, hinput, hen, hslot,
    hmode, Option.bind_some, Option.map_some, Option.isSome_none, Option.filter, hbuff]
  simp

def untilCapture : List CaptureEvent :=
  [.system (.videoOpen true true), .system (.audioOpen true true),
    .system (.videoReadyToPaused true), .system (.audioReadyToPaused true),
    .system .videoPlay, .system .audioPlay, .system .videoPlaying, .system .videoStart,
    .system (.audioStart true)]

end AjaFirstTime
