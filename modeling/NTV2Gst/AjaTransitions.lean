import NTV2Gst.AjaInputSystem

/-!
# What the transitions of the two elements do

One lemma for each transition that says what becomes of the input, its engine, the threads
and the two elements, and the life cycle of the video source that follows from them.
-/
namespace AjaTransitions

open TransitionRuns GstAjaModes AjaVideoSrc AjaAudioSrc AjaInput AjaInputSystem

variable {videoInfoFromCaps : GstCaps → GstVideoInfo} {s t : System}

structure Quiet (s t : System) : Prop where
  input : t.input = s.input
  captures : t.captures = s.captures
  video : t.video = s.video
  audio : t.audio = s.audio
  audio_init : t.audioInitOn = s.audioInitOn

structure AudioQuiet (s t : System) : Prop extends Quiet s t where
  videosrc : t.videosrc = s.videosrc
  caps : t.caps = s.caps
  delivered : t.delivered = s.delivered

/-- What a transition of the audio source leaves of the video side. -/
structure VideoSame (s t : System) : Prop where
  video : t.video = s.video
  captures : t.captures = s.captures
  videosrc : t.videosrc = s.videosrc
  caps : t.caps = s.caps
  delivered : t.delivered = s.delivered

def quietEvent : Event → Bool
  | .videoCreate | .videoUnlock | .videoUnlockStop | .setMode _ => true
  | .audioCreate | .audioUnlock | .audioUnlockStop => true
  | .frame _ _ _ | .packet _ _ => true
  | _ => false

theorem clear_packets_quiet {s' : System} (h : AudioQuiet s s')
    (packets : List AjaCaptureAudioPacket) : AudioQuiet s (s'.clearPackets packets) := by
  unfold System.clearPackets
  split
  · exact h
  · exact ⟨⟨h.input, h.captures, h.video, h.audio, h.audio_init⟩, h.videosrc, h.caps,
      h.delivered⟩

theorem video_create_quiet (h : s.videoCreate videoInfoFromCaps = some t) : Quiet s t := by
  unfold System.videoCreate at h
  repeat' split at h
  all_goals first
    | contradiction
    | cases h; exact ⟨rfl, rfl, rfl, rfl, rfl⟩
    | skip
  obtain ⟨r, -, rfl⟩ := Option.map_eq_some_iff.mp h
  dsimp only
  split <;> exact ⟨rfl, rfl, rfl, rfl, rfl⟩

theorem audio_create_quiet (h : s.audioCreate = some t) : AudioQuiet s t := by
  unfold System.audioCreate at h
  split at h
  · obtain ⟨r, -, rfl⟩ := Option.map_eq_some_iff.mp h
    dsimp only
    repeat' split
    all_goals first
      | exact ⟨⟨rfl, rfl, rfl, rfl, rfl⟩, rfl, rfl, rfl⟩
      | refine clear_packets_quiet ?_ _
        exact ⟨⟨rfl, rfl, rfl, rfl, rfl⟩, rfl, rfl, rfl⟩
  · cases h

theorem audio_unlock_stop_quiet (s : System) :
    AudioQuiet s { s.drainPackets with
      audiosrc := { s.drainPackets.audiosrc with flushing := false } } := by
  have h : AudioQuiet s (s.clearPackets s.audiosrc.currentPackets) :=
    clear_packets_quiet ⟨⟨rfl, rfl, rfl, rfl, rfl⟩, rfl, rfl, rfl⟩ _
  exact ⟨⟨h.input, h.captures, h.video, h.audio, h.audio_init⟩, h.videosrc, h.caps, h.delivered⟩

theorem frame_quiet {thread : ℕ} {env : CaptureEnv} {videoBuff : Option AjaVideoBuff}
    (h : s.frame thread env videoBuff = some t) : Quiet s t := by
  obtain ⟨av, -, rfl⟩ := Option.map_eq_some_iff.mp h
  repeat' split
  all_goals exact ⟨rfl, rfl, rfl, rfl, rfl⟩

theorem packet_quiet {thread : ℕ} {audioBuff : Option AjaAudioBuff}
    (h : s.packet thread audioBuff = some t) : AudioQuiet s t := by
  obtain ⟨av, -, h⟩ := Option.bind_eq_some_iff.mp h
  dsimp only at h
  repeat' split at h
  all_goals first
    | cases h; exact ⟨⟨rfl, rfl, rfl, rfl, rfl⟩, rfl, rfl, rfl⟩
    | obtain ⟨a, -, rfl⟩ := Option.map_eq_some_iff.mp h
      exact ⟨⟨rfl, rfl, rfl, rfl, rfl⟩, rfl, rfl, rfl⟩

theorem quiet_step {e : Event} (hq : quietEvent e = true)
    (h : s.step videoInfoFromCaps e = some t) : Quiet s t := by
  cases e with
  | videoCreate => exact video_create_quiet h
  | videoUnlock => cases h; exact ⟨rfl, rfl, rfl, rfl, rfl⟩
  | videoUnlockStop => cases h; exact ⟨rfl, rfl, rfl, rfl, rfl⟩
  | setMode modeEnum =>
    obtain ⟨mode, -, rfl⟩ := Option.map_eq_some_iff.mp h
    exact ⟨rfl, rfl, rfl, rfl, rfl⟩
  | audioCreate => exact (audio_create_quiet h).toQuiet
  | audioUnlock => cases h; exact ⟨rfl, rfl, rfl, rfl, rfl⟩
  | audioUnlockStop =>
    cases h
    exact (audio_unlock_stop_quiet s).toQuiet
  | frame thread env videoBuff => exact frame_quiet h
  | packet thread audioBuff => exact (packet_quiet h).toQuiet
  | _ => cases hq

theorem video_open_cases {found ok : Bool} (h : s.videoOpen found ok = some t) :
    s.video.state = .null ∧
      (((s.acquire .video).2 = false ∧
          t = { (s.acquire .video).1 with video := { s.video with hasInput := false } }) ∨
        ((s.acquire .video).2 = true ∧ ∃ mode av, getModeRaw s.videosrc.modeEnum = some mode ∧
          (s.acquire .video).1.input.ntv2AV = some av ∧
          t = { (s.acquire .video).1 with
            input := { (s.acquire .video).1.input with
              mode := some mode
              startStreams := true
              ntv2AV := some (av.openInit mode found ok).1 }
            video := { s.video with
              hasInput := true
              state := if (av.openInit mode found ok).2 then .ready else .null } })) := by
  unfold System.videoOpen at h
  split at h
  · refine ⟨‹_›, ?_⟩
    dsimp only at h
    split at h
    · rename_i hok
      refine Or.inr ⟨hok, ?_⟩
      split at h
      · cases h
        exact ⟨_, _, ‹_›, ‹_›, by rw [hok]; rfl⟩
      · cases h
    · rename_i hok
      rw [Bool.not_eq_true] at hok
      cases h
      exact Or.inl ⟨hok, by rw [hok]; rfl⟩
  · cases h

theorem audio_open_cases {found ok : Bool} (h : s.audioOpen found ok = some t) :
    s.audio.state = .null ∧
      (((s.acquire .audio).2 = false ∧
          t = { (s.acquire .audio).1 with audio := { s.audio with hasInput := false } }) ∨
        ((s.acquire .audio).2 = true ∧ ∃ av, (s.acquire .audio).1.input.ntv2AV = some av ∧
          t = { (s.acquire .audio).1 with
            input := { (s.acquire .audio).1.input with
              ntv2AV := some (av.openInitAudio found ok).1 }
            audioInitOn := if (av.openDevice found).2 then some av.id else s.audioInitOn
            audio := { s.audio with
              hasInput := true
              state := if (av.openInitAudio found ok).2 then .ready else .null } })) := by
  unfold System.audioOpen at h
  split at h
  · refine ⟨‹_›, ?_⟩
    dsimp only at h
    split at h
    · rename_i hok
      refine Or.inr ⟨hok, ?_⟩
      split at h
      · cases h
        exact ⟨_, ‹_›, by rw [hok]; rfl⟩
      · cases h
    · rename_i hok
      rw [Bool.not_eq_true] at hok
      cases h
      exact Or.inl ⟨hok, by rw [hok]; rfl⟩
  · cases h

theorem video_ready_cases {ok : Bool} (h : s.videoReadyToPaused ok = some t) :
    s.video.state = .ready ∧
      ((s.input.ntv2AV = none ∧ t = { s with fault := some .nullEngine }) ∨
        ∃ av, s.input.ntv2AV = some av ∧ t = { s with
          input := { s.input with ntv2AV := some { av with mVideoCallback := true } }
          videosrc := { s.videosrc with flushing := false }
          video := { s.video with state := if ok then .paused else .ready } }) := by
  unfold System.videoReadyToPaused at h
  split at h
  · refine ⟨‹_›, ?_⟩
    split at h <;> cases h
    · exact Or.inl ⟨‹_›, rfl⟩
    · exact Or.inr ⟨_, ‹_›, rfl⟩
  · cases h

theorem video_play_cases (h : s.videoPlay = some t) :
    s.video.state = .paused ∧ s.video.pending = false ∧
      t = { s with video := { s.video with pending := true, liveRunning := true } } := by
  unfold System.videoPlay at h
  split at h <;> cases h
  rename_i hs
  exact ⟨hs.1, hs.2, rfl⟩

theorem video_playing_cases (h : s.videoPlaying = some t) :
    s.video.pending = true ∧ ∃ u, StartStep s u ∧
      t = { u with video := { u.video with state := .playing, pending := false } } := by
  unfold System.videoPlaying at h
  split at h <;> cases h
  exact ⟨‹_›, _, start_streams_step s, rfl⟩

theorem video_pause_cases (h : s.videoPause = some t) :
    s.video.state = .playing ∧ t = { s with
      input := { s.input with started := false }
      video := { s.video with state := .paused, liveRunning := false } } := by
  unfold System.videoPause at h
  split at h <;> cases h
  exact ⟨‹_›, rfl⟩

theorem video_stop_cases (h : s.videoStop = some t) :
    s.video.state = .paused ∧ s.video.pending = false ∧
      (((s.video.hasInput && s.input.videoEnabled) = false ∧ t = { s with
          caps := none
          video := { s.video with state := .ready }
          videosrc := s.videosrc.stopDrain }) ∨
        (s.input.ntv2AV = none ∧ t = { s with
          caps := none
          video := { s.video with state := .ready }
          fault := some .nullEngine }) ∨
        ∃ av, s.input.ntv2AV = some av ∧ t = { s with
          caps := none
          video := { s.video with state := .ready }
          input := { s.input with
            ntv2AV := some { (av.quit s.captures).1 with mVideoCallback := false }
            videoEnabled := false }
          captures := (av.quit s.captures).2
          videosrc := s.videosrc.stopDrain }) := by
  unfold System.videoStop at h
  split at h
  · rename_i hs
    refine ⟨hs.1, hs.2, ?_⟩
    dsimp only at h
    split at h
    · split at h <;> cases h
      · exact Or.inr (Or.inl ⟨‹_›, rfl⟩)
      · exact Or.inr (Or.inr ⟨_, ‹_›, rfl⟩)
    · rename_i hen
      cases h
      exact Or.inl ⟨by simpa using hen, rfl⟩
  · cases h

theorem video_close_cases (h : s.videoClose = some t) :
    s.video.state = .ready ∧
      ((s.video.hasInput = false ∧ t = { s with video := { s.video with state := .null } }) ∨
        (s.video.hasInput = true ∧ t = { s with
          input := s.input.closeVideo
          captures := match s.input.ntv2AV with
            | some av => av.delete s.captures
            | none => s.captures
          video := { s.video with state := .null, hasInput := false } })) := by
  unfold System.videoClose at h
  split at h
  · refine ⟨‹_›, ?_⟩
    dsimp only at h
    split at h <;> cases h
    · exact Or.inr ⟨‹_›, rfl⟩
    · exact Or.inl ⟨by simpa using ‹¬s.video.hasInput = true›, rfl⟩
  · cases h

theorem video_start_cases (h : s.videoStart = some t) :
    s.video.liveRunning = true ∧ ((s.input.videoEnabled = true ∧ t = s) ∨
      (s.input.videoEnabled = false ∧ ∃ mode, getModeRaw s.videosrc.modeEnum = some mode ∧
        ∃ u, StartStep (s.enableVideo mode) u ∧
          t = { u with videosrc := u.videosrc.startReset })) := by
  unfold System.videoStart at h
  split at h
  · refine ⟨‹_›, ?_⟩
    split at h
    · cases h
      exact Or.inl ⟨‹_›, rfl⟩
    · rename_i hen
      obtain ⟨mode, hmode, rfl⟩ := Option.map_eq_some_iff.mp h
      exact Or.inr ⟨by simpa using hen, mode, hmode, _, start_streams_step _, rfl⟩
  · cases h

theorem audio_start_cases {capsSet : Bool} (h : s.audioStart capsSet = some t) :
    s.audio.liveRunning = true ∧ ((s.input.audioEnabled = true ∧ t = s) ∨
      (s.input.audioEnabled = false ∧ ∃ u, (StartStep s.enableAudio u ∨
        (s.input.videosrc = none ∧ u = s.enableAudio)) ∧
        t = { u with audiosrc := if capsSet then u.audiosrc.startReset else u.audiosrc })) := by
  unfold System.audioStart at h
  split at h
  · refine ⟨‹_›, ?_⟩
    split at h
    · cases h
      exact Or.inl ⟨‹_›, rfl⟩
    · rename_i hen
      rw [Bool.not_eq_true] at hen
      dsimp only at h
      split at h <;> cases h
      · exact Or.inr ⟨hen, _, Or.inl (start_streams_step _), rfl⟩
      · rename_i hslot
        exact Or.inr ⟨hen, _, Or.inr ⟨by simpa [System.enableAudio] using hslot, rfl⟩, rfl⟩
  · cases h

theorem audio_ready_cases {ok : Bool} (h : s.audioReadyToPaused ok = some t) :
    s.audio.state = .ready ∧ VideoSame s t ∧
      t.audio.hasInput = s.audio.hasInput ∧ t.audio.liveRunning = s.audio.liveRunning ∧
      (t.audio.state = .ready ∨ t.audio.state = .paused) ∧ t.audioInitOn = s.audioInitOn ∧
      t.kept = s.kept ∧ t.audiosrc.currentPackets = s.audiosrc.currentPackets ∧
      ((s.input.ntv2AV = none ∧ t.input = s.input ∧ t.fault = some .nullEngine) ∨
        ∃ av, s.input.ntv2AV = some av ∧
          t.input = { s.input with ntv2AV := some { av with mAudioCallback := true } } ∧
          t.audioUnset = (s.audioUnset || !av.audioSetUp) ∧ t.fault = s.fault) := by
  unfold System.audioReadyToPaused at h
  split at h
  · refine ⟨‹_›, ?_⟩
    dsimp only at h
    split at h
    · cases h
      exact ⟨⟨rfl, rfl, rfl, rfl, rfl⟩, rfl, rfl, Or.inl ‹_›, rfl, rfl, rfl,
        Or.inl ⟨‹_›, rfl, rfl⟩⟩
    · split at h <;> cases h
      · exact ⟨⟨rfl, rfl, rfl, rfl, rfl⟩, rfl, rfl, Or.inl ‹_›, rfl, rfl, rfl,
          Or.inr ⟨_, ‹_›, rfl, rfl, rfl⟩⟩
      · refine ⟨⟨rfl, rfl, rfl, rfl, rfl⟩, rfl, rfl, ?_, rfl, rfl, rfl,
          Or.inr ⟨_, ‹_›, rfl, rfl, rfl⟩⟩
        cases ok
        · exact Or.inl rfl
        · exact Or.inr rfl
  · cases h

theorem drain_packets_eq (s : System) : s.drainPackets = { s with
    kept := (s.clearPackets s.audiosrc.currentPackets).kept
    audiosrc := { s.audiosrc with currentPackets := [] } } := by
  unfold System.drainPackets System.clearPackets
  split <;> rfl

theorem clear_packets_kept (s : System) (packets : List AjaCaptureAudioPacket)
    (hi : s.audio.hasInput = true) (hav : s.input.ntv2AV.isSome = true) :
    (s.clearPackets packets).kept = s.kept := by
  simp [System.clearPackets, hi, hav]

theorem audio_stop_cases (h : s.audioStop = some t) :
    s.audio.state = .paused ∧ VideoSame s t ∧ t.audio = { s.audio with state := .ready } ∧
      t.audioInitOn = s.audioInitOn ∧ t.audioUnset = s.audioUnset ∧
      (((s.audio.hasInput && s.input.audioEnabled) = false ∧ t.input = s.input ∧
          t.fault = s.fault ∧ t.audiosrc.currentPackets = [] ∧
          (s.audio.hasInput = true → s.input.ntv2AV.isSome = true → t.kept = s.kept)) ∨
        (s.input.ntv2AV = none ∧ t.input = s.input ∧ t.fault = some .nullEngine) ∨
        ∃ av, s.input.ntv2AV = some av ∧
          t.input = { s.input with
            ntv2AV := some { av with mAudioCallback := false }
            audioEnabled := false } ∧
          t.fault = s.fault ∧ t.audiosrc.currentPackets = [] ∧
          (s.audio.hasInput = true → t.kept = s.kept)) := by
  unfold System.audioStop at h
  split at h
  · refine ⟨‹_›, ?_⟩
    dsimp only at h
    split at h
    · split at h <;> cases h
      · exact ⟨⟨rfl, rfl, rfl, rfl, rfl⟩, rfl, rfl, rfl, Or.inr (Or.inl ⟨‹_›, rfl, rfl⟩)⟩
      · rw [drain_packets_eq]
        refine ⟨⟨rfl, rfl, rfl, rfl, rfl⟩, rfl, rfl, rfl,
          Or.inr (Or.inr ⟨_, ‹_›, rfl, rfl, rfl, ?_⟩)⟩
        intro hi
        exact clear_packets_kept _ _ (by exact hi) (by rfl)
    · rename_i hen
      cases h
      rw [drain_packets_eq]
      refine ⟨⟨rfl, rfl, rfl, rfl, rfl⟩, rfl, rfl, rfl,
        Or.inl ⟨by simpa using hen, rfl, rfl, rfl, ?_⟩⟩
      intro hi hav
      exact clear_packets_kept _ _ (by exact hi) (by exact hav)
  · cases h

theorem audio_play_cases (h : s.audioPlay = some t) :
    s.audio.state = .paused ∧
      t = { s with audio := { s.audio with state := .playing, liveRunning := true } } := by
  unfold System.audioPlay at h
  split at h <;> cases h
  exact ⟨‹_›, rfl⟩

theorem audio_pause_cases (h : s.audioPause = some t) :
    s.audio.state = .playing ∧
      t = { s with audio := { s.audio with state := .paused, liveRunning := false } } := by
  unfold System.audioPause at h
  split at h <;> cases h
  exact ⟨‹_›, rfl⟩

theorem audio_close_cases (h : s.audioClose = some t) :
    s.audio.state = .ready ∧
      ((s.audio.hasInput = false ∧ t = { s with audio := { s.audio with state := .null } }) ∨
        (s.audio.hasInput = true ∧ t = { s with
          input := s.input.closeAudio
          audio := { s.audio with state := .null, hasInput := false } })) := by
  unfold System.audioClose at h
  split at h
  · refine ⟨‹_›, ?_⟩
    dsimp only at h
    split at h <;> cases h
    · exact Or.inr ⟨‹_›, rfl⟩
    · exact Or.inl ⟨by simpa using ‹¬s.audio.hasInput = true›, rfl⟩
  · cases h

theorem thread_ends_cases {thread : ℕ} (h : s.threadEnds thread = some t) :
    ∃ av, s.input.ntv2AV = some av ∧ ⟨thread, av.id⟩ ∈ s.captures.threads ∧
      (av.mGlobalQuit = true ∨ av.mLastFrame = true) ∧
      t = { s with captures := { s.captures with
        threads := s.captures.threads.filter fun t => t.id != thread } } := by
  unfold System.threadEnds at h
  split at h
  · rename_i av hav
    obtain ⟨heng, hmem⟩ := Option.filter_eq_some_iff.mp hav
    split at h
    · cases h
      exact ⟨av, heng, by simpa using hmem, by simpa using ‹_ || _›, rfl⟩
    · cases h
  · cases h

/-! ## The life cycle of the video source -/

/-- `create` runs in PLAYING or on the way there, only `create` enables, and an element
past NULL has its input and an engine. -/
structure VideoLife (s : System) : Prop where
  live : s.video.liveRunning = true → s.video.state = .playing ∨ s.video.pending = true
  pending : s.video.pending = true → s.video.state = .paused
  enabled : s.input.videoEnabled = true → s.video.state = .paused ∨ s.video.state = .playing
  held : s.video.state ≠ .null → s.video.hasInput = true ∧ s.input.ntv2AV.isSome = true

theorem video_life_init {s : System} (h : (system videoInfoFromCaps).initial s) :
    VideoLife s := by
  obtain ⟨_, _, _, _, _, _, _, _, rfl⟩ := h
  constructor <;> intro h <;> first | cases h | exact absurd rfl h

theorem VideoLife.of_same (h : VideoLife s) (hv : t.video = s.video)
    (hen : t.input.videoEnabled = s.input.videoEnabled)
    (hav : s.input.ntv2AV.isSome = true → t.input.ntv2AV.isSome = true) : VideoLife t := by
  obtain ⟨hlive, hpending, henabled, hheld⟩ := h
  constructor <;> rw [hv]
  · exact hlive
  · exact hpending
  · rw [hen]; exact henabled
  · exact fun hs => ⟨(hheld hs).1, hav (hheld hs).2⟩

theorem VideoLife.idle (h : VideoLife s) (hs : s.video.state = .null ∨ s.video.state = .ready) :
    s.video.liveRunning = false ∧ s.video.pending = false ∧ s.input.videoEnabled = false := by
  refine ⟨?_, ?_, ?_⟩ <;> rw [Bool.eq_false_iff] <;> intro ht
  · rcases h.live ht with hp | hp
    · rw [hp] at hs; simp at hs
    · rw [h.pending hp] at hs; simp at hs
  · rw [h.pending ht] at hs; simp at hs
  · rcases h.enabled ht with hp | hp <;> rw [hp] at hs <;> simp at hs

theorem VideoLife.of_idle (hl : t.video.liveRunning = false) (hp : t.video.pending = false)
    (hen : t.input.videoEnabled = false)
    (hh : t.video.state ≠ .null → t.video.hasInput = true ∧ t.input.ntv2AV.isSome = true) :
    VideoLife t :=
  ⟨fun h => (by rw [hl] at h; cases h), fun h => (by rw [hp] at h; cases h),
    fun h => (by rw [hen] at h; cases h), hh⟩

theorem acquire_engine_some (s : System) (src : Element) :
    (s.acquire src).1.input.ntv2AV =
        some (s.input.ntv2AV.getD (.new s.captures.nextId)) ∧
      (s.acquire src).1.input.videoEnabled = s.input.videoEnabled := by
  obtain ⟨hav, -, -, hen⟩ := acquire_engine s.input s.captures.nextId src (src == .audio)
  exact ⟨hav, hen⟩

theorem video_life_open {found ok : Bool} (h : VideoLife s) (hs : s.videoOpen found ok = some t) :
    VideoLife t := by
  obtain ⟨hav, hen⟩ := acquire_engine_some s .video
  obtain ⟨hnull, ⟨-, rfl⟩ | ⟨-, mode, av, -, -, rfl⟩⟩ := video_open_cases hs
  all_goals obtain ⟨hl, hp, he⟩ := h.idle (Or.inl hnull)
  · exact .of_idle hl hp (hen.trans he) fun hn => absurd hnull hn
  · exact .of_idle hl hp (hen.trans he) fun _ => ⟨rfl, rfl⟩

theorem video_life_ready {ok : Bool} (h : VideoLife s)
    (hs : s.videoReadyToPaused ok = some t) : VideoLife t := by
  obtain ⟨hready, hcase⟩ := video_ready_cases hs
  obtain ⟨hl, hp, he⟩ := h.idle (Or.inr hready)
  have hheld := h.held (by rw [hready]; simp)
  obtain ⟨-, rfl⟩ | ⟨av, -, rfl⟩ := hcase
  · exact .of_idle hl hp he fun _ => hheld
  · exact .of_idle hl hp he fun _ => ⟨hheld.1, rfl⟩

theorem video_life_stop (h : VideoLife s) (hs : s.videoStop = some t) : VideoLife t := by
  obtain ⟨hpaused, hpend, hcase⟩ := video_stop_cases hs
  obtain ⟨hinput, hengine⟩ := h.held (by rw [hpaused]; simp)
  have hlive : s.video.liveRunning = false := by
    rw [Bool.eq_false_iff]
    intro hl
    rcases h.live hl with hl | hl
    · rw [hpaused] at hl; cases hl
    · rw [hpend] at hl; cases hl
  rcases hcase with ⟨hen, rfl⟩ | ⟨hn, -⟩ | ⟨av, -, rfl⟩
  · exact .of_idle hlive hpend (by simpa [hinput] using hen) fun _ => ⟨hinput, hengine⟩
  · rw [hn] at hengine; cases hengine
  · exact .of_idle hlive hpend rfl fun _ => ⟨hinput, rfl⟩

theorem video_life_close (h : VideoLife s) (hs : s.videoClose = some t) : VideoLife t := by
  obtain ⟨hready, hcase⟩ := video_close_cases hs
  obtain ⟨hl, hp, he⟩ := h.idle (Or.inr hready)
  rcases hcase with ⟨-, rfl⟩ | ⟨-, rfl⟩
  · exact .of_idle hl hp he fun hn => absurd rfl hn
  · exact .of_idle hl hp rfl fun hn => absurd rfl hn

theorem start_step_life (h : StartStep s t) (hs : VideoLife s) : VideoLife t := by
  obtain ⟨hen, -, -, -, hav⟩ := h.rest
  exact hs.of_same h.video hen fun ha => hav.trans ha

theorem video_life_step {e : Event} (h : VideoLife s)
    (hs : s.step videoInfoFromCaps e = some t) : VideoLife t := by
  by_cases hq : quietEvent e = true
  · have hsame := quiet_step hq hs
    exact h.of_same hsame.video (by rw [hsame.input]) (by rw [hsame.input]; exact id)
  cases e with
  | videoOpen found ok => exact video_life_open h hs
  | videoReadyToPaused ok => exact video_life_ready h hs
  | videoPlay =>
    obtain ⟨hpaused, -, rfl⟩ := video_play_cases hs
    exact ⟨fun _ => Or.inr rfl, fun _ => hpaused, h.enabled, fun hn => h.held hn⟩
  | videoPlaying =>
    obtain ⟨hpend, u, hu, rfl⟩ := video_playing_cases hs
    have hheld := (start_step_life hu h).held (by rw [hu.video, h.pending hpend]; simp)
    exact ⟨fun _ => Or.inl rfl, fun hp => (by cases hp), fun _ => Or.inr rfl, fun _ => hheld⟩
  | videoPause =>
    obtain ⟨hplaying, rfl⟩ := video_pause_cases hs
    refine ⟨fun hl => (by cases hl), fun _ => rfl, fun _ => Or.inl rfl, fun _ => h.held ?_⟩
    rw [hplaying]
    simp
  | videoStop => exact video_life_stop h hs
  | videoClose => exact video_life_close h hs
  | videoStart =>
    obtain ⟨hlive, ⟨-, rfl⟩ | ⟨-, mode, -, u, hu, rfl⟩⟩ := video_start_cases hs
    · exact h
    · have henabled : VideoLife (s.enableVideo mode) :=
        ⟨h.live, h.pending, fun _ => (h.live hlive).elim Or.inr fun hp => Or.inl (h.pending hp),
          h.held⟩
      exact (start_step_life hu henabled).of_same rfl rfl id
  | audioOpen found ok =>
    obtain ⟨hav, hen⟩ := acquire_engine_some s .audio
    obtain ⟨-, ⟨-, rfl⟩ | ⟨-, av, -, rfl⟩⟩ := audio_open_cases hs
    · exact h.of_same rfl hen fun _ => by rw [hav]; rfl
    · exact h.of_same rfl hen fun _ => rfl
  | audioReadyToPaused ok =>
    obtain ⟨-, hv, -, -, -, -, -, -, ⟨-, hi, -⟩ | ⟨av, hav, hi, -⟩⟩ := audio_ready_cases hs
    · exact h.of_same hv.video (by rw [hi]) (by rw [hi]; exact id)
    · exact h.of_same hv.video (by rw [hi]) (by rw [hi]; exact fun _ => rfl)
  | audioPlay =>
    obtain ⟨-, rfl⟩ := audio_play_cases hs
    exact h.of_same rfl rfl id
  | audioPause =>
    obtain ⟨-, rfl⟩ := audio_pause_cases hs
    exact h.of_same rfl rfl id
  | audioStop =>
    obtain ⟨-, hv, -, -, -, ⟨-, hi, -⟩ | ⟨-, hi, -⟩ | ⟨av, -, hi, -⟩⟩ := audio_stop_cases hs
    · exact h.of_same hv.video (by rw [hi]) (by rw [hi]; exact id)
    · exact h.of_same hv.video (by rw [hi]) (by rw [hi]; exact id)
    · exact h.of_same hv.video (by rw [hi]) (by rw [hi]; exact fun _ => rfl)
  | audioClose =>
    obtain ⟨-, ⟨-, rfl⟩ | ⟨-, rfl⟩⟩ := audio_close_cases hs
    · exact h.of_same rfl rfl id
    · exact h.of_same rfl rfl id
  | audioStart capsSet =>
    obtain ⟨-, ⟨-, rfl⟩ | ⟨-, u, hu | ⟨-, rfl⟩, rfl⟩⟩ := audio_start_cases hs
    · exact h
    · exact (start_step_life hu (h.of_same rfl rfl id)).of_same rfl rfl id
    · exact h.of_same rfl rfl id
  | threadEnds thread =>
    obtain ⟨av, -, -, -, rfl⟩ := thread_ends_cases hs
    exact h.of_same rfl rfl id
  | _ => exact absurd rfl hq

theorem system_step_of_next {e : Event} (h : (system videoInfoFromCaps).next s e = some t) :
    s.fault = none ∧ s.step videoInfoFromCaps e = some t := by
  have h : (if s.fault.isSome then none else s.step videoInfoFromCaps e) = some t := h
  split at h
  · cases h
  · exact ⟨by simpa using ‹¬s.fault.isSome = true›, h⟩

theorem video_life {allowed : System → Event → Prop}
    (h : ReachableWhile (system videoInfoFromCaps) allowed s) : VideoLife s :=
  h.invariant (fun _ hi => video_life_init hi)
    fun _ _ _ hl _ hn => video_life_step hl (system_step_of_next hn).2

end AjaTransitions
