import NTV2Gst.AjaTransitions

/-!
# Caps and the mode of the hardware

The mode that the hardware captures is the one of the last successful open. The source
reads it off its property again when it starts, for every frame and with it for new caps,
so what a buffer says is right as long as these readings agree with the hardware.
-/
namespace AjaCapsInForce

open TransitionRuns GstAjaModes AjaVideoSrc AjaAudioSrc AjaInput AjaInputSystem AjaTransitions

/-- A buffer and the caps it goes out with describe the frame in the mode that the engine
was initialised with. -/
def Describes (videoInfoFromCaps : GstCaps → GstVideoInfo) (d : Delivery) : Prop :=
  ∃ mode isNvmm, d.initMode = some mode ∧ d.mode = mode ∧
    d.caps = some ⟨frameInfo videoInfoFromCaps mode isNvmm d.frame.transferCharacteristics
      d.frame.colorimetry d.frame.fullRange, isNvmm⟩ ∧
    d.buffer.duration = frameDuration mode ∧ d.buffer.interlaced = mode.isInterlaced ∧
    d.buffer.tff = (mode.isInterlaced && mode.isTff) ∧
    d.buffer.timecode = frameTimeCode mode d.frame

def initMode (s : System) : Option GstAjaMode := s.input.ntv2AV.bind (·.initMode)

/-- The frame that `create` is about to return, when it will build new caps for it. -/
def renegotiated (s : System) : Option AjaCaptureVideoFrame :=
  s.videosrc.popFrame.bind fun r =>
    if r.1.videoBuff.any fun b => r.2.capsOutdated r.1 b s.caps.isSome then some r.1 else none

/-- The mode of the property is the one of the hardware when the source starts, and was when
a frame was captured that new caps are built for. -/
def ModeKept (s : System) : Event → Prop
  | .videoStart => s.input.videoEnabled = false → getModeRaw s.videosrc.modeEnum = initMode s
  | .videoCreate => ∀ f ∈ renegotiated s, getModeRaw f.mode = initMode s
  | _ => True

instance (s : System) (e : Event) : Decidable (ModeKept s e) := by
  unfold ModeKept
  split <;> infer_instance

/-! ## The invariant -/

structure SameColors (a b : GstAjaVideoSrc) : Prop where
  transferCharacteristics : b.transferCharacteristics = a.transferCharacteristics
  colorimetry : b.colorimetry = a.colorimetry
  fullRange : b.fullRange = a.fullRange

def CapsOf (videoInfoFromCaps : GstCaps → GstVideoInfo) (mode : GstAjaMode)
    (src : GstAjaVideoSrc) (caps : CapsInForce) : Prop :=
  ∃ isNvmm, caps = ⟨frameInfo videoInfoFromCaps mode isNvmm src.transferCharacteristics
    src.colorimetry src.fullRange, isNvmm⟩

structure CapsFit (videoInfoFromCaps : GstCaps → GstVideoInfo) (s : System) : Prop where
  mode : s.video.state ≠ .null → ∃ mode, initMode s = some mode ∧ s.input.mode = some mode
  no_caps : s.video.state = .null ∨ s.video.state = .ready → s.caps = none
  caps : ∀ c, s.caps = some c → ∃ mode, initMode s = some mode ∧
    CapsOf videoInfoFromCaps mode s.videosrc c
  delivered : ∀ d ∈ s.delivered, Describes videoInfoFromCaps d

variable {videoInfoFromCaps : GstCaps → GstVideoInfo} {s t : System}

theorem caps_fit_init (h : (system videoInfoFromCaps).initial s) :
    CapsFit videoInfoFromCaps s := by
  obtain ⟨_, _, _, _, _, _, _, _, rfl⟩ := h
  exact ⟨fun h => absurd rfl h, fun _ => rfl, fun _ h => (by cases h), fun _ h => (by cases h)⟩

theorem CapsOf.same {mode : GstAjaMode} {a b : GstAjaVideoSrc} {c : CapsInForce}
    (h : CapsOf videoInfoFromCaps mode a c) (hab : SameColors a b) :
    CapsOf videoInfoFromCaps mode b c := by
  obtain ⟨isNvmm, hc⟩ := h
  exact ⟨isNvmm, by rw [hab.transferCharacteristics, hab.colorimetry, hab.fullRange]; exact hc⟩

structure ModeFrame (s t : System) : Prop where
  init_mode : initMode t = initMode s
  mode : t.input.mode = s.input.mode
  caps : t.caps = s.caps
  delivered : t.delivered = s.delivered
  colors : SameColors s.videosrc t.videosrc
  state : (t.video.state = .null → s.video.state = .null) ∧
    (t.video.state ≠ .null → s.video.state ≠ .null) ∧
    (t.video.state = .ready → s.video.state = .ready)

theorem SameColors.refl (src : GstAjaVideoSrc) : SameColors src src := ⟨rfl, rfl, rfl⟩

theorem SameColors.of_settings {a b : GstAjaVideoSrc} (h : SameSettings a b) : SameColors a b :=
  ⟨h.transferCharacteristics, h.colorimetry, h.fullRange⟩

theorem caps_fit_of_frame (h : CapsFit videoInfoFromCaps s) (hf : ModeFrame s t) :
    CapsFit videoInfoFromCaps t := by
  refine ⟨?_, ?_, ?_, by rw [hf.delivered]; exact h.delivered⟩
  · intro hs
    rw [hf.init_mode, hf.mode]
    exact h.mode (hf.state.2.1 hs)
  · intro hs
    rw [hf.caps]
    exact h.no_caps (hs.imp hf.state.1 hf.state.2.2)
  · intro c hc
    obtain ⟨mode, hm, hcaps⟩ := h.caps c (hf.caps ▸ hc)
    exact ⟨mode, hf.init_mode.trans hm, hcaps.same hf.colors⟩

theorem ModeFrame.of_video (hv : t.video = s.video) (hinit : initMode t = initMode s)
    (hm : t.input.mode = s.input.mode) (hc : t.caps = s.caps) (hd : t.delivered = s.delivered)
    (hcol : SameColors s.videosrc t.videosrc) : ModeFrame s t :=
  ⟨hinit, hm, hc, hd, hcol, by rw [hv]; exact ⟨id, id, id⟩⟩

/-! ## Capture, properties and the other element -/

theorem got_frame_colors (src : GstAjaVideoSrc) (mode : GstAjaMode) (env : CaptureEnv)
    (videoBuff : Option AjaVideoBuff) (flushing : Bool) :
    SameColors src (src.gotFrame mode env videoBuff flushing).1 := by
  have h := SameColors.of_settings (prepare_settings src mode env videoBuff)
  unfold GstAjaVideoSrc.gotFrame
  dsimp only
  split
  · split
    · exact h
    · exact ⟨h.transferCharacteristics, h.colorimetry, h.fullRange⟩
  · exact h

theorem start_streams_colors (h : StartStep s t) : SameColors s.videosrc t.videosrc := by
  rcases h.videosrc with hv | hv <;> rw [hv]
  · exact .refl _
  · exact ⟨rfl, rfl, rfl⟩

theorem start_step_frame (h : StartStep s t) : ModeFrame s t := by
  refine .of_video h.video ?_ h.rest.2.1 h.caps h.delivered (start_streams_colors h)
  unfold initMode
  rcases h.engine with ⟨-, hi, -⟩ | ⟨-, -, av, hav, hi, -⟩
  · rw [hi]
  · rw [hav, hi]
    rfl

theorem acquire_init_mode (s : System) (src : Element) :
    initMode (s.acquire src).1 = initMode s ∧ (s.acquire src).1.input.mode = s.input.mode := by
  obtain ⟨hav, hmode, -⟩ := acquire_engine s.input s.captures.nextId src (src == .audio)
  refine ⟨?_, hmode⟩
  unfold initMode
  rw [show (s.acquire src).1.input.ntv2AV = _ from hav]
  cases s.input.ntv2AV <;> rfl

theorem open_init_audio_mode (av : NTV2GstAV) (found ok : Bool) :
    (av.openInitAudio found ok).1.initMode = av.initMode := by
  cases ho : av.deviceOpen <;> cases found <;>
    simp [NTV2GstAV.openInitAudio, NTV2GstAV.openDevice, NTV2GstAV.initAudio, ho]

theorem open_init_mode {av : NTV2GstAV} {mode : GstAjaMode} {found ok : Bool}
    (h : (av.openInit mode found ok).2 = true) :
    (av.openInit mode found ok).1.initMode = some mode := by
  cases ho : av.deviceOpen <;> cases found <;> cases ok <;>
    simp_all [NTV2GstAV.openInit, NTV2GstAV.openDevice, NTV2GstAV.init]

/-! ## Create -/

theorem negotiate_fits {src : GstAjaVideoSrc} {f : AjaCaptureVideoFrame} {b : AjaVideoBuff}
    {caps : Option CapsInForce} {mode : GstAjaMode} {r : GstAjaVideoSrc × Option CapsInForce}
    (hr : src.negotiate videoInfoFromCaps f b caps = some r)
    (hmode : src.capsOutdated f b caps.isSome = true → getModeRaw f.mode = some mode)
    (hcaps : ∀ c, caps = some c → CapsOf videoInfoFromCaps mode src c) :
    ∃ isNvmm, r.2 = some ⟨frameInfo videoInfoFromCaps mode isNvmm b.transferCharacteristics
      b.colorimetry b.fullRange, isNvmm⟩ ∧
      r.1.transferCharacteristics = b.transferCharacteristics ∧
      r.1.colorimetry = b.colorimetry ∧ r.1.fullRange = b.fullRange := by
  unfold GstAjaVideoSrc.negotiate at hr
  split at hr
  · rename_i hout
    rw [GstAjaVideoSrc.rebuildCaps, hmode hout] at hr
    cases hr
    exact ⟨b.isNvmm, rfl, rfl, rfl, rfl⟩
  · rename_i hfits
    cases hr
    simp only [GstAjaVideoSrc.capsOutdated, Bool.not_eq_true, Bool.or_eq_false_iff,
      bne_eq_false_iff_eq, Bool.not_eq_false'] at hfits
    obtain ⟨⟨⟨⟨-, htc⟩, hcol⟩, hfr⟩, hsome⟩ := hfits
    obtain ⟨c, hc⟩ := Option.isSome_iff_exists.mp hsome
    obtain ⟨isNvmm, rfl⟩ := hcaps c hc
    exact ⟨isNvmm, by rw [hc, htc, hcol, hfr], htc, hcol, hfr⟩

theorem pop_frame_colors {src src' : GstAjaVideoSrc} {f : AjaCaptureVideoFrame}
    (h : src.popFrame = some (f, src')) : SameColors src src' := by
  rw [(pop_frame_some h).2]
  exact ⟨rfl, rfl, rfl⟩

theorem create_fit (h : CapsFit videoInfoFromCaps s) (hl : VideoLife s)
    (ha : ModeKept s .videoCreate) (hs : s.videoCreate videoInfoFromCaps = some t) :
    CapsFit videoInfoFromCaps t := by
  unfold System.videoCreate at hs
  split at hs
  case isFalse => cases hs
  case isTrue hrun =>
  have hactive : s.video.state = .playing ∨ s.video.state = .paused :=
    (hl.live (by simp_all)).imp_right hl.pending
  have hnn : s.video.state ≠ .null ∧ s.video.state ≠ .ready := by
    rcases hactive with h | h <;> rw [h] <;> simp
  obtain ⟨mode, hinit, hmode⟩ := h.mode hnn.1
  cases hpop : s.videosrc.popFrame with
  | none => rw [hpop] at hs; cases hs
  | some r =>
    obtain ⟨f, src⟩ := r
    have hcolors := pop_frame_colors hpop
    simp only [hpop, hmode] at hs
    cases hb : f.videoBuff with
    | none =>
      simp only [hb, Option.some.injEq] at hs
      subst hs
      exact caps_fit_of_frame h (.of_video rfl rfl rfl rfl rfl hcolors)
    | some b =>
      simp only [hb] at hs
      obtain ⟨r, hr, rfl⟩ := Option.map_eq_some_iff.mp hs
      have hkept : src.capsOutdated f b s.caps.isSome = true → getModeRaw f.mode = some mode := by
        intro hout
        rw [← hinit]
        exact ha f (by simp [renegotiated, hpop, hb, hout])
      obtain ⟨isNvmm, hcaps, htc, hcol, hfr⟩ := negotiate_fits hr hkept fun c hc => by
        obtain ⟨m, hm, hof⟩ := h.caps c hc
        cases hinit.symm.trans hm
        exact hof.same hcolors
      refine ⟨fun _ => ⟨mode, hinit, hmode⟩, ?_, ?_, ?_⟩
      · intro hs
        exact (hs.elim hnn.1 hnn.2).elim
      · intro c hc
        cases hcaps.symm.trans hc
        exact ⟨mode, hinit, isNvmm, by rw [htc, hcol, hfr]⟩
      · intro d hd
        rcases List.mem_append.mp hd with hd | hd
        · exact h.delivered d hd
        · obtain rfl := List.mem_singleton.mp hd
          exact ⟨mode, isNvmm, hinit, rfl, hcaps, rfl, rfl, rfl, rfl⟩

/-! ## Every transition -/

theorem video_open_fit {found ok : Bool} (h : CapsFit videoInfoFromCaps s)
    (hs : s.videoOpen found ok = some t) : CapsFit videoInfoFromCaps t := by
  obtain ⟨hacq, hacqMode⟩ := acquire_init_mode s .video
  obtain ⟨hnull, ⟨-, rfl⟩ | ⟨-, mode, av, -, hav, rfl⟩⟩ := video_open_cases hs
  · exact caps_fit_of_frame h ⟨hacq, hacqMode, rfl, rfl, .refl _, id, id, id⟩
  · have hno := h.no_caps (Or.inl hnull)
    refine ⟨fun hn => ⟨mode, ?_, rfl⟩, fun _ => hno, ?_, h.delivered⟩
    · refine open_init_mode (by_contra ?_)
      intro hfail
      rw [Bool.not_eq_true] at hfail
      simp [hfail] at hn
    · intro c hc
      exact absurd (hno.symm.trans hc) (by simp)

theorem ModeFrame.past_null (hs : s.video.state ≠ .null) (ht : t.video.state ≠ .null)
    (hr : t.video.state = .ready → s.video.state = .ready) (hinit : initMode t = initMode s)
    (hm : t.input.mode = s.input.mode) (hc : t.caps = s.caps) (hd : t.delivered = s.delivered)
    (hcol : SameColors s.videosrc t.videosrc) : ModeFrame s t :=
  ⟨hinit, hm, hc, hd, hcol, fun h => absurd h ht, fun _ => hs, hr⟩

theorem init_mode_of_engine {a b : NTV2GstAV} (ha : s.input.ntv2AV = some a)
    (hb : t.input.ntv2AV = some b) (hab : b.initMode = a.initMode) : initMode t = initMode s := by
  rw [initMode, initMode, ha, hb]
  exact hab

theorem video_stop_fit (h : CapsFit videoInfoFromCaps s) (hs : s.videoStop = some t) :
    CapsFit videoInfoFromCaps t := by
  obtain ⟨hpaused, -, ⟨-, rfl⟩ | ⟨-, rfl⟩ | ⟨av, hav, rfl⟩⟩ := video_stop_cases hs
  all_goals
    have hmode := h.mode (by rw [hpaused]; simp)
    refine ⟨fun _ => ?_, fun _ => rfl, fun c hc => (by cases hc), h.delivered⟩
  · exact hmode
  · exact hmode
  · obtain ⟨mode, hinit, hm⟩ := hmode
    rw [initMode, hav] at hinit
    exact ⟨mode, hinit, hm⟩

theorem video_start_fit (h : CapsFit videoInfoFromCaps s) (hl : VideoLife s)
    (ha : ModeKept s .videoStart) (hs : s.videoStart = some t) : CapsFit videoInfoFromCaps t := by
  obtain ⟨hlive, ⟨-, rfl⟩ | ⟨hen, mode, hmode, u, hu, rfl⟩⟩ := video_start_cases hs
  · exact h
  · have hinit : initMode s = some mode := (ha hen).symm.trans hmode
    have hon : CapsFit videoInfoFromCaps (s.enableVideo mode) :=
      ⟨fun _ => ⟨mode, hinit, rfl⟩, h.no_caps, h.caps, h.delivered⟩
    have hstart := caps_fit_of_frame hon (start_step_frame hu)
    exact caps_fit_of_frame hstart (.of_video rfl rfl rfl rfl rfl ⟨rfl, rfl, rfl⟩)

theorem frame_fit {thread : ℕ} {env : CaptureEnv} {videoBuff : Option AjaVideoBuff}
    (h : CapsFit videoInfoFromCaps s) (hs : s.frame thread env videoBuff = some t) :
    CapsFit videoInfoFromCaps t := by
  obtain ⟨av, -, rfl⟩ := Option.map_eq_some_iff.mp hs
  repeat' split
  all_goals
    refine caps_fit_of_frame h (.of_video rfl rfl rfl rfl rfl ?_)
    first
      | exact .refl _
      | exact got_frame_colors _ _ _ _ _

theorem audio_quiet_fit (h : CapsFit videoInfoFromCaps s) (hq : AudioQuiet s t) :
    CapsFit videoInfoFromCaps t :=
  caps_fit_of_frame h (.of_video hq.video (by rw [initMode, initMode, hq.input])
    (by rw [hq.input]) hq.caps hq.delivered (by rw [hq.videosrc]; exact .refl _))

theorem audio_stop_fit (h : CapsFit videoInfoFromCaps s) (hs : s.audioStop = some t) :
    CapsFit videoInfoFromCaps t := by
  obtain ⟨-, hv, -, -, -, hcase⟩ := audio_stop_cases hs
  have hinput : initMode t = initMode s ∧ t.input.mode = s.input.mode := by
    rcases hcase with ⟨-, hi, -⟩ | ⟨-, hi, -⟩ | ⟨av, hav, hi, -⟩
    · exact ⟨by rw [initMode, initMode, hi], by rw [hi]⟩
    · exact ⟨by rw [initMode, initMode, hi], by rw [hi]⟩
    · exact ⟨init_mode_of_engine hav (congrArg GstAjaInput.ntv2AV hi) rfl, by rw [hi]⟩
  exact caps_fit_of_frame h (.of_video hv.video hinput.1 hinput.2 hv.caps hv.delivered
    (by rw [hv.videosrc]; exact .refl _))

theorem audio_ready_fit {ok : Bool} (h : CapsFit videoInfoFromCaps s)
    (hs : s.audioReadyToPaused ok = some t) : CapsFit videoInfoFromCaps t := by
  obtain ⟨-, hv, -, -, -, -, -, -, hcase⟩ := audio_ready_cases hs
  have hinput : initMode t = initMode s ∧ t.input.mode = s.input.mode := by
    rcases hcase with ⟨-, hi, -⟩ | ⟨av, hav, hi, -⟩
    · exact ⟨by rw [initMode, initMode, hi], by rw [hi]⟩
    · exact ⟨init_mode_of_engine hav (congrArg GstAjaInput.ntv2AV hi) rfl, by rw [hi]⟩
  exact caps_fit_of_frame h (.of_video hv.video hinput.1 hinput.2 hv.caps hv.delivered
    (by rw [hv.videosrc]; exact .refl _))

theorem audio_start_fit {capsSet : Bool} (h : CapsFit videoInfoFromCaps s)
    (hs : s.audioStart capsSet = some t) : CapsFit videoInfoFromCaps t := by
  have hon : CapsFit videoInfoFromCaps s.enableAudio := ⟨h.mode, h.no_caps, h.caps, h.delivered⟩
  obtain ⟨-, ⟨-, rfl⟩ | ⟨-, u, hu | ⟨-, rfl⟩, rfl⟩⟩ := audio_start_cases hs
  · exact h
  · exact caps_fit_of_frame (caps_fit_of_frame hon (start_step_frame hu))
      (.of_video rfl rfl rfl rfl rfl (.refl _))
  · exact caps_fit_of_frame hon (.of_video rfl rfl rfl rfl rfl (.refl _))

theorem caps_fit_step {e : Event} (h : CapsFit videoInfoFromCaps s) (hl : VideoLife s)
    (ha : ModeKept s e) (hs : s.step videoInfoFromCaps e = some t) :
    CapsFit videoInfoFromCaps t := by
  cases e with
  | videoOpen found ok => exact video_open_fit h hs
  | videoReadyToPaused ok =>
    obtain ⟨hready, ⟨-, rfl⟩ | ⟨av, hav, rfl⟩⟩ := video_ready_cases hs
    · exact caps_fit_of_frame h (.of_video rfl rfl rfl rfl rfl (.refl _))
    · exact caps_fit_of_frame h (.past_null (by rw [hready]; simp) (by cases ok <;> simp)
        (fun _ => hready) (init_mode_of_engine hav rfl rfl) rfl rfl rfl ⟨rfl, rfl, rfl⟩)
  | videoPlay =>
    obtain ⟨hpaused, -, rfl⟩ := video_play_cases hs
    exact caps_fit_of_frame h ⟨rfl, rfl, rfl, rfl, .refl _, id, id, id⟩
  | videoPlaying =>
    obtain ⟨hpend, u, hu, rfl⟩ := video_playing_cases hs
    have hpaused : u.video.state = .paused := by rw [hu.video]; exact hl.pending hpend
    exact caps_fit_of_frame (caps_fit_of_frame h (start_step_frame hu))
      (.past_null (by rw [hpaused]; simp) (by simp) (by simp) rfl rfl rfl rfl (.refl _))
  | videoPause =>
    obtain ⟨hplaying, rfl⟩ := video_pause_cases hs
    exact caps_fit_of_frame h (.past_null (by rw [hplaying]; simp) (by simp) (by simp)
      rfl rfl rfl rfl (.refl _))
  | videoStop => exact video_stop_fit h hs
  | videoClose =>
    obtain ⟨hready, ⟨-, rfl⟩ | ⟨-, rfl⟩⟩ := video_close_cases hs
    all_goals
      have hno := h.no_caps (Or.inr hready)
      exact ⟨fun hn => absurd rfl hn, fun _ => hno,
        fun c hc => absurd (hno.symm.trans hc) (by simp), h.delivered⟩
  | videoStart => exact video_start_fit h hl ha hs
  | videoCreate => exact create_fit h hl ha hs
  | videoUnlock =>
    cases hs
    exact caps_fit_of_frame h (.of_video rfl rfl rfl rfl rfl ⟨rfl, rfl, rfl⟩)
  | videoUnlockStop =>
    cases hs
    exact caps_fit_of_frame h (.of_video rfl rfl rfl rfl rfl ⟨rfl, rfl, rfl⟩)
  | setMode modeEnum =>
    obtain ⟨mode, -, rfl⟩ := Option.map_eq_some_iff.mp hs
    exact caps_fit_of_frame h (.of_video rfl rfl rfl rfl rfl ⟨rfl, rfl, rfl⟩)
  | audioOpen found ok =>
    obtain ⟨hacq, hacqMode⟩ := acquire_init_mode s .audio
    obtain ⟨-, ⟨-, rfl⟩ | ⟨-, av, hav, rfl⟩⟩ := audio_open_cases hs
    · exact caps_fit_of_frame h (.of_video rfl hacq hacqMode rfl rfl (.refl _))
    · exact caps_fit_of_frame h (.of_video rfl ((init_mode_of_engine hav rfl
        (open_init_audio_mode av found ok)).trans hacq) hacqMode rfl rfl (.refl _))
  | audioReadyToPaused ok => exact audio_ready_fit h hs
  | audioPlay =>
    obtain ⟨-, rfl⟩ := audio_play_cases hs
    exact caps_fit_of_frame h (.of_video rfl rfl rfl rfl rfl (.refl _))
  | audioPause =>
    obtain ⟨-, rfl⟩ := audio_pause_cases hs
    exact caps_fit_of_frame h (.of_video rfl rfl rfl rfl rfl (.refl _))
  | audioStop => exact audio_stop_fit h hs
  | audioClose =>
    obtain ⟨-, ⟨-, rfl⟩ | ⟨-, rfl⟩⟩ := audio_close_cases hs <;>
      exact caps_fit_of_frame h (.of_video rfl rfl rfl rfl rfl (.refl _))
  | audioStart capsSet => exact audio_start_fit h hs
  | audioCreate => exact audio_quiet_fit h (audio_create_quiet hs)
  | audioUnlock =>
    cases hs
    exact caps_fit_of_frame h (.of_video rfl rfl rfl rfl rfl (.refl _))
  | audioUnlockStop =>
    cases hs
    exact audio_quiet_fit h (audio_unlock_stop_quiet s)
  | frame thread env videoBuff => exact frame_fit h hs
  | packet thread audioBuff => exact audio_quiet_fit h (packet_quiet hs)
  | threadEnds thread =>
    obtain ⟨av, -, -, -, rfl⟩ := thread_ends_cases hs
    exact caps_fit_of_frame h (.of_video rfl rfl rfl rfl rfl (.refl _))

/-! ## Every run -/

theorem caps_fit (h : ReachableWhile (system videoInfoFromCaps) ModeKept s) :
    CapsFit videoInfoFromCaps s := by
  have hboth : CapsFit videoInfoFromCaps s ∧ VideoLife s := by
    refine h.invariant (I := fun s => CapsFit videoInfoFromCaps s ∧ VideoLife s)
      (fun _ hi => ⟨caps_fit_init hi, video_life_init hi⟩) ?_
    rintro _ _ _ ⟨hi, hl⟩ ha hn
    have hs := (system_step_of_next hn).2
    exact ⟨caps_fit_step hi hl ha hs, video_life_step hl hs⟩
  exact hboth.1

/-- Every buffer is described as it was captured, as long as the mode that is read is the
one of the hardware. -/
theorem caps_describe_capture (h : ReachableWhile (system videoInfoFromCaps) ModeKept s) :
    ∀ d ∈ s.delivered, Describes videoInfoFromCaps d :=
  (caps_fit h).delivered

def hdrFrame : Event :=
  .frame 1 ⟨⟨0, 1000, 0⟩, none⟩
    (some ⟨0, false, 0, 0, false, 0, 0, 0, true, 2, 2, false, 1, 0, false⟩)

def untilPlaying : List Event :=
  [.videoOpen true true, .videoReadyToPaused true, .videoPlay, .videoPlaying]

theorem caps_describe_capture_hdr : ∃ s : System, s.delivered.length = 1 ∧
    ∀ d ∈ s.delivered, Describes capsVideoInfo d := by
  obtain ⟨s, hs, hp⟩ := reachable_while_of_trace (m := system capsVideoInfo) (a := ModeKept)
    (i := newElements)
    (l := untilPlaying ++
      [.videoStart, .setMode 12, .setMode 15, hdrFrame, .videoCreate, .videoCreate])
    (p := fun s => decide (s.delivered.length = 1))
    ⟨15, 5, false, 0, 2, 5, 0, 0, rfl⟩ (by decide +kernel)
  exact ⟨s, of_decide_eq_true hp, caps_describe_capture hs⟩

/-- The mode is written between open and the first `create`: the hardware goes on in 720p,
and the buffer goes out as if it were in the other mode. -/
theorem caps_of_other_mode : ¬∀ s, Reachable (system capsVideoInfo) s →
    ∀ d ∈ s.delivered, Describes capsVideoInfo d := by
  intro h
  obtain ⟨s, hs, hp⟩ := reachable_of_trace (m := system capsVideoInfo) (i := newElements)
    (l := untilPlaying ++ [.setMode 12, .videoStart, hdrFrame, .videoCreate, .videoCreate])
    (p := fun s => s.delivered.any fun d => decide (d.initMode ≠ some d.mode))
    ⟨15, 5, false, 0, 2, 5, 0, 0, rfl⟩ (by decide +kernel)
  obtain ⟨d, hd, hne⟩ := List.any_eq_true.mp hp
  obtain ⟨mode, -, hinit, rfl, -⟩ := h s hs d hd
  exact of_decide_eq_true hne hinit

end AjaCapsInForce
