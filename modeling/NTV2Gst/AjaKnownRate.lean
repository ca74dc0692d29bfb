import NTV2Gst.AjaModeTiming
import NTV2Gst.AjaTransitions
import NTV2Gst.AjaSampleWindow

/-!
# The frame rate that the time mapping reads

`update_time_mapping` reads the frame rate from the info of the caps, while everything else
reads it from the mode of the input. The mode is there before the first frame; the info is
written by `create` when it delivers one, and the frames are counted whether they are
delivered or not.
-/
namespace AjaKnownRate

open TransitionRuns GstClockMath GstAjaModes AjaVideoSrc AjaInputSystem AjaTransitions
open AjaModeTiming (KeepsRate caps_video_info_keeps_rate)
open AjaTimestamps (anchoredFor prepare_cases)
open AjaSampleWindow (fillsWindow prepare_update)

structure MappingCall where
  src : GstAjaVideoSrc
  captureTime : ℕ
  streamTime : ℕ
  discont : Bool
  regression : Option Calibration
  deriving DecidableEq, Repr

def MappingCall.result (c : MappingCall) : GstAjaVideoSrc :=
  c.src.updateTimeMapping c.captureTime c.streamTime c.discont c.regression

/-- The call computes `fps`, because it fills the window, or `max_diff`, because a mapping is
pending after the sample. -/
def MappingCall.readsRate (c : MappingCall) : Bool :=
  fillsWindow c.src ||
    (c.src.sample c.captureTime c.streamTime c.regression).nextTimeMappingPending

def callFor (src : GstAjaVideoSrc) (mode : GstAjaMode) (env : CaptureEnv) (b : AjaVideoBuff) :
    MappingCall where
  src := anchoredFor src mode env b
  captureTime := env.clock.capturePipeline (some b)
  streamTime := (anchoredFor src mode env b).streamTime mode b.frameNumber
  discont := b.droppedChanged
  regression := env.regression

def takesFrame (s : System) (thread : ℕ) : Bool :=
  (s.engineOf thread).any (·.mVideoCallback) && s.video.hasInput && s.input.videoEnabled &&
    s.input.mode.isSome

def mappingCall (s : System) : Event → Option MappingCall
  | .frame thread env (some b) =>
    if takesFrame s thread && b.haveSignal then
      (s.input.mode.filter fun mode => !s.videosrc.skipsFrame mode env b).map fun mode =>
        callFor s.videosrc mode env b
    else none
  | _ => none

def RateKnown (src : GstAjaVideoSrc) : Prop := 0 < src.info.fpsN ∧ 0 < src.info.fpsD

instance (src : GstAjaVideoSrc) : Decidable (RateKnown src) := inferInstanceAs (Decidable (_ ∧ _))

def RateSafe (s : System) (e : Event) : Prop :=
  ∀ c ∈ mappingCall s e, c.readsRate = true → RateKnown c.src

/-- A frame that fills the window comes after `create` has delivered one. -/
def DeliveredFirst (s : System) (e : Event) : Prop :=
  ∀ c ∈ mappingCall s e, fillsWindow c.src = true → s.delivered ≠ []

instance (s : System) (e : Event) : Decidable (RateSafe s e) := by
  unfold RateSafe
  infer_instance

instance (s : System) (e : Event) : Decidable (DeliveredFirst s e) := by
  unfold DeliveredFirst
  infer_instance

/-! ## What a step does to what the calls read -/

section Steps

variable {videoInfoFromCaps : GstCaps → GstVideoInfo} {s t : System}

structure Unnegotiated (s : System) : Prop where
  info : s.videosrc.info = .empty
  caps : s.caps = none
  delivered : s.delivered = []

structure CapsFrame (s t : System) : Prop where
  info : t.videosrc.info = s.videosrc.info
  caps : t.caps = s.caps ∨ t.caps = none
  delivered : t.delivered = s.delivered

structure RateFrame (s t : System) : Prop extends CapsFrame s t where
  pending : t.videosrc.nextTimeMappingPending = s.videosrc.nextTimeMappingPending
  filled : t.videosrc.windowFilled = true → s.videosrc.windowFilled = true

theorem RateFrame.of_source (hv : t.videosrc = s.videosrc) (hc : t.caps = s.caps)
    (hd : t.delivered = s.delivered) : RateFrame s t :=
  ⟨⟨by rw [hv], Or.inl hc, hd⟩, by rw [hv], by rw [hv]; exact id⟩

theorem RateFrame.trans {u : System} (h : RateFrame s t) (k : RateFrame t u) : RateFrame s u :=
  ⟨⟨k.info.trans h.info, k.caps.elim (fun hk => h.caps.imp hk.trans hk.trans) Or.inr,
    k.delivered.trans h.delivered⟩, k.pending.trans h.pending, h.filled ∘ k.filled⟩

theorem start_step_rate (h : StartStep s t) : RateFrame s t := by
  rcases h.videosrc with hv | hv
  · exact .of_source hv h.caps h.delivered
  · refine ⟨⟨?_, Or.inl h.caps, h.delivered⟩, ?_, ?_⟩ <;> rw [hv]
    · rfl
    · rfl
    · intro hf
      cases hf

theorem video_same_rate (h : VideoSame s t) : RateFrame s t :=
  .of_source h.videosrc h.caps h.delivered

theorem audio_quiet_rate (h : AudioQuiet s t) : RateFrame s t :=
  .of_source h.videosrc h.caps h.delivered

theorem rate_frame_step {e : Event} (hframe : ∀ thread env b, e ≠ .frame thread env b)
    (hcreate : e ≠ .videoCreate) (hs : s.step videoInfoFromCaps e = some t) : RateFrame s t := by
  cases e with
  | videoOpen found ok =>
    obtain ⟨-, ⟨-, rfl⟩ | ⟨-, _, _, -, -, rfl⟩⟩ := video_open_cases hs <;>
      exact .of_source rfl rfl rfl
  | videoReadyToPaused ok =>
    obtain ⟨-, ⟨-, rfl⟩ | ⟨_, -, rfl⟩⟩ := video_ready_cases hs
    · exact .of_source rfl rfl rfl
    · exact ⟨⟨rfl, Or.inl rfl, rfl⟩, rfl, id⟩
  | videoPlay => obtain ⟨-, -, rfl⟩ := video_play_cases hs; exact .of_source rfl rfl rfl
  | videoPlaying =>
    obtain ⟨-, u, hu, rfl⟩ := video_playing_cases hs
    exact (start_step_rate hu).trans (.of_source rfl rfl rfl)
  | videoPause => obtain ⟨-, rfl⟩ := video_pause_cases hs; exact .of_source rfl rfl rfl
  | videoStop =>
    obtain ⟨-, -, ⟨-, rfl⟩ | ⟨-, rfl⟩ | ⟨_, -, rfl⟩⟩ := video_stop_cases hs <;>
      exact ⟨⟨rfl, Or.inr rfl, rfl⟩, rfl, id⟩
  | videoClose =>
    obtain ⟨-, ⟨-, rfl⟩ | ⟨-, rfl⟩⟩ := video_close_cases hs <;> exact .of_source rfl rfl rfl
  | videoStart =>
    obtain ⟨-, ⟨-, rfl⟩ | ⟨-, mode, -, u, hu, rfl⟩⟩ := video_start_cases hs
    · exact .of_source rfl rfl rfl
    · have hon : RateFrame s (s.enableVideo mode) := .of_source rfl rfl rfl
      exact (hon.trans (start_step_rate hu)).trans ⟨⟨rfl, Or.inl rfl, rfl⟩, rfl, id⟩
  | videoCreate => exact absurd rfl hcreate
  | videoUnlock => cases hs; exact ⟨⟨rfl, Or.inl rfl, rfl⟩, rfl, id⟩
  | videoUnlockStop => cases hs; exact ⟨⟨rfl, Or.inl rfl, rfl⟩, rfl, id⟩
  | setMode modeEnum =>
    obtain ⟨_, -, rfl⟩ := Option.map_eq_some_iff.mp hs
    exact ⟨⟨rfl, Or.inl rfl, rfl⟩, rfl, id⟩
  | audioOpen found ok =>
    obtain ⟨-, ⟨-, rfl⟩ | ⟨-, _, -, rfl⟩⟩ := audio_open_cases hs <;> exact .of_source rfl rfl rfl
  | audioReadyToPaused ok => exact video_same_rate (audio_ready_cases hs).2.1
  | audioPlay => obtain ⟨-, rfl⟩ := audio_play_cases hs; exact .of_source rfl rfl rfl
  | audioPause => obtain ⟨-, rfl⟩ := audio_pause_cases hs; exact .of_source rfl rfl rfl
  | audioStop => exact video_same_rate (audio_stop_cases hs).2.1
  | audioClose =>
    obtain ⟨-, ⟨-, rfl⟩ | ⟨-, rfl⟩⟩ := audio_close_cases hs <;> exact .of_source rfl rfl rfl
  | audioStart capsSet =>
    have hon : RateFrame s s.enableAudio := .of_source rfl rfl rfl
    obtain ⟨-, ⟨-, rfl⟩ | ⟨-, u, hu | ⟨-, rfl⟩, rfl⟩⟩ := audio_start_cases hs
    · exact .of_source rfl rfl rfl
    · exact (hon.trans (start_step_rate hu)).trans (.of_source rfl rfl rfl)
    · exact hon.trans (.of_source rfl rfl rfl)
  | audioCreate => exact audio_quiet_rate (audio_create_quiet hs)
  | audioUnlock => cases hs; exact .of_source rfl rfl rfl
  | audioUnlockStop => cases hs; exact audio_quiet_rate (audio_unlock_stop_quiet s)
  | frame thread env b => exact absurd rfl (hframe thread env b)
  | packet thread b => exact audio_quiet_rate (packet_quiet hs)
  | threadEnds thread =>
    obtain ⟨_, -, -, -, rfl⟩ := thread_ends_cases hs
    exact .of_source rfl rfl rfl

/-! ### Create -/

theorem frame_info_rate (hkeep : KeepsRate videoInfoFromCaps) {mode : GstAjaMode}
    (hmode : Nat.Coprime mode.fpsN mode.fpsD) (isNvmm : Bool)
    (transferCharacteristics colorimetry : ℕ) (fullRange : Bool) :
    (frameInfo videoInfoFromCaps mode isNvmm transferCharacteristics colorimetry
        fullRange).fpsN = mode.fpsN ∧
      (frameInfo videoInfoFromCaps mode isNvmm transferCharacteristics colorimetry
        fullRange).fpsD = mode.fpsD :=
  hkeep (mode.capsRaw isNvmm) hmode

theorem negotiate_rate (hkeep : KeepsRate videoInfoFromCaps) {src : GstAjaVideoSrc}
    {f : AjaCaptureVideoFrame} {b : AjaVideoBuff} {caps : Option CapsInForce}
    {r : GstAjaVideoSrc × Option CapsInForce}
    (hr : src.negotiate videoInfoFromCaps f b caps = some r)
    (h : caps = none ∨ RateKnown src) : RateKnown r.1 := by
  unfold GstAjaVideoSrc.negotiate at hr
  split at hr
  case isTrue =>
    obtain ⟨r', hr', rfl⟩ := Option.map_eq_some_iff.mp hr
    obtain ⟨mode, hmode, rfl⟩ := Option.map_eq_some_iff.mp hr'
    have hvalid := mode_rate_valid hmode
    obtain ⟨hn, hd⟩ := frame_info_rate hkeep (mode_rate_coprime hmode) b.isNvmm
      b.transferCharacteristics b.colorimetry b.fullRange
    exact ⟨hn ▸ hvalid.num_pos, hd ▸ hvalid.den_pos⟩
  case isFalse hfits =>
    cases hr
    refine h.resolve_left ?_
    rintro rfl
    simp [GstAjaVideoSrc.capsOutdated] at hfits

theorem create_rate (hkeep : KeepsRate videoInfoFromCaps)
    (h : s.caps = none ∨ RateKnown s.videosrc) (hs : s.videoCreate videoInfoFromCaps = some t) :
    RateFrame s t ∨ (RateKnown t.videosrc ∧ (t.fault = none → t.delivered ≠ [])) := by
  unfold System.videoCreate at hs
  split at hs
  case isFalse => cases hs
  case isTrue =>
    cases hpop : s.videosrc.popFrame with
    | none => rw [hpop] at hs; cases hs
    | some r =>
      obtain ⟨f, src⟩ := r
      have hsrc := (pop_frame_some hpop).2
      have hinfo : src.info = s.videosrc.info := by rw [hsrc]
      simp only [hpop] at hs
      cases hb : f.videoBuff with
      | none =>
        simp only [hb, Option.some.injEq] at hs
        subst hs
        refine Or.inl ⟨⟨hinfo, Or.inl rfl, rfl⟩, ?_, ?_⟩
        · rw [hsrc]
        · rw [hsrc]
          exact id
      | some b =>
        simp only [hb] at hs
        obtain ⟨r, hr, rfl⟩ := Option.map_eq_some_iff.mp hs
        have hknown := negotiate_rate hkeep hr (h.imp_right fun hk => by
          unfold RateKnown at hk ⊢
          rwa [hinfo])
        refine Or.inr ⟨?_, ?_⟩
        · split <;> exact hknown
        · split
          · intro hf
            cases hf
          · intro _ hd
            simp at hd

/-! ### Frames -/

def mappingState (src : GstAjaVideoSrc) : GstVideoInfo × Bool × Bool :=
  (src.info, src.windowFilled, src.nextTimeMappingPending)

theorem lose_signal_state_kept (src : GstAjaVideoSrc) :
    mappingState src.loseSignal = mappingState src := by
  unfold GstAjaVideoSrc.loseSignal GstAjaVideoSrc.pushMarker
  split
  · rfl
  · split <;> rfl

theorem anchored_state_kept (src : GstAjaVideoSrc) (mode : GstAjaMode) (env : CaptureEnv)
    (b : AjaVideoBuff) : mappingState (anchoredFor src mode env b) = mappingState src := by
  unfold anchoredFor GstAjaVideoSrc.anchor GstAjaVideoSrc.noteFirstTime
    GstAjaVideoSrc.gainSignal GstAjaVideoSrc.pushMarker
  simp only
  repeat' split
  all_goals rfl

theorem got_frame_state (src : GstAjaVideoSrc) (mode : GstAjaMode) (env : CaptureEnv)
    (videoBuff : Option AjaVideoBuff) (flushing : Bool) :
    mappingState (src.gotFrame mode env videoBuff flushing).1 =
      mappingState (src.gotFramePrepare mode env videoBuff).1 := by
  unfold GstAjaVideoSrc.gotFrame
  dsimp only
  split
  · split <;> rfl
  · rfl

theorem frame_cases {thread : ℕ} {env : CaptureEnv} {videoBuff : Option AjaVideoBuff}
    (h : s.frame thread env videoBuff = some t) :
    (takesFrame s thread = false ∧ t.videosrc = s.videosrc) ∨
      (takesFrame s thread = true ∧ ∃ mode, s.input.mode = some mode ∧
        t.videosrc = (s.videosrc.gotFrame mode env videoBuff s.videosrc.flushing).1) := by
  obtain ⟨av, hav, rfl⟩ := Option.map_eq_some_iff.mp h
  unfold takesFrame
  rw [hav]
  cases hcall : av.mVideoCallback <;> cases s.video.hasInput <;>
    cases s.input.videoEnabled <;> cases s.input.mode <;> simp [hcall]

theorem frame_mapping {thread : ℕ} {env : CaptureEnv} {videoBuff : Option AjaVideoBuff}
    (hs : s.frame thread env videoBuff = some t) :
    (mappingCall s (.frame thread env videoBuff) = none ∧
      mappingState t.videosrc = mappingState s.videosrc) ∨
    ∃ c, mappingCall s (.frame thread env videoBuff) = some c ∧
      mappingState c.src = mappingState s.videosrc ∧
      mappingState t.videosrc = mappingState c.result := by
  obtain ⟨htakes, hv⟩ | ⟨htakes, mode, hmode, hv⟩ := frame_cases hs
  · left
    refine ⟨?_, by rw [hv]⟩
    cases videoBuff with
    | none => rfl
    | some b => simp [mappingCall, htakes]
  · rw [hv, got_frame_state]
    cases videoBuff with
    | none => exact Or.inl ⟨rfl, lose_signal_state_kept _⟩
    | some b =>
      rcases prepare_cases s.videosrc mode env b with
        ⟨hb, hp⟩ | ⟨hb, hskip, hp⟩ | ⟨hb, hskip, -⟩
      · exact Or.inl ⟨by simp [mappingCall, hb], by rw [hp]; exact lose_signal_state_kept _⟩
      · refine Or.inl ⟨by simp [mappingCall, hmode, hskip], ?_⟩
        rw [hp]
        exact anchored_state_kept _ _ _ _
      · refine Or.inr ⟨callFor s.videosrc mode env b, ?_, anchored_state_kept _ _ _ _, ?_⟩
        · simp [mappingCall, htakes, hb, hmode, hskip]
        · rw [prepare_update hb hskip]
          rfl

theorem frame_caps {thread : ℕ} {env : CaptureEnv} {videoBuff : Option AjaVideoBuff}
    (hs : s.frame thread env videoBuff = some t) : CapsFrame s t := by
  obtain ⟨av, -, rfl⟩ := Option.map_eq_some_iff.mp hs
  repeat' split
  case h_2 mode _ =>
    refine ⟨?_, Or.inl rfl, rfl⟩
    have hstate := got_frame_state s.videosrc mode env videoBuff s.videosrc.flushing
    exact (congrArg Prod.fst hstate).trans (prepare_settings _ _ _ _).info
  all_goals exact ⟨rfl, Or.inl rfl, rfl⟩

structure Quiet (src : GstAjaVideoSrc) : Prop where
  unfilled : src.windowFilled = false
  none_pending : src.nextTimeMappingPending = false

theorem Quiet.of_state {a b : GstAjaVideoSrc} (h : Quiet a)
    (hs : mappingState b = mappingState a) : Quiet b := by
  simp only [mappingState, Prod.mk.injEq] at hs
  exact ⟨hs.2.1.trans h.unfilled, hs.2.2.trans h.none_pending⟩

theorem store_sample_quiet {src : GstAjaVideoSrc} (h : Quiet src)
    (hfree : src.windowFill + 1 < src.windowSize) (t s : ℕ) : Quiet (src.storeSample t s) := by
  unfold GstAjaVideoSrc.storeSample
  simp only [GstAjaVideoSrc.countSkip, if_neg (Nat.not_le.mpr hfree)]
  exact ⟨h.unfilled, h.none_pending⟩

theorem start_mapping_quiet {src : GstAjaVideoSrc} (h : Quiet src) (t s : ℕ) :
    Quiet (src.startMapping t s) := by
  unfold GstAjaVideoSrc.startMapping
  split
  · exact ⟨h.unfilled, rfl⟩
  · exact h

theorem fit_mapping_quiet {src : GstAjaVideoSrc} (h : Quiet src)
    (regression : Option Calibration) : Quiet (src.fitMapping regression) := by
  simpa [GstAjaVideoSrc.fitMapping, h.unfilled] using h

theorem sample_quiet {src : GstAjaVideoSrc} (h : Quiet src) (hfills : fillsWindow src = false)
    (t s : ℕ) (regression : Option Calibration) : Quiet (src.sample t s regression) := by
  unfold GstAjaVideoSrc.sample
  split
  case isTrue hcount =>
    have hfree : src.windowFill + 1 < src.windowSize := by
      simpa [fillsWindow, hcount] using hfills
    exact fit_mapping_quiet (start_mapping_quiet (store_sample_quiet h hfree t s) t s) regression
  case isFalse => exact ⟨h.unfilled, h.none_pending⟩

theorem quiet_call {c : MappingCall} (hfills : fillsWindow c.src = false) (h : Quiet c.src) :
    c.readsRate = false ∧ Quiet c.result := by
  have hsample := sample_quiet h hfills c.captureTime c.streamTime c.regression
  have hidle : c.result = c.src.sample c.captureTime c.streamTime c.regression := by
    simp [MappingCall.result, GstAjaVideoSrc.updateTimeMapping, GstAjaVideoSrc.applyPending,
      hsample.none_pending]
  constructor
  · simp [MappingCall.readsRate, hfills, hsample.none_pending]
  · rw [hidle]
    exact hsample

/-! ### Runs -/

theorem known_of_info {a b : GstAjaVideoSrc} (h : b.info = a.info) (ha : RateKnown a) :
    RateKnown b := by
  unfold RateKnown at ha ⊢
  rwa [h]

/-- Either no caps were negotiated yet, or the rate is known for good and a frame was
delivered. -/
def Negotiation (s : System) : Prop :=
  Unnegotiated s ∨ (RateKnown s.videosrc ∧ (s.fault = none → s.delivered ≠ []))

theorem Negotiation.known (h : Negotiation s) : s.caps = none ∨ RateKnown s.videosrc :=
  h.imp Unnegotiated.caps And.left

theorem Unnegotiated.of_frame (h : Unnegotiated s) (hf : CapsFrame s t) : Unnegotiated t :=
  ⟨hf.info.trans h.info, hf.caps.elim (·.trans h.caps) id, hf.delivered.trans h.delivered⟩

theorem Unnegotiated.not_known (h : Unnegotiated s) : ¬RateKnown s.videosrc := by
  unfold RateKnown
  rw [h.info]
  decide

theorem Negotiation.of_frame (h : Negotiation s) (hf : CapsFrame s t) (hnone : s.fault = none) :
    Negotiation t := by
  rcases h with h | ⟨hknown, hd⟩
  · exact Or.inl (h.of_frame hf)
  · refine Or.inr ⟨known_of_info hf.info hknown, fun _ => ?_⟩
    rw [hf.delivered]
    exact hd hnone

theorem negotiation_init (h : (system videoInfoFromCaps).initial s) : Unnegotiated s := by
  obtain ⟨_, _, _, _, _, _, _, _, rfl⟩ := h
  exact ⟨rfl, rfl, rfl⟩

theorem negotiation_step (hkeep : KeepsRate videoInfoFromCaps) {e : Event} (h : Negotiation s)
    (hn : (system videoInfoFromCaps).next s e = some t) : Negotiation t := by
  obtain ⟨hnone, hs⟩ := system_step_of_next hn
  cases e with
  | videoCreate =>
    rcases create_rate hkeep h.known hs with hf | hd
    · exact h.of_frame hf.toCapsFrame hnone
    · exact Or.inr hd
  | frame thread env videoBuff => exact h.of_frame (frame_caps hs) hnone
  | _ => exact h.of_frame (rate_frame_step (by simp) (by simp) hs).toCapsFrame hnone

theorem negotiation (hkeep : KeepsRate videoInfoFromCaps)
    (h : Reachable (system videoInfoFromCaps) s) : Negotiation s :=
  h.invariant (fun _ hi => Or.inl (negotiation_init hi)) fun _ _ _ ha _ hn =>
    negotiation_step hkeep ha hn

def KnownInTime (s : System) : Prop :=
  RateKnown s.videosrc ∨ (Unnegotiated s ∧ Quiet s.videosrc)

theorem KnownInTime.of_frame (h : KnownInTime s) (hf : RateFrame s t) : KnownInTime t := by
  rcases h with h | ⟨hu, hq⟩
  · exact Or.inl (known_of_info hf.info h)
  · refine Or.inr ⟨hu.of_frame hf.toCapsFrame, ?_, hf.pending.trans hq.none_pending⟩
    cases hw : t.videosrc.windowFilled with
    | false => rfl
    | true => exact (hf.filled hw).symm.trans hq.unfilled

theorem mapping_call_state {e : Event} {c : MappingCall} (h : mappingCall s e = some c) :
    mappingState c.src = mappingState s.videosrc := by
  unfold mappingCall at h
  split at h
  case h_2 => cases h
  case h_1 =>
    obtain ⟨-, h⟩ := Option.ite_none_right_eq_some.mp h
    obtain ⟨mode, -, rfl⟩ := Option.map_eq_some_iff.mp h
    exact anchored_state_kept _ _ _ _

theorem unread_call {e : Event} {c : MappingCall} (h : mappingCall s e = some c)
    (hd : DeliveredFirst s e) (hu : Unnegotiated s) (hq : Quiet s.videosrc) :
    c.readsRate = false ∧ Quiet c.result := by
  refine quiet_call ?_ (hq.of_state (mapping_call_state h))
  cases hfills : fillsWindow c.src with
  | false => rfl
  | true => exact absurd hu.delivered (hd c h hfills)

theorem known_in_time_step (hkeep : KeepsRate videoInfoFromCaps) {e : Event} (h : KnownInTime s)
    (hd : DeliveredFirst s e) (hn : (system videoInfoFromCaps).next s e = some t) :
    KnownInTime t := by
  obtain ⟨-, hs⟩ := system_step_of_next hn
  cases e with
  | videoCreate =>
    rcases create_rate hkeep (h.symm.imp (·.1.caps) id) hs with hf | hk
    · exact h.of_frame hf
    · exact Or.inl hk.1
  | frame thread env videoBuff =>
    have hcaps := frame_caps hs
    rcases h with h | ⟨hu, hq⟩
    · exact Or.inl (known_of_info hcaps.info h)
    · refine Or.inr ⟨hu.of_frame hcaps, ?_⟩
      rcases frame_mapping hs with ⟨-, hstate⟩ | ⟨c, hc, -, hstate⟩
      · exact hq.of_state hstate
      · exact (unread_call hc hd hu hq).2.of_state hstate
  | _ => exact h.of_frame (rate_frame_step (by simp) (by simp) hs)

theorem rate_safe_of_known {e : Event} (h : KnownInTime s) (hd : DeliveredFirst s e) :
    RateSafe s e := by
  intro c hc hreads
  rcases h with h | ⟨hu, hq⟩
  · exact known_of_info (congrArg Prod.fst (mapping_call_state hc)) h
  · rw [(unread_call hc hd hu hq).1] at hreads
    cases hreads

end Steps

/-- In a run from two new elements the frame rate is known whenever the time mapping reads
it if and only if every frame that fills the window comes after `create` has delivered a
frame. -/
theorem rate_known_iff (videoInfoFromCaps : GstCaps → GstVideoInfo)
    (hkeep : KeepsRate videoInfoFromCaps) (i : System) (events : List Event)
    (hi : (system videoInfoFromCaps).initial i)
    (hrun : (runTrace (system videoInfoFromCaps) i events).isSome) :
    Throughout (system videoInfoFromCaps) RateSafe i events ↔
      Throughout (system videoInfoFromCaps) DeliveredFirst i events := by
  constructor
  · intro h before e after s hevents hs c hc hfills
    have hknown := h before e after s hevents hs c hc (by simp [MappingCall.readsRate, hfills])
    have hreach : Reachable (system videoInfoFromCaps) s := ⟨i, hi, run_trace_execution hs⟩
    rcases negotiation hkeep hreach with hu | ⟨-, hd⟩
    · exact absurd (known_of_info (congrArg Prod.fst (mapping_call_state hc)).symm hknown)
        hu.not_known
    · rw [hevents] at hrun
      obtain ⟨u, v, hu, hv⟩ := run_trace_split hrun
      obtain rfl : u = s := Option.some.inj (hu.symm.trans hs)
      exact hd (system_step_of_next hv).1
  · intro h before e after s hevents hs
    have hexec : Execution (system videoInfoFromCaps) DeliveredFirst i s :=
      execution_of_trace hs (Throughout.before (hevents ▸ h))
    have hstart : KnownInTime i := by
      have hu := negotiation_init hi
      obtain ⟨_, _, _, _, _, _, _, _, rfl⟩ := hi
      exact Or.inr ⟨hu, ⟨rfl, rfl⟩⟩
    exact rate_safe_of_known
      (hexec.invariant hstart fun _ _ _ ha hd hn => known_in_time_step hkeep ha hd hn)
      (h before e after s hevents hs)

def signalFrame (n : ℕ) : Event :=
  .frame 1 ⟨⟨0, 1000000 + 16683333 * n, 0⟩, none⟩
    (some ⟨n, false, n, 0, false, 0, 0, 0, true, 0, 0, false, n + 1, 0, false⟩)

def untilCapture : List Event :=
  [.videoOpen true true, .videoReadyToPaused true, .videoPlay, .videoPlaying, .videoStart]

def deliveredRun : List Event :=
  untilCapture ++ [signalFrame 0, .videoCreate, .videoCreate] ++
    (List.range 64).map fun n => signalFrame (n + 1)

def pausedRun : List Event :=
  untilCapture ++ [.videoUnlock, .videoPause, .videoUnlockStop] ++ (List.range 63).map signalFrame

theorem rate_known_delivered :
    Throughout (system capsVideoInfo) RateSafe newElements deliveredRun :=
  (rate_known_iff capsVideoInfo caps_video_info_keeps_rate newElements deliveredRun
    ⟨15, 5, false, 0, 2, 5, 0, 0, rfl⟩ (by decide +kernel)).mpr
    (throughout_of_runs_while (by decide +kernel))

/-- The 64th frame since the start fills the window, and there are no caps yet. -/
theorem rate_unknown_paused : ¬ ∀ videoInfoFromCaps i events, KeepsRate videoInfoFromCaps →
    (system videoInfoFromCaps).initial i →
    (runTrace (system videoInfoFromCaps) i events).isSome →
    Throughout (system videoInfoFromCaps) RateSafe i events := by
  intro h
  have hrun : (runTrace (system capsVideoInfo) newElements pausedRun).any (fun s =>
      !decide (RateSafe s (signalFrame 63))) = true := by decide +kernel
  obtain ⟨s, hs, hp⟩ := (Option.any_eq_true _ _).mp hrun
  have hsafe := h capsVideoInfo newElements (pausedRun ++ [signalFrame 63])
    caps_video_info_keeps_rate ⟨15, 5, false, 0, 2, 5, 0, 0, rfl⟩ (by decide +kernel)
    pausedRun (signalFrame 63) [] s rfl hs
  simp [hsafe] at hp

end AjaKnownRate
