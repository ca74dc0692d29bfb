import NTV2Gst.AjaLoopSignal
import NTV2Gst.AjaBufferOwnership
import NTV2Gst.AjaRecordFlow

/-!
# A buffer goes out as its own frame

Between the transfer of a frame and the return of its buffer other frames are captured, dropped
and returned, and caps are replaced. The record of a frame is never written in between, so a
buffer is described by the device's answers of its own iteration, and its times are those that
`got_frame` found for this record.
-/
namespace AjaFrameOrigin

open TransitionRuns StepSimulation GstAjaModes AjaVideoSrc AjaAudioSrc AjaCapturePipeline
  AjaPipelineSteps AjaVideoSetup AjaVpid AjaTimecodeDigits AjaCaptureLoop AjaRecordFlow

variable {videoInfoFromCaps : GstCaps → GstVideoInfo}

variable {p q : Pipeline}

/-! ## Caps in the pipeline -/

def capsOf (videoInfoFromCaps : GstCaps → GstVideoInfo) (mode : GstAjaMode) (isNvmm : Bool)
    (colors : Colors) : CapsInForce :=
  ⟨frameInfo videoInfoFromCaps mode isNvmm colors.transferCharacteristics colors.colorimetry
    colors.fullRange, isNvmm⟩

def srcColors (src : GstAjaVideoSrc) : Colors :=
  ⟨src.transferCharacteristics, src.colorimetry, src.fullRange⟩

def buffColors (b : AjaVideoBuff) : Colors :=
  ⟨b.transferCharacteristics, b.colorimetry, b.fullRange⟩

structure CapsKeep (videoInfoFromCaps : GstCaps → GstVideoInfo) (isNvmm : Bool) (p : Pipeline) :
    Prop where
  caps : ∀ c, p.caps = some c → ∃ mode, getModeRaw p.videosrc.modeEnum = some mode ∧
    c = capsOf videoInfoFromCaps mode isNvmm (srcColors p.videosrc)
  taken : ∀ f b, p.videoTaken = some (f, b) → ∃ mode, getModeRaw f.mode = some mode ∧
    p.caps = some (capsOf videoInfoFromCaps mode isNvmm (buffColors b))

structure CapsSame (p q : Pipeline) : Prop where
  caps : q.caps = p.caps
  mode : q.videosrc.modeEnum = p.videosrc.modeEnum
  colors : srcColors q.videosrc = srcColors p.videosrc
  taken : q.videoTaken = p.videoTaken ∨ q.videoTaken = none

theorem settings_colors {a b : GstAjaVideoSrc} (h : SameSettings a b) :
    srcColors b = srcColors a := by
  rw [srcColors, h.transferCharacteristics, h.colorimetry, h.fullRange]
  rfl

theorem caps_same {e : AjaCapturePipeline.Event} (he : e ≠ .videoPop)
    (hn : p.next videoInfoFromCaps e = some q) : CapsSame p q := by
  cases e with
  | status ac =>
    obtain ⟨-, rfl⟩ := status_eq hn
    exact ⟨rfl, rfl, rfl, Or.inl rfl⟩
  | capture d =>
    obtain ⟨-, rfl⟩ := capture_eq hn
    exact ⟨rfl, rfl, rfl, Or.inl rfl⟩
  | nullVideo =>
    obtain ⟨-, rfl | rfl⟩ := null_video_cases hn
    · have k := lose_signal_settings p.videosrc
      exact ⟨rfl, k.modeEnum, settings_colors k, Or.inl rfl⟩
    · exact ⟨rfl, rfl, rfl, Or.inl rfl⟩
  | videoCallback =>
    obtain ⟨_, _, -, ⟨-, rfl⟩ | ⟨-, rfl⟩⟩ := video_callback_cases hn <;>
      exact ⟨rfl, rfl, rfl, Or.inl rfl⟩
  | gotFrame env =>
    obtain ⟨v, _, _, -, -, _, _, rfl, -⟩ := got_frame_cases hn
    have k := prepare_settings p.videosrc p.mode env (some v)
    exact ⟨rfl, k.modeEnum, settings_colors k, Or.inl rfl⟩
  | queueFrame =>
    obtain ⟨_, _, _, _, _, -, ⟨-, rfl⟩ | ⟨-, rfl⟩⟩ := queue_frame_cases hn <;>
      exact ⟨rfl, rfl, rfl, Or.inl rfl⟩
  | videoPop => exact absurd rfl he
  | videoReturn =>
    obtain ⟨_, _, -, rfl⟩ := video_return_eq hn
    exact ⟨rfl, rfl, rfl, Or.inr rfl⟩
  | videoStop =>
    obtain ⟨-, rfl⟩ := video_stop_eq hn
    exact ⟨rfl, rfl, rfl, Or.inl rfl⟩
  | nullAudio =>
    obtain ⟨-, rfl | rfl⟩ := null_audio_cases hn <;> exact ⟨rfl, rfl, rfl, Or.inl rfl⟩
  | audioCallback =>
    obtain ⟨_, _, -, ⟨-, rfl⟩ | ⟨-, rfl⟩⟩ := audio_callback_cases hn <;>
      exact ⟨rfl, rfl, rfl, Or.inl rfl⟩
  | gotPacket =>
    obtain ⟨_, _, -, _, _, rfl, -⟩ := got_packet_cases hn
    exact ⟨rfl, rfl, rfl, Or.inl rfl⟩
  | queuePacket =>
    obtain ⟨_, _, _, -, ⟨-, rfl⟩ | ⟨-, rfl⟩⟩ := queue_packet_cases hn <;>
      exact ⟨rfl, rfl, rfl, Or.inl rfl⟩
  | workerEnds =>
    obtain ⟨-, rfl⟩ := worker_ends_eq hn
    exact ⟨rfl, rfl, rfl, Or.inl rfl⟩
  | audioPop =>
    obtain ⟨_, _, -, -, -, rfl⟩ := audio_pop_eq hn
    exact ⟨rfl, rfl, rfl, Or.inl rfl⟩
  | audioReturn =>
    obtain ⟨_, _, _, -, rfl⟩ := audio_return_eq hn
    exact ⟨rfl, rfl, rfl, Or.inl rfl⟩
  | audioStopPop =>
    obtain rfl := Option.some.inj hn
    obtain ⟨-, hs⟩ | ⟨_, _, -, hs⟩ := audio_stop_pop_cases p <;> rw [hs] <;>
      exact ⟨rfl, rfl, rfl, Or.inl rfl⟩
  | videoUnlock | videoUnlockStop | videoStartReset | audioUnlock | audioUnlockStop
  | audioReadyToPaused | audioEnable | audioStartReset | audioStop =>
    obtain rfl := Option.some.inj hn
    exact ⟨rfl, rfl, rfl, Or.inl rfl⟩

theorem negotiate_describes {src : GstAjaVideoSrc} {f : AjaCaptureVideoFrame} {b : AjaVideoBuff}
    {caps : Option CapsInForce} {r : GstAjaVideoSrc × Option CapsInForce} {isNvmm : Bool}
    (hr : src.negotiate videoInfoFromCaps f b caps = some r) (hb : b.isNvmm = isNvmm)
    (hcaps : ∀ c, caps = some c → ∃ mode, getModeRaw src.modeEnum = some mode ∧
      c = capsOf videoInfoFromCaps mode isNvmm (srcColors src)) :
    ∃ mode, getModeRaw f.mode = some mode ∧ r.1.modeEnum = f.mode ∧
      srcColors r.1 = buffColors b ∧
      r.2 = some (capsOf videoInfoFromCaps mode isNvmm (buffColors b)) := by
  unfold GstAjaVideoSrc.negotiate at hr
  split at hr
  case isTrue =>
    obtain ⟨r', hr', rfl⟩ := Option.map_eq_some_iff.mp hr
    obtain ⟨mode, hmode, rfl⟩ := Option.map_eq_some_iff.mp hr'
    exact ⟨mode, hmode, rfl, rfl, by rw [← hb]; rfl⟩
  case isFalse hfits =>
    cases hr
    simp only [GstAjaVideoSrc.capsOutdated, Bool.not_eq_true, Bool.or_eq_false_iff,
      bne_eq_false_iff_eq, Bool.not_eq_false'] at hfits
    obtain ⟨⟨⟨⟨hmode, htc⟩, hcol⟩, hfr⟩, hsome⟩ := hfits
    obtain ⟨c, hc⟩ := Option.isSome_iff_exists.mp hsome
    obtain ⟨mode, hget, rfl⟩ := hcaps c hc
    have hcolors : srcColors src = buffColors b := by rw [srcColors, htc, hcol, hfr]; rfl
    exact ⟨mode, hmode ▸ hget, hmode, hcolors, by rw [← hcolors]; exact hc⟩

theorem video_pop_caps {isNvmm : Bool} (h : CapsKeep videoInfoFromCaps isNvmm p)
    (hr : RecordsKeep (fun b => b.isNvmm = isNvmm) p)
    (hn : p.videoPop videoInfoFromCaps = some q) : CapsKeep videoInfoFromCaps isNvmm q := by
  obtain ⟨f, src, hnone, -, hsrc, hentry⟩ := video_pop_entry hn
  have hcaps := h.caps
  rw [hsrc] at hcaps
  rcases hentry with ⟨-, rfl⟩ | ⟨b, r, hb, hneg, rfl⟩
  · exact ⟨hcaps, fun f b ht => absurd (hnone.symm.trans ht) (Option.some_ne_none _).symm⟩
  · have hb' : b.isNvmm = isNvmm := by
      refine (hr.queued f ?_ b hb).1
      rw [hsrc]
      exact List.mem_cons_self
    obtain ⟨mode, hget, hmode, hcolors, hnew⟩ := negotiate_describes hneg hb' hcaps
    refine ⟨fun c hc => ⟨mode, by rw [hmode]; exact hget, ?_⟩, fun g b' ht => ?_⟩
    · rw [hcolors]
      exact (Option.some.inj (hnew.symm.trans hc)).symm
    · cases ht
      exact ⟨mode, hget, hnew⟩

theorem caps_keep_next {isNvmm : Bool} {e : AjaCapturePipeline.Event}
    (h : CapsKeep videoInfoFromCaps isNvmm p)
    (hr : RecordsKeep (fun b => b.isNvmm = isNvmm) p)
    (hn : p.next videoInfoFromCaps e = some q) : CapsKeep videoInfoFromCaps isNvmm q := by
  by_cases he : e = .videoPop
  · subst he
    exact video_pop_caps h hr hn
  · have k := caps_same he hn
    refine ⟨fun c hc => ?_, fun f b ht => ?_⟩
    · rw [k.mode, k.colors]
      exact h.caps c (k.caps ▸ hc)
    · rw [k.caps]
      rcases k.taken with hs | hs
      · exact h.taken f b (hs ▸ ht)
      · exact absurd (hs.symm.trans ht) (Option.some_ne_none _).symm

/-! ## The loop -/

structure FromDevice (b : AjaVideoBuff) (d : DeviceFrame) : Prop where
  have_signal : b.haveSignal = d.haveSignal
  time_stamp : b.timeStamp = d.timeStamp
  nvmm : b.isNvmm = d.isNvmm
  field_count : b.fieldCount = d.fieldCount
  time_code_valid : b.timeCodeValid = d.timeCodeValid
  time_code_low : b.timeCodeLow = d.timeCodeLow
  time_code_high : b.timeCodeHigh = d.timeCodeHigh
  transfer : b.transferCharacteristics = d.transferCharacteristics
  colorimetry : b.colorimetry = d.colorimetry
  full_range : b.fullRange = d.fullRange

def IsCapture (s : CaptureLoop) (b : AjaVideoBuff) : Prop :=
  ∃ c ∈ s.captures, c.buffer = b.buffer ∧
    FromDevice b (deviceFrame s.av s.isNvmm c.status c.transfer)

structure Described (videoInfoFromCaps : GstCaps → GstVideoInfo) (s : CaptureLoop) : Prop where
  records : RecordsKeep (IsCapture s) s.pipe
  caps : CapsKeep videoInfoFromCaps s.isNvmm s.pipe
  captures : s.captures.map (·.buffer) = s.pipe.video.captured

theorem IsCapture.nvmm {s : CaptureLoop} {b : AjaVideoBuff} (h : IsCapture s b) :
    b.isNvmm = s.isNvmm := by
  obtain ⟨_, -, -, hd⟩ := h
  exact hd.nvmm

theorem IsCapture.changed {s : CaptureLoop} (b : AjaVideoBuff) (changed : Bool)
    (h : IsCapture s b) : IsCapture s { b with droppedChanged := changed } := by
  obtain ⟨c, hc, hb, hd⟩ := h
  refine ⟨c, hc, hb, ?_⟩
  obtain ⟨h₁, h₂, h₃, h₄, h₅, h₆, h₇, h₈, h₉, h₁₀⟩ := hd
  exact ⟨h₁, h₂, h₃, h₄, h₅, h₆, h₇, h₈, h₉, h₁₀⟩

theorem IsCapture.grows {s t : CaptureLoop} (hav : t.av = s.av) (hnv : t.isNvmm = s.isNvmm)
    (hc : ∀ c ∈ s.captures, c ∈ t.captures) {b : AjaVideoBuff} (h : IsCapture s b) :
    IsCapture t b := by
  obtain ⟨c, hmem, hb, hd⟩ := h
  exact ⟨c, hc c hmem, hb, by rw [hav, hnv]; exact hd⟩

/-- A step of the loop is a transfer, another step of the pipeline, or none of its steps. -/
inductive LoopStep (videoInfoFromCaps : GstCaps → GstVideoInfo) (s t : CaptureLoop) : Prop where
  | silent (pipe : t.pipe = s.pipe) (captures : t.captures = s.captures)
  | step (e : AjaCapturePipeline.Event) (next : s.pipe.next videoInfoFromCaps e = some t.pipe)
      (other : ∀ d, e ≠ .capture d) (captures : t.captures = s.captures)
  | transfer (st : DeviceStatus) (tr : Transfer)
      (next : s.pipe.next videoInfoFromCaps (.capture (deviceFrame s.av s.isNvmm st tr)) =
        some t.pipe)
      (captures : t.captures = s.captures ++ [⟨s.pipe.nextBuffer, st, tr⟩])

theorem loop_step {s t : CaptureLoop} {e : AjaCaptureLoop.Event}
    (hs : s.next videoInfoFromCaps e = some t) :
    t.av = s.av ∧ t.isNvmm = s.isNvmm ∧ LoopStep videoInfoFromCaps s t := by
  cases e with
  | status st =>
    obtain ⟨-, -, p, hp, rfl⟩ := status_step_eq hs
    exact ⟨rfl, rfl, .step _ hp nofun rfl⟩
  | quitSeen =>
    obtain ⟨-, -, p, hp, rfl⟩ := quit_seen_eq hs
    exact ⟨rfl, rfl, .step _ hp nofun rfl⟩
  | transfer tr =>
    obtain ⟨st, -, -, p, hp, rfl⟩ := transfer_step_eq hs
    exact ⟨rfl, rfl, .transfer st tr hp rfl⟩
  | fillAudio =>
    obtain ⟨_, -, rfl⟩ := fill_audio_eq hs
    exact ⟨rfl, rfl, .silent rfl rfl⟩
  | worker e =>
    obtain ⟨p, hp, rfl, ⟨_, _, -, he⟩ | ⟨_, -, he⟩⟩ := worker_step_cases hs <;>
      exact ⟨rfl, rfl, .step _ hp (by rintro d rfl; cases he) rfl⟩
  | videoOut =>
    obtain ⟨_, _, _, _, -, -, rfl⟩ := video_out_eq hs
    exact ⟨rfl, rfl, .silent rfl rfl⟩
  | audioOut =>
    obtain ⟨_, -, -, rfl⟩ := audio_out_eq hs
    exact ⟨rfl, rfl, .silent rfl rfl⟩
  | noFrame =>
    obtain ⟨_, -, -, ⟨-, p, hp, rfl⟩ | ⟨-, -, -, rfl⟩ | ⟨-, -, rfl⟩⟩ := no_frame_cases hs
    · exact ⟨rfl, rfl, .step _ hp nofun rfl⟩
    · exact ⟨rfl, rfl, .silent rfl rfl⟩
    · exact ⟨rfl, rfl, .silent rfl rfl⟩
  | lossVideo =>
    obtain ⟨-, p, hp, rfl⟩ := loss_video_eq hs
    exact ⟨rfl, rfl, .step _ hp nofun rfl⟩
  | lossAudio =>
    obtain ⟨-, p, hp, rfl⟩ := loss_audio_eq hs
    exact ⟨rfl, rfl, .step _ hp nofun rfl⟩
  | other e =>
    obtain ⟨he, p, hp, rfl⟩ := other_step_eq hs
    exact ⟨rfl, rfl, .step _ hp (by rintro d rfl; cases he) rfl⟩
  | setLastFrame | setGlobalQuit =>
    obtain rfl := Option.some.inj hs
    exact ⟨rfl, rfl, .silent rfl rfl⟩

theorem described_next {s t : CaptureLoop} {e : AjaCaptureLoop.Event}
    (h : Described videoInfoFromCaps s) (hs : s.next videoInfoFromCaps e = some t) :
    Described videoInfoFromCaps t := by
  obtain ⟨hav, hnv, hstep⟩ := loop_step hs
  have nvmm : RecordsKeep (fun b => b.isNvmm = s.isNvmm) s.pipe := h.records.mono fun b => (·.nvmm)
  cases hstep with
  | silent hpipe hc =>
    have grow : ∀ b, IsCapture s b → IsCapture t b := fun b hb => hb.grows hav hnv (by simp [hc])
    refine ⟨?_, ?_, ?_⟩
    · rw [hpipe]
      exact h.records.mono grow
    · rw [hpipe, hnv]
      exact h.caps
    · rw [hpipe, hc]
      exact h.captures
  | step e hn hother hc =>
    have grow : ∀ b, IsCapture s b → IsCapture t b := fun b hb => hb.grows hav hnv (by simp [hc])
    refine ⟨?_, ?_, ?_⟩
    · exact records_keep_next (fun b c hb => hb.changed b c) (h.records.mono grow) hn
        fun d hd => absurd hd (hother d)
    · rw [hnv]
      exact caps_keep_next h.caps nvmm hn
    · rw [hc, (AjaBufferOwnership.captured_kept hn hother).1]
      exact h.captures
  | transfer st tr hn hc =>
    have grow : ∀ b, IsCapture s b → IsCapture t b := fun b hb =>
      hb.grows hav hnv fun c hmem => by rw [hc]; exact List.mem_append_left _ hmem
    refine ⟨?_, ?_, ?_⟩
    · refine records_keep_next (fun b c hb => hb.changed b c) (h.records.mono grow) hn
        fun d hd => ?_
      cases hd
      refine ⟨⟨s.pipe.nextBuffer, st, tr⟩, by simp [hc], rfl, ?_⟩
      rw [hav, hnv]
      constructor <;> rfl
    · rw [hnv]
      exact caps_keep_next h.caps nvmm hn
    · obtain ⟨-, ht⟩ := capture_eq hn
      rw [hc, ht, List.map_append, h.captures]
      rfl

theorem described {s : CaptureLoop} (h : Reachable (captureLoop videoInfoFromCaps) s) :
    Described videoInfoFromCaps s := by
  refine h.invariant (fun i hi => ⟨⟨?_, ?_, ?_, ?_⟩, ⟨?_, ?_⟩, ?_⟩) fun _ _ _ hd _ hn =>
    described_next hd hn
  · simp [hi.pipe.pc, frameInHand]
  · simp [hi.pipe.pc]
  · simp [hi.pipe.no_frames]
  · simp [hi.pipe.video_taken]
  · simp [hi.no_caps]
  · simp [hi.pipe.video_taken]
  · simp [hi.captures, hi.pipe.video, Trail.empty]

theorem capture_time_code_again (answer : Option Rp188) (b c : AjaVideoBuff)
    (hv : b.timeCodeValid = (captureTimeCode answer c).timeCodeValid)
    (hl : b.timeCodeLow = (captureTimeCode answer c).timeCodeLow)
    (hh : b.timeCodeHigh = (captureTimeCode answer c).timeCodeHigh) :
    captureTimeCode answer b = b := by
  cases b
  cases answer with
  | none => simp_all [captureTimeCode]
  | some t =>
    by_cases ht : t.fDBB ≠ 0xffffffff ∨ t.fLo ≠ 0xffffffff ∨ t.fHi ≠ 0xffffffff <;>
      simp_all [captureTimeCode]

/-! ## The calls of `got_frame` -/

/-- A call, with the record it was given and the source as it found it. -/
structure GotFrame where
  record : AjaVideoBuff
  src : GstAjaVideoSrc
  env : CaptureEnv
  deriving DecidableEq, Repr

def GotFrame.verdict (g : GotFrame) (mode : GstAjaMode) : FrameVerdict :=
  (g.src.gotFramePrepare mode g.env (some g.record)).2

/-- The loop together with all calls so far, which it does not look at. -/
structure LoopRun where
  loop : CaptureLoop
  calls : List GotFrame

def noted (p : Pipeline) : AjaCapturePipeline.Event → List GotFrame
  | .gotFrame env =>
    match p.pc with
    | .gotFrame v _ => [⟨v, p.videosrc, env⟩]
    | _ => []
  | _ => []

def LoopRun.next (videoInfoFromCaps : GstCaps → GstVideoInfo) (r : LoopRun)
    (e : AjaCaptureLoop.Event) : Option LoopRun :=
  (r.loop.next videoInfoFromCaps e).map fun s =>
    ⟨s, r.calls ++ (pipelineSteps r.loop e).flatMap (noted r.loop.pipe)⟩

def loopRun (videoInfoFromCaps : GstCaps → GstVideoInfo) :
    Machine LoopRun AjaCaptureLoop.Event where
  initial r := Begun r.loop ∧ r.calls = []
  next := LoopRun.next videoInfoFromCaps

theorem run_refines :
    Refines (loopRun videoInfoFromCaps) (captureLoop videoInfoFromCaps) LoopRun.loop
      (fun _ e => [e]) where
  initial _ h := h.1
  step r e t h := by
    obtain ⟨s, hs, rfl⟩ := Option.map_eq_some_iff.mp h
    exact Option.bind_eq_some_iff.mpr ⟨s, hs, rfl⟩

/-- The times of an entry are those that a call found for its record, up to the mark that
frames were dropped before it. -/
def Timed (calls : List GotFrame) (mode : GstAjaMode) (f : AjaCaptureVideoFrame)
    (b : AjaVideoBuff) : Prop :=
  ∃ g ∈ calls, (∃ changed, b = { g.record with droppedChanged := changed }) ∧
    g.verdict mode = .queue f.captureTime f.streamTime (!f.firstBuffer)

structure TimesKept (calls : List GotFrame) (p : Pipeline) : Prop where
  queueing : ∀ v a ts st had, p.pc = .queueFrame v a ts st had →
    ∃ g ∈ calls, g.record = v ∧ g.verdict p.mode = .queue ts st had
  queued : ∀ f ∈ p.videosrc.currentFrames, ∀ b ∈ f.videoBuff,
    Timed calls p.mode f b ∧ f.mode = p.videosrc.modeEnum
  taken : ∀ f b, p.videoTaken = some (f, b) →
    Timed calls p.mode f b ∧ f.mode = p.videosrc.modeEnum

theorem TimesKept.mono {calls : List GotFrame} (h : TimesKept calls p) (more : List GotFrame) :
    TimesKept (calls ++ more) p := by
  have grow : ∀ f b, Timed calls p.mode f b → Timed (calls ++ more) p.mode f b :=
    fun f b ⟨g, hg, hb⟩ => ⟨g, List.mem_append_left _ hg, hb⟩
  refine ⟨fun v a ts st had hpc => ?_, fun f hf b hb => ?_, fun f b ht => ?_⟩
  · obtain ⟨g, hg, hv⟩ := h.queueing v a ts st had hpc
    exact ⟨g, List.mem_append_left _ hg, hv⟩
  · exact (h.queued f hf b hb).imp_left (grow f b)
  · exact (h.taken f b ht).imp_left (grow f b)

theorem prepare_times {calls : List GotFrame} {mode : GstAjaMode} {src : GstAjaVideoSrc}
    (env : CaptureEnv) (v : Option AjaVideoBuff)
    (h : ∀ f ∈ src.currentFrames, ∀ b ∈ f.videoBuff,
      Timed calls mode f b ∧ f.mode = src.modeEnum) :
    ∀ f ∈ (src.gotFramePrepare mode env v).1.currentFrames, ∀ b ∈ f.videoBuff,
      Timed calls mode f b ∧ f.mode = (src.gotFramePrepare mode env v).1.modeEnum := by
  intro f hf b hb
  rw [(prepare_settings src mode env v).modeEnum]
  rw [prepare_frames] at hf
  rcases List.mem_append.mp hf with hf | hf
  · exact h f hf b hb
  · split at hf
    · cases hf
    · rw [markers_carry_nothing hf] at hb
      cases hb

theorem times_queue_frame {calls : List GotFrame} {v : AjaVideoBuff} {a : AjaAudioBuff}
    {ts st : ℕ} {had : Bool} (h : TimesKept calls p) (hpc : p.pc = .queueFrame v a ts st had) :
    ∀ f ∈ (p.videosrc.queueFrame v ts st had).currentFrames, ∀ b ∈ f.videoBuff,
      Timed calls p.mode f b ∧ f.mode = p.videosrc.modeEnum := by
  intro f hf b hb
  unfold GstAjaVideoSrc.queueFrame at hf
  rcases List.mem_append.mp hf with hf | hf
  · obtain ⟨g, hg, hsame⟩ := write_back_entries hf
    have hmem : g ∈ p.videosrc.currentFrames := by
      rw [← DropOldest.popped_append_left p.videosrc.queueSize p.videosrc.currentFrames]
      exact List.mem_append_right _ hg
    rw [hsame] at hb
    rw [hsame]
    exact h.queued g hmem b hb
  · obtain rfl := List.mem_singleton.mp hf
    obtain ⟨g, hg, rfl, hverdict⟩ := h.queueing v a ts st had hpc
    cases hb
    exact ⟨⟨g, hg, ⟨_, rfl⟩, by simpa using hverdict⟩, rfl⟩

theorem negotiate_mode {src : GstAjaVideoSrc} {f : AjaCaptureVideoFrame} {b : AjaVideoBuff}
    {caps : Option CapsInForce} {r : GstAjaVideoSrc × Option CapsInForce}
    (hr : src.negotiate videoInfoFromCaps f b caps = some r) (hf : f.mode = src.modeEnum) :
    r.1.modeEnum = src.modeEnum := by
  unfold GstAjaVideoSrc.negotiate at hr
  split at hr
  case isTrue =>
    obtain ⟨r', hr', rfl⟩ := Option.map_eq_some_iff.mp hr
    obtain ⟨mode, -, rfl⟩ := Option.map_eq_some_iff.mp hr'
    exact hf
  case isFalse =>
    cases hr
    rfl

theorem times_video_pop {calls : List GotFrame} (h : TimesKept calls p)
    (hn : p.videoPop videoInfoFromCaps = some q) : TimesKept calls q := by
  obtain ⟨f, src, hnone, -, hsrc, hentry⟩ := video_pop_entry hn
  have hqueued := h.queued
  rw [hsrc] at hqueued
  have hrest : ∀ g ∈ src.currentFrames, ∀ b ∈ g.videoBuff,
      Timed calls p.mode g b ∧ g.mode = src.modeEnum := fun g hg b hb =>
    hqueued g (List.mem_cons_of_mem _ hg) b hb
  rcases hentry with ⟨-, rfl⟩ | ⟨b, r, hb, hneg, rfl⟩
  · exact ⟨h.queueing, hrest, fun g b ht => by simp [hnone] at ht⟩
  · obtain ⟨htimed, hmode⟩ := hqueued f List.mem_cons_self b hb
    have hsame := negotiate_mode hneg hmode
    refine ⟨h.queueing, fun g hg c hc => ?_, fun g c ht => ?_⟩
    · rw [negotiate_some hneg] at hg
      exact hsame ▸ hrest g hg c hc
    · cases ht
      exact ⟨htimed, hmode.trans hsame.symm⟩

theorem times_kept_next {calls : List GotFrame} {e : AjaCapturePipeline.Event}
    (h : TimesKept calls p) (hn : p.next videoInfoFromCaps e = some q) :
    TimesKept (calls ++ noted p e) q := by
  by_cases hgot : ∃ env, e = .gotFrame env
  · obtain ⟨env, rfl⟩ := hgot
    obtain ⟨v, a, verdict, hpc, hverdict, pc, video, rfl, hv⟩ := got_frame_cases hn
    have hmore := h.mono (noted p (.gotFrame env))
    have hprepared := prepare_times env (some v) hmore.queued
    refine ⟨fun v' a' ts st had hq => ?_, hprepared, fun f b ht => ?_⟩
    · rcases hv with ⟨-, rfl, -⟩ | ⟨-, rfl, -⟩ | ⟨ts', st', had', rfl, rfl, -⟩
      · cases hq
      · cases hq
      · cases hq
        refine ⟨⟨v, p.videosrc, env⟩, ?_, rfl, hverdict⟩
        simp [noted, hpc]
    · rw [(prepare_settings p.videosrc p.mode env (some v)).modeEnum]
      exact hmore.taken f b ht
  have hsame : noted p e = [] := by
    cases e with
    | gotFrame env => exact absurd ⟨env, rfl⟩ hgot
    | _ => rfl
  rw [hsame, List.append_nil]
  by_cases ha : onAudioSide e = true
  · have k := video_kept ha hn
    refine ⟨fun v a ts st had hpc => ?_, by rw [k.videosrc, k.mode]; exact h.queued,
      by rw [k.taken, k.videosrc, k.mode]; exact h.taken⟩
    rcases k.pc with hsame | ⟨-, hnone⟩
    · rw [k.mode]
      exact h.queueing v a ts st had (hsame ▸ hpc)
    · rw [hpc] at hnone
      cases hnone
  cases e with
  | status ac =>
    obtain ⟨-, rfl⟩ := status_eq hn
    exact ⟨h.queueing, h.queued, h.taken⟩
  | capture d =>
    obtain ⟨-, rfl⟩ := capture_eq hn
    exact ⟨nofun, h.queued, h.taken⟩
  | nullVideo =>
    obtain ⟨-, rfl | rfl⟩ := null_video_cases hn
    · refine ⟨nofun, prepare_times (clockAt 0) none h.queued, fun f b ht => ?_⟩
      rw [show p.videosrc.loseSignal.modeEnum = p.videosrc.modeEnum from
        (lose_signal_settings p.videosrc).modeEnum]
      exact h.taken f b ht
    · exact ⟨nofun, h.queued, h.taken⟩
  | videoCallback =>
    obtain ⟨v, a, hpc, ⟨-, rfl⟩ | ⟨-, rfl⟩⟩ := video_callback_cases hn <;>
      exact ⟨nofun, h.queued, h.taken⟩
  | gotFrame env => exact absurd ⟨env, rfl⟩ hgot
  | queueFrame =>
    obtain ⟨v, a, ts, st, had, hpc, ⟨-, rfl⟩ | ⟨-, rfl⟩⟩ := queue_frame_cases hn
    · exact ⟨nofun, h.queued, h.taken⟩
    · exact ⟨nofun, times_queue_frame h hpc, h.taken⟩
  | videoPop => exact times_video_pop h hn
  | videoReturn =>
    obtain ⟨f, b, -, rfl⟩ := video_return_eq hn
    exact ⟨h.queueing, h.queued, fun _ _ ht => absurd ht.symm (Option.some_ne_none _)⟩
  | videoUnlock | videoStartReset =>
    obtain rfl := Option.some.inj hn
    exact ⟨h.queueing, h.queued, h.taken⟩
  | videoUnlockStop =>
    obtain rfl := Option.some.inj hn
    exact ⟨h.queueing, fun f hf => absurd hf List.not_mem_nil, h.taken⟩
  | videoStop =>
    obtain ⟨-, rfl⟩ := video_stop_eq hn
    exact ⟨h.queueing, fun f hf => absurd hf List.not_mem_nil, h.taken⟩
  | _ => exact absurd rfl ha

theorem pipeline_steps_cases (s : CaptureLoop) (e : AjaCaptureLoop.Event) :
    pipelineSteps s e = [] ∨ ∃ e', pipelineSteps s e = [e'] := by
  cases e with
  | transfer t =>
    unfold pipelineSteps
    cases s.pc <;> simp
  | noFrame => cases h : s.lastFrame <;> simp [pipelineSteps, h]
  | _ => simp [pipelineSteps]

theorem times_kept {r : LoopRun} (h : Reachable (loopRun videoInfoFromCaps) r) :
    TimesKept r.calls r.loop.pipe := by
  refine h.invariant (I := fun r => TimesKept r.calls r.loop.pipe) (fun i hi => ?_)
    fun a e b ha _ hn => ?_
  · obtain ⟨hi, -⟩ := hi
    exact ⟨by simp [hi.pipe.pc], by simp [hi.pipe.no_frames], by simp [hi.pipe.video_taken]⟩
  · obtain ⟨s, hs, rfl⟩ := Option.map_eq_some_iff.mp hn
    have hrun := loop_refines.step a.loop e s hs
    rcases pipeline_steps_cases a.loop e with hnone | ⟨e', hone⟩
    · rw [hnone] at hrun
      obtain hp : a.loop.pipe = s.pipe := Option.some.inj hrun
      simpa [hnone, hp] using ha
    · rw [hone] at hrun
      obtain ⟨q, hq, hlast⟩ := Option.bind_eq_some_iff.mp hrun
      obtain rfl : q = s.pipe := Option.some.inj hlast
      simpa [hone] using times_kept_next ha hq

theorem record_of_own_iteration {s : CaptureLoop} {f : AjaCaptureVideoFrame} {b : AjaVideoBuff}
    (h : Reachable (captureLoop videoInfoFromCaps) s) (ht : s.pipe.videoTaken = some (f, b)) :
    (s.captures.map (·.buffer)).Nodup ∧ ∃ c ∈ s.captures, c.buffer = b.buffer ∧
      haveSignal s.av c.status.inputVideoFormat = true ∧
      b.timeStamp = c.transfer.frameTime ∧
      (∃ mode, getModeRaw f.mode = some mode ∧ s.pipe.caps =
        some (capsOf videoInfoFromCaps mode s.isNvmm
          (vpidColors s.av.mVideoSource c.status.vpidA))) ∧
      ∀ masks isValid mode, timeCodeMeta masks isValid mode b =
        timeCodeMeta masks isValid mode
          (captureTimeCode c.transfer.timeCode { b with fieldCount := c.transfer.fieldCount }) := by
  have hd := described h
  obtain ⟨⟨c, hc, hbuf, hdev⟩, hsig⟩ := hd.records.taken f b ht
  obtain ⟨mode, hmode, hcaps⟩ := hd.caps.taken f b ht
  have hcolors : buffColors b = vpidColors s.av.mVideoSource c.status.vpidA := by
    rw [buffColors, hdev.transfer, hdev.colorimetry, hdev.full_range]
    rfl
  refine ⟨?_, c, hc, hbuf, hdev.have_signal.symm.trans hsig, hdev.time_stamp, ⟨mode, hmode, ?_⟩, ?_⟩
  · rw [hd.captures]
    exact (AjaBufferOwnership.reachable_invariant (loop_refines.reachable h)).video.nodup
  · rw [hcaps, hcolors]
  · intro masks isValid mode
    rw [show c.transfer.fieldCount = b.fieldCount from hdev.field_count.symm]
    rw [capture_time_code_again c.transfer.timeCode b c.transfer.record hdev.time_code_valid
      hdev.time_code_low hdev.time_code_high]

/-- In every reachable state the buffer that `create` is about to return was captured in one
iteration, which saw a format of the configured signal. Its time stamp, reference time and
discontinuity are what a call of `got_frame` found for this very record, with the time of the
transfer in it; the caps in force are those of the source's mode with the colours of the
payload identifier, and field and timecode are the ones of the transfer. -/
theorem described_by_own_frame {r : LoopRun} {f : AjaCaptureVideoFrame} {b : AjaVideoBuff}
    (h : Reachable (loopRun videoInfoFromCaps) r) (ht : r.loop.pipe.videoTaken = some (f, b)) :
    let out := r.loop.pipe.videosrc.output r.loop.pipe.mode f b
    (r.loop.captures.map (·.buffer)).Nodup ∧ ∃ c ∈ r.loop.captures, c.buffer = out.buffer ∧
      haveSignal r.loop.av c.status.inputVideoFormat = true ∧
      (∃ g ∈ r.calls, g.record.buffer = out.buffer ∧
        g.record.timeStamp = c.transfer.frameTime ∧ ∃ had,
          g.verdict r.loop.pipe.mode = .queue out.timestamp out.referenceTime had ∧
            out.discont = (!had || b.droppedChanged)) ∧
      (∃ mode, getModeRaw r.loop.pipe.videosrc.modeEnum = some mode ∧ r.loop.pipe.caps =
        some (capsOf videoInfoFromCaps mode r.loop.isNvmm
          (vpidColors r.loop.av.mVideoSource c.status.vpidA))) ∧
      ∀ masks isValid mode, timeCodeMeta masks isValid mode b =
        timeCodeMeta masks isValid mode
          (captureTimeCode c.transfer.timeCode { b with fieldCount := c.transfer.fieldCount }) := by
  obtain ⟨hnodup, c, hc, hbuf, hsig, htime, ⟨mode, hget, hcaps⟩, hcode⟩ :=
    record_of_own_iteration (run_refines.reachable h) ht
  obtain ⟨⟨g, hg, ⟨changed, rfl⟩, hverdict⟩, hmode⟩ := (times_kept h).taken f _ ht
  refine ⟨hnodup, c, hc, hbuf, hsig, ⟨g, hg, rfl, htime, !f.firstBuffer, hverdict, ?_⟩,
    ⟨mode, hmode ▸ hget, hcaps⟩, hcode⟩
  rw [Bool.not_not]
  rfl

theorem described_by_own_frame_first : ∃ r : LoopRun, ∃ f b,
    r.loop.pipe.videoTaken = some (f, b) ∧ b.colorimetry = 2 ∧
      (r.loop.captures.map (·.buffer)).Nodup ∧ ∃ c ∈ r.loop.captures, c.buffer = b.buffer ∧
        haveSignal r.loop.av c.status.inputVideoFormat = true ∧
        ∃ g ∈ r.calls, g.record.buffer = b.buffer ∧
          g.record.timeStamp = c.transfer.frameTime ∧ ∃ had,
            g.verdict r.loop.pipe.mode = .queue f.captureTime f.streamTime had := by
  obtain ⟨r, h, hp⟩ := reachable_of_trace (m := loopRun capsVideoInfo) (i := ⟨begunLoop, []⟩)
    ⟨begun_loop, rfl⟩ (l := frameRound 0 ++ [.other .videoPop, .other .videoPop])
    (p := fun r => r.loop.pipe.videoTaken.any fun t => t.2.colorimetry == 2) (by decide)
  obtain ⟨⟨f, b⟩, ht, hb⟩ := (Option.any_eq_true _ _).mp hp
  obtain ⟨hnodup, c, hc, hbuf, hsig, ⟨g, hg, hrec, htime, had, hverdict, -⟩, -⟩ :=
    described_by_own_frame h ht
  exact ⟨r, f, b, ht, by simpa using hb, hnodup, c, hc, hbuf, hsig, g, hg, hrec, htime, had,
    hverdict⟩

end AjaFrameOrigin
