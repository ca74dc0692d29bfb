import NTV2Gst.TransitionRuns
import NTV2Gst.AjaVideoSrc
import Mathlib.Data.List.Chain
import Mathlib.Tactic.GCongr
import Mathlib.Tactic.Ring

/-!
# Timestamps of queued frames

The calls of `got_frame` between two starts of the streams, with everything else that
may happen to the element in between. The mapping from stream time to time stamps may
be fitted, slewed or replaced at every call; as long as it is not set back at once, the
time stamps do not go backwards.
-/
namespace AjaTimestamps

open TransitionRuns GstClockMath GstAjaModes AjaVideoSrc

/-! ## Calls and what they queue -/

/-- A queued frame. `excused` tells whether the mapping was set back at once since the frame
queued before it. -/
structure Stamped where
  time : ℕ
  marked : Bool
  excused : Bool
  deriving DecidableEq, Repr

structure FrameRun where
  src : GstAjaVideoSrc
  lastFrame : Option ℕ
  excused : Bool
  queued : List Stamped
  deriving DecidableEq, Repr

/-- `flushing` is what the call finds when it has the lock. -/
inductive Call where
  | gotFrame (env : CaptureEnv) (videoBuff : Option AjaVideoBuff) (flushing : Bool)
  | others (src' : GstAjaVideoSrc)
  deriving DecidableEq, Repr

/-- The other threads and the application write the fields that the capture thread does
not have for itself. -/
def othersWrite (src src' : GstAjaVideoSrc) : GstAjaVideoSrc :=
  { src with
    modeEnum := src'.modeEnum
    transferCharacteristics := src'.transferCharacteristics
    colorimetry := src'.colorimetry
    fullRange := src'.fullRange
    info := src'.info
    flushing := src'.flushing
    currentFrames := src'.currentFrames
    queueSize := src'.queueSize
    outputStreamTime := src'.outputStreamTime
    skipFirstTime := src'.skipFirstTime
    skippedLast := src'.skippedLast
    skippedOverall := src'.skippedOverall
    skipFromTimestamp := src'.skipFromTimestamp
    skipToTimestamp := src'.skipToTimestamp }

def restarts (src : GstAjaVideoSrc) (b : AjaVideoBuff) : Bool :=
  b.haveSignal && src.signalState != .available

def anchoredFor (src : GstAjaVideoSrc) (mode : GstAjaMode) (env : CaptureEnv)
    (b : AjaVideoBuff) : GstAjaVideoSrc :=
  (src.anchor mode (env.clock.capturePipeline (some b)) b.frameNumber).1

def sampledFor (src : GstAjaVideoSrc) (mode : GstAjaMode) (env : CaptureEnv)
    (b : AjaVideoBuff) : GstAjaVideoSrc :=
  (anchoredFor src mode env b).sample (env.clock.capturePipeline (some b))
    ((anchoredFor src mode env b).streamTime mode b.frameNumber) env.regression

/-- A pending mapping that gives the frame an earlier time replaces the current one at once,
because it is at least 50 milliseconds off or the frame follows a drop. -/
def setsBack (src : GstAjaVideoSrc) (mode : GstAjaMode) (env : CaptureEnv) (b : AjaVideoBuff) :
    Bool :=
  let a := sampledFor src mode env b
  let s := (anchoredFor src mode env b).streamTime mode b.frameNumber
  b.haveSignal && !src.skipsFrame mode env b && a.nextTimeMappingPending &&
    (b.droppedChanged || 50000000 ≤ a.mappingDiff s) &&
    clockAdjustWithCalibration s a.nextTimeMapping <
      clockAdjustWithCalibration s a.currentTimeMapping

def stamp (f : AjaCaptureVideoFrame) (excused : Bool) : Stamped :=
  ⟨f.captureTime, f.firstBuffer || f.videoBuff.any (·.droppedChanged), excused⟩

def FrameRun.gotFrame (s : FrameRun) (mode : GstAjaMode) (env : CaptureEnv)
    (videoBuff : Option AjaVideoBuff) (flushing : Bool) : FrameRun :=
  let r := s.src.gotFrame mode env videoBuff flushing
  let back := s.excused || videoBuff.any (setsBack s.src mode env)
  { src := r.1
    lastFrame := (videoBuff.map (·.frameNumber)).or s.lastFrame
    excused := if r.2.isSome then false else back
    queued := s.queued ++ (r.2.map (stamp · back)).toList }

def frames (mode : GstAjaMode) : Machine FrameRun Call where
  initial s := s.src.startStreams = s.src ∧ s.lastFrame = none ∧ s.queued = []
  next s
    | .gotFrame env videoBuff flushing => some (s.gotFrame mode env videoBuff flushing)
    | .others src' => some { s with src := othersWrite s.src src' }

def exactTime (mode : GstAjaMode) (discontTime discontFrameNumber n : ℕ) : ℕ :=
  discontTime + (n - discontFrameNumber) * (mode.fpsD * second) / mode.fpsN

def frameTime (src : GstAjaVideoSrc) (mode : GstAjaMode) (env : CaptureEnv) (b : AjaVideoBuff) :
    ℕ :=
  exactTime mode (anchoredFor src mode env b).discontTime
    (anchoredFor src mode env b).discontFrameNumber b.frameNumber

def TimesFit (src : GstAjaVideoSrc) (mode : GstAjaMode) (env : CaptureEnv) (b : AjaVideoBuff) :
    Prop :=
  let time := frameTime src mode env b
  time < 2 ^ 64 ∧ src.currentTimeMapping.image time < 2 ^ 64 ∧
    (src.gotFramePrepare mode env (some b)).1.currentTimeMapping.image time < 2 ^ 64

/-- The cached caps have a frame rate; one of their frames lasts at most nine of the mode. -/
def RateKnown (info : GstVideoInfo) (mode : GstAjaMode) : Prop :=
  0 < info.fpsN ∧ info.fpsD * mode.fpsN ≤ 9 * (mode.fpsD * info.fpsN)

def SlewKnown (src : GstAjaVideoSrc) (mode : GstAjaMode) (env : CaptureEnv) (b : AjaVideoBuff) :
    Prop :=
  src.skipsFrame mode env b = false →
    (sampledFor src mode env b).nextTimeMappingPending = true → RateKnown src.info mode

/-- Frame numbers grow, the clock is valid, a regression result has a rate of at least one
half, and time stamps are asked for. -/
def Assumed (mode : GstAjaMode) (s : FrameRun) : Call → Prop
  | .gotFrame env videoBuff _ =>
    s.src.outputStreamTime = false ∧ env.clock.nowPipeline < clockTimeNone ∧
      (∀ m ∈ env.regression, m.Forward) ∧
      ∀ b ∈ videoBuff, b.frameNumber < 2 ^ 64 ∧ (∀ n ∈ s.lastFrame, n < b.frameNumber) ∧
        (b.haveSignal = true → TimesFit s.src mode env b)
  | .others _ => True

/-- The caps are known when a mapping is pending, and a frame on which the signal comes back
after others were queued is queued itself. -/
def Regular (mode : GstAjaMode) (s : FrameRun) : Call → Prop
  | .gotFrame env videoBuff flushing =>
    ∀ b ∈ videoBuff, (b.haveSignal = true → SlewKnown s.src mode env b) ∧
      (restarts s.src b = true → s.queued = [] ∨
        (s.src.gotFrame mode env (some b) flushing).2.isSome = true)
  | .others _ => True

def RegularAssumed (mode : GstAjaMode) (s : FrameRun) (e : Call) : Prop :=
  Assumed mode s e ∧ Regular mode s e

def Monotone (qs : List Stamped) : Prop :=
  qs.IsChain fun x y => x.time ≤ y.time ∨ y.marked = true

def MonotoneUnlessExcused (qs : List Stamped) : Prop :=
  qs.IsChain fun x y => x.time ≤ y.time ∨ y.marked = true ∨ y.excused = true

/-! ## Stream time -/

theorem stream_time_exact {mode : GstAjaMode} (hm : RateValid mode.fpsN mode.fpsD)
    {t k n : ℕ} (hn : n < 2 ^ 64) (hk : k ≤ n) (hfit : exactTime mode t k n < 2 ^ 64) :
    streamTime mode t k n = exactTime mode t k n := by
  unfold exactTime at hfit ⊢
  have hscaled : (n - k) * (mode.fpsD * second) / mode.fpsN < 2 ^ 64 := by omega
  rw [streamTime, u64_sub_of_le hn hk, uint64_scale_of_lt hm.num_pos hscaled, u64_add_of_lt hfit]

theorem millisecond_le_duration {mode : GstAjaMode} (hm : RateValid mode.fpsN mode.fpsD) :
    1000000 ≤ mode.fpsD * second / mode.fpsN := by
  rw [Nat.le_div_iff_mul_le hm.num_pos]
  have := hm.num_le
  unfold second
  omega

theorem slew_below_duration {mode : GstAjaMode} (hm : RateValid mode.fpsN mode.fpsD)
    {info : GstVideoInfo} (hi : RateKnown info mode) :
    2 * (uint64Scale (second / 20) info.fpsD info.fpsN + 1) ≤
      mode.fpsD * second / mode.fpsN := by
  obtain ⟨hpos, hnine⟩ := hi
  have hlong := millisecond_le_duration hm
  have hscale : uint64Scale (second / 20) info.fpsD info.fpsN ≤
      second / 20 * info.fpsD / info.fpsN := by
    simp [uint64Scale, hpos.ne']
  -- twenty slews against nine frames of the mode, both multiplied by the rates
  have htwenty : 20 * (second / 20 * info.fpsD / info.fpsN) <
      9 * (mode.fpsD * second / mode.fpsN + 1) := by
    have hslew := Nat.div_mul_le_self (second / 20 * info.fpsD) info.fpsN
    have hframe := Nat.lt_div_mul_add (a := mode.fpsD * second) hm.num_pos
    generalize second / 20 * info.fpsD / info.fpsN = x at hslew ⊢
    generalize mode.fpsD * second / mode.fpsN = d at hframe ⊢
    have hs : 20 * (second / 20 * info.fpsD) = info.fpsD * second := by unfold second; omega
    refine lt_of_mul_lt_mul_right (a := info.fpsN * mode.fpsN) ?_ (Nat.zero_le _)
    calc 20 * x * (info.fpsN * mode.fpsN) = 20 * (x * info.fpsN) * mode.fpsN := by ring
      _ ≤ 20 * (second / 20 * info.fpsD) * mode.fpsN := by gcongr
      _ = info.fpsD * mode.fpsN * second := by rw [hs]; ring
      _ ≤ 9 * (mode.fpsD * info.fpsN) * second := by gcongr
      _ = 9 * info.fpsN * (mode.fpsD * second) := by ring
      _ < 9 * info.fpsN * (d * mode.fpsN + mode.fpsN) :=
        Nat.mul_lt_mul_of_pos_left hframe (by omega)
      _ = 9 * (d + 1) * (info.fpsN * mode.fpsN) := by ring
  omega

theorem exact_time_step (mode : GstAjaMode) (t : ℕ) {k n n' : ℕ} (hk : k ≤ n) (hn : n < n') :
    exactTime mode t k n + mode.fpsD * second / mode.fpsN ≤ exactTime mode t k n' := by
  unfold exactTime
  have h := scaled_add_le (n - k) (n' - n) (mode.fpsD * second) mode.fpsN
  have hone : 1 * (mode.fpsD * second) / mode.fpsN ≤
      (n' - n) * (mode.fpsD * second) / mode.fpsN :=
    Nat.div_le_div_right (Nat.mul_le_mul_right _ (by omega))
  rw [Nat.one_mul] at hone
  rw [show n - k + (n' - n) = n' - k by omega] at h
  omega

/-! ## The mapping -/

structure Forwards (src : GstAjaVideoSrc) : Prop where
  current : src.currentTimeMapping.Forward
  next : src.nextTimeMapping.Forward

def Sampled (src : GstAjaVideoSrc) : Prop := src.windowFilled = true ∨ 1 ≤ src.windowFill

theorem store_sample_sampled (src : GstAjaVideoSrc) (t s : ℕ) :
    Sampled (src.storeSample t s) := by
  unfold GstAjaVideoSrc.storeSample
  simp only
  split
  · exact Or.inl rfl
  · exact Or.inr (Nat.le_add_left 1 _)

theorem store_sample_mappings (src : GstAjaVideoSrc) (t s : ℕ) :
    (src.storeSample t s).currentTimeMapping = src.currentTimeMapping ∧
      (src.storeSample t s).nextTimeMapping = src.nextTimeMapping := by
  unfold GstAjaVideoSrc.storeSample
  simp only
  split <;> exact ⟨rfl, rfl⟩

theorem store_sample_again {src : GstAjaVideoSrc} (h : Sampled src) (t s : ℕ) :
    ¬((src.storeSample t s).windowFilled = false ∧ (src.storeSample t s).windowFill = 1) := by
  unfold GstAjaVideoSrc.storeSample
  simp only
  split
  · simp
  · rcases h with h | h
    · simp [GstAjaVideoSrc.countSkip, h]
    · simp only [GstAjaVideoSrc.countSkip]
      omega

structure SampleStep (src a : GstAjaVideoSrc) : Prop where
  forwards : Forwards a
  sampled : Sampled a
  current : Sampled src → a.currentTimeMapping = src.currentTimeMapping

theorem sample_step {src : GstAjaVideoSrc} (hf : Forwards src)
    (hs : Sampled src ∨ src.windowSkipCount = 0) {t : ℕ} (ht : t < 2 ^ 64) (s : ℕ)
    {regression : Option Calibration} (hr : ∀ m ∈ regression, m.Forward) :
    SampleStep src (src.sample t s regression) := by
  unfold GstAjaVideoSrc.sample
  split
  case isFalse hskip =>
    exact ⟨⟨hf.current, hf.next⟩, hs.resolve_right hskip, fun _ => rfl⟩
  case isTrue =>
    obtain ⟨hcur, hnext⟩ := store_sample_mappings src t s
    have hsampled := store_sample_sampled src t s
    have hagain := fun h : Sampled src => store_sample_again h t s
    unfold GstAjaVideoSrc.takeSample
    generalize src.storeSample t s = b at hcur hnext hsampled hagain
    have start : SampleStep src (b.startMapping t s) := by
      unfold GstAjaVideoSrc.startMapping
      split
      case isTrue hone =>
        have first : (⟨s, t, 1, 1⟩ : Calibration).Forward := ⟨Nat.one_pos, by simp, ht⟩
        exact ⟨⟨first, hnext ▸ hf.next⟩, hsampled, fun h => absurd hone (hagain h)⟩
      case isFalse => exact ⟨⟨hcur ▸ hf.current, hnext ▸ hf.next⟩, hsampled, fun _ => hcur⟩
    unfold GstAjaVideoSrc.fitMapping
    split
    case h_1 m hm =>
      exact ⟨⟨start.forwards.current, hr m rfl⟩, start.sampled, start.current⟩
    case h_2 => exact start

def slewed (a : GstAjaVideoSrc) (s : ℕ) : Calibration :=
  { a.currentTimeMapping with
    xbase := s
    b := if clockAdjustWithCalibration s a.currentTimeMapping <
        clockAdjustWithCalibration s a.nextTimeMapping then
      clockAdjustWithCalibration s a.currentTimeMapping + a.maxDiff
    else clockAdjustWithCalibration s a.currentTimeMapping - a.maxDiff }

theorem apply_pending_cases (a : GstAjaVideoSrc) (s : ℕ) (discont : Bool) :
    (a.nextTimeMappingPending = false ∧ a.applyPending s discont = a) ∨
    (a.nextTimeMappingPending = true ∧
      (discont = true ∨ a.mappingDiff s ≤ a.maxDiff ∨ 50000000 ≤ a.mappingDiff s) ∧
      a.applyPending s discont =
        { a with currentTimeMapping := a.nextTimeMapping, nextTimeMappingPending := false }) ∨
    (a.nextTimeMappingPending = true ∧ a.maxDiff < a.mappingDiff s ∧
      a.applyPending s discont = { a with currentTimeMapping := slewed a s }) := by
  unfold GstAjaVideoSrc.applyPending
  by_cases hp : a.nextTimeMappingPending = true
  · simp only [hp, if_true]
    split
    case isTrue h => exact Or.inr (Or.inr ⟨trivial, h.2.1, rfl⟩)
    case isFalse h =>
      refine Or.inr (Or.inl ⟨trivial, ?_, rfl⟩)
      by_contra hno
      simp only [not_or, Bool.not_eq_true] at hno
      exact h ⟨hno.1, by omega, by omega⟩
  · simp only [hp, Bool.false_eq_true, if_false]
    exact Or.inl ⟨by simp, trivial⟩

theorem slewed_base {a : GstAjaVideoSrc} (hf : Forwards a) {s : ℕ}
    (h : a.maxDiff < a.mappingDiff s) :
    (slewed a s).b < 2 ^ 64 ∧
      clockAdjustWithCalibration s a.currentTimeMapping ≤ (slewed a s).b + a.maxDiff := by
  have hcur := adjust_lt hf.current.base_lt s
  have hnext := adjust_lt hf.next.base_lt s
  unfold slewed
  unfold GstAjaVideoSrc.mappingDiff at h
  generalize clockAdjustWithCalibration s a.currentTimeMapping = expected at *
  generalize clockAdjustWithCalibration s a.nextTimeMapping = newCalculated at *
  by_cases hup : expected < newCalculated <;> simp only [hup, if_true, if_false] at h ⊢ <;> omega

theorem slewed_forward {a : GstAjaVideoSrc} (hf : Forwards a) {s : ℕ}
    (h : a.maxDiff < a.mappingDiff s) : (slewed a s).Forward :=
  ⟨hf.current.den_pos, hf.current.half, (slewed_base hf h).1⟩

/-- Applying a pending mapping moves the time stamp back by `maxDiff` at most, unless the
mapping is set back at once. -/
theorem apply_pending_back {a : GstAjaVideoSrc} (hf : Forwards a) (s : ℕ) (discont : Bool)
    (hnear : a.nextTimeMappingPending = true → discont = false ∧ a.mappingDiff s < 50000000 ∨
      clockAdjustWithCalibration s a.currentTimeMapping ≤
        clockAdjustWithCalibration s a.nextTimeMapping) :
    clockAdjustWithCalibration s a.currentTimeMapping ≤
      clockAdjustWithCalibration s (a.applyPending s discont).currentTimeMapping +
        if a.nextTimeMappingPending then a.maxDiff else 0 := by
  rcases apply_pending_cases a s discont with ⟨hp, h⟩ | ⟨hp, hclose, h⟩ | ⟨hp, hbig, h⟩ <;>
    rw [h, hp]
  · simp
  · simp only [if_true]
    rcases hnear hp with ⟨rfl, hlt⟩ | hle
    · have hsmall : a.mappingDiff s ≤ a.maxDiff := by
        rcases hclose with h | h | h
        · cases h
        · exact h
        · omega
      simp only [GstAjaVideoSrc.mappingDiff] at hsmall
      split at hsmall <;> omega
    · exact Nat.le_add_right_of_le hle
  · obtain ⟨hlt, hback⟩ := slewed_base hf hbig
    have hbase : clockAdjustWithCalibration s (slewed a s) = (slewed a s).b :=
      adjust_at_base (c := slewed a s) hlt
    simpa only [hbase, if_true] using hback

theorem apply_pending_forwards {a : GstAjaVideoSrc} (hf : Forwards a) (s : ℕ) (discont : Bool) :
    Forwards (a.applyPending s discont) := by
  rcases apply_pending_cases a s discont with ⟨hp, h⟩ | ⟨hp, hclose, h⟩ | ⟨hp, hbig, h⟩ <;> rw [h]
  · exact hf
  · exact ⟨hf.next, hf.next⟩
  · exact ⟨slewed_forward hf hbig, hf.next⟩

theorem apply_pending_sampled (a : GstAjaVideoSrc) (s : ℕ) (discont : Bool) :
    Sampled (a.applyPending s discont) ↔ Sampled a := by
  rcases apply_pending_cases a s discont with ⟨hp, h⟩ | ⟨hp, hclose, h⟩ | ⟨hp, hbig, h⟩ <;>
    rw [h] <;> exact Iff.rfl

/-! ## One call -/

structure SameMapping (a b : GstAjaVideoSrc) : Prop where
  current : b.currentTimeMapping = a.currentTimeMapping
  next : b.nextTimeMapping = a.nextTimeMapping
  filled : b.windowFilled = a.windowFilled
  fill : b.windowFill = a.windowFill
  skip_count : b.windowSkipCount = a.windowSkipCount

theorem lose_signal_mapping (src : GstAjaVideoSrc) : SameMapping src src.loseSignal := by
  unfold GstAjaVideoSrc.loseSignal GstAjaVideoSrc.pushMarker
  split
  · constructor <;> rfl
  · split <;> constructor <;> rfl

theorem anchor_mapping (src : GstAjaVideoSrc) (mode : GstAjaMode) (t n : ℕ) :
    SameMapping src (src.anchor mode t n).1 := by
  unfold GstAjaVideoSrc.anchor GstAjaVideoSrc.noteFirstTime GstAjaVideoSrc.gainSignal
    GstAjaVideoSrc.pushMarker
  simp only
  repeat' split
  all_goals constructor <;> rfl

theorem anchor_cases {src : GstAjaVideoSrc}
    (hs : src.signalState = .available → src.discontTime ≠ clockTimeNone) (mode : GstAjaMode)
    (t n : ℕ) :
    (src.signalState = .available ∧
      (src.anchor mode t n).1.discontTime = src.discontTime ∧
      (src.anchor mode t n).1.discontFrameNumber = src.discontFrameNumber) ∨
    (src.signalState ≠ .available ∧ (src.anchor mode t n).1.discontTime = t ∧
      (src.anchor mode t n).1.discontFrameNumber = n) := by
  unfold GstAjaVideoSrc.anchor GstAjaVideoSrc.noteFirstTime GstAjaVideoSrc.gainSignal
  by_cases ha : src.signalState = .available
  · have hd := hs ha
    simp only [ha, hd, if_true, if_false]
    exact Or.inl ⟨trivial, by split <;> rfl, by split <;> rfl⟩
  · simp only [ha, if_false]
    exact Or.inr ⟨ha, by split <;> rfl, by split <;> rfl⟩

theorem prepare_cases (src : GstAjaVideoSrc) (mode : GstAjaMode) (env : CaptureEnv)
    (b : AjaVideoBuff) :
    (b.haveSignal = false ∧ src.gotFramePrepare mode env (some b) = (src.loseSignal, .noSignal)) ∨
    (b.haveSignal = true ∧ src.skipsFrame mode env b = true ∧
      src.gotFramePrepare mode env (some b) = (anchoredFor src mode env b, .skipped)) ∨
    (b.haveSignal = true ∧ src.skipsFrame mode env b = false ∧
      src.gotFramePrepare mode env (some b) =
        let s := (anchoredFor src mode env b).streamTime mode b.frameNumber
        let r := (sampledFor src mode env b).applyPending s b.droppedChanged
        (r, .queue (r.timestamp s) s (decide (src.signalState = .available)))) := by
  unfold GstAjaVideoSrc.gotFramePrepare GstAjaVideoSrc.skipsFrame sampledFor anchoredFor
  cases hb : b.haveSignal with
  | false => exact Or.inl ⟨rfl, by simp [Option.filter, hb]⟩
  | true =>
    simp only [Option.filter, hb, if_true, Bool.true_and, anchor_had_signal]
    split
    case isTrue h => exact Or.inr (Or.inl ⟨trivial, h, rfl⟩)
    case isFalse h => exact Or.inr (Or.inr ⟨trivial, by simpa using h, rfl⟩)

structure Usable (src : GstAjaVideoSrc) : Prop where
  forwards : Forwards src
  sampled : Sampled src ∨ src.windowSkipCount = 0
  anchored : src.signalState = .available → src.discontTime ≠ clockTimeNone

def Reached (mode : GstAjaMode) (src : GstAjaVideoSrc) (last : Option ℕ) (time : ℕ) : Prop :=
  Sampled src ∧ ∃ n m, last = some m ∧ n ≤ m ∧ src.discontFrameNumber ≤ n ∧
    exactTime mode src.discontTime src.discontFrameNumber n < 2 ^ 64 ∧
    src.currentTimeMapping.image
      (exactTime mode src.discontTime src.discontFrameNumber n) < 2 ^ 64 ∧
    time ≤ clockAdjustWithCalibration
      (exactTime mode src.discontTime src.discontFrameNumber n) src.currentTimeMapping

variable {src : GstAjaVideoSrc} {mode : GstAjaMode} {env : CaptureEnv} {b : AjaVideoBuff}

theorem usable_of_same_mapping {a : GstAjaVideoSrc} (h : Usable src) (hm : SameMapping src a)
    (hd : a.signalState = .available → a.discontTime ≠ clockTimeNone) : Usable a := by
  refine ⟨⟨hm.current ▸ h.forwards.current, hm.next ▸ h.forwards.next⟩, ?_, hd⟩
  unfold Sampled
  rw [hm.filled, hm.fill, hm.skip_count]
  exact h.sampled

theorem lose_signal_lost (src : GstAjaVideoSrc) : src.loseSignal.signalState ≠ .available := by
  simp [lose_signal_state]

theorem lose_signal_usable (h : Usable src) : Usable src.loseSignal :=
  usable_of_same_mapping h (lose_signal_mapping src) fun ha => absurd ha (lose_signal_lost src)

theorem anchored_for_sampled : Sampled (anchoredFor src mode env b) ↔ Sampled src := by
  have hmap := anchor_mapping src mode (env.clock.capturePipeline (some b)) b.frameNumber
  unfold Sampled anchoredFor
  rw [hmap.filled, hmap.fill]

theorem anchored_for_usable (mode : GstAjaMode) (b : AjaVideoBuff) (h : Usable src)
    (ht : env.clock.nowPipeline < clockTimeNone) :
    Usable (anchoredFor src mode env b) := by
  apply usable_of_same_mapping h (anchor_mapping _ _ _ _)
  intro _
  rcases anchor_cases h.anchored mode (env.clock.capturePipeline (some b)) b.frameNumber with
    ⟨ha, hd, -⟩ | ⟨-, hd, -⟩ <;> simp only [hd]
  · exact h.anchored ha
  · exact ((capture_pipeline_le env.clock (some b)).trans_lt ht).ne

theorem sampled_for_step (mode : GstAjaMode) (b : AjaVideoBuff) (h : Usable src)
    (ht : env.clock.nowPipeline < clockTimeNone)
    (hr : ∀ m ∈ env.regression, m.Forward) :
    SampleStep (anchoredFor src mode env b) (sampledFor src mode env b) := by
  have hu := anchored_for_usable mode b h ht
  have hlt : env.clock.capturePipeline (some b) < 2 ^ 64 :=
    ((capture_pipeline_le env.clock (some b)).trans_lt ht).trans (by decide)
  exact sample_step hu.forwards hu.sampled hlt _ hr

theorem applied_stream (src : GstAjaVideoSrc) (mode : GstAjaMode) (env : CaptureEnv)
    (b : AjaVideoBuff) (s : ℕ) :
    SameStream (anchoredFor src mode env b)
      ((sampledFor src mode env b).applyPending s b.droppedChanged) :=
  .trans (sample_stream _ _ _ _) (apply_pending_stream _ _ _)

theorem frame_usable (mode : GstAjaMode) (b : AjaVideoBuff) (h : Usable src)
    (ht : env.clock.nowPipeline < clockTimeNone)
    (hr : ∀ m ∈ env.regression, m.Forward) :
    Usable (src.gotFramePrepare mode env (some b)).1 := by
  have hu := anchored_for_usable mode b h ht
  rcases prepare_cases src mode env b with ⟨-, hp⟩ | ⟨-, -, hp⟩ | ⟨-, -, hp⟩ <;> rw [hp]
  · exact lose_signal_usable h
  · exact hu
  · have hstep := sampled_for_step mode b h ht hr
    refine ⟨apply_pending_forwards hstep.forwards _ _,
      Or.inl ((apply_pending_sampled _ _ _).mpr hstep.sampled), ?_⟩
    intro ha
    have hstream := applied_stream src mode env b
      ((anchoredFor src mode env b).streamTime mode b.frameNumber)
    exact hstream.discontTime ▸ hu.anchored (hstream.signalState.symm.trans ha)

structure FrameFits (s : FrameRun) (mode : GstAjaMode) (env : CaptureEnv) (b : AjaVideoBuff) :
    Prop where
  rate : RateValid mode.fpsN mode.fpsD
  clock : env.clock.nowPipeline < clockTimeNone
  regression : ∀ m ∈ env.regression, m.Forward
  number : b.frameNumber < 2 ^ 64
  grows : ∀ n ∈ s.lastFrame, n < b.frameNumber
  times : b.haveSignal = true → TimesFit s.src mode env b
  slew : b.haveSignal = true → SlewKnown s.src mode env b

variable {s : FrameRun}

theorem anchored_for_available (mode : GstAjaMode) (env : CaptureEnv) (b : AjaVideoBuff)
    (h : Usable s.src) (ha : s.src.signalState = .available) :
    (anchoredFor s.src mode env b).discontTime = s.src.discontTime ∧
      (anchoredFor s.src mode env b).discontFrameNumber = s.src.discontFrameNumber := by
  rcases anchor_cases h.anchored mode (env.clock.capturePipeline (some b)) b.frameNumber with
    ⟨-, h₁, h₂⟩ | ⟨hn, -, -⟩
  · exact ⟨h₁, h₂⟩
  · exact absurd ha hn

def AnchorInRun (s : FrameRun) : Prop :=
  s.src.signalState = .available → ∃ m, s.lastFrame = some m ∧ s.src.discontFrameNumber ≤ m

theorem anchor_number_le (h : Usable s.src) (hf : FrameFits s mode env b) (hn : AnchorInRun s) :
    (anchoredFor s.src mode env b).discontFrameNumber ≤ b.frameNumber := by
  rcases anchor_cases h.anchored mode (env.clock.capturePipeline (some b)) b.frameNumber with
    ⟨ha, -, hd⟩ | ⟨-, -, hd⟩ <;> simp only [anchoredFor, hd]
  · obtain ⟨m, hm, hkm⟩ := hn ha
    have := hf.grows m hm
    omega
  · exact le_refl _

theorem stream_time_frame (h : Usable s.src) (hf : FrameFits s mode env b) (hn : AnchorInRun s)
    (hb : b.haveSignal = true) :
    (anchoredFor s.src mode env b).streamTime mode b.frameNumber = frameTime s.src mode env b :=
  stream_time_exact hf.rate hf.number (anchor_number_le h hf hn) (hf.times hb).1

theorem frame_time_grows (h : Usable s.src) (time : ℕ) (hf : FrameFits s mode env b)
    (hb : b.haveSignal = true) (hskip : s.src.skipsFrame mode env b = false)
    (hback : setsBack s.src mode env b = false) (ha : s.src.signalState = .available)
    (hreach : Reached mode s.src s.lastFrame time) :
    time ≤ clockAdjustWithCalibration
      ((anchoredFor s.src mode env b).streamTime mode b.frameNumber)
      (s.src.gotFramePrepare mode env (some b)).1.currentTimeMapping := by
  obtain ⟨-, hcurrent, -⟩ := hf.times hb
  obtain ⟨hdt, hdn⟩ := anchored_for_available mode env b h ha
  obtain ⟨hsampled, n, m, hm, hnm, hkn, -, himage, htime⟩ := hreach
  have hexact := stream_time_frame h hf (fun _ => ⟨m, hm, hkn.trans hnm⟩) hb
  have hstep := sampled_for_step mode b h hf.clock hf.regression
  have hcur : (sampledFor s.src mode env b).currentTimeMapping = s.src.currentTimeMapping :=
    (hstep.current (anchored_for_sampled.mpr hsampled)).trans (anchor_mapping _ _ _ _).current
  have hinfo : (sampledFor s.src mode env b).info = s.src.info :=
    (sample_stream _ _ _ _).info.trans (anchor_settings _ _ _ _).info
  rcases prepare_cases s.src mode env b with ⟨hn, -⟩ | ⟨-, hs, -⟩ | ⟨-, -, hp⟩
  · rw [hb] at hn; cases hn
  · rw [hskip] at hs; cases hs
  · rw [hp]
    simp only [setsBack, hb, hskip, Bool.not_false, Bool.true_and, Bool.and_eq_false_iff,
      Bool.or_eq_false_iff, decide_eq_false_iff_not, not_le, not_lt] at hback
    have hmoved := apply_pending_back hstep.forwards
      ((anchoredFor s.src mode env b).streamTime mode b.frameNumber) b.droppedChanged
      fun hpend => by
        rcases hback with (h | h) | h
        · rw [h] at hpend; cases hpend
        · exact Or.inl h
        · exact Or.inr h
    rw [hcur, hexact] at hmoved
    have hslew : 2 * ((if (sampledFor s.src mode env b).nextTimeMappingPending then
        (sampledFor s.src mode env b).maxDiff else 0) + 1) ≤
          mode.fpsD * second / mode.fpsN := by
      split
      case isTrue hpend =>
        rw [GstAjaVideoSrc.maxDiff, hinfo]
        exact slew_below_duration hf.rate (hf.slew hb hskip hpend)
      case isFalse =>
        have := millisecond_le_duration hf.rate
        omega
    have hstepTime := exact_time_step mode s.src.discontTime hkn
      (hnm.trans_lt (hf.grows m hm))
    apply htime.trans
    simp only [hexact]
    refine adjust_le_of_moved_back h.forwards.current himage hcurrent ?_ hmoved
    simp only [frameTime, hdt, hdn]
    omega

theorem frame_reached (h : Usable s.src) (hf : FrameFits s mode env b) (hn : AnchorInRun s)
    (hb : b.haveSignal = true) (hskip : s.src.skipsFrame mode env b = false) :
    Reached mode (s.src.gotFramePrepare mode env (some b)).1 (some b.frameNumber)
      (clockAdjustWithCalibration
        ((anchoredFor s.src mode env b).streamTime mode b.frameNumber)
        (s.src.gotFramePrepare mode env (some b)).1.currentTimeMapping) := by
  obtain ⟨hfit, -, himage⟩ := hf.times hb
  have hstep := sampled_for_step mode b h hf.clock hf.regression
  rw [stream_time_frame h hf hn hb]
  rcases prepare_cases s.src mode env b with ⟨hno, -⟩ | ⟨-, hs, -⟩ | ⟨-, -, hp⟩
  · rw [hb] at hno; cases hno
  · rw [hskip] at hs; cases hs
  · rw [hp] at himage ⊢
    have hstream := applied_stream s.src mode env b
      ((anchoredFor s.src mode env b).streamTime mode b.frameNumber)
    simp only [Reached, hstream.discontTime, hstream.discontFrameNumber]
    exact ⟨(apply_pending_sampled _ _ _).mpr hstep.sampled, b.frameNumber, b.frameNumber, rfl,
      le_refl _, anchor_number_le h hf hn, hfit, himage, le_refl _⟩

theorem reached_mono {last : Option ℕ} {time time' : ℕ} (h : Reached mode src last time')
    (hle : time ≤ time') : Reached mode src last time := by
  obtain ⟨hs, n, m, h₁, h₂, h₃, h₄, h₅, h₆⟩ := h
  exact ⟨hs, n, m, h₁, h₂, h₃, h₄, h₅, hle.trans h₆⟩

/-! ## Runs -/

structure InStep (mode : GstAjaMode) (s : FrameRun) : Prop where
  usable : Usable s.src
  anchor : AnchorInRun s
  chain : MonotoneUnlessExcused s.queued
  link : s.excused = true ∨ s.src.signalState ≠ .available ∨
    ∀ q ∈ s.queued.getLast?, Reached mode s.src s.lastFrame q.time

theorem others_step (h : InStep mode s) (src' : GstAjaVideoSrc) :
    InStep mode { s with src := othersWrite s.src src' } :=
  ⟨⟨⟨h.usable.forwards.current, h.usable.forwards.next⟩, h.usable.sampled, h.usable.anchored⟩,
    h.anchor, h.chain, h.link⟩

theorem null_step (h : InStep mode s) (flushing : Bool) :
    InStep mode (s.gotFrame mode env none flushing) := by
  have hstate := lose_signal_lost s.src
  refine ⟨lose_signal_usable h.usable, fun ha => absurd ha hstate, ?_, Or.inr (Or.inl hstate)⟩
  simpa [FrameRun.gotFrame, GstAjaVideoSrc.gotFrame] using h.chain

/-- A frame that is not queued keeps what is known, or excuses the next one. -/
theorem unqueued_step (h : InStep mode s) {src' : GstAjaVideoSrc} (hu : Usable src')
    (hnum : src'.signalState = .available → src'.discontFrameNumber ≤ b.frameNumber)
    (hreach : s.excused = false → setsBack s.src mode env b = false →
      src'.signalState = .available →
      ∀ q ∈ s.queued.getLast?, Reached mode src' (some b.frameNumber) q.time) :
    InStep mode ⟨src', some b.frameNumber, s.excused || setsBack s.src mode env b,
      s.queued⟩ := by
  refine ⟨hu, fun ha => ⟨b.frameNumber, rfl, hnum ha⟩, h.chain, ?_⟩
  by_cases hx : (s.excused || setsBack s.src mode env b) = true
  · exact Or.inl hx
  · simp only [Bool.not_eq_true, Bool.or_eq_false_iff] at hx
    by_cases ha : src'.signalState = .available
    · exact Or.inr (Or.inr (hreach hx.1 hx.2 ha))
    · exact Or.inr (Or.inl ha)

theorem reached_before (h : InStep mode s) (hx : s.excused = false)
    (ha : s.src.signalState = .available) :
    ∀ q ∈ s.queued.getLast?, Reached mode s.src s.lastFrame q.time := by
  rcases h.link with h | h | h
  · rw [hx] at h; cases h
  · exact absurd ha h
  · exact h

theorem signal_before (hb : b.haveSignal = true)
    (hr : restarts s.src b = true → s.queued = []) {q : Stamped} (hq : q ∈ s.queued.getLast?) :
    s.src.signalState = .available := by
  by_contra ha
  rw [hr (by simp [restarts, hb, ha])] at hq
  cases hq

theorem skipped_step (h : InStep mode s) (hf : FrameFits s mode env b)
    (hb : b.haveSignal = true) (hr : restarts s.src b = true → s.queued = []) :
    InStep mode ⟨anchoredFor s.src mode env b, some b.frameNumber,
      s.excused || setsBack s.src mode env b, s.queued⟩ := by
  apply unqueued_step h (anchored_for_usable mode b h.usable hf.clock)
    (fun _ => anchor_number_le h.usable hf h.anchor)
  intro hx _ _ q hq
  have ha := signal_before hb hr hq
  obtain ⟨hdt, hdn⟩ := anchored_for_available mode env b h.usable ha
  obtain ⟨hs, n, m, h₁, h₂, h₃, h₄, h₅, h₆⟩ := reached_before h hx ha q hq
  have hm := hf.grows m h₁
  have hcur : (anchoredFor s.src mode env b).currentTimeMapping = s.src.currentTimeMapping :=
    (anchor_mapping _ _ _ _).current
  refine ⟨anchored_for_sampled.mpr hs, n, b.frameNumber, rfl, by omega, ?_⟩
  rw [hdt, hdn, hcur]
  exact ⟨h₃, h₄, h₅, h₆⟩

theorem queue_frame_last (src : GstAjaVideoSrc) (b : AjaVideoBuff) (timestamp streamTime : ℕ)
    (had : Bool) : ∃ f,
      (src.queueFrame b timestamp streamTime had).currentFrames.getLast? = some f ∧
        f.captureTime = timestamp ∧ f.firstBuffer = !had :=
  ⟨_, List.getLast?_concat, rfl, rfl⟩

theorem got_frame_cases (src : GstAjaVideoSrc) (mode : GstAjaMode) (env : CaptureEnv)
    (b : AjaVideoBuff) (flushing : Bool) :
    (b.haveSignal = false ∧
      src.gotFrame mode env (some b) flushing = (src.loseSignal, none)) ∨
    (b.haveSignal = true ∧
      src.gotFrame mode env (some b) flushing = (anchoredFor src mode env b, none)) ∨
    (b.haveSignal = true ∧ src.skipsFrame mode env b = false ∧
      let r := (src.gotFramePrepare mode env (some b)).1
      let s := (anchoredFor src mode env b).streamTime mode b.frameNumber
      let had := decide (src.signalState = .available)
      (src.gotFrame mode env (some b) flushing = (r, none) ∨
        ∃ f, src.gotFrame mode env (some b) flushing =
            (r.queueFrame b (r.timestamp s) s had, some f) ∧
          f.captureTime = r.timestamp s ∧ f.firstBuffer = !had)) := by
  unfold GstAjaVideoSrc.gotFrame
  rcases prepare_cases src mode env b with ⟨hb, hp⟩ | ⟨hb, hs, hp⟩ | ⟨hb, hs, hp⟩
  · exact Or.inl ⟨hb, by rw [hp]⟩
  · exact Or.inr (Or.inl ⟨hb, by rw [hp]⟩)
  · refine Or.inr (Or.inr ⟨hb, hs, ?_⟩)
    rw [hp]
    simp only
    split
    · exact Or.inl rfl
    · obtain ⟨f, hlast, htime, hfirst⟩ := queue_frame_last
        ((sampledFor src mode env b).applyPending
          ((anchoredFor src mode env b).streamTime mode b.frameNumber) b.droppedChanged) b
        (GstAjaVideoSrc.timestamp _ ((anchoredFor src mode env b).streamTime mode b.frameNumber))
        ((anchoredFor src mode env b).streamTime mode b.frameNumber)
        (decide (src.signalState = .available))
      exact Or.inr ⟨f, by rw [hlast], htime, hfirst⟩

theorem queue_frame_timing {src : GstAjaVideoSrc} (b : AjaVideoBuff) (timestamp streamTime : ℕ)
    (had : Bool) {last : Option ℕ} {time : ℕ} (hu : Usable src) (hr : Reached mode src last time) :
    Usable (src.queueFrame b timestamp streamTime had) ∧
      Reached mode (src.queueFrame b timestamp streamTime had) last time :=
  ⟨⟨⟨hu.forwards.current, hu.forwards.next⟩, hu.sampled, hu.anchored⟩, hr⟩

theorem frame_step (h : InStep mode s) (hf : FrameFits s mode env b)
    (hout : s.src.outputStreamTime = false) (flushing : Bool)
    (hr : restarts s.src b = true → s.queued = [] ∨
      (s.src.gotFrame mode env (some b) flushing).2.isSome = true) :
    InStep mode (s.gotFrame mode env (some b) flushing) := by
  have hu := frame_usable mode b h.usable hf.clock hf.regression
  unfold FrameRun.gotFrame
  simp only [Option.any_some, Option.map_some, Option.some_or]
  rcases got_frame_cases s.src mode env b flushing with ⟨hb, hg⟩ | ⟨hb, hg⟩ | ⟨hb, hskip, hg⟩
  · rw [hg]
    have hstate := lose_signal_lost s.src
    simp only [Option.isSome_none, Bool.false_eq_true, if_false, Option.map_none,
      Option.toList_none, List.append_nil]
    exact unqueued_step h (lose_signal_usable h.usable) (fun ha => absurd ha hstate)
      fun _ _ ha => absurd ha hstate
  · rw [hg] at hr ⊢
    simpa using skipped_step h hf hb (by simpa using hr)
  · have hreached := frame_reached h.usable hf h.anchor hb hskip
    have hgrow := fun hx ha time => frame_time_grows h.usable time hf hb hskip hx ha
    have hnum : (s.src.gotFramePrepare mode env (some b)).1.discontFrameNumber ≤
        b.frameNumber := by
      obtain ⟨-, n, m, hm, hnm, hkn, -⟩ := hreached
      cases hm
      exact hkn.trans hnm
    rcases hg with hg | ⟨f, hg, htime, hfirst⟩
    · rw [hg] at hr ⊢
      simp only [Option.isSome_none, Bool.false_eq_true, if_false, Option.map_none,
        Option.toList_none, List.append_nil, or_false] at hr ⊢
      apply unqueued_step h hu (fun _ => hnum)
      intro hx hback _ q hq
      have ha := signal_before hb hr hq
      exact reached_mono hreached (hgrow hback ha q.time (reached_before h hx ha q hq))
    · rw [hg]
      have hstamp : (s.src.gotFramePrepare mode env (some b)).1.timestamp
          ((anchoredFor s.src mode env b).streamTime mode b.frameNumber) =
            clockAdjustWithCalibration
              ((anchoredFor s.src mode env b).streamTime mode b.frameNumber)
              (s.src.gotFramePrepare mode env (some b)).1.currentTimeMapping := by
        rw [GstAjaVideoSrc.timestamp, (prepare_settings s.src mode env (some b)).outputStreamTime,
          hout]
        rfl
      obtain ⟨hu', hr'⟩ := queue_frame_timing b
        ((s.src.gotFramePrepare mode env (some b)).1.timestamp
          ((anchoredFor s.src mode env b).streamTime mode b.frameNumber))
        ((anchoredFor s.src mode env b).streamTime mode b.frameNumber)
        (decide (s.src.signalState = .available)) hu hreached
      simp only [Option.isSome_some, if_true, Option.map_some, Option.toList_some]
      refine ⟨hu', fun _ => ⟨b.frameNumber, rfl, hnum⟩, ?_, Or.inr (Or.inr ?_)⟩
      · apply h.chain.append (List.isChain_singleton _)
        intro q hq y hy
        cases hy
        simp only [stamp, htime, hstamp, hfirst]
        by_cases ha : s.src.signalState = .available
        · by_cases hx : (s.excused || setsBack s.src mode env b) = true
          · exact Or.inr (Or.inr hx)
          · simp only [Bool.not_eq_true, Bool.or_eq_false_iff] at hx
            exact Or.inl (hgrow hx.2 ha q.time (reached_before h hx.1 ha q hq))
        · exact Or.inr (Or.inl (by simp [ha]))
      · intro q hq
        obtain rfl : stamp f (s.excused || setsBack s.src mode env b) = q := by simpa using hq
        simpa only [stamp, htime, hstamp] using hr'

theorem in_step (hm : RateValid mode.fpsN mode.fpsD)
    (h : ReachableWhile (frames mode) (RegularAssumed mode) s) : InStep mode s := by
  apply h.invariant
  · intro i hi
    obtain ⟨hs, hl, hq⟩ := hi
    have hstate : i.src.signalState = .unknown := by rw [← hs]; rfl
    refine ⟨⟨⟨?_, ?_⟩, Or.inr (by rw [← hs]; rfl), by simp [hstate]⟩, by simp [AnchorInRun, hstate],
      by simp [hq, MonotoneUnlessExcused], Or.inr (Or.inl (by simp [hstate]))⟩
    · rw [← hs]; exact identity_forward
    · rw [← hs]; exact identity_forward
  · intro a e b hi he hn
    cases e with
    | others src' => cases hn; exact others_step hi src'
    | gotFrame env videoBuff flushing =>
      cases hn
      obtain ⟨⟨hout, hclock, hreg, hframe⟩, hregular⟩ := he
      cases videoBuff with
      | none => exact null_step hi flushing
      | some b =>
        obtain ⟨hn, hl, ht⟩ := hframe b rfl
        obtain ⟨hslew, hr⟩ := hregular b rfl
        exact frame_step hi ⟨hm, hclock, hreg, hn, hl, ht, hslew⟩ hout flushing hr

/-- Between two queued frames the time stamp does not decrease, unless the second one is
marked or the mapping was set back at once in between. -/
theorem timestamps_monotone {modeEnum : ℕ} (hmode : getModeRaw modeEnum = some mode)
    (h : ReachableWhile (frames mode) (RegularAssumed mode) s) :
    MonotoneUnlessExcused s.queued :=
  (in_step (mode_rate_valid hmode) h).chain

instance (mode : GstAjaMode) (s : FrameRun) (e : Call) : Decidable (Assumed mode s e) := by
  cases e with
  | gotFrame env videoBuff flushing =>
    unfold Assumed TimesFit
    infer_instance
  | others src' => exact isTrue trivial

instance (mode : GstAjaMode) (s : FrameRun) (e : Call) : Decidable (RegularAssumed mode s e) := by
  cases e with
  | gotFrame env videoBuff flushing =>
    unfold RegularAssumed Regular SlewKnown RateKnown
    infer_instance
  | others src' => exact isTrue ⟨trivial, trivial⟩

def startedRun : FrameRun where
  src := { (GstAjaVideoSrc.init 15 100 false 0) with
    info := { GstVideoInfo.empty with fpsN := 60000, fpsD := 1001 } }.startStreams
  lastFrame := none
  excused := false
  queued := []

def frameCall (n : ℕ) (regression : Option Calibration) : Call :=
  .gotFrame ⟨⟨0, 1000000 + 16683333 * n, 0⟩, regression⟩
    (some ⟨n, false, n, 0, false, 0, 0, 0, true, 3, 3, false, n + 1, 0, false⟩) false

def fullWindow (regression : Calibration) : List Call :=
  (List.range 63).map (frameCall · none) ++ [frameCall 63 (some regression)]

theorem timestamps_monotone_slewed : ∃ s, Reachable (frames mode720p5994) s ∧
    MonotoneUnlessExcused s.queued ∧ s.queued.length = 66 ∧
    s.queued.all (fun q => !q.excused) = true := by
  obtain ⟨s, hs, hp⟩ := reachable_while_of_trace (m := frames mode720p5994)
    (a := RegularAssumed mode720p5994) (i := startedRun)
    (l := fullWindow ⟨20000000, 0, 1, 1⟩ ++ [frameCall 64 none, frameCall 65 none])
    (p := fun s => decide (s.queued.length = 66 ∧ s.queued.all (fun q => !q.excused) = true))
    ⟨rfl, rfl, rfl⟩ (by decide +kernel)
  exact ⟨s, hs.reachable, timestamps_monotone (show getModeRaw 15 = _ from rfl) hs,
    of_decide_eq_true hp⟩

def fallsBack (qs : List Stamped) : Bool :=
  match qs.reverse with
  | y :: x :: _ => decide (y.time < x.time) && !y.marked
  | _ => false

theorem not_monotone_of_falls_back {qs : List Stamped} (h : fallsBack qs = true) :
    ¬Monotone qs := by
  intro hm
  have hrev := List.isChain_reverse.mpr hm
  unfold fallsBack at h
  split at h
  case h_1 y x rest hqs =>
    rw [hqs] at hrev
    simp only [Bool.and_eq_true, decide_eq_true_eq, Bool.not_eq_true'] at h
    rcases (List.isChain_cons_cons.mp hrev).1 with hle | hmark
    · omega
    · rw [h.2] at hmark
      cases hmark
  case h_2 => cases h

def withoutCaps : FrameRun := { startedRun with src := { startedRun.src with info := .empty } }

def signalCall (nowPipeline n : ℕ) (haveSignal flushing : Bool) : Call :=
  .gotFrame ⟨⟨0, nowPipeline, 0⟩, none⟩
    (some ⟨n, false, n, 0, false, 0, 0, 0, haveSignal, 3, 3, false, n + 1, 0, false⟩) flushing

def droppedInFlush : List Call :=
  (List.range 63).map (frameCall · none) ++
    [.gotFrame ⟨⟨0, 1052049979, 0⟩, some ⟨40000000, 0, 1, 1⟩⟩
      (some ⟨63, false, 63, 0, false, 0, 0, 0, true, 3, 3, false, 64, 1, true⟩) true,
     frameCall 64 none]

def recoveredInFlush : List Call :=
  [signalCall 1000000000 0 true false, signalCall 0 1 false false, signalCall 0 2 true true,
    signalCall 0 3 true false]

def GoesBack (i : FrameRun) (l : List Call) : Prop :=
  (frames mode720p5994).initial i ∧
    ∃ s ∈ runsWhile (frames mode720p5994) (Assumed mode720p5994) i l, ¬Monotone s.queued

theorem goes_back {i : FrameRun} {l : List Call} (hi : (frames mode720p5994).initial i)
    (h : (runsWhile (frames mode720p5994) (Assumed mode720p5994) i l).any
      (fun s => fallsBack s.queued) = true) : GoesBack i l := by
  refine ⟨hi, ?_⟩
  cases hs : runsWhile (frames mode720p5994) (Assumed mode720p5994) i l with
  | none => simp [hs] at h
  | some s => exact ⟨s, rfl, not_monotone_of_falls_back (by simpa [hs] using h)⟩

/-- A mapping 60 milliseconds behind replaces the current one at once, one 40 milliseconds
behind does after a drop and one 20 milliseconds behind without caps; a flushed frame anchors
the stream anew. -/
theorem timestamps_back : GoesBack startedRun (fullWindow ⟨60000000, 0, 1, 1⟩) ∧
    GoesBack startedRun droppedInFlush ∧
    GoesBack withoutCaps (fullWindow ⟨20000000, 0, 1, 1⟩) ∧
    GoesBack startedRun recoveredInFlush :=
  ⟨goes_back ⟨rfl, rfl, rfl⟩ (by decide +kernel), goes_back ⟨rfl, rfl, rfl⟩ (by decide +kernel),
    goes_back ⟨rfl, rfl, rfl⟩ (by decide +kernel), goes_back ⟨rfl, rfl, rfl⟩ (by decide +kernel)⟩

end AjaTimestamps
