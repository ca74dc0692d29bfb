import NTV2Gst.SamplingWindow
import NTV2Gst.AjaTimestamps

/-!
# The sampling window of the time mapping

The calls of `update_time_mapping` since the streams were started, with a frame rate that
stays the same and anything else that may happen to the element in between. The window, its
skip and the counter refine the sampler of `SamplingWindow`.
-/
namespace AjaSampleWindow

open TransitionRuns GstClockMath GstAjaModes AjaVideoSrc AjaTimestamps SamplingWindow

/-- `fps` in `update_time_mapping`, the frame rate rounded up. The source divides doubles,
which are exact here for the 32 bits of numerator and denominator. -/
def roundedFps (info : GstVideoInfo) : ℕ := (info.fpsN + info.fpsD - 1) / info.fpsD

/-- This call fills the window; it is the one that computes `fps`. -/
def fillsWindow (src : GstAjaVideoSrc) : Bool :=
  src.windowSkipCount = 0 && src.windowSize ≤ src.windowFill + 1

def runsRegression (src : GstAjaVideoSrc) (captureTime streamTime : ℕ) : Bool :=
  src.windowSkipCount = 0 &&
    ((src.storeSample captureTime streamTime).startMapping captureTime streamTime).windowFilled

/-- The indices of the block of times that a call writes. Entry `i` of `times` is at `2 * i`
and `2 * i + 1` of it, and `times_temp` starts at `2 * window_size`. -/
def writtenIndices (src : GstAjaVideoSrc) : List ℕ :=
  if src.windowSkipCount = 0 then [2 * src.windowFill, 2 * src.windowFill + 1] else []

/-- The rest is a record since the streams were started: the number of calls and of full
windows, the samples, the indices written and the windows that the regression was run on. -/
structure WindowRun where
  src : GstAjaVideoSrc
  calls : ℕ
  fulls : ℕ
  taken : List (Sample (ℕ × ℕ))
  written : List ℕ
  fitted : List (List (ℕ × ℕ))
  deriving DecidableEq, Repr

inductive Call where
  | update (captureTime streamTime : ℕ) (discont : Bool) (regression : Option Calibration)
  | others (src' : GstAjaVideoSrc)
  deriving DecidableEq, Repr

def otherFields (src src' : GstAjaVideoSrc) : GstAjaVideoSrc :=
  { src' with
    times := src.times
    windowSize := src.windowSize
    windowFill := src.windowFill
    windowFilled := src.windowFilled
    windowSkip := src.windowSkip
    windowSkipCount := src.windowSkipCount }

def WindowRun.update (s : WindowRun) (captureTime streamTime : ℕ) (discont : Bool)
    (regression : Option Calibration) : WindowRun where
  src := s.src.updateTimeMapping captureTime streamTime discont regression
  calls := s.calls + 1
  fulls := if fillsWindow s.src then s.fulls + 1 else s.fulls
  taken := if s.src.windowSkipCount = 0 then
      s.taken ++ [⟨s.calls, s.fulls, s.src.windowSkip, (streamTime, captureTime)⟩]
    else s.taken
  written := s.written ++ writtenIndices s.src
  fitted := if runsRegression s.src captureTime streamTime then
      s.fitted ++ [(s.src.storeSample captureTime streamTime).times]
    else s.fitted

structure JustStarted (fps : ℕ) (s : WindowRun) : Prop where
  started : s.src.startStreams = s.src
  size_pos : 0 < s.src.windowSize
  times : s.src.times.length = s.src.windowSize
  rate : roundedFps s.src.info = fps
  record : s.calls = 0 ∧ s.fulls = 0 ∧ s.taken = [] ∧ s.written = [] ∧ s.fitted = []

def updates (fps : ℕ) : Machine WindowRun Call where
  initial := JustStarted fps
  next s
    | .update captureTime streamTime discont regression =>
      some (s.update captureTime streamTime discont regression)
    | .others src' =>
      if roundedFps src'.info = fps then some { s with src := otherFields s.src src' } else none

def Fresh (taken : List (Sample (ℕ × ℕ))) (times : List (ℕ × ℕ)) : Prop :=
  ∀ i < times.length, ∃ j x, taken[j]? = some x ∧ j % times.length = i ∧ times[i]? = some x.value

structure WindowSound (fps : ℕ) (s : WindowRun) : Prop where
  fill_lt : s.src.windowFill < s.src.windowSize
  written_lt : ∀ i ∈ s.written, i < 2 * s.src.windowSize
  skip_count_lt : s.src.windowSkipCount < s.src.windowSkip
  skip : s.src.windowSkip = min (2 ^ s.fulls) (4 * fps)
  spaced : Spaced s.taken
  fitted : ∀ times ∈ s.fitted, times.length = s.src.windowSize ∧ Fresh s.taken times

/-! ## The window is a sampler -/

def window (s : WindowRun) : Sampler (ℕ × ℕ) where
  slots := s.src.times
  fill := s.src.windowFill
  skip := s.src.windowSkip
  count := s.src.windowSkipCount
  calls := s.calls
  fulls := s.fulls
  taken := s.taken

structure SameWindow (a b : GstAjaVideoSrc) : Prop where
  times : b.times = a.times
  windowSize : b.windowSize = a.windowSize
  windowFill : b.windowFill = a.windowFill
  windowFilled : b.windowFilled = a.windowFilled
  windowSkip : b.windowSkip = a.windowSkip
  windowSkipCount : b.windowSkipCount = a.windowSkipCount

namespace SameWindow

variable {a b c : GstAjaVideoSrc}

theorem refl (a : GstAjaVideoSrc) : SameWindow a a := by constructor <;> rfl

theorem trans (h : SameWindow a b) (k : SameWindow b c) : SameWindow a c :=
  ⟨k.times.trans h.times, k.windowSize.trans h.windowSize, k.windowFill.trans h.windowFill,
    k.windowFilled.trans h.windowFilled, k.windowSkip.trans h.windowSkip,
    k.windowSkipCount.trans h.windowSkipCount⟩

theorem ite {p : Prop} [Decidable p] (h : SameWindow a b) (k : SameWindow a c) :
    SameWindow a (if p then b else c) := by
  split
  · exact h
  · exact k

theorem other_fields_eq (h : SameWindow a b) : otherFields a b = b := by
  obtain ⟨h₁, h₂, h₃, h₄, h₅, h₆⟩ := h
  rw [otherFields, ← h₁, ← h₂, ← h₃, ← h₄, ← h₅, ← h₆]

end SameWindow

theorem start_mapping_window (src : GstAjaVideoSrc) (t s : ℕ) :
    SameWindow src (src.startMapping t s) :=
  .ite (by constructor <;> rfl) (.refl src)

theorem fit_mapping_window (src : GstAjaVideoSrc) (regression : Option Calibration) :
    SameWindow src (src.fitMapping regression) := by
  unfold GstAjaVideoSrc.fitMapping
  split
  · constructor <;> rfl
  · exact .refl src

theorem apply_pending_window (src : GstAjaVideoSrc) (s : ℕ) (discont : Bool) :
    SameWindow src (src.applyPending s discont) :=
  .ite (.ite (by constructor <;> rfl) (by constructor <;> rfl)) (.refl src)

theorem update_window (src : GstAjaVideoSrc) (t s : ℕ) (discont : Bool)
    (regression : Option Calibration) :
    SameWindow (if src.windowSkipCount = 0 then src.storeSample t s else src.countSkip)
      (src.updateTimeMapping t s discont regression) := by
  refine SameWindow.trans ?_ (apply_pending_window _ s discont)
  unfold GstAjaVideoSrc.sample
  split
  · exact (start_mapping_window _ t s).trans (fit_mapping_window _ regression)
  · exact .refl _

theorem grown_skip_eq (src : GstAjaVideoSrc) :
    src.grownSkip = grown (4 * roundedFps src.info) src.windowSkip := rfl

/-- `grownSkip` in the 32 bits of the source. -/
def grownSkip32 (src : GstAjaVideoSrc) : ℕ :=
  let most := 4 * roundedFps src.info % 2 ^ 32
  let skip := if src.windowSkip < most then src.windowSkip * 2 % 2 ^ 32 else src.windowSkip
  if most ≤ skip then most else skip

theorem grown_skip_32 {src : GstAjaVideoSrc} (hfps : roundedFps src.info ≤ 2 ^ 29)
    (hskip : src.windowSkip ≤ 4 * roundedFps src.info) : grownSkip32 src = src.grownSkip := by
  have hmost : 4 * roundedFps src.info % 2 ^ 32 = 4 * roundedFps src.info :=
    Nat.mod_eq_of_lt (by omega)
  rw [grown_skip_eq, grownSkip32, grown, hmost]
  split
  · rw [Nat.mod_eq_of_lt (by omega)]
    split <;> omega
  · split <;> omega

theorem store_sample_fields (src : GstAjaVideoSrc) (t s : ℕ) :
    let full := src.windowSize ≤ src.windowFill + 1
    let a := src.storeSample t s
    a.times = src.times.set src.windowFill (s, t) ∧ a.windowSize = src.windowSize ∧
      a.windowFill = (if full then 0 else src.windowFill + 1) ∧
      a.windowFilled = (if full then true else src.windowFilled) ∧
      a.windowSkip = (if full then grown (4 * roundedFps src.info) src.windowSkip
        else src.windowSkip) ∧
      a.windowSkipCount = nextCount src.windowSkip src.windowSkipCount := by
  unfold GstAjaVideoSrc.storeSample
  by_cases hfull : src.windowSize ≤ src.windowFill + 1
  · simp only [GstAjaVideoSrc.countSkip, hfull, if_true]
    exact ⟨trivial, trivial, trivial, trivial, rfl, rfl⟩
  · simp only [GstAjaVideoSrc.countSkip, hfull, if_false]
    exact ⟨trivial, trivial, trivial, trivial, trivial, rfl⟩

theorem update_window_size (src : GstAjaVideoSrc) (t s : ℕ) (discont : Bool)
    (regression : Option Calibration) :
    (src.updateTimeMapping t s discont regression).windowSize = src.windowSize := by
  rw [(update_window src t s discont regression).windowSize]
  split
  · exact (store_sample_fields src t s).2.1
  · rfl

theorem window_update {fps : ℕ} {s : WindowRun} (hlen : s.src.times.length = s.src.windowSize)
    (hrate : roundedFps s.src.info = fps) (captureTime streamTime : ℕ) (discont : Bool)
    (regression : Option Calibration) :
    window (s.update captureTime streamTime discont regression) =
      (window s).tick (4 * fps) (streamTime, captureTime) := by
  have hw := update_window s.src captureTime streamTime discont regression
  unfold Sampler.tick Sampler.take window WindowRun.update fillsWindow
  by_cases hcount : s.src.windowSkipCount = 0
  · rw [if_pos hcount] at hw
    obtain ⟨htimes, hsize, hfill, hfilled, hskip, hskipCount⟩ :=
      store_sample_fields s.src captureTime streamTime
    simp only [hw.times, hw.windowFill, hw.windowSkip, hw.windowSkipCount, htimes, hfill, hskip,
      hskipCount, hcount, hlen, hrate, if_true, decide_true, Bool.true_and, decide_eq_true_eq]
  · rw [if_neg hcount] at hw
    simp only [hw.times, hw.windowFill, hw.windowSkip, hw.windowSkipCount, hcount, if_false,
      decide_false, Bool.false_and]
    rfl

/-! ## Runs -/

section Runs

variable {fps : ℕ} {s : WindowRun} {captureTime streamTime : ℕ} {discont : Bool}
  {regression : Option Calibration}

structure InWindow (fps : ℕ) (s : WindowRun) : Prop where
  size_pos : 0 < s.src.windowSize
  rate : roundedFps s.src.info = fps
  sampler : Sound s.src.windowSize (4 * fps) (window s)
  filled : s.src.windowFilled = true → 0 < s.fulls
  written_lt : ∀ i ∈ s.written, i < 2 * s.src.windowSize
  fitted : ∀ times ∈ s.fitted, times.length = s.src.windowSize ∧ Fresh s.taken times

theorem InWindow.fill_lt (h : InWindow fps s) : s.src.windowFill < s.src.windowSize := by
  rw [show s.src.windowFill = _ from h.sampler.fill]
  exact Nat.mod_lt _ h.size_pos

theorem in_window_started (hfps : 1 ≤ fps) (h : JustStarted fps s) : InWindow fps s := by
  obtain ⟨hcalls, hfulls, htaken, hwritten, hfitted⟩ := h.record
  have hwindow : window s = Sampler.start s.src.times := by
    unfold window Sampler.start
    rw [hcalls, hfulls, htaken, ← h.started]
    rfl
  refine ⟨h.size_pos, h.rate, ?_, ?_, by simp [hwritten], by simp [hfitted]⟩
  · rw [hwindow]
    exact sound_start h.times (by omega)
  · intro hfilled
    rw [← h.started] at hfilled
    cases hfilled

theorem in_window_others (h : InWindow fps s) {src' : GstAjaVideoSrc}
    (hrate : roundedFps src'.info = fps) :
    InWindow fps { s with src := otherFields s.src src' } :=
  ⟨h.size_pos, hrate, h.sampler, h.filled, h.written_lt, h.fitted⟩

theorem Fresh.append {taken : List (Sample (ℕ × ℕ))} {times : List (ℕ × ℕ)}
    (h : Fresh taken times) (more : List (Sample (ℕ × ℕ))) : Fresh (taken ++ more) times := by
  intro i hi
  obtain ⟨j, x, hx, hj, hvalue⟩ := h i hi
  refine ⟨j, x, ?_, hj, hvalue⟩
  rw [List.getElem?_append_left (List.getElem?_eq_some_iff.mp hx).1]
  exact hx

theorem fresh_of_sound {n limit : ℕ} {t : Sampler (ℕ × ℕ)} (h : Sound n limit t)
    (hfull : 0 < t.fulls) : Fresh t.taken t.slots := by
  have hn : t.slots.length ≤ t.taken.length := by
    rw [h.fulls] at hfull
    rw [h.length]
    exact Nat.le_of_not_lt fun hlt => by simp [Nat.div_eq_of_lt hlt] at hfull
  intro i hi
  obtain ⟨j, x, hx, hj, hslot⟩ := h.ring.full (by rwa [List.length_map]) hi
  rw [List.getElem?_map, Option.map_eq_some_iff] at hx
  obtain ⟨y, hy, rfl⟩ := hx
  exact ⟨j, y, hy, hj, hslot⟩

theorem InWindow.written_next (h : InWindow fps s) :
    ∀ i ∈ s.written ++ writtenIndices s.src, i < 2 * s.src.windowSize := by
  intro i hi
  have hlt := h.fill_lt
  rcases List.mem_append.mp hi with hi | hi
  · exact h.written_lt i hi
  · unfold writtenIndices at hi
    split at hi
    · simp only [List.mem_cons, List.not_mem_nil, or_false] at hi
      omega
    · cases hi

theorem InWindow.filled_next (h : InWindow fps s)
    (hf : (s.update captureTime streamTime discont regression).src.windowFilled = true) :
    0 < (s.update captureTime streamTime discont regression).fulls := by
  have hw := update_window s.src captureTime streamTime discont regression
  replace hf := hw.windowFilled.symm.trans hf
  unfold WindowRun.update fillsWindow
  by_cases hcount : s.src.windowSkipCount = 0
  · obtain ⟨-, -, -, hfilled, -, -⟩ := store_sample_fields s.src captureTime streamTime
    rw [if_pos hcount, hfilled] at hf
    by_cases hfull : s.src.windowSize ≤ s.src.windowFill + 1
    · simp [hcount, hfull]
    · rw [if_neg hfull] at hf
      simpa [hfull] using h.filled hf
  · rw [if_neg hcount] at hf
    simpa [hcount] using h.filled hf

theorem update_taken (s : WindowRun) (captureTime streamTime : ℕ) (discont : Bool)
    (regression : Option Calibration) :
    ∃ more, (s.update captureTime streamTime discont regression).taken = s.taken ++ more := by
  unfold WindowRun.update
  dsimp only
  split
  · exact ⟨_, rfl⟩
  · exact ⟨[], (List.append_nil _).symm⟩

theorem regression_window (discont : Bool) (regression : Option Calibration)
    (hruns : runsRegression s.src captureTime streamTime = true) :
    (s.update captureTime streamTime discont regression).src.times =
        (s.src.storeSample captureTime streamTime).times ∧
      (s.update captureTime streamTime discont regression).src.windowFilled = true := by
  have hw := update_window s.src captureTime streamTime discont regression
  simp only [runsRegression, Bool.and_eq_true, decide_eq_true_eq,
    (start_mapping_window _ _ _).windowFilled] at hruns
  rw [if_pos hruns.1] at hw
  exact ⟨hw.times, hw.windowFilled.trans hruns.2⟩

theorem in_window_update (h : InWindow fps s) (captureTime streamTime : ℕ) (discont : Bool)
    (regression : Option Calibration) :
    InWindow fps (s.update captureTime streamTime discont regression) := by
  have hsize := update_window_size s.src captureTime streamTime discont regression
  have hsound : Sound s.src.windowSize (4 * fps)
      (window (s.update captureTime streamTime discont regression)) := by
    rw [window_update h.sampler.length h.rate]
    exact sound_tick h.sampler h.size_pos _
  refine ⟨hsize ▸ h.size_pos, ?_, hsize ▸ hsound, h.filled_next, hsize ▸ h.written_next, ?_⟩
  · exact (congrArg roundedFps (update_time_mapping_stream _ _ _ _ _).info).trans h.rate
  · intro times hmem
    have hold : times ∈ s.fitted → times.length = s.src.windowSize ∧
        Fresh (s.update captureTime streamTime discont regression).taken times := by
      intro hmem
      obtain ⟨hl, hfresh⟩ := h.fitted times hmem
      obtain ⟨more, hmore⟩ := update_taken s captureTime streamTime discont regression
      exact ⟨hl, hmore ▸ hfresh.append more⟩
    have hmem : times ∈ if runsRegression s.src captureTime streamTime then
        s.fitted ++ [(s.src.storeSample captureTime streamTime).times] else s.fitted := hmem
    rw [show (s.update captureTime streamTime discont regression).src.windowSize = _ from hsize]
    split at hmem
    case isFalse => exact hold hmem
    case isTrue hruns =>
      rcases List.mem_append.mp hmem with hmem | hmem
      · exact hold hmem
      · obtain ⟨htimes, hfilled⟩ := regression_window discont regression hruns
        obtain rfl := List.mem_singleton.mp hmem
        rw [← htimes]
        exact ⟨hsound.length, fresh_of_sound hsound (h.filled_next hfilled)⟩

theorem in_window (hfps : 1 ≤ fps) (h : Reachable (updates fps) s) : InWindow fps s := by
  apply h.invariant
  · exact fun i hi => in_window_started hfps hi
  · intro a e b hi _ hn
    cases e with
    | update captureTime streamTime discont regression =>
      cases hn
      exact in_window_update hi captureTime streamTime discont regression
    | others src' =>
      obtain ⟨hrate, hn⟩ := Option.ite_none_right_eq_some.mp hn
      cases hn
      exact in_window_others hi hrate

theorem grown_skip_of_reachable (hfps : 1 ≤ fps) (hmax : fps ≤ 2 ^ 29)
    (h : Reachable (updates fps) s) : grownSkip32 s.src = s.src.grownSkip := by
  have hs := in_window hfps h
  have hskip : s.src.windowSkip = min (2 ^ s.fulls) (4 * fps) := hs.sampler.skip
  apply grown_skip_32
  · rw [hs.rate]
    exact hmax
  · rw [hs.rate, hskip]
    exact Nat.min_le_right _ _

end Runs

/-! ## The callback -/

theorem lose_signal_window (src : GstAjaVideoSrc) : SameWindow src src.loseSignal := by
  unfold GstAjaVideoSrc.loseSignal GstAjaVideoSrc.pushMarker
  split
  · exact .refl src
  · split <;> constructor <;> rfl

theorem anchor_window (src : GstAjaVideoSrc) (mode : GstAjaMode) (t n : ℕ) :
    SameWindow src (src.anchor mode t n).1 := by
  unfold GstAjaVideoSrc.anchor GstAjaVideoSrc.noteFirstTime GstAjaVideoSrc.gainSignal
    GstAjaVideoSrc.pushMarker
  simp only
  repeat' split
  all_goals constructor <;> rfl

theorem queue_frame_window (src : GstAjaVideoSrc) (b : AjaVideoBuff) (timestamp streamTime : ℕ)
    (had : Bool) : SameWindow src (src.queueFrame b timestamp streamTime had) := by
  constructor <;> rfl

section Callback

variable {fps : ℕ} {mode : GstAjaMode} {env : CaptureEnv} {b : AjaVideoBuff} {s : WindowRun}

theorem prepare_update {src : GstAjaVideoSrc} (hb : b.haveSignal = true)
    (hskip : src.skipsFrame mode env b = false) :
    (src.gotFramePrepare mode env (some b)).1 =
      (anchoredFor src mode env b).updateTimeMapping (env.clock.capturePipeline (some b))
        ((anchoredFor src mode env b).streamTime mode b.frameNumber) b.droppedChanged
        env.regression := by
  rcases prepare_cases src mode env b with ⟨hno, -⟩ | ⟨-, hs, -⟩ | ⟨-, -, hp⟩
  · rw [hb] at hno
    cases hno
  · rw [hskip] at hs
    cases hs
  · rw [hp]
    rfl

theorem others_execution (src' : GstAjaVideoSrc) (hw : SameWindow s.src src')
    (hrate : roundedFps src'.info = fps) :
    Execution (updates fps) (fun _ _ => True) s { s with src := src' } := by
  refine (Execution.refl s).tail (e := .others src') trivial ?_
  change (if roundedFps src'.info = fps then _ else _) = _
  rw [if_pos hrate, hw.other_fields_eq]

theorem got_frame_execution (hrate : roundedFps s.src.info = fps)
    (videoBuff : Option AjaVideoBuff) (flushing : Bool) :
    ∃ t, Execution (updates fps) (fun _ _ => True) s t ∧
      t.src = (s.src.gotFrame mode env videoBuff flushing).1 := by
  have lost : Execution (updates fps) (fun _ _ => True) s { s with src := s.src.loseSignal } := by
    apply others_execution _ (lose_signal_window _)
    rw [(lose_signal_settings s.src).info, hrate]
  cases videoBuff with
  | none => exact ⟨_, lost, rfl⟩
  | some b =>
    have anchored : Execution (updates fps) (fun _ _ => True) s
        { s with src := anchoredFor s.src mode env b } := by
      apply others_execution _ (anchor_window _ _ _ _)
      exact (congrArg roundedFps (anchor_settings _ _ _ _).info).trans hrate
    rcases got_frame_cases s.src mode env b flushing with
      ⟨-, hg⟩ | ⟨-, hg⟩ | ⟨hb, hskip, hg⟩
    · exact ⟨_, lost, by rw [hg]⟩
    · exact ⟨_, anchored, by rw [hg]⟩
    · have hinfo := (prepare_settings s.src mode env (some b)).info
      have updated := anchored.tail (e := .update (env.clock.capturePipeline (some b))
        ((anchoredFor s.src mode env b).streamTime mode b.frameNumber) b.droppedChanged
        env.regression) trivial rfl
      rcases hg with hg | ⟨f, hg, -⟩
      · exact ⟨_, updated, by rw [hg]; exact (prepare_update hb hskip).symm⟩
      · have queued := updated.trans (others_execution
          (s.src.gotFrame mode env (some b) flushing).1
          (by rw [hg, prepare_update hb hskip]; exact queue_frame_window _ _ _ _ _)
          (by rw [hg]; exact (congrArg roundedFps hinfo).trans hrate))
        exact ⟨_, queued, rfl⟩

end Callback

/-- With a fixed frame rate, after any number of calls since the streams were started, the
window is not full, nothing was written behind it, and the skip has doubled with every full
window up to four seconds. Within a window the samples are as many calls apart as the skip
says, and the regression only ever saw windows that were written since the start. -/
theorem sampling_window {fps : ℕ} (hfps : 1 ≤ fps) {s : WindowRun}
    (h : Reachable (updates fps) s) : WindowSound fps s := by
  have hs := in_window hfps h
  exact ⟨hs.fill_lt, hs.written_lt, hs.sampler.count_lt, hs.sampler.skip, hs.sampler.spaced,
    hs.fitted⟩

def startedWindow : WindowRun := ⟨startedRun.src, 0, 0, [], [], []⟩

theorem sampling_window_second : ∃ s, WindowSound 60 s ∧ s.fulls = 1 ∧ s.src.windowSkip = 2 ∧
    s.taken.length = 67 ∧ s.fitted.length = 4 := by
  obtain ⟨s, hs, hp⟩ := reachable_of_trace (m := updates 60) (i := startedWindow)
    (l := (List.range 70).map fun n => .update (1000 + n) n false none)
    (p := fun s => decide (s.fulls = 1 ∧ s.src.windowSkip = 2 ∧ s.taken.length = 67 ∧
      s.fitted.length = 4))
    ⟨rfl, by decide, rfl, rfl, by decide⟩ (by decide +kernel)
  exact ⟨s, sampling_window (by decide) hs, of_decide_eq_true hp⟩

end AjaSampleWindow
