import Mathlib.Tactic.Common
import NTV2Gst.AjaVideoSrc

/-!
# The capture time of a frame

`got_frame` dates a frame back from the moment it handles it, by the delay since the
capture. Real time and the delay are in microseconds, the pipeline clock and its base time
in nanoseconds.
-/
namespace AjaCaptureTime

open AjaVideoSrc

/-- The capture of a frame in real time; `acFrameTime` counts units of 100 ns. -/
def captureSys (b : AjaVideoBuff) : ℕ := b.timeStamp / 10

def later (clock : CaptureClock) (d : ℕ) : CaptureClock :=
  { clock with
    nowSys := clock.nowSys + d
    nowPipeline := clock.nowPipeline + 1000 * d }

/-- The frame was captured before it is handled, at most a second ago. -/
def Plausible (clock : CaptureClock) (b : AjaVideoBuff) : Prop :=
  captureSys b ≤ clock.nowSys ∧ clock.nowSys - captureSys b < 1000000

instance (clock : CaptureClock) (b : AjaVideoBuff) : Decidable (Plausible clock b) :=
  inferInstanceAs (Decidable (_ ∧ _))

def runningTimeAtCapture (clock : CaptureClock) (b : AjaVideoBuff) : ℕ :=
  clock.nowPipeline - 1000 * (clock.nowSys - captureSys b) - clock.baseTime

/-- Handling the frame `d` microseconds later makes no difference, and the time is that of
the capture. -/
structure DelayFree (clock : CaptureClock) (b : AjaVideoBuff) (d : ℕ) : Prop where
  same : (later clock d).capturePipeline (some b) = clock.capturePipeline (some b)
  at_capture : clock.capturePipeline (some b) = runningTimeAtCapture clock b

section Frame

variable {clock : CaptureClock} {b : AjaVideoBuff} {d : ℕ}

theorem capture_pipeline_eq (h : Plausible clock b) : clock.capturePipeline (some b) =
    clock.nowPipeline - (clock.nowSys - captureSys b) - clock.baseTime := by
  unfold CaptureClock.capturePipeline
  exact congrArg (clock.nowPipeline - · - clock.baseTime) (if_pos h)

theorem plausible_of_later (hb : captureSys b ≤ clock.nowSys) (h : Plausible (later clock d) b) :
    Plausible clock b := by
  obtain ⟨-, hlt⟩ := h
  refine ⟨hb, ?_⟩
  simp only [later] at hlt
  omega

/-- A frame that is handled `c` microseconds after its capture is dated `999 * c` ns late,
until the time is cut off at zero. -/
theorem capture_pipeline_late (h : Plausible clock b)
    (hpos : 1000 * (clock.nowSys - captureSys b) + clock.baseTime ≤ clock.nowPipeline) :
    clock.capturePipeline (some b) =
      runningTimeAtCapture clock b + 999 * (clock.nowSys - captureSys b) := by
  rw [capture_pipeline_eq h, runningTimeAtCapture]
  omega

theorem capture_pipeline_zero (h : Plausible clock b)
    (hz : clock.nowPipeline ≤ clock.nowSys - captureSys b + clock.baseTime) :
    clock.capturePipeline (some b) = 0 ∧ runningTimeAtCapture clock b = 0 := by
  rw [capture_pipeline_eq h, runningTimeAtCapture]
  omega

end Frame

/-- The time does not depend on the delay if there is none, or if the frame is handled so
early that the time is cut off at zero. -/
theorem delay_free_iff (clock : CaptureClock) (b : AjaVideoBuff) (d : ℕ)
    (hb : captureSys b ≤ clock.nowSys) (h : Plausible (later clock d) b) :
    DelayFree clock b d ↔
      clock.nowSys + d = captureSys b ∨
      clock.nowPipeline + 1000 * d ≤ clock.nowSys + d - captureSys b + clock.baseTime := by
  have now := capture_pipeline_eq (plausible_of_later hb h)
  have late := capture_pipeline_eq h
  simp only [later] at late
  constructor
  · rintro ⟨hsame, hat⟩
    unfold later at hsame
    rw [late, now] at hsame
    rw [now, runningTimeAtCapture] at hat
    omega
  · rintro (hnone | hzero)
    · have hd : d = 0 := by omega
      subst hd
      refine ⟨rfl, ?_⟩
      rw [now, runningTimeAtCapture]
      omega
    · obtain ⟨hlate, -⟩ := capture_pipeline_zero h hzero
      obtain ⟨hnow, hrun⟩ := capture_pipeline_zero (plausible_of_later hb h) (by omega)
      exact ⟨hlate.trans hnow.symm, hnow.trans hrun.symm⟩

def frameAtOneSecond : AjaVideoBuff :=
  ⟨0, false, 0, 0, false, 0, 0, 10000000, true, 3, 3, false, 1, 0, false⟩

theorem delay_free_before_start : DelayFree ⟨1004000, 7000000, 8000000⟩ frameAtOneSecond 1 :=
  (delay_free_iff ⟨1004000, 7000000, 8000000⟩ frameAtOneSecond 1 (by decide) (by decide)).mpr
    (Or.inr (by decide))

/-- Handled 10 ms after the capture and 1 ms later still, a frame gets two different times,
and neither is the time of its capture. -/
theorem delay_shows : ¬ ∀ clock b d, captureSys b ≤ clock.nowSys →
    Plausible (later clock d) b → DelayFree clock b d := by
  intro h
  have hd := h ⟨1010000, 5000000000, 0⟩ frameAtOneSecond 1000 (by decide) (by decide)
  exact absurd hd.at_capture (by decide)

end AjaCaptureTime
