import NTV2Gst.WrappingCounter
import NTV2Gst.AjaCapturePipeline

/-!
# The worker's count of dropped frames

`D i` is the true number of frames the driver has dropped when the worker reads its
`i`-th status, of which the status holds 32 bits; `transfers i` says whether that
iteration hands over a frame.
-/
namespace AjaDropCounter

open AjaCapturePipeline WrappingCounter

/-- The true counts never fall, start from zero and grow by less than `2 ^ 32` at a time. -/
structure DropCounts (D : ℕ → ℕ) : Prop where
  first : D 0 < 2 ^ 32
  monotone : ∀ i, D i ≤ D (i + 1)
  step : ∀ i, D (i + 1) - D i < 2 ^ 32

section Iterations

variable (D : ℕ → ℕ) (transfers : ℕ → Bool)

def workerBefore : ℕ → ACInputWorker
  | 0 => .start
  | i + 1 =>
    let w := (workerBefore i).countDrops (D i % 2 ^ 32)
    if transfers i then w.transferred else w

def workerAt (i : ℕ) : ACInputWorker := (workerBefore D transfers i).countDrops (D i % 2 ^ 32)

def lastRead : ℕ → ℕ
  | 0 => 0
  | i + 1 => D i

def lastTransferred : ℕ → ℕ
  | 0 => 0
  | i + 1 => if transfers i then D i else lastTransferred i

/-- What the counters of the worker and of the frames it hands over are for. The audio
half of a frame keeps 32 bits of the number. -/
structure CountsExactly (i : ℕ) : Prop where
  dropped_frames : (workerAt D transfers i).droppedFrames = D i
  last_dropped_frames : (workerAt D transfers i).lastDroppedFrames = D i % 2 ^ 32
  dropped_changed : transfers i = true → ∀ buffer d,
    (((workerAt D transfers i).videoBuff buffer d).droppedChanged = true ↔
      D i ≠ lastTransferred D transfers i) ∧
    (((workerAt D transfers i).audioBuff buffer d).droppedChanged = true ↔
      D i ≠ lastTransferred D transfers i)
  frame_number : ∀ j < i, transfers j = true → transfers i = true →
    (∀ k, j < k → k < i → transfers k = false) → ∀ buffer d buffer' d',
    ((workerAt D transfers i).videoBuff buffer' d').frameNumber =
      ((workerAt D transfers j).videoBuff buffer d).frameNumber + (1 + (D i - D j)) ∧
    ((workerAt D transfers i).audioBuff buffer' d').frameNumber =
      (((workerAt D transfers j).audioBuff buffer d).frameNumber + (1 + (D i - D j))) % 2 ^ 32

end Iterations

variable {D : ℕ → ℕ} {transfers : ℕ → Bool}

/-! ## One status -/

/-- The second branch of the difference counts one frame too few. -/
theorem dropped_frames_count_drops (w : ACInputWorker) (ac : ℕ) :
    (w.countDrops ac).droppedFrames =
      w.droppedFrames + advance (2 ^ 32) 1 w.lastDroppedFrames ac := by
  unfold ACInputWorker.countDrops advance
  by_cases h : w.lastDroppedFrames = ac
  · rw [if_pos h, if_neg (by omega)]
    omega
  · rw [if_neg h]

theorem last_dropped_frames_count_drops (w : ACInputWorker) (ac : ℕ) :
    (w.countDrops ac).lastDroppedFrames = ac := by
  unfold ACInputWorker.countDrops
  split <;> simp_all

theorem dropped_frames_now_count_drops (w : ACInputWorker) (ac : ℕ) :
    (w.countDrops ac).droppedFramesNow = true ↔
      w.droppedFramesNow = true ∨ ac ≠ w.lastDroppedFrames := by
  unfold ACInputWorker.countDrops
  by_cases h : w.lastDroppedFrames = ac
  · simp [h]
  · simp [h, Ne.symm h]

@[simp] theorem processed_frames_count_drops (w : ACInputWorker) (ac : ℕ) :
    (w.countDrops ac).processedFrames = w.processedFrames := by
  unfold ACInputWorker.countDrops
  split <;> rfl

structure Holds (w : ACInputWorker) (p q : ℕ) : Prop where
  dropped_frames : w.droppedFrames = rebuilt (2 ^ 32) 1 p
  last_dropped_frames : w.lastDroppedFrames = p % 2 ^ 32
  order : q ≤ p
  dropped_frames_now : w.droppedFramesNow = true ↔ p ≠ q

theorem Holds.count_drops {w : ACInputWorker} {p q d : ℕ} (h : Holds w p q) (hp : p ≤ d)
    (hd : d - p < 2 ^ 32) : Holds (w.countDrops (d % 2 ^ 32)) d q where
  dropped_frames := by
    rw [dropped_frames_count_drops, h.dropped_frames, h.last_dropped_frames]
    exact rebuilt_advance (by omega) le_rfl hp hd
  last_dropped_frames := last_dropped_frames_count_drops w _
  order := h.order.trans hp
  dropped_frames_now := by
    rw [dropped_frames_now_count_drops, h.last_dropped_frames, h.dropped_frames_now,
      reading_changed_iff (by omega) hp hd]
    have hq := h.order
    omega

theorem Holds.transferred {w : ACInputWorker} {p q : ℕ} (h : Holds w p q) :
    Holds w.transferred p p where
  dropped_frames := h.dropped_frames
  last_dropped_frames := h.last_dropped_frames
  order := le_rfl
  dropped_frames_now := by simp [ACInputWorker.transferred]

/-! ## All iterations -/

theorem DropCounts.last_read_le (h : DropCounts D) (i : ℕ) :
    lastRead D i ≤ D i ∧ D i - lastRead D i < 2 ^ 32 := by
  cases i with
  | zero => exact ⟨Nat.zero_le _, h.first⟩
  | succ i => exact ⟨h.monotone i, h.step i⟩

theorem DropCounts.le (h : DropCounts D) {i j : ℕ} (hij : i ≤ j) : D i ≤ D j := by
  induction hij with
  | refl => exact le_rfl
  | step _ ih => exact ih.trans (h.monotone _)

theorem holds_before (h : DropCounts D) (i : ℕ) :
    Holds (workerBefore D transfers i) (lastRead D i) (lastTransferred D transfers i) := by
  induction i with
  | zero => constructor <;> simp [workerBefore, ACInputWorker.start, lastRead, lastTransferred,
      rebuilt]
  | succ i ih =>
    have counted := ih.count_drops (h.last_read_le i).1 (h.last_read_le i).2
    by_cases ht : transfers i = true
    · simp only [workerBefore, lastTransferred, lastRead, ht, if_true]
      exact counted.transferred
    · simp only [workerBefore, lastTransferred, lastRead, ht]
      exact counted

theorem holds_at (h : DropCounts D) (i : ℕ) :
    Holds (workerAt D transfers i) (D i) (lastTransferred D transfers i) :=
  (holds_before h i).count_drops (h.last_read_le i).1 (h.last_read_le i).2

theorem processed_frames_between {i j : ℕ} (hj : transfers j = true) (hji : j < i)
    (hk : ∀ k, j < k → k < i → transfers k = false) :
    (workerAt D transfers i).processedFrames = (workerAt D transfers j).processedFrames + 1 := by
  unfold workerAt
  rw [processed_frames_count_drops, processed_frames_count_drops]
  induction hji with
  | refl => simp [workerBefore, hj, ACInputWorker.transferred]
  | step hji ih =>
    rw [workerBefore, if_neg (by simp [hk _ hji (Nat.lt_succ_self _)]),
      processed_frames_count_drops]
    exact ih fun k h h' => hk k h (h'.trans (Nat.lt_succ_self _))

theorem dropped_frames_at (h : DropCounts D) (i : ℕ) :
    (workerAt D transfers i).droppedFrames = D i - 1 * (D i / 2 ^ 32) :=
  (holds_at h i).dropped_frames

theorem counts_exactly_of_lt (h : DropCounts D) {i : ℕ} (hi : D i < 2 ^ 32) :
    CountsExactly D transfers i := by
  have exact_at : ∀ j ≤ i, (workerAt D transfers j).droppedFrames = D j := by
    intro j hj
    have hle := h.le hj
    rw [(holds_at h j).dropped_frames, rebuilt_eq_iff (by omega)]
    omega
  constructor
  · exact exact_at i le_rfl
  · exact (holds_at h i).last_dropped_frames
  · intro _ buffer d
    exact ⟨(holds_at h i).dropped_frames_now, (holds_at h i).dropped_frames_now⟩
  · intro j hji htj _ hk buffer d buffer' d'
    have hp := processed_frames_between (D := D) htj hji hk
    have hle := h.le hji.le
    have hdi := exact_at i le_rfl
    have hdj := exact_at j hji.le
    unfold ACInputWorker.videoBuff ACInputWorker.audioBuff
    simp only [hp, hdi, hdj]
    omega

/-- The counters are exact as long as the driver's counter has not wrapped, and only then. -/
theorem counts_exactly_iff (D : ℕ → ℕ) (transfers : ℕ → Bool) (h : DropCounts D) (i : ℕ) :
    CountsExactly D transfers i ↔ D i < 2 ^ 32 := by
  constructor
  · intro hc
    rw [← rebuilt_eq_iff (m := 2 ^ 32) (by omega), ← (holds_at h i).dropped_frames]
    exact hc.dropped_frames
  · exact counts_exactly_of_lt h

theorem counts_exactly_at_five :
    CountsExactly (fun i => 2 * i) (fun _ => true) 5 ↔ 2 * 5 < 2 ^ 32 := by
  apply counts_exactly_iff (fun i => 2 * i) (fun _ => true)
  exact ⟨by decide, fun i => by omega, fun i => by omega⟩

def wrappingDrops : ℕ → ℕ
  | 0 => 0
  | 1 => 2 ^ 32 - 1
  | _ + 2 => 2 ^ 32

theorem count_short_after_wrap :
    ¬ ∀ D transfers, DropCounts D → ∀ i, CountsExactly D transfers i := by
  intro h
  have hw : DropCounts wrappingDrops := by
    constructor
    · decide
    · rintro (_ | _ | i) <;> simp [wrappingDrops]
    · rintro (_ | _ | i) <;> simp [wrappingDrops]
  have hd := (h wrappingDrops (fun _ => true) hw 2).dropped_frames
  rw [dropped_frames_at hw] at hd
  revert hd
  decide

end AjaDropCounter
