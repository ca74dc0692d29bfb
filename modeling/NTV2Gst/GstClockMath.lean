import Mathlib.Data.Nat.Notation
import Mathlib.Data.Nat.ModEq

/-!
# Clock arithmetic on 64-bit times

Times are nanoseconds below `2 ^ 64`; sums and differences wrap as `guint64` does.
Scaling is exact, rounds down and saturates. A calibration is an affine map given
by a base point and a rational rate; its unbounded image is what the 64-bit
computation returns whenever that image fits.
-/
namespace GstClockMath

def maxUint64 : ℕ := 2 ^ 64 - 1

def clockTimeNone : ℕ := maxUint64

def second : ℕ := 1000000000

def u64Add (a b : ℕ) : ℕ := (a + b) % 2 ^ 64

def u64Sub (a b : ℕ) : ℕ := (2 ^ 64 + a - b) % 2 ^ 64

def uint64Scale (val num denom : ℕ) : ℕ :=
  if denom = 0 then maxUint64 else min (val * num / denom) maxUint64

theorem u64_add_of_lt {a b : ℕ} (h : a + b < 2 ^ 64) : u64Add a b = a + b :=
  Nat.mod_eq_of_lt h

theorem u64_sub_of_le {a b : ℕ} (ha : a < 2 ^ 64) (h : b ≤ a) : u64Sub a b = a - b := by
  have heq : 2 ^ 64 + a - b = (a - b) + 2 ^ 64 := by omega
  rw [u64Sub, heq, Nat.add_mod_right, Nat.mod_eq_of_lt (by omega)]

theorem u64_add_lt (a b : ℕ) : u64Add a b < 2 ^ 64 := Nat.mod_lt _ (by decide)

theorem uint64_scale_of_lt {val num denom : ℕ} (hd : 0 < denom)
    (h : val * num / denom < 2 ^ 64) : uint64Scale val num denom = val * num / denom := by
  have hle : val * num / denom ≤ maxUint64 := by unfold maxUint64; omega
  simp [uint64Scale, hd.ne', min_eq_left hle]

/-- External time is `(t - xbase) * num / den + b`. -/
structure Calibration where
  xbase : ℕ
  b : ℕ
  num : ℕ
  den : ℕ
  deriving DecidableEq, Repr

def Calibration.identity : Calibration := ⟨0, 0, 1, 1⟩

/-- `gst_clock_adjust_with_calibration`: a zero denominator counts as rate one and
a result below zero is clamped. -/
def clockAdjustWithCalibration (t : ℕ) (c : Calibration) : ℕ :=
  let num := if c.den = 0 then 1 else c.num
  let den := if c.den = 0 then 1 else c.den
  if c.xbase ≤ t then u64Add (uint64Scale (t - c.xbase) num den) c.b
  else c.b - uint64Scale (c.xbase - t) num den

def Calibration.image (c : Calibration) (t : ℕ) : ℕ :=
  if c.xbase ≤ t then c.b + (t - c.xbase) * c.num / c.den
  else c.b - (c.xbase - t) * c.num / c.den

theorem adjust_eq_image {c : Calibration} {t : ℕ} (hden : 0 < c.den) (hb : c.b < 2 ^ 64)
    (hfit : c.image t < 2 ^ 64) : clockAdjustWithCalibration t c = c.image t := by
  unfold Calibration.image at hfit ⊢
  unfold clockAdjustWithCalibration
  by_cases hx : c.xbase ≤ t
  · simp only [hx, hden.ne', if_true, if_false] at hfit ⊢
    rw [uint64_scale_of_lt hden (by omega), u64_add_of_lt (by omega), Nat.add_comm]
  · simp only [hx, hden.ne', if_false, uint64Scale]
    -- a saturated scale exceeds `b`, so both sides are clamped to zero
    unfold maxUint64
    omega

theorem scaled_add_le (a b num den : ℕ) :
    a * num / den + b * num / den ≤ (a + b) * num / den := by
  rw [Nat.add_mul]
  exact Nat.div_add_div_le_add_div

theorem scaled_add_ge (a b num den : ℕ) :
    (a + b) * num / den ≤ a * num / den + b * num / den + 1 := by
  rw [Nat.add_mul]
  exact Nat.add_div_le_div_add_div_add_one _ _ _

theorem half_le_scaled {d num den : ℕ} (hden : 0 < den) (hrate : den ≤ 2 * num) :
    d / 2 ≤ d * num / den := by
  rw [Nat.le_div_iff_mul_le hden]
  have h₁ : d / 2 * den ≤ d / 2 * (2 * num) := Nat.mul_le_mul_left _ hrate
  have h₂ : d / 2 * (2 * num) ≤ d * num := by
    rw [← Nat.mul_assoc]
    exact Nat.mul_le_mul_right _ (Nat.div_mul_le_self d 2)
  exact h₁.trans h₂

/-- Between two times the image grows by the scaled distance, up to the rounding at
the base point; below the clamp there is nothing to compare. -/
theorem image_growth (c : Calibration) {s t : ℕ} (hst : s ≤ t) :
    c.image s = 0 ∨ c.image s + (t - s) * c.num / c.den ≤ c.image t + 1 := by
  unfold Calibration.image
  by_cases hs : c.xbase ≤ s
  · have ht : c.xbase ≤ t := hs.trans hst
    have h := scaled_add_le (s - c.xbase) (t - s) c.num c.den
    rw [show s - c.xbase + (t - s) = t - c.xbase by omega] at h
    simp only [hs, ht, if_true]
    omega
  · by_cases ht : c.xbase ≤ t
    · have h := scaled_add_ge (c.xbase - s) (t - c.xbase) c.num c.den
      rw [show c.xbase - s + (t - c.xbase) = t - s by omega] at h
      simp only [hs, ht, if_true, if_false]
      omega
    · have h := scaled_add_le (c.xbase - t) (t - s) c.num c.den
      rw [show c.xbase - t + (t - s) = c.xbase - s by omega] at h
      simp only [hs, ht, if_false]
      omega

theorem image_growth_half {c : Calibration} (hden : 0 < c.den) (hrate : c.den ≤ 2 * c.num)
    {s t : ℕ} (hst : s ≤ t) : c.image s = 0 ∨ c.image s + (t - s) / 2 ≤ c.image t + 1 := by
  have hhalf := half_le_scaled (d := t - s) hden hrate
  rcases image_growth c hst with h | h
  · exact Or.inl h
  · exact Or.inr (by omega)

theorem adjust_at_base {c : Calibration} (hb : c.b < 2 ^ 64) :
    clockAdjustWithCalibration c.xbase c = c.b := by
  have hscale : ∀ num den, den ≠ 0 → uint64Scale 0 num den = 0 := by
    intro num den hd
    simp [uint64Scale, hd]
  unfold clockAdjustWithCalibration
  simp only [le_refl, if_true, Nat.sub_self]
  rw [hscale, u64_add_of_lt (by simpa using hb), Nat.zero_add]
  split <;> simp_all

theorem adjust_lt {c : Calibration} (hb : c.b < 2 ^ 64) (t : ℕ) :
    clockAdjustWithCalibration t c < 2 ^ 64 := by
  unfold clockAdjustWithCalibration
  by_cases hx : c.xbase ≤ t
  · simpa only [hx, if_true] using u64_add_lt _ _
  · simpa only [hx, if_false] using (Nat.sub_le _ _).trans_lt hb

structure Calibration.Forward (c : Calibration) : Prop where
  den_pos : 0 < c.den
  half : c.den ≤ 2 * c.num
  base_lt : c.b < 2 ^ 64

instance (c : Calibration) : Decidable c.Forward :=
  decidable_of_iff (0 < c.den ∧ c.den ≤ 2 * c.num ∧ c.b < 2 ^ 64)
    ⟨fun ⟨h₁, h₂, h₃⟩ => ⟨h₁, h₂, h₃⟩, fun ⟨h₁, h₂, h₃⟩ => ⟨h₁, h₂, h₃⟩⟩

theorem identity_forward : Calibration.identity.Forward := by constructor <;> decide

/-- Half of the time between two readings makes up for moving the map back by less. -/
theorem adjust_le_of_moved_back {c : Calibration} (hc : c.Forward) {s t back : ℕ}
    (hs : c.image s < 2 ^ 64) (ht : c.image t < 2 ^ 64) (hst : s + 2 * (back + 1) ≤ t) {time : ℕ}
    (hback : clockAdjustWithCalibration t c ≤ time + back) :
    clockAdjustWithCalibration s c ≤ time := by
  rw [adjust_eq_image hc.den_pos hc.base_lt ht] at hback
  rw [adjust_eq_image hc.den_pos hc.base_lt hs]
  rcases image_growth_half hc.den_pos hc.half (s := s) (t := t) (by omega) with h | h
  · omega
  · have : back + 1 ≤ (t - s) / 2 := by omega
    omega

end GstClockMath
