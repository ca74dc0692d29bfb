import Mathlib.Tactic.Ring
import NTV2Gst.AjaVideoSrc

/-!
# Timing of the pixel formats

A hardware format has up to three modes, in 8-bit YUV, RGBA and 10-bit YUV. The frame rate
of a mode enters the stream time, the duration of a buffer, the step of the time mapping
and the latency.
-/
namespace AjaModeTiming

open AjaVideoSrc GstAjaModes GstClockMath

/-- `gst_util_uint64_scale_ceil`. -/
def uint64ScaleCeil (val num denom : ℕ) : ℕ :=
  if denom = 0 then maxUint64 else min ((val * num + (denom - 1)) / denom) maxUint64

structure Latency where
  min : ℕ
  max : ℕ
  deriving DecidableEq, Repr

def latency (mode : GstAjaMode) (queueSize : ℕ) : Latency :=
  let min := uint64ScaleCeil second mode.fpsD mode.fpsN
  ⟨min, queueSize * min % 2 ^ 64⟩

def inMode (videoInfoFromCaps : GstCaps → GstVideoInfo) (src : GstAjaVideoSrc)
    (mode : GstAjaMode) (b : AjaVideoBuff) : GstAjaVideoSrc :=
  { src with
    info := frameInfo videoInfoFromCaps mode b.isNvmm b.transferCharacteristics b.colorimetry
      b.fullRange }

structure SameTiming (videoInfoFromCaps : GstCaps → GstVideoInfo) (a b : GstAjaMode) : Prop where
  stream_time : ∀ discontTime discontFrameNumber frameNumber,
    discontFrameNumber ≤ frameNumber →
      streamTime a discontTime discontFrameNumber frameNumber =
        streamTime b discontTime discontFrameNumber frameNumber
  duration : frameDuration a = frameDuration b
  slew : ∀ src f g, (inMode videoInfoFromCaps src a f).maxDiff =
    (inMode videoInfoFromCaps src b g).maxDiff
  latency : ∀ queueSize, latency a queueSize = latency b queueSize

/-- The library keeps the frame rate of the caps, as long as it is in lowest terms. -/
def KeepsRate (videoInfoFromCaps : GstCaps → GstVideoInfo) : Prop :=
  ∀ caps, Nat.Coprime caps.content.fpsN caps.content.fpsD →
    (videoInfoFromCaps caps).fpsN = caps.content.fpsN ∧
      (videoInfoFromCaps caps).fpsD = caps.content.fpsD

/-! ## Scaling by equal fractions -/

def SameRate (a b : GstAjaMode) : Prop := a.fpsN * b.fpsD = b.fpsN * a.fpsD

instance (a b : GstAjaMode) : Decidable (SameRate a b) := inferInstanceAs (Decidable (_ = _))

section Scaling

variable {n m d e : ℕ}

theorem scale_same_rate (val c : ℕ) (hn : 0 < n) (hm : 0 < m) (h : n * e = m * d) :
    uint64Scale val (d * c) n = uint64Scale val (e * c) m := by
  have hquot : val * (d * c) / n = val * (e * c) / m := by
    calc val * (d * c) / n = val * (d * c) * m / (n * m) := (Nat.mul_div_mul_right _ _ hm).symm
      _ = val * (e * c) * n / (m * n) := by
        rw [Nat.mul_comm n m]
        congr 1
        calc val * (d * c) * m = val * c * (m * d) := by ring
          _ = val * c * (n * e) := by rw [h]
          _ = val * (e * c) * n := by ring
      _ = val * (e * c) / m := Nat.mul_div_mul_right _ _ hn
  simp only [uint64Scale, hn.ne', hm.ne', if_false, hquot]

theorem ceil_le_iff (hn : 0 < n) (a q : ℕ) : (a + (n - 1)) / n ≤ q ↔ a ≤ q * n := by
  rw [Nat.div_le_iff_le_mul_add_pred hn, Nat.mul_comm n q]
  omega

theorem ceil_same_rate (val : ℕ) (hn : 0 < n) (hm : 0 < m) (h : n * e = m * d) :
    uint64ScaleCeil val d n = uint64ScaleCeil val e m := by
  have hle : ∀ q, val * d ≤ q * n ↔ val * e ≤ q * m := by
    intro q
    calc val * d ≤ q * n ↔ val * d * m ≤ q * n * m := (Nat.mul_le_mul_right_iff hm).symm
      _ ↔ val * e * n ≤ q * m * n := by
        have hl : val * d * m = val * e * n := by
          calc val * d * m = val * (m * d) := by ring
            _ = val * (n * e) := by rw [h]
            _ = val * e * n := by ring
        rw [hl, Nat.mul_right_comm q n m]
      _ ↔ val * e ≤ q * m := Nat.mul_le_mul_right_iff hn
  have hquot : (val * d + (n - 1)) / n = (val * e + (m - 1)) / m := by
    apply Nat.le_antisymm
    · rw [ceil_le_iff hn, hle, ← ceil_le_iff hm]
    · rw [ceil_le_iff hm, ← hle, ← ceil_le_iff hn]
  simp only [uint64ScaleCeil, hn.ne', hm.ne', if_false, hquot]

end Scaling

theorem in_mode_max_diff {videoInfoFromCaps : GstCaps → GstVideoInfo}
    (hkeep : KeepsRate videoInfoFromCaps) (src : GstAjaVideoSrc) {mode : GstAjaMode}
    (hmode : Nat.Coprime mode.fpsN mode.fpsD) (b : AjaVideoBuff) :
    (inMode videoInfoFromCaps src mode b).maxDiff =
      uint64Scale (second / 20) mode.fpsD mode.fpsN := by
  obtain ⟨hn, hd⟩ := hkeep (mode.capsRaw b.isNvmm) hmode
  simp only [GstAjaVideoSrc.maxDiff, inMode, frameInfo, GstVideoInfo.withColorimetry, hn, hd]
  rfl

theorem same_timing_of_rate {videoInfoFromCaps : GstCaps → GstVideoInfo}
    (hkeep : KeepsRate videoInfoFromCaps) {e f : ℕ} {a b : GstAjaMode}
    (ha : getModeRaw e = some a) (hb : getModeRaw f = some b) (h : SameRate a b) :
    SameTiming videoInfoFromCaps a b := by
  have ha' := (mode_rate_valid ha).num_pos
  have hb' := (mode_rate_valid hb).num_pos
  constructor
  case stream_time =>
    intro t k n _
    unfold streamTime
    rw [scale_same_rate _ _ ha' hb' h]
  case duration =>
    have hscale := scale_same_rate second 1 ha' hb' h
    simpa only [frameDuration, Nat.mul_one] using hscale
  case slew =>
    intro src f g
    have hscale := scale_same_rate (second / 20) 1 ha' hb' h
    rw [in_mode_max_diff hkeep src (mode_rate_coprime ha),
      in_mode_max_diff hkeep src (mode_rate_coprime hb)]
    simpa only [Nat.mul_one] using hscale
  case latency =>
    intro queueSize
    simp only [AjaModeTiming.latency, ceil_same_rate second ha' hb' h]

/-! ## The table -/

def mode720p2398v210 : ℕ := 22

def leading (videoFormat : NTV2VideoFormat) : Option GstAjaMode :=
  modesRaw.find? (·.videoFormat = videoFormat)

private theorem rows_rate : ∀ row ∈ modesRaw.zipIdx, row.2 ≠ mode720p2398v210 →
    ∃ first ∈ leading row.1.videoFormat, SameRate row.1 first := by
  decide +kernel

theorem rate_of_leading {e : ℕ} {mode : GstAjaMode} (h : getModeRaw e = some mode)
    (he : e ≠ mode720p2398v210) :
    ∃ first ∈ leading mode.videoFormat, SameRate mode first := by
  have hrow : (mode, e) ∈ modesRaw.zipIdx := List.mem_zipIdx_iff_getElem?.mpr h
  exact rows_rate (mode, e) hrow he

theorem same_rate_of_format {e f : ℕ} {a b : GstAjaMode} (ha : getModeRaw e = some a)
    (hb : getModeRaw f = some b) (hf : a.videoFormat = b.videoFormat)
    (he : e ≠ mode720p2398v210) (hf' : f ≠ mode720p2398v210) : SameRate a b := by
  obtain ⟨first, hfirst, hrate⟩ := rate_of_leading ha he
  obtain ⟨first', hfirst', hrate'⟩ := rate_of_leading hb hf'
  rw [hf] at hfirst
  obtain rfl : first = first' := Option.mem_unique hfirst hfirst'
  have hd : 0 < first.fpsD := by
    have hmem : first ∈ modesRaw := List.mem_of_find?_eq_some hfirst
    obtain ⟨i, hi⟩ := List.mem_iff_getElem?.mp hmem
    exact (mode_rate_valid hi).den_pos
  unfold SameRate at hrate hrate' ⊢
  apply Nat.eq_of_mul_eq_mul_right hd
  calc a.fpsN * b.fpsD * first.fpsD = a.fpsN * first.fpsD * b.fpsD := by ring
    _ = first.fpsN * a.fpsD * b.fpsD := by rw [hrate]
    _ = first.fpsN * b.fpsD * a.fpsD := by ring
    _ = b.fpsN * first.fpsD * a.fpsD := by rw [hrate']
    _ = b.fpsN * a.fpsD * first.fpsD := by ring

/-- The odd row runs at a tenth of the rate that the other rows of its format have. -/
private theorem odd_row_duration : ∀ row ∈ modesRaw.zipIdx, row.2 ≠ mode720p2398v210 →
    row.1.videoFormat = .format720p_2398 → frameDuration row.1 = 41708333 := by
  decide +kernel

theorem odd_row_differs {e : ℕ} {a b : GstAjaMode} (ha : getModeRaw e = some a)
    (hb : getModeRaw mode720p2398v210 = some b) (hf : a.videoFormat = b.videoFormat)
    (he : e ≠ mode720p2398v210) : frameDuration a ≠ frameDuration b := by
  obtain rfl : b = hd .format720p_2398 1280 720 10 yuv 2400 1001 false true :=
    (Option.some.inj hb).symm
  have hrow : (a, e) ∈ modesRaw.zipIdx := List.mem_zipIdx_iff_getElem?.mpr ha
  rw [odd_row_duration (a, e) hrow he hf]
  decide

/-- Two modes of one hardware format have the same timing unless exactly one of them is the
10-bit mode of 720p at 23.98 frames a second. -/
theorem same_timing_iff (videoInfoFromCaps : GstCaps → GstVideoInfo)
    (hkeep : KeepsRate videoInfoFromCaps) (e f : ℕ) (a b : GstAjaMode)
    (ha : getModeRaw e = some a) (hb : getModeRaw f = some b)
    (hf : a.videoFormat = b.videoFormat) :
    SameTiming videoInfoFromCaps a b ↔ (e = mode720p2398v210 ↔ f = mode720p2398v210) := by
  constructor
  · intro h
    constructor
    · rintro rfl
      by_contra hne
      exact odd_row_differs hb ha hf.symm hne h.duration.symm
    · rintro rfl
      by_contra hne
      exact odd_row_differs ha hb hf hne h.duration
  · intro h
    by_cases he : e = mode720p2398v210
    · obtain rfl : e = f := he.trans (h.mp he).symm
      obtain rfl : a = b := Option.some.inj (ha.symm.trans hb)
      exact same_timing_of_rate hkeep ha hb rfl
    · exact same_timing_of_rate hkeep ha hb
        (same_rate_of_format ha hb hf he fun hf' => he (h.mpr hf'))

theorem caps_video_info_keeps_rate : KeepsRate capsVideoInfo := fun _ _ => ⟨rfl, rfl⟩

theorem same_timing_1080p2997 : SameTiming capsVideoInfo
    (hd .format1080p_2997 1920 1080 8 yuv 30000 1001 false true)
    (hd .format1080p_2997 1920 1080 10 yuv 30000 1001 false true) :=
  (same_timing_iff capsVideoInfo caps_video_info_keeps_rate 30 52 _ _ rfl rfl rfl).mpr
    (by decide)

/-- In 10 bits a frame of 720p at 23.98 frames a second lasts 417 ms. -/
theorem slow_720p2398 : ¬ ∀ e f a b, getModeRaw e = some a → getModeRaw f = some b →
    a.videoFormat = b.videoFormat → SameTiming capsVideoInfo a b := by
  intro h
  have ht := h 12 22 _ _ rfl rfl rfl
  exact absurd ht.duration (by decide)

end AjaModeTiming
