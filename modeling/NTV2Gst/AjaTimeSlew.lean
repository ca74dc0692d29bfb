import NTV2Gst.AjaTimestamps

/-!
# How far one update moves the time mapping

`update_time_mapping` samples, and then moves the current mapping towards a pending one.
What the current mapping makes of the stream time of the frame shows by how much: the
mapping is kept, replaced, or moved by 5% of a frame towards the pending one.
-/
namespace AjaTimeSlew

open GstClockMath AjaVideoSrc AjaTimestamps

def distance (a b : ℕ) : ℕ := if a < b then b - a else a - b

theorem distance_up {a b : ℕ} (h : a < b) : distance a b = b - a := if_pos h

theorem distance_down {a b : ℕ} (h : b ≤ a) : distance a b = a - b := if_neg (by omega)

def slewLimit (src : GstAjaVideoSrc) : ℕ := second / 20 * src.info.fpsD / src.info.fpsN

/-- The call takes the very first sample and makes a mapping of it. -/
def InstallsFirst (src : GstAjaVideoSrc) (captureTime streamTime : ℕ) : Prop :=
  src.windowSkipCount = 0 ∧ (src.storeSample captureTime streamTime).windowFilled = false ∧
    (src.storeSample captureTime streamTime).windowFill = 1

instance (src : GstAjaVideoSrc) (captureTime streamTime : ℕ) :
    Decidable (InstallsFirst src captureTime streamTime) :=
  inferInstanceAs (Decidable (_ ∧ _))

/-- The base times of the mappings are 64-bit numbers, and the current one has a rate. -/
structure ValidMappings (src : GstAjaVideoSrc) (regression : Option Calibration) : Prop where
  rate : 0 < src.currentTimeMapping.den
  current : src.currentTimeMapping.b < 2 ^ 64
  next : src.nextTimeMapping.b < 2 ^ 64
  regression : ∀ m ∈ regression, m.b < 2 ^ 64

/-- `a` is the source after the regression step, `t` after the call; the current mapping
takes the stream time to `expected` before the call and the pending one to `new`. -/
structure BoundedSlew (a t : GstAjaVideoSrc) (streamTime : ℕ) (discont : Bool)
    (expected new limit : ℕ) : Prop where
  kept : a.nextTimeMappingPending = false →
    clockAdjustWithCalibration streamTime t.currentTimeMapping = expected
  replaced : a.nextTimeMappingPending = true →
    (discont = true ∨ distance expected new ≤ limit ∨ 50000000 ≤ distance expected new) →
    clockAdjustWithCalibration streamTime t.currentTimeMapping = new ∧
      t.nextTimeMappingPending = false
  up : a.nextTimeMappingPending = true → discont = false → limit < distance expected new →
    distance expected new < 50000000 → expected < new →
    clockAdjustWithCalibration streamTime t.currentTimeMapping = expected + limit ∧
      expected + limit < new
  down : a.nextTimeMappingPending = true → discont = false → limit < distance expected new →
    distance expected new < 50000000 → new < expected →
    clockAdjustWithCalibration streamTime t.currentTimeMapping = expected - limit ∧
      limit ≤ expected ∧ new < expected - limit
  closer : a.nextTimeMappingPending = true → discont = false → limit < distance expected new →
    distance expected new < 50000000 →
    distance (clockAdjustWithCalibration streamTime t.currentTimeMapping) new + limit =
      distance expected new
  pending : a.nextTimeMappingPending = true → discont = false → limit < distance expected new →
    distance expected new < 50000000 →
    t.nextTimeMappingPending = true ∧ t.nextTimeMapping = a.nextTimeMapping ∧
      t.currentTimeMapping.num = a.currentTimeMapping.num ∧
      t.currentTimeMapping.den = a.currentTimeMapping.den

section Update

variable {src a : GstAjaVideoSrc} {captureTime streamTime : ℕ} {regression : Option Calibration}

theorem sample_mappings (hv : ValidMappings src regression)
    (hf : ¬ InstallsFirst src captureTime streamTime) :
    (src.sample captureTime streamTime regression).currentTimeMapping = src.currentTimeMapping ∧
      (src.sample captureTime streamTime regression).nextTimeMapping.b < 2 ^ 64 := by
  unfold GstAjaVideoSrc.sample
  by_cases hskip : src.windowSkipCount = 0
  · rw [if_pos hskip]
    obtain ⟨hcur, hnext⟩ := store_sample_mappings src captureTime streamTime
    have hstart : (src.storeSample captureTime streamTime).startMapping captureTime streamTime =
        src.storeSample captureTime streamTime := if_neg fun h => hf ⟨hskip, h⟩
    unfold GstAjaVideoSrc.takeSample
    rw [hstart]
    unfold GstAjaVideoSrc.fitMapping
    split
    · exact ⟨hcur, hv.regression _ rfl⟩
    · rw [hcur, hnext]
      exact ⟨rfl, hv.next⟩
  · rw [if_neg hskip]
    exact ⟨rfl, hv.next⟩

theorem max_diff_eq (hfps : 0 < a.info.fpsN) : a.maxDiff = min (slewLimit a) maxUint64 := by
  unfold GstAjaVideoSrc.maxDiff uint64Scale slewLimit
  rw [if_neg hfps.ne']

theorem mapping_diff_eq (a : GstAjaVideoSrc) (streamTime : ℕ) :
    a.mappingDiff streamTime =
      distance (clockAdjustWithCalibration streamTime a.currentTimeMapping)
        (clockAdjustWithCalibration streamTime a.nextTimeMapping) := rfl

theorem apply_pending_between (hfps : 0 < a.info.fpsN) (hcur : a.currentTimeMapping.b < 2 ^ 64)
    (hnext : a.nextTimeMapping.b < 2 ^ 64) (hp : a.nextTimeMappingPending = true)
    (hlow : slewLimit a < a.mappingDiff streamTime) (hhigh : a.mappingDiff streamTime < 50000000) :
    a.applyPending streamTime false =
        { a with currentTimeMapping := slewed a streamTime } ∧ a.maxDiff = slewLimit a ∧
      clockAdjustWithCalibration streamTime (slewed a streamTime) = (slewed a streamTime).b := by
  have hE := adjust_lt hcur streamTime
  have hN := adjust_lt hnext streamTime
  have hM := max_diff_eq hfps
  have hmax : a.maxDiff = slewLimit a := by
    unfold maxUint64 at hM
    omega
  refine ⟨?_, hmax, adjust_at_base (c := slewed a streamTime) ?_⟩
  · unfold GstAjaVideoSrc.applyPending
    rw [if_pos hp, if_pos ⟨rfl, by omega, by omega⟩]
    rfl
  · unfold slewed
    rw [hmax]
    rw [mapping_diff_eq] at hlow
    unfold distance at hlow
    dsimp only
    split at hlow <;> split <;> omega

theorem apply_pending_slew (hfps : 0 < a.info.fpsN) (hcur : a.currentTimeMapping.b < 2 ^ 64)
    (hnext : a.nextTimeMapping.b < 2 ^ 64) (streamTime : ℕ) (discont : Bool) :
    BoundedSlew a (a.applyPending streamTime discont) streamTime discont
      (clockAdjustWithCalibration streamTime a.currentTimeMapping)
      (clockAdjustWithCalibration streamTime a.nextTimeMapping) (slewLimit a) := by
  have hE := adjust_lt hcur streamTime
  have hN := adjust_lt hnext streamTime
  have hdiff := mapping_diff_eq a streamTime
  have hM := max_diff_eq hfps
  -- a limit beyond 64 bits is above every distance
  have hlt : distance (clockAdjustWithCalibration streamTime a.currentTimeMapping)
      (clockAdjustWithCalibration streamTime a.nextTimeMapping) ≤ maxUint64 := by
    unfold distance maxUint64
    split <;> omega
  have between := @apply_pending_between a streamTime hfps hcur hnext
  rw [hdiff] at between
  generalize hEq : clockAdjustWithCalibration streamTime a.currentTimeMapping = E at *
  generalize hNq : clockAdjustWithCalibration streamTime a.nextTimeMapping = N at *
  constructor
  case kept =>
    intro hp
    unfold GstAjaVideoSrc.applyPending
    rw [if_neg (by simp [hp]), hEq]
  case replaced =>
    intro hp hclose
    unfold GstAjaVideoSrc.applyPending
    rw [if_pos hp, if_neg]
    · exact ⟨hNq, rfl⟩
    · rintro ⟨hd, hlow, hhigh⟩
      rw [hd] at hclose
      simp only [Bool.false_eq_true, false_or] at hclose
      omega
  case up =>
    intro hp hd hlow hhigh hup
    subst hd
    obtain ⟨happ, hmax, hbase⟩ := between hp hlow hhigh
    rw [happ, hbase]
    unfold slewed
    rw [hEq, hNq, if_pos hup, hmax]
    rw [distance_up hup] at hlow
    exact ⟨rfl, by omega⟩
  case down =>
    intro hp hd hlow hhigh hdown
    subst hd
    obtain ⟨happ, hmax, hbase⟩ := between hp hlow hhigh
    rw [happ, hbase]
    unfold slewed
    rw [hEq, hNq, if_neg (by omega), hmax]
    rw [distance_down hdown.le] at hlow
    exact ⟨rfl, by omega, by omega⟩
  case closer =>
    intro hp hd hlow hhigh
    subst hd
    obtain ⟨happ, hmax, hbase⟩ := between hp hlow hhigh
    rw [happ, hbase]
    unfold slewed
    rw [hEq, hNq, hmax]
    dsimp only
    by_cases hup : E < N
    · rw [distance_up hup] at hlow ⊢
      rw [if_pos hup, distance_up (by omega)]
      omega
    · have hle : N ≤ E := by omega
      rw [distance_down hle] at hlow ⊢
      rw [if_neg hup, distance_down (by omega)]
      omega
  case pending =>
    intro hp hd hlow hhigh
    subst hd
    obtain ⟨happ, -, -⟩ := between hp hlow hhigh
    rw [happ]
    exact ⟨hp, rfl, rfl, rfl⟩

end Update

/-- Every call except the one that installs the first mapping keeps the mapping, replaces it
by the pending one, or moves it by exactly 5% of a frame towards that. -/
theorem update_time_mapping_slew (src : GstAjaVideoSrc) (captureTime streamTime : ℕ)
    (discont : Bool) (regression : Option Calibration) (hfps : 0 < src.info.fpsN)
    (hv : ValidMappings src regression) (hf : ¬ InstallsFirst src captureTime streamTime) :
    BoundedSlew (src.sample captureTime streamTime regression)
      (src.updateTimeMapping captureTime streamTime discont regression) streamTime discont
      (clockAdjustWithCalibration streamTime src.currentTimeMapping)
      (clockAdjustWithCalibration streamTime
        (src.sample captureTime streamTime regression).nextTimeMapping) (slewLimit src) ∧
    ((src.sample captureTime streamTime regression).currentTimeMapping =
      src.currentTimeMapping) := by
  obtain ⟨hcur, hnext⟩ := sample_mappings hv hf
  have hinfo : (src.sample captureTime streamTime regression).info = src.info :=
    (sample_stream src captureTime streamTime regression).info
  have slew := apply_pending_slew (a := src.sample captureTime streamTime regression)
    (by rw [hinfo]; exact hfps) (by rw [hcur]; exact hv.current) hnext streamTime discont
  have hlimit : slewLimit (src.sample captureTime streamTime regression) = slewLimit src := by
    rw [slewLimit, hinfo, slewLimit]
  rw [hcur, hlimit] at slew
  exact ⟨slew, hcur⟩

def settledSource (b : ℕ) : GstAjaVideoSrc :=
  { GstAjaVideoSrc.init 15 8 false 0 with
    info := { GstVideoInfo.empty with fpsN := 60000, fpsD := 1001 }
    windowFilled := true
    windowSize := 64
    windowSkip := 1
    currentTimeMapping := ⟨0, b, 1, 1⟩ }

theorem settled_source_valid {b : ℕ} (hb : b < 2 ^ 64) :
    ValidMappings (settledSource b) (some ⟨0, 0, 1, 1⟩) :=
  ⟨Nat.one_pos, hb, Nat.two_pow_pos 64, by rintro _ ⟨⟩; exact Nat.two_pow_pos 64⟩

theorem settled_source_slew :
    clockAdjustWithCalibration 1000 ((settledSource 5000000).updateTimeMapping 7 1000 false
      (some ⟨0, 0, 1, 1⟩)).currentTimeMapping = 5001000 - 834166 := by
  have h := (update_time_mapping_slew (settledSource 5000000) 7 1000 false (some ⟨0, 0, 1, 1⟩)
    (by decide) (settled_source_valid (by decide)) (by decide)).1.down
    (by decide) rfl (by decide) (by decide) (by decide)
  exact h.1

end AjaTimeSlew
