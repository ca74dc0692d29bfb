import NTV2Gst.BitFields
import NTV2Gst.AjaVideoSrc

/-!
# From a captured timecode to the timecode of a buffer

`ACInputWorker` keeps the words that the device answers, `create` reads the digits off them
with the masks of the SDK, which are a parameter.
-/
namespace AjaTimecodeDigits

open BitFields GstAjaModes AjaVideoSrc

structure Rp188 where
  fDBB : BitVec 32
  fLo : BitVec 32
  fHi : BitVec 32
  deriving DecidableEq, Repr

/-- An answer of all ones stands for no timecode; the fields of the record then keep what they
had. -/
def captureTimeCode (answer : Option Rp188) (b : AjaVideoBuff) : AjaVideoBuff :=
  match answer with
  | some t =>
    if t.fDBB ≠ 0xffffffff ∨ t.fLo ≠ 0xffffffff ∨ t.fHi ≠ 0xffffffff then
      { b with timeCodeLow := t.fLo.toNat, timeCodeHigh := t.fHi.toNat, timeCodeValid := true }
    else { b with timeCodeValid := false }
  | none => { b with timeCodeValid := false }

/-! ## `create` -/

structure Rp188Masks where
  frameUnits : BitVec 32
  frameTens : BitVec 32
  secondUnits : BitVec 32
  secondTens : BitVec 32
  minutesUnits : BitVec 32
  minutesTens : BitVec 32
  hourUnits : BitVec 32
  hourTens : BitVec 32

structure TimeCode where
  hours : ℕ
  minutes : ℕ
  seconds : ℕ
  frames : ℕ
  deriving DecidableEq, Repr

def number (w tensMask : BitVec 32) (tensShift : ℕ) (unitsMask : BitVec 32) (unitsShift : ℕ) : ℕ :=
  ((((w &&& tensMask) >>> tensShift) * 10#32 + ((w &&& unitsMask) >>> unitsShift)).setWidth 8).toNat

def timeCode (m : Rp188Masks) (high low : BitVec 32) : TimeCode where
  hours := number high m.hourTens 24 m.hourUnits 16
  minutes := number high m.minutesTens 8 m.minutesUnits 0
  seconds := number low m.secondTens 24 m.secondUnits 16
  frames := number low m.frameTens 8 m.frameUnits 0

structure VideoTimeCode where
  fpsN : ℕ
  fpsD : ℕ
  interlaced : Bool
  dropFrame : Bool
  fieldCount : ℕ
  time : TimeCode
  deriving DecidableEq, Repr

def initTimeCode (m : Rp188Masks) (t : GstVideoTimeCode) : VideoTimeCode where
  fpsN := t.fpsN
  fpsD := t.fpsD
  interlaced := t.interlaced
  dropFrame := t.dropFrame
  fieldCount := t.fieldCount
  time := timeCode m (BitVec.ofNat 32 t.high) (BitVec.ofNat 32 t.low)

/-- The timecode that a buffer goes out with; `isValid` is the test of the video library. -/
def timeCodeMeta (m : Rp188Masks) (isValid : VideoTimeCode → Bool) (mode : GstAjaMode)
    (b : AjaVideoBuff) : Option VideoTimeCode :=
  ((frameTimeCode mode b).map (initTimeCode m)).filter isValid

/-! ## The words of SMPTE 12M -/

abbrev hourTens : Field := ⟨24, 2⟩
abbrev hourUnits : Field := ⟨16, 4⟩
abbrev minutesTens : Field := ⟨8, 3⟩
abbrev minutesUnits : Field := ⟨0, 4⟩
abbrev secondTens : Field := ⟨24, 3⟩
abbrev secondUnits : Field := ⟨16, 4⟩
abbrev frameTens : Field := ⟨8, 2⟩
abbrev frameUnits : Field := ⟨0, 4⟩

structure CoverDigits (m : Rp188Masks) : Prop where
  frame_units : m.frameUnits = frameUnits.mask 32
  frame_tens : m.frameTens = frameTens.mask 32
  second_units : m.secondUnits = secondUnits.mask 32
  second_tens : m.secondTens = secondTens.mask 32
  minutes_units : m.minutesUnits = minutesUnits.mask 32
  minutes_tens : m.minutesTens = minutesTens.mask 32
  hour_units : m.hourUnits = hourUnits.mask 32
  hour_tens : m.hourTens = hourTens.mask 32

def writeNumber (tens units : Field) (k : ℕ) (w : BitVec 32) : BitVec 32 :=
  tens.write (BitVec.ofNat _ (k / 10)) (units.write (BitVec.ofNat _ (k % 10)) w)

def TimeCode.words (t : TimeCode) (dbb low high : BitVec 32) : Rp188 where
  fDBB := dbb
  fLo := writeNumber secondTens secondUnits t.seconds
    (writeNumber frameTens frameUnits t.frames low)
  fHi := writeNumber hourTens hourUnits t.hours
    (writeNumber minutesTens minutesUnits t.minutes high)

structure TimeCode.Fits (t : TimeCode) : Prop where
  hours : t.hours < 40
  minutes : t.minutes < 80
  seconds : t.seconds < 80
  frames : t.frames < 40

/-! ## Reading digits -/

theorem number_eq {tens units : Field} (ht : tens.Within 32) (hu : units.Within 32)
    (hwt : tens.width ≤ 4) (hwu : units.width ≤ 4) (w : BitVec 32) :
    number w (tens.mask 32) tens.offset (units.mask 32) units.offset =
      (tens.read w).toNat * 10 + (units.read w).toNat := by
  have ht16 : (tens.read w).toNat < 16 :=
    Nat.lt_of_lt_of_le (tens.read w).isLt (Nat.pow_le_pow_right (by decide) hwt)
  have hu16 : (units.read w).toNat < 16 :=
    Nat.lt_of_lt_of_le (units.read w).isLt (Nat.pow_le_pow_right (by decide) hwu)
  rw [number, mask_shift, mask_shift, BitVec.toNat_setWidth, BitVec.toNat_add, BitVec.toNat_mul,
    set_width_read_to_nat ht, set_width_read_to_nat hu, BitVec.toNat_ofNat]
  omega

theorem number_write {tens units : Field} (ht : tens.Within 32) (hu : units.Within 32)
    (ha : tens.Apart units) (hwt : tens.width ≤ 4) (hwu : units.width = 4) {k : ℕ}
    (hk : k / 10 < 2 ^ tens.width) (w : BitVec 32) :
    number (writeNumber tens units k w) (tens.mask 32) tens.offset (units.mask 32) units.offset =
      k := by
  have hunits : k % 10 < 2 ^ units.width := by
    rw [hwu]
    exact Nat.lt_trans (Nat.mod_lt k (by decide)) (by decide)
  rw [number_eq ht hu hwt (Nat.le_of_eq hwu), writeNumber, read_write_same ht,
    read_write_apart ha, read_write_same hu, BitVec.toNat_ofNat, BitVec.toNat_ofNat,
    Nat.mod_eq_of_lt hk, Nat.mod_eq_of_lt hunits]
  omega

theorem number_write_apart {tens units tens' units' : Field} (ht : tens.Within 32)
    (hu : units.Within 32) (hwt : tens.width ≤ 4) (hwu : units.width ≤ 4)
    (htt : tens'.Apart tens) (htu : tens'.Apart units) (hut : units'.Apart tens)
    (huu : units'.Apart units) (k : ℕ) (w : BitVec 32) :
    number (writeNumber tens' units' k w) (tens.mask 32) tens.offset (units.mask 32)
        units.offset =
      number w (tens.mask 32) tens.offset (units.mask 32) units.offset := by
  rw [number_eq ht hu hwt hwu, number_eq ht hu hwt hwu, writeNumber, read_write_apart htt,
    read_write_apart hut, read_write_apart htu, read_write_apart huu]

theorem time_code_words {m : Rp188Masks} (hm : CoverDigits m) {t : TimeCode} (ht : t.Fits)
    (dbb low high : BitVec 32) :
    timeCode m (t.words dbb low high).fHi (t.words dbb low high).fLo = t := by
  have hours : number (t.words dbb low high).fHi m.hourTens 24 m.hourUnits 16 = t.hours := by
    rw [hm.hour_tens, hm.hour_units]
    have := ht.hours
    exact number_write (by decide) (by decide) (by decide) (by decide) rfl
      (show t.hours / 10 < 4 by omega) _
  have minutes : number (t.words dbb low high).fHi m.minutesTens 8 m.minutesUnits 0 =
      t.minutes := by
    rw [hm.minutes_tens, hm.minutes_units]
    have := ht.minutes
    exact (number_write_apart (by decide) (by decide) (by decide) (by decide) (by decide)
      (by decide) (by decide) (by decide) _ _).trans
        (number_write (by decide) (by decide) (by decide) (by decide) rfl
          (show t.minutes / 10 < 8 by omega) _)
  have seconds : number (t.words dbb low high).fLo m.secondTens 24 m.secondUnits 16 =
      t.seconds := by
    rw [hm.second_tens, hm.second_units]
    have := ht.seconds
    exact number_write (by decide) (by decide) (by decide) (by decide) rfl
      (show t.seconds / 10 < 8 by omega) _
  have frames : number (t.words dbb low high).fLo m.frameTens 8 m.frameUnits 0 = t.frames := by
    rw [hm.frame_tens, hm.frame_units]
    have := ht.frames
    exact (number_write_apart (by decide) (by decide) (by decide) (by decide) (by decide)
      (by decide) (by decide) (by decide) _ _).trans
        (number_write (by decide) (by decide) (by decide) (by decide) rfl
          (show t.frames / 10 < 4 by omega) _)
  unfold timeCode
  rw [hours, minutes, seconds, frames]

/-- The units of the hours are a decimal digit, so the words are never taken for none. -/
theorem words_ne_ones (t : TimeCode) (dbb low high : BitVec 32) :
    (t.words dbb low high).fHi ≠ 0xffffffff := by
  intro h
  have hread : hourUnits.read (t.words dbb low high).fHi = BitVec.ofNat 4 (t.hours % 10) :=
    (read_write_apart (by decide) _ _).trans (read_write_same (by decide) _ _)
  rw [h, show hourUnits.read (0xffffffff : BitVec 32) = 15#4 by decide] at hread
  have := congrArg BitVec.toNat hread
  simp only [BitVec.toNat_ofNat] at this
  omega

def ofTime (mode : GstAjaMode) (fieldCount : ℕ) (t : TimeCode) : VideoTimeCode where
  fpsN := mode.fpsN
  fpsD := mode.fpsD
  interlaced := mode.isInterlaced
  dropFrame := mode.fpsD == 1001 && (mode.fpsN == 30000 || mode.fpsN == 60000)
  fieldCount := if mode.isInterlaced then (if fieldCount = 0 then 2 else fieldCount) else 0
  time := t

/-- The buffer of a frame carries the time that was sent with it, whatever the user bits and
flags around the digits are; without an answer, or with one of all ones, it carries none. -/
theorem time_code_round_trip {m : Rp188Masks} (hm : CoverDigits m)
    (isValid : VideoTimeCode → Bool) (mode : GstAjaMode) (b : AjaVideoBuff) :
    (∀ (t : TimeCode) (dbb low high : BitVec 32), t.Fits →
      timeCodeMeta m isValid mode (captureTimeCode (some (t.words dbb low high)) b) =
        (some (ofTime mode b.fieldCount t)).filter isValid) ∧
    ∀ answer : Option Rp188,
      (∀ t ∈ answer, t = ⟨0xffffffff, 0xffffffff, 0xffffffff⟩) →
      timeCodeMeta m isValid mode (captureTimeCode answer b) = none := by
  constructor
  · intro t dbb low high ht
    have hcapture : captureTimeCode (some (t.words dbb low high)) b =
        { b with
          timeCodeLow := (t.words dbb low high).fLo.toNat
          timeCodeHigh := (t.words dbb low high).fHi.toNat
          timeCodeValid := true } :=
      if_pos (Or.inr (Or.inr (words_ne_ones t dbb low high)))
    have htime := time_code_words hm ht dbb low high
    rw [hcapture]
    simp only [timeCodeMeta, frameTimeCode, if_true, Option.map_some, initTimeCode,
      BitVec.ofNat_toNat, BitVec.setWidth_eq, htime]
    rfl
  · intro answer hnone
    have hcapture : captureTimeCode answer b = { b with timeCodeValid := false } := by
      cases answer with
      | none => rfl
      | some t =>
        rw [hnone t rfl]
        rfl
    rw [hcapture]
    rfl

theorem time_code_round_trip_late :
    timeCodeMeta ⟨0xF, 0x300, 0xF0000, 0x7000000, 0xF, 0x700, 0xF0000, 0x3000000⟩
        (fun _ => true) mode720p5994
        (captureTimeCode (some ((⟨23, 59, 58, 29⟩ : TimeCode).words 0 (-1) (-1)))
          (⟨0, false, 0, 0, false, 0, 0, 0, true, 3, 3, false, 1, 0, false⟩ : AjaVideoBuff)) =
      some (ofTime mode720p5994 0 ⟨23, 59, 58, 29⟩) :=
  (time_code_round_trip (by constructor <;> decide) (fun _ => true) mode720p5994 _).1
    ⟨23, 59, 58, 29⟩ 0 (-1) (-1) (by constructor <;> decide)

end AjaTimecodeDigits
