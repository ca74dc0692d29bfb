import Mathlib.Data.Nat.Notation

/-!
# Raw video modes

The table of selectable modes. A mode is named by its position, as the property
`mode` does, and looked up through `getModeRaw`.
-/
namespace GstAjaModes

/-- The frame formats the sources name. -/
inductive NTV2VideoFormat where
  | unknown | format1080i_5000 | format1080i_5994 | format1080i_6000 | format1080p_2398
  | format1080p_2400 | format1080p_2500 | format1080p_2997 | format1080p_2K_2398
  | format1080p_2K_2400 | format1080p_2K_2500 | format1080p_2K_2997 | format1080p_2K_3000
  | format1080p_2K_4795_A | format1080p_2K_4800_A | format1080p_2K_5000_A
  | format1080p_2K_5994_A | format1080p_2K_6000_A | format1080p_3000 | format1080p_5000_A
  | format1080p_5000_B | format1080p_5994_A | format1080p_5994_B | format1080p_6000_A
  | format1080p_6000_B | format3840x2160p_2398 | format3840x2160p_2400 | format3840x2160p_2500
  | format3840x2160p_2997 | format3840x2160p_3000 | format3840x2160p_5000
  | format3840x2160p_5994 | format3840x2160p_6000 | format4096x2160p_11988
  | format4096x2160p_12000 | format4096x2160p_2398 | format4096x2160p_2400
  | format4096x2160p_2500 | format4096x2160p_2997 | format4096x2160p_3000
  | format4096x2160p_4795 | format4096x2160p_4800 | format4096x2160p_5000
  | format4096x2160p_5994 | format4096x2160p_6000 | format4x1920x1080p_2398
  | format4x1920x1080p_2400 | format4x1920x1080p_2500 | format4x1920x1080p_2997
  | format4x1920x1080p_3000 | format4x1920x1080p_5000 | format4x1920x1080p_5994
  | format4x1920x1080p_6000 | format4x2048x1080p_11988 | format4x2048x1080p_12000
  | format4x2048x1080p_2398 | format4x2048x1080p_2400 | format4x2048x1080p_2500
  | format4x2048x1080p_2997 | format4x2048x1080p_3000 | format4x2048x1080p_4795
  | format4x2048x1080p_4800 | format4x2048x1080p_5000 | format4x2048x1080p_5994
  | format4x2048x1080p_6000 | format4x3840x2160p_2398 | format4x3840x2160p_2400
  | format4x3840x2160p_2500 | format4x3840x2160p_2997 | format4x3840x2160p_3000
  | format4x3840x2160p_5000 | format4x3840x2160p_5994 | format4x3840x2160p_6000
  | format4x4096x2160p_2398 | format4x4096x2160p_2400 | format4x4096x2160p_2500
  | format4x4096x2160p_2997 | format4x4096x2160p_3000 | format4x4096x2160p_4795
  | format4x4096x2160p_4800 | format4x4096x2160p_5000 | format4x4096x2160p_5994
  | format4x4096x2160p_6000 | format525_2398 | format525_2400 | format525_5994 | format625_5000
  | format720p_2398 | format720p_2500 | format720p_5000 | format720p_5994 | format720p_6000
  deriving DecidableEq, Repr

structure GstAjaMode where
  videoFormat : NTV2VideoFormat
  width : ℕ
  height : ℕ
  bitDepth : ℕ
  isRGBA : Bool
  fpsN : ℕ
  fpsD : ℕ
  isInterlaced : Bool
  is422 : Bool
  parN : ℕ
  parD : ℕ
  isTff : Bool
  colorimetry : String
  deriving DecidableEq, Repr

private def row (parN parD : ℕ) (isTff : Bool) (colorimetry : String)
    (videoFormat : NTV2VideoFormat) (width height bitDepth : ℕ) (isRGBA : Bool)
    (fpsN fpsD : ℕ) (isInterlaced is422 : Bool) : GstAjaMode :=
  ⟨videoFormat, width, height, bitDepth, isRGBA, fpsN, fpsD, isInterlaced, is422, parN, parD,
    isTff, colorimetry⟩

def ntsc := row 10 11 false "bt601"
def pal := row 12 11 true "bt601"
def hd := row 1 1 true "bt709"
def uhd := row 1 1 true "bt2020"

def yuv : Bool := false
def rgba : Bool := true

def modesRaw : List GstAjaMode := [
  ntsc .format525_2398 720 486 8 yuv 24000 1001 true true,
  ntsc .format525_2400 720 486 8 yuv 24 1 true true,
  ntsc .format525_5994 720 486 8 yuv 30000 1001 true true,
  ntsc .format525_2398 720 486 8 rgba 24000 1001 true true,
  ntsc .format525_2400 720 486 8 rgba 24 1 true true,
  ntsc .format525_5994 720 486 8 rgba 30000 1001 true true,
  ntsc .format525_2398 720 486 10 yuv 24000 1001 true true,
  ntsc .format525_2400 720 486 10 yuv 24 1 true true,
  ntsc .format525_5994 720 486 10 yuv 30000 1001 true true,
  pal .format625_5000 720 486 8 yuv 25 1 true true,
  pal .format625_5000 720 486 8 rgba 25 1 true true,
  pal .format625_5000 720 486 10 yuv 25 1 true true,
  hd .format720p_2398 1280 720 8 yuv 24000 1001 false true,
  hd .format720p_2500 1280 720 8 yuv 25 1 false true,
  hd .format720p_5000 1280 720 8 yuv 50 1 false true,
  hd .format720p_5994 1280 720 8 yuv 60000 1001 false true,
  hd .format720p_6000 1280 720 8 yuv 60 1 false true,
  hd .format720p_2398 1280 720 8 rgba 24000 1001 false true,
  hd .format720p_2500 1280 720 8 rgba 25 1 false true,
  hd .format720p_5000 1280 720 8 rgba 50 1 false true,
  hd .format720p_5994 1280 720 8 rgba 60000 1001 false true,
  hd .format720p_6000 1280 720 8 rgba 60 1 false true,
  hd .format720p_2398 1280 720 10 yuv 2400 1001 false true,
  hd .format720p_2500 1280 720 10 yuv 25 1 false true,
  hd .format720p_5000 1280 720 10 yuv 50 1 false true,
  hd .format720p_5994 1280 720 10 yuv 60000 1001 false true,
  hd .format720p_6000 1280 720 10 yuv 60 1 false true,
  hd .format1080p_2398 1920 1080 8 yuv 24000 1001 false true,
  hd .format1080p_2400 1920 1080 8 yuv 24 1 false true,
  hd .format1080p_2500 1920 1080 8 yuv 25 1 false true,
  hd .format1080p_2997 1920 1080 8 yuv 30000 1001 false true,
  hd .format1080p_3000 1920 1080 8 yuv 30 1 false true,
  hd .format1080i_5000 1920 1080 8 yuv 25 1 true true,
  hd .format1080p_5000_A 1920 1080 8 yuv 50 1 false true,
  hd .format1080i_5994 1920 1080 8 yuv 30000 1001 true true,
  hd .format1080p_5994_A 1920 1080 8 yuv 60000 1001 false true,
  hd .format1080i_6000 1920 1080 8 yuv 30 1 true true,
  hd .format1080p_6000_A 1920 1080 8 yuv 60 1 false true,
  hd .format1080p_2398 1920 1080 8 rgba 24000 1001 false true,
  hd .format1080p_2400 1920 1080 8 rgba 24 1 false true,
  hd .format1080p_2500 1920 1080 8 rgba 25 1 false true,
  hd .format1080p_2997 1920 1080 8 rgba 30000 1001 false true,
  hd .format1080p_3000 1920 1080 8 rgba 30 1 false true,
  hd .format1080i_5000 1920 1080 8 rgba 25 1 true true,
  hd .format1080p_5000_A 1920 1080 8 rgba 50 1 false true,
  hd .format1080i_5994 1920 1080 8 rgba 30000 1001 true true,
  hd .format1080p_5994_A 1920 1080 8 rgba 60000 1001 false true,
  hd .format1080i_6000 1920 1080 8 rgba 30 1 true true,
  hd .format1080p_6000_A 1920 1080 8 rgba 60 1 false true,
  hd .format1080p_2398 1920 1080 10 yuv 24000 1001 false true,
  hd .format1080p_2400 1920 1080 10 yuv 24 1 false true,
  hd .format1080p_2500 1920 1080 10 yuv 25 1 false true,
  hd .format1080p_2997 1920 1080 10 yuv 30000 1001 false true,
  hd .format1080p_3000 1920 1080 10 yuv 30 1 false true,
  hd .format1080i_5000 1920 1080 10 yuv 25 1 true true,
  hd .format1080p_5000_A 1920 1080 10 yuv 50 1 false true,
  hd .format1080i_5994 1920 1080 10 yuv 30000 1001 true true,
  hd .format1080p_5994_A 1920 1080 10 yuv 60000 1001 false true,
  hd .format1080i_6000 1920 1080 10 yuv 30 1 true true,
  hd .format1080p_6000_A 1920 1080 10 yuv 60 1 false true,
  uhd .format3840x2160p_2398 3840 2160 8 yuv 24000 1001 false true,
  uhd .format3840x2160p_2400 3840 2160 8 yuv 24 1 false true,
  uhd .format3840x2160p_2500 3840 2160 8 yuv 25 1 false true,
  uhd .format3840x2160p_2997 3840 2160 8 yuv 30000 1001 false true,
  uhd .format3840x2160p_3000 3840 2160 8 yuv 30 1 false true,
  uhd .format3840x2160p_5000 3840 2160 8 yuv 50 1 false true,
  uhd .format3840x2160p_5994 3840 2160 8 yuv 60000 1001 false true,
  uhd .format3840x2160p_6000 3840 2160 8 yuv 60 1 false true,
  uhd .format3840x2160p_2398 3840 2160 8 rgba 24000 1001 false true,
  uhd .format3840x2160p_2400 3840 2160 8 rgba 24 1 false true,
  uhd .format3840x2160p_2500 3840 2160 8 rgba 25 1 false true,
  uhd .format3840x2160p_2997 3840 2160 8 rgba 30000 1001 false true,
  uhd .format3840x2160p_3000 3840 2160 8 rgba 30 1 false true,
  uhd .format3840x2160p_5000 3840 2160 8 rgba 50 1 false true,
  uhd .format3840x2160p_5994 3840 2160 8 rgba 60000 1001 false true,
  uhd .format3840x2160p_6000 3840 2160 8 rgba 60 1 false true,
  uhd .format3840x2160p_2398 3840 2160 10 yuv 24000 1001 false true,
  uhd .format3840x2160p_2400 3840 2160 10 yuv 24 1 false true,
  uhd .format3840x2160p_2500 3840 2160 10 yuv 25 1 false true,
  uhd .format3840x2160p_2997 3840 2160 10 yuv 30000 1001 false true,
  uhd .format3840x2160p_3000 3840 2160 10 yuv 30 1 false true,
  uhd .format3840x2160p_5000 3840 2160 10 yuv 50 1 false true,
  uhd .format3840x2160p_5994 3840 2160 10 yuv 60000 1001 false true,
  uhd .format3840x2160p_6000 3840 2160 10 yuv 60 1 false true,
  uhd .format4096x2160p_2398 4096 2160 8 yuv 24000 1001 false true,
  uhd .format4096x2160p_2400 4096 2160 8 yuv 24 1 false true,
  uhd .format4096x2160p_2500 4096 2160 8 yuv 25 1 false true,
  uhd .format4096x2160p_2997 4096 2160 8 yuv 30000 1001 false true,
  uhd .format4096x2160p_3000 4096 2160 8 yuv 30 1 false true,
  uhd .format4096x2160p_4795 4096 2160 8 yuv 48000 1001 false true,
  uhd .format4096x2160p_4800 4096 2160 8 yuv 48 1 false true,
  uhd .format4096x2160p_5000 4096 2160 8 yuv 50 1 false true,
  uhd .format4096x2160p_5994 4096 2160 8 yuv 60000 1001 false true,
  uhd .format4096x2160p_6000 4096 2160 8 yuv 60 1 false true,
  uhd .format4096x2160p_11988 4096 2160 8 yuv 120000 1001 false true,
  uhd .format4096x2160p_12000 4096 2160 8 yuv 120 1 false true,
  uhd .format4096x2160p_2398 4096 2160 8 rgba 24000 1001 false true,
  uhd .format4096x2160p_2400 4096 2160 8 rgba 24 1 false true,
  uhd .format4096x2160p_2500 4096 2160 8 rgba 25 1 false true,
  uhd .format4096x2160p_2997 4096 2160 8 rgba 30000 1001 false true,
  uhd .format4096x2160p_3000 4096 2160 8 rgba 30 1 false true,
  uhd .format4096x2160p_4795 4096 2160 8 rgba 48000 1001 false true,
  uhd .format4096x2160p_4800 4096 2160 8 rgba 48 1 false true,
  uhd .format4096x2160p_5000 4096 2160 8 rgba 50 1 false true,
  uhd .format4096x2160p_5994 4096 2160 8 rgba 60000 1001 false true,
  uhd .format4096x2160p_6000 4096 2160 8 rgba 60 1 false true,
  uhd .format4096x2160p_11988 4096 2160 8 rgba 120000 1001 false true,
  uhd .format4096x2160p_12000 4096 2160 8 rgba 120 1 false true,
  uhd .format4096x2160p_2398 4096 2160 10 yuv 24000 1001 false true,
  uhd .format4096x2160p_2400 4096 2160 10 yuv 24 1 false true,
  uhd .format4096x2160p_2500 4096 2160 10 yuv 25 1 false true,
  uhd .format4096x2160p_2997 4096 2160 10 yuv 30000 1001 false true,
  uhd .format4096x2160p_3000 4096 2160 10 yuv 30 1 false true,
  uhd .format4096x2160p_4795 4096 2160 10 yuv 48000 1001 false true,
  uhd .format4096x2160p_4800 4096 2160 10 yuv 48 1 false true,
  uhd .format4096x2160p_5000 4096 2160 10 yuv 50 1 false true,
  uhd .format4096x2160p_5994 4096 2160 10 yuv 60000 1001 false true,
  uhd .format4096x2160p_6000 4096 2160 10 yuv 60 1 false true,
  uhd .format4096x2160p_11988 4096 2160 10 yuv 120000 1001 false true,
  uhd .format4096x2160p_12000 4096 2160 10 yuv 120 1 false true,
  uhd .format4x3840x2160p_2398 7680 4320 8 yuv 24000 1001 false true,
  uhd .format4x3840x2160p_2400 7680 4320 8 yuv 24 1 false true,
  uhd .format4x3840x2160p_2500 7680 4320 8 yuv 25 1 false true,
  uhd .format4x3840x2160p_2997 7680 4320 8 yuv 30000 1001 false true,
  uhd .format4x3840x2160p_3000 7680 4320 8 yuv 30 1 false true,
  uhd .format4x3840x2160p_5000 7680 4320 8 yuv 50 1 false true,
  uhd .format4x3840x2160p_5994 7680 4320 8 yuv 60000 1001 false true,
  uhd .format4x3840x2160p_6000 7680 4320 8 yuv 60 1 false true,
  uhd .format4x3840x2160p_2398 7680 4320 10 yuv 24000 1001 false true,
  uhd .format4x3840x2160p_2400 7680 4320 10 yuv 24 1 false true,
  uhd .format4x3840x2160p_2500 7680 4320 10 yuv 25 1 false true,
  uhd .format4x3840x2160p_2997 7680 4320 10 yuv 30000 1001 false true,
  uhd .format4x3840x2160p_3000 7680 4320 10 yuv 30 1 false true,
  uhd .format4x3840x2160p_5000 7680 4320 10 yuv 50 1 false true,
  uhd .format4x3840x2160p_5994 7680 4320 10 yuv 60000 1001 false true,
  uhd .format4x3840x2160p_6000 7680 4320 10 yuv 60 1 false true,
  uhd .format4x4096x2160p_2398 8192 4320 8 yuv 24000 1001 false true,
  uhd .format4x4096x2160p_2400 8192 4320 8 yuv 24 1 false true,
  uhd .format4x4096x2160p_2500 8192 4320 8 yuv 25 1 false true,
  uhd .format4x4096x2160p_2997 8192 4320 8 yuv 30000 1001 false true,
  uhd .format4x4096x2160p_3000 8192 4320 8 yuv 30 1 false true,
  uhd .format4x4096x2160p_4795 8192 4320 8 yuv 48000 1001 false true,
  uhd .format4x4096x2160p_4800 8192 4320 8 yuv 48 1 false true,
  uhd .format4x4096x2160p_5000 8192 4320 8 yuv 50 1 false true,
  uhd .format4x4096x2160p_5994 8192 4320 8 yuv 60000 1001 false true,
  uhd .format4x4096x2160p_6000 8192 4320 8 yuv 60 1 false true,
  uhd .format4x4096x2160p_2398 8192 4320 10 yuv 24000 1001 false true,
  uhd .format4x4096x2160p_2400 8192 4320 10 yuv 24 1 false true,
  uhd .format4x4096x2160p_2500 8192 4320 10 yuv 25 1 false true,
  uhd .format4x4096x2160p_2997 8192 4320 10 yuv 30000 1001 false true,
  uhd .format4x4096x2160p_3000 8192 4320 10 yuv 30 1 false true,
  uhd .format4x4096x2160p_4795 8192 4320 10 yuv 48000 1001 false true,
  uhd .format4x4096x2160p_4800 8192 4320 10 yuv 48 1 false true,
  uhd .format4x4096x2160p_5000 8192 4320 10 yuv 50 1 false true,
  uhd .format4x4096x2160p_5994 8192 4320 10 yuv 60000 1001 false true,
  uhd .format4x4096x2160p_6000 8192 4320 10 yuv 60 1 false true]

def getModeRaw (e : ℕ) : Option GstAjaMode := modesRaw[e]?

def mode720p5994 : GstAjaMode := hd .format720p_5994 1280 720 8 yuv 60000 1001 false true

structure GstStructure where
  format : String
  width : ℕ
  height : ℕ
  fpsN : ℕ
  fpsD : ℕ
  interlaceMode : String
  parN : ℕ
  parD : ℕ
  colorimetry : String
  chromaSite : String
  fieldOrder : Option String
  deriving DecidableEq, Repr

def GstAjaMode.structureRaw (mode : GstAjaMode) : GstStructure where
  format := if mode.isRGBA then "RGBA" else if mode.bitDepth = 8 then "UYVY" else "v210"
  width := mode.width
  height := mode.height
  fpsN := mode.fpsN
  fpsD := mode.fpsD
  interlaceMode := if mode.isInterlaced then "interleaved" else "progressive"
  parN := mode.parN
  parD := mode.parD
  colorimetry := mode.colorimetry
  chromaSite := "mpeg2"
  fieldOrder :=
    if mode.isInterlaced then
      some (if mode.isTff then "top-field-first" else "bottom-field-first")
    else none

structure GstCaps where
  content : GstStructure
  nvmm : Bool
  deriving DecidableEq, Repr

def GstAjaMode.capsRaw (mode : GstAjaMode) (isNvmm : Bool) : GstCaps :=
  ⟨mode.structureRaw, isNvmm⟩

/-- A frame rate the time arithmetic can work with: between one frame in 1000
seconds and 1000 frames a second. -/
structure RateValid (fpsN fpsD : ℕ) : Prop where
  num_pos : 0 < fpsN
  den_pos : 0 < fpsD
  num_le : fpsN ≤ 1000 * fpsD
  den_le : fpsD ≤ 1000 * fpsN

instance (fpsN fpsD : ℕ) : Decidable (RateValid fpsN fpsD) :=
  decidable_of_iff (0 < fpsN ∧ 0 < fpsD ∧ fpsN ≤ 1000 * fpsD ∧ fpsD ≤ 1000 * fpsN)
    ⟨fun ⟨a, b, c, d⟩ => ⟨a, b, c, d⟩, fun ⟨a, b, c, d⟩ => ⟨a, b, c, d⟩⟩

private theorem rows_rate_valid : ∀ mode ∈ modesRaw, RateValid mode.fpsN mode.fpsD := by
  decide +kernel

theorem mode_rate_valid {e : ℕ} {mode : GstAjaMode} (h : getModeRaw e = some mode) :
    RateValid mode.fpsN mode.fpsD :=
  rows_rate_valid mode (List.mem_of_getElem? h)

private theorem rows_rate_coprime : ∀ mode ∈ modesRaw, Nat.Coprime mode.fpsN mode.fpsD := by
  decide +kernel

theorem mode_rate_coprime {e : ℕ} {mode : GstAjaMode} (h : getModeRaw e = some mode) :
    Nat.Coprime mode.fpsN mode.fpsD :=
  rows_rate_coprime mode (List.mem_of_getElem? h)

end GstAjaModes
