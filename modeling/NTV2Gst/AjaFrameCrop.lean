import NTV2Gst.AjaVideoSetup

/-!
# Cropping of captured frames

With captions the worker captures the VANC lines above the picture and crops them off again.
`Init` decides whether they are captured, the host buffers are sized for it, and the worker
crops by the frame geometry that the device reports. The layout of frames in the SDK and the
geometries of the channels are parameters.
-/
namespace AjaFrameCrop

open GstAjaModes AjaVideoSetup

inductive NTV2PixelFormat where
  | abgr | ycbcr8 | ycbcr10
  deriving DecidableEq, Repr

inductive NTV2FrameGeometry where
  | fg1920x1112
  | fg1280x740
  | other (id : ℕ)
  deriving DecidableEq, Repr

def NTV2FrameGeometry.isTall (g : NTV2FrameGeometry) : Bool :=
  g == .fg1920x1112 || g == .fg1280x740

/-! ## What `Init` decides -/

structure CaptureSetup where
  av : NTV2GstAV
  mBitDepth : ℕ
  mCaptureTall : Bool
  mPixelFormat : NTV2PixelFormat
  deriving DecidableEq, Repr

def is720 : NTV2VideoFormat → Bool
  | .format720p_2398 | .format720p_2500 | .format720p_5000 | .format720p_5994
  | .format720p_6000 => true
  | _ => false

def is1080 : NTV2VideoFormat → Bool
  | .format1080i_5000 | .format1080i_5994 | .format1080i_6000 | .format1080p_2398
  | .format1080p_2400 | .format1080p_2500 | .format1080p_2997 | .format1080p_3000
  | .format1080p_5000_A | .format1080p_5994_A | .format1080p_6000_A => true
  | _ => false

def containsVanc (f : NTV2VideoFormat) : Bool := is720 f || is1080 f

def pixelFormat (isRGBA : Bool) (bitDepth : ℕ) : NTV2PixelFormat :=
  if isRGBA then .abgr else if bitDepth = 8 then .ycbcr8 else .ycbcr10

/-- A call of `Init` that gets as far as `SetupVideo`, with the arguments that are left. -/
def initCapture (sdk : Sdk) (nvmmEnabled : Bool) (av : NTV2GstAV) (a : InitArgs)
    (sdiFormat : NTV2VideoFormat) (bitDepth : ℕ) (captureTall : Bool) : Option CaptureSetup :=
  let (av, status) := av.init sdk nvmmEnabled a sdiFormat
  let mBitDepth := if av.mIsAuto then 8 else bitDepth
  if status = .setupVideo then
    some
      { av := av
        mBitDepth := mBitDepth
        mCaptureTall := captureTall && containsVanc av.mVideoFormat && av.mVideoSource != .hdmi1
        mPixelFormat := pixelFormat av.mIsRGBA mBitDepth }
  else none

/-! ## The host buffers and the crop -/

/-- How the SDK lays out a frame, without and with VANC lines. -/
structure Raster where
  linePitch : NTV2VideoFormat → NTV2PixelFormat → ℕ
  activeLines : NTV2VideoFormat → ℕ
  vancLines : NTV2VideoFormat → ℕ
  geometry : NTV2VideoFormat → Bool → NTV2FrameGeometry

def Raster.captured (raster : Raster) (s : CaptureSetup) : ℕ :=
  if s.mCaptureTall then raster.vancLines s.av.mVideoFormat else 0

/-- `mVideoBufferSize`, the result of `GetVideoActiveSize`. -/
def Raster.videoBufferSize (raster : Raster) (s : CaptureSetup) : ℕ :=
  (raster.captured s + raster.activeLines s.av.mVideoFormat) *
    raster.linePitch s.av.mVideoFormat s.mPixelFormat

structure Crop where
  offset : ℕ
  validVanc : Bool
  deriving DecidableEq, Repr

def cropOf (mBitDepth : ℕ) : NTV2FrameGeometry → Crop
  | .fg1920x1112 => ⟨if mBitDepth = 8 then 32 * 1920 * 2 else 32 * 1920 * 16 / 6, true⟩
  | .fg1280x740 => ⟨if mBitDepth = 8 then 20 * 1280 * 2 else 20 * 1296 * 16 / 6, true⟩
  | .other _ => ⟨0, false⟩

structure VideoData where
  offset : ℕ
  size : ℕ
  hasAncillaryData : Bool
  deriving DecidableEq, Repr

/-- `GetFrameGeometry` is called without a channel and reads channel 1. -/
def cropVideo (s : CaptureSetup) (geometry : NTV2Channel → NTV2FrameGeometry)
    (videoBufferSize : ℕ) : VideoData :=
  let crop := cropOf s.mBitDepth (geometry 0)
  { offset := crop.offset
    size := videoBufferSize - crop.offset
    hasAncillaryData := crop.validVanc }

/-- The buffer covers the picture, and there are VANC lines in front of it if the channel
captures them. -/
structure CropExact (raster : Raster) (s : CaptureSetup)
    (geometry : NTV2Channel → NTV2FrameGeometry) : Prop where
  offset : (cropVideo s geometry (raster.videoBufferSize s)).offset =
    raster.captured s * raster.linePitch s.av.mVideoFormat s.mPixelFormat
  size : (cropVideo s geometry (raster.videoBufferSize s)).size =
    raster.activeLines s.av.mVideoFormat * raster.linePitch s.av.mVideoFormat s.mPixelFormat
  within : (cropVideo s geometry (raster.videoBufferSize s)).offset ≤ raster.videoBufferSize s
  ancillary : (cropVideo s geometry (raster.videoBufferSize s)).hasAncillaryData =
    s.mCaptureTall

/-- The documented layout of 720p and 1080 frames: v210 lines are padded to 48 pixels. -/
structure Documented (raster : Raster) : Prop where
  pitch_720 : ∀ f, is720 f = true → raster.linePitch f .ycbcr8 = 1280 * 2 ∧
    raster.linePitch f .ycbcr10 = 1296 * 16 / 6 ∧ raster.linePitch f .abgr = 1280 * 4
  pitch_1080 : ∀ f, is1080 f = true → raster.linePitch f .ycbcr8 = 1920 * 2 ∧
    raster.linePitch f .ycbcr10 = 1920 * 16 / 6 ∧ raster.linePitch f .abgr = 1920 * 4
  vanc_720 : ∀ f, is720 f = true → raster.vancLines f = 20
  vanc_1080 : ∀ f, is1080 f = true → raster.vancLines f = 32
  tall_720 : ∀ f, is720 f = true → raster.geometry f true = .fg1280x740
  tall_1080 : ∀ f, is1080 f = true → raster.geometry f true = .fg1920x1112
  not_tall : ∀ f, (raster.geometry f false).isTall = false

section Crop

variable {raster : Raster} {s : CaptureSetup} {geometry : NTV2Channel → NTV2FrameGeometry}

theorem crop_exact_of_offset (raster : Raster) (s : CaptureSetup)
    (geometry : NTV2Channel → NTV2FrameGeometry) : CropExact raster s geometry ↔
      cropOf s.mBitDepth (geometry 0) = ⟨raster.captured s *
        raster.linePitch s.av.mVideoFormat s.mPixelFormat, s.mCaptureTall⟩ := by
  constructor
  · intro h
    exact congrArg₂ Crop.mk h.offset h.ancillary
  · intro h
    constructor
    · simp only [cropVideo, h]
    · simp only [cropVideo, h, Raster.videoBufferSize, Nat.add_mul, Nat.add_sub_cancel_left]
    · simp only [cropVideo, h, Raster.videoBufferSize, Nat.add_mul, Nat.le_add_right]
    · simp only [cropVideo, h]

/-- The VANC lines of 720p frames are 20 lines, the worker takes them to be YUV. -/
theorem crop_of_720 {f : NTV2VideoFormat} (hr : Documented raster) (hf : is720 f = true)
    (isRGBA : Bool) (bitDepth : ℕ) (g : NTV2FrameGeometry) :
    cropOf bitDepth g =
        ⟨raster.vancLines f * raster.linePitch f (pixelFormat isRGBA bitDepth), true⟩ ↔
      isRGBA = false ∧ g = raster.geometry f true := by
  obtain ⟨h8, h10, hrgba⟩ := hr.pitch_720 f hf
  rw [hr.vanc_720 f hf, hr.tall_720 f hf]
  cases isRGBA <;> by_cases hd : bitDepth = 8 <;> cases g <;>
    simp [cropOf, pixelFormat, hd, h8, h10, hrgba]

theorem crop_of_1080 {f : NTV2VideoFormat} (hr : Documented raster) (hf : is1080 f = true)
    (isRGBA : Bool) (bitDepth : ℕ) (g : NTV2FrameGeometry) :
    cropOf bitDepth g =
        ⟨raster.vancLines f * raster.linePitch f (pixelFormat isRGBA bitDepth), true⟩ ↔
      isRGBA = false ∧ g = raster.geometry f true := by
  obtain ⟨h8, h10, hrgba⟩ := hr.pitch_1080 f hf
  rw [hr.vanc_1080 f hf, hr.tall_1080 f hf]
  cases isRGBA <;> by_cases hd : bitDepth = 8 <;> cases g <;>
    simp [cropOf, pixelFormat, hd, h8, h10, hrgba]

theorem crop_of_none (bitDepth n : ℕ) (g : NTV2FrameGeometry) :
    cropOf bitDepth g = ⟨0 * n, false⟩ ↔ g.isTall = false := by
  cases g <;> simp [cropOf, NTV2FrameGeometry.isTall]

structure Consistent (s : CaptureSetup) : Prop where
  pixel_format : s.mPixelFormat = pixelFormat s.av.mIsRGBA s.mBitDepth
  tall : s.mCaptureTall = true → containsVanc s.av.mVideoFormat = true

theorem init_capture_consistent {sdk : Sdk} {nvmmEnabled : Bool} {av : NTV2GstAV} {a : InitArgs}
    {sdiFormat : NTV2VideoFormat} {bitDepth : ℕ} {captureTall : Bool}
    (h : initCapture sdk nvmmEnabled av a sdiFormat bitDepth captureTall = some s) :
    Consistent s := by
  unfold initCapture at h
  generalize av.init sdk nvmmEnabled a sdiFormat = r at h
  obtain ⟨-, h⟩ := Option.ite_none_right_eq_some.mp h
  cases h
  refine ⟨rfl, ?_⟩
  intro ht
  simp only [Bool.and_eq_true] at ht
  exact ht.1.2

theorem crop_exact_tall_iff (geometry : NTV2Channel → NTV2FrameGeometry)
    (hr : Documented raster) (hc : Consistent s)
    (ht : s.mCaptureTall = true) : CropExact raster s geometry ↔
      s.av.mIsRGBA = false ∧ geometry 0 = raster.geometry s.av.mVideoFormat true := by
  rw [crop_exact_of_offset, hc.pixel_format, Raster.captured, if_pos ht, ht]
  rcases Bool.or_eq_true_iff.mp (hc.tall ht) with hf | hf
  · exact crop_of_720 hr hf _ _ _
  · exact crop_of_1080 hr hf _ _ _

theorem crop_exact_not_tall_iff (raster : Raster)
    (geometry : NTV2Channel → NTV2FrameGeometry) (ht : s.mCaptureTall = false) :
    CropExact raster s geometry ↔ (geometry 0).isTall = false := by
  rw [crop_exact_of_offset, Raster.captured, if_neg (by simp [ht]), ht]
  exact crop_of_none _ _ _

end Crop

/-- Which geometry channel 1 has to be in for the crop of a channel to be exact, and that on
channel 1 itself only RGBA frames with VANC lines are cropped wrongly. -/
theorem crop_exact_iff (sdk : Sdk) (nvmmEnabled : Bool) (av : NTV2GstAV) (a : InitArgs)
    (sdiFormat : NTV2VideoFormat) (bitDepth : ℕ) (captureTall : Bool) (raster : Raster)
    (hr : Documented raster) (geometry : NTV2Channel → NTV2FrameGeometry)
    (s : CaptureSetup)
    (hs : initCapture sdk nvmmEnabled av a sdiFormat bitDepth captureTall = some s)
    (hown : geometry s.av.mInputChannel = raster.geometry s.av.mVideoFormat s.mCaptureTall) :
    (CropExact raster s geometry ↔
      (s.mCaptureTall = true →
        s.av.mIsRGBA = false ∧ geometry 0 = raster.geometry s.av.mVideoFormat true) ∧
      (s.mCaptureTall = false → (geometry 0).isTall = false)) ∧
    (s.av.mInputChannel = 0 →
      (CropExact raster s geometry ↔ ¬ (s.mCaptureTall = true ∧ s.av.mIsRGBA = true))) := by
  have hc := init_capture_consistent hs
  cases ht : s.mCaptureTall
  · have hcrop := crop_exact_not_tall_iff raster geometry ht
    rw [hcrop]
    refine ⟨by simp, fun hzero => ?_⟩
    rw [hzero, ht] at hown
    simp [hown, hr.not_tall]
  · have hcrop := crop_exact_tall_iff geometry hr hc ht
    rw [hcrop]
    refine ⟨by simp, fun hzero => ?_⟩
    rw [hzero, ht] at hown
    simp [hown]

def commonRaster : Raster where
  linePitch f p := match p with
    | .ycbcr8 => if is720 f then 1280 * 2 else 1920 * 2
    | .ycbcr10 => if is720 f then 1296 * 16 / 6 else 1920 * 16 / 6
    | .abgr => if is720 f then 1280 * 4 else 1920 * 4
  activeLines f := if is720 f then 720 else 1080
  vancLines f := if is720 f then 20 else 32
  geometry f tall :=
    if tall then (if is720 f then .fg1280x740 else .fg1920x1112) else .other 0

theorem not_720_of_1080 {f : NTV2VideoFormat} (h : is1080 f = true) : is720 f = false := by
  cases f <;> first | rfl | cases h

theorem common_raster_documented : Documented commonRaster where
  pitch_720 f h := by simp [commonRaster, h]
  pitch_1080 f h := by simp [commonRaster, not_720_of_1080 h]
  vanc_720 f h := by simp [commonRaster, h]
  vanc_1080 f h := by simp [commonRaster, not_720_of_1080 h]
  tall_720 f h := by simp [commonRaster, h]
  tall_1080 f h := by simp [commonRaster, not_720_of_1080 h]
  not_tall f := rfl

def secondChannel (f : NTV2VideoFormat) : NTV2GstAV :=
  ⟨1, .sdi1, false, false, false, .singleLink, f, false, false⟩

def yuv1080p2500 : InitArgs := ⟨.format1080p_2500, .sdi1, false, false, .singleLink, false, false⟩

theorem crop_exact_v210 : CropExact commonRaster
    ⟨secondChannel .format1080p_2500, 10, true, .ycbcr10⟩ fun _ => .fg1920x1112 :=
  (crop_exact_iff commonSdk false (secondChannel .unknown) yuv1080p2500 .unknown 10 true
    commonRaster common_raster_documented (fun _ => .fg1920x1112)
    ⟨secondChannel .format1080p_2500, 10, true, .ycbcr10⟩ rfl rfl).1.mpr (by decide)

/-- The second channel captures no VANC lines, but the first one does. -/
theorem cropped_by_first_channel : ¬ ∀ sdk nvmmEnabled av a sdiFormat bitDepth captureTall raster
    geometry s, Documented raster →
    initCapture sdk nvmmEnabled av a sdiFormat bitDepth captureTall = some s →
    geometry s.av.mInputChannel = raster.geometry s.av.mVideoFormat s.mCaptureTall →
    CropExact raster s geometry := by
  intro h
  have hcrop := h commonSdk false (secondChannel .unknown) yuv1080p2500 .unknown 8 false
    commonRaster (fun c => if c = 0 then .fg1920x1112 else .other 0)
    ⟨secondChannel .format1080p_2500, 8, false, .ycbcr8⟩ common_raster_documented rfl rfl
  exact absurd hcrop.offset (by decide)

end AjaFrameCrop
