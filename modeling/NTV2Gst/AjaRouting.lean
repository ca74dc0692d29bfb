import NTV2Gst.KeyedInserts
import NTV2Gst.AjaVideoSetup

/-!
# Signal routing

`SetupVideo` takes the routing of the device, disconnects what the channel may have been
connected to in any other mode, adds its own connections and applies the result. The
router maps an input crosspoint to the output crosspoint it is fed from; the loop over its
connections visits every pair once. Crosspoints carry the number in their name.
-/
namespace AjaRouting

open GstAjaModes AjaVideoSetup KeyedInserts

inductive NTV2InputCrosspointID where
  | frameBuffer (n : ℕ)
  | frameBufferB (n : ℕ)
  | frameBufferDS2 (n : ℕ)
  | mux425A (n : ℕ)
  | mux425B (n : ℕ)
  | csc (n : ℕ)
  | sdiOut (n : ℕ)
  | hdmiOutQ (n : ℕ)
  | other (id : ℕ)
  deriving DecidableEq, Repr

/-- `hdmiIn1Q n` is one quadrant of the first HDMI input. -/
inductive NTV2CrosspointID where
  | sdiIn (n : ℕ)
  | sdiInDS2 (n : ℕ)
  | hdmiIn (n : ℕ)
  | hdmiInRGB (n : ℕ)
  | hdmiIn1Q (n : ℕ)
  | analogIn
  | mux425AYUV (n : ℕ)
  | mux425BYUV (n : ℕ)
  | cscVidRGB (n : ℕ)
  | cscVidYUV (n : ℕ)
  | other (id : ℕ)
  deriving DecidableEq, Repr

abbrev Router := NTV2InputCrosspointID → Option NTV2CrosspointID

abbrev Connection := NTV2InputCrosspointID × NTV2CrosspointID

structure DeviceFacts where
  hdmiColorRGB : Bool
  hasBiDirectionalSDI : Bool
  numVideoOutputs : ℕ
  deriving DecidableEq, Repr

/-! ## The crosspoints of a channel -/

def number (c : NTV2Channel) : ℕ := c.val + 1

/-- There are four HDMI inputs; the other channels use the first. -/
def hdmiNumber (c : NTV2Channel) : ℕ := if c.val < 4 then number c else 1

section Setup

variable (sdk : Sdk) (av : NTV2GstAV) (device : DeviceFacts)

def fbfInputSelect : NTV2InputCrosspointID := .frameBuffer (number av.mInputChannel)

def inputRGB : Bool := av.mVideoSource == .hdmi1 && device.hdmiColorRGB

def inputIdentifier : NTV2CrosspointID :=
  match av.mVideoSource with
  | .sdi1 => .sdiIn (number av.mInputChannel)
  | .hdmi1 =>
    if inputRGB av device then .hdmiInRGB (hdmiNumber av.mInputChannel)
    else .hdmiIn (hdmiNumber av.mInputChannel)
  | .analog1 => .analogIn

def cscNumber : ℕ :=
  match av.mVideoSource with
  | .sdi1 => number av.mInputChannel
  | .hdmi1 => hdmiNumber av.mInputChannel
  | .analog1 => 1

def cscInput : NTV2InputCrosspointID := .csc (cscNumber av)

def cscOutput : NTV2CrosspointID :=
  if av.mIsRGBA then .cscVidRGB (cscNumber av) else .cscVidYUV (cscNumber av)

/-! ## Disconnecting -/

def disconnectedInputs : List NTV2InputCrosspointID :=
  if av.mQuad && av.mVideoSource == .hdmi1 then
    [.frameBuffer 1, .frameBufferB 1, .frameBuffer 2, .frameBufferB 2,
      .mux425A 1, .mux425B 1, .mux425A 2, .mux425B 2]
  else if av.mQuad && av.mInputChannel == 0 then
    [.frameBuffer 1, .frameBufferB 1, .frameBufferDS2 1, .frameBuffer 2, .frameBufferB 2,
      .frameBufferDS2 2, .mux425A 1, .mux425B 1, .mux425A 2, .mux425B 2,
      .frameBuffer 1, .frameBuffer 2, .frameBuffer 3, .frameBuffer 4]
  else if av.mQuad then
    [.frameBuffer 5, .frameBufferB 5, .frameBufferDS2 5, .frameBuffer 6, .frameBufferB 6,
      .frameBufferDS2 6, .mux425A 3, .mux425B 3, .mux425A 4, .mux425B 4,
      .frameBuffer 5, .frameBuffer 6, .frameBuffer 7, .frameBuffer 8]
  else
    let identifier := inputIdentifier av device
    [fbfInputSelect av, cscInput av] ++
      (if identifier = .sdiIn 6 ∨ identifier = .sdiIn 8 then [.frameBufferB 6] else []) ++
      (if identifier = .sdiIn 5 ∨ identifier = .sdiIn 6 then [.frameBufferB 5] else []) ++
      (if identifier = .sdiIn 4 ∨ identifier = .sdiIn 2 then [.frameBufferB 2] else []) ++
      (if identifier = .sdiIn 1 ∨ identifier = .sdiIn 2 then [.frameBufferB 1] else [])

def disconnectedOutputs : List NTV2CrosspointID :=
  if av.mQuad && av.mVideoSource == .hdmi1 then
    [.mux425AYUV 1, .mux425BYUV 1, .mux425AYUV 2, .mux425BYUV 2,
      .hdmiIn 1, .hdmiIn1Q 2, .hdmiIn1Q 3, .hdmiIn1Q 4]
  else if av.mQuad && av.mInputChannel == 0 then
    [.mux425AYUV 1, .mux425BYUV 1, .mux425AYUV 2, .mux425BYUV 2,
      .sdiIn 1, .sdiIn 2, .sdiIn 3, .sdiIn 4, .sdiInDS2 1, .sdiInDS2 2]
  else if av.mQuad then
    [.mux425AYUV 3, .mux425BYUV 3, .mux425AYUV 4, .mux425BYUV 4,
      .sdiIn 5, .sdiIn 6, .sdiIn 7, .sdiIn 8, .sdiInDS2 5, .sdiInDS2 6]
  else [inputIdentifier av device]

/-! ## Connecting -/

/-- The special case for UHD HDMI and SDI TSI. -/
def mainIdentifier : NTV2CrosspointID :=
  if av.mQuad && av.mVideoSource == .hdmi1 then .mux425AYUV 1
  else if av.mQuad && av.mSDIInputMode == .quadLinkTSI &&
      sdk.value av.mVideoFormat < sdk.firstUhd2DefFormat then
    if av.mInputChannel = 0 then .mux425AYUV 1 else .mux425AYUV 3
  else inputIdentifier av device

/-- RGB goes into an RGBA frame buffer and YUV into any other; all else is converted. -/
def needsConversion : Bool :=
  !((av.mIsRGBA && inputRGB av device) || (!av.mIsRGBA && !inputRGB av device))

def mainRoute : List Connection :=
  if needsConversion av device then
    [(cscInput av, mainIdentifier sdk av device), (fbfInputSelect av, cscOutput av)]
  else [(fbfInputSelect av, mainIdentifier sdk av device)]

/-- From the input to the output of the same number, on a device that cannot turn its SDI
connectors around. -/
def endToEnd : List Connection :=
  if device.hasBiDirectionalSDI then []
  else if av.mInputChannel.val < 4 then
    if av.mVideoSource = .hdmi1 then
      [(.hdmiOutQ (number av.mInputChannel), .hdmiIn (number av.mInputChannel))]
    else [(.sdiOut (number av.mInputChannel), .sdiIn (number av.mInputChannel))]
  else []

def quadRoute : List Connection :=
  if !av.mQuad then []
  else if av.mVideoSource = .hdmi1 then
    [(.frameBufferB 1, .mux425BYUV 1), (.frameBuffer 2, .mux425AYUV 2),
      (.frameBufferB 2, .mux425BYUV 2), (.mux425A 1, .hdmiIn 1), (.mux425B 1, .hdmiIn1Q 2),
      (.mux425A 2, .hdmiIn1Q 3), (.mux425B 2, .hdmiIn1Q 4)]
  else if av.mSDIInputMode = .quadLinkTSI ∧
      sdk.isQuadQuadHfrVideoFormat av.mVideoFormat = true then
    if av.mInputChannel = 0 then
      [(.frameBufferDS2 1, .sdiIn 2), (.frameBuffer 2, .sdiIn 3), (.frameBufferDS2 2, .sdiIn 4)]
    else
      [(.frameBufferDS2 5, .sdiIn 6), (.frameBuffer 5, .sdiIn 7), (.frameBufferDS2 6, .sdiIn 8)]
  else if av.mSDIInputMode = .quadLinkTSI ∧ sdk.isQuadQuadFormat av.mVideoFormat = true then
    if av.mInputChannel = 0 then
      [(.frameBufferDS2 1, .sdiInDS2 1), (.frameBuffer 2, .sdiIn 2),
        (.frameBufferDS2 2, .sdiInDS2 2)]
    else
      [(.frameBufferDS2 5, .sdiInDS2 5), (.frameBuffer 5, .sdiIn 6),
        (.frameBufferDS2 6, .sdiInDS2 6)]
  else if av.mSDIInputMode = .quadLinkTSI then
    if av.mInputChannel = 0 then
      [(.frameBufferB 1, .mux425BYUV 1), (.frameBuffer 2, .mux425AYUV 2),
        (.frameBufferB 2, .mux425BYUV 2), (.mux425A 1, .sdiIn 1), (.mux425B 1, .sdiIn 2),
        (.mux425A 2, .sdiIn 3), (.mux425B 2, .sdiIn 4)]
    else
      [(.frameBufferB 5, .mux425BYUV 3), (.frameBuffer 6, .mux425AYUV 4),
        (.frameBufferB 6, .mux425BYUV 4), (.mux425A 3, .sdiIn 5), (.mux425B 3, .sdiIn 6),
        (.mux425A 4, .sdiIn 7), (.mux425B 4, .sdiIn 8)]
  else if av.mInputChannel = 0 then
    [(.frameBuffer 2, .sdiIn 2), (.frameBuffer 3, .sdiIn 3), (.frameBuffer 4, .sdiIn 4)]
  else [(.frameBuffer 6, .sdiIn 6), (.frameBuffer 7, .sdiIn 7), (.frameBuffer 8, .sdiIn 8)]

/-- From the input to an output of the other half of a bidirectional device. -/
def passthrough : List Connection :=
  if av.mPassthrough && device.hasBiDirectionalSDI then
    if av.mInputChannel.val < 4 then
      [(.sdiOut (number av.mInputChannel + if device.numVideoOutputs = 8 then 4 else 2),
        .sdiIn (number av.mInputChannel))]
    else []
  else []

def connections : List Connection :=
  mainRoute sdk av device ++ endToEnd av device ++ quadRoute sdk av ++ passthrough av device

def setupVideo (replace : Bool) (oldRouter : Router) : Router :=
  insertAll replace
    (clear (disconnectedInputs av device) (disconnectedOutputs av device) oldRouter)
    (connections sdk av device)

end Setup

/-! ## What is not disconnected -/

section Uncovered

variable (sdk : Sdk) (av : NTV2GstAV) (device : DeviceFacts)

/-- The connections whose input is in no list of inputs to disconnect: the ones to an output
connector, in quad mode the one to the converter, and the frame buffer of an HDMI input in
quad mode from the third channel on. -/
def uncovered : List Connection :=
  endToEnd av device ++ passthrough av device ++
    (if av.mQuad && needsConversion av device then
      [(cscInput av, mainIdentifier sdk av device)] else []) ++
    (if av.mQuad && av.mVideoSource == .hdmi1 && decide (2 ≤ av.mInputChannel.val) then
      [(fbfInputSelect av,
        if needsConversion av device then cscOutput av else mainIdentifier sdk av device)] else [])

def Stale (oldRouter : Router) : Prop :=
  ∃ e ∈ uncovered sdk av device, ∃ o, oldRouter e.1 = some o ∧ o ≠ e.2 ∧
    o ∉ disconnectedOutputs av device

/-- Quad HDMI on the second channel connects its frame buffer a second time as one of the
quadrants; TSI with a quad-quad format on the fifth channel does so with the frame buffer
that is meant to be the sixth. -/
def ConnectedTwice : Prop :=
  av.mQuad = true ∧ ((av.mVideoSource = .hdmi1 ∧ av.mInputChannel = 1) ∨
    (av.mVideoSource ≠ .hdmi1 ∧ av.mSDIInputMode = .quadLinkTSI ∧ av.mInputChannel ≠ 0 ∧
      (sdk.isQuadQuadHfrVideoFormat av.mVideoFormat = true ∨
        sdk.isQuadQuadFormat av.mVideoFormat = true)))

instance : Decidable (ConnectedTwice sdk av) :=
  inferInstanceAs (Decidable (_ ∧ (_ ∨ _)))

end Uncovered

section Lemmas

variable {sdk : Sdk} {av : NTV2GstAV} {device : DeviceFacts}

def NTV2InputCrosspointID.isConnector : NTV2InputCrosspointID → Bool
  | .sdiOut _ | .hdmiOutQ _ => true
  | _ => false

theorem disconnected_not_connector :
    ∀ i ∈ disconnectedInputs av device, i.isConnector = false := by
  unfold disconnectedInputs
  split
  · decide
  split
  · decide
  split
  · decide
  · intro i hi
    simp only [List.mem_append, List.mem_cons, List.not_mem_nil, or_false] at hi
    rcases hi with (((hi | hi) | hi) | hi) | hi
    · rcases hi with rfl | rfl <;> rfl
    all_goals
      split at hi
      · obtain rfl := List.mem_singleton.mp hi
        rfl
      · cases hi

theorem end_to_end_connector : ∀ e ∈ endToEnd av device, e.1.isConnector = true := by
  unfold endToEnd
  repeat' split
  all_goals simp [NTV2InputCrosspointID.isConnector]

theorem passthrough_connector : ∀ e ∈ passthrough av device, e.1.isConnector = true := by
  unfold passthrough
  repeat' split
  all_goals simp [NTV2InputCrosspointID.isConnector]

theorem quad_route_disconnected : ∀ e ∈ quadRoute sdk av, e.1 ∈ disconnectedInputs av device := by
  unfold quadRoute
  by_cases hq : av.mQuad = true
  swap
  · simp [hq]
  by_cases hs : av.mVideoSource = .hdmi1
  · simp only [disconnectedInputs, hq, hs, Bool.not_true, Bool.false_eq_true, beq_self_eq_true,
      Bool.and_self, if_true, if_false]
    decide
  by_cases hc : av.mInputChannel = 0
  · simp only [disconnectedInputs, hq, hs, hc, beq_iff_eq, Bool.not_true, Bool.false_eq_true,
      Bool.true_and, beq_self_eq_true, if_true, if_false]
    repeat' split
    all_goals decide
  · simp only [disconnectedInputs, hq, hs, hc, beq_iff_eq, Bool.not_true, Bool.false_eq_true,
      Bool.true_and, if_true, if_false]
    repeat' split
    all_goals decide

/-- In quad mode the lists know the frame buffers of the channels, not the converters. -/
theorem csc_disconnected_iff :
    cscInput av ∈ disconnectedInputs av device ↔ av.mQuad = false := by
  unfold disconnectedInputs cscInput
  by_cases hq : av.mQuad = true
  · simp only [hq, Bool.true_and, if_true, reduceCtorEq, iff_false]
    repeat' split
    all_goals simp
  · simp [hq]

theorem fbf_disconnected_iff (h : Accepted av) :
    fbfInputSelect av ∈ disconnectedInputs av device ↔
      ¬ (av.mQuad = true ∧ av.mVideoSource = .hdmi1 ∧ 2 ≤ av.mInputChannel.val) := by
  unfold disconnectedInputs fbfInputSelect number
  by_cases hq : av.mQuad = true
  swap
  · simp [hq]
  by_cases hs : av.mVideoSource = .hdmi1
  · simp [hq, hs]
    omega
  · rcases h.link_channel ((h.quad_source hq).resolve_right hs) with hc | hc
    · simp [hq, hs, hc]
    · have hval : av.mInputChannel.val = 4 := congrArg Fin.val hc
      have hne : av.mInputChannel ≠ 0 := by
        rw [hc]
        decide
      simp [hq, hs, hval, hne]

theorem mem_uncovered_iff (h : Accepted av) (e : Connection) :
    e ∈ connections sdk av device ∧ e.1 ∉ disconnectedInputs av device ↔
      e ∈ uncovered sdk av device := by
  have hconn : ∀ i : NTV2InputCrosspointID, i.isConnector = true →
      i ∉ disconnectedInputs av device := by
    intro i hi hm
    rw [disconnected_not_connector i hm] at hi
    cases hi
  have hcsc : cscInput av ∈ disconnectedInputs av device ↔ av.mQuad = false :=
    csc_disconnected_iff
  have hfbf : fbfInputSelect av ∈ disconnectedInputs av device ↔
      ¬ (av.mQuad = true ∧ av.mVideoSource = .hdmi1 ∧ 2 ≤ av.mInputChannel.val) :=
    fbf_disconnected_iff h
  have main : e ∈ mainRoute sdk av device ∧ e.1 ∉ disconnectedInputs av device ↔
      (av.mQuad = true ∧ needsConversion av device = true ∧
        e = (cscInput av, mainIdentifier sdk av device)) ∨
      (av.mQuad = true ∧ av.mVideoSource = .hdmi1 ∧ 2 ≤ av.mInputChannel.val ∧
        e = (fbfInputSelect av, if needsConversion av device = true then cscOutput av
          else mainIdentifier sdk av device)) := by
    unfold mainRoute
    by_cases hn : needsConversion av device = true
    · simp only [hn, if_true, List.mem_cons, List.not_mem_nil, or_false, true_and]
      constructor
      · rintro ⟨rfl | rfl, hi⟩
        · exact Or.inl ⟨by simpa [hcsc] using hi, rfl⟩
        · rw [hfbf, not_not] at hi
          exact Or.inr ⟨hi.1, hi.2.1, hi.2.2, rfl⟩
      · rintro (⟨hq, rfl⟩ | ⟨hq, hs, hc, rfl⟩)
        · exact ⟨Or.inl rfl, by simp [hcsc, hq]⟩
        · exact ⟨Or.inr rfl, by simp [hfbf, hq, hs, hc]⟩
    · simp only [hn, Bool.false_eq_true, if_false, List.mem_singleton, false_and, and_false,
        false_or]
      constructor
      · rintro ⟨rfl, hi⟩
        rw [hfbf, not_not] at hi
        exact ⟨hi.1, hi.2.1, hi.2.2, rfl⟩
      · rintro ⟨hq, hs, hc, rfl⟩
        exact ⟨rfl, by simp [hfbf, hq, hs, hc]⟩
  unfold connections uncovered
  simp only [List.mem_append, or_and_right, main]
  constructor
  · rintro (((h | h) | h) | h)
    · rcases h with ⟨hq, hn, rfl⟩ | ⟨hq, hs, hc, rfl⟩
      · simp [hq, hn]
      · simp [hq, hs, hc]
    · exact Or.inl (Or.inl (Or.inl h.1))
    · exact absurd (quad_route_disconnected e h.1) h.2
    · exact Or.inl (Or.inl (Or.inr h.1))
  · rintro (((h | h) | h) | h)
    · exact Or.inl (Or.inl (Or.inr ⟨h, hconn _ (end_to_end_connector e h)⟩))
    · exact Or.inr ⟨h, hconn _ (passthrough_connector e h)⟩
    · left; left; left; left
      by_cases hq : av.mQuad = true <;> by_cases hn : needsConversion av device = true <;>
        simp_all
    · left; left; left; right
      by_cases hq : av.mQuad = true <;> by_cases hs : av.mVideoSource = .hdmi1 <;>
        by_cases hc : 2 ≤ av.mInputChannel.val <;> simp_all

/-! ## What is connected twice -/

theorem fbf_route (sdk : Sdk) (av : NTV2GstAV) (device : DeviceFacts) :
    (fbfInputSelect av, if needsConversion av device = true then cscOutput av
      else mainIdentifier sdk av device) ∈ connections sdk av device := by
  unfold connections mainRoute
  by_cases hn : needsConversion av device = true <;> simp [hn]

theorem not_functional_of_twice (h : Accepted av) (ht : ConnectedTwice sdk av) :
    ¬ Functional (connections sdk av device) := by
  have hfbf := fbf_route sdk av device
  have quad : ∀ e ∈ quadRoute sdk av, e ∈ connections sdk av device := by
    intro e he
    simp [connections, he]
  obtain ⟨hq, ⟨hs, hc⟩ | ⟨hs, hm, hc, hf⟩⟩ := ht
  · apply not_functional hfbf (quad (.frameBuffer 2, .mux425AYUV 2) (by simp [quadRoute, hq, hs]))
    · simp [fbfInputSelect, number, hc]
    · unfold cscOutput mainIdentifier
      simp only [hq, hs, beq_self_eq_true, Bool.and_self, if_true]
      repeat' split
      all_goals simp
  · have h4 : (4 : NTV2Channel).val = 4 := rfl
    have hc4 : av.mInputChannel = 4 :=
      (h.link_channel ((h.quad_source hq).resolve_right hs)).resolve_left hc
    have own : ∀ n, n ≠ 5 → (if needsConversion av device = true then cscOutput av
        else mainIdentifier sdk av device) ≠ .sdiIn n := by
      intro n hn
      unfold cscOutput mainIdentifier inputIdentifier number
      simp only [hc4, h4]
      repeat' split
      all_goals simp [hn.symm]
    by_cases hh : sdk.isQuadQuadHfrVideoFormat av.mVideoFormat = true
    · apply not_functional hfbf (quad (.frameBuffer 5, .sdiIn 7)
        (by simp [quadRoute, hq, hs, hm, hc, hh]))
      · rw [fbfInputSelect, number, hc4]
        rfl
      · exact own 7 (by decide)
    · have hqq := hf.resolve_left hh
      apply not_functional hfbf (quad (.frameBuffer 5, .sdiIn 6)
        (by simp [quadRoute, hq, hs, hm, hc, hh, hqq]))
      · rw [fbfInputSelect, number, hc4]
        rfl
      · exact own 6 (by decide)

theorem main_route_keys (sdk : Sdk) (av : NTV2GstAV) (device : DeviceFacts) :
    (mainRoute sdk av device).map Prod.fst =
      (if needsConversion av device = true then [cscInput av] else []) ++ [fbfInputSelect av] := by
  unfold mainRoute
  by_cases hn : needsConversion av device = true <;> simp [hn]

theorem inner_keys_nodup (h : Accepted av) (ht : ¬ ConnectedTwice sdk av) :
    ((mainRoute sdk av device ++ quadRoute sdk av).map Prod.fst).Nodup := by
  rw [List.map_append, main_route_keys]
  have quad : ((fbfInputSelect av) :: (quadRoute sdk av).map Prod.fst).Nodup := by
    unfold ConnectedTwice at ht
    unfold quadRoute fbfInputSelect number
    by_cases hq : av.mQuad = true
    swap
    · simp [hq]
    by_cases hs : av.mVideoSource = .hdmi1
    · have hc : av.mInputChannel.val ≠ 1 := fun hc => ht ⟨hq, Or.inl ⟨hs, Fin.ext hc⟩⟩
      simp [hq, hs, hc]
    have h4 : (4 : NTV2Channel).val = 4 := rfl
    rcases h.link_channel ((h.quad_source hq).resolve_right hs) with hc | hc
    · simp only [hq, hs, hc, Bool.not_true, Bool.false_eq_true, if_true, if_false]
      repeat' split
      all_goals decide
    · simp only [hq, hs, hc, h4, Bool.not_true, Bool.false_eq_true, if_false]
      by_cases hm : av.mSDIInputMode = .quadLinkTSI
      · by_cases hh : sdk.isQuadQuadHfrVideoFormat av.mVideoFormat = true
        · exact absurd ⟨hq, Or.inr ⟨hs, hm, by simp [hc], Or.inl hh⟩⟩ ht
        by_cases hqq : sdk.isQuadQuadFormat av.mVideoFormat = true
        · exact absurd ⟨hq, Or.inr ⟨hs, hm, by simp [hc], Or.inr hqq⟩⟩ ht
        simp [hm, hh, hqq]
      · simp [hm]
  by_cases hn : needsConversion av device = true
  · rw [if_pos hn, List.append_assoc, List.singleton_append, List.nodup_cons]
    refine ⟨fun hmem => ?_, quad⟩
    rcases List.mem_cons.mp hmem with hf | hmem
    · simp [cscInput, fbfInputSelect] at hf
    · obtain ⟨e, he, hk⟩ := List.mem_map.mp hmem
      have hd : e.1 ∈ disconnectedInputs av device := quad_route_disconnected e he
      rw [hk, csc_disconnected_iff] at hd
      simp [quadRoute, hd] at he
  · rw [if_neg hn]
    exact quad

theorem connectors_functional : Functional (endToEnd av device ++ passthrough av device) := by
  apply functional_of_nodup
  unfold endToEnd passthrough
  by_cases hb : device.hasBiDirectionalSDI = true
  · simp only [hb, if_true]
    repeat' split
    all_goals simp
  · simp only [hb]
    repeat' split
    all_goals simp

theorem functional_of_not_twice (h : Accepted av) (ht : ¬ ConnectedTwice sdk av) :
    Functional (connections sdk av device) := by
  have inner : ∀ e ∈ connections sdk av device, e.1.isConnector = false →
      e ∈ mainRoute sdk av device ++ quadRoute sdk av := by
    intro e he hi
    unfold connections at he
    simp only [List.mem_append] at he ⊢
    rcases he with ((he | he) | he) | he
    · exact Or.inl he
    · simp [end_to_end_connector e he] at hi
    · exact Or.inr he
    · simp [passthrough_connector e he] at hi
  have outer : ∀ e ∈ connections sdk av device, e.1.isConnector = true →
      e ∈ endToEnd av device ++ passthrough av device := by
    intro e he hi
    unfold connections at he
    simp only [List.mem_append] at he ⊢
    rcases he with ((he | he) | he) | he
    · unfold mainRoute at he
      split at he <;> simp only [List.mem_cons, List.not_mem_nil, or_false] at he
      · rcases he with rfl | rfl <;> cases hi
      · subst he
        cases hi
    · exact Or.inl he
    · have hd : e.1 ∈ disconnectedInputs av device := quad_route_disconnected e he
      rw [disconnected_not_connector _ hd] at hi
      cases hi
    · exact Or.inr he
  intro e he f hf hk
  by_cases hi : e.1.isConnector = true
  · exact connectors_functional e (outer e he hi) f (outer f hf (hk ▸ hi)) hk
  · have hi' : e.1.isConnector = false := by simpa using hi
    exact functional_of_nodup (inner_keys_nodup h ht) e (inner e he hi') f
      (inner f hf (hk ▸ hi')) hk

end Lemmas

/-! ## The routing that is applied -/

/-- Every connection that `SetupVideo` asks for is in the routing it applies, unless it asks
for two on one input or, in a router that ignores them, an old connection is left over on
an input that no list of inputs names. -/
theorem connections_present_iff (sdk : Sdk) (nvmmEnabled : Bool) (av : NTV2GstAV) (a : InitArgs)
    (sdiFormat : NTV2VideoFormat) (device : DeviceFacts) (replace : Bool) (oldRouter : Router)
    (h : (av.init sdk nvmmEnabled a sdiFormat).2 = .setupVideo) :
    Present
      (setupVideo sdk (av.init sdk nvmmEnabled a sdiFormat).1 device replace oldRouter)
      (connections sdk (av.init sdk nvmmEnabled a sdiFormat).1 device) ↔
    ¬ ConnectedTwice sdk (av.init sdk nvmmEnabled a sdiFormat).1 ∧
      (replace = false →
        ¬ Stale sdk (av.init sdk nvmmEnabled a sdiFormat).1 device oldRouter) := by
  have accepted := init_accepted sdk nvmmEnabled av a sdiFormat h
  generalize (av.init sdk nvmmEnabled a sdiFormat).1 = av' at *
  unfold setupVideo
  rw [present_clear_insert_all_iff]
  refine and_congr ?_ (imp_congr_right fun _ => ?_)
  · constructor
    · exact fun hf ht => not_functional_of_twice accepted ht hf
    · exact functional_of_not_twice accepted
  · unfold Stale
    constructor
    · rintro hall ⟨e, he, o, ho, hne, hout⟩
      obtain ⟨hmem, hi⟩ := (mem_uncovered_iff accepted e).mpr he
      exact (hall e hmem hi o ho).elim hne hout
    · intro hstale e he hi o ho
      by_contra hboth
      rw [not_or] at hboth
      exact hstale ⟨e, (mem_uncovered_iff accepted e).mp ⟨he, hi⟩, o, ho, hboth⟩

def engine (c : NTV2Channel) : NTV2GstAV :=
  ⟨c, .sdi1, false, false, false, .singleLink, .unknown, false, false⟩

def quadTSI (f : NTV2VideoFormat) : InitArgs :=
  ⟨f, .sdi1, false, false, .quadLinkTSI, false, false⟩

theorem uhd_connections_present :
    Present (setupVideo commonSdk
        ((engine 0).init commonSdk false (quadTSI .format3840x2160p_2500) .unknown).1
        ⟨false, true, 8⟩ false fun _ => some .analogIn)
      (connections commonSdk
        ((engine 0).init commonSdk false (quadTSI .format3840x2160p_2500) .unknown).1
        ⟨false, true, 8⟩) := by
  rw [connections_present_iff commonSdk false (engine 0) (quadTSI .format3840x2160p_2500) .unknown
    ⟨false, true, 8⟩ false (fun _ => some .analogIn) (by decide)]
  refine ⟨by decide, ?_⟩
  rintro - ⟨e, he, -⟩
  have none : uncovered commonSdk ((engine 0).init commonSdk false
      (quadTSI .format3840x2160p_2500) .unknown).1 ⟨false, true, 8⟩ = [] := by decide
  rw [none] at he
  cases he

/-- 8K over four links on the fifth channel: the fifth frame buffer is fed from `SDIIn5` and
`SDIIn7`, in whichever way the router treats the second connection. -/
theorem eight_k_connected_twice :
    ¬ ∀ sdk nvmmEnabled av a sdiFormat device replace oldRouter,
      (NTV2GstAV.init sdk nvmmEnabled av a sdiFormat).2 = .setupVideo →
      Present (setupVideo sdk (av.init sdk nvmmEnabled a sdiFormat).1 device replace oldRouter)
        (connections sdk (av.init sdk nvmmEnabled a sdiFormat).1 device) := by
  intro h
  have := h commonSdk false (engine 4) (quadTSI .format4x4096x2160p_6000) .unknown
    ⟨false, true, 8⟩ true (fun _ => none) (by decide)
  have h5 := this (.frameBuffer 5, .sdiIn 5) (by decide)
  revert h5
  decide

end AjaRouting
