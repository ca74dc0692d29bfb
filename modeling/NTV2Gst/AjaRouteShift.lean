import Mathlib.Tactic.FinCases
import NTV2Gst.AjaRouting

/-!
# Quad routing on the fifth channel

The quad modes of channels 1 and 5 have lists of crosspoints of their own. The renaming
exchanges the frame stores, SDI inputs and colour converters 1 to 4 with 5 to 8 and the
first two 425 muxes with the others; what it does to crosspoints that the routing never
names is a parameter.
-/
namespace AjaRouteShift

open AjaRouting AjaVideoSetup KeyedInserts

def shift (n : ℕ) : ℕ :=
  if 1 ≤ n ∧ n ≤ 4 then n + 4 else if 5 ≤ n ∧ n ≤ 8 then n - 4 else n

def shiftMux (n : ℕ) : ℕ :=
  if 1 ≤ n ∧ n ≤ 2 then n + 2 else if 3 ≤ n ∧ n ≤ 4 then n - 2 else n

theorem shift_shift (n : ℕ) : shift (shift n) = n := by
  unfold shift
  split_ifs <;> omega

theorem shift_mux_shift_mux (n : ℕ) : shiftMux (shiftMux n) = n := by
  unfold shiftMux
  split_ifs <;> omega

def renameInput (others : ℕ → ℕ) : NTV2InputCrosspointID → NTV2InputCrosspointID
  | .frameBuffer n => .frameBuffer (shift n)
  | .frameBufferB n => .frameBufferB (shift n)
  | .frameBufferDS2 n => .frameBufferDS2 (shift n)
  | .mux425A n => .mux425A (shiftMux n)
  | .mux425B n => .mux425B (shiftMux n)
  | .csc n => .csc (shift n)
  | .sdiOut n => .sdiOut n
  | .hdmiOutQ n => .hdmiOutQ n
  | .other id => .other (others id)

def renameOutput (others : ℕ → ℕ) : NTV2CrosspointID → NTV2CrosspointID
  | .sdiIn n => .sdiIn (shift n)
  | .sdiInDS2 n => .sdiInDS2 (shift n)
  | .hdmiIn n => .hdmiIn n
  | .hdmiInRGB n => .hdmiInRGB n
  | .hdmiIn1Q n => .hdmiIn1Q n
  | .analogIn => .analogIn
  | .mux425AYUV n => .mux425AYUV (shiftMux n)
  | .mux425BYUV n => .mux425BYUV (shiftMux n)
  | .cscVidRGB n => .cscVidRGB (shift n)
  | .cscVidYUV n => .cscVidYUV (shift n)
  | .other id => .other (others id)

def shiftInput (others : Equiv.Perm ℕ) : Equiv.Perm NTV2InputCrosspointID where
  toFun := renameInput others
  invFun := renameInput others.symm
  left_inv i := by cases i <;> simp [renameInput, shift_shift, shift_mux_shift_mux]
  right_inv i := by cases i <;> simp [renameInput, shift_shift, shift_mux_shift_mux]

def shiftOutput (others : Equiv.Perm ℕ) : Equiv.Perm NTV2CrosspointID where
  toFun := renameOutput others
  invFun := renameOutput others.symm
  left_inv o := by cases o <;> simp [renameOutput, shift_shift, shift_mux_shift_mux]
  right_inv o := by cases o <;> simp [renameOutput, shift_shift, shift_mux_shift_mux]

def onFifth (av : NTV2GstAV) : NTV2GstAV := { av with mInputChannel := 4 }

structure QuadSdi (av : NTV2GstAV) : Prop where
  channel : av.mInputChannel = 0
  quad : av.mQuad = true
  source : av.mVideoSource = .sdi1
  passthrough : av.mPassthrough = false

/-- Four links, two samples interleaved, in a quad-quad format. -/
def TsiQuadQuad (sdk : Sdk) (av : NTV2GstAV) : Prop :=
  av.mSDIInputMode = .quadLinkTSI ∧
    (sdk.isQuadQuadHfrVideoFormat av.mVideoFormat = true ∨
      sdk.isQuadQuadFormat av.mVideoFormat = true)

instance (sdk : Sdk) (av : NTV2GstAV) : Decidable (TsiQuadQuad sdk av) :=
  inferInstanceAs (Decidable (_ ∧ (_ ∨ _)))

section Channels

variable {sdk : Sdk} {av : NTV2GstAV} {device : DeviceFacts}

/-! ## Acceptance -/

theorem map_format_on_fifth (sdk : Sdk) (av : NTV2GstAV) (f : GstAjaModes.NTV2VideoFormat) :
    (onFifth av).mapFormat sdk f = ((onFifth (av.mapFormat sdk f).1), (av.mapFormat sdk f).2) := by
  unfold NTV2GstAV.mapFormat onFifth
  dsimp only
  repeat' split
  all_goals rfl

theorem latch_on_fifth (av : NTV2GstAV) (sdiFormat : GstAjaModes.NTV2VideoFormat) :
    (onFifth av).latch sdiFormat = (onFifth (av.latch sdiFormat).1, (av.latch sdiFormat).2) := by
  unfold NTV2GstAV.latch onFifth
  dsimp only
  repeat' split
  all_goals rfl

/-- Channels 1 and 5 are the two that quad links are accepted on. -/
theorem init_on_fifth (nvmmEnabled : Bool) (a : InitArgs)
    (sdiFormat : GstAjaModes.NTV2VideoFormat) (hc : av.mInputChannel = 0) :
    (onFifth av).init sdk nvmmEnabled a sdiFormat =
      (onFifth (av.init sdk nvmmEnabled a sdiFormat).1,
        (av.init sdk nvmmEnabled a sdiFormat).2) := by
  have hconf : (onFifth av).configure a = onFifth (av.configure a) := rfl
  have hc' : (av.configure a).mInputChannel = 0 := hc
  unfold NTV2GstAV.init
  simp only [hconf, map_format_on_fifth]
  obtain ⟨-, -, hch, -⟩ := map_format_same sdk (av.configure a) a.videoFormat
  rw [hc'] at hch
  generalize (av.configure a).mapFormat sdk a.videoFormat = r at *
  obtain ⟨t, ok⟩ := r
  dsimp only at hch ⊢
  have hfifth : (onFifth t).mInputChannel = 4 := rfl
  simp only [hch, hfifth, latch_on_fifth]
  split
  · rfl
  split
  · rfl
  · simp

theorem init_same (sdk : Sdk) (nvmmEnabled : Bool) (av : NTV2GstAV) (a : InitArgs)
    (sdiFormat : GstAjaModes.NTV2VideoFormat) :
    (av.init sdk nvmmEnabled a sdiFormat).1.mSDIInputMode = a.sdiInputMode ∧
      (av.init sdk nvmmEnabled a sdiFormat).1.mVideoSource = a.inputSource ∧
      (av.init sdk nvmmEnabled a sdiFormat).1.mPassthrough = a.passthrough ∧
      (av.init sdk nvmmEnabled a sdiFormat).1.mInputChannel = av.mInputChannel := by
  obtain ⟨hm, hv, hc, -⟩ := map_format_same sdk (av.configure a) a.videoFormat
  have hp : ((av.configure a).mapFormat sdk a.videoFormat).1.mPassthrough = a.passthrough := by
    unfold NTV2GstAV.mapFormat
    dsimp only
    repeat' split
    all_goals rfl
  unfold NTV2GstAV.init
  dsimp only
  generalize (av.configure a).mapFormat sdk a.videoFormat = r at *
  obtain ⟨f, hf⟩ := latch_cases r.1 sdiFormat
  split
  · exact ⟨rfl, rfl, rfl, rfl⟩
  split
  · exact ⟨hm, hv, hp, hc⟩
  split
  · exact ⟨hm, hv, hp, hc⟩
  · rw [hf]
    exact ⟨hm, hv, hp, hc⟩

theorem quad_sdi_of_init {nvmmEnabled : Bool} {a : InitArgs}
    {sdiFormat : GstAjaModes.NTV2VideoFormat} (hc : av.mInputChannel = 0)
    (h : (av.init sdk nvmmEnabled a sdiFormat).2 = .setupVideo) (hs : a.inputSource = .sdi1)
    (hq : a.sdiInputMode.isQuadLink = true) (hp : a.passthrough = false) :
    QuadSdi (av.init sdk nvmmEnabled a sdiFormat).1 := by
  have accepted := init_accepted sdk nvmmEnabled av a sdiFormat h
  obtain ⟨hmode, hsource, hpass, hchannel⟩ := init_same sdk nvmmEnabled av a sdiFormat
  refine ⟨hchannel.trans hc, accepted.link_quad ?_, hsource.trans hs, hpass.trans hp⟩
  rw [hmode]
  exact hq

/-! ## The lists of the two channels -/

variable (others others' : Equiv.Perm ℕ)

theorem shift_input_apply (i : NTV2InputCrosspointID) :
    shiftInput others i = renameInput others i := rfl

theorem shift_output_apply (o : NTV2CrosspointID) :
    shiftOutput others o = renameOutput others o := rfl

theorem disconnected_inputs_shift (h : QuadSdi av) :
    disconnectedInputs (onFifth av) device =
      (disconnectedInputs av device).map (shiftInput others) := by
  obtain ⟨hc, hq, hs, -⟩ := h
  simp [disconnectedInputs, onFifth, hc, hq, hs, shift_input_apply, renameInput, shift, shiftMux]

theorem disconnected_outputs_shift (h : QuadSdi av) :
    disconnectedOutputs (onFifth av) device =
      (disconnectedOutputs av device).map (shiftOutput others) := by
  obtain ⟨hc, hq, hs, -⟩ := h
  simp [disconnectedOutputs, onFifth, hc, hq, hs, shift_output_apply, renameOutput, shift,
    shiftMux]

abbrev renamed (others others' : Equiv.Perm ℕ) : List Connection → List Connection :=
  List.map (Prod.map (shiftInput others) (shiftOutput others'))

theorem number_on_fifth (av : NTV2GstAV) : number (onFifth av).mInputChannel = 5 := rfl

theorem number_first (h : QuadSdi av) : number av.mInputChannel = 1 := by
  rw [h.channel]
  rfl

theorem needs_conversion_on_fifth (av : NTV2GstAV) :
    needsConversion (onFifth av) device = needsConversion av device := rfl

theorem csc_numbers (h : QuadSdi av) : cscNumber (onFifth av) = 5 ∧ cscNumber av = 1 := by
  have hs : (onFifth av).mVideoSource = .sdi1 := h.source
  constructor
  · simp only [cscNumber, hs]
    exact number_on_fifth av
  · simp only [cscNumber, h.source]
    exact number_first h

theorem main_identifier_shift (h : QuadSdi av) :
    mainIdentifier sdk (onFifth av) device =
      shiftOutput others' (mainIdentifier sdk av device) := by
  obtain ⟨hc, hq, hs, -⟩ := h
  by_cases ht : av.mSDIInputMode = .quadLinkTSI ∧
      sdk.value av.mVideoFormat < sdk.firstUhd2DefFormat
  · have hfirst : mainIdentifier sdk av device = .mux425AYUV 1 := by
      simp [mainIdentifier, hc, hs, hq, ht]
    have hfifth : mainIdentifier sdk (onFifth av) device = .mux425AYUV 3 := by
      simp [mainIdentifier, onFifth, hs, hq, ht]
    rw [hfirst, hfifth]
    rfl
  · have hfirst : mainIdentifier sdk av device = .sdiIn 1 := by
      simp [mainIdentifier, inputIdentifier, number, hc, hs, hq, ht]
    have hfifth : mainIdentifier sdk (onFifth av) device = .sdiIn 5 := by
      have hnumber : number 4 = 5 := rfl
      simp [mainIdentifier, inputIdentifier, onFifth, hs, hq, ht, hnumber]
    rw [hfirst, hfifth]
    rfl

theorem main_route_shift (h : QuadSdi av) :
    mainRoute sdk (onFifth av) device = renamed others others' (mainRoute sdk av device) := by
  have hcsc := csc_numbers h
  have hout : cscOutput (onFifth av) = shiftOutput others' (cscOutput av) := by
    have hrgba : (onFifth av).mIsRGBA = av.mIsRGBA := rfl
    unfold cscOutput
    rw [hcsc.1, hcsc.2, hrgba]
    split <;> rfl
  have hin : cscInput (onFifth av) = shiftInput others (cscInput av) := by
    unfold cscInput
    rw [hcsc.1, hcsc.2]
    rfl
  have hfbf : fbfInputSelect (onFifth av) = shiftInput others (fbfInputSelect av) := by
    unfold fbfInputSelect
    rw [number_on_fifth, number_first h]
    rfl
  unfold mainRoute
  rw [needs_conversion_on_fifth, main_identifier_shift others' h, hout, hin, hfbf]
  split <;> rfl

theorem quad_route_shift (h : QuadSdi av) (ht : ¬ TsiQuadQuad sdk av) :
    quadRoute sdk (onFifth av) = renamed others others' (quadRoute sdk av) := by
  obtain ⟨hc, hq, hs, -⟩ := h
  have h4 : ¬ (4 : NTV2Channel) = 0 := by decide
  unfold quadRoute
  simp only [onFifth, hc, hq, hs, h4, Bool.not_true, Bool.false_eq_true, if_false, if_true,
    reduceCtorEq]
  by_cases hm : av.mSDIInputMode = .quadLinkTSI
  · have hhfr : sdk.isQuadQuadHfrVideoFormat av.mVideoFormat = false := by
      rw [Bool.eq_false_iff]
      exact fun hh => ht ⟨hm, Or.inl hh⟩
    have hquad : sdk.isQuadQuadFormat av.mVideoFormat = false := by
      rw [Bool.eq_false_iff]
      exact fun hh => ht ⟨hm, Or.inr hh⟩
    simp only [hm, hhfr, hquad, Bool.false_eq_true, and_false, if_false, if_true]
    rfl
  · simp only [hm, false_and, if_false]
    rfl

theorem connections_quad_sdi (h : QuadSdi av) (hb : device.hasBiDirectionalSDI = true) :
    connections sdk av device = mainRoute sdk av device ++ quadRoute sdk av := by
  simp [connections, endToEnd, passthrough, hb, h.passthrough]

theorem connections_on_fifth (h : QuadSdi av) (hb : device.hasBiDirectionalSDI = true) :
    connections sdk (onFifth av) device =
      mainRoute sdk (onFifth av) device ++ quadRoute sdk (onFifth av) := by
  have hp : (onFifth av).mPassthrough = false := h.passthrough
  simp [connections, endToEnd, passthrough, hb, hp]

/-! ## The routing of the two channels -/

theorem setup_video_shift (h : QuadSdi av) (hb : device.hasBiDirectionalSDI = true)
    (ht : ¬ TsiQuadQuad sdk av) (replace : Bool) (oldRouter : Router) :
    setupVideo sdk (onFifth av) device replace
        (relabel (shiftInput others) (shiftOutput others') oldRouter) =
      relabel (shiftInput others) (shiftOutput others')
        (setupVideo sdk av device replace oldRouter) := by
  have hconn : connections sdk (onFifth av) device =
      renamed others others' (connections sdk av device) := by
    rw [connections_on_fifth h hb, connections_quad_sdi h hb, main_route_shift others others' h,
      quad_route_shift others others' h ht]
    exact List.map_append.symm
  unfold setupVideo
  rw [relabel_insert_all, relabel_clear, ← disconnected_inputs_shift others h,
    ← disconnected_outputs_shift others' h, hconn]

theorem fifth_main_keys : ∀ e ∈ mainRoute sdk (onFifth av) device, e.1 ≠ .frameBuffer 6 := by
  unfold mainRoute
  split <;> simp [cscInput, fbfInputSelect, number_on_fifth]

theorem fifth_quad_keys (h : QuadSdi av) (ht : TsiQuadQuad sdk av) :
    ∀ e ∈ quadRoute sdk (onFifth av), e.1 ≠ .frameBuffer 6 := by
  obtain ⟨-, hq, hs, -⟩ := h
  obtain ⟨hm, hf⟩ := ht
  unfold quadRoute
  by_cases hh : sdk.isQuadQuadHfrVideoFormat av.mVideoFormat = true
  · simp [onFifth, hq, hs, hm, hh]
  · simp [onFifth, hq, hs, hm, hh, hf.resolve_left hh]

/-- The sixth frame store is disconnected, and not connected again. -/
theorem sixth_frame_store_none (h : QuadSdi av) (hb : device.hasBiDirectionalSDI = true)
    (ht : TsiQuadQuad sdk av) (replace : Bool) (oldRouter : Router) :
    setupVideo sdk (onFifth av) device replace oldRouter (.frameBuffer 6) = none := by
  have hcleared : (.frameBuffer 6) ∈ disconnectedInputs (onFifth av) device := by
    rw [disconnected_inputs_shift (.refl ℕ) h]
    have h2 : (.frameBuffer 2) ∈ disconnectedInputs av device := by
      simp [disconnectedInputs, h.quad, h.source, h.channel]
    exact List.mem_map_of_mem h2
  unfold setupVideo
  rw [insert_all_of_ne]
  · simp [clear, hcleared]
  · rw [connections_on_fifth h hb, List.forall_mem_append]
    exact ⟨fifth_main_keys, fifth_quad_keys h ht⟩

theorem second_frame_store_some (device : DeviceFacts) (h : QuadSdi av)
    (ht : TsiQuadQuad sdk av) (replace : Bool) (oldRouter : Router) :
    (setupVideo sdk av device replace oldRouter (.frameBuffer 2)).isSome := by
  apply insert_all_isSome
  left
  obtain ⟨hc, hq, hs, -⟩ := h
  obtain ⟨hm, hf⟩ := ht
  suffices hroute : ∃ e ∈ quadRoute sdk av, e.1 = .frameBuffer 2 by
    obtain ⟨e, he, hk⟩ := hroute
    exact ⟨e, by simp [connections, he], hk⟩
  unfold quadRoute
  by_cases hh : sdk.isQuadQuadHfrVideoFormat av.mVideoFormat = true
  · simp [hc, hq, hs, hm, hh]
  · simp [hc, hq, hs, hm, hh, hf.resolve_left hh]

end Channels

/-- The routing of channel 5 is that of channel 1 renamed, for every quad SDI configuration
except a quad-quad format on a TSI link. -/
theorem route_shift_iff (sdk : Sdk) (nvmmEnabled : Bool) (av : NTV2GstAV) (a : InitArgs)
    (sdiFormat : GstAjaModes.NTV2VideoFormat) (device : DeviceFacts) (replace : Bool)
    (oldRouter : Router) (others others' : Equiv.Perm ℕ) (hc : av.mInputChannel = 0)
    (h : (av.init sdk nvmmEnabled a sdiFormat).2 = .setupVideo) (hs : a.inputSource = .sdi1)
    (hq : a.sdiInputMode.isQuadLink = true) (hp : a.passthrough = false)
    (hb : device.hasBiDirectionalSDI = true) :
    ((onFifth av).init sdk nvmmEnabled a sdiFormat).2 = .setupVideo ∧
    (setupVideo sdk ((onFifth av).init sdk nvmmEnabled a sdiFormat).1 device replace
        (relabel (shiftInput others) (shiftOutput others') oldRouter) =
      relabel (shiftInput others) (shiftOutput others')
        (setupVideo sdk (av.init sdk nvmmEnabled a sdiFormat).1 device replace oldRouter) ↔
      ¬ TsiQuadQuad sdk (av.init sdk nvmmEnabled a sdiFormat).1) := by
  have hquad := quad_sdi_of_init hc h hs hq hp
  rw [init_on_fifth nvmmEnabled a sdiFormat hc]
  refine ⟨h, ?_⟩
  dsimp only
  generalize (av.init sdk nvmmEnabled a sdiFormat).1 = av' at *
  constructor
  · intro heq ht
    have hsome := second_frame_store_some device hquad ht replace oldRouter
    have hsix := congrFun heq (shiftInput others (.frameBuffer 2))
    rw [relabel_apply, show shiftInput others (.frameBuffer 2) = .frameBuffer 6 from rfl,
      sixth_frame_store_none hquad hb ht] at hsix
    rw [← Option.isSome_map (f := shiftOutput others'), ← hsix] at hsome
    cases hsome
  · intro ht
    exact setup_video_shift others others' hquad hb ht replace oldRouter

theorem uhd_route_shift :
    setupVideo commonSdk ((engine 4).init commonSdk false
        ⟨.format3840x2160p_2500, .sdi1, true, false, .quadLinkTSI, false, false⟩ .unknown).1
        ⟨false, true, 8⟩ true
        (relabel (shiftInput (.refl ℕ)) (shiftOutput (.refl ℕ)) fun _ => some (.sdiIn 1)) =
      relabel (shiftInput (.refl ℕ)) (shiftOutput (.refl ℕ))
        (setupVideo commonSdk ((engine 0).init commonSdk false
          ⟨.format3840x2160p_2500, .sdi1, true, false, .quadLinkTSI, false, false⟩ .unknown).1
          ⟨false, true, 8⟩ true fun _ => some (.sdiIn 1)) :=
  (route_shift_iff commonSdk false (engine 0)
    ⟨.format3840x2160p_2500, .sdi1, true, false, .quadLinkTSI, false, false⟩ .unknown
    ⟨false, true, 8⟩ true (fun _ => some (.sdiIn 1)) (.refl ℕ) (.refl ℕ) rfl (by decide) rfl
    (by decide) rfl rfl).2.mpr (by decide)

/-- 8K over four links: the second frame store of channel 1 is fed, its image is not. -/
theorem eight_k_not_shifted : ¬ ∀ sdk nvmmEnabled av a sdiFormat device replace oldRouter,
    av.mInputChannel = 0 → (NTV2GstAV.init sdk nvmmEnabled av a sdiFormat).2 = .setupVideo →
    a.inputSource = .sdi1 → a.sdiInputMode.isQuadLink = true → a.passthrough = false →
    device.hasBiDirectionalSDI = true →
    setupVideo sdk ((onFifth av).init sdk nvmmEnabled a sdiFormat).1 device replace
        (relabel (shiftInput (.refl ℕ)) (shiftOutput (.refl ℕ)) oldRouter) =
      relabel (shiftInput (.refl ℕ)) (shiftOutput (.refl ℕ))
        (setupVideo sdk (av.init sdk nvmmEnabled a sdiFormat).1 device replace oldRouter) := by
  intro h
  have heq := h commonSdk false (engine 0) (quadTSI .format4x4096x2160p_6000) .unknown
    ⟨false, true, 8⟩ true (fun _ => none) rfl (by decide) rfl (by decide) rfl rfl
  have hsix := congrFun heq (.frameBuffer 6)
  revert hsix
  decide

end AjaRouteShift
