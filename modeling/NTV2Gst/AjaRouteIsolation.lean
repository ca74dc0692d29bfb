import NTV2Gst.AjaRegisterIsolation

/-!
# The routes of the inputs that are set up

`SetupVideo` works on the routing of the whole card. Every crosspoint that an input connects
or disconnects belongs to one of its channels or is an output connector, unless it is an
HDMI or analog input away from its own connector, or UHD over HDMI, which uses the frame
stores of the first two channels wherever it is.
-/
namespace AjaRouteIsolation

open TransitionRuns GstAjaModes AjaVideoSetup AjaRouting AjaFrameCrop KeyedInserts SharedEntries
  AjaCard AjaRegisterIsolation

/-! ## Whose crosspoint it is -/

def muxOwner (n : ℕ) : ℕ := if n ≤ 2 then n else n + 2

/-- The channel an input crosspoint belongs to, other than those of output connectors. -/
def inputOwner : NTV2InputCrosspointID → ℕ
  | .frameBuffer n | .frameBufferB n | .frameBufferDS2 n | .csc n => n
  | .mux425A n | .mux425B n => muxOwner n
  | .sdiOut _ | .hdmiOutQ _ | .other _ => 0

/-- The analog input and the quadrants of the first HDMI input belong to the first channel. -/
def outputOwner : NTV2CrosspointID → ℕ
  | .sdiIn n | .sdiInDS2 n | .hdmiIn n | .hdmiInRGB n | .cscVidRGB n | .cscVidYUV n => n
  | .hdmiIn1Q _ | .analogIn => 1
  | .mux425AYUV n | .mux425BYUV n => muxOwner n
  | .other _ => 0

structure AtHome (av : NTV2GstAV) : Prop where
  converter : cscNumber av = number av.mInputChannel
  quad_hdmi : av.mQuad = true → av.mVideoSource = .hdmi1 → av.mInputChannel = 0

instance (av : NTV2GstAV) : Decidable (AtHome av) :=
  decidable_of_iff (cscNumber av = number av.mInputChannel ∧
    (av.mQuad = true → av.mVideoSource = .hdmi1 → av.mInputChannel = 0))
    ⟨fun h => ⟨h.1, h.2⟩, fun h => ⟨h.converter, h.quad_hdmi⟩⟩

section Owners

variable {sdk : Sdk} {av : NTV2GstAV} {device : DeviceFacts}

theorem quad_channel (h : Accepted av) (home : AtHome av) (hq : av.mQuad = true) :
    av.mInputChannel = 0 ∨ av.mVideoSource ≠ .hdmi1 ∧ av.mInputChannel = 4 := by
  by_cases hs : av.mVideoSource = .hdmi1
  · exact Or.inl (home.quad_hdmi hq hs)
  · rcases h.link_channel ((h.quad_source hq).resolve_right hs) with hc | hc
    · exact Or.inl hc
    · exact Or.inr ⟨hs, hc⟩

theorem input_identifier_owner (home : AtHome av) :
    outputOwner (inputIdentifier av device) = number av.mInputChannel := by
  have hc := home.converter
  unfold cscNumber at hc
  unfold inputIdentifier
  cases hs : av.mVideoSource <;> rw [hs] at hc
  · rfl
  · dsimp only
    split <;> exact hc
  · exact hc

theorem span_first (hq : av.mQuad = true) (hc : av.mInputChannel = 0) :
    span av = [1, 2, 3, 4] := by
  rw [span, hq, hc]
  rfl

theorem span_second (hq : av.mQuad = true) (hc : av.mInputChannel = 4) :
    span av = [5, 6, 7, 8] := by
  rw [span, hq, hc]
  rfl

theorem quad_route_within (h : Accepted av) (home : AtHome av) :
    ∀ e ∈ quadRoute sdk av, inputOwner e.1 ∈ span av ∧ outputOwner e.2 ∈ span av := by
  by_cases hq : av.mQuad = true
  swap
  · simp [quadRoute, hq]
  unfold quadRoute
  rcases quad_channel h home hq with hc | ⟨hs, hc⟩
  · rw [span_first hq hc]
    simp only [hq, hc, Bool.not_true, Bool.false_eq_true, if_true, if_false]
    repeat' split
    all_goals decide
  · rw [span_second hq hc]
    have h0 : ¬ (4 : NTV2Channel) = 0 := by decide
    simp only [hq, hc, hs, h0, Bool.not_true, Bool.false_eq_true, if_false]
    repeat' split
    all_goals decide

theorem main_identifier_owner (h : Accepted av) (home : AtHome av) :
    outputOwner (mainIdentifier sdk av device) = number av.mInputChannel := by
  unfold mainIdentifier
  by_cases hq : av.mQuad = true
  swap
  · simp only [hq, Bool.false_and, Bool.false_eq_true, if_false]
    exact input_identifier_owner home
  split
  · rename_i hs
    have hc := home.quad_hdmi hq (by simpa [hq] using hs)
    rw [hc]
    rfl
  split
  · rename_i hs _
    rcases quad_channel h home hq with hc | ⟨-, hc⟩ <;> rw [hc] <;> rfl
  · exact input_identifier_owner home

theorem main_route_within (h : Accepted av) (home : AtHome av) :
    ∀ e ∈ mainRoute sdk av device, inputOwner e.1 ∈ span av ∧ outputOwner e.2 ∈ span av := by
  have hmain : outputOwner (mainIdentifier sdk av device) ∈ span av := by
    rw [main_identifier_owner h home]
    exact number_mem_span av
  have hcsc : inputOwner (cscInput av) ∈ span av ∧ outputOwner (cscOutput av) ∈ span av := by
    have hin : inputOwner (cscInput av) = number av.mInputChannel := home.converter
    have hout : outputOwner (cscOutput av) = number av.mInputChannel := by
      unfold cscOutput
      split <;> exact home.converter
    rw [hin, hout]
    exact ⟨number_mem_span av, number_mem_span av⟩
  have hfbf : inputOwner (fbfInputSelect av) ∈ span av := number_mem_span av
  unfold mainRoute
  split
  · intro e he
    simp only [List.mem_cons, List.not_mem_nil, or_false] at he
    rcases he with rfl | rfl
    · exact ⟨hcsc.1, hmain⟩
    · exact ⟨hfbf, hcsc.2⟩
  · intro e he
    obtain rfl := List.mem_singleton.mp he
    exact ⟨hfbf, hmain⟩

theorem mem_end_to_end {e : Connection} (he : e ∈ endToEnd av device) :
    device.hasBiDirectionalSDI = false ∧
      (e = (.hdmiOutQ (number av.mInputChannel), .hdmiIn (number av.mInputChannel)) ∨
        e = (.sdiOut (number av.mInputChannel), .sdiIn (number av.mInputChannel))) := by
  unfold endToEnd at he
  by_cases hb : device.hasBiDirectionalSDI = true
  · simp [hb] at he
  simp only [hb, Bool.false_eq_true, if_false] at he
  refine ⟨by simpa using hb, ?_⟩
  by_cases hc : av.mInputChannel.val < 4
  swap
  · simp [hc] at he
  by_cases hs : av.mVideoSource = .hdmi1 <;> simp only [hc, hs, if_true, if_false] at he
  · exact Or.inl (List.mem_singleton.mp he)
  · exact Or.inr (List.mem_singleton.mp he)

theorem mem_passthrough {e : Connection} (he : e ∈ passthrough av device) :
    device.hasBiDirectionalSDI = true ∧
      e = (.sdiOut (number av.mInputChannel + if device.numVideoOutputs = 8 then 4 else 2),
        .sdiIn (number av.mInputChannel)) := by
  unfold passthrough at he
  split at he
  · rename_i hp
    split at he
    · exact ⟨(Bool.and_eq_true_iff.mp hp).2, List.mem_singleton.mp he⟩
    · cases he
  · cases he

theorem connector_output (e : Connection)
    (he : e ∈ endToEnd av device ++ passthrough av device) : outputOwner e.2 ∈ span av := by
  suffices outputOwner e.2 = number av.mInputChannel by
    rw [this]
    exact number_mem_span av
  rcases List.mem_append.mp he with he | he
  · rcases (mem_end_to_end he).2 with rfl | rfl <;> rfl
  · rw [(mem_passthrough he).2]
    rfl

theorem disconnected_output_within (h : Accepted av) (home : AtHome av) :
    ∀ o ∈ disconnectedOutputs av device, outputOwner o ∈ span av := by
  by_cases hq : av.mQuad = true
  swap
  · intro o ho
    simp only [disconnectedOutputs, hq, Bool.false_and, Bool.false_eq_true, if_false,
      List.mem_singleton] at ho
    rw [ho, input_identifier_owner home]
    exact number_mem_span av
  unfold disconnectedOutputs
  rcases quad_channel h home hq with hc | ⟨hs, hc⟩
  · rw [span_first hq hc]
    simp only [hq, hc, Bool.true_and, beq_self_eq_true, if_true]
    split <;> decide
  · rw [span_second hq hc]
    simp [hq, hs, hc, outputOwner, muxOwner]

theorem disconnected_input_within (h : Accepted av) (home : AtHome av) :
    ∀ i ∈ disconnectedInputs av device, inputOwner i ∈ span av ∨
      ∃ n, i = .frameBufferB n ∧ (n ≤ 4 ↔ number av.mInputChannel ≤ 4) := by
  by_cases hq : av.mQuad = true
  · intro i hi
    left
    revert i
    unfold disconnectedInputs
    rcases quad_channel h home hq with hc | ⟨hs, hc⟩
    · rw [span_first hq hc]
      simp only [hq, hc, Bool.true_and, beq_self_eq_true, if_true]
      split <;> decide
    · rw [span_second hq hc]
      simp [hq, hs, hc, inputOwner, muxOwner]
  · have hid : ∀ k, inputIdentifier av device = .sdiIn k → number av.mInputChannel = k := by
      intro k hk
      have hown : outputOwner (inputIdentifier av device) = number av.mInputChannel :=
        input_identifier_owner home
      rw [hk] at hown
      exact hown.symm
    intro i hi
    simp only [disconnectedInputs, hq, Bool.false_and, Bool.false_eq_true, if_false,
      List.mem_append, List.mem_cons, List.not_mem_nil, or_false] at hi
    rcases hi with (((hi | hi) | hi) | hi) | hi
    · left
      rcases hi with rfl | rfl
      · exact number_mem_span av
      · have : inputOwner (cscInput av) = number av.mInputChannel := home.converter
        rw [this]
        exact number_mem_span av
    all_goals
      right
      split at hi
      · rename_i hk
        obtain rfl := List.mem_singleton.mp hi
        have hn := hk.imp (hid _) (hid _)
        exact ⟨_, rfl, by omega⟩
      · cases hi

theorem connection_within (h : Accepted av) (home : AtHome av) {e : Connection}
    (he : e ∈ connections sdk av device) :
    outputOwner e.2 ∈ span av ∧
      ((e.1.isConnector = false ∧ inputOwner e.1 ∈ span av) ∨
        e ∈ endToEnd av device ++ passthrough av device) := by
  have inner : ∀ i : NTV2InputCrosspointID, inputOwner i ∈ span av → i.isConnector = false := by
    intro i hi
    have hpos : 0 < inputOwner i := by
      have := (mem_span.mp hi).1
      unfold number at this
      omega
    cases i <;> first | rfl | simp [inputOwner] at hpos
  have conn : e ∈ endToEnd av device ++ passthrough av device → outputOwner e.2 ∈ span av :=
    connector_output e
  unfold connections at he
  simp only [List.mem_append] at he conn ⊢
  rcases he with ((he | he) | he) | he
  · obtain ⟨hin, hout⟩ := main_route_within h home e he
    exact ⟨hout, Or.inl ⟨inner _ hin, hin⟩⟩
  · exact ⟨conn (Or.inl he), Or.inr (Or.inl he)⟩
  · obtain ⟨hin, hout⟩ := quad_route_within h home e he
    exact ⟨hout, Or.inl ⟨inner _ hin, hin⟩⟩
  · exact ⟨conn (Or.inr he), Or.inr (Or.inr he)⟩

theorem is_connector {e : Connection} (he : e ∈ endToEnd av device ++ passthrough av device) :
    e.1.isConnector = true := by
  rcases List.mem_append.mp he with he | he
  · exact end_to_end_connector e he
  · exact passthrough_connector e he

/-- Only quad inputs use the second input of a frame store, and they have all channels of
its half of the card. -/
theorem second_input_span (h : Accepted av) (home : AtHome av) {e : Connection}
    (he : e ∈ connections sdk av device) {n k : ℕ} (hn : e.1 = .frameBufferB n)
    (hk : 1 ≤ k ∧ k ≤ 8) (hhalf : n ≤ 4 ↔ k ≤ 4) : k ∈ span av := by
  have hq : e ∈ quadRoute sdk av := by
    unfold connections at he
    simp only [List.mem_append] at he
    rcases he with ((he | he) | he) | he
    · have hkey : e.1 ∈ (mainRoute sdk av device).map Prod.fst := List.mem_map_of_mem he
      rw [main_route_keys, hn] at hkey
      split at hkey <;> simp [cscInput, fbfInputSelect] at hkey
    · have := end_to_end_connector e he
      rw [hn] at this
      cases this
    · exact he
    · have := passthrough_connector e he
      rw [hn] at this
      cases this
  have hquad : av.mQuad = true := by
    by_contra hne
    simp [quadRoute, hne] at hq
  have hmem := (quad_route_within h home e hq).1
  rw [hn] at hmem
  change n ∈ span av at hmem
  rcases quad_channel h home hquad with hc | ⟨-, hc⟩
  · rw [span_first hquad hc] at *
    simp only [List.mem_cons, List.not_mem_nil, or_false] at *
    omega
  · rw [span_second hquad hc] at *
    simp only [List.mem_cons, List.not_mem_nil, or_false] at *
    omega

end Owners

/-! ## Two inputs -/

section Pair

variable {sdk : Sdk} {av av' : NTV2GstAV} {device device' : DeviceFacts}

/-- The same card, whatever the HDMI inputs deliver. -/
structure SameCard (device device' : DeviceFacts) : Prop where
  bidirectional : device'.hasBiDirectionalSDI = device.hasBiDirectionalSDI
  outputs : device'.numVideoOutputs = device.numVideoOutputs

theorem connectors_apart (same : SameCard device device')
    (hne : av.mInputChannel ≠ av'.mInputChannel) {e f : Connection}
    (he : e ∈ endToEnd av device ++ passthrough av device)
    (hf : f ∈ endToEnd av' device' ++ passthrough av' device') : e.1 ≠ f.1 := by
  have hv : av.mInputChannel.val ≠ av'.mInputChannel.val := fun h => hne (Fin.ext h)
  have hnum : number av.mInputChannel ≠ number av'.mInputChannel := by
    unfold number
    omega
  intro hk
  rcases List.mem_append.mp he with he | he <;> rcases List.mem_append.mp hf with hf | hf
  · rcases (mem_end_to_end he).2 with rfl | rfl <;> rcases (mem_end_to_end hf).2 with rfl | rfl <;>
      simp only [NTV2InputCrosspointID.sdiOut.injEq, NTV2InputCrosspointID.hdmiOutQ.injEq,
        reduceCtorEq] at hk <;> exact hnum hk
  · have hb := (mem_end_to_end he).1
    rw [← same.bidirectional, (mem_passthrough hf).1] at hb
    cases hb
  · have hb := (mem_end_to_end hf).1
    rw [same.bidirectional, (mem_passthrough he).1] at hb
    cases hb
  · rw [(mem_passthrough he).2, (mem_passthrough hf).2, same.outputs] at hk
    simp only [NTV2InputCrosspointID.sdiOut.injEq, Nat.add_right_cancel_iff] at hk
    exact hnum hk

theorem routes_apart (same : SameCard device device') (h : Accepted av) (home : AtHome av)
    (h' : Accepted av') (home' : AtHome av')
    (apart : ∀ n ∈ span av, n ∉ span av') {e : Connection}
    (he : e ∈ connections sdk av device) :
    e.1 ∉ disconnectedInputs av' device' ∧ e.2 ∉ disconnectedOutputs av' device' ∧
      ∀ f ∈ connections sdk av' device', f.1 ≠ e.1 := by
  have hne : av.mInputChannel ≠ av'.mInputChannel := by
    intro hc
    apply apart _ (number_mem_span av)
    rw [hc]
    exact number_mem_span av'
  obtain ⟨hout, hin⟩ := connection_within h home he
  refine ⟨fun hi => ?_, fun ho => apart _ hout (disconnected_output_within h' home' _ ho), ?_⟩
  · rcases hin with ⟨-, hin⟩ | hconn
    · rcases disconnected_input_within h' home' _ hi with hi | ⟨n, hn, hhalf⟩
      · exact apart _ hin hi
      · have hlt := av'.mInputChannel.isLt
        apply apart (number av'.mInputChannel) ?_ (number_mem_span av')
        exact second_input_span h home he hn (by unfold number; omega) hhalf
    · have hnot := disconnected_not_connector _ hi
      rw [is_connector hconn] at hnot
      cases hnot
  · intro f hf hk
    rcases (connection_within h' home' hf).2 with ⟨hfc, hf⟩ | hf <;>
      rcases hin with ⟨hec, he⟩ | he
    · exact apart _ he (hk ▸ hf)
    · rw [hk, is_connector he] at hfc
      cases hfc
    · rw [← hk, is_connector hf] at hec
      cases hec
    · exact connectors_apart same hne he hf hk.symm

end Pair

/-! ## What is safe once it is set up -/

section Secured

variable (sdk : Sdk) (av : NTV2GstAV) (device : DeviceFacts) (replace : Bool)

/-- In a router that ignores a second connection on an input, the connections on inputs that
were disconnected before. -/
def secured : List Connection :=
  (connections sdk av device).filter fun e => replace || e.1 ∈ disconnectedInputs av device

variable {sdk av device replace}

theorem mem_secured {e : Connection} : e ∈ secured sdk av device replace ↔
    e ∈ connections sdk av device ∧ (replace = true ∨ e.1 ∈ disconnectedInputs av device) := by
  simp [secured, List.mem_filter]

theorem secured_present (h : Accepted av) (ht : ¬ ConnectedTwice sdk av) (oldRouter : Router) :
    Present (setupVideo sdk av device replace oldRouter) (secured sdk av device replace) := by
  intro e he
  obtain ⟨he, hr⟩ := mem_secured.mp he
  apply insert_all_mem (functional_of_not_twice h ht) he
  rcases hr with hr | hi
  · exact Or.inl hr
  · right
    intro v hv
    simp [clear, hi] at hv

theorem secured_stays {av' : NTV2GstAV} {device' : DeviceFacts} {m : Router}
    (hm : Present m (secured sdk av device replace)) (same : SameCard device device')
    (h : Accepted av) (home : AtHome av) (h' : Accepted av') (home' : AtHome av')
    (apart : ∀ n ∈ span av, n ∉ span av') :
    Present (setupVideo sdk av' device' replace m) (secured sdk av device replace) := by
  have split : ∀ e ∈ secured sdk av device replace, e.1 ∉ disconnectedInputs av' device' ∧
      e.2 ∉ disconnectedOutputs av' device' ∧ ∀ f ∈ connections sdk av' device', f.1 ≠ e.1 :=
    fun e he => routes_apart same h home h' home' apart (mem_secured.mp he).1
  apply present_stays
  · exact present_clear hm fun e he => ⟨(split e he).1, (split e he).2.1⟩
  · exact fun e he f hf hk => absurd hk.symm ((split e he).2.2 f hf)

theorem single_link_source (sdk : Sdk) (device : DeviceFacts) (hlink : av.mQuad = false) :
    ∃ o, (fbfInputSelect av, o) ∈ mainRoute sdk av device ∧ o ≠ .mux425AYUV 2 := by
  unfold mainRoute mainIdentifier inputIdentifier cscOutput
  simp only [hlink, Bool.false_and, Bool.false_eq_true, if_false]
  split
  · refine ⟨_, List.mem_cons_of_mem _ (List.mem_singleton_self _), ?_⟩
    split <;> simp
  · refine ⟨_, List.mem_singleton_self _, ?_⟩
    repeat' split
    all_goals simp

section QuadHdmi

variable {av' : NTV2GstAV} {device' : DeviceFacts}

theorem quad_hdmi_inputs (hq : av'.mQuad = true) (hs : av'.mVideoSource = .hdmi1) :
    disconnectedInputs av' device' = [.frameBuffer 1, .frameBufferB 1, .frameBuffer 2,
      .frameBufferB 2, .mux425A 1, .mux425B 1, .mux425A 2, .mux425B 2] := by
  simp [disconnectedInputs, hq, hs]

theorem quad_hdmi_leaves_first (hq : av'.mQuad = true) (hs : av'.mVideoSource = .hdmi1)
    (hne : av'.mInputChannel ≠ 0) : ∀ f ∈ connections sdk av' device', f.1 ≠ .frameBuffer 1 := by
  intro f hf hk
  unfold connections at hf
  simp only [List.mem_append] at hf
  rcases hf with ((hf | hf) | hf) | hf
  · have hmem : f.1 ∈ (mainRoute sdk av' device').map Prod.fst := List.mem_map_of_mem hf
    rw [main_route_keys, hk] at hmem
    split at hmem <;> simp [cscInput, fbfInputSelect, number, hne] at hmem
  · have := end_to_end_connector f hf
    rw [hk] at this
    cases this
  · simp only [quadRoute, hq, hs, Bool.not_true, Bool.false_eq_true, if_true, if_false] at hf
    revert hk
    revert f
    decide
  · have := passthrough_connector f hf
    rw [hk] at this
    cases this

theorem quad_hdmi_second (h' : Accepted av') (hq : av'.mQuad = true)
    (hs : av'.mVideoSource = .hdmi1) (hne : av'.mInputChannel ≠ 1) (oldRouter : Router) :
    setupVideo sdk av' device' replace oldRouter (.frameBuffer 2) = some (.mux425AYUV 2) := by
  have honce : ¬ ConnectedTwice sdk av' := by
    rintro ⟨-, ⟨-, h1⟩ | ⟨h1, -⟩⟩
    · exact hne h1
    · exact h1 hs
  have hquad : ((.frameBuffer 2, .mux425AYUV 2) : Connection) ∈ connections sdk av' device' := by
    simp [connections, quadRoute, hq, hs]
  exact insert_all_mem (functional_of_not_twice h' honce) hquad
    (Or.inr fun v hv => by simp [clear, quad_hdmi_inputs hq hs] at hv)

/-- UHD over HDMI takes the frame stores of the first two channels from whoever has them. -/
theorem quad_hdmi_takes (h' : Accepted av') (hq : av'.mQuad = true)
    (hs : av'.mVideoSource = .hdmi1) (hlink : av.mQuad = false)
    (hc : av.mInputChannel = 0 ∨ av.mInputChannel = 1)
    (hne : av.mInputChannel ≠ av'.mInputChannel) (oldRouter : Router) :
    ¬ Present (setupVideo sdk av' device' replace oldRouter) (mainRoute sdk av device) := by
  obtain ⟨o, ho, hmux⟩ := single_link_source sdk device hlink
  intro hp
  have hnow := hp _ ho
  rcases hc with hc | hc
  · -- nothing is connected to the first frame store again
    have hfbf : fbfInputSelect av = .frameBuffer 1 := by simp [fbfInputSelect, number, hc]
    unfold setupVideo at hnow
    rw [hfbf, insert_all_of_ne (quad_hdmi_leaves_first hq hs (hc ▸ hne.symm))] at hnow
    simp [clear, quad_hdmi_inputs hq hs] at hnow
  · have hfbf : fbfInputSelect av = .frameBuffer 2 := by simp [fbfInputSelect, number, hc]
    rw [hfbf, quad_hdmi_second h' hq hs (hc ▸ hne.symm)] at hnow
    exact hmux (Option.some.inj hnow).symm

end QuadHdmi

end Secured

/-! ## Runs -/

section Runs

variable (sdk : Sdk) (nvmmEnabled replace : Bool) (device : DeviceFacts)

def RoutesApart (s : Card) : Event → Prop
  | .init c args sdiFormat bitDepth captureTall _ =>
    ∀ setup ∈ initCapture sdk nvmmEnabled (s.av c) args sdiFormat bitDepth captureTall,
      AtHome setup.av ∧ ¬ ConnectedTwice sdk setup.av ∧
        ∀ b, b ≠ c → ∀ r ∈ s.setUp b, ∀ n ∈ span r.setup.av, n ∉ span setup.av
  | .run _ | .quit _ => True

instance (s : Card) : ∀ e, Decidable (RoutesApart sdk nvmmEnabled s e)
  | .init c args sdiFormat bitDepth captureTall _ => inferInstanceAs (Decidable
    (∀ setup ∈ initCapture sdk nvmmEnabled (s.av c) args sdiFormat bitDepth captureTall,
      AtHome setup.av ∧ ¬ ConnectedTwice sdk setup.av ∧
        ∀ b, b ≠ c → ∀ r ∈ s.setUp b, ∀ n ∈ span r.setup.av, n ∉ span setup.av))
  | .run _ | .quit _ => isTrue trivial

structure Routed (s : Card) : Prop where
  accepted : ∀ c, ∀ r ∈ s.setUp c, Accepted r.setup.av ∧ AtHome r.setup.av
  held : Held s.setUp (fun r => secured sdk r.setup.av (r.facts device) replace) s.router

variable {sdk nvmmEnabled replace device} {s t : Card} {e : Event}

theorem facts_same (r t : Tenant) : SameCard (r.facts device) (t.facts device) := ⟨rfl, rfl⟩

theorem Routed.next (h : Routed sdk replace device s) (ha : RoutesApart sdk nvmmEnabled s e)
    (ht : s.next sdk nvmmEnabled replace device e = some t) : Routed sdk replace device t := by
  cases e with
  | init c args sdiFormat bitDepth captureTall hdmiColorRGB =>
    obtain ⟨-, rfl⟩ | ⟨setup, hi, rfl⟩ := init_cases ht
    · exact ⟨h.accepted, h.held⟩
    · obtain ⟨hstatus, hav⟩ := init_capture_av hi
      obtain ⟨home, honce, hapart⟩ := ha setup hi
      have accepted : Accepted setup.av := hav ▸ init_accepted _ _ _ _ _ hstatus
      constructor
      · intro b r hr
        by_cases hb : b = c
        · subst hb
          simp only [Card.setupVideo, Function.update_self, Option.mem_some_iff] at hr
          subst hr
          exact ⟨accepted, home⟩
        · simp only [Card.setupVideo, Function.update_of_ne hb] at hr
          exact h.accepted b r hr
      · refine held_update_iff.mpr ⟨?_, ?_⟩
        · intro r hr
          obtain rfl := Option.mem_some.mp hr
          exact secured_present accepted honce _
        · intro b hb r hr
          obtain ⟨hracc, hrhome⟩ := h.accepted b r hr
          exact secured_stays (h.held b r hr) (facts_same r _) hracc hrhome accepted home
            (hapart b hb r hr)
  | run c =>
    obtain rfl := Option.some.inj ht
    exact ⟨h.accepted, h.held⟩
  | quit c =>
    obtain rfl := Option.some.inj ht
    constructor
    · intro b r hr
      by_cases hb : b = c
      · subst hb
        simp at hr
      · exact h.accepted b r (by simpa [hb] using hr)
    · exact held_update_iff.mpr ⟨fun r hr => (by cases hr), fun b _ r hr => h.held b r hr⟩

end Runs

/-- However inputs are set up and torn down next to each other, each one that is set up keeps
the route to its frame stores, in a router that replaces connections also those to its output
connectors. UHD over HDMI away from the first channel breaks the single links on the first
two. -/
theorem routes_isolated (sdk : Sdk) (nvmmEnabled replace : Bool) (device : DeviceFacts) :
    (∀ s, ReachableWhile (card sdk nvmmEnabled replace device)
        (RoutesApart sdk nvmmEnabled) s → ∀ c, ∀ r ∈ s.setUp c,
      (r.setup.av.mQuad = false →
        Present s.router (mainRoute sdk r.setup.av (r.facts device))) ∧
      Present s.router (quadRoute sdk r.setup.av) ∧
      (replace = true → Present s.router (connections sdk r.setup.av (r.facts device)))) ∧
    ∀ (r t : Tenant) oldRouter, Accepted t.setup.av → t.setup.av.mQuad = true →
      t.setup.av.mVideoSource = .hdmi1 → r.setup.av.mQuad = false →
      (r.setup.av.mInputChannel = 0 ∨ r.setup.av.mInputChannel = 1) →
      r.setup.av.mInputChannel ≠ t.setup.av.mInputChannel →
      ¬ Present (setupVideo sdk t.setup.av (t.facts device) replace oldRouter)
        (mainRoute sdk r.setup.av (r.facts device)) := by
  constructor
  · intro s hs c r hr
    have routed : Routed sdk replace device s := by
      apply hs.invariant
      · intro i hi
        constructor <;> rw [hi.setUp]
        · intro c r hr
          cases hr
        · exact held_none
      · exact fun a e b h ha hn => h.next ha hn
    obtain ⟨accepted, -⟩ := routed.accepted c r hr
    have held := routed.held c r hr
    refine ⟨fun hq e he => held e ?_, fun e he => held e ?_, fun hrep e he => held e ?_⟩
    · refine mem_secured.mpr ⟨by simp [connections, he], Or.inr ?_⟩
      have hkey : e.1 ∈ (mainRoute sdk r.setup.av (r.facts device)).map Prod.fst :=
        List.mem_map_of_mem he
      have hcsc : cscInput r.setup.av ∈ disconnectedInputs r.setup.av (r.facts device) :=
        csc_disconnected_iff.mpr hq
      have hfbf : fbfInputSelect r.setup.av ∈ disconnectedInputs r.setup.av (r.facts device) :=
        (fbf_disconnected_iff accepted).mpr (by simp [hq])
      rw [main_route_keys] at hkey
      split at hkey <;>
        simp only [List.mem_append, List.mem_singleton, List.not_mem_nil, false_or] at hkey
      · rcases hkey with hk | hk <;> rw [hk] <;> assumption
      · rw [hkey]
        exact hfbf
    · exact mem_secured.mpr ⟨by simp [connections, he], Or.inr (quad_route_disconnected e he)⟩
    · exact mem_secured.mpr ⟨he, Or.inl hrep⟩
  · intro r t oldRouter h' hq hs hlink hc hne
    exact quad_hdmi_takes h' hq hs hlink hc hne oldRouter

def startInput (c : NTV2Channel) (source : NTV2InputSource) (mode : SDIInputMode)
    (f : NTV2VideoFormat) : List Event :=
  [.init c ⟨f, source, false, false, mode, false, false⟩ .unknown 10 false false, .run c]

theorem routes_isolated_half_cards :
    ∃ s : Card, (s.setUp 4).isSome ∧ ∃ r ∈ s.setUp 1,
      Present s.router (mainRoute commonSdk r.setup.av (r.facts ⟨false, true, 8⟩)) := by
  obtain ⟨s, hs, hp⟩ := reachable_while_of_trace
    (m := card commonSdk false false ⟨false, true, 8⟩) (a := RoutesApart commonSdk false)
    (l := startInput 1 .hdmi1 .singleLink .format1080p_2500 ++
      startInput 6 .sdi1 .singleLink .format1080p_2500 ++ [.quit 6] ++
      startInput 4 .sdi1 .quadLinkTSI .format3840x2160p_2500)
    (p := fun s => decide ((s.setUp 4).isSome ∧
      (s.setUp 1).any (fun r => !r.setup.av.mQuad) = true)) idle_card (by decide +kernel)
  obtain ⟨h4, h1⟩ := of_decide_eq_true hp
  obtain ⟨r, hr, hq⟩ := (Option.any_eq_true _ _).mp h1
  exact ⟨s, h4, r, hr, ((routes_isolated commonSdk false false ⟨false, true, 8⟩).1 s hs 1 r hr).1
    (by simpa using hq)⟩

end AjaRouteIsolation
