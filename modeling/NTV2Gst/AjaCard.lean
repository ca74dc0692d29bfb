import NTV2Gst.SharedEntries
import NTV2Gst.TransitionRuns
import NTV2Gst.AjaFrameCrop
import NTV2Gst.AjaRouting

/-!
# The card that all inputs share

`SetupVideo` and `Quit` of every input program one card: the routing, and of the registers
those that `SetMode`, `SetFrameBufferFormat`, `EnableChannel` and `SetSDITransmitEnable` name
by a channel or a connector, counted from one here as in the crosspoints. The switches of the
quad modes, the video format and the VANC settings are left out, since the SDK decides which
channels they act on, and so is the reference, which the card has once for the last `Init`.
-/
namespace AjaCard

open TransitionRuns GstAjaModes AjaVideoSetup AjaRouting AjaFrameCrop KeyedInserts SharedEntries

inductive NTV2Mode where
  | display | capture
  deriving DecidableEq, Repr

inductive Register where
  | mode (channel : ℕ)
  | frameBufferFormat (channel : ℕ)
  | channelEnabled (channel : ℕ)
  | sdiTransmitEnable (connector : ℕ)
  deriving DecidableEq, Repr

inductive Value where
  | mode (m : NTV2Mode)
  | format (f : NTV2PixelFormat)
  | flag (b : Bool)
  deriving DecidableEq, Repr

/-- A register has no known value before something is written to it. -/
abbrev Registers := Register → Option Value

abbrev Write := Register × Value

/-! ## What an input writes -/

/-- The channels of an input: four in quad mode. A call for a channel that does not exist has
no effect. -/
def span (av : NTV2GstAV) : List ℕ :=
  ((List.range (if av.mQuad then 4 else 1)).map (number av.mInputChannel + ·)).filter (· ≤ 8)

/-- What an input was set up with last, and the colours its HDMI input delivered then. -/
structure Tenant where
  setup : CaptureSetup
  hdmiColorRGB : Bool
  deriving DecidableEq, Repr

section Writes

variable (device : DeviceFacts) (t : Tenant)

def Tenant.facts : DeviceFacts := { device with hdmiColorRGB := t.hdmiColorRGB }

def Tenant.passesThrough : Bool := t.setup.av.mPassthrough && device.hasBiDirectionalSDI

def Tenant.displayed : List ℕ :=
  if t.passesThrough device then
    [number t.setup.av.mInputChannel + device.numVideoOutputs / 2].filter (· ≤ 8)
  else []

def Tenant.turned : List ℕ :=
  if t.passesThrough device then
    if t.setup.av.mInputChannel.val < 4 then
      [number t.setup.av.mInputChannel + if device.numVideoOutputs = 8 then 4 else 2]
    else []
  else []

/-- The calls of `SetupVideo` for these registers. Those for the further channels of a quad input
come later in the source, with no other call for the same registers in between. -/
def Tenant.writes : List Write :=
  (span t.setup.av).map (fun n => (.mode n, .mode .capture)) ++
    (span t.setup.av).map (fun n => (.frameBufferFormat n, .format t.setup.mPixelFormat)) ++
    (span t.setup.av).map (fun n => (.channelEnabled n, .flag true)) ++
    (if device.hasBiDirectionalSDI then
      (span t.setup.av).map fun n => (.sdiTransmitEnable n, .flag false) else []) ++
    (t.displayed device).map (fun n => (.mode n, .mode .display)) ++
    (t.turned device).map fun n => (.sdiTransmitEnable n, .flag true)

end Writes

/-- `Quit` stops video capture, on four channels if the last `Init` left the engine in quad
mode. -/
def quitWrites (av : NTV2GstAV) : List Write :=
  (span av).map fun n => (.mode n, .mode .display)

/-! ## One card -/

structure Card where
  av : NTV2Channel → NTV2GstAV
  setUp : NTV2Channel → Option Tenant
  router : Router
  registers : Registers

inductive Event where
  | init (channel : NTV2Channel) (args : InitArgs) (sdiFormat : NTV2VideoFormat) (bitDepth : ℕ)
      (captureTall hdmiColorRGB : Bool)
  | run (channel : NTV2Channel)
  | quit (channel : NTV2Channel)
  deriving DecidableEq, Repr

section Machine

variable (sdk : Sdk) (nvmmEnabled replace : Bool) (device : DeviceFacts)

def Card.setupVideo (s : Card) (c : NTV2Channel) (t : Tenant) : Card :=
  { s with
    setUp := Function.update s.setUp c (some t)
    router := AjaRouting.setupVideo sdk t.setup.av (t.facts device) replace s.router
    registers := insertAll true s.registers (t.writes device) }

def Card.configure (s : Card) (c : NTV2Channel) (args : InitArgs) (sdiFormat : NTV2VideoFormat) :
    Card :=
  { s with av := Function.update s.av c ((s.av c).init sdk nvmmEnabled args sdiFormat).1 }

/-- An `Init` that fails leaves its marks on the engine. -/
def Card.next (s : Card) : Event → Option Card
  | .init c args sdiFormat bitDepth captureTall hdmiColorRGB =>
    let t := s.configure sdk nvmmEnabled c args sdiFormat
    match initCapture sdk nvmmEnabled (s.av c) args sdiFormat bitDepth captureTall with
    | none => some t
    | some setup => some (t.setupVideo sdk replace device c ⟨setup, hdmiColorRGB⟩)
  | .run c => some { s with av := Function.update s.av c { s.av c with mStarted := true } }
  | .quit c => some { s with
      av := Function.update s.av c { s.av c with mStarted := false }
      setUp := Function.update s.setUp c none
      registers := insertAll true s.registers (quitWrites (s.av c)) }

structure Idle (s : Card) : Prop where
  channel : ∀ c, (s.av c).mInputChannel = c
  setUp : s.setUp = fun _ => none

def card : Machine Card Event where
  initial := Idle
  next := Card.next sdk nvmmEnabled replace device

end Machine

/-! ## Channels -/

theorem mem_span {av : NTV2GstAV} {n : ℕ} :
    n ∈ span av ↔ number av.mInputChannel ≤ n ∧
      n < number av.mInputChannel + (if av.mQuad then 4 else 1) ∧ n ≤ 8 := by
  unfold span
  simp only [List.mem_filter, List.mem_map, List.mem_range, decide_eq_true_eq]
  constructor
  · rintro ⟨⟨k, hk, rfl⟩, h8⟩
    exact ⟨by omega, by omega, h8⟩
  · rintro ⟨hle, hlt, h8⟩
    exact ⟨⟨n - number av.mInputChannel, by omega, by omega⟩, h8⟩

theorem number_mem_span (av : NTV2GstAV) : number av.mInputChannel ∈ span av := by
  have := av.mInputChannel.isLt
  rw [mem_span]
  unfold number
  split <;> omega

theorem init_capture_av {sdk : Sdk} {nvmmEnabled : Bool} {av : NTV2GstAV} {a : InitArgs}
    {sdiFormat : NTV2VideoFormat} {bitDepth : ℕ} {captureTall : Bool} {setup : CaptureSetup}
    (h : initCapture sdk nvmmEnabled av a sdiFormat bitDepth captureTall = some setup) :
    (av.init sdk nvmmEnabled a sdiFormat).2 = .setupVideo ∧
      setup.av = (av.init sdk nvmmEnabled a sdiFormat).1 := by
  unfold initCapture at h
  dsimp only at h
  obtain ⟨hs, hset⟩ := Option.ite_none_right_eq_some.mp h
  exact ⟨hs, by rw [← Option.some.inj hset]⟩

theorem init_cases {sdk : Sdk} {nvmmEnabled replace : Bool} {device : DeviceFacts} {s t : Card}
    {c : NTV2Channel} {args : InitArgs} {sdiFormat : NTV2VideoFormat} {bitDepth : ℕ}
    {captureTall hdmiColorRGB : Bool}
    (h : s.next sdk nvmmEnabled replace device
      (.init c args sdiFormat bitDepth captureTall hdmiColorRGB) = some t) :
    (initCapture sdk nvmmEnabled (s.av c) args sdiFormat bitDepth captureTall = none ∧
      t = s.configure sdk nvmmEnabled c args sdiFormat) ∨
    ∃ setup, initCapture sdk nvmmEnabled (s.av c) args sdiFormat bitDepth captureTall =
        some setup ∧
      t = (s.configure sdk nvmmEnabled c args sdiFormat).setupVideo sdk replace device c
        ⟨setup, hdmiColorRGB⟩ := by
  simp only [Card.next] at h
  split at h
  · rename_i hi
    exact Or.inl ⟨hi, (Option.some.inj h).symm⟩
  · rename_i setup hi
    exact Or.inr ⟨setup, hi, (Option.some.inj h).symm⟩

end AjaCard
