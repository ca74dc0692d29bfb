import NTV2Gst.TransitionRuns
import NTV2Gst.AjaVideoSetup

/-!
# The frame buffers of the running inputs

The inputs of one device share its frame buffers. `SetupAutoCirculate` computes the range
of each input from its channel, with one stride for large formats and another one for all
others.
-/
namespace AjaFrameBuffers

open TransitionRuns GstAjaModes AjaVideoSetup

structure FrameRange where
  frameStart : ℕ
  frameEnd : ℕ
  deriving DecidableEq, Repr

def FrameRange.Disjoint (r q : FrameRange) : Prop :=
  ∀ frame, ¬ ((r.frameStart ≤ frame ∧ frame ≤ r.frameEnd) ∧
    q.frameStart ≤ frame ∧ frame ≤ q.frameEnd)

def isLarge (sdk : Sdk) (f : NTV2VideoFormat) : Bool :=
  sdk.is12GFormat f || sdk.isQuadFrameFormat f || sdk.isQuadQuadFormat f

def setupAutoCirculate (sdk : Sdk) (f : NTV2VideoFormat) (channel : NTV2Channel) : FrameRange :=
  if isLarge sdk f then
    let frameStart := channel.val * 15
    ⟨frameStart, frameStart + 14⟩
  else
    let frameStart := channel.val * 7
    ⟨frameStart, frameStart + 6⟩

/-! ## One device -/

structure Running where
  videoFormat : NTV2VideoFormat
  quadLink : Bool
  frames : FrameRange
  deriving DecidableEq, Repr

structure Device where
  av : NTV2Channel → NTV2GstAV
  running : NTV2Channel → Option Running

/-- Quad links occupy four channels, everything else its own. -/
def occupies (channel : NTV2Channel) (quadLink : Bool) (other : NTV2Channel) : Bool :=
  if quadLink then channel.val ≤ other.val && other.val ≤ channel.val + 3 else other == channel

def Device.Free (s : Device) (c : NTV2Channel) : Prop :=
  ∀ b, b ≠ c → ∀ r ∈ s.running b, ∀ d,
    ¬ (occupies b r.quadLink d = true ∧ occupies c (s.av c).mSDIInputMode.isQuadLink d = true)

instance (s : Device) (c : NTV2Channel) : Decidable (s.Free c) := by
  unfold Device.Free
  infer_instance

inductive Event where
  | init (channel : NTV2Channel) (args : InitArgs) (sdiFormat : NTV2VideoFormat)
  | run (channel : NTV2Channel)
  | quit (channel : NTV2Channel)
  deriving DecidableEq, Repr

def Device.next (sdk : Sdk) (nvmmEnabled : Bool) (s : Device) : Event → Option Device
  | .init c args sdiFormat =>
    some { s with av := Function.update s.av c ((s.av c).init sdk nvmmEnabled args sdiFormat).1 }
  | .run c =>
    if s.Free c then
      some {
        av := Function.update s.av c { s.av c with mStarted := true }
        running := Function.update s.running c (some {
          videoFormat := (s.av c).mVideoFormat
          quadLink := (s.av c).mSDIInputMode.isQuadLink
          frames := setupAutoCirculate sdk (s.av c).mVideoFormat (s.av c).mInputChannel }) }
    else none
  | .quit c =>
    some {
      av := Function.update s.av c { s.av c with mStarted := false }
      running := Function.update s.running c none }

structure Idle (s : Device) : Prop where
  channel : ∀ c, (s.av c).mInputChannel = c
  stopped : ∀ c, s.running c = none

def device (sdk : Sdk) (nvmmEnabled : Bool) : Machine Device Event where
  initial := Idle
  next := Device.next sdk nvmmEnabled

/-! ## Which ranges overlap -/

def FramesDisjoint (s : Device) : Prop :=
  ∀ a b, a ≠ b → ∀ r ∈ s.running a, ∀ q ∈ s.running b, r.frames.Disjoint q.frames

/-- A large format on the first channel, another one on the second, which has up to two
more than twice the index. -/
def Clash (sdk : Sdk) (a : NTV2Channel) (f : NTV2VideoFormat) (b : NTV2Channel)
    (g : NTV2VideoFormat) : Prop :=
  isLarge sdk f = true ∧ isLarge sdk g = false ∧ 2 * a.val ≤ b.val ∧ b.val ≤ 2 * a.val + 2

def KeepsApart (sdk : Sdk) (s : Device) : Event → Prop
  | .run c => ∀ b, b ≠ c → ∀ r ∈ s.running b,
      ¬ Clash sdk c (s.av c).mVideoFormat b r.videoFormat ∧
        ¬ Clash sdk b r.videoFormat c (s.av c).mVideoFormat
  | _ => True

instance (sdk : Sdk) (a : NTV2Channel) (f : NTV2VideoFormat) (b : NTV2Channel)
    (g : NTV2VideoFormat) : Decidable (Clash sdk a f b g) :=
  inferInstanceAs (Decidable (_ ∧ _))

instance (sdk : Sdk) (s : Device) (e : Event) : Decidable (KeepsApart sdk s e) := by
  unfold KeepsApart
  split <;> infer_instance

theorem disjoint_iff {r q : FrameRange} (hr : r.frameStart ≤ r.frameEnd)
    (hq : q.frameStart ≤ q.frameEnd) :
    r.Disjoint q ↔ r.frameEnd < q.frameStart ∨ q.frameEnd < r.frameStart := by
  constructor
  · intro h
    have := h (max r.frameStart q.frameStart)
    omega
  · intro h frame
    omega

theorem disjoint_comm {r q : FrameRange} : r.Disjoint q ↔ q.Disjoint r := by
  constructor <;> exact fun h frame hf => h frame hf.symm

/-- Equal strides keep the channels apart; mixed ones do unless the formats clash. -/
theorem ranges_disjoint_iff (sdk : Sdk) {a b : NTV2Channel} (hab : a ≠ b)
    (f g : NTV2VideoFormat) :
    (setupAutoCirculate sdk f a).Disjoint (setupAutoCirculate sdk g b) ↔
      ¬ Clash sdk a f b g ∧ ¬ Clash sdk b g a f := by
  have hne : a.val ≠ b.val := fun h => hab (Fin.ext h)
  have ha := a.isLt
  have hb := b.isLt
  unfold setupAutoCirculate Clash
  cases isLarge sdk f <;> cases isLarge sdk g <;>
    rw [disjoint_iff (by simp) (by simp)] <;> simp <;> omega

/-! ## Runs -/

structure Circulating (sdk : Sdk) (s : Device) : Prop where
  channel : ∀ c, (s.av c).mInputChannel = c
  frames : ∀ c, ∀ r ∈ s.running c, r.frames = setupAutoCirculate sdk r.videoFormat c

section Steps

variable {sdk : Sdk} {nvmmEnabled : Bool} {s t : Device}

theorem init_channel (sdk : Sdk) (nvmmEnabled : Bool) (av : NTV2GstAV) (a : InitArgs)
    (sdiFormat : NTV2VideoFormat) :
    (av.init sdk nvmmEnabled a sdiFormat).1.mInputChannel = av.mInputChannel := by
  obtain ⟨-, -, hc, -⟩ := map_format_same sdk (av.configure a) a.videoFormat
  have hav : (av.configure a).mInputChannel = av.mInputChannel := rfl
  obtain ⟨f, hf⟩ := latch_cases ((av.configure a).mapFormat sdk a.videoFormat).1 sdiFormat
  have hl : (((av.configure a).mapFormat sdk a.videoFormat).1.latch sdiFormat).1.mInputChannel =
      ((av.configure a).mapFormat sdk a.videoFormat).1.mInputChannel := by rw [hf]
  unfold NTV2GstAV.init
  dsimp only
  by_cases hn : (a.useNvmm && !nvmmEnabled) = true
  · rw [if_pos hn, hav]
  rw [if_neg hn]
  split
  · rw [hc, hav]
  split
  · rw [hc, hav]
  · rw [hl, hc, hav]

theorem Circulating.next (h : Circulating sdk s) {e : Event}
    (ht : s.next sdk nvmmEnabled e = some t) : Circulating sdk t := by
  cases e with
  | init c args sdiFormat =>
    obtain rfl := Option.some.inj ht
    refine ⟨fun d => ?_, h.frames⟩
    by_cases hd : d = c
    · subst hd
      simp [init_channel, h.channel]
    · simp [hd, h.channel]
  | run c =>
    simp only [Device.next] at ht
    split at ht
    · obtain rfl := Option.some.inj ht
      constructor <;> intro d <;> by_cases hd : d = c
      · subst hd
        simp [h.channel]
      · simp [hd, h.channel]
      · subst hd
        simp [h.channel]
      · simpa [hd] using h.frames d
    · cases ht
  | quit c =>
    obtain rfl := Option.some.inj ht
    constructor <;> intro d <;> by_cases hd : d = c
    · subst hd
      simp [h.channel]
    · simp [hd, h.channel]
    · subst hd
      simp
    · simpa [hd] using h.frames d

theorem run_disjoint_iff (h : Circulating sdk s) (hd : FramesDisjoint s) {c : NTV2Channel}
    (ht : s.next sdk nvmmEnabled (.run c) = some t) :
    FramesDisjoint t ↔ KeepsApart sdk s (.run c) := by
  simp only [Device.next] at ht
  split at ht
  swap
  · cases ht
  obtain rfl := Option.some.inj ht
  constructor
  · intro hdt b hbc r hr
    have := hdt c b hbc.symm
    simp only [Function.update_self, Option.mem_def, Option.some.injEq, forall_eq',
      Function.update_of_ne hbc] at this
    have hdis := this r hr
    rw [h.channel, h.frames b r hr, ranges_disjoint_iff sdk hbc.symm] at hdis
    exact hdis
  · intro hk
    have new : ∀ b, b ≠ c → ∀ q ∈ s.running b,
        (setupAutoCirculate sdk (s.av c).mVideoFormat (s.av c).mInputChannel).Disjoint
          q.frames := by
      intro b hbc q hq
      rw [h.channel, h.frames b q hq, ranges_disjoint_iff sdk hbc.symm]
      exact hk b hbc q hq
    intro a b hab r hr q hq
    simp only [Option.mem_def] at hr hq
    by_cases hac : a = c
    · subst hac
      rw [Function.update_of_ne hab.symm] at hq
      rw [Function.update_self, Option.some.injEq] at hr
      subst hr
      exact new b hab.symm q hq
    · rw [Function.update_of_ne hac] at hr
      by_cases hbc : b = c
      · subst hbc
        rw [Function.update_self, Option.some.injEq] at hq
        subst hq
        exact disjoint_comm.mp (new a hab r hr)
      · rw [Function.update_of_ne hbc] at hq
        exact hd a b hab r hr q hq

theorem FramesDisjoint.next (h : Circulating sdk s) (hd : FramesDisjoint s) {e : Event}
    (ha : KeepsApart sdk s e) (ht : s.next sdk nvmmEnabled e = some t) : FramesDisjoint t := by
  cases e with
  | init c args sdiFormat =>
    obtain rfl := Option.some.inj ht
    exact hd
  | run c => exact (run_disjoint_iff h hd ht).mpr ha
  | quit c =>
    obtain rfl := Option.some.inj ht
    intro a b hab r hr q hq
    by_cases hac : a = c
    · subst hac
      simp at hr
    by_cases hbc : b = c
    · subst hbc
      simp at hq
    · exact hd a b hab r (by simpa [hac] using hr) q (by simpa [hbc] using hq)

end Steps

/-- Running inputs never share a frame as long as no input is started next to one it
clashes with; the first one that is starts sharing. -/
theorem frames_disjoint_iff (sdk : Sdk) (nvmmEnabled : Bool) :
    (∀ s, ReachableWhile (device sdk nvmmEnabled) (KeepsApart sdk) s → FramesDisjoint s) ∧
    ∀ s c t, ReachableWhile (device sdk nvmmEnabled) (KeepsApart sdk) s →
      (device sdk nvmmEnabled).next s (.run c) = some t →
      (FramesDisjoint t ↔ KeepsApart sdk s (.run c)) := by
  have main : ∀ s, ReachableWhile (device sdk nvmmEnabled) (KeepsApart sdk) s →
      Circulating sdk s ∧ FramesDisjoint s := by
    intro s hs
    apply hs.invariant (I := fun s => Circulating sdk s ∧ FramesDisjoint s)
    · intro i hi
      exact ⟨⟨hi.channel, fun c r hr => by simp [hi.stopped] at hr⟩,
        fun a b _ r hr => by simp [hi.stopped] at hr⟩
    · intro a e b h ha hn
      exact ⟨h.1.next hn, h.2.next h.1 ha hn⟩
  constructor
  · intro s hs
    exact (main s hs).2
  · intro s c t hs ht
    have ht : s.next sdk nvmmEnabled (.run c) = some t := ht
    exact run_disjoint_iff (main s hs).1 (main s hs).2 ht

/-! ## UHD next to HD -/

def singleLink (f : NTV2VideoFormat) : InitArgs :=
  ⟨f, .sdi1, false, false, .singleLink, false, false⟩

def idleDevice : Device where
  av c := ⟨c, .sdi1, false, false, false, .singleLink, .unknown, false, false⟩
  running _ := none

theorem idle_device : Idle idleDevice := ⟨fun _ => rfl, fun _ => rfl⟩

def startInput (c : NTV2Channel) (f : NTV2VideoFormat) : List Event :=
  [.init c (singleLink f) f, .run c]

theorem frames_disjoint_around_uhd :
    ∃ s, (∀ c, c = 0 ∨ c = 1 ∨ c = 5 → (s.running c).isSome = true) ∧ FramesDisjoint s := by
  obtain ⟨s, hs, hp⟩ := reachable_while_of_trace (m := device commonSdk false)
    (a := KeepsApart commonSdk)
    (l := startInput 1 .format3840x2160p_6000 ++ startInput 0 .format1080p_2500 ++
      startInput 5 .format1080p_2500)
    (p := fun s => decide (∀ c, c = 0 ∨ c = 1 ∨ c = 5 → (s.running c).isSome = true)) idle_device
    (by decide +kernel)
  exact ⟨s, of_decide_eq_true hp, (frames_disjoint_iff commonSdk false).1 s hs⟩

/-- UHD on the first channel takes frames 0 to 14, HD on the second one 7 to 13. -/
theorem uhd_shares_with_next_channel :
    ¬ ∀ sdk nvmmEnabled s, Reachable (device sdk nvmmEnabled) s → FramesDisjoint s := by
  intro h
  obtain ⟨s, hs, hp⟩ := reachable_of_trace (m := device commonSdk false)
    (l := startInput 0 .format3840x2160p_6000 ++ startInput 1 .format1080p_2500)
    (p := fun s => decide ((s.running 0).map (·.frames) = some ⟨0, 14⟩ ∧
      (s.running 1).map (·.frames) = some ⟨7, 13⟩)) idle_device (by decide +kernel)
  obtain ⟨h0, h1⟩ := of_decide_eq_true hp
  obtain ⟨r, hr, hr'⟩ := Option.map_eq_some_iff.mp h0
  obtain ⟨q, hq, hq'⟩ := Option.map_eq_some_iff.mp h1
  have := h commonSdk false s hs 0 1 (by decide) r hr q hq 7
  rw [hr', hq'] at this
  exact this (by decide)

end AjaFrameBuffers
