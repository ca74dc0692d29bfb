import NTV2Gst.AjaInputSystem
import NTV2Gst.AjaAudioSystems

/-!
# The layout of the audio buffers

The card decides on the number of channels, and `InitAudio` writes its answer back into the
property of the element. The first `create` reads the property again for the caps and for the
size of a sample. In between, it can be written like in every other state.
-/
namespace AjaAudioLayout

open TransitionRuns DropOldest GstAjaModes AjaVideoSrc AjaAudioSrc AjaInputSystem
  AjaAudioSystems

/-- A buffer that `create` returned, with the channels of the caps in force and of the card
when it was captured, and whether the stream it belongs to was started to fit. -/
structure Delivered where
  caps : Option ℕ
  layout : ℕ
  audioDataSize : ℕ
  sampleCount : ℕ
  fits : Bool
  deriving DecidableEq, Repr

/-- `active` is PAUSED or PLAYING. -/
inductive SourceState where
  | null | ready | active
  deriving DecidableEq, Repr

/-- `cardChannels` is the number of channels of the audio system, `layout` the one that a
buffer was captured with; `caps` are those of the pad, by their number of channels. The last
two fields are a record of the run: whether the first `create` found the channels of the card
in the property and could set its caps, and the buffers delivered. -/
structure AudioStream where
  src : GstAjaAudioSrc
  state : SourceState
  audioEnabled : Bool
  cardChannels : ℕ
  caps : Option ℕ
  layout : ℕ → ℕ
  fits : Bool
  delivered : List Delivered

/-- `granted` is what the card makes of the number it is asked for, `answered` whether it
tells. -/
inductive Event where
  | setChannels (n : ℕ)
  | open (accepted : Bool) (granted : ℕ) (answered : Bool)
  | readyToPaused (ok : Bool)
  | start (capsSet : Bool)
  | packet (videosrc : Option GstAjaVideoSrc) (mode : GstAjaMode) (b : Option AjaAudioBuff)
  | create (mode : GstAjaMode)
  | unlock
  | unlockStop
  | stop
  | close
  deriving DecidableEq, Repr

section Machine

variable (maxAudioChannels : ℕ)

def AudioStream.open (s : AudioStream) (accepted : Bool) (granted : ℕ) (answered : Bool) :
    AudioStream :=
  if accepted && (setupAudio maxAudioChannels .embedded s.src.channels 0).2 then
    { s with
      state := .ready
      cardChannels := granted
      src := { s.src with channels := if answered then granted else 2 ^ 32 - 1 } }
  else s

/-- `gst_aja_audio_src_start` on an input without audio. -/
def AudioStream.start (s : AudioStream) (capsSet : Bool) : AudioStream :=
  { s with
    audioEnabled := true
    src := if capsSet then s.src.startReset else { s.src with info := s.src.startReset.info }
    caps := if capsSet then some s.src.channels else s.caps
    fits := capsSet && s.src.channels == s.cardChannels }

/-- The buffer is filled with whole samples of all channels of the card. -/
def AudioStream.packet (s : AudioStream) (videosrc : Option GstAjaVideoSrc) (mode : GstAjaMode)
    (b : Option AjaAudioBuff) : Option AudioStream :=
  if ∀ x ∈ b, 4 * s.cardChannels ∣ x.audioDataSize then
    if s.audioEnabled then
      (s.src.gotPacket videosrc mode b).map fun src => { s with
        src := src
        layout := match b with
          | some x => Function.update s.layout x.buffer s.cardChannels
          | none => s.layout }
    else some s
  else none

def AudioStream.create (s : AudioStream) (mode : GstAjaMode) : Option AudioStream :=
  if s.audioEnabled then
    s.src.popPacket.map fun r => { s with
      src := (r.2.output mode r.1).1
      delivered := s.delivered ++
        [⟨s.caps, s.layout r.1.audioBuff.buffer, r.1.audioBuff.audioDataSize,
          r.2.sampleCount r.1, s.fits⟩] }
  else none

def AudioStream.next (s : AudioStream) : Event → Option AudioStream
  | .setChannels n =>
    if 2 ≤ n ∧ n ≤ 16 then some { s with src := { s.src with channels := n } } else none
  | .open accepted granted answered =>
    if s.state = .null ∧ 0 < granted then
      some (s.open maxAudioChannels accepted granted answered)
    else none
  | .readyToPaused ok =>
    if s.state = .ready then some (if ok then
      { s with state := .active, src := { s.src.readyToPaused with hadSignal := false } }
    else { s with src := { s.src with hadSignal := false } }) else none
  | .start capsSet =>
    if s.state = .active then some (if s.audioEnabled then s else s.start capsSet) else none
  | .packet videosrc mode b => s.packet videosrc mode b
  | .create mode => s.create mode
  | .unlock => some { s with src := s.src.unlock }
  | .unlockStop => some { s with src := s.src.unlockStop }
  | .stop =>
    if s.state = .active then some { s with
      state := .ready
      audioEnabled := false
      src := { s.src with currentPackets := [], hadSignal := false }
      caps := none } else none
  | .close =>
    if s.state = .ready then some { s with state := .null, audioEnabled := false } else none

structure Idle (s : AudioStream) : Prop where
  queue : s.src.currentPackets = []
  state : s.state = .null
  enabled : s.audioEnabled = false
  caps : s.caps = none
  delivered : s.delivered = []

def audioStream : Machine AudioStream Event where
  initial := Idle
  next := AudioStream.next maxAudioChannels

end Machine

/-! ## Packets -/

section Packets

variable {src a : GstAjaAudioSrc} {videosrc : Option GstAjaVideoSrc} {mode : GstAjaMode}
  {b : Option AjaAudioBuff}

structure Fed (src : GstAjaAudioSrc) (b : Option AjaAudioBuff) (a : GstAjaAudioSrc) : Prop where
  channels : a.channels = src.channels
  info : a.info = src.info
  packets : ∀ p ∈ a.currentPackets, p ∈ src.currentPackets ∨
    ∃ x ∈ b, p.audioBuff.buffer = x.buffer ∧ p.audioBuff.audioDataSize = x.audioDataSize

theorem fed_of_same (hc : a.channels = src.channels) (hi : a.info = src.info)
    (hq : a.currentPackets = src.currentPackets) : Fed src b a :=
  ⟨hc, hi, fun _ hp => Or.inl (hq ▸ hp)⟩

theorem queue_packet_fed (src : GstAjaAudioSrc) (x : AjaAudioBuff) (timestamp streamTime : ℕ) :
    Fed src (some x) (src.queuePacket x timestamp streamTime) := by
  refine ⟨rfl, rfl, fun p hp => ?_⟩
  rcases List.mem_append.mp hp with hp | hp
  · left
    rw [← popped_append_left src.queueSize src.currentPackets]
    exact List.mem_append_right _ hp
  · rw [List.mem_singleton.mp hp]
    exact Or.inr ⟨x, rfl, rfl, rfl⟩

theorem got_packet_fed (h : src.gotPacket videosrc mode b = some a) : Fed src b a := by
  have hkeeps := packet_prepare_keeps src videosrc mode b
  unfold GstAjaAudioSrc.gotPacket at h
  generalize src.gotPacketPrepare videosrc mode b = r at h hkeeps
  have hchannels : r.1.channels = src.channels := by rw [hkeeps]
  have hinfo : r.1.info = src.info := by rw [hkeeps]
  have hqueue : r.1.currentPackets = src.currentPackets := by rw [hkeeps]
  dsimp only at h
  split at h
  · split at h
    · cases h
      exact fed_of_same hchannels hinfo hqueue
    · rename_i x timestamp streamTime _ _
      cases h
      have fed := queue_packet_fed r.1 x timestamp streamTime
      exact ⟨fed.channels.trans hchannels, fed.info.trans hinfo, hqueue ▸ fed.packets⟩
  · cases h
  · cases h
    exact fed_of_same hchannels hinfo hqueue

end Packets

/-! ## Runs -/

structure Described (d : Delivered) : Prop where
  caps : d.caps = some d.layout
  samples : d.sampleCount * (4 * d.layout) = d.audioDataSize

structure Laid (s : AudioStream) : Prop where
  active : s.audioEnabled = true → s.state = .active
  silent : s.audioEnabled = false → s.caps = none
  idle : s.state ≠ .active → s.src.currentPackets = []
  format : s.audioEnabled = true → s.fits = true →
    s.caps = some s.cardChannels ∧ s.src.info.bpf = 4 * s.cardChannels
  misfit : s.audioEnabled = true → s.fits = false → s.caps ≠ some s.cardChannels
  queue : ∀ p ∈ s.src.currentPackets, s.layout p.audioBuff.buffer = s.cardChannels ∧
    4 * s.cardChannels ∣ p.audioBuff.audioDataSize
  delivered : ∀ d ∈ s.delivered, Described d ↔ d.fits = true

section Runs

variable {maxAudioChannels : ℕ} {s t : AudioStream} {e : Event}

theorem Laid.init (h : Idle s) : Laid s := by
  have hen : s.audioEnabled ≠ true := by simp [h.enabled]
  refine ⟨fun he => absurd he hen, fun _ => h.caps, fun _ => h.queue, fun he => absurd he hen,
    fun he => absurd he hen, ?_, ?_⟩
  · simp [h.queue]
  · simp [h.delivered]

theorem Laid.not_enabled (h : Laid s) (hs : s.state ≠ .active) : s.audioEnabled ≠ true :=
  fun he => hs (h.active he)

theorem Laid.quiet (h : Laid s) (hen : t.audioEnabled = false) (hcaps : t.caps = none)
    (hq : t.src.currentPackets = []) (hd : t.delivered = s.delivered) : Laid t := by
  have hne : t.audioEnabled ≠ true := by simp [hen]
  refine ⟨fun he => absurd he hne, fun _ => hcaps, fun _ => hq, fun he => absurd he hne,
    fun he => absurd he hne, by simp [hq], hd ▸ h.delivered⟩

theorem Laid.start (h : Laid s) (hen : s.audioEnabled = false) (hs : s.state = .active)
    (capsSet : Bool) : Laid (s.start capsSet) := by
  refine ⟨fun _ => hs, nofun, fun hne => absurd hs hne, ?_, ?_, ?_, h.delivered⟩
  · intro _ hfits
    obtain ⟨rfl, hc⟩ := Bool.and_eq_true_iff.mp hfits
    have hc : s.src.channels = s.cardChannels := by simpa using hc
    exact ⟨congrArg some hc, congrArg (4 * ·) hc⟩
  · intro _ hfits
    cases capsSet with
    | true => simpa [AudioStream.start] using hfits
    | false => simp [AudioStream.start, h.silent hen]
  · cases capsSet <;> exact h.queue

theorem Laid.packet (h : Laid s) {videosrc : Option GstAjaVideoSrc} {mode : GstAjaMode}
    {b : Option AjaAudioBuff} (ht : s.packet videosrc mode b = some t) : Laid t := by
  unfold AudioStream.packet at ht
  split at ht
  case isFalse => cases ht
  case isTrue hsize =>
    split at ht
    case isFalse => exact Option.some.inj ht ▸ h
    case isTrue hen =>
      obtain ⟨src, hsrc, rfl⟩ := Option.map_eq_some_iff.mp ht
      have fed := got_packet_fed hsrc
      refine ⟨h.active, h.silent, fun hs => absurd (h.active hen) hs, ?_, h.misfit, ?_,
        h.delivered⟩
      · simp only [fed.info]
        exact h.format
      intro p hp
      -- a buffer that is captured again gets the layout that it has already
      cases b with
      | none =>
        rcases fed.packets p hp with hold | ⟨x, hx, -⟩
        · exact h.queue p hold
        · cases hx
      | some x =>
        by_cases hpx : p.audioBuff.buffer = x.buffer
        · rcases fed.packets p hp with hold | ⟨y, hy, -, hys⟩
          · exact ⟨by simp [hpx], (h.queue p hold).2⟩
          · exact ⟨by simp [hpx], hys ▸ hsize y hy⟩
        · rcases fed.packets p hp with hold | ⟨y, hy, hyb, -⟩
          · simpa [hpx] using h.queue p hold
          · rw [Option.mem_some_iff.mp hy] at hpx
            exact absurd hyb hpx

theorem Laid.create (h : Laid s) {mode : GstAjaMode} (ht : s.create mode = some t) : Laid t := by
  unfold AudioStream.create at ht
  split at ht
  case isFalse => cases ht
  case isTrue hen =>
    obtain ⟨⟨p, src⟩, hpop, rfl⟩ := Option.map_eq_some_iff.mp ht
    obtain ⟨-, hsrc⟩ := pop_packet_some hpop
    have hinfo : src.info = s.src.info := by rw [hsrc]
    have hq : s.src.currentPackets = p :: src.currentPackets := by rw [hsrc]
    have hout : (src.output mode p).1.info = src.info ∧
        (src.output mode p).1.currentPackets = src.currentPackets := by
      rw [output_keeps]
      exact ⟨rfl, rfl⟩
    obtain ⟨hlayout, hsize⟩ := h.queue p (hq ▸ List.mem_cons_self)
    refine ⟨h.active, h.silent, fun hs => absurd (h.active hen) hs, ?_, h.misfit, ?_, ?_⟩
    · simp only [hout.1, hinfo]
      exact h.format
    · simp only [hout.2]
      exact fun q hmem => h.queue q (hq ▸ List.mem_cons_of_mem _ hmem)
    · intro d hd
      rcases List.mem_append.mp hd with hd | hd
      · exact h.delivered d hd
      rw [List.mem_singleton.mp hd]
      cases hfits : s.fits with
      | true =>
        obtain ⟨hcaps, hbpf⟩ := h.format hen hfits
        refine iff_of_true ⟨hcaps.trans (congrArg some hlayout.symm), ?_⟩ rfl
        simp only [GstAjaAudioSrc.sampleCount, hinfo, hbpf, hlayout]
        exact Nat.div_mul_cancel hsize
      | false =>
        refine iff_of_false (fun hd => h.misfit hen hfits ?_) Bool.false_ne_true
        exact hd.caps.trans (congrArg some hlayout)

theorem Laid.next (h : Laid s) (ht : s.next maxAudioChannels e = some t) : Laid t := by
  cases e with
  | setChannels n =>
    obtain ⟨-, ht⟩ := Option.ite_none_right_eq_some.mp ht
    cases ht
    exact ⟨h.active, h.silent, h.idle, h.format, h.misfit, h.queue, h.delivered⟩
  | «open» accepted granted answered =>
    obtain ⟨⟨hs, -⟩, ht⟩ := Option.ite_none_right_eq_some.mp ht
    cases ht
    have hne : s.state ≠ .active := by simp [hs]
    have hen := Bool.eq_false_iff.mpr (h.not_enabled hne)
    unfold AudioStream.open
    split
    · exact h.quiet hen (h.silent hen) (h.idle hne) rfl
    · exact h
  | readyToPaused ok =>
    obtain ⟨hs, ht⟩ := Option.ite_none_right_eq_some.mp ht
    cases ht
    have hne : s.state ≠ .active := by simp [hs]
    have hen := Bool.eq_false_iff.mpr (h.not_enabled hne)
    cases ok <;> exact h.quiet hen (h.silent hen) (h.idle hne) rfl
  | start capsSet =>
    obtain ⟨hs, ht⟩ := Option.ite_none_right_eq_some.mp ht
    cases ht
    split
    · exact h
    · exact h.start (Bool.eq_false_iff.mpr ‹_›) hs capsSet
  | packet videosrc mode b => exact h.packet ht
  | create mode => exact h.create ht
  | unlock =>
    cases ht
    exact ⟨h.active, h.silent, h.idle, h.format, h.misfit, h.queue, h.delivered⟩
  | unlockStop =>
    cases ht
    exact ⟨h.active, h.silent, fun _ => rfl, h.format, h.misfit, nofun, h.delivered⟩
  | stop =>
    obtain ⟨-, ht⟩ := Option.ite_none_right_eq_some.mp ht
    cases ht
    exact h.quiet rfl rfl rfl rfl
  | close =>
    obtain ⟨hs, ht⟩ := Option.ite_none_right_eq_some.mp ht
    cases ht
    have hne : s.state ≠ .active := by simp [hs]
    have hen := Bool.eq_false_iff.mpr (h.not_enabled hne)
    exact h.quiet rfl (h.silent hen) (h.idle hne) rfl

/-- The property is not changed while the input is open, the card tells its number of channels,
and the caps can be set. -/
def Untouched (s : AudioStream) : Event → Prop
  | .setChannels n => s.state = .null ∨ n = s.cardChannels
  | .open _ _ answered => answered = true
  | .start capsSet => capsSet = true
  | _ => True

instance (s : AudioStream) : ∀ e, Decidable (Untouched s e)
  | .setChannels n => inferInstanceAs (Decidable (s.state = .null ∨ n = s.cardChannels))
  | .open _ _ answered => inferInstanceAs (Decidable (answered = true))
  | .start capsSet => inferInstanceAs (Decidable (capsSet = true))
  | .readyToPaused _ | .packet .. | .create _ | .unlock | .unlockStop | .stop | .close =>
    isTrue trivial

structure Agrees (s : AudioStream) : Prop where
  channels : s.state ≠ .null → s.src.channels = s.cardChannels
  fits : s.audioEnabled = true → s.fits = true
  delivered : ∀ d ∈ s.delivered, d.fits = true

theorem Agrees.next (h : Agrees s) (ha : Untouched s e)
    (ht : s.next maxAudioChannels e = some t) : Agrees t := by
  cases e with
  | setChannels n =>
    obtain ⟨-, ht⟩ := Option.ite_none_right_eq_some.mp ht
    cases ht
    exact ⟨fun hs => ha.resolve_left hs, h.fits, h.delivered⟩
  | «open» accepted granted answered =>
    obtain ⟨-, ht⟩ := Option.ite_none_right_eq_some.mp ht
    cases ht
    unfold AudioStream.open
    split
    · exact ⟨fun _ => if_pos ha, h.fits, h.delivered⟩
    · exact h
  | readyToPaused ok =>
    obtain ⟨hs, ht⟩ := Option.ite_none_right_eq_some.mp ht
    cases ht
    have hc := h.channels (by simp [hs])
    cases ok <;> exact ⟨fun _ => hc, h.fits, h.delivered⟩
  | start capsSet =>
    obtain ⟨hs, ht⟩ := Option.ite_none_right_eq_some.mp ht
    cases ht
    obtain rfl : capsSet = true := ha
    have hc := h.channels (by simp [hs])
    split
    · exact h
    · exact ⟨fun _ => hc, fun _ => by simp [AudioStream.start, hc], h.delivered⟩
  | packet videosrc mode b =>
    obtain ⟨-, ht⟩ := Option.ite_none_right_eq_some.mp ht
    split at ht
    · obtain ⟨src, hsrc, rfl⟩ := Option.map_eq_some_iff.mp ht
      exact ⟨fun hs => (got_packet_fed hsrc).channels.trans (h.channels hs), h.fits, h.delivered⟩
    · exact Option.some.inj ht ▸ h
  | create mode =>
    obtain ⟨hen, ht⟩ := Option.ite_none_right_eq_some.mp ht
    obtain ⟨⟨p, src⟩, hpop, rfl⟩ := Option.map_eq_some_iff.mp ht
    obtain ⟨-, hsrc⟩ := pop_packet_some hpop
    have hout : (src.output mode p).1.channels = s.src.channels := by rw [output_keeps, hsrc]
    refine ⟨fun hs => hout.trans (h.channels hs), h.fits, fun d hd => ?_⟩
    rcases List.mem_append.mp hd with hd | hd
    · exact h.delivered d hd
    · rw [List.mem_singleton.mp hd]
      exact h.fits hen
  | unlock | unlockStop =>
    cases ht
    exact ⟨h.channels, h.fits, h.delivered⟩
  | stop =>
    obtain ⟨hs, ht⟩ := Option.ite_none_right_eq_some.mp ht
    cases ht
    exact ⟨fun _ => h.channels (by simp [hs]), nofun, h.delivered⟩
  | close =>
    obtain ⟨-, ht⟩ := Option.ite_none_right_eq_some.mp ht
    cases ht
    exact ⟨fun hs => absurd rfl hs, nofun, h.delivered⟩

theorem laid (h : Reachable (audioStream maxAudioChannels) s) : Laid s :=
  h.invariant (fun _ hi => .init hi) fun _ _ _ ha _ hn => ha.next hn

theorem agrees (h : ReachableWhile (audioStream maxAudioChannels) Untouched s) : Agrees s := by
  refine h.invariant (fun i hi => ?_) fun _ _ _ ha hu hn => ha.next hu hn
  exact ⟨fun hs => absurd hi.state hs, fun he => by simp [hi.enabled] at he,
    by simp [hi.delivered]⟩

end Runs

/-- An audio buffer has the layout of its caps, with every sample counted, exactly when the
`create` that started the stream found the channels of the card in the property and could set
its caps. It did in every run that leaves the property alone while the input is open. -/
theorem audio_layout_exact (maxAudioChannels : ℕ) :
    (∀ s, Reachable (audioStream maxAudioChannels) s →
      ∀ d ∈ s.delivered, Described d ↔ d.fits = true) ∧
    ∀ s, ReachableWhile (audioStream maxAudioChannels) Untouched s →
      ∀ d ∈ s.delivered, Described d := by
  refine ⟨fun s h => (laid h).delivered, fun s h d hd => ?_⟩
  exact ((laid h.reachable).delivered d hd).mpr ((agrees h).delivered d hd)

def idleStream : AudioStream :=
  ⟨.init 2 16 0 0, .null, false, 0, none, fun _ => 0, false, []⟩

theorem idle_stream : Idle idleStream := ⟨rfl, rfl, rfl, rfl, rfl⟩

def capture16 (buffer : ℕ) : Event :=
  .packet none mode720p5994 (some ⟨buffer, 51200, 0, true, 1, 0, false⟩)

theorem audio_layout_exact_reset :
    (∃ s, Reachable (audioStream 16) s ∧ ∃ d ∈ s.delivered, d.sampleCount = 6400 ∧
      ¬ Described d) ∧
    ∃ s, ReachableWhile (audioStream 16) Untouched s ∧ ∃ d ∈ s.delivered, d.sampleCount = 800 ∧
      Described d := by
  constructor
  · obtain ⟨s, h, hp⟩ := reachable_of_trace (m := audioStream 16) idle_stream
      (l := [.open true 16 true, .setChannels 2, .readyToPaused true, .start true, capture16 1,
        .create mode720p5994])
      (p := fun s => s.delivered == [⟨some 2, 16, 51200, 6400, false⟩]) (by decide +kernel)
    obtain hd : s.delivered = _ := by simpa using hp
    refine ⟨s, h, _, hd ▸ List.mem_cons_self, rfl, fun hdesc => ?_⟩
    have := ((audio_layout_exact 16).1 s h _ (hd ▸ List.mem_cons_self)).mp hdesc
    cases this
  · obtain ⟨s, h, hp⟩ := reachable_while_of_trace (m := audioStream 16) (a := Untouched)
      (i := idleStream)
      (l := [.setChannels 2, .open true 16 true, .readyToPaused true, .start true, capture16 1,
        .create mode720p5994])
      (p := fun s => s.delivered == [⟨some 16, 16, 51200, 800, true⟩]) idle_stream
      (by decide +kernel)
    obtain hd : s.delivered = _ := by simpa using hp
    exact ⟨s, h, _, hd ▸ List.mem_cons_self, rfl,
      (audio_layout_exact 16).2 s h _ (hd ▸ List.mem_cons_self)⟩

end AjaAudioLayout
