import NTV2Gst.SharedEntries
import NTV2Gst.TransitionRuns
import NTV2Gst.AjaRouting

/-!
# The audio systems of the inputs

`SetupAudio` selects the audio system of the channel and programs it; `Run` hands the audio
system of the engine to AutoCirculate, also when `InitAudio` was never called on it. Audio
systems and embedded inputs are counted from one, as channels are.
-/
namespace AjaAudioSystems

open TransitionRuns AjaVideoSetup AjaRouting KeyedInserts SharedEntries

inductive NTV2AudioSource where
  | embedded | hdmi | aes | analog
  deriving DecidableEq, Repr

inductive Register where
  | inputSource (system : ℕ)
  | embeddedInput (system : ℕ)
  | numberOfChannels (system : ℕ)
  | rate (system : ℕ)
  | embeddedClock (system : ℕ)
  | bufferSize (system : ℕ)
  | loopback (system : ℕ)
  deriving DecidableEq, Repr

inductive Value where
  | source (s : NTV2AudioSource) (embeddedInput : ℕ)
  | embeddedInput (n : ℕ)
  | channels (n : ℕ)
  | rate48k
  | clockVideoInput
  | bufferBig
  | loopbackOff
  deriving DecidableEq, Repr

abbrev Registers := Register → Option Value

abbrev Write := Register × Value

/-- The fields of the engine that audio is about; `initialised` records that `InitAudio` was
called since the engine was made. -/
structure AudioEngine where
  mInputChannel : NTV2Channel
  mAudioSystem : ℕ
  mNumAudioChannels : ℕ
  initialised : Bool
  deriving DecidableEq, Repr

/-- The constructor selects the first audio system. -/
def AudioEngine.new (channel : NTV2Channel) : AudioEngine := ⟨channel, 1, 0, false⟩

/-- The embedded input that is selected; the other two sources have none of their own. -/
def embeddedInput (source : NTV2AudioSource) (channel : NTV2Channel) : ℕ :=
  match source with
  | .embedded => number channel
  | .hdmi => hdmiNumber channel
  | .aes | .analog => 1

def sourceWrites (source : NTV2AudioSource) (channel : NTV2Channel) : List Write :=
  let system := number channel
  let input := embeddedInput source channel
  (.inputSource system, .source source input) ::
    match source with
    | .embedded | .hdmi => [(.embeddedInput system, .embeddedInput input)]
    | .aes | .analog => []

def formatWrites (numAudioChannels : ℕ) (channel : NTV2Channel) : List Write :=
  let system := number channel
  [(.numberOfChannels system, .channels numAudioChannels), (.rate system, .rate48k),
    (.embeddedClock system, .clockVideoInput), (.bufferSize system, .bufferBig),
    (.loopback system, .loopbackOff)]

section SetupAudio

variable (maxAudioChannels : ℕ)

def effectiveChannels (numAudioChannels : ℕ) : ℕ :=
  if numAudioChannels = 0 then maxAudioChannels else numAudioChannels

def setupAudio (source : NTV2AudioSource) (numAudioChannels : ℕ) (channel : NTV2Channel) :
    List Write × Bool :=
  let n := effectiveChannels maxAudioChannels numAudioChannels
  if maxAudioChannels < n then (sourceWrites source channel, false)
  else (sourceWrites source channel ++ formatWrites n channel, true)

def AudioEngine.initAudio (e : AudioEngine) (numAudioChannels : ℕ) : AudioEngine :=
  { e with
    mAudioSystem := number e.mInputChannel
    mNumAudioChannels := effectiveChannels maxAudioChannels numAudioChannels
    initialised := true }

end SetupAudio

/-! ## One card -/

/-- What `Run` was called with, and on an engine that `InitAudio` had been called on. -/
structure Circulating where
  audioSystem : ℕ
  initialised : Bool
  deriving DecidableEq, Repr

/-- `setUp` holds what the last `InitAudio` that succeeded wrote. -/
structure AudioCard where
  engine : NTV2Channel → AudioEngine
  setUp : NTV2Channel → Option (List Write)
  running : NTV2Channel → Option Circulating
  registers : Registers

inductive Event where
  | new (channel : NTV2Channel)
  | initAudio (channel : NTV2Channel) (source : NTV2AudioSource) (numAudioChannels : ℕ)
  | run (channel : NTV2Channel)
  | quit (channel : NTV2Channel)
  deriving DecidableEq, Repr

section Machine

variable (maxAudioChannels : ℕ)

def AudioCard.initAudio (s : AudioCard) (c : NTV2Channel) (source : NTV2AudioSource)
    (numAudioChannels : ℕ) : AudioCard :=
  let r := setupAudio maxAudioChannels source numAudioChannels (s.engine c).mInputChannel
  { s with
    engine := Function.update s.engine c ((s.engine c).initAudio maxAudioChannels numAudioChannels)
    setUp := Function.update s.setUp c (if r.2 then some r.1 else none)
    registers := insertAll true s.registers r.1 }

def AudioCard.next (s : AudioCard) : Event → Option AudioCard
  | .new c => some { s with
      engine := Function.update s.engine c (.new c)
      setUp := Function.update s.setUp c none
      running := Function.update s.running c none }
  | .initAudio c source numAudioChannels =>
    some (s.initAudio maxAudioChannels c source numAudioChannels)
  | .run c => some { s with
      running := Function.update s.running c
        (some ⟨(s.engine c).mAudioSystem, (s.engine c).initialised⟩) }
  | .quit c => some { s with running := Function.update s.running c none }

structure Idle (s : AudioCard) : Prop where
  engine : ∀ c, s.engine c = .new c
  setUp : s.setUp = fun _ => none
  running : s.running = fun _ => none

def audioCard : Machine AudioCard Event where
  initial := Idle
  next := AudioCard.next maxAudioChannels

end Machine

/-! ## Whose register it is -/

def Register.system : Register → ℕ
  | .inputSource n | .embeddedInput n | .numberOfChannels n | .rate n | .embeddedClock n
  | .bufferSize n | .loopback n => n

section Systems

variable {maxAudioChannels : ℕ} {source : NTV2AudioSource} {numAudioChannels : ℕ}
  {c : NTV2Channel}

theorem source_writes_system : ∀ w ∈ sourceWrites source c, w.1.system = number c := by
  cases source <;> simp [sourceWrites, Register.system]

theorem format_writes_system :
    ∀ w ∈ formatWrites numAudioChannels c, w.1.system = number c := by
  simp [formatWrites, Register.system]

theorem setup_audio_system :
    ∀ w ∈ (setupAudio maxAudioChannels source numAudioChannels c).1, w.1.system = number c := by
  unfold setupAudio
  dsimp only
  split
  · exact source_writes_system
  · intro w hw
    rcases List.mem_append.mp hw with hw | hw
    · exact source_writes_system w hw
    · exact format_writes_system w hw

theorem setup_audio_functional :
    Functional (setupAudio maxAudioChannels source numAudioChannels c).1 := by
  apply functional_of_nodup
  unfold setupAudio
  dsimp only
  split <;> cases source <;> simp [sourceWrites, formatWrites]

theorem number_inj {a b : NTV2Channel} (h : number a = number b) : a = b :=
  Fin.ext (Nat.add_right_cancel h)

end Systems

/-! ## Runs -/

structure Programmed (s : AudioCard) : Prop where
  channel : ∀ c, (s.engine c).mInputChannel = c
  system : ∀ c, (s.engine c).mAudioSystem = if (s.engine c).initialised then number c else 1
  circulating : ∀ c, ∀ r ∈ s.running c, r.audioSystem = if r.initialised then number c else 1
  own : ∀ c, ∀ l ∈ s.setUp c, ∀ w ∈ l, w.1.system = number c
  held : Held s.setUp id s.registers

section Runs

variable {maxAudioChannels : ℕ} {s t : AudioCard} {e : Event}

theorem Programmed.init (h : Idle s) : Programmed s := by
  constructor
  · intro c
    rw [h.engine]
    rfl
  · intro c
    rw [h.engine]
    rfl
  · intro c r hr
    rw [h.running] at hr
    cases hr
  · intro c l hl
    rw [h.setUp] at hl
    cases hl
  · rw [h.setUp]
    exact held_none

theorem Programmed.init_audio (h : Programmed s) (c : NTV2Channel) (source : NTV2AudioSource)
    (numAudioChannels : ℕ) :
    Programmed (s.initAudio maxAudioChannels c source numAudioChannels) := by
  have hc := h.channel c
  have others : ∀ j, j ≠ c → ∀ l ∈ s.setUp j, Present (insertAll true s.registers
      (setupAudio maxAudioChannels source numAudioChannels c).1) l := by
    intro j hj l hl
    refine present_stays (h.held j l hl) fun w hw f hf hk => ?_
    have hown := h.own j l hl w hw
    rw [hk, setup_audio_system f hf] at hown
    exact absurd (number_inj hown).symm hj
  constructor
  · intro d
    by_cases hd : d = c
    · subst hd
      simpa [AudioCard.initAudio, AudioEngine.initAudio] using hc
    · simpa [AudioCard.initAudio, hd] using h.channel d
  · intro d
    by_cases hd : d = c
    · subst hd
      simp [AudioCard.initAudio, AudioEngine.initAudio, hc]
    · simpa [AudioCard.initAudio, hd] using h.system d
  · exact h.circulating
  · intro d l hl
    by_cases hd : d = c
    · subst hd
      simp only [AudioCard.initAudio, Function.update_self, hc, Option.mem_def] at hl
      obtain ⟨-, hl⟩ := Option.ite_none_right_eq_some.mp hl
      obtain rfl := Option.some.inj hl
      exact setup_audio_system
    · exact h.own d l (by simpa [AudioCard.initAudio, hd] using hl)
  · unfold AudioCard.initAudio
    rw [hc]
    refine held_update_iff.mpr ⟨fun l hl => ?_, others⟩
    obtain ⟨-, hl⟩ := Option.ite_none_right_eq_some.mp hl
    obtain rfl := Option.some.inj hl
    exact present_insert_all_iff.mpr ⟨setup_audio_functional, fun hr => by cases hr⟩

theorem Programmed.next (h : Programmed s) (ht : s.next maxAudioChannels e = some t) :
    Programmed t := by
  cases e with
  | initAudio c source numAudioChannels =>
    obtain rfl := Option.some.inj ht
    exact h.init_audio c source numAudioChannels
  | new c =>
    obtain rfl := Option.some.inj ht
    constructor
    · intro d
      by_cases hd : d = c
      · subst hd
        simp [AudioEngine.new]
      · simpa [hd] using h.channel d
    · intro d
      by_cases hd : d = c
      · subst hd
        simp [AudioEngine.new]
      · simpa [hd] using h.system d
    · intro d r hr
      by_cases hd : d = c
      · subst hd
        simp at hr
      · exact h.circulating d r (by simpa [hd] using hr)
    · intro d l hl
      by_cases hd : d = c
      · subst hd
        simp at hl
      · exact h.own d l (by simpa [hd] using hl)
    · exact held_update_iff.mpr ⟨fun l hl => (by cases hl), fun j _ l hl => h.held j l hl⟩
  | run c =>
    obtain rfl := Option.some.inj ht
    refine ⟨h.channel, h.system, fun d r hr => ?_, h.own, h.held⟩
    by_cases hd : d = c
    · subst hd
      simp only [Function.update_self, Option.mem_some_iff] at hr
      subst hr
      exact h.system d
    · exact h.circulating d r (by simpa [hd] using hr)
  | quit c =>
    obtain rfl := Option.some.inj ht
    refine ⟨h.channel, h.system, fun d r hr => ?_, h.own, h.held⟩
    by_cases hd : d = c
    · subst hd
      simp at hr
    · exact h.circulating d r (by simpa [hd] using hr)

theorem Programmed.system_eq_iff (h : Programmed s) {a b : NTV2Channel} (hab : a ≠ b)
    {x y : Circulating} (hx : x ∈ s.running a) (hy : y ∈ s.running b) :
    x.audioSystem = y.audioSystem ↔
      (x.initialised = false ∨ a = 0) ∧ (y.initialised = false ∨ b = 0) := by
  have first : ∀ c : NTV2Channel, number c = 1 ↔ c = 0 := by decide
  rw [h.circulating a x hx, h.circulating b y hy]
  cases x.initialised with
  | false =>
    cases y.initialised with
    | false => simp
    | true => simpa using eq_comm.trans (first b)
  | true =>
    cases y.initialised with
    | false => simpa using first a
    | true =>
      have hne : number a ≠ number b := fun hn => hab (number_inj hn)
      simp only [if_true, hne, reduceCtorEq, false_or, false_iff]
      exact fun h0 => hab (h0.1.trans h0.2.symm)

end Runs

/-- No order of calls makes one input write to the audio system of another. But AutoCirculate
is given the first audio system for every input that runs without `InitAudio`, so these share
it with each other and with the first channel, and no others share one. -/
theorem audio_systems_apart (maxAudioChannels : ℕ) (s : AudioCard)
    (h : Reachable (audioCard maxAudioChannels) s) :
    (∀ c, ∀ l ∈ s.setUp c, Present s.registers l) ∧
    ∀ a b, a ≠ b → ∀ x ∈ s.running a, ∀ y ∈ s.running b,
      (x.audioSystem = y.audioSystem ↔
        (x.initialised = false ∨ a = 0) ∧ (y.initialised = false ∨ b = 0)) := by
  have programmed : Programmed s :=
    h.invariant (fun _ hi => .init hi) fun _ _ _ ha _ hn => ha.next hn
  exact ⟨programmed.held, fun a b hab x hx y hy => programmed.system_eq_iff hab hx hy⟩

def idleAudioCard : AudioCard := ⟨.new, fun _ => none, fun _ => none, fun _ => none⟩

theorem audio_systems_apart_shared :
    ∃ s : AudioCard, ∃ x ∈ s.running 0, ∃ y ∈ s.running 2, x.initialised = true ∧
      x.audioSystem = y.audioSystem := by
  obtain ⟨s, hs, hp⟩ := reachable_of_trace (m := audioCard 16) (i := idleAudioCard)
    (l := [.initAudio 0 .embedded 2, .run 0, .run 2])
    (p := fun s => (s.running 0).any (·.initialised) && (s.running 2).any (!·.initialised))
    ⟨fun _ => rfl, rfl, rfl⟩ (by decide +kernel)
  obtain ⟨h0, h2⟩ := Bool.and_eq_true_iff.mp hp
  obtain ⟨x, hx, hxi⟩ := (Option.any_eq_true _ _).mp h0
  obtain ⟨y, hy, hyi⟩ := (Option.any_eq_true _ _).mp h2
  exact ⟨s, x, hx, y, hy, hxi, ((audio_systems_apart 16 s hs).2 0 2 (by decide) x hx y hy).mpr
    ⟨Or.inr rfl, Or.inl (by simpa using hyi)⟩⟩

end AjaAudioSystems
