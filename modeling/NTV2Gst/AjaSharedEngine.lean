import NTV2Gst.AjaTransitions
import Mathlib.Data.Option.Defs

/-!
# The engine that the audio source shares

The engine belongs to the input, and the audio source relies on it until it lets go of the
input itself. But the video source alone deletes it, also under an audio source, and an
audio source whose device did not open stays on the input.
-/
namespace AjaSharedEngine

open TransitionRuns GstAjaModes AjaVideoSrc AjaAudioSrc AjaInput AjaInputSystem AjaTransitions

/-- An input with an audio source has the engine that `InitAudio` was called on, and the
audio source never needed one that was missing or not set up. -/
structure EngineValid (s : System) : Prop where
  engine : s.input.audiosrc.isSome = true →
    ∃ av, s.input.ntv2AV = some av ∧ s.audioInitOn = some av.id
  dereferenced : s.fault ≠ some .nullEngine
  released : s.kept = []
  set_up : s.audioUnset = false

def KeepsEngine (s : System) : Event → Prop
  | .videoClose => s.input.audiosrc = none
  | .audioOpen found _ => s.input.audiosrc = none →
      found = true ∨ s.input.ntv2AV.any (·.deviceOpen) = true
  | _ => True

instance (s : System) (e : Event) : Decidable (KeepsEngine s e) := by
  unfold KeepsEngine
  split <;> infer_instance

/-! ## The invariant -/

def Active (s : System) : Prop := s.audio.state = .paused ∨ s.audio.state = .playing

structure Shared (s : System) : Prop where
  valid : EngineValid s
  live : s.audio.liveRunning = true → s.audio.state = .playing
  enabled : s.input.audioEnabled = true → Active s
  queue : s.audiosrc.currentPackets ≠ [] → Active s
  held : s.audio.state ≠ .null → s.audio.hasInput = true ∧ s.input.audiosrc.isSome = true
  set_up : s.audio.state ≠ .null → ∀ av, s.input.ntv2AV = some av → av.audioSetUp = true
  opened : ∀ av, s.input.ntv2AV = some av → s.audioInitOn = some av.id → av.deviceOpen = true
  fresh : ∀ av, s.input.ntv2AV = some av → av.id < s.captures.nextId
  init_fresh : ∀ id, s.audioInitOn = some id → id < s.captures.nextId

variable {videoInfoFromCaps : GstCaps → GstVideoInfo} {s t : System}

theorem Active.not_null (h : Active s) : s.audio.state ≠ .null := by
  rcases h with h | h <;> rw [h] <;> simp

theorem shared_init (h : (system videoInfoFromCaps).initial s) : Shared s := by
  obtain ⟨_, _, _, _, _, _, _, _, rfl⟩ := h
  constructor
  case valid => exact ⟨fun h => (by cases h), fun h => (by cases h), rfl, rfl⟩
  all_goals intros; contradiction

theorem Shared.audio_engine (h : Shared s) (hs : s.audio.state ≠ .null) :
    s.audio.hasInput = true ∧ ∃ av, s.input.ntv2AV = some av ∧ av.audioSetUp = true := by
  obtain ⟨hinput, hslot⟩ := h.held hs
  obtain ⟨av, hav, -⟩ := h.valid.engine hslot
  exact ⟨hinput, av, hav, h.set_up hs av hav⟩

theorem Shared.idle (h : Shared s) (hs : s.audio.state = .null ∨ s.audio.state = .ready) :
    s.audio.liveRunning = false ∧ s.input.audioEnabled = false ∧
      s.audiosrc.currentPackets = [] := by
  have hidle : ¬Active s := by rintro (ha | ha) <;> rw [ha] at hs <;> simp at hs
  refine ⟨?_, ?_, ?_⟩
  · rw [Bool.eq_false_iff]
    exact fun hl => hidle (Or.inr (h.live hl))
  · rw [Bool.eq_false_iff]
    exact fun he => hidle (h.enabled he)
  · by_contra hq
    exact hidle (h.queue hq)

/-! ## Steps that leave the audio source alone -/

structure SameAudio (a b : NTV2GstAV) : Prop where
  id : b.id = a.id
  set_up : b.audioSetUp = a.audioSetUp
  device : a.deviceOpen = true → b.deviceOpen = true

structure AudioFrame (s t : System) : Prop where
  audio : t.audio = s.audio
  slot : t.input.audiosrc = s.input.audiosrc
  enabled : t.input.audioEnabled = s.input.audioEnabled
  engine : Option.Rel SameAudio s.input.ntv2AV t.input.ntv2AV
  audio_init : t.audioInitOn = s.audioInitOn
  ids : s.captures.nextId ≤ t.captures.nextId
  kept : t.kept = s.kept
  unset : t.audioUnset = s.audioUnset
  fault : t.fault ≠ some .nullEngine
  queue : t.audiosrc.currentPackets ≠ [] → s.audiosrc.currentPackets ≠ [] ∨ Active s

theorem same_engine (o : Option NTV2GstAV) : Option.Rel SameAudio o o := by
  cases o with
  | none => exact .none
  | some av => exact .some ⟨rfl, rfl, id⟩

theorem AudioFrame.engine_of (hf : AudioFrame s t) {b : NTV2GstAV}
    (hb : t.input.ntv2AV = some b) : ∃ a, s.input.ntv2AV = some a ∧ SameAudio a b := by
  have he := hf.engine
  rw [hb] at he
  generalize s.input.ntv2AV = old at he
  cases he with
  | some hab => exact ⟨_, rfl, hab⟩

theorem AudioFrame.active (hf : AudioFrame s t) : Active t ↔ Active s := by
  unfold Active
  rw [hf.audio]

theorem shared_of_frame (h : Shared s) (hf : AudioFrame s t) : Shared t := by
  refine ⟨⟨?_, hf.fault, hf.kept.trans h.valid.released,
    hf.unset.trans h.valid.set_up⟩, ?_, ?_, ?_, ?_,
    ?_, ?_, ?_, ?_⟩
  · intro hslot
    obtain ⟨a, ha, hinit⟩ := h.valid.engine (hf.slot ▸ hslot)
    have he := hf.engine
    rw [ha] at he
    generalize hnew : t.input.ntv2AV = new at he
    cases he with
    | some hab => exact ⟨_, rfl, by rw [hf.audio_init, hinit, hab.id]⟩
  · intro hl
    rw [hf.audio] at hl ⊢
    exact h.live hl
  · intro he
    exact hf.active.mpr (h.enabled (hf.enabled ▸ he))
  · intro hq
    exact hf.active.mpr ((hf.queue hq).elim h.queue id)
  · intro hs
    rw [hf.audio] at hs ⊢
    rw [hf.slot]
    exact h.held hs
  · intro hs b hb
    obtain ⟨a, ha, hab⟩ := hf.engine_of hb
    rw [hf.audio] at hs
    rw [hab.set_up]
    exact h.set_up hs a ha
  · intro b hb hi
    obtain ⟨a, ha, hab⟩ := hf.engine_of hb
    rw [hf.audio_init, hab.id] at hi
    exact hab.device (h.opened a ha hi)
  · intro b hb
    obtain ⟨a, ha, hab⟩ := hf.engine_of hb
    rw [hab.id]
    exact (h.fresh a ha).trans_le hf.ids
  · intro id hi
    exact (h.init_fresh id (hf.audio_init ▸ hi)).trans_le hf.ids

theorem AudioFrame.of_video (h : Shared s) (hi : t.input.audiosrc = s.input.audiosrc ∧
      t.input.audioEnabled = s.input.audioEnabled)
    (hav : Option.Rel SameAudio s.input.ntv2AV t.input.ntv2AV) (ha : t.audio = s.audio)
    (hinit : t.audioInitOn = s.audioInitOn) (hc : s.captures.nextId ≤ t.captures.nextId)
    (hk : t.kept = s.kept) (hu : t.audioUnset = s.audioUnset) (hq : t.audiosrc = s.audiosrc)
    (hfault : t.fault = s.fault) : AudioFrame s t :=
  ⟨ha, hi.1, hi.2, hav, hinit, hc, hk, hu, hfault ▸ h.valid.dereferenced,
    fun h => Or.inl (hq ▸ h)⟩

theorem start_step_frame (hn : s.fault = none) (h : StartStep s t) : AudioFrame s t := by
  obtain ⟨-, -, hslot, hen, -⟩ := h.rest
  refine ⟨h.audio, hslot, hen, ?_, h.audioInitOn, ?_, h.kept, h.audioUnset, ?_,
    fun hq => Or.inl (h.audiosrc ▸ hq)⟩
  · rcases h.engine with ⟨-, hi, -⟩ | ⟨-, -, av, hav, hi, -⟩
    · rw [hi]
      exact same_engine _
    · rw [hav, hi]
      exact .some ⟨rfl, rfl, id⟩
  · rcases h.engine with ⟨-, -, hc⟩ | ⟨-, -, av, -, -, hc⟩ <;> rw [hc]
    exact Nat.le_succ _
  · rcases h.fault with hf | hf | ⟨hf, -⟩ <;> rw [hf]
    · rw [hn]; simp
    · simp
    · simp

/-! ## Delivery and capture -/

structure RecordKept (s t : System) : Prop where
  kept : t.kept = s.kept
  unset : t.audioUnset = s.audioUnset
  fault : t.fault ≠ some .nullEngine
  queue : t.audiosrc.currentPackets ≠ [] → s.audiosrc.currentPackets ≠ [] ∨ Active s

theorem clear_packets_record (h : Shared s) (hs : s.audio.state ≠ .null) {s' : System}
    (hi : s'.input = s.input) (ha : s'.audio = s.audio) (hr : RecordKept s s')
    (packets : List AjaCaptureAudioPacket) : RecordKept s (s'.clearPackets packets) := by
  obtain ⟨hinput, av, hav, -⟩ := h.audio_engine hs
  have hall : s'.clearPackets packets = s' := by
    simp [System.clearPackets, hi, ha, hinput, hav]
  rw [hall]
  exact hr

theorem video_create_record (hn : s.fault = none)
    (h : s.videoCreate videoInfoFromCaps = some t) : RecordKept s t := by
  unfold System.videoCreate at h
  repeat' split at h
  all_goals first
    | contradiction
    | cases h; exact ⟨rfl, rfl, by simp [hn], Or.inl⟩
    | skip
  obtain ⟨r, -, rfl⟩ := Option.map_eq_some_iff.mp h
  dsimp only
  split
  · exact ⟨rfl, rfl, by simp, Or.inl⟩
  · exact ⟨rfl, rfl, by simp [hn], Or.inl⟩

theorem audio_create_record (hi : Shared s) (hn : s.fault = none) (h : s.audioCreate = some t) :
    RecordKept s t := by
  unfold System.audioCreate at h
  split at h
  · rename_i hrun
    have hplaying := hi.live (by simp_all)
    have hactive : Active s := Or.inr hplaying
    obtain ⟨r, -, rfl⟩ := Option.map_eq_some_iff.mp h
    dsimp only
    repeat' split
    · refine clear_packets_record hi hactive.not_null ?_ ?_ ?_ _
      · rfl
      · rfl
      · exact ⟨rfl, rfl, by simp [hn], fun _ => Or.inr hactive⟩
    · exact ⟨rfl, rfl, by simp, fun _ => Or.inr hactive⟩
    · refine clear_packets_record hi hactive.not_null ?_ ?_ ?_ _
      · rfl
      · rfl
      · exact ⟨rfl, rfl, by simp [hn], fun _ => Or.inr hactive⟩
  · cases h

theorem drain_record (hi : Shared s) (hn : s.fault = none) :
    RecordKept s { s.drainPackets with
      audiosrc := { s.drainPackets.audiosrc with flushing := false } } := by
  rw [drain_packets_eq]
  refine ⟨?_, rfl, by simp [hn], fun hq => absurd rfl hq⟩
  by_cases hs : s.audio.state = .null
  · have hempty := (hi.idle (Or.inl hs)).2.2
    simp only [System.clearPackets, hempty, List.map_nil, List.append_nil]
    split <;> rfl
  · exact (clear_packets_record hi hs rfl rfl ⟨rfl, rfl, by simp [hn], Or.inl⟩ _).kept

theorem frame_record {thread : ℕ} {env : CaptureEnv} {videoBuff : Option AjaVideoBuff}
    (hn : s.fault = none) (h : s.frame thread env videoBuff = some t) : RecordKept s t := by
  obtain ⟨av, -, rfl⟩ := Option.map_eq_some_iff.mp h
  repeat' split
  all_goals exact ⟨rfl, rfl, by simp [hn], Or.inl⟩

theorem packet_record {thread : ℕ} {audioBuff : Option AjaAudioBuff} (hi : Shared s)
    (hn : s.fault = none) (h : s.packet thread audioBuff = some t) : RecordKept s t := by
  obtain ⟨av, hav, h⟩ := Option.bind_eq_some_iff.mp h
  have heng := (Option.filter_eq_some_iff.mp hav).1
  dsimp only at h
  split at h
  · split at h
    · split at h
      · rename_i henabled
        have hactive := hi.enabled henabled
        have hset : (s.audioUnset || !av.audioSetUp) = s.audioUnset := by
          rw [hi.set_up hactive.not_null av heng]
          simp
        split at h
        · cases h
          exact ⟨rfl, hset, by simp, fun _ => Or.inr hactive⟩
        · cases h
          exact ⟨rfl, hset, by simp, fun _ => Or.inr hactive⟩
        · obtain ⟨a, -, rfl⟩ := Option.map_eq_some_iff.mp h
          exact ⟨rfl, hset, by simp [hn], fun _ => Or.inr hactive⟩
      · cases h
        exact ⟨rfl, rfl, by simp [hn], Or.inl⟩
    · cases h
      exact ⟨rfl, rfl, by simp, Or.inl⟩
  · cases h
    exact ⟨rfl, rfl, by simp [hn], Or.inl⟩

theorem quiet_frame {e : Event} (hi : Shared s) (hn : s.fault = none) (hq : quietEvent e = true)
    (hs : s.step videoInfoFromCaps e = some t) : AudioFrame s t := by
  have hsame := quiet_step hq hs
  have hrecord : RecordKept s t := by
    cases e with
    | videoCreate => exact video_create_record hn hs
    | audioCreate => exact audio_create_record hi hn hs
    | audioUnlockStop => cases hs; exact drain_record hi hn
    | frame thread env videoBuff => exact frame_record hn hs
    | packet thread audioBuff => exact packet_record hi hn hs
    | setMode modeEnum =>
      obtain ⟨mode, -, rfl⟩ := Option.map_eq_some_iff.mp hs
      exact ⟨rfl, rfl, by simp [hn], Or.inl⟩
    | videoUnlock => cases hs; exact ⟨rfl, rfl, by simp [hn], Or.inl⟩
    | videoUnlockStop => cases hs; exact ⟨rfl, rfl, by simp [hn], Or.inl⟩
    | audioUnlock => cases hs; exact ⟨rfl, rfl, by simp [hn], Or.inl⟩
    | _ => cases hq
  refine ⟨hsame.audio, by rw [hsame.input], by rw [hsame.input], ?_, hsame.audio_init,
    by rw [hsame.captures], hrecord.kept, hrecord.unset, hrecord.fault, hrecord.queue⟩
  rw [hsame.input]
  exact same_engine _

/-! ## Opening and closing -/

theorem shared_of_null (hv : EngineValid t) (hs : t.audio.state = .null)
    (hidle : t.audio.liveRunning = false ∧ t.input.audioEnabled = false ∧
      t.audiosrc.currentPackets = [])
    (hopened : ∀ av, t.input.ntv2AV = some av → t.audioInitOn = some av.id →
      av.deviceOpen = true)
    (hfresh : ∀ av, t.input.ntv2AV = some av → av.id < t.captures.nextId)
    (hinit : ∀ id, t.audioInitOn = some id → id < t.captures.nextId) : Shared t :=
  ⟨hv, fun hl => (by rw [hidle.1] at hl; cases hl), fun he => (by rw [hidle.2.1] at he; cases he),
    fun hq => absurd hidle.2.2 hq, fun hn => absurd hs hn, fun hn => absurd hs hn, hopened, hfresh,
    hinit⟩

theorem acquire_video_audiosrc (s : System) :
    (s.acquire .video).1.input.audiosrc = s.input.audiosrc := by
  rcases acquire_slots s.input s.captures.nextId Element.video false with
    ⟨-, -, -, hs⟩ | ⟨h, -⟩ | ⟨-, -, -, ha, -⟩
  · exact hs
  · cases h
  · exact ha

theorem acquire_video_shared (h : Shared s) : Shared (s.acquire .video).1 := by
  obtain ⟨hav, -, hen, -⟩ := acquire_engine s.input s.captures.nextId Element.video false
  cases hold : s.input.ntv2AV with
  | some av =>
    refine shared_of_frame h (.of_video h ⟨acquire_video_audiosrc s, hen⟩ ?_ rfl rfl
      (Nat.le_succ _) rfl rfl rfl rfl)
    rw [show (s.acquire .video).1.input.ntv2AV = _ from hav, hold]
    exact .some ⟨rfl, rfl, id⟩
  | none =>
    rw [hold] at hav
    have hnull : s.audio.state = .null := by
      by_contra hs
      obtain ⟨-, av, he, -⟩ := h.audio_engine hs
      rw [hold] at he
      cases he
    have hidle := h.idle (Or.inl hnull)
    refine shared_of_null ⟨?_, h.valid.dereferenced, h.valid.released,
      h.valid.set_up⟩ hnull ⟨hidle.1, hen.trans hidle.2.1, hidle.2.2⟩ ?_
      ?_ fun id hi => (h.init_fresh id hi).trans (Nat.lt_succ_self _)
    · intro hslot
      rw [acquire_video_audiosrc] at hslot
      obtain ⟨av, he, -⟩ := h.valid.engine hslot
      rw [hold] at he
      cases he
    · intro av he hi
      cases hav.symm.trans he
      exact absurd (h.init_fresh _ hi) (lt_irrefl _)
    · intro av he
      cases hav.symm.trans he
      exact Nat.lt_succ_self _

theorem open_init_same_audio (av : NTV2GstAV) (mode : GstAjaMode) (found ok : Bool) :
    SameAudio av (av.openInit mode found ok).1 := by
  cases ho : av.deviceOpen <;> cases found <;> cases ok <;> constructor <;>
    simp [NTV2GstAV.openInit, NTV2GstAV.openDevice, NTV2GstAV.init, ho]

theorem video_open_shared {found ok : Bool} (h : Shared s)
    (hs : s.videoOpen found ok = some t) : Shared t := by
  have hacq := acquire_video_shared h
  obtain ⟨-, ⟨-, rfl⟩ | ⟨-, mode, av, -, hav, rfl⟩⟩ := video_open_cases hs
  · exact shared_of_frame hacq (.of_video hacq ⟨rfl, rfl⟩ (same_engine _) rfl rfl le_rfl
      rfl rfl rfl rfl)
  · refine shared_of_frame hacq (.of_video hacq ⟨rfl, rfl⟩ ?_ rfl rfl le_rfl rfl rfl rfl rfl)
    rw [hav]
    exact .some (open_init_same_audio av mode found ok)

theorem video_close_shared (h : Shared s) (hfree : s.input.audiosrc = none)
    (hs : s.videoClose = some t) : Shared t := by
  have hnull : s.audio.state = .null := by
    by_contra hs
    have := (h.held hs).2
    rw [hfree] at this
    cases this
  have hidle := h.idle (Or.inl hnull)
  obtain ⟨-, ⟨-, rfl⟩ | ⟨-, rfl⟩⟩ := video_close_cases hs
  · exact shared_of_null ⟨h.valid.engine, h.valid.dereferenced, h.valid.released,
      h.valid.set_up⟩ hnull hidle h.opened h.fresh h.init_fresh
  · refine shared_of_null ⟨?_, h.valid.dereferenced, h.valid.released,
      h.valid.set_up⟩ hnull hidle (fun _ he => (by cases he)) (fun _ he => (by cases he)) ?_
    · intro hslot
      rw [show s.input.closeVideo.audiosrc = none from hfree] at hslot
      cases hslot
    · cases s.input.ntv2AV <;> exact h.init_fresh

theorem audio_opens (h : Shared s) {found ok : Bool} (hk : KeepsEngine s (.audioOpen found ok))
    {av : NTV2GstAV} (hav : (s.acquire .audio).1.input.ntv2AV = some av) :
    (av.openDevice found).2 = true := by
  rw [(acquire_engine_some s .audio).1] at hav
  cases hav
  unfold NTV2GstAV.openDevice
  split
  · rfl
  · rename_i hclosed
    cases hfree : s.input.audiosrc with
    | none =>
      rcases hk hfree with hf | hf
      · exact hf
      · cases hold : s.input.ntv2AV <;> simp [hold] at hf hclosed
        rw [hclosed] at hf
        cases hf
    | some src =>
      obtain ⟨av, hold, hinit⟩ := h.valid.engine (by rw [hfree]; rfl)
      rw [hold] at hclosed
      exact absurd (h.opened av hold hinit) hclosed

theorem open_init_audio_ready {av : NTV2GstAV} {found : Bool} (ok : Bool)
    (ho : (av.openDevice found).2 = true) :
    (av.openInitAudio found ok).1.deviceOpen = true ∧
      ((av.openInitAudio found ok).2 = true →
        (av.openInitAudio found ok).1.audioSetUp = true) := by
  cases hd : av.deviceOpen <;>
    simp_all [NTV2GstAV.openInitAudio, NTV2GstAV.openDevice, NTV2GstAV.initAudio]

theorem acquire_audio_slot (s : System) (hok : (s.acquire .audio).2 = true) :
    (s.acquire .audio).1.input.audiosrc.isSome = true := by
  rcases acquire_slots s.input s.captures.nextId Element.audio true with
    ⟨-, -, hs, -⟩ | ⟨-, hsome, -, -, -, hs⟩ | ⟨-, -, hno, -⟩
  · exact congrArg Option.isSome hs
  · exact (congrArg Option.isSome hs).trans hsome
  · exact absurd hok (by rw [show (s.acquire .audio).2 = false from hno]; simp)

theorem audio_refused_shared (h : Shared s)
    (hno : (s.acquire .audio).2 = false) : Shared (s.acquire .audio).1 := by
  obtain ⟨hav, -, hen, -⟩ := acquire_engine s.input s.captures.nextId Element.audio true
  have hslots : s.input.audiosrc.isSome = true ∧
      (s.acquire .audio).1.input.audiosrc = s.input.audiosrc := by
    rcases acquire_slots s.input s.captures.nextId Element.audio true with
      ⟨-, hyes, -⟩ | ⟨-, -, -, hyes, -⟩ | ⟨hs, -, -, ha, -⟩
    · exact absurd (hyes.symm.trans hno) (by simp)
    · exact absurd (hyes.symm.trans hno) (by simp)
    · exact ⟨hs, ha⟩
  obtain ⟨av, hold, -⟩ := h.valid.engine hslots.1
  refine shared_of_frame h (.of_video h ⟨hslots.2, hen⟩ ?_ rfl rfl (Nat.le_succ _)
    rfl rfl rfl rfl)
  rw [show (s.acquire .audio).1.input.ntv2AV = _ from hav, hold]
  exact .some ⟨rfl, rfl, id⟩

theorem audio_open_shared {found ok : Bool} (h : Shared s)
    (hk : KeepsEngine s (.audioOpen found ok)) (hs : s.audioOpen found ok = some t) :
    Shared t := by
  obtain ⟨hnull, ⟨hno, rfl⟩ | ⟨hok, av, he, rfl⟩⟩ := audio_open_cases hs
  · have hacq := audio_refused_shared h hno
    exact shared_of_null ⟨hacq.valid.engine, h.valid.dereferenced, h.valid.released,
      h.valid.set_up⟩ hnull (hacq.idle (Or.inl hnull)) hacq.opened hacq.fresh hacq.init_fresh
  · have hopens := audio_opens h hk he
    have hsame := open_init_audio_same_run av found ok
    obtain ⟨hdevice, hready⟩ := open_init_audio_ready ok hopens
    obtain ⟨hl, hen, hq⟩ := h.idle (Or.inl hnull)
    have hid : av.id < s.captures.nextId + 1 := by
      rw [(acquire_engine_some s .audio).1] at he
      cases hold : s.input.ntv2AV with
      | none => rw [hold] at he; cases he; exact Nat.lt_succ_self _
      | some old => rw [hold] at he; cases he; exact (h.fresh old hold).trans (Nat.lt_succ_self _)
    have hen' : (s.acquire .audio).1.input.audioEnabled = false :=
      (acquire_engine s.input s.captures.nextId Element.audio true).2.2.1.trans hen
    simp only [hopens, if_true]
    refine ⟨⟨fun _ => ⟨_, rfl, by rw [hsame.id]⟩, h.valid.dereferenced, h.valid.released,
      h.valid.set_up⟩, ?_, ?_, fun hq' => absurd hq hq', fun _ =>
      ⟨rfl, acquire_audio_slot s hok⟩, ?_, ?_, ?_,
      ?_⟩
    · intro hl'
      exact absurd (hl.symm.trans hl') (by simp)
    · intro he'
      exact absurd (hen'.symm.trans he') (by simp)
    · intro hs b hb
      cases hb
      apply hready
      by_contra hno
      rw [Bool.not_eq_true] at hno
      simp [hno] at hs
    · intro b hb _
      cases hb
      exact hdevice
    · intro b hb
      cases hb
      exact hsame.id ▸ hid
    · intro id hi
      cases hi
      exact hid

/-! ## Every transition -/

theorem shared_of_status (h : Shared s) (hn : t.audio.state ≠ .null ∧ s.audio.state ≠ .null)
    (hin : t.audio.hasInput = s.audio.hasInput) (hlive : t.audio.liveRunning = true →
      t.audio.state = .playing) (hen : t.input.audioEnabled = true → Active t)
    (hq : t.audiosrc.currentPackets ≠ [] → Active t)
    (hav : Option.Rel SameAudio s.input.ntv2AV t.input.ntv2AV)
    (hslot : t.input.audiosrc = s.input.audiosrc) (hc : t.captures = s.captures)
    (hinit : t.audioInitOn = s.audioInitOn) (hk : t.kept = s.kept)
    (hu : t.audioUnset = s.audioUnset) (hf : t.fault = s.fault) : Shared t := by
  have hmid : Shared { t with
      audio := s.audio
      audiosrc := s.audiosrc
      input := { t.input with audioEnabled := s.input.audioEnabled } } :=
    shared_of_frame h ⟨rfl, hslot, rfl, hav, hinit, hc ▸ le_rfl, hk, hu,
      hf ▸ h.valid.dereferenced, Or.inl⟩
  exact ⟨⟨hmid.valid.engine, hmid.valid.dereferenced, hmid.valid.released, hmid.valid.set_up⟩,
    hlive, hen, hq, fun _ => ⟨hin.trans (h.held hn.2).1, (hmid.held hn.2).2⟩,
    fun _ => hmid.set_up hn.2, hmid.opened, hmid.fresh, hmid.init_fresh⟩

theorem audio_ready_shared {ok : Bool} (h : Shared s) (hs : s.audioReadyToPaused ok = some t) :
    Shared t := by
  obtain ⟨hready, hv, hin, hlive, hstate, hinit, hk, hp, hcase⟩ := audio_ready_cases hs
  obtain ⟨hl, hen, hq⟩ := h.idle (Or.inr hready)
  have hnn : s.audio.state ≠ .null := by rw [hready]; simp
  obtain ⟨-, av, hav, hset⟩ := h.audio_engine hnn
  rcases hcase with ⟨hno, -⟩ | ⟨av', hav', hi, hu, hf⟩
  · rw [hav] at hno; cases hno
  · cases hav.symm.trans hav'
    refine shared_of_status h ⟨by rcases hstate with h | h <;> rw [h] <;> simp, hnn⟩ hin
      (fun hl' => ?_) (fun he => ?_) (fun hq' => ?_) ?_ (by rw [hi]) hv.captures hinit hk
      (by rw [hu, hset]; simp) hf
    · rw [hlive, hl] at hl'; cases hl'
    · rw [hi] at he
      exact absurd (hen.symm.trans he) (by simp)
    · rw [hp] at hq'
      exact absurd hq hq'
    · rw [hav, hi]
      exact .some ⟨rfl, rfl, id⟩

theorem audio_stop_shared (h : Shared s) (hs : s.audioStop = some t) : Shared t := by
  obtain ⟨hpaused, hv, ha, hinit, hu, hcase⟩ := audio_stop_cases hs
  have hnn : s.audio.state ≠ .null := by rw [hpaused]; simp
  obtain ⟨hinput, av, hav, -⟩ := h.audio_engine hnn
  have hstopped : t.audio.liveRunning = true → t.audio.state = .playing := by
    intro hl
    rw [ha] at hl
    rw [h.live hl] at hpaused
    cases hpaused
  rcases hcase with ⟨hen, hi, hf, hq, hk⟩ | ⟨hno, -⟩ | ⟨av', hav', hi, hf, hq, hk⟩
  · refine shared_of_status h ⟨by rw [ha]; simp, hnn⟩ (by rw [ha]) hstopped ?_
      (fun hq' => absurd hq hq') (by rw [hi]; exact same_engine _) (by rw [hi]) hv.captures hinit
      (hk hinput (by rw [hav]; rfl)) hu hf
    intro he
    rw [hi] at he
    simp [hinput, he] at hen
  · rw [hav] at hno; cases hno
  · cases hav.symm.trans hav'
    refine shared_of_status h ⟨by rw [ha]; simp, hnn⟩ (by rw [ha]) hstopped ?_
      (fun hq' => absurd hq hq') ?_ (by rw [hi]) hv.captures hinit (hk hinput) hu hf
    · intro he
      rw [hi] at he; cases he
    · rw [hav, hi]
      exact .some ⟨rfl, rfl, id⟩

theorem audio_start_shared {capsSet : Bool} (h : Shared s) (hn : s.fault = none)
    (hs : s.audioStart capsSet = some t) : Shared t := by
  obtain ⟨hlive, hcase⟩ := audio_start_cases hs
  have hactive : Active s := Or.inr (h.live hlive)
  have hon : Shared s.enableAudio := shared_of_status h ⟨hactive.not_null, hactive.not_null⟩ rfl
    h.live (fun _ => hactive) (fun _ => hactive) (same_engine _) rfl rfl rfl rfl rfl rfl
  have hreset : ∀ u, Shared u → Active u →
      Shared { u with audiosrc :=
        if capsSet then u.audiosrc.startReset else u.audiosrc } := fun u hu ha =>
    shared_of_status hu ⟨ha.not_null, ha.not_null⟩ rfl hu.live (fun _ => ha) (fun _ => ha)
      (same_engine _) rfl rfl rfl rfl rfl rfl
  rcases hcase with ⟨-, rfl⟩ | ⟨-, u, hu | ⟨-, rfl⟩, rfl⟩
  · exact h
  · have hf := start_step_frame (s := s.enableAudio) hn hu
    exact hreset u (shared_of_frame hon hf) (hf.active.mpr hactive)
  · exact hreset _ hon hactive

theorem audio_close_shared (h : Shared s) (hs : s.audioClose = some t) : Shared t := by
  obtain ⟨hready, ⟨hno, -⟩ | ⟨-, rfl⟩⟩ := audio_close_cases hs
  · have := (h.held (by rw [hready]; simp)).1
    rw [hno] at this
    cases this
  · obtain ⟨hl, -, hq⟩ := h.idle (Or.inr hready)
    exact shared_of_null ⟨fun hslot => (by cases hslot), h.valid.dereferenced, h.valid.released,
      h.valid.set_up⟩ rfl ⟨hl, rfl, hq⟩ h.opened h.fresh h.init_fresh

theorem shared_step {e : Event} (h : Shared s) (hn : s.fault = none) (ha : KeepsEngine s e)
    (hl : VideoLife s) (hs : s.step videoInfoFromCaps e = some t) : Shared t := by
  by_cases hq : quietEvent e = true
  · exact shared_of_frame h (quiet_frame h hn hq hs)
  cases e with
  | videoOpen found ok => exact video_open_shared h hs
  | videoReadyToPaused ok =>
    obtain ⟨hready, ⟨hno, -⟩ | ⟨av, hav, rfl⟩⟩ := video_ready_cases hs
    · have := (hl.held (by rw [hready]; simp)).2
      rw [hno] at this
      cases this
    · refine shared_of_frame h (.of_video h ⟨rfl, rfl⟩ ?_ rfl rfl le_rfl rfl rfl rfl rfl)
      rw [hav]
      exact .some ⟨rfl, rfl, id⟩
  | videoPlay =>
    obtain ⟨-, -, rfl⟩ := video_play_cases hs
    exact shared_of_frame h (.of_video h ⟨rfl, rfl⟩ (same_engine _) rfl rfl le_rfl
      rfl rfl rfl rfl)
  | videoPlaying =>
    obtain ⟨-, u, hu, rfl⟩ := video_playing_cases hs
    have hstart := shared_of_frame h (start_step_frame hn hu)
    exact shared_of_frame hstart (.of_video hstart ⟨rfl, rfl⟩ (same_engine _) rfl rfl le_rfl
      rfl rfl rfl rfl)
  | videoPause =>
    obtain ⟨-, rfl⟩ := video_pause_cases hs
    exact shared_of_frame h (.of_video h ⟨rfl, rfl⟩ (same_engine _) rfl rfl le_rfl
      rfl rfl rfl rfl)
  | videoStop =>
    obtain ⟨hpaused, -, ⟨-, rfl⟩ | ⟨hno, -⟩ | ⟨av, hav, rfl⟩⟩ := video_stop_cases hs
    · exact shared_of_frame h (.of_video h ⟨rfl, rfl⟩ (same_engine _) rfl rfl le_rfl
        rfl rfl rfl rfl)
    · have := (hl.held (by rw [hpaused]; simp)).2
      rw [hno] at this
      cases this
    · refine shared_of_frame h (.of_video h ⟨rfl, rfl⟩ ?_ rfl rfl le_rfl rfl rfl rfl rfl)
      rw [hav]
      exact .some ⟨rfl, rfl, id⟩
  | videoClose => exact video_close_shared h ha hs
  | videoStart =>
    obtain ⟨-, ⟨-, rfl⟩ | ⟨-, mode, -, u, hu, rfl⟩⟩ := video_start_cases hs
    · exact h
    · have hon : Shared (s.enableVideo mode) := shared_of_frame h (.of_video h ⟨rfl, rfl⟩
        (same_engine _) rfl rfl le_rfl rfl rfl rfl rfl)
      have hstart := shared_of_frame hon (start_step_frame hn hu)
      exact shared_of_frame hstart (.of_video hstart ⟨rfl, rfl⟩ (same_engine _) rfl rfl le_rfl
        rfl rfl rfl rfl)
  | audioOpen found ok => exact audio_open_shared h ha hs
  | audioReadyToPaused ok => exact audio_ready_shared h hs
  | audioPlay =>
    obtain ⟨hpaused, rfl⟩ := audio_play_cases hs
    exact shared_of_status h ⟨by simp, by rw [hpaused]; simp⟩ rfl (fun _ => rfl)
      (fun _ => Or.inr rfl) (fun _ => Or.inr rfl) (same_engine _) rfl rfl rfl rfl rfl rfl
  | audioPause =>
    obtain ⟨hplaying, rfl⟩ := audio_pause_cases hs
    exact shared_of_status h ⟨by simp, by rw [hplaying]; simp⟩ rfl (fun hl => (by cases hl))
      (fun _ => Or.inl rfl) (fun _ => Or.inl rfl) (same_engine _) rfl rfl rfl rfl rfl rfl
  | audioStop => exact audio_stop_shared h hs
  | audioClose => exact audio_close_shared h hs
  | audioStart capsSet => exact audio_start_shared h hn hs
  | threadEnds thread =>
    obtain ⟨av, -, -, -, rfl⟩ := thread_ends_cases hs
    exact shared_of_frame h (.of_video h ⟨rfl, rfl⟩ (same_engine _) rfl rfl le_rfl
      rfl rfl rfl rfl)
  | _ => exact absurd rfl hq

/-- Deleting the engine under an audio source, or taking the slot without getting the
device to open, leaves an audio source that has no engine of its own. -/
theorem keeps_engine_of_valid {e : Event} (h : Shared s) (hl : VideoLife s)
    (hs : s.step videoInfoFromCaps e = some t) (hv : EngineValid t) : KeepsEngine s e := by
  cases e with
  | videoClose =>
    obtain ⟨hready, ⟨hno, -⟩ | ⟨-, rfl⟩⟩ := video_close_cases hs
    · have := (hl.held (by rw [hready]; simp)).1
      rw [hno] at this
      cases this
    · by_contra hslot
      obtain ⟨av, hav, -⟩ := hv.engine (Option.isSome_iff_ne_none.mpr hslot)
      cases hav
  | audioOpen found ok =>
    intro hfree
    by_contra hclosed
    simp only [not_or, Bool.not_eq_true] at hclosed
    obtain ⟨hnull, ⟨hno, -⟩ | ⟨hok, av, hav, rfl⟩⟩ := audio_open_cases hs
    · rcases acquire_slots s.input s.captures.nextId Element.audio true with
        ⟨-, hyes, -⟩ | ⟨-, hsome, -⟩ | ⟨hsome, -⟩
      · exact absurd (hyes.symm.trans hno) (by simp)
      · rw [hfree] at hsome; cases hsome
      · rw [show s.input.slot true = none from hfree] at hsome; cases hsome
    · obtain ⟨b, hb, hinit⟩ := hv.engine (acquire_audio_slot s hok)
      cases hb
      rw [(acquire_engine_some s .audio).1] at hav
      have hshut : av.deviceOpen = false := by
        cases hold : s.input.ntv2AV <;> rw [hold] at hav <;> cases hav
        · rfl
        · simpa [hold] using hclosed.2
      have hinit' : s.audioInitOn = some av.id := by
        simpa [NTV2GstAV.openDevice, NTV2GstAV.openInitAudio, hshut, hclosed.1] using hinit
      cases hold : s.input.ntv2AV with
      | none =>
        rw [hold] at hav
        cases hav
        exact absurd (h.init_fresh _ hinit') (lt_irrefl _)
      | some old =>
        rw [hold] at hav
        cases hav
        exact absurd ((h.opened old hold hinit').symm.trans hshut) (by simp)
  | _ => trivial

/-! ## Every run -/

theorem shared (h : ReachableWhile (system videoInfoFromCaps) KeepsEngine s) : Shared s := by
  have hboth : Shared s ∧ VideoLife s := by
    refine h.invariant (I := fun s => Shared s ∧ VideoLife s)
      (fun _ hi => ⟨shared_init hi, video_life_init hi⟩) ?_
    rintro _ _ _ ⟨hi, hl⟩ ha hn
    obtain ⟨hfault, hs⟩ := system_step_of_next hn
    exact ⟨shared_step hi hfault ha hl hs, video_life_step hl hs⟩
  exact hboth.1

/-- The audio source has its engine as long as the video source closes after it and the
device opens for it, and no longer than that. -/
theorem engine_valid (h : ReachableWhile (system videoInfoFromCaps) KeepsEngine s) :
    EngineValid s ∧ ∀ e t, (system videoInfoFromCaps).next s e = some t →
      (EngineValid t ↔ KeepsEngine s e) :=
  ⟨(shared h).valid, fun _ _ hn => ⟨fun hv =>
    keeps_engine_of_valid (shared h) (video_life h) (system_step_of_next hn).2 hv,
    fun ha => (shared (h.step ha hn)).valid⟩⟩

theorem engine_valid_restarted : ∃ s,
    (s.input.audiosrc = some .audio ∧ s.captures.runs.length = 2) ∧ EngineValid s ∧
    ∀ e t, (system capsVideoInfo).next s e = some t → (EngineValid t ↔ KeepsEngine s e) := by
  obtain ⟨s, hs, hp⟩ := reachable_while_of_trace (m := system capsVideoInfo) (a := KeepsEngine)
    (i := newElements)
    (l := [.audioOpen true true, .videoOpen true true, .videoReadyToPaused true,
      .audioReadyToPaused true, .videoPlay, .videoPlaying, .audioPlay, .videoStart,
      .audioStart true, .videoPause, .videoStop, .videoReadyToPaused true, .videoPlay, .videoPlaying,
      .videoStart])
    (p := fun s => decide (s.input.audiosrc = some .audio ∧ s.captures.runs.length = 2))
    ⟨15, 5, false, 0, 2, 5, 0, 0, rfl⟩ (by decide +kernel)
  exact ⟨s, of_decide_eq_true hp, engine_valid hs⟩

/-- The video source closes first, and the audio source goes on to READY to PAUSED. -/
theorem engine_gone : ¬∀ s, Reachable (system capsVideoInfo) s → EngineValid s := by
  intro h
  obtain ⟨s, hs, hp⟩ := reachable_of_trace (m := system capsVideoInfo) (i := newElements)
    (l := [.videoOpen true true, .audioOpen true true, .videoClose, .audioReadyToPaused true])
    (p := fun s => decide (s.fault = some .nullEngine))
    ⟨15, 5, false, 0, 2, 5, 0, 0, rfl⟩ (by decide +kernel)
  exact (h s hs).dereferenced (of_decide_eq_true hp)

end AjaSharedEngine
