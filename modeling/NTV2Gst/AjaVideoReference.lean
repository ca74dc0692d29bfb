import NTV2Gst.AjaAudioSrc
import NTV2Gst.TransitionRuns

/-!
# References of the audio path on the video source

The audio source takes a reference on the video source of its input for as long as it reads
its times, and when it checks that there is one. All other references belong to the
application with its pipeline, or to the input, from opening to closing.
-/
namespace AjaVideoReference

open AjaAudioSrc AjaVideoSrc GstAjaModes GstClockMath TransitionRuns

inductive RefAction where
  | ref | unref
  deriving DecidableEq, Repr

def RefAction.apply (refcount : ℕ) : RefAction → ℕ
  | .ref => refcount + 1
  | .unref => refcount - 1

def applyAll (refcount : ℕ) (actions : List RefAction) : ℕ := actions.foldl RefAction.apply refcount

/-- What `got_packet` does to the references of the video source, exit by exit. -/
def gotPacketActions (videosrc : Option GstAjaVideoSrc) (mode : GstAjaMode)
    (audioBuff : Option AjaAudioBuff) : List RefAction :=
  match audioBuff.filter (·.haveSignal) with
  | none => []
  | some b =>
    match videosrc with
    | none => []
    | some v =>
      .ref ::
        -- a failed assertion ends the process
        if v.firstTime = clockTimeNone then []
        else if v.skips (v.streamTime mode b.frameNumber) then []
        else [.unref]

/-- The check on READY to PAUSED, whether or not it finds a video source. -/
def readyToPausedActions (videosrc : Option GstAjaVideoSrc) : List RefAction :=
  match videosrc with
  | none => []
  | some _ => [.ref, .unref]

/-- The reference count of the video source, with what it is made of, and both elements;
`registered` is the input's slot. -/
structure Elements where
  refcount : ℕ
  application : ℕ
  registered : Bool
  audiosrc : GstAjaAudioSrc
  videosrc : GstAjaVideoSrc
  deriving DecidableEq, Repr

def Elements.inputVideosrc (s : Elements) : Option GstAjaVideoSrc :=
  if s.registered then some s.videosrc else none

/-- Everything the other threads and the application do to the elements is in the two events
that replace their fields. -/
inductive Event where
  | ref
  | unref
  | openVideo
  | closeVideo
  | changeVideo (videosrc : GstAjaVideoSrc)
  | changeAudio (audiosrc : GstAjaAudioSrc)
  | gotPacket (mode : GstAjaMode) (audioBuff : Option AjaAudioBuff)
  | readyToPaused
  deriving DecidableEq, Repr

def Elements.next (s : Elements) : Event → Option Elements
  | .ref =>
    if 0 < s.application then
      some { s with refcount := s.refcount + 1, application := s.application + 1 }
    else none
  | .unref =>
    if 0 < s.application then
      some { s with refcount := s.refcount - 1, application := s.application - 1 }
    else none
  | .openVideo =>
    if 0 < s.application ∧ s.registered = false then
      some { s with refcount := s.refcount + 1, registered := true }
    else none
  | .closeVideo =>
    if s.registered then some { s with refcount := s.refcount - 1, registered := false } else none
  | .changeVideo videosrc => some { s with videosrc := videosrc }
  | .changeAudio audiosrc => some { s with audiosrc := audiosrc }
  | .gotPacket mode audioBuff =>
    (s.audiosrc.gotPacket s.inputVideosrc mode audioBuff).map fun audiosrc =>
      { s with
        refcount := applyAll s.refcount (gotPacketActions s.inputVideosrc mode audioBuff)
        audiosrc := audiosrc }
  | .readyToPaused =>
    let audiosrc := { s.audiosrc with hadSignal := false }
    some { s with
      refcount := applyAll s.refcount (readyToPausedActions s.inputVideosrc)
      audiosrc := if s.inputVideosrc.isSome then audiosrc.readyToPaused else audiosrc }

structure New (s : Elements) : Prop where
  refcount : s.refcount = s.application
  registered : s.registered = false

def elements : Machine Elements Event where
  initial := New
  next := Elements.next

/-- The references that somebody else is going to drop. -/
def Elements.owned (s : Elements) : ℕ := s.application + if s.registered then 1 else 0

/-- The audio path holds nothing, so an element that is closed is finalized with the last
reference of the application. -/
structure Released (s : Elements) : Prop where
  none_held : s.refcount = s.owned
  finalized : s.registered = false → s.application = 0 → s.refcount = 0

def skipsPacket (videosrc : Option GstAjaVideoSrc) (mode : GstAjaMode)
    (audioBuff : Option AjaAudioBuff) : Bool :=
  match audioBuff.filter (·.haveSignal), videosrc with
  | some b, some v =>
    v.firstTime ≠ clockTimeNone && v.skips (v.streamTime mode b.frameNumber)
  | _, _ => false

def Skips (s : Elements) : Event → Prop
  | .gotPacket mode audioBuff => skipsPacket s.inputVideosrc mode audioBuff = true
  | _ => False

instance (s : Elements) (e : Event) : Decidable (Skips s e) := by
  cases e <;> unfold Skips <;> infer_instance

/-! ## One packet -/

section Packet

variable {videosrc : Option GstAjaVideoSrc} {mode : GstAjaMode} {audioBuff : Option AjaAudioBuff}
  {src : GstAjaAudioSrc}

/-- The exit for a skipped packet is the only one, short of the assertion, that keeps the
reference. -/
theorem got_packet_balance (h : (src.gotPacket videosrc mode audioBuff).isSome) (n : ℕ) :
    applyAll n (gotPacketActions videosrc mode audioBuff) =
      n + if skipsPacket videosrc mode audioBuff then 1 else 0 := by
  unfold gotPacketActions skipsPacket
  cases hb : audioBuff.filter (·.haveSignal) with
  | none => simp [applyAll]
  | some b =>
    cases videosrc with
    | none => simp [applyAll]
    | some v =>
      by_cases hf : v.firstTime = clockTimeNone
      · cases audioBuff <;> simp [GstAjaAudioSrc.gotPacket, GstAjaAudioSrc.gotPacketPrepare, hb, hf]
          at h
      · by_cases hs : v.skips (v.streamTime mode b.frameNumber) = true
        · simp [applyAll, RefAction.apply, hf, hs]
        · simp [applyAll, RefAction.apply, hf, hs]

theorem got_packet_of_skips (src : GstAjaAudioSrc)
    (h : skipsPacket videosrc mode audioBuff = true) :
    (src.gotPacket videosrc mode audioBuff).isSome := by
  unfold skipsPacket at h
  split at h
  case h_1 b v hb =>
    obtain ⟨hf, hs⟩ := Bool.and_eq_true_iff.mp h
    have hf' : v.firstTime ≠ clockTimeNone := by simpa using hf
    cases audioBuff with
    | none => cases hb
    | some b' => simp [GstAjaAudioSrc.gotPacket, GstAjaAudioSrc.gotPacketPrepare, hb, hf', hs]
  case h_2 => cases h

theorem ready_to_paused_balance (n : ℕ) : applyAll n (readyToPausedActions videosrc) = n := by
  cases videosrc <;> rfl

end Packet

/-! ## Runs -/

section Runs

variable {s t : Elements} {e : Event}

theorem released_iff (s : Elements) : Released s ↔ s.refcount = s.owned := by
  refine ⟨Released.none_held, fun h => ⟨h, ?_⟩⟩
  intro hr ha
  rw [h, Elements.owned, hr, ha]
  rfl

theorem released_new (h : New s) : Released s := by
  rw [released_iff, Elements.owned, h.registered, h.refcount]
  rfl

theorem packet_step_balance {mode : GstAjaMode} {audioBuff : Option AjaAudioBuff}
    (h : s.refcount = s.owned) (hs : s.next (.gotPacket mode audioBuff) = some t) :
    t.refcount = t.owned + if skipsPacket s.inputVideosrc mode audioBuff then 1 else 0 := by
  obtain ⟨a, ha, hs⟩ := Option.map_eq_some_iff.mp hs
  cases hs
  have hsome : (s.audiosrc.gotPacket s.inputVideosrc mode audioBuff).isSome := by
    rw [ha]
    rfl
  rw [got_packet_balance hsome, h]
  rfl

theorem step_released (h : s.refcount = s.owned) (hs : s.next e = some t) (hk : ¬ Skips s e) :
    t.refcount = t.owned := by
  cases e with
  | ref =>
    obtain ⟨ha, hs⟩ := Option.ite_none_right_eq_some.mp hs
    cases hs
    simp only [Elements.owned] at h ⊢
    omega
  | unref =>
    obtain ⟨ha, hs⟩ := Option.ite_none_right_eq_some.mp hs
    cases hs
    simp only [Elements.owned] at h ⊢
    omega
  | openVideo =>
    obtain ⟨⟨-, hr⟩, hs⟩ := Option.ite_none_right_eq_some.mp hs
    cases hs
    simp only [Elements.owned, hr, Bool.false_eq_true, if_false, if_true] at h ⊢
    omega
  | closeVideo =>
    obtain ⟨hr, hs⟩ := Option.ite_none_right_eq_some.mp hs
    cases hs
    simp only [Elements.owned, hr, Bool.false_eq_true, if_false, if_true] at h ⊢
    omega
  | changeVideo v =>
    cases hs
    exact h
  | changeAudio a =>
    cases hs
    exact h
  | gotPacket mode audioBuff =>
    have hkeeps : ¬ skipsPacket s.inputVideosrc mode audioBuff = true := hk
    rw [packet_step_balance h hs, if_neg hkeeps, Nat.add_zero]
  | readyToPaused =>
    cases hs
    rw [ready_to_paused_balance]
    exact h

theorem skip_keeps_reference (h : s.refcount = s.owned) (hk : Skips s e) :
    ∃ t, s.next e = some t ∧ t.refcount = t.owned + 1 := by
  cases e with
  | gotPacket mode audioBuff =>
    obtain ⟨a, ha⟩ := Option.isSome_iff_exists.mp (got_packet_of_skips s.audiosrc hk)
    have hs : s.next (.gotPacket mode audioBuff) = some { s with
        refcount := applyAll s.refcount (gotPacketActions s.inputVideosrc mode audioBuff)
        audiosrc := a } := by
      rw [Elements.next, ha, Option.map_some]
    have hskips : skipsPacket s.inputVideosrc mode audioBuff = true := hk
    refine ⟨_, hs, ?_⟩
    rw [packet_step_balance h hs, if_pos hskips]
  | _ => exact hk.elim

theorem run_released {i : Elements} {events : List Event} (hi : i.refcount = i.owned)
    (hr : runTrace elements i events = some t)
    (hk : Throughout elements (fun s e => ¬ Skips s e) i events) : t.refcount = t.owned := by
  apply (execution_of_trace hr hk).invariant hi
  intro s e u hs hskips hn
  exact step_released hs hn hskips

end Runs

/-- After every call of a run the audio path has dropped what it took, unless a packet of the
run is skipped. -/
theorem released_throughout_iff (i : Elements) (events : List Event) (hi : New i) :
    (∀ done rest s, events = done ++ rest → runTrace elements i done = some s → Released s) ↔
      ∀ done e rest s, events = done ++ e :: rest → runTrace elements i done = some s →
        ¬ Skips s e := by
  have hfirst := (released_new hi).none_held
  constructor
  · intro h done e rest s hevents hs hk
    have hbefore := h done (e :: rest) s hevents hs
    obtain ⟨t, ht, hkept⟩ := skip_keeps_reference hbefore.none_held hk
    have hafter := h (done ++ [e]) rest t (by simp [hevents]) (run_trace_concat hs ht)
    have hnone := hafter.none_held
    omega
  · rintro h done rest s rfl hs
    rw [released_iff]
    exact run_released hfirst hs (Throughout.before h)

def newElements : Elements where
  refcount := 1
  application := 1
  registered := false
  audiosrc := .init 8 5 40000000 1000000000
  videosrc := .init 15 5 false 5000000000

def quietRun : List Event :=
  [.openVideo, .readyToPaused, .gotPacket mode720p5994 none,
    .changeVideo { newElements.videosrc with firstTime := 1000, discontTime := 6000000000 },
    .gotPacket mode720p5994 (some ⟨0, 1600, 0, true, 1, 0, false⟩), .closeVideo, .unref]

theorem quiet_run_released :
    ∃ s, runTrace elements newElements quietRun = some s ∧ Released s := by
  have hreleased := (released_throughout_iff newElements quietRun ⟨rfl, rfl⟩).mpr
    (throughout_of_runs_while (m := elements) (a := fun s e => ¬ Skips s e) (by decide +kernel))
  exact ⟨_, rfl, hreleased quietRun [] _ (List.append_nil _).symm rfl⟩

/-- The first packet of a stream that skips its start keeps the video source alive. -/
theorem skipped_packet_keeps : ¬ ∀ i events, New i → ∀ done rest s, events = done ++ rest →
    runTrace elements i done = some s → Released s := by
  intro h
  have hr := h newElements
    [.openVideo,
      .changeVideo { newElements.videosrc with firstTime := 1000, discontTime := 1000 },
      .gotPacket mode720p5994 (some ⟨0, 1600, 0, true, 1, 0, false⟩), .closeVideo, .unref]
    ⟨rfl, rfl⟩ _ [] _ (List.append_nil _).symm rfl
  exact absurd (hr.finalized rfl rfl) (by decide)

end AjaVideoReference
