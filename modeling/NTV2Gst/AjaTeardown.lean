import NTV2Gst.AjaTransitions

/-!
# Teardown against the capture thread

`stop` and `close` of the video source hold the lock of the input while `Quit` waits for
the capture thread, and on its way that thread takes the same lock in the audio callback.
A step is what one thread does up to the next point where another can get in between;
sections under the lock that do not wait are one step.
-/
namespace AjaTeardown

open TransitionRuns GstAjaModes AjaInput AjaInputSystem AjaTransitions

inductive Teardown where
  | stop | close
  deriving DecidableEq, Repr

/-- Where the application thread is; `waitLast` counts the sleeps in `Quit`, and `join` is
`StopACThread`. -/
inductive AppPc where
  | idle
  | wantLock (op : Teardown)
  | waitLast (op : Teardown) (sleeps : ℕ)
  | join (op : Teardown)
  deriving DecidableEq, Repr

/-- A captured frame; `mLastFrame` is read once for each of its two records. -/
structure Captured where
  haveSignal : Bool
  videoLast : Bool
  audioLast : Bool
  deriving DecidableEq, Repr

/-- Where the capture thread is in `ACInputWorker`. From `top` it tests `mGlobalQuit`, in
`audioTest` it is in the audio callback, before it reads whether audio is enabled. -/
inductive WorkerPc where
  | ended
  | top
  | iteration
  | transfer (haveSignal : Bool)
  | transferred (haveSignal videoLast : Bool)
  | videoCallback (f : Captured)
  | audioCallback (f : Captured)
  | audioTest (f : Captured)
  | wantLock (f : Captured)
  | holdsLock (f : Captured)
  | afterAudio (f : Captured)
  | nullVideo
  | nullAudio
  deriving DecidableEq, Repr

inductive Holder where
  | app | worker
  deriving DecidableEq, Repr

inductive Iteration where
  | frame (haveSignal : Bool)
  | noFrame (lost : Bool)
  deriving DecidableEq, Repr

structure LockState where
  input : GstAjaInput Element
  captures : Captures
  lock : Option Holder
  app : AppPc
  worker : WorkerPc
  mLastFrameVideoOut : Bool
  mLastFrameAudioOut : Bool
  deriving DecidableEq, Repr

inductive Event where
  | call (op : Teardown)
  | lock
  | waited
  | joined
  | worker (it : Iteration)
  | acquire
  | run
  | videoReadyToPaused
  | videoStart
  | audioReadyToPaused
  | audioStart
  | audioStop
  | audioClose
  deriving DecidableEq, Repr

def LockState.setEngine (s : LockState) (av : NTV2GstAV) : LockState :=
  { s with input := { s.input with ntv2AV := some av } }

/-! ## The application thread -/

/-- `stop` looks at `video_enabled` before it takes the lock. -/
def LockState.call (s : LockState) (op : Teardown) : Option LockState :=
  if s.app = .idle ∧ (op = .stop → s.input.videoEnabled = true) then
    some { s with app := .wantLock op }
  else none

/-- `Quit` from the end of its wait up to `StopACThread`. -/
def LockState.stopWorker (s : LockState) (av : NTV2GstAV) (op : Teardown) : LockState :=
  { s.setEngine { av with mGlobalQuit := true, mStarted := false } with app := .join op }

/-- The lock and the entry into `Quit`; only `close` copes with a missing engine. -/
def LockState.takeLock (s : LockState) : Option LockState :=
  match s.lock, s.app, s.input.ntv2AV with
  | none, .wantLock op, some av =>
    let s := { s with lock := some .app }
    some (if !av.mLastFrame && !av.mGlobalQuit then
      { s.setEngine { av with mLastFrame := true } with app := .waitLast op 0 }
    else s.stopWorker av op)
  | none, .wantLock .close, none => some { s with input := s.input.closeVideo, app := .idle }
  | _, _, _ => none

def quitTimeout : ℕ := 300

def LockState.waited (s : LockState) : Option LockState :=
  match s.app, s.input.ntv2AV with
  | .waitLast op sleeps, some av =>
    some (if s.mLastFrameVideoOut && s.mLastFrameAudioOut then s.stopWorker av op
    else if sleeps + 1 < quitTimeout then { s with app := .waitLast op (sleeps + 1) }
    else s.stopWorker av op)
  | _, _ => none

def LockState.outcome (s : LockState) (av : NTV2GstAV) :
    Teardown → GstAjaInput Element × Captures
  | .stop => ({ s.input with
      ntv2AV := some { (av.quit s.captures).1 with mVideoCallback := false }
      videoEnabled := false }, (av.quit s.captures).2)
  | .close => (s.input.closeVideo, av.delete s.captures)

/-- `StopACThread` finds the thread gone, and the rest of the call runs up to the unlock. -/
def LockState.joined (s : LockState) : Option LockState :=
  match s.app, s.input.ntv2AV with
  | .join op, some av =>
    if av.mACInputThread = none ∨ s.worker = .ended then
      some { s with
        lock := none
        app := .idle
        input := (s.outcome av op).1
        captures := (s.outcome av op).2 }
    else none
  | _, _ => none

/-! ## The capture thread -/

def LockState.workerStep (s : LockState) (av : NTV2GstAV) (it : Iteration) :
    Option LockState :=
  match s.worker with
  | .ended => none
  | .top => some { s with worker := if av.mGlobalQuit then .ended else .iteration }
  | .iteration =>
    match it with
    | .frame haveSignal => some { s with worker := .transfer haveSignal }
    | .noFrame lost =>
      if av.mLastFrame then
        some { s with
          worker := .ended
          mLastFrameVideoOut := true
          mLastFrameAudioOut := true }
      else some { s with worker := if lost then .nullVideo else .top }
  | .transfer haveSignal =>
    some { s with worker := .transferred haveSignal av.mLastFrame }
  | .transferred haveSignal videoLast =>
    some { s with worker := .videoCallback ⟨haveSignal, videoLast, av.mLastFrame⟩ }
  -- the video callback takes the lock of the source, not that of the input
  | .videoCallback f =>
    some { s with
      worker := .audioCallback f
      mLastFrameVideoOut := s.mLastFrameVideoOut || f.videoLast }
  | .audioCallback f =>
    some { s with worker := if av.mAudioCallback then .audioTest f else .afterAudio f }
  | .audioTest f =>
    some { s with
      worker := if s.input.audioEnabled && f.haveSignal then .wantLock f else .afterAudio f }
  | .wantLock f =>
    if s.lock = none then some { s with lock := some .worker, worker := .holdsLock f } else none
  | .holdsLock f => some { s with lock := none, worker := .afterAudio f }
  | .afterAudio f =>
    some { s with
      worker := .top
      mLastFrameAudioOut := s.mLastFrameAudioOut || f.audioLast }
  | .nullVideo => some { s with worker := .nullAudio }
  -- without a packet the audio callback needs no lock
  | .nullAudio => some { s with worker := .top }

/-! ## Other threads -/

def LockState.section (s : LockState) (f : NTV2GstAV → LockState) : Option LockState :=
  if s.lock = none then s.input.ntv2AV.map f else none

def LockState.run (s : LockState) (av : NTV2GstAV) : LockState :=
  { s with
    input := { s.input with started := true, ntv2AV := some (av.run s.captures).1 }
    captures := (av.run s.captures).2
    worker := .top
    mLastFrameVideoOut := false
    mLastFrameAudioOut := false }

def LockState.next (s : LockState) : Event → Option LockState
  | .call op => s.call op
  | .lock => s.takeLock
  | .waited => s.waited
  | .joined => s.joined
  | .worker it => s.input.ntv2AV.bind fun av => s.workerStep av it
  | .acquire =>
    if s.lock = none then
      some { s with
        input := s.input.withEngine s.captures.nextId
        captures := { s.captures with nextId := s.captures.nextId + 1 } }
    else none
  | .run =>
    if s.input.ntv2AV.any (·.mACInputThread.isNone) then s.section s.run else none
  | .videoReadyToPaused => s.section fun av => s.setEngine { av with mVideoCallback := true }
  | .videoStart =>
    s.section fun _ => { s with input := { s.input with videoEnabled := true } }
  | .audioReadyToPaused => s.section fun av => s.setEngine { av with mAudioCallback := true }
  | .audioStart => s.section fun _ => { s with input := { s.input with audioEnabled := true } }
  | .audioStop => s.section fun av =>
    let s := s.setEngine { av with mAudioCallback := false }
    { s with input := { s.input with audioEnabled := false } }
  | .audioClose =>
    if s.lock = none then some { s with input := s.input.closeAudio } else none

def LockState.start : LockState where
  input := .empty
  captures := .start
  lock := none
  app := .idle
  worker := .ended
  mLastFrameVideoOut := false
  mLastFrameAudioOut := false

def teardown : Machine LockState Event where
  initial s := s = .start
  next := LockState.next

/-! ## Deadlock -/

def AppPc.insideQuit : AppPc → Bool
  | .waitLast _ _ | .join _ => true
  | _ => false

/-- The application thread waits in `Quit` with the lock, and the capture thread waits for
the lock. -/
def Deadlocked (s : LockState) : Prop :=
  s.lock = some .app ∧ s.app.insideQuit = true ∧ ∃ f, s.worker = .wantLock f

def LockState.audioOn (s : LockState) : Bool :=
  s.input.audioEnabled && s.input.ntv2AV.any (·.mAudioCallback)

/-- The capture thread has a frame in hand that will make it take the lock, as long as
nobody turns audio off. -/
def LockState.boundForLock (s : LockState) : Bool :=
  match s.worker with
  | .transfer haveSignal | .transferred haveSignal _ => haveSignal && s.audioOn
  | .videoCallback f | .audioCallback f => f.haveSignal && s.audioOn
  | .audioTest f => f.haveSignal && s.input.audioEnabled
  | .wantLock _ => true
  | _ => false

/-- The lock is not taken for a teardown while the capture thread is on its way to it, and
with audio on no frame with signal is captured while it is held, whether the loop has found
`mGlobalQuit` set or was past that test before. -/
def Avoids (s : LockState) : Event → Prop
  | .lock => s.boundForLock = false
  | .worker (.frame true) =>
    ¬(s.lock = some .app ∧ s.worker = .iteration ∧ s.audioOn = true)
  | _ => True

instance (s : LockState) (e : Event) : Decidable (Avoids s e) := by
  unfold Avoids
  split <;> infer_instance

/-! ## Threads and lock -/

structure Sound (s : LockState) : Prop where
  thread : s.worker ≠ .ended →
    ∃ av, s.input.ntv2AV = some av ∧ av.mACInputThread.isSome = true
  inside : s.lock = some .app → s.app.insideQuit = true
  holder : ∀ f, s.worker = .holdsLock f → s.lock = some .worker

variable {s t : LockState}

theorem Sound.of_same (h : Sound s) (hw : t.worker = s.worker) (hl : t.lock = s.lock)
    (ha : t.app = s.app) (hav : ∀ a, s.input.ntv2AV = some a →
      ∃ b, t.input.ntv2AV = some b ∧ b.mACInputThread = a.mACInputThread) : Sound t := by
  refine ⟨?_, ?_, ?_⟩
  · intro hn
    obtain ⟨a, ha, hthread⟩ := h.thread (hw ▸ hn)
    obtain ⟨b, hb, hab⟩ := hav a ha
    exact ⟨b, hb, hab ▸ hthread⟩
  · intro hla
    rw [ha]
    exact h.inside (hl ▸ hla)
  · intro f hf
    rw [hl]
    exact h.holder f (hw ▸ hf)

theorem Sound.ended (h : Sound s) {av : NTV2GstAV} (hav : s.input.ntv2AV = some av)
    (hn : av.mACInputThread = none) : s.worker = .ended := by
  by_contra hw
  obtain ⟨a, ha, hthread⟩ := h.thread hw
  cases hav.symm.trans ha
  rw [hn] at hthread
  cases hthread

theorem Sound.ended_of_no_engine (h : Sound s) (hav : s.input.ntv2AV = none) :
    s.worker = .ended := by
  by_contra hw
  obtain ⟨a, ha, -⟩ := h.thread hw
  rw [hav] at ha
  cases ha

theorem section_some {f : NTV2GstAV → LockState} (h : s.section f = some t) :
    s.lock = none ∧ ∃ av, s.input.ntv2AV = some av ∧ t = f av := by
  unfold LockState.section at h
  split at h
  · obtain ⟨av, hav, rfl⟩ := Option.map_eq_some_iff.mp h
    exact ⟨‹_›, av, hav, rfl⟩
  · cases h

theorem take_lock_cases (h : s.takeLock = some t) :
    s.lock = none ∧ ∃ op, s.app = .wantLock op ∧
      ((∃ av, s.input.ntv2AV = some av ∧ ((av.mLastFrame = false ∧ av.mGlobalQuit = false ∧
          t = { s with
            lock := some .app
            app := .waitLast op 0
            input := { s.input with ntv2AV := some { av with mLastFrame := true } } }) ∨
        ((av.mLastFrame = true ∨ av.mGlobalQuit = true) ∧
          t = LockState.stopWorker { s with lock := some .app } av op))) ∨
      (s.input.ntv2AV = none ∧ op = .close ∧
        t = { s with input := s.input.closeVideo, app := .idle })) := by
  unfold LockState.takeLock at h
  split at h
  · rename_i op av hl ha hav
    refine ⟨hl, op, ha, Or.inl ⟨av, hav, ?_⟩⟩
    dsimp only at h
    split at h <;> cases h
    · rename_i hflags
      simp only [Bool.and_eq_true, Bool.not_eq_true'] at hflags
      exact Or.inl ⟨hflags.1, hflags.2, rfl⟩
    · rename_i hflags
      simp only [Bool.and_eq_true, Bool.not_eq_true', not_and_or, Bool.not_eq_false] at hflags
      exact Or.inr ⟨hflags, rfl⟩
  · rename_i hl ha hav
    cases h
    exact ⟨hl, .close, ha, Or.inr ⟨hav, rfl, rfl⟩⟩
  · cases h

theorem waited_cases (h : s.waited = some t) :
    ∃ op sleeps av, s.app = .waitLast op sleeps ∧ s.input.ntv2AV = some av ∧
      (t = s.stopWorker av op ∨ t = { s with app := .waitLast op (sleeps + 1) }) := by
  unfold LockState.waited at h
  split at h
  · refine ⟨_, _, _, ‹_›, ‹_›, ?_⟩
    repeat' split at h
    all_goals cases h
    · exact Or.inl rfl
    · exact Or.inr rfl
    · exact Or.inl rfl
  · cases h

theorem joined_cases (h : s.joined = some t) :
    ∃ op av, s.app = .join op ∧ s.input.ntv2AV = some av ∧
      (av.mACInputThread = none ∨ s.worker = .ended) ∧ t = { s with
        lock := none
        app := .idle
        input := (s.outcome av op).1
        captures := (s.outcome av op).2 } := by
  unfold LockState.joined at h
  split at h
  · split at h <;> cases h
    exact ⟨_, _, ‹_›, ‹_›, ‹_›, rfl⟩
  · cases h

theorem worker_step_frame {av : NTV2GstAV} {it : Iteration} (h : s.workerStep av it = some t) :
    t.input = s.input ∧ t.captures = s.captures ∧ t.app = s.app ∧ s.worker ≠ .ended := by
  unfold LockState.workerStep at h
  repeat' split at h
  all_goals first | contradiction | cases h
  all_goals exact ⟨rfl, rfl, rfl, by simp [*]⟩

theorem worker_step_lock {av : NTV2GstAV} {it : Iteration} (h : s.workerStep av it = some t) :
    (t.lock = s.lock ∧ (∀ f, s.worker ≠ .holdsLock f) ∧ ∀ f, t.worker ≠ .holdsLock f) ∨
      (s.lock = none ∧ t.lock = some .worker ∧ ∃ f, t.worker = .holdsLock f) ∨
      (∃ f, s.worker = .holdsLock f ∧ t.lock = none ∧ t.worker = .afterAudio f) := by
  unfold LockState.workerStep at h
  repeat' split at h
  all_goals first | contradiction | cases h
  all_goals first
    | exact Or.inr (Or.inl ⟨‹_›, rfl, _, rfl⟩)
    | exact Or.inr (Or.inr ⟨_, ‹_›, rfl, rfl⟩)
    | exact Or.inl ⟨rfl, by simp [*], by simp [*]⟩

theorem sound_worker {av : NTV2GstAV} {it : Iteration} (h : Sound s)
    (hs : s.workerStep av it = some t) : Sound t := by
  obtain ⟨hi, -, ha, hw⟩ := worker_step_frame hs
  refine ⟨fun _ => by rw [hi]; exact h.thread hw, ?_, ?_⟩
  · intro hl
    rw [ha]
    rcases worker_step_lock hs with ⟨hlock, -⟩ | ⟨-, hlock, -⟩ | ⟨f, -, hlock, -⟩
    · exact h.inside (hlock ▸ hl)
    · rw [hlock] at hl; cases hl
    · rw [hlock] at hl; cases hl
  · intro f hf
    rcases worker_step_lock hs with ⟨-, -, hno⟩ | ⟨-, hlock, -⟩ | ⟨f', -, -, hno⟩
    · exact absurd hf (hno f)
    · exact hlock
    · rw [hno] at hf; cases hf

theorem sound_start : Sound .start :=
  ⟨fun h => absurd rfl h, fun h => (by cases h), fun _ h => (by cases h)⟩

theorem sound_run (hl : s.lock = none) (av : NTV2GstAV) : Sound (s.run av) :=
  ⟨fun _ => ⟨_, rfl, rfl⟩, fun hla => absurd (hl.symm.trans hla) (by simp),
    fun _ hf => (by cases hf)⟩

theorem sound_take_lock (h : Sound s) (hs : s.takeLock = some t) : Sound t := by
  obtain ⟨hl, op, -, ⟨av, hav, hcase⟩ | ⟨hav, -, rfl⟩⟩ := take_lock_cases hs
  · have hthread : s.worker ≠ .ended → av.mACInputThread.isSome = true := by
      intro hw
      obtain ⟨a, ha, hsome⟩ := h.thread hw
      cases hav.symm.trans ha
      exact hsome
    have hfree : ∀ f, s.worker ≠ .holdsLock f := by
      intro f hf
      exact absurd (hl.symm.trans (h.holder f hf)) (by simp)
    rcases hcase with ⟨-, -, rfl⟩ | ⟨-, rfl⟩
    · exact ⟨fun hw => ⟨_, rfl, hthread hw⟩, fun _ => rfl, fun f hf => absurd hf (hfree f)⟩
    · exact ⟨fun hw => ⟨_, rfl, hthread hw⟩, fun _ => rfl, fun f hf => absurd hf (hfree f)⟩
  · exact ⟨fun hw => absurd (h.ended_of_no_engine hav) hw,
      fun hla => absurd (hl.symm.trans hla) (by simp), h.holder⟩

theorem sound_waited (h : Sound s) (hs : s.waited = some t) : Sound t := by
  obtain ⟨op, sleeps, av, -, hav, rfl | rfl⟩ := waited_cases hs
  · refine ⟨?_, fun _ => rfl, h.holder⟩
    intro hw
    obtain ⟨a, ha, hthread⟩ := h.thread hw
    cases hav.symm.trans ha
    exact ⟨_, rfl, hthread⟩
  · exact ⟨h.thread, fun _ => rfl, h.holder⟩

theorem sound_joined (h : Sound s) (hs : s.joined = some t) : Sound t := by
  obtain ⟨op, av, -, hav, hgone, rfl⟩ := joined_cases hs
  have hended : s.worker = .ended := hgone.elim (h.ended hav) id
  refine ⟨fun hn => absurd hended hn, fun hla => (by cases hla), ?_⟩
  intro f hf
  exact absurd (hended.symm.trans hf) (by simp)

theorem sound_section {f : NTV2GstAV → LockState} (h : Sound s) (hs : s.section f = some t)
    (hf : ∀ av, (f av).worker = s.worker ∧ (f av).lock = s.lock ∧ (f av).app = s.app)
    (hav : ∀ av, s.input.ntv2AV = some av → ∃ b, (f av).input.ntv2AV = some b ∧
      b.mACInputThread = av.mACInputThread) : Sound t := by
  obtain ⟨-, av, he, rfl⟩ := section_some hs
  obtain ⟨hw, hl, ha⟩ := hf av
  apply h.of_same hw hl ha
  intro a heq
  cases he.symm.trans heq
  exact hav av he

theorem sound_step {e : Event} (h : Sound s) (hs : s.next e = some t) : Sound t := by
  cases e with
  | call op =>
    simp only [LockState.next, LockState.call] at hs
    split at hs <;> cases hs
    rename_i hidle
    refine ⟨h.thread, ?_, h.holder⟩
    intro hla
    have := h.inside hla
    rw [hidle.1] at this
    cases this
  | lock => exact sound_take_lock h hs
  | waited => exact sound_waited h hs
  | joined => exact sound_joined h hs
  | worker it =>
    obtain ⟨av, -, hs⟩ := Option.bind_eq_some_iff.mp hs
    exact sound_worker h hs
  | acquire =>
    simp only [LockState.next] at hs
    split at hs <;> cases hs
    refine h.of_same rfl rfl rfl fun a ha => ⟨a, ?_, rfl⟩
    simp [GstAjaInput.withEngine, ha]
  | run =>
    simp only [LockState.next] at hs
    split at hs
    · obtain ⟨hl, av, -, rfl⟩ := section_some hs
      exact sound_run hl av
    · cases hs
  | videoReadyToPaused =>
    exact sound_section h hs (fun _ => ⟨rfl, rfl, rfl⟩) fun _ _ => ⟨_, rfl, rfl⟩
  | videoStart =>
    exact sound_section h hs (fun _ => ⟨rfl, rfl, rfl⟩) fun _ he => ⟨_, he, rfl⟩
  | audioReadyToPaused =>
    exact sound_section h hs (fun _ => ⟨rfl, rfl, rfl⟩) fun _ _ => ⟨_, rfl, rfl⟩
  | audioStart =>
    exact sound_section h hs (fun _ => ⟨rfl, rfl, rfl⟩) fun _ he => ⟨_, he, rfl⟩
  | audioStop =>
    exact sound_section h hs (fun _ => ⟨rfl, rfl, rfl⟩) fun _ _ => ⟨_, rfl, rfl⟩
  | audioClose =>
    simp only [LockState.next] at hs
    split at hs <;> cases hs
    exact h.of_same rfl rfl rfl fun a ha => ⟨a, ha, rfl⟩

/-- While the application holds the lock only the wait in `Quit`, its end and the capture
thread go on. -/
theorem step_while_held {e : Event} (h : Sound s) (hl : s.lock = some .app)
    (hs : s.next e = some t) : s.waited = some t ∨ s.joined = some t ∨
      ∃ it av, s.input.ntv2AV = some av ∧ s.workerStep av it = some t := by
  have hsection : ∀ {f : NTV2GstAV → LockState}, s.section f = some t → False := by
    intro f hf
    exact absurd ((section_some hf).1.symm.trans hl) (by simp)
  cases e with
  | waited => exact Or.inl hs
  | joined => exact Or.inr (Or.inl hs)
  | worker it =>
    obtain ⟨av, hav, hs⟩ := Option.bind_eq_some_iff.mp hs
    exact Or.inr (Or.inr ⟨it, av, hav, hs⟩)
  | call op =>
    simp only [LockState.next, LockState.call] at hs
    split at hs <;> cases hs
    rename_i hidle
    have := h.inside hl
    rw [hidle.1] at this
    cases this
  | lock => exact absurd ((take_lock_cases hs).1.symm.trans hl) (by simp)
  | acquire => simp only [LockState.next, hl, reduceCtorEq, if_false] at hs
  | audioClose => simp only [LockState.next, hl, reduceCtorEq, if_false] at hs
  | run =>
    simp only [LockState.next] at hs
    split at hs
    · exact (hsection hs).elim
    · cases hs
  | _ => exact (hsection hs).elim

theorem sound {allowed : LockState → Event → Prop} (h : ReachableWhile teardown allowed s) :
    Sound s :=
  h.invariant (fun _ hi => hi ▸ sound_start) fun _ _ _ hi _ hn => sound_step hi hn

/-! ## The way to the lock -/

theorem worker_step_bound {av : NTV2GstAV} {it : Iteration} (h : Sound s)
    (hl : s.lock = some .app) (hav : s.input.ntv2AV = some av)
    (hs : s.workerStep av it = some t) :
    t.lock = some .app ∧ (t.boundForLock = true ↔ s.boundForLock = true ∨
      (s.worker = .iteration ∧ it = .frame true ∧ s.audioOn = true)) := by
  have hno : ∀ f, s.worker ≠ .holdsLock f := fun f hf => by
    have := h.holder f hf
    rw [hl] at this
    cases this
  unfold LockState.workerStep at hs
  repeat' split at hs
  all_goals first | contradiction | cases hs
  all_goals simp_all [LockState.boundForLock, LockState.audioOn]
  -- audio is tested on a frame without signal, or is off
  intro hsignal
  by_contra hon
  simp_all

theorem bound_of_same_worker (hw : t.worker = s.worker)
    (hen : t.input.audioEnabled = s.input.audioEnabled)
    (hcb : t.input.ntv2AV.any (·.mAudioCallback) = s.input.ntv2AV.any (·.mAudioCallback)) :
    t.boundForLock = s.boundForLock := by
  simp only [LockState.boundForLock, LockState.audioOn, hw, hen, hcb]

theorem bound_stop_worker {av : NTV2GstAV} (hav : s.input.ntv2AV = some av) (op : Teardown) :
    (s.stopWorker av op).boundForLock = s.boundForLock :=
  bound_of_same_worker rfl rfl (by simp [LockState.stopWorker, LockState.setEngine, hav])

theorem take_lock_bound (h : Sound s) (hs : s.takeLock = some t) :
    t.boundForLock = s.boundForLock ∧ (t.lock = some .app ∨ s.boundForLock = false) := by
  obtain ⟨-, op, -, ⟨av, hav, ⟨-, -, rfl⟩ | ⟨-, rfl⟩⟩ | ⟨hav, -, rfl⟩⟩ := take_lock_cases hs
  · exact ⟨bound_of_same_worker rfl rfl (by simp [hav]), Or.inl rfl⟩
  · exact ⟨bound_stop_worker (s := { s with lock := some .app }) hav op, Or.inl rfl⟩
  · have hended := h.ended_of_no_engine hav
    have hb : s.boundForLock = false := by simp [LockState.boundForLock, hended]
    refine ⟨?_, Or.inr hb⟩
    rw [hb]
    simp [LockState.boundForLock, hended]

theorem held_step_cases {e : Event} (hs : s.next e = some t)
    (hl : t.lock = some .app) :
    (e = .lock ∧ s.takeLock = some t) ∨
      (s.lock = some .app ∧ ((∃ it av, e = .worker it ∧ s.input.ntv2AV = some av ∧
          s.workerStep av it = some t) ∨ t.boundForLock = s.boundForLock)) := by
  have hsection : ∀ {f : NTV2GstAV → LockState}, s.section f = some t →
      (∀ av, (f av).lock = s.lock) → False := by
    intro f hf hlock
    obtain ⟨hn, av, -, rfl⟩ := section_some hf
    rw [hlock, hn] at hl
    cases hl
  cases e with
  | call op =>
    simp only [LockState.next, LockState.call] at hs
    split at hs <;> cases hs
    exact Or.inr ⟨hl, Or.inr rfl⟩
  | lock => exact Or.inl ⟨rfl, hs⟩
  | waited =>
    obtain ⟨op, sleeps, av, -, hav, rfl | rfl⟩ := waited_cases hs
    · exact Or.inr ⟨hl, Or.inr (bound_stop_worker hav op)⟩
    · exact Or.inr ⟨hl, Or.inr rfl⟩
  | joined =>
    obtain ⟨op, av, -, -, -, rfl⟩ := joined_cases hs
    cases hl
  | worker it =>
    obtain ⟨av, hav, hs⟩ := Option.bind_eq_some_iff.mp hs
    refine Or.inr ⟨?_, Or.inl ⟨it, av, rfl, hav, hs⟩⟩
    rcases worker_step_lock hs with ⟨hlock, -⟩ | ⟨-, hlock, -⟩ | ⟨f, -, hlock, -⟩
    · exact hlock ▸ hl
    · rw [hlock] at hl; cases hl
    · rw [hlock] at hl; cases hl
  | acquire =>
    simp only [LockState.next] at hs
    split at hs <;> cases hs
    rename_i hn
    exact absurd (hn.symm.trans hl) (by simp)
  | run =>
    simp only [LockState.next] at hs
    split at hs
    · exact (hsection hs fun _ => rfl).elim
    · cases hs
  | audioClose =>
    simp only [LockState.next] at hs
    split at hs <;> cases hs
    rename_i hn
    exact absurd (hn.symm.trans hl) (by simp)
  | _ => exact (hsection hs fun _ => rfl).elim

/-- The application holds the lock, and the capture thread will not get past it. -/
def Doomed (s : LockState) : Prop := s.lock = some .app ∧ s.boundForLock = true

theorem avoids_of_not_doomed {e : Event} (h : Sound s) (hs : s.next e = some t)
    (ht : ¬Doomed t) : Avoids s e := by
  by_contra hno
  apply ht
  cases e with
  | lock =>
    have hb : s.boundForLock = true := by simpa [Avoids] using hno
    obtain ⟨hbound, hl | hfalse⟩ := take_lock_bound h hs
    · exact ⟨hl, hbound.trans hb⟩
    · rw [hb] at hfalse; cases hfalse
  | worker it =>
    obtain ⟨av, hav, hw⟩ := Option.bind_eq_some_iff.mp hs
    cases it with
    | frame haveSignal =>
      cases haveSignal with
      | false => exact absurd trivial hno
      | true =>
        obtain ⟨hl, hpc, hon⟩ := not_not.mp hno
        have hstep := worker_step_bound h hl hav hw
        exact ⟨hstep.1, hstep.2.mpr (Or.inr ⟨hpc, rfl, hon⟩)⟩
    | noFrame lost => exact absurd trivial hno
  | _ => exact absurd trivial hno

theorem not_doomed_of_avoids {e : Event} (h : Sound s) (hf : ¬Doomed s)
    (hs : s.next e = some t) (ha : Avoids s e) : ¬Doomed t := by
  rintro ⟨hl, hb⟩
  rcases held_step_cases hs hl with ⟨rfl, htake⟩ | ⟨hls, ⟨it, av, rfl, hav, hw⟩ | hsame⟩
  · have hfalse : s.boundForLock = false := ha
    rw [← (take_lock_bound h htake).1, hb] at hfalse
    cases hfalse
  · rcases (worker_step_bound h hls hav hw).2.mp hb with hbound | ⟨hpc, rfl, hon⟩
    · exact hf ⟨hls, hbound⟩
    · exact ha ⟨hls, hpc, hon⟩
  · exact hf ⟨hls, hsame ▸ hb⟩

theorem doomed_of_deadlocked (h : Deadlocked s) : Doomed s := by
  obtain ⟨hl, -, f, hw⟩ := h
  exact ⟨hl, by simp [LockState.boundForLock, hw]⟩

theorem worker_of_doomed (hd : Doomed s) : s.worker ≠ .ended := by
  intro hw
  have hb := hd.2
  simp [LockState.boundForLock, hw] at hb

theorem doomed_step {e : Event} (h : Sound s) (hd : Doomed s) (hs : s.next e = some t) :
    Doomed t := by
  rcases step_while_held h hd.1 hs with hs | hs | ⟨it, av, hav, hs⟩
  · obtain ⟨op, sleeps, av, -, hav, rfl | rfl⟩ := waited_cases hs
    · exact ⟨hd.1, (bound_stop_worker hav op).trans hd.2⟩
    · exact hd
  · obtain ⟨op, av, -, hav, hgone, -⟩ := joined_cases hs
    exact absurd (hgone.elim (h.ended hav) id) (worker_of_doomed hd)
  · have hstep := worker_step_bound h hd.1 hav hs
    exact ⟨hstep.1, hstep.2.mpr (Or.inl hd.2)⟩

theorem doomed_forever {allowed : LockState → Event → Prop} (h : Sound s) (hd : Doomed s)
    (he : Execution teardown allowed s t) : Sound t ∧ Doomed t :=
  he.invariant (I := fun s => Sound s ∧ Doomed s) ⟨h, hd⟩
    fun _ _ _ hi _ hn => ⟨sound_step hi.1 hn, doomed_step hi.1 hi.2 hn⟩

def WorkerPc.toLock : WorkerPc → ℕ
  | .transfer _ => 5
  | .transferred _ _ => 4
  | .videoCallback _ => 3
  | .audioCallback _ => 2
  | .audioTest _ => 1
  | _ => 0

theorem doomed_advances (h : Sound s) (hd : Doomed s) (hw : ∀ f, s.worker ≠ .wantLock f) :
    ∃ t, s.next (.worker (.noFrame false)) = some t ∧ t.worker.toLock < s.worker.toLock := by
  obtain ⟨av, hav, -⟩ := h.thread (worker_of_doomed hd)
  have hb := hd.2
  simp only [LockState.next, hav, Option.bind_some, LockState.workerStep]
  cases hpc : s.worker <;> simp only [LockState.boundForLock, hpc, LockState.audioOn, hav,
    Option.any_some, Bool.and_eq_true, Bool.false_eq_true] at hb
  case transfer haveSignal => exact ⟨_, rfl, by simp [WorkerPc.toLock]⟩
  case transferred haveSignal videoLast => exact ⟨_, rfl, by simp [WorkerPc.toLock]⟩
  case videoCallback f => exact ⟨_, rfl, by simp [WorkerPc.toLock]⟩
  case audioCallback f => exact ⟨_, rfl, by simp [hb.2.2, WorkerPc.toLock]⟩
  case audioTest f => exact ⟨_, rfl, by simp [hb.1, hb.2, WorkerPc.toLock]⟩
  case wantLock f => exact absurd hpc (hw f)

def InHand (_ : LockState) (e : Event) : Prop := e = .worker (.noFrame false)

theorem doomed_reaches_deadlock (h : Sound s) (hd : Doomed s) :
    ∃ t, Execution teardown InHand s t ∧ Deadlocked t := by
  induction hn : s.worker.toLock using Nat.strong_induction_on generalizing s with
  | _ n ih =>
    by_cases hw : ∃ f, s.worker = .wantLock f
    · exact ⟨s, .refl s, hd.1, h.inside hd.1, hw⟩
    · obtain ⟨t, ht, hlt⟩ := doomed_advances h hd fun f hf => hw ⟨f, hf⟩
      obtain ⟨u, hu, hdead⟩ := ih _ (hn ▸ hlt) (sound_step h ht) (doomed_step h hd ht) rfl
      have hstep : Execution teardown InHand s t :=
        .tail (.refl s) (show InHand s (.worker (.noFrame false)) from rfl) ht
      exact ⟨u, hstep.trans hu, hdead⟩

theorem not_doomed_in_hand (h : Sound s) (hd : ¬Doomed s) (he : Execution teardown InHand s t) :
    ¬Doomed t := by
  have hboth : Sound t ∧ ¬Doomed t := by
    refine he.invariant (I := fun s => Sound s ∧ ¬Doomed s) ⟨h, hd⟩ ?_
    rintro a e b ⟨hi, hno⟩ rfl hn
    have hn : a.next (.worker (.noFrame false)) = some b := hn
    exact ⟨sound_step hi hn, not_doomed_of_avoids hi hno hn trivial⟩
  exact hboth.2

/-! ## A teardown as one step -/

structure Settled (op : Teardown) (result : GstAjaInput Element × Captures) (s : LockState) :
    Prop where
  lock : s.lock = some .app
  engine : ∃ av, s.input.ntv2AV = some av ∧ s.outcome av op = result ∧
    ((∃ sleeps, s.app = .waitLast op sleeps ∧ av.mLastFrame = true) ∨ s.app = .join op)

theorem outcome_stop_worker {av : NTV2GstAV}
    (h : av.mLastFrame = true ∨ av.mGlobalQuit = true) (op op' : Teardown) :
    (s.stopWorker av op').outcome { av with mGlobalQuit := true, mStarted := false } op =
      s.outcome av op := by
  cases op <;> cases hl : av.mLastFrame <;> cases hg : av.mGlobalQuit <;>
    simp_all [LockState.outcome, LockState.stopWorker, LockState.setEngine, NTV2GstAV.quit,
      NTV2GstAV.delete, GstAjaInput.closeVideo]

theorem settled_take_lock {av : NTV2GstAV} {op : Teardown} (hav : s.input.ntv2AV = some av)
    (happ : s.app = .wantLock op) (hs : s.takeLock = some t) : Settled op (s.outcome av op) t := by
  obtain ⟨-, op', happ', ⟨a, ha, ⟨hlast, hquit, rfl⟩ | ⟨hflags, rfl⟩⟩ | ⟨hn, -⟩⟩ :=
    take_lock_cases hs
  · cases happ.symm.trans happ'
    cases hav.symm.trans ha
    refine ⟨rfl, _, rfl, ?_, Or.inl ⟨0, rfl, rfl⟩⟩
    cases op <;> simp [LockState.outcome, NTV2GstAV.quit, NTV2GstAV.delete, hlast, hquit,
      GstAjaInput.closeVideo]
  · cases happ.symm.trans happ'
    cases hav.symm.trans ha
    exact ⟨rfl, _, rfl, outcome_stop_worker (s := { s with lock := some .app }) hflags op op,
      Or.inr rfl⟩
  · rw [hav] at hn; cases hn

theorem outcome_of_same (hi : t.input = s.input) (hc : t.captures = s.captures)
    (av : NTV2GstAV) (op : Teardown) : t.outcome av op = s.outcome av op := by
  cases op <;> simp only [LockState.outcome, hi, hc]

theorem settled_step {op : Teardown} {result : GstAjaInput Element × Captures} {e : Event}
    (hsound : Sound s) (h : Settled op result s) (hs : s.next e = some t) :
    Settled op result t ∨ (t.lock = none ∧ (t.input, t.captures) = result) := by
  obtain ⟨hl, av, hav, hresult, happ⟩ := h
  rcases step_while_held hsound hl hs with hs | hs | ⟨it, a, -, hs⟩
  · obtain ⟨op', sleeps, av', happ', hav', hcase⟩ := waited_cases hs
    cases hav.symm.trans hav'
    rcases happ with ⟨sleeps', happ, hlast⟩ | happ
    · cases happ.symm.trans happ'
      rcases hcase with rfl | rfl
      · exact Or.inl ⟨hl, _, rfl, (outcome_stop_worker (Or.inl hlast) op op).trans hresult,
          Or.inr rfl⟩
      · exact Or.inl ⟨hl, av, hav, hresult, Or.inl ⟨_, rfl, hlast⟩⟩
    · cases happ.symm.trans happ'
  · obtain ⟨op', av', happ', hav', -, rfl⟩ := joined_cases hs
    cases hav.symm.trans hav'
    rcases happ with ⟨sleeps, happ, -⟩ | happ
    · cases happ.symm.trans happ'
    · cases happ.symm.trans happ'
      exact Or.inr ⟨rfl, hresult⟩
  · obtain ⟨hi, hc, ha, -⟩ := worker_step_frame hs
    have hlock : t.lock = some .app := by
      rcases worker_step_lock hs with ⟨hsame, -⟩ | ⟨hn, -⟩ | ⟨f, hf, -⟩
      · exact hsame.trans hl
      · exact absurd (hn.symm.trans hl) (by simp)
      · exact absurd ((hsound.holder f hf).symm.trans hl) (by simp)
    exact Or.inl ⟨hlock, av, hi ▸ hav, (outcome_of_same hi hc av op).trans hresult,
      by rw [ha]; exact happ⟩

/-- However the capture thread gets in between, a call that returns has done what it would
have done at once. -/
theorem teardown_outcome {u v : LockState} {op : Teardown} {av : NTV2GstAV} (h : Sound s)
    (happ : s.app = .wantLock op) (hav : s.input.ntv2AV = some av) (ht : s.takeLock = some t)
    (he : Execution teardown (fun a _ => a.lock = some .app) t u) (hu : u.lock = some .app)
    (hv : u.joined = some v) : (v.input, v.captures) = s.outcome av op := by
  have hall : Sound u ∧ (u.lock = some .app → Settled op (s.outcome av op) u) := by
    refine he.invariant
      (I := fun u => Sound u ∧ (u.lock = some .app → Settled op (s.outcome av op) u))
      ⟨sound_take_lock h ht, fun _ => settled_take_lock hav happ ht⟩ ?_
    rintro a e b ⟨hsound, hi⟩ hl hn
    refine ⟨sound_step hsound hn, ?_⟩
    intro hlb
    rcases settled_step hsound (hi hl) hn with hset | ⟨hnone, -⟩
    · exact hset
    · rw [hnone] at hlb; cases hlb
  rcases settled_step (e := .joined) hall.1 (hall.2 hu) hv with hset | ⟨-, hresult⟩
  · obtain ⟨_, _, -, -, -, rfl⟩ := joined_cases hv
    cases hset.lock
  · exact hresult

theorem video_stop_outcome {sys sys' : System} {av : NTV2GstAV}
    (hi : s.input = sys.input) (hc : s.captures = sys.captures)
    (hav : sys.input.ntv2AV = some av)
    (hon : sys.video.hasInput = true ∧ sys.input.videoEnabled = true)
    (hs : sys.videoStop = some sys') : (sys'.input, sys'.captures) = s.outcome av .stop := by
  obtain ⟨-, -, ⟨hoff, -⟩ | ⟨hn, -⟩ | ⟨av', hav', rfl⟩⟩ := video_stop_cases hs
  · simp [hon] at hoff
  · rw [hav] at hn; cases hn
  · cases hav.symm.trans hav'
    simp only [LockState.outcome, hi, hc]

theorem video_close_outcome {sys sys' : System} {av : NTV2GstAV}
    (hi : s.input = sys.input) (hc : s.captures = sys.captures)
    (hav : sys.input.ntv2AV = some av) (hon : sys.video.hasInput = true)
    (hs : sys.videoClose = some sys') : (sys'.input, sys'.captures) = s.outcome av .close := by
  obtain ⟨-, ⟨hoff, -⟩ | ⟨-, rfl⟩⟩ := video_close_cases hs
  · rw [hon] at hoff; cases hoff
  · simp only [LockState.outcome, hi, hc, hav]

/-! ## Every run -/

theorem not_doomed (h : ReachableWhile teardown Avoids s) : ¬Doomed s := by
  have hboth : Sound s ∧ ¬Doomed s := by
    refine h.invariant (I := fun s => Sound s ∧ ¬Doomed s)
      (fun _ hi => hi ▸ ⟨sound_start, fun hd => (by cases hd.1)⟩) ?_
    intro _ _ _ hi ha hn
    exact ⟨sound_step hi.1 hn, not_doomed_of_avoids hi.1 hi.2 hn ha⟩
  exact hboth.2

/-- A teardown that runs into the capture thread never returns. -/
theorem teardown_never_returns {allowed : LockState → Event → Prop} (h : Reachable teardown s)
    (hd : Deadlocked s) (he : Execution teardown allowed s t) :
    t.lock = some .app ∧ t.app.insideQuit = true := by
  obtain ⟨hsound, hdoomed⟩ := doomed_forever (sound h) (doomed_of_deadlocked hd) he
  exact ⟨hdoomed.1, hsound.inside hdoomed.1⟩

/-- No deadlock as long as the two threads keep out of each other's way; the first step that
does not leaves the capture thread with a frame that leads to one. -/
theorem teardown_without_deadlock (h : ReachableWhile teardown Avoids s) :
    ¬Deadlocked s ∧ ∀ e t, teardown.next s e = some t →
      (Avoids s e ↔ ¬∃ u, Execution teardown InHand t u ∧ Deadlocked u) := by
  refine ⟨fun hd => not_doomed h (doomed_of_deadlocked hd), fun e t hn => ⟨?_, ?_⟩⟩
  · rintro ha ⟨u, hu, hdead⟩
    have ht := not_doomed_of_avoids (sound h) (not_doomed h) hn ha
    exact not_doomed_in_hand (sound_step (sound h) hn) ht hu (doomed_of_deadlocked hdead)
  · intro hno
    by_contra ha
    have hd : Doomed t := by
      by_contra hd
      exact ha (avoids_of_not_doomed (sound h) hn hd)
    exact hno (doomed_reaches_deadlock (sound_step (sound h) hn) hd)

def untilStop : List Event :=
  [.acquire, .videoReadyToPaused, .audioReadyToPaused, .videoStart, .audioStart, .run,
    .call .stop]

theorem teardown_without_deadlock_stop : ∃ s : LockState,
    (s.app = .idle ∧ s.input.videoEnabled = false) ∧ ¬Deadlocked s ∧
    ∀ e t, teardown.next s e = some t →
      (Avoids s e ↔ ¬∃ u, Execution teardown InHand t u ∧ Deadlocked u) := by
  obtain ⟨s, hs, hp⟩ := reachable_while_of_trace (m := teardown) (a := Avoids) (i := .start)
    (l := untilStop ++ [.worker (.noFrame false), .worker (.frame true)] ++
      List.replicate 9 (.worker (.noFrame false)) ++
      [.lock, .worker (.noFrame false), .waited, .joined])
    (p := fun s => decide (s.app = .idle ∧ s.input.videoEnabled = false))
    rfl (by decide +kernel)
  exact ⟨s, of_decide_eq_true hp, teardown_without_deadlock hs⟩

/-- `stop` takes the lock while the capture thread is about to hand a packet over, and gets
to `StopACThread` after the timeout. -/
theorem stop_deadlocks : ¬∀ s, Reachable teardown s → ¬Deadlocked s := by
  intro h
  obtain ⟨s, hs, hp⟩ := reachable_of_trace (m := teardown) (i := .start)
    (l := untilStop ++ [.worker (.noFrame false), .worker (.frame true)] ++
      List.replicate 3 (.worker (.noFrame false)) ++ [.lock, .worker (.noFrame false),
        .worker (.noFrame false)] ++ List.replicate 300 .waited)
    (p := fun s => decide (s.lock = some .app ∧ s.app = .join .stop ∧
      s.worker = .wantLock ⟨true, false, false⟩))
    rfl (by decide +kernel)
  obtain ⟨hl, ha, hw⟩ := of_decide_eq_true hp
  exact h s hs ⟨hl, by rw [ha]; rfl, _, hw⟩

end AjaTeardown
