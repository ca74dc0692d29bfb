import NTV2Gst.AjaVideoSetup
import NTV2Gst.TransitionRuns

/-!
# The timecode source of a frame

The property `timecode-mode` becomes an index of SDI input 1 or of an analog input. The
capture worker re-reads that index at the top of each iteration, and turns it into an index
of its own channel when it has changed. A re-read is one step here; the property may be
written between any two steps.
-/
namespace AjaTimecodeSource

open AjaVideoSetup TransitionRuns

inductive GstAjaTimecodeMode where
  | vitc1 | vitc2 | analogLtc1 | analogLtc2 | atcLtc
  deriving DecidableEq, Repr

/-- `SDIn`, `SDIn_2` and `SDIn_LTC` for each input, and the two analog indices. -/
inductive NTV2TCIndex where
  | sdi (input : NTV2Channel)
  | sdi2 (input : NTV2Channel)
  | sdiLtc (input : NTV2Channel)
  | ltc1
  | ltc2
  deriving DecidableEq, Repr

/-- The switch in `open`, and its copy in `set_property`. -/
def GstAjaTimecodeMode.tcIndex : GstAjaTimecodeMode → NTV2TCIndex
  | .vitc1 => .sdi 0
  | .vitc2 => .sdi2 0
  | .analogLtc1 => .ltc1
  | .analogLtc2 => .ltc2
  | .atcLtc => .sdiLtc 0

def selectTcIndex (mInputChannel : NTV2Channel) (mTimecodeMode : NTV2TCIndex) : NTV2TCIndex :=
  if mTimecodeMode = .ltc1 ∨ mTimecodeMode = .ltc2 then mTimecodeMode
  else if mTimecodeMode = .sdi 0 then .sdiLtc mInputChannel
  else if mTimecodeMode = .sdiLtc 0 then .sdiLtc mInputChannel
  else .sdi2 mInputChannel

/-- The locals of the worker; `reading` from a re-read to the frame of that iteration. -/
structure ACInputWorker where
  configuredTcIndex : Option NTV2TCIndex
  tcIndex : Option NTV2TCIndex
  reading : Bool
  deriving DecidableEq, Repr

def ACInputWorker.start : ACInputWorker := ⟨none, none, false⟩

def ACInputWorker.reread (w : ACInputWorker) (mInputChannel : NTV2Channel)
    (mTimecodeMode : NTV2TCIndex) : ACInputWorker :=
  if w.configuredTcIndex = none ∨ w.configuredTcIndex ≠ some mTimecodeMode then
    ⟨some mTimecodeMode, some (selectTcIndex mInputChannel mTimecodeMode), true⟩
  else { w with reading := true }

/-- The element's property, the opened device's copy of it, the worker and the indices it
has queried. -/
structure Source where
  timecodeMode : GstAjaTimecodeMode
  mTimecodeMode : Option NTV2TCIndex
  worker : Option ACInputWorker
  queried : List NTV2TCIndex
  deriving DecidableEq, Repr

def Source.new (timecodeMode : GstAjaTimecodeMode) : Source := ⟨timecodeMode, none, none, []⟩

inductive Event where
  | setTimecodeMode (mode : GstAjaTimecodeMode)
  | openDevice
  | startWorker
  | iterate
  | getInputTimeCode
  | quit
  | close
  deriving DecidableEq, Repr

def Source.next (mInputChannel : NTV2Channel) (s : Source) : Event → Option Source
  | .setTimecodeMode mode =>
    some { s with
      timecodeMode := mode
      mTimecodeMode := s.mTimecodeMode.map fun _ => mode.tcIndex }
  | .openDevice =>
    if s.mTimecodeMode.isNone then some { s with mTimecodeMode := some s.timecodeMode.tcIndex }
    else none
  | .startWorker =>
    if s.mTimecodeMode.isSome ∧ s.worker.isNone then some { s with worker := some .start }
    else none
  | .iterate =>
    match s.worker, s.mTimecodeMode with
    | some w, some mode => some { s with worker := some (w.reread mInputChannel mode) }
    | _, _ => none
  | .getInputTimeCode =>
    match s.worker with
    | some ⟨configured, some tcIndex, true⟩ =>
      some { s with
        worker := some ⟨configured, some tcIndex, false⟩
        queried := s.queried ++ [tcIndex] }
    | _ => none
  | .quit => some { s with worker := none }
  | .close => some { s with worker := none, mTimecodeMode := none }

def system (mInputChannel : NTV2Channel) : Machine Source Event where
  initial s := ∃ mode, s = .new mode
  next := Source.next mInputChannel

/-! ## The mode in force -/

structure Account where
  mode : GstAjaTimecodeMode
  atReread : GstAjaTimecodeMode
  used : List GstAjaTimecodeMode
  deriving DecidableEq, Repr

def Account.after (a : Account) : Event → Account
  | .setTimecodeMode mode => { a with mode := mode }
  | .iterate => { a with atReread := a.mode }
  | .getInputTimeCode => { a with used := a.used ++ [a.atReread] }
  | _ => a

def modesUsed (mode : GstAjaTimecodeMode) (events : List Event) : List GstAjaTimecodeMode :=
  (events.foldl Account.after ⟨mode, mode, []⟩).used

def tcIndexUnder (mInputChannel : NTV2Channel) (mode : GstAjaTimecodeMode) : NTV2TCIndex :=
  selectTcIndex mInputChannel mode.tcIndex

def Own (mInputChannel : NTV2Channel) (mode : GstAjaTimecodeMode) (tcIndex : NTV2TCIndex) :
    Prop :=
  match mode with
  | .analogLtc1 => tcIndex = .ltc1
  | .analogLtc2 => tcIndex = .ltc2
  | _ => tcIndex = .sdi mInputChannel ∨ tcIndex = .sdi2 mInputChannel ∨
      tcIndex = .sdiLtc mInputChannel

/-- Each frame is queried under the mode in force, at the worker's own input, with an index
that no other mode has. -/
structure FromConfiguredSource (mInputChannel : NTV2Channel) (used : List GstAjaTimecodeMode)
    (queried : List NTV2TCIndex) : Prop where
  determined : queried = used.map (tcIndexUnder mInputChannel)
  own : ∀ mode ∈ used, Own mInputChannel mode (tcIndexUnder mInputChannel mode)
  distinct : ∀ mode ∈ used, ∀ other, other ≠ mode →
    tcIndexUnder mInputChannel other ≠ tcIndexUnder mInputChannel mode

structure Follows (mInputChannel : NTV2Channel) (a : Account) (s : Source) : Prop where
  property : s.timecodeMode = a.mode
  device : ∀ index ∈ s.mTimecodeMode, index = a.mode.tcIndex
  cached : ∀ w ∈ s.worker, w.tcIndex = w.configuredTcIndex.map (selectTcIndex mInputChannel)
  reading : ∀ w ∈ s.worker, w.reading = true → w.configuredTcIndex = some a.atReread.tcIndex
  queried : s.queried = a.used.map (tcIndexUnder mInputChannel)

section Runs

variable {c : NTV2Channel} {a : Account} {s t : Source}

theorem follows_new (c : NTV2Channel) (mode : GstAjaTimecodeMode) :
    Follows c ⟨mode, mode, []⟩ (.new mode) where
  property := rfl
  device := by simp [Source.new]
  cached := by simp [Source.new]
  reading := by simp [Source.new]
  queried := rfl

theorem reread_configured (w : ACInputWorker) (c : NTV2Channel) (mode : NTV2TCIndex) :
    (w.reread c mode).configuredTcIndex = some mode := by
  unfold ACInputWorker.reread
  by_cases h : w.configuredTcIndex = some mode
  · simp [h]
  · simp [h]

theorem reread_cached {w : ACInputWorker} (c : NTV2Channel) (mode : NTV2TCIndex)
    (h : w.tcIndex = w.configuredTcIndex.map (selectTcIndex c)) :
    (w.reread c mode).tcIndex =
      (w.reread c mode).configuredTcIndex.map (selectTcIndex c) := by
  unfold ACInputWorker.reread
  split
  · rfl
  · exact h

theorem follows_step {e : Event} (h : Follows c a s) (hs : s.next c e = some t) :
    Follows c (a.after e) t := by
  cases e with
  | setTimecodeMode mode =>
    cases hs
    refine ⟨rfl, ?_, h.cached, h.reading, h.queried⟩
    intro index hi
    obtain ⟨_, -, rfl⟩ := Option.map_eq_some_iff.mp hi
    rfl
  | openDevice =>
    obtain ⟨-, hs⟩ := Option.ite_none_right_eq_some.mp hs
    cases hs
    refine ⟨h.property, ?_, h.cached, h.reading, h.queried⟩
    intro index hi
    rw [← Option.some.inj hi, h.property]
    rfl
  | startWorker =>
    obtain ⟨-, hs⟩ := Option.ite_none_right_eq_some.mp hs
    cases hs
    refine ⟨h.property, h.device, ?_, ?_, h.queried⟩
    · intro w hw
      cases hw
      rfl
    · intro w hw hr
      cases hw
      cases hr
  | iterate =>
    simp only [Source.next] at hs
    split at hs
    case h_1 w mode hw hm =>
      cases hs
      refine ⟨h.property, h.device, ?_, ?_, h.queried⟩
      · intro w' hw'
        cases hw'
        exact reread_cached c mode (h.cached w hw)
      · intro w' hw' _
        cases hw'
        rw [reread_configured, h.device mode hm]
        rfl
    case h_2 => cases hs
  | getInputTimeCode =>
    simp only [Source.next] at hs
    split at hs
    case h_1 configured tcIndex hw =>
      cases hs
      refine ⟨h.property, h.device, ?_, ?_, ?_⟩
      · intro w' hw'
        cases hw'
        exact h.cached ⟨configured, some tcIndex, true⟩ hw
      · intro w' hw' hr
        cases hw'
        cases hr
      · -- the frame is read with the cached index, which the re-read configured
        have hc : some tcIndex = configured.map (selectTcIndex c) := h.cached _ hw
        have hr : configured = some a.atReread.tcIndex := h.reading _ hw rfl
        rw [hr, Option.map_some] at hc
        simp only [Account.after, List.map_append, h.queried, Option.some.inj hc]
        rfl
    case h_2 => cases hs
  | quit =>
    cases hs
    exact ⟨h.property, h.device, by simp, by simp, h.queried⟩
  | close =>
    cases hs
    exact ⟨h.property, by simp, by simp, by simp, h.queried⟩

theorem follows_run {events : List Event} (h : Follows c a s)
    (hr : runTrace (system c) s events = some t) :
    Follows c (events.foldl Account.after a) t := by
  induction events generalizing a s with
  | nil =>
    cases hr
    exact h
  | cons e events ih =>
    obtain ⟨u, hu, ht⟩ := Option.bind_eq_some_iff.mp hr
    exact ih (follows_step h hu) ht

end Runs

/-! ## The indices of the modes -/

theorem tc_index_own (c : NTV2Channel) (mode : GstAjaTimecodeMode) :
    Own c mode (tcIndexUnder c mode) := by
  cases mode <;> simp [Own, tcIndexUnder, GstAjaTimecodeMode.tcIndex, selectTcIndex]

/-- The two modes that the worker turns into the same index. -/
def Merged (mode : GstAjaTimecodeMode) : Prop := mode = .vitc1 ∨ mode = .atcLtc

instance (mode : GstAjaTimecodeMode) : Decidable (Merged mode) :=
  inferInstanceAs (Decidable (_ ∨ _))

theorem tc_index_distinct_iff (c : NTV2Channel) (mode : GstAjaTimecodeMode) :
    (∀ other, other ≠ mode → tcIndexUnder c other ≠ tcIndexUnder c mode) ↔ ¬ Merged mode := by
  constructor
  · rintro h (rfl | rfl)
    · exact h .atcLtc (by decide) rfl
    · exact h .vitc1 (by decide) rfl
  · intro h other hne
    cases mode <;> cases other <;>
      simp_all [Merged, tcIndexUnder, GstAjaTimecodeMode.tcIndex, selectTcIndex]

/-- The timecodes are those of the configured source as long as no frame is read in the mode
VITC1 or ATC-LTC. -/
theorem from_configured_source_iff (c : NTV2Channel) (mode : GstAjaTimecodeMode)
    (events : List Event) (t : Source)
    (h : runTrace (system c) (.new mode) events = some t) :
    FromConfiguredSource c (modesUsed mode events) t.queried ↔
      ∀ used ∈ modesUsed mode events, ¬ Merged used := by
  have hf := follows_run (follows_new c mode) h
  constructor
  · intro hs used hu
    exact (tc_index_distinct_iff c used).mp (hs.distinct used hu)
  · intro hm
    exact ⟨hf.queried, fun used _ => tc_index_own c used,
      fun used hu => (tc_index_distinct_iff c used).mpr (hm used hu)⟩

theorem from_source_vitc2 :
    FromConfiguredSource 1 [.vitc2, .analogLtc1] [.sdi2 1, .ltc1] :=
  (from_configured_source_iff 1 .vitc2
    [.openDevice, .startWorker, .iterate, .setTimecodeMode .analogLtc1, .getInputTimeCode,
      .iterate, .setTimecodeMode .vitc2, .getInputTimeCode] _ rfl).mpr (by decide)

/-- The change from VITC1 to ATC-LTC is without effect. -/
theorem vitc1_reads_ltc : ¬ ∀ c mode events t, runTrace (system c) (.new mode) events = some t →
    FromConfiguredSource c (modesUsed mode events) t.queried := by
  intro h
  have hs := h 0 .vitc1 [.openDevice, .startWorker, .iterate, .getInputTimeCode,
    .setTimecodeMode .atcLtc, .iterate, .getInputTimeCode] _ rfl
  exact hs.distinct .vitc1 (by decide) .atcLtc (by decide) (by decide)

end AjaTimecodeSource
