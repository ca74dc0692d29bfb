import Mathlib.Data.List.Pairwise
import NTV2Gst.GstClockMath
import NTV2Gst.TransitionRuns

/-!
# The hardware clock of an output

`GstAjaClock` makes a clock of the sample counter of the card. Its state is that of an output,
which no element sets up yet: when an output is started and when it asks for a restart is left
to the environment. Times and differences are 64 bits wide, a negative offset as its two's
complement.
-/
namespace AjaHardwareClock

open TransitionRuns GstClockMath

structure GstAjaOutput where
  clockStartTime : ℕ
  clockLastTime : ℕ
  clockEpoch : ℕ
  clockOffset : ℕ
  started : Bool
  clockRestart : Bool
  deriving DecidableEq, Repr

/-- `GetHardwareClock` for nanoseconds; a register that cannot be read has no time. -/
def getHardwareClock (audioCounter : Option ℕ) : Option ℕ :=
  audioCounter.map fun n => n * second % 2 ^ 64 / 48000

def elapsed (startTime time : ℕ) : ℕ := if startTime < time then time - startTime else 0

section Read

variable (o : GstAjaOutput)

def GstAjaOutput.startTime (time : ℕ) : ℕ :=
  if o.clockStartTime = clockTimeNone then time else o.clockStartTime

def GstAjaOutput.offset (time : ℕ) : ℕ :=
  if o.clockRestart then u64Sub (elapsed (o.startTime time) time) o.clockLastTime
  else o.clockOffset

def GstAjaOutput.advance (time : ℕ) : GstAjaOutput :=
  let result := max o.clockLastTime (elapsed (o.startTime time) time)
  let result := u64Sub result (o.offset time)
  { o with
    clockStartTime := o.startTime time
    clockLastTime := max o.clockLastTime result
    clockOffset := o.offset time
    clockRestart := false }

/-- `gst_aja_clock_get_internal_time`; the second part is what it returns. -/
def GstAjaOutput.getInternalTime (time : Option ℕ) : GstAjaOutput × ℕ :=
  let o' :=
    if o.started then
      match time with
      | none => o
      | some time => o.advance time
    else o
  (o', u64Add o'.clockLastTime o.clockEpoch)

end Read

inductive Event where
  | read (audioCounter : Option ℕ)
  | setStarted (started : Bool)
  | restart
  | resetStartTime
  deriving DecidableEq, Repr

def GstAjaOutput.next (o : GstAjaOutput) : Event → Option GstAjaOutput
  | .read audioCounter => some (o.getInternalTime (getHardwareClock audioCounter)).1
  | .setStarted started => some { o with started := started }
  | .restart => some { o with clockRestart := true }
  | .resetStartTime => some { o with clockStartTime := clockTimeNone }

def clock : Machine GstAjaOutput Event where
  initial _ := True
  next := GstAjaOutput.next

/-! ## One reading -/

section Step

variable {o t : GstAjaOutput}

theorem elapsed_eq (startTime time : ℕ) : elapsed startTime time = time - startTime := by
  unfold elapsed
  split <;> omega

theorem internal_time_le (o : GstAjaOutput) (time : Option ℕ) :
    o.clockLastTime ≤ (o.getInternalTime time).1.clockLastTime ∧
      (o.getInternalTime time).1.clockEpoch = o.clockEpoch := by
  unfold GstAjaOutput.getInternalTime
  dsimp only
  split
  · split
    · exact ⟨Nat.le_refl _, rfl⟩
    · exact ⟨Nat.le_max_left _ _, rfl⟩
  · exact ⟨Nat.le_refl _, rfl⟩

theorem last_time_le_next {e : Event} (ht : o.next e = some t) :
    o.clockLastTime ≤ t.clockLastTime ∧ t.clockEpoch = o.clockEpoch := by
  cases e with
  | read audioCounter =>
    obtain rfl := Option.some.inj ht
    exact internal_time_le o _
  | setStarted | restart | resetStartTime =>
    obtain rfl := Option.some.inj ht
    exact ⟨Nat.le_refl _, rfl⟩

theorem last_time_le_run (h : Execution clock (fun _ _ => True) o t) :
    o.clockLastTime ≤ t.clockLastTime ∧ t.clockEpoch = o.clockEpoch :=
  h.invariant (I := fun a => o.clockLastTime ≤ a.clockLastTime ∧ a.clockEpoch = o.clockEpoch)
    ⟨Nat.le_refl _, rfl⟩ fun _ _ _ ha _ hb =>
      ⟨ha.1.trans (last_time_le_next hb).1, (last_time_le_next hb).2.trans ha.2⟩

theorem internal_time_le_later {earlier later : Option ℕ}
    (h : Execution clock (fun _ _ => True) (o.getInternalTime earlier).1 t)
    (hfit : (t.getInternalTime later).1.clockLastTime + o.clockEpoch < 2 ^ 64) :
    (o.getInternalTime earlier).2 ≤ (t.getInternalTime later).2 := by
  obtain ⟨-, he₁⟩ := internal_time_le o earlier
  obtain ⟨hle, he⟩ := last_time_le_run h
  obtain ⟨hle₂, -⟩ := internal_time_le t later
  change u64Add (o.getInternalTime earlier).1.clockLastTime o.clockEpoch ≤
    u64Add (t.getInternalTime later).1.clockLastTime t.clockEpoch
  rw [he, he₁, u64_add_of_lt hfit, u64_add_of_lt (by omega)]
  omega

theorem advance_last {time : ℕ} (hr : o.clockRestart = false)
    (hs : o.clockStartTime ≠ clockTimeNone) (hlast : o.clockLastTime < 2 ^ 64)
    (htime : time < 2 ^ 64)
    (hoff : o.clockOffset ≤ max o.clockLastTime (time - o.clockStartTime)) :
    (o.advance time).clockLastTime =
      max o.clockLastTime (time - o.clockStartTime - o.clockOffset) := by
  unfold GstAjaOutput.advance GstAjaOutput.offset GstAjaOutput.startTime
  simp only [hr, hs, elapsed_eq, Bool.false_eq_true, if_false]
  rw [u64_sub_of_le (by omega) hoff]
  omega

end Step

/-! ## After a restart -/

def readings (o : GstAjaOutput) : List ℕ → List ℕ
  | [] => []
  | time :: times =>
    let r := o.getInternalTime (some time)
    r.2 :: readings r.1 times

section Restart

variable {o : GstAjaOutput} {base first epoch : ℕ} {times : List ℕ}

theorem readings_cons (hs : o.started = true) (time : ℕ) :
    readings o (time :: times) =
      u64Add (o.advance time).clockLastTime o.clockEpoch :: readings (o.advance time) times := by
  simp [readings, GstAjaOutput.getInternalTime, hs, GstAjaOutput.advance]

structure InPace (o : GstAjaOutput) (base first epoch now : ℕ) : Prop where
  started : o.started = true
  epoch_eq : o.clockEpoch = epoch
  restart : o.clockRestart = false
  start : o.clockStartTime ≠ clockTimeNone
  offset : base + o.clockOffset = first - o.clockStartTime
  last : o.clockLastTime = base + (now - first)
  after : first ≤ now ∧ o.clockStartTime ≤ first

theorem InPace.advance {now time : ℕ} (h : InPace o base first epoch now) (hle : now ≤ time)
    (htime : time < 2 ^ 64) (hbase : base + (time - first) < 2 ^ 64) :
    InPace (o.advance time) base first epoch time := by
  obtain ⟨hon, hep, hr, hs, hoff, hlast, hfirst, hstart⟩ := h
  have hstart' : (o.advance time).clockStartTime = o.clockStartTime := by
    simp [GstAjaOutput.advance, GstAjaOutput.startTime, hs]
  have hoff' : (o.advance time).clockOffset = o.clockOffset := by
    simp [GstAjaOutput.advance, GstAjaOutput.offset, hr]
  refine ⟨hon, hep, rfl, by rwa [hstart'], by rw [hstart', hoff', hoff], ?_,
    by omega, by rw [hstart']; exact hstart⟩
  rw [advance_last hr hs (by omega) htime (by omega), hlast]
  omega

theorem in_pace_readings {now : ℕ} (h : InPace o base first epoch now)
    (hbase : base ≤ first - o.clockStartTime) (hsorted : (now :: times).Pairwise (· ≤ ·))
    (htimes : ∀ t ∈ times, t < 2 ^ 64) :
    readings o times = times.map fun t => u64Add (base + (t - first)) epoch := by
  induction times generalizing o now with
  | nil => rfl
  | cons time times ih =>
    obtain ⟨hle, hsorted⟩ := List.pairwise_cons.mp hsorted
    have hnow : now ≤ time := hle time List.mem_cons_self
    have htime : time < 2 ^ 64 := htimes time List.mem_cons_self
    obtain ⟨hfirst, hstart⟩ := h.after
    have hp := h.advance hnow htime (by omega)
    have hkept : (o.advance time).clockStartTime = o.clockStartTime := by
      simp [GstAjaOutput.advance, GstAjaOutput.startTime, h.start]
    have hrest := ih hp (by rwa [hkept]) hsorted fun t ht => htimes t (List.mem_cons_of_mem _ ht)
    rw [readings_cons h.started, List.map_cons, hp.last, h.epoch_eq, hrest]

theorem in_pace_restarted (hon : o.started = true) (hr : o.clockRestart = true)
    (htime : first < clockTimeNone)
    (hstart : o.startTime first ≤ first) (hlast : o.clockLastTime ≤ first - o.startTime first) :
    InPace (o.advance first) o.clockLastTime first o.clockEpoch first := by
  unfold clockTimeNone maxUint64 at htime
  have hs : o.startTime first ≠ clockTimeNone := by
    unfold clockTimeNone maxUint64
    omega
  have hoff : o.offset first = first - o.startTime first - o.clockLastTime := by
    rw [GstAjaOutput.offset, if_pos hr, elapsed_eq, u64_sub_of_le (by omega) hlast]
  refine ⟨hon, rfl, rfl, hs, ?_, ?_, Nat.le_refl _, hstart⟩
  · change _ + o.offset first = first - o.startTime first
    rw [hoff]
    omega
  · unfold GstAjaOutput.advance
    dsimp only
    rw [hoff, elapsed_eq, u64_sub_of_le (by omega) (by omega)]
    omega

/-- Else the difference is taken off where it should have been added. -/
theorem advance_ahead (hr : o.clockRestart = true)
    (hlast : first - o.startTime first < o.clockLastTime) (hsmall : o.clockLastTime < 2 ^ 63) :
    (o.advance first).clockLastTime =
      o.clockLastTime + (o.clockLastTime - (first - o.startTime first)) := by
  unfold GstAjaOutput.advance GstAjaOutput.offset
  simp only [if_pos hr, elapsed_eq]
  generalize first - o.startTime first = e at *
  have hoff : u64Sub e o.clockLastTime = 2 ^ 64 + e - o.clockLastTime :=
    Nat.mod_eq_of_lt (by omega)
  rw [hoff, max_eq_left hlast.le, u64Sub,
    show 2 ^ 64 + o.clockLastTime - (2 ^ 64 + e - o.clockLastTime) =
      o.clockLastTime + (o.clockLastTime - e) by omega, Nat.mod_eq_of_lt (by omega)]
  omega

end Restart

theorem u64_add_ne {a d e : ℕ} (hd : 0 < d) (hlt : d < 2 ^ 63) :
    u64Add (a + d) e ≠ u64Add a e := by
  unfold u64Add
  omega

/-- What the clock returns does not go back, whatever the counter does and however it is
restarted, as long as it does not wrap around. After a restart it goes on from where it stood
at the pace of the hardware if and only if the hardware has run at least as long as the clock
had counted. -/
theorem clock_restarts_iff :
    (∀ (o t : GstAjaOutput) (earlier later : Option ℕ),
      Execution clock (fun _ _ => True) (o.getInternalTime earlier).1 t →
      (t.getInternalTime later).1.clockLastTime + o.clockEpoch < 2 ^ 64 →
      (o.getInternalTime earlier).2 ≤ (t.getInternalTime later).2) ∧
    ∀ (o : GstAjaOutput) first times, o.started = true → o.clockRestart = true →
      o.clockLastTime < 2 ^ 63 → (first :: times).Pairwise (· ≤ ·) →
      (∀ t ∈ first :: times, t < clockTimeNone) → o.startTime first ≤ first →
      (readings o (first :: times) =
          (first :: times).map (fun t => u64Add (o.clockLastTime + (t - first)) o.clockEpoch) ↔
        o.clockLastTime ≤ first - o.startTime first) := by
  constructor
  · exact fun o t earlier later h hfit => internal_time_le_later h hfit
  · intro o first times hon hr hsmall hsorted htimes hstart
    constructor
    · intro h
      by_contra hlast
      rw [Nat.not_le] at hlast
      rw [readings_cons hon, List.map_cons, advance_ahead hr hlast hsmall, Nat.sub_self,
        Nat.add_zero] at h
      exact u64_add_ne (by omega) (by omega) (List.cons.inj h).1
    · intro hlast
      have hp := in_pace_restarted hon hr (htimes first List.mem_cons_self) hstart hlast
      have hrest := in_pace_readings hp hlast hsorted fun t ht =>
        (htimes t (List.mem_cons_of_mem _ ht)).trans (by decide)
      rw [readings_cons hon, List.map_cons, hp.last, hrest, Nat.sub_self]

theorem clock_restarts_second_later :
    readings ⟨0, second, 7, 0, true, true⟩ [2 * second, 3 * second] =
      [second + 7, 2 * second + 7] :=
  (clock_restarts_iff.2 ⟨0, second, 7, 0, true, true⟩ (2 * second) [3 * second] rfl rfl
    (by decide) (by decide) (by decide) (by decide)).mpr (by decide)

end AjaHardwareClock
