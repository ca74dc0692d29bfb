import NTV2Gst.TransitionRuns
import NTV2Gst.EpisodeTimer
import NTV2Gst.AjaAudioSrc
import Mathlib.Data.List.Induction
import Mathlib.Data.Nat.Dist
import Mathlib.Algebra.BigOperators.Group.List.Basic

/-!
# Alignment of audio buffers

`create` is called on one packet after the other, whatever their times and sizes. A
packet that drifts from the samples delivered so far makes a discontinuity at once or
when the drift has lasted for `discont_wait`; the others are dated by counting samples.
-/
namespace AjaAudioAlignment

open TransitionRuns EpisodeTimer GstClockMath GstAjaModes AjaAudioSrc

/-- A call of `create`: the state it finds and the packet it pops. -/
structure Delivery where
  src : GstAjaAudioSrc
  mode : GstAjaMode
  packet : AjaCaptureAudioPacket
  deriving DecidableEq, Repr

namespace Delivery

variable (d : Delivery)

def after : GstAjaAudioSrc := (d.src.output d.mode d.packet).1

def buffer : GstAudioBuffer := (d.src.output d.mode d.packet).2

def discont : Bool := d.buffer.discont

def startOffset : ℕ := d.src.startOffset d.packet

def startTime : ℕ := d.src.startTime d.packet

def endOffset : ℕ := d.src.endOffset d.packet

def sampleCount : ℕ := d.src.sampleCount d.packet

def drift : ℕ := Nat.dist d.startOffset d.src.nextOffset

def maxDrift : ℕ := uint64Scale d.src.alignmentThreshold d.src.info.rate second

def drifts : Bool := d.maxDrift ≤ d.drift

end Delivery

/-- The latest delivery comes first. -/
structure AudioRun where
  src : GstAjaAudioSrc
  delivered : List Delivery
  deriving DecidableEq, Repr

inductive AudioStep where
  | create (mode : GstAjaMode) (packet : AjaCaptureAudioPacket)
  | startReset
  | readyToPaused
  | others (src' : GstAjaAudioSrc)
  deriving DecidableEq, Repr

def othersWrite (src src' : GstAjaAudioSrc) : GstAjaAudioSrc :=
  { src' with
    info := src.info
    nextOffset := src.nextOffset
    discontTime := src.discontTime }

/-- The range of the property, without zero. -/
def Aligns (src : GstAjaAudioSrc) : Prop :=
  0 < src.alignmentThreshold ∧ src.alignmentThreshold < clockTimeNone

instance (src : GstAjaAudioSrc) : Decidable (Aligns src) := inferInstanceAs (Decidable (_ ∧ _))

def PacketFits (p : AjaCaptureAudioPacket) : Prop :=
  p.captureTime < 2 ^ 64 ∧ p.audioBuff.audioDataSize < 2 ^ 32

instance (p : AjaCaptureAudioPacket) : Decidable (PacketFits p) :=
  inferInstanceAs (Decidable (_ ∧ _))

def AudioRun.create (s : AudioRun) (mode : GstAjaMode) (p : AjaCaptureAudioPacket) : AudioRun where
  src := (s.src.output mode p).1
  delivered := ⟨s.src, mode, p⟩ :: s.delivered

/-- The element was started before; whatever it was left with then is still there. -/
def deliveries : Machine AudioRun AudioStep where
  initial s := s.src.readyToPaused.startReset = s.src ∧ Aligns s.src ∧ s.delivered = []
  next s
    | .create mode p => if PacketFits p then some (s.create mode p) else none
    | .startReset => some { s with src := s.src.startReset }
    | .readyToPaused => some { s with src := s.src.readyToPaused }
    | .others src' => if Aligns src' then some { s with src := othersWrite s.src src' } else none

/-! ## Drift -/

def episodeStart (log : List Delivery) : Option Delivery :=
  opening Delivery.drifts Delivery.discont log

/-- There is nothing to wait for, or the episode was opened long enough before. -/
def Lasted (log : List Delivery) (d : Delivery) : Prop :=
  d.src.discontWait = 0 ∨
    ∃ f, episodeStart log = some f ∧ f.startTime + d.src.discontWait ≤ d.startTime

/-- What is specified for a delivery behind the ones in `log`. -/
structure DriftDeclared (log : List Delivery) (d : Delivery) : Prop where
  discont_iff : d.src.nextOffset ≠ maxUint64 → d.packet.marked = false →
    (d.discont = true ↔ d.drifts = true ∧ Lasted log d)
  young : d.discont = false → d.drifts = true →
    ∀ f, episodeStart (d :: log) = some f → d.startTime < f.startTime + d.src.discontWait

/-- The packet does not start before its drift episode does, or the wait is so long that
even the wrapped difference stays below it. -/
def StartsBehindEpisode (log : List Delivery) (d : Delivery) : Prop :=
  d.src.nextOffset ≠ maxUint64 → d.packet.marked = false → d.drifts = true →
    0 < d.src.discontWait → ∀ f, episodeStart log = some f →
      f.startTime ≤ d.startTime ∨ d.startTime + 2 ^ 64 < f.startTime + d.src.discontWait

/-! ## One delivery -/

/-- A delivery that takes its times from the capture. -/
structure Resynced (d : Delivery) : Prop where
  discont : d.discont = true
  next_offset : d.after.nextOffset = d.endOffset
  discont_time : d.after.discontTime = clockTimeNone
  timestamp : d.buffer.timestamp = d.packet.captureTime
  duration : d.buffer.duration =
    u64Sub (uint64Scale d.endOffset second d.src.info.rate) d.startTime

/-- A delivery that is dated by the samples before it. -/
structure Counted (d : Delivery) : Prop where
  discont : d.discont = false
  started : d.src.nextOffset ≠ maxUint64
  unmarked : d.packet.marked = false
  next_offset : d.after.nextOffset = u64Add d.src.nextOffset d.sampleCount
  discont_time : d.after.discontTime = (d.src.checkDrift d.startOffset d.startTime).2
  timestamp : d.buffer.timestamp = uint64Scale d.src.nextOffset second d.src.info.rate
  duration : d.buffer.duration =
    u64Sub (uint64Scale d.after.nextOffset second d.src.info.rate) d.buffer.timestamp

theorem output_resync {src : GstAjaAudioSrc} {mode : GstAjaMode} {p : AjaCaptureAudioPacket}
    (h : (src.resync p).1 = true) :
    src.output mode p =
      ({ src with nextOffset := src.endOffset p, discontTime := clockTimeNone },
        src.captured mode p true) := by
  simp only [GstAjaAudioSrc.output]
  rw [if_pos h]

theorem discont_eq_resync (d : Delivery) : d.discont = (d.src.resync d.packet).1 := by
  by_cases hr : (d.src.resync d.packet).1 = true
  · rw [Delivery.discont, Delivery.buffer, output_resync hr, hr]
    rfl
  · rw [Bool.not_eq_true] at hr
    rw [Delivery.discont, Delivery.buffer, hr]
    simp only [GstAjaAudioSrc.output]
    rw [if_neg (by simp [hr])]
    split
    · rfl
    · rfl

theorem discont_of_first {d : Delivery} (h : d.src.nextOffset = maxUint64) :
    d.discont = true := by
  rw [discont_eq_resync, GstAjaAudioSrc.resync, if_pos (Or.inl h)]

theorem discont_eq_check {d : Delivery} (hn : d.src.nextOffset ≠ maxUint64)
    (hm : d.packet.marked = false) :
    d.discont = (d.src.checkDrift d.startOffset d.startTime).1 := by
  rw [discont_eq_resync, GstAjaAudioSrc.resync, if_neg (by simp [hn, hm])]
  rfl

theorem resynced_of_discont {d : Delivery} (h : d.discont = true) : Resynced d := by
  have ho : d.src.output d.mode d.packet = _ := output_resync ((discont_eq_resync d).symm.trans h)
  constructor
  · exact h
  · rw [Delivery.after, ho]
    rfl
  · rw [Delivery.after, ho]
  · rw [Delivery.buffer, ho]
    rfl
  · rw [Delivery.buffer, ho]
    rfl

theorem counted_of_not_discont {d : Delivery} (ha : Aligns d.src) (h : d.discont = false) :
    Counted d := by
  have hr : (d.src.resync d.packet).1 = false := (discont_eq_resync d).symm.trans h
  have hs : ¬ (d.src.nextOffset = maxUint64 ∨ d.packet.marked = true) := by
    intro hs
    simp [GstAjaAudioSrc.resync, hs] at hr
  have hc : d.src.resync d.packet = d.src.checkDrift d.startOffset d.startTime := by
    rw [GstAjaAudioSrc.resync, if_neg hs]
    rfl
  have ho : d.src.output d.mode d.packet =
      ({ d.src with
          nextOffset := u64Add d.src.nextOffset d.sampleCount
          discontTime := (d.src.resync d.packet).2 },
        { d.src.captured d.mode d.packet false with
          timestamp := uint64Scale d.src.nextOffset second d.src.info.rate
          duration := u64Sub
            (uint64Scale (u64Add d.src.nextOffset d.sampleCount) second d.src.info.rate)
            (uint64Scale d.src.nextOffset second d.src.info.rate) }) := by
    simp only [GstAjaAudioSrc.output]
    rw [if_neg (by simp [hr]), if_neg ha.1.ne']
    rfl
  push Not at hs
  constructor
  · exact h
  · exact hs.1
  · simpa using hs.2
  · rw [Delivery.after, ho]
  · rw [Delivery.after, ho, hc]
  · rw [Delivery.buffer, ho]
  · rw [Delivery.buffer, Delivery.after, ho]

theorem drift_eq (d : Delivery) :
    d.drift = if d.startOffset ≤ d.src.nextOffset then d.src.nextOffset - d.startOffset
      else d.startOffset - d.src.nextOffset := by
  unfold Delivery.drift
  split
  case isTrue h => exact Nat.dist_eq_sub_of_le h
  case isFalse h => exact Nat.dist_eq_sub_of_le_right (by omega)

theorem check_drift_of_drifts {d : Delivery} (ha : Aligns d.src) (h : d.drifts = true) :
    d.src.checkDrift d.startOffset d.startTime =
      if 0 < d.src.discontWait then
        if d.src.discontTime = clockTimeNone then (false, d.startTime)
        else if d.src.discontWait ≤ u64Sub d.startTime d.src.discontTime then
          (true, clockTimeNone)
        else (false, d.src.discontTime)
      else (true, d.src.discontTime) := by
  have hd : d.maxDrift ≤ d.drift := by simpa [Delivery.drifts] using h
  rw [drift_eq] at hd
  simp only [GstAjaAudioSrc.checkDrift]
  rw [if_pos ⟨ha.1, ha.2.ne, hd⟩]

theorem check_drift_of_not_drifts {d : Delivery} (h : d.drifts = false) :
    d.src.checkDrift d.startOffset d.startTime = (false, clockTimeNone) := by
  have hd : ¬ d.maxDrift ≤ d.drift := by simpa [Delivery.drifts] using h
  rw [drift_eq] at hd
  simp only [GstAjaAudioSrc.checkDrift]
  exact if_neg fun hc => hd hc.2.2

/-! ## What the streaming thread remembers -/

structure Tracks (src : GstAjaAudioSrc) (log : List Delivery) : Prop where
  aligns : Aligns src
  rate : src.info.rate = 48000
  discont_time : src.nextOffset ≠ maxUint64 →
    src.discontTime = ((episodeStart log).map Delivery.startTime).getD clockTimeNone
  next_offset : src.nextOffset ≠ maxUint64 → ∃ e ∈ log.head?, src.nextOffset = e.after.nextOffset
  start_time : ∀ e ∈ episodeStart log, e.startTime < clockTimeNone

/-- The sentinel is not the start of a packet: at 48 kHz the last sample position before
it is some microseconds earlier. -/
theorem start_time_lt {d : Delivery} (hr : d.src.info.rate = 48000) (hp : PacketFits d.packet) :
    d.startOffset = d.packet.captureTime * 48000 / second ∧
      d.startTime = d.startOffset * second / 48000 ∧ d.startTime < clockTimeNone := by
  have hc := hp.1
  have ho : d.startOffset = d.packet.captureTime * 48000 / second := by
    rw [Delivery.startOffset, GstAjaAudioSrc.startOffset, hr]
    apply uint64_scale_of_lt
    · decide
    · unfold second
      omega
  have hs : d.startOffset * second / 48000 < clockTimeNone := by
    rw [ho]
    unfold second clockTimeNone maxUint64
    omega
  have ht : d.startTime = d.startOffset * second / 48000 := by
    rw [Delivery.startTime, GstAjaAudioSrc.startTime, hr]
    apply uint64_scale_of_lt
    · decide
    · exact hs.trans (by decide)
  exact ⟨ho, ht, by rw [ht]; exact hs⟩

theorem Tracks.check_drift {d : Delivery} {log : List Delivery} (h : Tracks d.src log)
    (hn : d.src.nextOffset ≠ maxUint64) (hd : d.drifts = true) :
    d.src.checkDrift d.startOffset d.startTime =
      if 0 < d.src.discontWait then
        match episodeStart log with
        | none => (false, d.startTime)
        | some f =>
          if d.src.discontWait ≤ u64Sub d.startTime f.startTime then (true, clockTimeNone)
          else (false, f.startTime)
      else (true, d.src.discontTime) := by
  rw [check_drift_of_drifts h.aligns hd, h.discont_time hn]
  cases hf : episodeStart log with
  | none => simp
  | some f => simp [(h.start_time f (by simp [hf])).ne]

theorem Tracks.discont_iff {d : Delivery} {log : List Delivery} (h : Tracks d.src log)
    (hn : d.src.nextOffset ≠ maxUint64) (hm : d.packet.marked = false) :
    d.discont = true ↔ d.drifts = true ∧ (d.src.discontWait = 0 ∨
      ∃ f, episodeStart log = some f ∧
        d.src.discontWait ≤ u64Sub d.startTime f.startTime) := by
  rw [discont_eq_check hn hm]
  cases hd : d.drifts with
  | false => simp [check_drift_of_not_drifts hd]
  | true =>
    rw [h.check_drift hn hd]
    by_cases hw : 0 < d.src.discontWait
    · rw [if_pos hw]
      cases hf : episodeStart log with
      | none => simp [hw.ne']
      | some f =>
        by_cases hu : d.src.discontWait ≤ u64Sub d.startTime f.startTime
        · simp [hu]
        · simp [hu, hw.ne']
    · simp [Nat.eq_zero_of_not_pos hw]

theorem wait_le_u64_sub_iff {a b wait : ℕ} (ha : a < 2 ^ 64) (hb : b < 2 ^ 64) :
    wait ≤ u64Sub a b ↔
      b ≤ a ∧ b + wait ≤ a ∨ a < b ∧ b + wait ≤ a + 2 ^ 64 := by
  unfold u64Sub
  omega

theorem Tracks.lasted_iff {d : Delivery} {log : List Delivery} (h : Tracks d.src log)
    (hp : PacketFits d.packet) {f : Delivery} (hf : episodeStart log = some f) :
    d.src.discontWait ≤ u64Sub d.startTime f.startTime ↔
      f.startTime ≤ d.startTime ∧ f.startTime + d.src.discontWait ≤ d.startTime ∨
        d.startTime < f.startTime ∧ f.startTime + d.src.discontWait ≤ d.startTime + 2 ^ 64 := by
  apply wait_le_u64_sub_iff
  · exact (start_time_lt h.rate hp).2.2.trans (by decide)
  · exact (h.start_time f hf).trans (by decide)

theorem Tracks.discont_iff_lasted {d : Delivery} {log : List Delivery} (h : Tracks d.src log)
    (hp : PacketFits d.packet) (hc : StartsBehindEpisode log d)
    (hn : d.src.nextOffset ≠ maxUint64) (hm : d.packet.marked = false) :
    d.discont = true ↔ d.drifts = true ∧ Lasted log d := by
  rw [h.discont_iff hn hm]
  apply and_congr_right
  intro hdr
  unfold Lasted
  by_cases hw : d.src.discontWait = 0
  · simp [hw]
  · simp only [hw, false_or]
    apply exists_congr
    intro f
    apply and_congr_right
    intro hf
    have hcf := hc hn hm hdr (Nat.pos_of_ne_zero hw) f hf
    rw [h.lasted_iff hp hf]
    omega

theorem young_of_not_lasted {d : Delivery} {log : List Delivery} (hl : ¬ Lasted log d)
    {f : Delivery} (hf : episodeStart (d :: log) = some f) :
    d.startTime < f.startTime + d.src.discontWait := by
  have hfd : f = (episodeStart log).getD d := (opening_eq_some hf).2.2
  unfold Lasted at hl
  push Not at hl
  have hw := hl.1
  cases hg : episodeStart log with
  | none =>
    rw [hg, Option.getD_none] at hfd
    rw [hfd]
    omega
  | some g =>
    rw [hg, Option.getD_some] at hfd
    rw [hfd]
    exact hl.2 g hg

theorem Tracks.declared_iff {d : Delivery} {log : List Delivery} (h : Tracks d.src log)
    (hp : PacketFits d.packet) : DriftDeclared log d ↔ StartsBehindEpisode log d := by
  constructor
  · intro hd hn hm hdr hw f hf
    by_contra hc
    -- the difference wraps, so the code does not wait any longer
    have hu := (h.lasted_iff hp hf).2 (by omega)
    have hdis := (h.discont_iff hn hm).2 ⟨hdr, Or.inr ⟨f, hf, hu⟩⟩
    rcases ((hd.discont_iff hn hm).1 hdis).2 with h0 | ⟨g, hg, hle⟩
    · omega
    · cases hf.symm.trans hg
      omega
  · intro hc
    constructor
    · exact h.discont_iff_lasted hp hc
    · intro hdis hdr f hf
      have counted := counted_of_not_discont h.aligns hdis
      apply young_of_not_lasted _ hf
      intro hl
      have := (h.discont_iff_lasted hp hc counted.started counted.unmarked).2 ⟨hdr, hl⟩
      rw [hdis] at this
      cases this

/-! ## All runs -/

theorem Tracks.discont_time_continued {d : Delivery} {log : List Delivery}
    (h : Tracks d.src log) (hc : Counted d) (hdr : d.drifts = true) :
    (d.src.checkDrift d.startOffset d.startTime).2 = ((episodeStart log).getD d).startTime := by
  have hf : (d.src.checkDrift d.startOffset d.startTime).1 = false := by
    rw [← discont_eq_check hc.started hc.unmarked, hc.discont]
  rw [h.check_drift hc.started hdr] at hf ⊢
  by_cases hw : 0 < d.src.discontWait
  · rw [if_pos hw] at hf ⊢
    cases hg : episodeStart log with
    | none => rfl
    | some g =>
      rw [hg] at hf
      by_cases hu : d.src.discontWait ≤ u64Sub d.startTime g.startTime
      · simp [hu] at hf
      · simp [hu]
  · simp [hw] at hf

theorem Tracks.delivered {d : Delivery} {log : List Delivery} (h : Tracks d.src log)
    (hp : PacketFits d.packet) : Tracks d.after (d :: log) := by
  have hk := output_keeps d.src d.mode d.packet
  have ha : d.after = { d.src with
      nextOffset := d.after.nextOffset
      discontTime := d.after.discontTime } := hk
  have hs := (start_time_lt h.rate hp).2.2
  constructor
  · rw [ha]
    exact h.aligns
  · rw [ha]
    exact h.rate
  · intro _
    cases hdis : d.discont with
    | true =>
      rw [(resynced_of_discont hdis).discont_time, episodeStart, opening_ended _ (Or.inr hdis)]
      rfl
    | false =>
      have counted := counted_of_not_discont h.aligns hdis
      rw [counted.discont_time]
      cases hdr : d.drifts with
      | false =>
        rw [check_drift_of_not_drifts hdr, episodeStart, opening_ended _ (Or.inl hdr)]
        rfl
      | true =>
        rw [episodeStart, opening_continued hdr hdis]
        exact h.discont_time_continued counted hdr
  · intro _
    exact ⟨d, rfl, rfl⟩
  · intro e he
    have hed : e = (episodeStart log).getD d := (opening_eq_some he).2.2
    cases hg : episodeStart log with
    | none => rw [hed, hg]; exact hs
    | some g => rw [hed, hg]; exact h.start_time g hg

structure RunTracks (s : AudioRun) : Prop where
  now : Tracks s.src s.delivered
  each : ∀ l d l', s.delivered = l ++ d :: l' → Tracks d.src l' ∧ PacketFits d.packet

theorem run_tracks {s : AudioRun} (h : Reachable deliveries s) : RunTracks s := by
  apply h.invariant
  · rintro i ⟨hi, ha, hd⟩
    have hn : i.src.nextOffset = maxUint64 := by rw [← hi]; rfl
    constructor
    · constructor
      · exact ha
      · rw [← hi]; rfl
      · exact fun h => absurd hn h
      · exact fun h => absurd hn h
      · simp [hd, episodeStart]
    · simp [hd]
  · intro a e b ha _ hn
    cases e with
    | create mode p =>
      by_cases hp : PacketFits p
      · simp only [deliveries, hp, if_true, Option.some.injEq] at hn
        subst hn
        constructor
        · exact ha.now.delivered (d := ⟨a.src, mode, p⟩) hp
        · intro l d l' hl
          cases l with
          | nil =>
            obtain ⟨rfl, rfl⟩ := List.cons.inj hl
            exact ⟨ha.now, hp⟩
          | cons x l => exact ha.each l d l' (List.cons.inj hl).2
      · simp [deliveries, hp] at hn
    | startReset =>
      cases hn
      exact ⟨⟨ha.now.aligns, rfl, ha.now.discont_time, ha.now.next_offset, ha.now.start_time⟩,
        ha.each⟩
    | readyToPaused =>
      cases hn
      exact ⟨⟨ha.now.aligns, ha.now.rate, fun h => absurd rfl h, fun h => absurd rfl h,
        ha.now.start_time⟩, ha.each⟩
    | others src' =>
      by_cases hs : Aligns src'
      · simp only [deliveries, hs, if_true, Option.some.injEq] at hn
        subst hn
        exact ⟨⟨hs, ha.now.rate, ha.now.discont_time, ha.now.next_offset, ha.now.start_time⟩,
          ha.each⟩
      · simp [deliveries, hs] at hn

def alignedSource : GstAjaAudioSrc :=
  ((GstAjaAudioSrc.init 2 16 40000000 1000000000).readyToPaused).startReset

theorem aligned_source_starts : alignedSource.nextOffset = maxUint64 := by
  simp [alignedSource, GstAjaAudioSrc.readyToPaused, GstAjaAudioSrc.startReset]

def packetAt (captureTime : ℕ) : AjaCaptureAudioPacket :=
  ⟨⟨0, 16016, 0, true, 0, 0, false⟩, captureTime, captureTime, false⟩

def hd25 : GstAjaMode := hd .format1080p_2500 1920 1080 8 yuv 25 1 false true

def packetRun (times : List ℕ) : AudioRun :=
  times.foldl (fun s t => s.create hd25 (packetAt t)) ⟨alignedSource, []⟩

def nextDelivery (times : List ℕ) (t : ℕ) : Delivery := ⟨(packetRun times).src, hd25, packetAt t⟩

theorem packet_run_concat (times : List ℕ) (t : ℕ) :
    packetRun (times ++ [t]) = (packetRun times).create hd25 (packetAt t) := by
  simp [packetRun, List.foldl_append]

theorem packet_run_reachable {times : List ℕ} (ht : ∀ t ∈ times, t < 2 ^ 64) :
    Reachable deliveries (packetRun times) := by
  induction times using List.reverseRec with
  | nil => exact ⟨⟨alignedSource, []⟩, ⟨rfl, by decide, rfl⟩, .refl _⟩
  | append_singleton times t ih =>
    have hp : PacketFits (packetAt t) := ⟨ht t (by simp), (by decide : 16016 < 2 ^ 32)⟩
    have hr := ih fun u hu => ht u (by simp [hu])
    apply hr.step (e := .create hd25 (packetAt t)) trivial
    simp [deliveries, hp, packet_run_concat]

/-- A packet before its episode makes a discontinuity too early; every other one is
handled as specified, in every run. -/
theorem drift_declared_iff (s : AudioRun) (h : Reachable deliveries s) (l l' : List Delivery)
    (d : Delivery) (hd : s.delivered = l ++ d :: l') :
    DriftDeclared l' d ↔ StartsBehindEpisode l' d := by
  obtain ⟨ht, hp⟩ := (run_tracks h).each l d l' hd
  exact ht.declared_iff hp

theorem drift_declared_after_wait :
    let log := (packetRun [10000000000, 10500000000]).delivered
    let d := nextDelivery [10000000000, 10500000000] 11500000000
    DriftDeclared log d ∧ d.discont = true := by
  intro log d
  refine ⟨?_, by decide⟩
  apply (drift_declared_iff (packetRun [10000000000, 10500000000, 11500000000])
    (packet_run_reachable (by decide)) [] log d rfl).2
  intro _ _ _ _ f hf
  have hopen : episodeStart log = some (nextDelivery [10000000000] 10500000000) := by decide
  cases hopen.symm.trans hf
  left
  decide

theorem early_packet_discont :
    ¬ ∀ s, Reachable deliveries s → ∀ l l' d, s.delivered = l ++ d :: l' → DriftDeclared l' d := by
  intro h
  -- the drift is there since 10.5 s, and the next packet is 100 ms before that
  let d := nextDelivery [10000000000, 10500000000] 10400000000
  have hd := h (packetRun [10000000000, 10500000000, 10400000000])
    (packet_run_reachable (by decide)) [] (packetRun [10000000000, 10500000000]).delivered d rfl
  rcases ((hd.discont_iff (by decide) rfl).1 (by decide)).2 with h0 | ⟨f, hf, hle⟩
  · exact absurd h0 (by decide)
  · have hopen : episodeStart (packetRun [10000000000, 10500000000]).delivered =
        some (nextDelivery [10000000000] 10500000000) := by decide
    cases hopen.symm.trans hf
    revert hle
    decide

/-! ## Tiling -/

def samplesSince (ds : List Delivery) : ℕ := (ds.map Delivery.sampleCount).sum

theorem samples_since_cons (d : Delivery) (ds : List Delivery) :
    samplesSince (d :: ds) = samplesSince ds + d.sampleCount := by
  rw [samplesSince, List.map_cons, List.sum_cons, Nat.add_comm]
  rfl

structure Tiles (e : Delivery) (ds : List Delivery) (d : Delivery) : Prop where
  next_offset : d.after.nextOffset = e.endOffset + samplesSince ds + d.sampleCount
  timestamp : d.buffer.timestamp = (e.endOffset + samplesSince ds) * second / 48000
  end_time : d.buffer.timestamp + d.buffer.duration =
    (e.endOffset + samplesSince ds + d.sampleCount) * second / 48000
  adjoins : ∀ b ∈ ds.head?, b.buffer.timestamp + b.buffer.duration = d.buffer.timestamp
  behind_discont : ds = [] → e.after.nextOffset = e.endOffset ∧
    d.buffer.timestamp ≤ e.buffer.timestamp + e.buffer.duration ∧
    (e.buffer.timestamp + e.buffer.duration - d.buffer.timestamp) * 48000 < second

theorem sample_rounding {time offset start : ℕ} (ho : offset = time * 48000 / second)
    (hs : start = offset * second / 48000) :
    start ≤ time ∧ (time - start) * 48000 < second := by
  unfold second at *
  omega

theorem RunTracks.linked {s : AudioRun} (h : RunTracks s) {l ds l' : List Delivery}
    {d e : Delivery} (hd : s.delivered = l ++ d :: (ds ++ e :: l')) (hc : d.discont = false) :
    Counted d ∧ d.src.nextOffset = (ds.head?.getD e).after.nextOffset := by
  have ht := (h.each l d (ds ++ e :: l') hd).1
  have counted := counted_of_not_discont ht.aligns hc
  obtain ⟨x, hx, hlink⟩ := ht.next_offset counted.started
  have hxe : x = ds.head?.getD e := by
    cases ds with
    | nil => simpa using hx.symm
    | cons y ys => simpa using hx.symm
  exact ⟨counted, by rw [hlink, hxe]⟩

theorem RunTracks.next_offset_since {s : AudioRun} (h : RunTracks s) {e : Delivery}
    {l' : List Delivery} (he : e.discont = true) (ds l : List Delivery)
    (hd : s.delivered = l ++ (ds ++ e :: l')) (hds : ∀ b ∈ ds, b.discont = false)
    (hfit : e.endOffset + samplesSince ds < 2 ^ 64) :
    (ds.head?.getD e).after.nextOffset = e.endOffset + samplesSince ds := by
  induction ds generalizing l with
  | nil => simpa [samplesSince] using (resynced_of_discont he).next_offset
  | cons d ds ih =>
    rw [samples_since_cons] at hfit ⊢
    obtain ⟨counted, hlink⟩ := h.linked hd (hds d (by simp))
    have before := ih (l ++ [d]) (by simpa using hd) (fun b hb => hds b (by simp [hb])) (by omega)
    rw [List.head?_cons, Option.getD_some, counted.next_offset, hlink, before,
      u64_add_of_lt (by omega), Nat.add_assoc]

theorem scale_samples {n : ℕ} (h : n * second / 48000 < 2 ^ 64) :
    uint64Scale n second 48000 = n * second / 48000 :=
  uint64_scale_of_lt (by decide) h

theorem Counted.times {d : Delivery} (h : Counted d) (hr : d.src.info.rate = 48000)
    (hfit : (d.src.nextOffset + d.sampleCount) * second / 48000 < 2 ^ 64) :
    d.buffer.timestamp = d.src.nextOffset * second / 48000 ∧
      d.buffer.timestamp + d.buffer.duration =
        (d.src.nextOffset + d.sampleCount) * second / 48000 := by
  have hsum : d.src.nextOffset + d.sampleCount < 2 ^ 64 := by
    unfold second at hfit
    omega
  have hle : d.src.nextOffset * second / 48000 ≤
      (d.src.nextOffset + d.sampleCount) * second / 48000 :=
    Nat.div_le_div_right (Nat.mul_le_mul_right _ (Nat.le_add_right _ _))
  have hts : d.buffer.timestamp = d.src.nextOffset * second / 48000 := by
    rw [h.timestamp, hr, scale_samples (hle.trans_lt hfit)]
  refine ⟨hts, ?_⟩
  rw [h.duration, hr, h.next_offset, u64_add_of_lt hsum, scale_samples hfit, hts,
    u64_sub_of_le hfit hle]
  omega

theorem Resynced.end_time {e : Delivery} (h : Resynced e) (hr : e.src.info.rate = 48000)
    (hp : PacketFits e.packet) (hfit : e.endOffset * second / 48000 < 2 ^ 64) :
    e.endOffset * second / 48000 ≤ e.buffer.timestamp + e.buffer.duration ∧
      (e.buffer.timestamp + e.buffer.duration - e.endOffset * second / 48000) * 48000 <
        second := by
  obtain ⟨ho, hs, -⟩ := start_time_lt hr hp
  have hend : e.endOffset = e.startOffset + e.sampleCount := by
    have hc := hp.1
    have hsize := hp.2
    have hcount : e.sampleCount ≤ e.packet.audioBuff.audioDataSize := Nat.div_le_self _ _
    apply u64_add_of_lt
    change e.startOffset + e.sampleCount < 2 ^ 64
    rw [ho]
    unfold second
    omega
  have hround := sample_rounding ho hs
  have hle : e.startTime ≤ e.endOffset * second / 48000 := by
    rw [hs, hend]
    exact Nat.div_le_div_right (Nat.mul_le_mul_right _ (Nat.le_add_right _ _))
  rw [h.timestamp, h.duration, hr, scale_samples hfit, u64_sub_of_le hfit hle]
  have hsum : e.packet.captureTime + (e.endOffset * second / 48000 - e.startTime) -
      e.endOffset * second / 48000 = e.packet.captureTime - e.startTime := by omega
  rw [hsum]
  exact ⟨by omega, hround.2⟩

theorem RunTracks.dated {s : AudioRun} (h : RunTracks s) {l ds l' : List Delivery}
    {d e : Delivery} (hd : s.delivered = l ++ d :: (ds ++ e :: l')) (he : e.discont = true)
    (hds : ∀ b ∈ d :: ds, b.discont = false)
    (hfit : (e.endOffset + samplesSince ds + d.sampleCount) * second / 48000 < 2 ^ 64) :
    d.after.nextOffset = e.endOffset + samplesSince ds + d.sampleCount ∧
      d.buffer.timestamp = (e.endOffset + samplesSince ds) * second / 48000 ∧
      d.buffer.timestamp + d.buffer.duration =
        (e.endOffset + samplesSince ds + d.sampleCount) * second / 48000 := by
  have hn : e.endOffset + samplesSince ds + d.sampleCount < 2 ^ 64 := by
    unfold second at hfit
    omega
  obtain ⟨counted, hlink⟩ := h.linked hd (hds d (by simp))
  have before := h.next_offset_since he ds (l ++ [d]) (by simpa using hd)
    (fun b hb => hds b (by simp [hb])) (by omega)
  have hstart : d.src.nextOffset = e.endOffset + samplesSince ds := hlink.trans before
  have times := counted.times (h.each l d _ hd).1.rate (by rw [hstart]; exact hfit)
  rw [hstart] at times
  exact ⟨by rw [counted.next_offset, hstart, u64_add_of_lt hn], times⟩

/-- The buffers behind a discontinuity are dated by their samples as long as the times fit
into 64 bits: no rounding adds up, and no gap opens. -/
theorem buffers_tile (s : AudioRun) (h : Reachable deliveries s) (l ds l' : List Delivery)
    (d e : Delivery) (hd : s.delivered = l ++ d :: (ds ++ e :: l')) (he : e.discont = true)
    (hds : ∀ b ∈ d :: ds, b.discont = false)
    (hfit : (e.endOffset + samplesSince (d :: ds)) * second / 48000 < 2 ^ 64) :
    Tiles e ds d := by
  have track := run_tracks h
  rw [samples_since_cons, ← Nat.add_assoc] at hfit
  have hlater : (e.endOffset + samplesSince ds) * second / 48000 ≤
      (e.endOffset + samplesSince ds + d.sampleCount) * second / 48000 :=
    Nat.div_le_div_right (Nat.mul_le_mul_right _ (Nat.le_add_right _ _))
  obtain ⟨hnext, htime, hend⟩ := track.dated hd he hds hfit
  constructor
  · exact hnext
  · exact htime
  · exact hend
  · intro b hb
    cases ds with
    | nil => cases hb
    | cons b' ds =>
      cases hb
      rw [samples_since_cons, ← Nat.add_assoc] at hlater htime hfit
      have before := track.dated (l := l ++ [d]) (by simpa using hd) he
        (fun x hx => hds x (by simp [hx])) (hlater.trans_lt hfit)
      rw [before.2.2, htime]
  · intro h0
    have he' := track.each (l ++ d :: ds) e l' (by simpa using hd)
    have hres := resynced_of_discont he
    subst h0
    have hz : samplesSince [] = 0 := rfl
    rw [hz, Nat.add_zero] at htime hlater
    have hlast := hres.end_time he'.1.rate he'.2 (hlater.trans_lt (by simpa [hz] using hfit))
    rw [htime]
    exact ⟨hres.next_offset, hlast⟩

theorem third_buffer_tiles :
    let e := nextDelivery [] 10000000001
    let d₁ := nextDelivery [10000000001] 10041708333
    let d₂ := nextDelivery [10000000001, 10041708333] 10090000000
    Tiles e [d₁] d₂ := by
  intro e d₁ d₂
  exact buffers_tile (packetRun [10000000001, 10041708333, 10090000000])
    (packet_run_reachable (by decide)) [] [d₁] [] d₂ e rfl
    (discont_of_first aligned_source_starts) (by decide) (by decide)

end AjaAudioAlignment
