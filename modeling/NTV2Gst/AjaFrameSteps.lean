import NTV2Gst.AjaTimeAgreement

/-!
# `got_frame` in steps

`got_frame` is cut wherever it reads or writes the anchor and the first time, which
`start_streams` resets from other threads, and again where it waits for `src->lock`.
-/
namespace AjaFrameSteps

open GstAjaModes GstClockMath AjaVideoSrc AjaTimeAgreement

/-- What `got_frame` does next, with the local variables that it still needs. -/
inductive FramePc where
  | anchorNumber (time : ℕ) (hadSignal : Bool)
  | readAnchor (time : ℕ) (hadSignal : Bool)
  | noteFirst (time streamTime : ℕ) (hadSignal : Bool)
  | updateMapping (time streamTime : ℕ) (hadSignal : Bool)
  | takeLock (timestamp streamTime : ℕ) (hadSignal : Bool)
  | returned
  deriving DecidableEq, Repr

/-- From the clock up to `discont_time`, the first half of the anchor. -/
def enterFrame (src : GstAjaVideoSrc) (clock : CaptureClock) (videoBuff : Option AjaVideoBuff) :
    GstAjaVideoSrc × FramePc :=
  match videoBuff.filter (·.haveSignal) with
  | none => (src.loseSignal, .returned)
  | some b =>
    let time := clock.capturePipeline (some b)
    if src.signalState = .available then
      if src.discontTime = clockTimeNone then
        ({ src with discontTime := time }, .anchorNumber time true)
      else (src, .readAnchor time true)
    else
      let src' := { src with signalState := .available }.pushMarker src.signalState.gain
      ({ src' with discontTime := time }, .anchorNumber time false)

def FramePc.next (src : GstAjaVideoSrc) (mode : GstAjaMode) (b : AjaVideoBuff)
    (regression : Option Calibration) : FramePc → GstAjaVideoSrc × FramePc
  | .anchorNumber time hadSignal =>
    ({ src with discontFrameNumber := b.frameNumber }, .readAnchor time hadSignal)
  | .readAnchor time hadSignal =>
    (src, .noteFirst time (src.streamTime mode b.frameNumber) hadSignal)
  | .noteFirst time streamTime hadSignal =>
    (src.noteFirstTime streamTime, .updateMapping time streamTime hadSignal)
  | .updateMapping time streamTime hadSignal =>
    if src.skips streamTime then (src, .returned)
    else
      let src' := src.updateTimeMapping time streamTime b.droppedChanged regression
      (src', .takeLock (src'.timestamp streamTime) streamTime hadSignal)
  | .takeLock timestamp streamTime hadSignal =>
    (if src.flushing then src else src.queueFrame b timestamp streamTime hadSignal, .returned)
  | .returned => (src, .returned)

def FramePc.noted : FramePc → Bool
  | .updateMapping _ _ _ | .takeLock _ _ _ | .returned => true
  | _ => false

/-! ## Without interruption -/

section Alone

variable {mode : GstAjaMode} {b : AjaVideoBuff} {regression : Option Calibration}
  {src : GstAjaVideoSrc}

def alone (mode : GstAjaMode) (b : AjaVideoBuff) (regression : Option Calibration)
    (r : GstAjaVideoSrc × FramePc) : GstAjaVideoSrc × FramePc :=
  r.2.next r.1 mode b regression

theorem alone_returned (n : ℕ) :
    (alone mode b regression)^[n] (src, .returned) = (src, .returned) :=
  Function.iterate_fixed (by simp [alone, FramePc.next]) n

theorem enter_anchors (src : GstAjaVideoSrc) (mode : GstAjaMode) (regression : Option Calibration)
    (clock : CaptureClock) (hb : b.haveSignal = true) :
    ∃ n ≤ 1, (alone mode b regression)^[n] (enterFrame src clock (some b)) =
      ((src.gainSignal (clock.capturePipeline (some b)) b.frameNumber).1,
        .readAnchor (clock.capturePipeline (some b))
          (src.gainSignal (clock.capturePipeline (some b)) b.frameNumber).2) := by
  simp only [enterFrame, Option.filter, hb, if_true, GstAjaVideoSrc.gainSignal]
  by_cases hs : src.signalState = .available
  · by_cases hd : src.discontTime = clockTimeNone
    · exact ⟨1, le_rfl, by simp [hs, hd, alone, FramePc.next]⟩
    · exact ⟨0, zero_le_one, by simp [hs, hd]⟩
  · exact ⟨1, le_rfl, by simp [hs, alone, FramePc.next]⟩

theorem notes_clock_time {clock : CaptureClock} (hs : Anchored src)
    (hf : src.firstTime = clockTimeNone) (hm : RateValid mode.fpsN mode.fpsD)
    (ht : clock.capturePipeline (some b) < clockTimeNone) (hb : b.haveSignal = true) :
    ∃ n ≤ 2, ∃ src' hadSignal, (alone mode b regression)^[n] (enterFrame src clock (some b)) =
      (src', .noteFirst (clock.capturePipeline (some b)) (clock.capturePipeline (some b))
        hadSignal) := by
  obtain ⟨n, hn, hanchored⟩ := enter_anchors src mode regression clock hb
  obtain ⟨htime, hnumber⟩ := gain_signal_discont_time (hs hf)
    (clock.capturePipeline (some b)) b.frameNumber
  have htwo : n + 1 ≤ 2 := by omega
  refine ⟨n + 1, htwo, (src.gainSignal (clock.capturePipeline (some b)) b.frameNumber).1,
    (src.gainSignal (clock.capturePipeline (some b)) b.frameNumber).2, ?_⟩
  rw [Function.iterate_succ_apply', hanchored]
  simp only [alone, FramePc.next, GstAjaVideoSrc.streamTime, htime, hnumber,
    stream_time_at_anchor hm (ht.trans (by decide))]

theorem anchored_finishes (time : ℕ) (hadSignal : Bool) :
    (alone mode b regression)^[4] (src, .readAnchor time hadSignal) =
      (let s := src.streamTime mode b.frameNumber
       let noted := src.noteFirstTime s
       if noted.skips s then noted
       else
         let src' := noted.updateTimeMapping time s b.droppedChanged regression
         if src'.flushing then src' else src'.queueFrame b (src'.timestamp s) s hadSignal,
        .returned) := by
  simp only [Function.iterate_succ, Function.comp_apply, Function.iterate_zero, id_eq, alone,
    FramePc.next]
  by_cases hk : (src.noteFirstTime (src.streamTime mode b.frameNumber)).skips
      (src.streamTime mode b.frameNumber) = true <;> simp [hk]

end Alone

theorem got_frame_signal (src : GstAjaVideoSrc) (mode : GstAjaMode) (env : CaptureEnv)
    {b : AjaVideoBuff} (hb : b.haveSignal = true) :
    (src.gotFrame mode env (some b) src.flushing).1 =
      (let time := env.clock.capturePipeline (some b)
       let r := src.gainSignal time b.frameNumber
       let s := r.1.streamTime mode b.frameNumber
       let noted := r.1.noteFirstTime s
       if noted.skips s then noted
       else
         let src' := noted.updateTimeMapping time s b.droppedChanged env.regression
         if src'.flushing then src' else src'.queueFrame b (src'.timestamp s) s r.2) := by
  have hflush := (prepare_settings src mode env (some b)).flushing
  have hnoted : ∀ (a : GstAjaVideoSrc) (s : ℕ), (a.noteFirstTime s).streamTime mode b.frameNumber =
      a.streamTime mode b.frameNumber := by
    intro a s
    unfold GstAjaVideoSrc.noteFirstTime
    split <;> rfl
  simp only [GstAjaVideoSrc.gotFrame]
  rw [← hflush]
  simp only [GstAjaVideoSrc.gotFramePrepare, Option.filter, hb, if_true, GstAjaVideoSrc.anchor,
    hnoted]
  generalize src.gainSignal (env.clock.capturePipeline (some b)) b.frameNumber = r
  by_cases hk : (r.1.noteFirstTime (r.1.streamTime mode b.frameNumber)).skips
      (r.1.streamTime mode b.frameNumber) = true
  · simp [hk]
  · simp only [hk, if_false, Bool.false_eq_true]
    split <;> rfl

/-- Left alone, the steps of a callback come to the whole of `got_frame`. -/
theorem got_frame_steps (src : GstAjaVideoSrc) (mode : GstAjaMode) (env : CaptureEnv)
    (b : AjaVideoBuff) : (alone mode b env.regression)^[5] (enterFrame src env.clock (some b)) =
      ((src.gotFrame mode env (some b) src.flushing).1, .returned) := by
  cases hb : b.haveSignal with
  | false =>
    have henter : enterFrame src env.clock (some b) = (src.loseSignal, .returned) := by
      simp [enterFrame, Option.filter, hb]
    have hlost : (src.gotFrame mode env (some b) src.flushing).1 = src.loseSignal := by
      simp [GstAjaVideoSrc.gotFrame, GstAjaVideoSrc.gotFramePrepare, Option.filter, hb]
    rw [henter, hlost, alone_returned]
  | true =>
    obtain ⟨n, hn, hanchored⟩ := enter_anchors src mode env.regression env.clock hb
    have hsplit : 5 = (1 - n) + (4 + n) := by omega
    rw [hsplit, Function.iterate_add_apply, Function.iterate_add_apply, hanchored,
      anchored_finishes, alone_returned, got_frame_signal src mode env hb]

end AjaFrameSteps
