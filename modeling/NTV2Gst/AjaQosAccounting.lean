import NTV2Gst.AjaDropCounter
import NTV2Gst.AjaPipelineSteps
import NTV2Gst.OverflowAccount

/-!
# Accounting for skipped frames

The pipeline from before the first `create`: the streams may be started before `start` has
reset the counters of an element, and `start` of the audio source may fail with nothing
reset. Overflow counts what it removes in `skipped_last` and `skipped_overall`, and `create`
subtracts the latter from a counter that was stored with the frame when it was captured.
-/
namespace AjaQosAccounting

open TransitionRuns DropOldest OverflowAccount GstClockMath GstAjaModes AjaVideoSrc AjaAudioSrc
  AjaCapturePipeline AjaDropCounter AjaPipelineSteps

/-! ## Runs -/

/-- `videoReset` and `audioReset` tell that `start` has reset the counters, `audioPast` that the
audio source is past its `start`, be it with the caps refused, and `audioFresh` that its
counters were zero before. -/
structure QosRun where
  pipe : Pipeline
  streaming : Bool
  videoReset : Bool
  audioReset : Bool
  audioPast : Bool
  audioFresh : Bool
  deriving DecidableEq, Repr

/-- `gst_base_src_set_caps` fails in `start` of the audio source, which is enabled by then, so
that the next `create` gets past it. -/
inductive QosEvent where
  | pipeline (e : Event)
  | startStreams
  | audioCapsRefused
  deriving DecidableEq, Repr

/-- `start` resets once, before the first `create` waits for a frame. The base class holds
its lock around `create`, so that `unlock_stop` and `stop` find no frame in its hand. -/
def QosRun.permits (s : QosRun) : Event → Bool
  | .status _ | .capture _ | .nullVideo | .workerEnds => s.streaming
  | .videoStartReset => !s.videoReset
  | .videoPop => s.videoReset
  | .videoUnlockStop | .videoStop => s.pipe.videoTaken.isNone
  | .audioStartReset => !s.audioPast
  | .audioPop => s.audioPast
  | .audioUnlockStop | .audioStopPop => s.pipe.audioTaken.isNone
  | _ => true

section Runs

variable (videoInfoFromCaps : GstCaps → GstVideoInfo)

def QosRun.next (s : QosRun) : QosEvent → Option QosRun
  | .pipeline e =>
    if s.permits e then
      (s.pipe.next videoInfoFromCaps e).map fun pipe =>
        { s with
          pipe := pipe
          videoReset := s.videoReset || e == .videoStartReset
          audioReset := s.audioReset || e == .audioStartReset
          audioPast := s.audioPast || e == .audioStartReset }
    else none
  | .startStreams => if s.streaming then none else some { s with streaming := true }
  | .audioCapsRefused => if s.audioPast then none else some { s with audioPast := true }

end Runs

/-! ## Counters -/

def overflowed (t : Trail) : ℕ := t.released.countP fun r => r.2 = .overflow

def droppedFrames (src : GstAjaVideoSrc) : List AjaCaptureVideoFrame :=
  withBuffer (popped src.queueSize src.currentFrames)

def droppedPackets (src : GstAjaAudioSrc) : List AjaCaptureAudioPacket :=
  popped src.queueSize src.currentPackets

/-- A push of a frame that the accounting survives: fewer than `2 ^ 32` frames are dropped in
a row, and a push that drops only markers does not end the count when `create` has an older
frame to report than what was removed. -/
def TimelyFrame (s : Pipeline) : Prop :=
  let src := s.videosrc
  src.flushing = false →
    src.skippedLast + (droppedFrames src).length < 2 ^ 32 ∧
      (popped src.queueSize src.currentFrames ≠ [] → droppedFrames src = [] →
        ∀ x ∈ s.videoTaken, src.skippedOverall + src.skippedLast ≤ x.2.framesProcessed)

def TimelyPacket (s : Pipeline) : Prop :=
  s.audiosrc.flushing = false →
    s.audiosrc.skippedLast + (droppedPackets s.audiosrc).length < 2 ^ 32

/-- Nothing has been removed when `start` resets the counters, and the caps of the audio source
are refused only with counters that were zero. The frame counters of the worker are 64 bits
wide. -/
def Timely (s : QosRun) : QosEvent → Prop
  | .pipeline (.capture _) =>
    s.pipe.worker.processedFrames + 1 + s.pipe.worker.droppedFrames < 2 ^ 64
  | .pipeline .videoStartReset => overflowed s.pipe.video = 0
  | .pipeline .audioStartReset => overflowed s.pipe.audio = 0
  | .pipeline .queueFrame => s.videoReset = true → TimelyFrame s.pipe
  | .pipeline .queuePacket => (s.audioReset || s.audioFresh) = true → TimelyPacket s.pipe
  | .audioCapsRefused => s.audioFresh = true
  | _ => True

instance (s : QosRun) (e : QosEvent) : Decidable (Timely s e) := by
  unfold Timely TimelyFrame TimelyPacket
  split <;> infer_instance

/-! ## Both queues as accounts -/

def videoCounters (b : AjaVideoBuff) : ℕ × ℕ := (b.framesProcessed, b.framesDropped)

def audioCounters (a : AjaAudioBuff) : ℕ × ℕ := (a.framesProcessed, a.framesDropped)

def Fits (x : ℕ × ℕ) : Prop := x.1 + x.2 < 2 ^ 64

def videoEntry (f : AjaCaptureVideoFrame) : Option (ℕ × ℕ) := f.videoBuff.map videoCounters

def audioEntry (p : AjaCaptureAudioPacket) : Option (ℕ × ℕ) := some (audioCounters p.audioBuff)

def videoAccount (reset : Bool) (s : Pipeline) : Account (ℕ × ℕ) where
  overall := if reset then s.videosrc.skippedOverall else 0
  last := if reset then s.videosrc.skippedLast else 0
  removed := overflowed s.video
  queue := s.videosrc.currentFrames.map videoEntry
  hand := (frameInHand s.pc).map videoCounters
  position := s.worker.processedFrames
  taken := s.videoTaken.map (videoCounters ·.2)
  size := s.videosrc.queueSize

def audioAccount (reset : Bool) (s : Pipeline) : Account (ℕ × ℕ) where
  overall := if reset then s.audiosrc.skippedOverall else 0
  last := if reset then s.audiosrc.skippedLast else 0
  removed := overflowed s.audio
  queue := s.audiosrc.currentPackets.map audioEntry
  hand := (packetInHand s.pc).map audioCounters
  position := s.worker.processedFrames
  taken := s.audioTaken.map (audioCounters ·.audioBuff)
  size := s.audiosrc.queueSize

@[simp] theorem overflowed_release (t : Trail) (why : Path) (buffers : List ℕ) :
    overflowed (t.release why buffers) =
      overflowed t + if why = .overflow then buffers.length else 0 := by
  by_cases hw : why = .overflow
  · simp [overflowed, Trail.release, List.countP_map, Function.comp_def, hw]
  · simp [overflowed, Trail.release, List.countP_map, Function.comp_def, hw]

@[simp] theorem overflowed_deliver (t : Trail) (d : Delivery) :
    overflowed (t.deliver d) = overflowed t := by
  have h := overflowed_release t .create [d.buffer]
  simpa [overflowed, Trail.deliver] using h

theorem entries_markers (changes : List SignalChange) :
    (changes.map marker).map videoEntry = List.replicate changes.length none := by
  induction changes with
  | nil => rfl
  | cons c changes ih =>
    rw [List.map_cons, List.map_cons, ih]
    rfl

theorem entries_write_back (c : SignalChange) (q : List AjaCaptureVideoFrame) :
    (writeBack c q).map videoEntry = q.map videoEntry := by
  cases q with
  | nil => rfl
  | cons f q => by_cases hc : c = .noChange <;> simp [writeBack, hc, videoEntry]

theorem entries_length (q : List AjaCaptureVideoFrame) :
    (q.map videoEntry).reduceOption.length = (withBuffer q).length ∧
      (videoBuffers q).length = (withBuffer q).length := by
  induction q with
  | nil => exact ⟨rfl, rfl⟩
  | cons f q ih =>
    unfold withBuffer videoBuffers at *
    cases hb : f.videoBuff with
    | none => simpa [videoEntry, hb] using ih
    | some b => simpa [videoEntry, hb] using ih

theorem video_surplus (reset : Bool) (s : Pipeline) :
    (videoAccount reset s).surplus.length = (droppedFrames s.videosrc).length := by
  have h := (overflow_map videoEntry s.videosrc.queueSize s.videosrc.currentFrames).1
  rw [droppedFrames, ← (entries_length _).1, ← h]
  rfl

theorem audio_surplus (reset : Bool) (s : Pipeline) :
    (audioAccount reset s).surplus.length = (droppedPackets s.audiosrc).length := by
  have h := (overflow_map audioEntry s.audiosrc.queueSize s.audiosrc.currentPackets).1
  have hsome : ∀ x ∈ (droppedPackets s.audiosrc).map audioEntry, x.isSome := by
    intro x hx
    obtain ⟨p, -, rfl⟩ := List.mem_map.mp hx
    rfl
  have hlen := List.reduceOption_length_eq_iff.mpr hsome
  rw [List.length_map] at hlen
  rw [← hlen, droppedPackets, ← h]
  rfl

theorem overall_counted {β : Type*} {overall last : ℕ} (old : List β)
    (h : overall + last < 2 ^ 64) :
    (if (old.isEmpty && decide (0 < last)) = true then u64Add overall last else overall) =
      if old.length = 0 then overall + last else overall := by
  cases old with
  | nil =>
    by_cases hl : 0 < last
    · simp [hl, u64_add_of_lt h]
    · simp [Nat.eq_zero_of_not_pos hl]
  | cons x old => simp

theorem last_counted {β : Type*} {last : ℕ} (old : List β) (h : last + old.length < 2 ^ 32) :
    ((if (old.isEmpty && decide (0 < last)) = true then 0 else last) + old.length) % 2 ^ 32 =
      (if old.length = 0 then 0 else last) + old.length := by
  cases old with
  | nil =>
    by_cases hl : 0 < last
    · simp [hl]
    · simp [Nat.eq_zero_of_not_pos hl]
  | cons x old => simpa using Nat.mod_eq_of_lt h

/-! ## Steps -/

variable {videoInfoFromCaps : GstCaps → GstVideoInfo} {s t : Pipeline} {reset : Bool}

theorem video_account_kept (h : VideoKept s t) : videoAccount reset t = videoAccount reset s := by
  simp only [videoAccount, h.videosrc, h.trail, h.frame_in_hand, h.worker, h.taken]

theorem audio_account_kept (h : AudioKept s t) : audioAccount reset t = audioAccount reset s := by
  simp only [audioAccount, h.audiosrc, h.trail, h.in_hand, h.worker, h.taken]

structure CountsFit (a : Account (ℕ × ℕ)) : Prop where
  overall : a.overall + a.last < 2 ^ 64
  last : a.last + a.surplus.length < 2 ^ 32

theorem video_account_push {v : AjaVideoBuff} {ts st : ℕ} {had : Bool} {pc : WorkerPc}
    (hpc : frameInHand pc = none) (hfit : CountsFit (videoAccount reset s))
    (hr : reset = false → droppedFrames s.videosrc = []) :
    videoAccount reset { s with
      pc := pc
      videosrc := s.videosrc.queueFrame v ts st had
      video := s.video.release .overflow
        (videoBuffers (popped s.videosrc.queueSize s.videosrc.currentFrames)) } =
      (videoAccount reset s).push (videoCounters v) := by
  have hlen := video_surplus reset s
  have hnil : (videoAccount reset s).surplus = [] ↔ (droppedFrames s.videosrc).length = 0 := by
    rw [← hlen, List.length_eq_zero_iff]
  have hleft := (overflow_map videoEntry s.videosrc.queueSize s.videosrc.currentFrames).2
  have hbuf := (entries_length (popped s.videosrc.queueSize s.videosrc.currentFrames)).2
  have hcounts : (videoAccount reset s).last + (droppedFrames s.videosrc).length < 2 ^ 32 := by
    rw [← hlen]
    exact hfit.last
  have ho := hfit.overall
  simp only [Account.push, hnil, hlen]
  simp only [videoAccount, Account.mk.injEq]
  refine ⟨?_, ?_, ?_, ?_, ?_, trivial, trivial, rfl⟩
  · cases reset with
    | true => exact overall_counted (droppedFrames s.videosrc) ho
    | false => simp
  · cases reset with
    | true => exact last_counted (droppedFrames s.videosrc) hcounts
    | false => simp [hr rfl]
  · rw [overflowed_release, if_pos rfl, hbuf, droppedFrames]
  · simp only [GstAjaVideoSrc.queueFrame, List.map_append, entries_write_back, hleft]
    rfl
  · rw [hpc, Option.map_none]

theorem audio_account_push {b : AjaAudioBuff} {ts st : ℕ} {pc : WorkerPc}
    (hpc : packetInHand pc = none) (hfit : CountsFit (audioAccount reset s))
    (hr : reset = false → droppedPackets s.audiosrc = []) :
    audioAccount reset { s with
      pc := pc
      audiosrc := s.audiosrc.queuePacket b ts st
      audio := s.audio.release .overflow
        (audioBuffers (popped s.audiosrc.queueSize s.audiosrc.currentPackets)) } =
      (audioAccount reset s).push (audioCounters b) := by
  have hlen := audio_surplus reset s
  have hnil : (audioAccount reset s).surplus = [] ↔ (droppedPackets s.audiosrc).length = 0 := by
    rw [← hlen, List.length_eq_zero_iff]
  have hleft := (overflow_map audioEntry s.audiosrc.queueSize s.audiosrc.currentPackets).2
  have hcounts : (audioAccount reset s).last + (droppedPackets s.audiosrc).length < 2 ^ 32 := by
    rw [← hlen]
    exact hfit.last
  have ho := hfit.overall
  simp only [Account.push, hnil, hlen]
  simp only [audioAccount, Account.mk.injEq]
  refine ⟨?_, ?_, ?_, ?_, ?_, trivial, trivial, rfl⟩
  · cases reset with
    | true => exact overall_counted (droppedPackets s.audiosrc) ho
    | false => simp
  · cases reset with
    | true => exact last_counted (droppedPackets s.audiosrc) hcounts
    | false => simp [hr rfl]
  · rw [overflowed_release, if_pos rfl, audioBuffers, List.length_map, droppedPackets]
  · simp only [GstAjaAudioSrc.queuePacket, List.map_append, hleft]
    rfl
  · rw [hpc, Option.map_none]

theorem counts_fit {a : Account (ℕ × ℕ)} (h : Exact Prod.fst Fits a) {x : ℕ × ℕ}
    (hx : a.hand = some x) (hl : a.last + a.surplus.length < 2 ^ 32) : CountsFit a := by
  have hin : x ∈ a.inside := by simp [Account.inside, hx]
  have habove : a.removed < x.1 := h.above x hin
  have hfit : x.1 + x.2 < 2 ^ 64 := h.good x (Or.inl hin)
  have hsum := h.sum
  exact ⟨by omega, hl⟩

def VideoTimely (reset : Bool) (s : Pipeline) : Event → Prop
  | .capture _ => s.worker.processedFrames + 1 + s.worker.droppedFrames < 2 ^ 64
  | .queueFrame => if reset then TimelyFrame s
    else s.videosrc.flushing = false → droppedFrames s.videosrc = []
  | .videoUnlockStop | .videoStop => s.videoTaken = none
  | .videoStartReset => False
  | _ => True

def AudioTimely (reset : Bool) (s : Pipeline) : Event → Prop
  | .capture _ => s.worker.processedFrames + 1 + s.worker.droppedFrames < 2 ^ 64
  | .queuePacket => if reset then TimelyPacket s
    else s.audiosrc.flushing = false → droppedPackets s.audiosrc = []
  | .audioUnlockStop | .audioStopPop => s.audioTaken = none
  | .audioStartReset => False
  | _ => True

theorem video_queue_step {v : AjaVideoBuff} {a : AjaAudioBuff} {ts st : ℕ} {had : Bool}
    (hq : 0 < s.videosrc.queueSize) (h : Exact Prod.fst Fits (videoAccount reset s))
    (ht : VideoTimely reset s .queueFrame) (hpc : s.pc = .queueFrame v a ts st had)
    (hf : s.videosrc.flushing = false) :
    Exact Prod.fst Fits (videoAccount reset { s with
      pc := .audioCallback a (some (.queue ts st had))
      videosrc := s.videosrc.queueFrame v ts st had
      video := s.video.release .overflow
        (videoBuffers (popped s.videosrc.queueSize s.videosrc.currentFrames)) }) := by
  have hx : (videoAccount reset s).hand = some (videoCounters v) := by
    simp [videoAccount, hpc, frameInHand]
  have hlen := video_surplus reset s
  cases reset with
  | true =>
    have htimely := (show TimelyFrame s from ht) hf
    have hfit := counts_fit h hx (by rw [hlen]; exact htimely.1)
    rw [video_account_push (by rfl) hfit nofun]
    apply h.push hx hq
    intro hp hs y hy
    have hdrop : droppedFrames s.videosrc = [] := by
      rw [← List.length_eq_zero_iff, ← hlen, hs, List.length_nil]
    have hpop : popped s.videosrc.queueSize s.videosrc.currentFrames ≠ [] := by
      intro hnil
      apply hp
      change popped _ (s.videosrc.currentFrames.map videoEntry) = []
      rw [(overflow_map videoEntry _ _).1]
      exact (congrArg _ hnil).trans List.map_nil
    obtain ⟨z, hz, rfl⟩ := Option.map_eq_some_iff.mp hy
    have hle := htimely.2 hpop hdrop z hz
    have hsum := h.sum
    exact hsum.symm.le.trans hle
  | false =>
    have htimely : droppedFrames s.videosrc = [] :=
      (show s.videosrc.flushing = false → droppedFrames s.videosrc = [] from ht) hf
    have hz : (videoAccount false s).surplus = [] := by
      rw [← List.length_eq_zero_iff, hlen, htimely, List.length_nil]
    have hfit := counts_fit h hx (by rw [hz]; exact Nat.two_pow_pos 32)
    rw [video_account_push (by rfl) hfit fun _ => htimely]
    apply h.push hx hq
    intro _ _ y hy
    have hle := (h.taken y hy).2
    have hsum : 0 + 0 = (videoAccount false s).removed := h.sum
    omega

theorem audio_queue_step {b : AjaAudioBuff} {ts st : ℕ} (hq : 0 < s.audiosrc.queueSize)
    (h : Exact Prod.fst Fits (audioAccount reset s)) (ht : AudioTimely reset s .queuePacket)
    (hpc : s.pc = .queuePacket b ts st) (hf : s.audiosrc.flushing = false) :
    Exact Prod.fst Fits (audioAccount reset { s with
      pc := .idle
      audiosrc := s.audiosrc.queuePacket b ts st
      audio := s.audio.release .overflow
        (audioBuffers (popped s.audiosrc.queueSize s.audiosrc.currentPackets)) }) := by
  have hx : (audioAccount reset s).hand = some (audioCounters b) := by
    simp [audioAccount, hpc, packetInHand]
  have hlen := audio_surplus reset s
  have hnil : reset = false → droppedPackets s.audiosrc = [] := by
    rintro rfl
    exact (show s.audiosrc.flushing = false → droppedPackets s.audiosrc = [] from ht) hf
  have hlast : (audioAccount reset s).last + (audioAccount reset s).surplus.length < 2 ^ 32 := by
    rw [hlen]
    cases reset with
    | true => exact (show TimelyPacket s from ht) hf
    | false => simp [hnil rfl, audioAccount]
  rw [audio_account_push (by rfl) (counts_fit h hx hlast) hnil]
  apply h.push hx hq
  -- there are no markers among the packets
  intro hp hs
  have hpop : droppedPackets s.audiosrc = [] := by
    rw [← List.length_eq_zero_iff, ← hlen, hs, List.length_nil]
  exfalso
  apply hp
  change popped _ (s.audiosrc.currentPackets.map audioEntry) = []
  rw [(overflow_map audioEntry _ _).1]
  exact (congrArg _ hpop).trans List.map_nil

theorem video_removed {e : Event} (h : s.next videoInfoFromCaps e = some t) :
    overflowed t.video = overflowed s.video +
      if e = .queueFrame ∧ s.videosrc.flushing = false then (droppedFrames s.videosrc).length
      else 0 := by
  rcases side_cases e with ⟨ac, rfl⟩ | ⟨d, rfl⟩ | he | he
  · obtain ⟨-, rfl⟩ := status_eq h
    simp
  · obtain ⟨-, rfl⟩ := capture_eq h
    simp [overflowed]
  · have hno : e ≠ .queueFrame := by rintro rfl; cases he
    simp [(video_kept he h).trail, hno]
  cases e with
  | nullVideo => obtain ⟨-, rfl | rfl⟩ := null_video_cases h <;> simp
  | videoCallback =>
    obtain ⟨v, a, -, ⟨-, rfl⟩ | ⟨-, rfl⟩⟩ := video_callback_cases h <;> simp
  | gotFrame env =>
    obtain ⟨v, a, verdict, -, -, pc, video, rfl, hv⟩ := got_frame_cases h
    rcases hv with ⟨-, rfl, rfl⟩ | ⟨-, rfl, rfl⟩ | ⟨ts, st, had, -, rfl, rfl⟩ <;> simp
  | queueFrame =>
    obtain ⟨v, a, ts, st, had, -, ⟨hf, rfl⟩ | ⟨hf, rfl⟩⟩ := queue_frame_cases h
    · simp [hf]
    · simp [hf, droppedFrames,
        (entries_length (popped s.videosrc.queueSize s.videosrc.currentFrames)).2]
  | videoPop =>
    obtain ⟨f, src, -, -, -, _, _, _, _, _, _, rfl⟩ := video_pop_cases h
    simp
  | videoReturn =>
    obtain ⟨f, b, -, rfl⟩ := video_return_eq h
    simp
  | videoStop =>
    obtain ⟨-, rfl⟩ := video_stop_eq h
    simp
  | videoUnlock | videoUnlockStop | videoStartReset =>
    cases h
    simp [Pipeline.videoUnlockStop]
  | workerEnds =>
    obtain ⟨-, rfl⟩ := worker_ends_eq h
    simp
  | _ => cases he

theorem audio_removed {e : Event} (h : s.next videoInfoFromCaps e = some t) :
    overflowed t.audio = overflowed s.audio +
      if e = .queuePacket ∧ s.audiosrc.flushing = false then (droppedPackets s.audiosrc).length
      else 0 := by
  rcases side_cases e with ⟨ac, rfl⟩ | ⟨d, rfl⟩ | he | he
  · obtain ⟨-, rfl⟩ := status_eq h
    simp
  · obtain ⟨-, rfl⟩ := capture_eq h
    simp [overflowed]
  · cases e with
    | workerEnds =>
      obtain ⟨-, rfl⟩ := worker_ends_eq h
      simp
    | nullAudio => obtain ⟨-, rfl | rfl⟩ := null_audio_cases h <;> simp
    | audioCallback =>
      obtain ⟨a, verdict, -, ⟨-, rfl⟩ | ⟨-, rfl⟩⟩ := audio_callback_cases h <;> simp
    | gotPacket =>
      obtain ⟨a, memory, -, pc, audio, rfl, hv⟩ := got_packet_cases h
      rcases hv with ⟨-, rfl, rfl⟩ | ⟨-, rfl, rfl⟩ | ⟨ts, st, -, rfl, rfl⟩ <;> simp
    | queuePacket =>
      obtain ⟨a, ts, st, -, ⟨hf, rfl⟩ | ⟨hf, rfl⟩⟩ := queue_packet_cases h
      · simp [hf]
      · simp [hf, droppedPackets, audioBuffers]
    | audioPop =>
      obtain ⟨p, src, -, -, -, rfl⟩ := audio_pop_eq h
      simp
    | audioReturn =>
      obtain ⟨p, _, _, -, rfl⟩ := audio_return_eq h
      simp
    | audioStopPop =>
      cases h
      obtain ⟨-, hs⟩ | ⟨p, q, -, hs⟩ := audio_stop_pop_cases s <;> rw [hs] <;> simp
    | audioUnlock | audioUnlockStop | audioReadyToPaused | audioEnable | audioStartReset
    | audioStop =>
      cases h
      simp [Pipeline.audioUnlockStop]
    | _ => cases he
  · have hno : e ≠ .queuePacket := by rintro rfl; cases he
    simp [(audio_kept he h).trail, hno]

theorem video_account_prepare (reset : Bool) (s : Pipeline) (env : CaptureEnv)
    (b : Option AjaVideoBuff) (changes : List SignalChange) {pc : WorkerPc}
    (h : frameInHand pc = frameInHand s.pc) :
    ∃ n, videoAccount reset { s with
      videosrc := (s.videosrc.gotFramePrepare s.mode env b).1
      changes := changes
      pc := pc } = (videoAccount reset s).mark n := by
  have settings := prepare_settings s.videosrc s.mode env b
  have frames := prepare_frames s.videosrc s.mode env b
  by_cases hf : s.videosrc.flushing = true
  · refine ⟨0, ?_⟩
    simp [videoAccount, Account.mark, settings.skippedOverall, settings.skippedLast,
      settings.queueSize, frames, hf, h]
  · refine ⟨(s.videosrc.change b).toList.length, ?_⟩
    have hm := entries_markers (s.videosrc.change b).toList
    rw [List.map_map] at hm
    simp [videoAccount, Account.mark, settings.skippedOverall, settings.skippedLast,
      settings.queueSize, frames, hf, h, hm]

theorem video_pipe_step {e : Event} (hq : 0 < s.videosrc.queueSize)
    (h : Exact Prod.fst Fits (videoAccount reset s)) (ht : VideoTimely reset s e)
    (hn : s.next videoInfoFromCaps e = some t) :
    Exact Prod.fst Fits (videoAccount reset t) := by
  cases e with
  | status ac =>
    obtain ⟨-, rfl⟩ := status_eq hn
    simpa [videoAccount] using h
  | capture d =>
    obtain ⟨hpc, rfl⟩ := capture_eq hn
    have hnone : (videoAccount reset s).hand = none := by
      simp [videoAccount, hpc, frameInHand]
    exact h.produce (x := (s.worker.processedFrames + 1, s.worker.droppedFrames)) hnone
      rfl ht
  | nullVideo =>
    obtain ⟨hpc, rfl | rfl⟩ := null_video_cases hn
    · have hh : frameInHand .nullAudio = frameInHand s.pc := by rw [hpc]; rfl
      obtain ⟨n, hm⟩ := video_account_prepare reset s ⟨⟨0, 0, 0⟩, none⟩ none
        (s.changes ++ (s.videosrc.change none).toList) hh
      exact hm ▸ h.mark n
    · simpa [videoAccount, hpc, frameInHand] using h
  | videoCallback =>
    obtain ⟨v, a, hpc, ⟨-, rfl⟩ | ⟨-, rfl⟩⟩ := video_callback_cases hn
    · simpa [videoAccount, hpc, frameInHand] using h
    · simpa [videoAccount, Account.lose, frameInHand] using h.lose
  | gotFrame env =>
    obtain ⟨v, a, verdict, hpc, -, pc, video, rfl, hv⟩ := got_frame_cases hn
    obtain ⟨n, hm⟩ := video_account_prepare reset s env (some v)
      (s.changes ++ (s.videosrc.change (some v)).toList) (rfl : _ = frameInHand s.pc)
    have marked := h.mark n
    rw [← hm] at marked
    rcases hv with ⟨-, rfl, rfl⟩ | ⟨-, rfl, rfl⟩ | ⟨ts, st, had, -, rfl, rfl⟩
    · simpa [videoAccount, Account.lose, frameInHand] using marked.lose
    · simpa [videoAccount, Account.lose, frameInHand] using marked.lose
    · simpa [videoAccount, hpc, frameInHand] using marked
  | queueFrame =>
    obtain ⟨v, a, ts, st, had, hpc, ⟨-, rfl⟩ | ⟨hf, rfl⟩⟩ := queue_frame_cases hn
    · simpa [videoAccount, Account.lose, frameInHand] using h.lose
    · exact video_queue_step hq h ht hpc hf
  | videoPop =>
    obtain ⟨f, src, hnone, -, hsrc, _, _, _, _, _, _, rfl⟩ := video_pop_cases hn
    have htake := h.take (x := videoEntry f) (q := src.currentFrames.map videoEntry)
      (by simp [videoAccount, hsrc]) (by simp [videoAccount, hnone])
    simpa [videoAccount, hsrc, Account.take, videoEntry, Function.comp_def] using htake
  | videoReturn =>
    obtain ⟨f, b, ht, rfl⟩ := video_return_eq hn
    simpa [videoAccount, Account.report] using h.report
  | videoUnlockStop =>
    cases hn
    have hnone : s.videoTaken = none := ht
    have hd := h.drain (q := []) (List.nil_sublist _) (by simp [videoAccount, hnone])
    simpa [videoAccount, Account.drain, Pipeline.videoUnlockStop, GstAjaVideoSrc.unlockStop]
      using hd
  | videoStop =>
    obtain ⟨-, rfl⟩ := video_stop_eq hn
    have hnone : s.videoTaken = none := ht
    have hd := h.drain (q := []) (List.nil_sublist _) (by simp [videoAccount, hnone])
    simpa [videoAccount, Account.drain, GstAjaVideoSrc.stopDrain] using hd
  | videoUnlock =>
    cases hn
    exact h
  | videoStartReset => exact ht.elim
  | workerEnds | nullAudio | audioCallback | gotPacket | queuePacket | audioPop | audioReturn
  | audioUnlock | audioUnlockStop | audioReadyToPaused | audioEnable | audioStartReset
  | audioStop | audioStopPop =>
    rw [video_account_kept (video_kept rfl hn)]
    exact h

theorem audio_pipe_step {e : Event} (hq : 0 < s.audiosrc.queueSize)
    (h : Exact Prod.fst Fits (audioAccount reset s)) (ht : AudioTimely reset s e)
    (hn : s.next videoInfoFromCaps e = some t) :
    Exact Prod.fst Fits (audioAccount reset t) := by
  cases e with
  | status ac =>
    obtain ⟨-, rfl⟩ := status_eq hn
    simpa [audioAccount] using h
  | capture d =>
    obtain ⟨hpc, rfl⟩ := capture_eq hn
    have hnone : (audioAccount reset s).hand = none := by
      simp [audioAccount, hpc, packetInHand]
    exact h.produce (x := (s.worker.processedFrames + 1, s.worker.droppedFrames)) hnone
      rfl ht
  | nullAudio =>
    obtain ⟨hpc, rfl | rfl⟩ := null_audio_cases hn
    · simpa [audioAccount, hpc, packetInHand] using h
    · simpa [audioAccount, hpc, packetInHand] using h
  | audioCallback =>
    obtain ⟨a, verdict, hpc, ⟨-, rfl⟩ | ⟨-, rfl⟩⟩ := audio_callback_cases hn
    · simpa [audioAccount, hpc, packetInHand] using h
    · simpa [audioAccount, Account.lose, packetInHand] using h.lose
  | gotPacket =>
    obtain ⟨a, memory, hpc, pc, audio, rfl, hv⟩ := got_packet_cases hn
    rcases hv with ⟨-, rfl, rfl⟩ | ⟨-, rfl, rfl⟩ | ⟨ts, st, -, rfl, rfl⟩
    · simpa [audioAccount, Account.lose, packetInHand] using h.lose
    · simpa [audioAccount, Account.lose, packetInHand] using h.lose
    · simpa [audioAccount, hpc, packetInHand] using h
  | queuePacket =>
    obtain ⟨a, ts, st, hpc, ⟨-, rfl⟩ | ⟨hf, rfl⟩⟩ := queue_packet_cases hn
    · simpa [audioAccount, Account.lose, packetInHand] using h.lose
    · exact audio_queue_step hq h ht hpc hf
  | audioPop =>
    obtain ⟨p, src, hnone, -, hsrc, rfl⟩ := audio_pop_eq hn
    have htake := h.take (x := audioEntry p) (q := src.currentPackets.map audioEntry)
      (by simp [audioAccount, hsrc]) (by simp [audioAccount, hnone])
    simpa [audioAccount, hsrc, Account.take, audioEntry] using htake
  | audioReturn =>
    obtain ⟨p, _, _, ht, rfl⟩ := audio_return_eq hn
    simpa [audioAccount, Account.report] using h.report
  | audioUnlockStop =>
    cases hn
    have hnone : s.audioTaken = none := ht
    have hd := h.drain (q := []) (List.nil_sublist _) (by simp [audioAccount, hnone])
    simpa [audioAccount, Account.drain, Pipeline.audioUnlockStop, GstAjaAudioSrc.unlockStop]
      using hd
  | audioStopPop =>
    cases hn
    have hnone : s.audioTaken = none := ht
    obtain ⟨-, hs⟩ | ⟨p, q, hq, hs⟩ := audio_stop_pop_cases s
    · rw [hs]
      exact h
    · have hd := h.drain (q := q.map audioEntry)
        (by simp [audioAccount, hq]) (by simp [audioAccount, hnone])
      rw [hs]
      simpa [audioAccount, Account.drain] using hd
  | audioUnlock | audioReadyToPaused | audioEnable | audioStop =>
    cases hn
    exact h
  | audioStartReset => exact ht.elim
  | workerEnds | nullVideo | videoCallback | gotFrame env | queueFrame | videoPop | videoReturn
  | videoUnlock | videoUnlockStop | videoStop | videoStartReset =>
    rw [audio_account_kept (audio_kept rfl hn)]
    exact h

/-! ## All runs -/

/-- What holds in every state of a run. Before the reset the accounts are those of counters
that are zero; counters that were zero to begin with are right without one. -/
structure Invariant (r : QosRun) : Prop where
  video : r.videoReset = true ∨ overflowed r.pipe.video = 0 →
    Exact Prod.fst Fits (videoAccount r.videoReset r.pipe)
  audio : r.audioReset = true ∨ overflowed r.pipe.audio = 0 →
    Exact Prod.fst Fits (audioAccount r.audioReset r.pipe)
  fresh : r.audioFresh = true → Exact Prod.fst Fits (audioAccount true r.pipe)
  reset_past : r.audioReset = true → r.audioPast = true
  past : r.audioPast = true → r.audioReset = true ∨ r.audioFresh = true
  video_queue_size : 0 < r.pipe.videosrc.queueSize
  audio_queue_size : 0 < r.pipe.audiosrc.queueSize

theorem video_account_reset (s : Pipeline) :
    videoAccount true { s with videosrc := s.videosrc.startReset } = videoAccount false s := by
  simp [videoAccount, GstAjaVideoSrc.startReset]

theorem audio_account_reset (s : Pipeline) :
    audioAccount true { s with audiosrc := s.audiosrc.startReset } = audioAccount false s := by
  simp [audioAccount, GstAjaAudioSrc.startReset]

theorem video_timely {r : QosRun} {e : Event} (ht : Timely r (.pipeline e))
    (hp : r.permits e = true) (he : e ≠ .videoStartReset)
    (hd : r.videoReset = false → e = .queueFrame → r.pipe.videosrc.flushing = false →
      droppedFrames r.pipe.videosrc = []) : VideoTimely r.videoReset r.pipe e := by
  cases e with
  | videoStartReset => exact absurd rfl he
  | capture d => exact ht
  | queueFrame =>
    cases hr : r.videoReset with
    | true => exact (show r.videoReset = true → TimelyFrame r.pipe from ht) hr
    | false => exact hd hr rfl
  | videoUnlockStop | videoStop => exact Option.isNone_iff_eq_none.mp hp
  | _ => trivial

theorem audio_timely {r : QosRun} {e : Event} (ht : Timely r (.pipeline e))
    (hp : r.permits e = true) (he : e ≠ .audioStartReset) {reset : Bool}
    (hr : reset = true → (r.audioReset || r.audioFresh) = true)
    (hd : reset = false → e = .queuePacket → r.pipe.audiosrc.flushing = false →
      droppedPackets r.pipe.audiosrc = []) : AudioTimely reset r.pipe e := by
  cases e with
  | audioStartReset => exact absurd rfl he
  | capture d => exact ht
  | queuePacket =>
    cases reset with
    | true => exact (show _ → TimelyPacket r.pipe from ht) (hr rfl)
    | false => exact hd rfl rfl
  | audioUnlockStop | audioStopPop => exact Option.isNone_iff_eq_none.mp hp
  | _ => trivial

theorem nothing_dropped {α : Type*} {p : Prop} [Decidable p] {dropped : List α} {before now : ℕ}
    (h : now = before + if p then dropped.length else 0) (hz : now = 0) :
    before = 0 ∧ (p → dropped = []) := by
  rw [hz] at h
  refine ⟨by omega, ?_⟩
  intro hp
  rw [if_pos hp] at h
  exact List.length_eq_zero_iff.mp (by omega)

theorem video_step {r : QosRun} {u : Pipeline} {e : Event} (h : Invariant r)
    (ht : Timely r (.pipeline e)) (hp : r.permits e = true)
    (hn : r.pipe.next videoInfoFromCaps e = some u)
    (hc : (r.videoReset || e == .videoStartReset) = true ∨ overflowed u.video = 0) :
    Exact Prod.fst Fits (videoAccount (r.videoReset || e == .videoStartReset) u) := by
  by_cases he : e = .videoStartReset
  · subst he
    have hf : r.videoReset = false := by simpa [QosRun.permits] using hp
    have hv := h.video (Or.inr ht)
    rw [hf, ← video_account_reset] at hv
    cases hn
    simpa using hv
  have hne : (e == Event.videoStartReset) = false := beq_eq_false_iff_ne.mpr he
  rw [hne, Bool.or_false] at hc ⊢
  have hremoved := video_removed hn
  -- whatever a push drops before the reset is on record
  have hnone : r.videoReset = false → overflowed r.pipe.video = 0 ∧
      (e = .queueFrame → r.pipe.videosrc.flushing = false →
        droppedFrames r.pipe.videosrc = []) := by
    intro hr
    have hzero : overflowed u.video = 0 := hc.resolve_left (by simp [hr])
    obtain ⟨hbefore, hdropped⟩ := nothing_dropped hremoved hzero
    exact ⟨hbefore, fun hq hf => hdropped ⟨hq, hf⟩⟩
  refine video_pipe_step h.video_queue_size (h.video ?_)
    (video_timely ht hp he fun hr => (hnone hr).2) hn
  cases hr : r.videoReset with
  | true => exact Or.inl rfl
  | false => exact Or.inr (hnone hr).1

theorem audio_step {r : QosRun} {u : Pipeline} {e : Event} (h : Invariant r)
    (ht : Timely r (.pipeline e)) (hp : r.permits e = true)
    (hn : r.pipe.next videoInfoFromCaps e = some u)
    (hc : (r.audioReset || e == .audioStartReset) = true ∨ overflowed u.audio = 0) :
    Exact Prod.fst Fits (audioAccount (r.audioReset || e == .audioStartReset) u) := by
  by_cases he : e = .audioStartReset
  · subst he
    have hpast : r.audioPast = false := by simpa [QosRun.permits] using hp
    have hf : r.audioReset = false := by
      rw [Bool.eq_false_iff]
      intro hr
      exact Bool.false_ne_true (hpast.symm.trans (h.reset_past hr))
    have ha := h.audio (Or.inr ht)
    rw [hf, ← audio_account_reset] at ha
    cases hn
    simpa using ha
  have hne : (e == Event.audioStartReset) = false := beq_eq_false_iff_ne.mpr he
  rw [hne, Bool.or_false] at hc ⊢
  have hremoved := audio_removed hn
  have hnone : r.audioReset = false → overflowed r.pipe.audio = 0 ∧
      (e = .queuePacket → r.pipe.audiosrc.flushing = false →
        droppedPackets r.pipe.audiosrc = []) := by
    intro hr
    have hzero : overflowed u.audio = 0 := hc.resolve_left (by simp [hr])
    obtain ⟨hbefore, hdropped⟩ := nothing_dropped hremoved hzero
    exact ⟨hbefore, fun hq hf => hdropped ⟨hq, hf⟩⟩
  refine audio_pipe_step h.audio_queue_size (h.audio ?_)
    (audio_timely ht hp he (by simp +contextual) fun hr => (hnone hr).2) hn
  cases hr : r.audioReset with
  | true => exact Or.inl rfl
  | false => exact Or.inr (hnone hr).1

theorem fresh_step {r : QosRun} {u : Pipeline} {e : Event} (h : Invariant r)
    (ht : Timely r (.pipeline e)) (hp : r.permits e = true)
    (hn : r.pipe.next videoInfoFromCaps e = some u) (hf : r.audioFresh = true) :
    Exact Prod.fst Fits (audioAccount true u) := by
  by_cases he : e = .audioStartReset
  · subst he
    have hreset := audio_step h ht hp hn (Or.inl (by simp))
    simpa using hreset
  · exact audio_pipe_step h.audio_queue_size (h.fresh hf)
      (audio_timely ht hp he (by simp [hf]) nofun) hn

end AjaQosAccounting
