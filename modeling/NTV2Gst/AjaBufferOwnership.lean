import NTV2Gst.AjaPipelineSteps
import NTV2Gst.HandoverLedger

/-!
# Ownership of captured buffers

Each kind of buffer is read off the pipeline as a ledger: in the hand of the worker,
in the queue, taken by `create`, delivered, or given up on one of the listed paths.
Every step of the pipeline is a sequence of ledger moves, for both kinds.
-/
namespace AjaBufferOwnership

open TransitionRuns DropOldest HandoverLedger GstAjaModes AjaVideoSrc AjaAudioSrc
  AjaCapturePipeline AjaPipelineSteps

def videoInHand : WorkerPc → Option ℕ
  | .videoCallback v _ | .gotFrame v _ | .queueFrame v _ _ _ _ => some v.buffer
  | _ => none

def audioInHand : WorkerPc → Option ℕ
  | .videoCallback _ a | .gotFrame _ a | .queueFrame _ a _ _ _ | .audioCallback a _
  | .gotPacket a _ | .queuePacket a _ _ => some a.buffer
  | _ => none

def videoLedger (s : Pipeline) : Ledger ℕ Path where
  hand := videoInHand s.pc
  queue := videoBuffers s.videosrc.currentFrames
  taken := s.videoTaken.map (·.2.buffer)
  captured := s.video.captured
  delivered := s.video.delivered.map (·.buffer)
  givenUp := s.video.released

def audioLedger (s : Pipeline) : Ledger ℕ Path where
  hand := audioInHand s.pc
  queue := audioBuffers s.audiosrc.currentPackets
  taken := s.audioTaken.map (·.audioBuff.buffer)
  captured := s.audio.captured
  delivered := s.audio.delivered.map (·.buffer)
  givenUp := s.audio.released

structure Fresh (s : Pipeline) : Prop where
  video : ∀ x ∈ s.video.captured, x < s.nextBuffer
  audio : ∀ x ∈ s.audio.captured, x < s.nextBuffer

/-! ## Queues as lists of buffers -/

theorem video_buffers_append (p q : List AjaCaptureVideoFrame) :
    videoBuffers (p ++ q) = videoBuffers p ++ videoBuffers q := by simp [videoBuffers]

theorem video_buffers_markers (changes : List SignalChange) :
    videoBuffers (changes.map marker) = [] := by
  simp [videoBuffers, marker, List.filterMap_eq_nil_iff]

theorem video_buffers_write_back (change : SignalChange) (q : List AjaCaptureVideoFrame) :
    videoBuffers (writeBack change q) = videoBuffers q := by
  cases q with
  | nil => rfl
  | cons f q =>
    by_cases hc : change = .noChange <;> simp [writeBack, videoBuffers, List.filterMap_cons, hc]

theorem video_buffers_prepare (src : GstAjaVideoSrc) (mode : GstAjaMode) (env : CaptureEnv)
    (videoBuff : Option AjaVideoBuff) :
    videoBuffers (src.gotFramePrepare mode env videoBuff).1.currentFrames =
      videoBuffers src.currentFrames := by
  rw [prepare_frames, video_buffers_append]
  split
  · simp [videoBuffers]
  · rw [video_buffers_markers, List.append_nil]

theorem video_buffers_lose_signal (src : GstAjaVideoSrc) :
    videoBuffers src.loseSignal.currentFrames = videoBuffers src.currentFrames := by
  unfold GstAjaVideoSrc.loseSignal
  split
  · rfl
  · rw [push_marker_frames, video_buffers_append]
    split
    · simp [videoBuffers]
    · exact (congrArg _ (video_buffers_markers [_])).trans (List.append_nil _)

theorem video_buffers_queue_frame (src : GstAjaVideoSrc) (v : AjaVideoBuff) (ts st : ℕ)
    (had : Bool) :
    videoBuffers (src.queueFrame v ts st had).currentFrames =
      videoBuffers (left src.queueSize src.currentFrames) ++ [v.buffer] := by
  simp only [GstAjaVideoSrc.queueFrame, video_buffers_append, video_buffers_write_back]
  rfl

theorem video_buffers_split (bound : ℕ) (q : List AjaCaptureVideoFrame) :
    videoBuffers q = videoBuffers (popped bound q) ++ videoBuffers (left bound q) := by
  rw [← video_buffers_append, popped_append_left]

theorem audio_buffers_queue_packet (src : GstAjaAudioSrc) (a : AjaAudioBuff) (ts st : ℕ) :
    audioBuffers (src.queuePacket a ts st).currentPackets =
      audioBuffers (left src.queueSize src.currentPackets) ++ [a.buffer] := by
  simp [GstAjaAudioSrc.queuePacket, audioBuffers]

theorem audio_buffers_split (bound : ℕ) (q : List AjaCaptureAudioPacket) :
    audioBuffers q = audioBuffers (popped bound q) ++ audioBuffers (left bound q) := by
  simp only [audioBuffers, ← List.map_append, popped_append_left]

/-! ## Ledger moves -/

theorem shed_push {l : Ledger ℕ Path} {x : ℕ} {old rest : List ℕ} (hh : l.hand = some x)
    (hq : l.queue = old ++ rest) :
    Moves .create l { l with
      hand := none
      queue := rest ++ [x]
      givenUp := l.givenUp ++ old.map (·, Path.overflow) } := by
  refine .cons (e := .shed old.length .overflow) rfl (.of_move (e := .push) ?_)
  simp [Ledger.move, hh, hq]

theorem give_up {l : Ledger ℕ Path} {x : ℕ} (hh : l.hand = some x) {w : Path}
    (hw : w ≠ .create) :
    Moves .create l { l with hand := none, givenUp := l.givenUp ++ [(x, w)] } :=
  .of_move (e := .give w) (by simp [Ledger.move, hh, hw])

theorem drain_all (l : Ledger ℕ Path) {w : Path} (hw : w ≠ .create) :
    Moves .create l { l with queue := [], givenUp := l.givenUp ++ l.queue.map (·, w) } :=
  .of_move (e := .shed l.queue.length w) (by simp [Ledger.move, hw])

theorem take_head {l : Ledger ℕ Path} {x : ℕ} {q : List ℕ} (hq : l.queue = x :: q)
    (ht : l.taken = none) : Moves .create l { l with queue := q, taken := some x } :=
  .of_move (e := .take) (by simp [Ledger.move, hq, ht])

theorem deliver_taken {l : Ledger ℕ Path} {x : ℕ} (ht : l.taken = some x) :
    Moves .create l { l with
      taken := none
      delivered := l.delivered ++ [x]
      givenUp := l.givenUp ++ [(x, Path.create)] } :=
  .of_move (e := .deliver) (by simp [Ledger.move, ht])

variable {videoInfoFromCaps : GstCaps → GstVideoInfo} {s t : Pipeline}

theorem video_in_hand_eq (pc : WorkerPc) : videoInHand pc = (frameInHand pc).map (·.buffer) := by
  cases pc <;> rfl

theorem audio_in_hand_eq (pc : WorkerPc) : audioInHand pc = (packetInHand pc).map (·.buffer) := by
  cases pc <;> rfl

theorem same_video_ledger (h : VideoKept s t) : videoLedger s = videoLedger t := by
  simp only [videoLedger, video_in_hand_eq, h.frame_in_hand, h.videosrc, h.taken, h.trail]

theorem same_audio_ledger (h : AudioKept s t) : audioLedger s = audioLedger t := by
  simp only [audioLedger, audio_in_hand_eq, h.in_hand, h.audiosrc, h.taken, h.trail]

theorem video_step (hf : Fresh s) {e : Event} (h : s.next videoInfoFromCaps e = some t) :
    Moves .create (videoLedger s) (videoLedger t) := by
  cases e with
  | status ac =>
    obtain ⟨-, rfl⟩ := status_eq h
    exact .refl _
  | capture d =>
    obtain ⟨hpc, rfl⟩ := capture_eq h
    have hx : s.nextBuffer ∉ s.video.captured := fun hm => Nat.lt_irrefl _ (hf.video _ hm)
    exact .of_move (e := .capture s.nextBuffer)
      (by simp [Ledger.move, videoLedger, hpc, videoInHand, hx, ACInputWorker.videoBuff])
  | nullVideo =>
    obtain ⟨hpc, rfl | rfl⟩ := null_video_cases h <;>
      exact .of_eq (by simp [videoLedger, hpc, videoInHand, video_buffers_lose_signal])
  | videoCallback =>
    obtain ⟨v, a, hpc, ⟨-, rfl⟩ | ⟨-, rfl⟩⟩ := video_callback_cases h
    · exact .of_eq (by simp [videoLedger, hpc, videoInHand])
    · exact give_up (l := videoLedger s) (x := v.buffer)
        (by simp [videoLedger, hpc, videoInHand]) (by decide)
  | gotFrame env =>
    obtain ⟨v, a, verdict, hpc, -, pc, video, rfl, hv⟩ := got_frame_cases h
    have hh : (videoLedger s).hand = some v.buffer := by simp [videoLedger, hpc, videoInHand]
    have hq := video_buffers_prepare s.videosrc s.mode env (some v)
    rcases hv with ⟨-, rfl, rfl⟩ | ⟨-, rfl, rfl⟩ | ⟨ts, st, had, -, rfl, rfl⟩
    · simpa [videoLedger, hq, videoInHand, Trail.release] using
        give_up (w := .noSignal) hh (by decide)
    · simpa [videoLedger, hq, videoInHand, Trail.release] using
        give_up (w := .skipFirstTime) hh (by decide)
    · exact .of_eq (by simp [videoLedger, hpc, videoInHand, hq])
  | queueFrame =>
    obtain ⟨v, a, ts, st, had, hpc, ⟨-, rfl⟩ | ⟨-, rfl⟩⟩ := queue_frame_cases h
    all_goals
      have hh : (videoLedger s).hand = some v.buffer := by simp [videoLedger, hpc, videoInHand]
    · simpa [videoLedger, videoInHand, Trail.release] using
        give_up (w := .flushing) hh (by decide)
    · have hq := video_buffers_split s.videosrc.queueSize s.videosrc.currentFrames
      simpa [videoLedger, videoInHand, Trail.release, video_buffers_queue_frame] using
        shed_push hh hq
  | videoPop =>
    obtain ⟨f, src, hnone, -, hsrc, _, _, _, _, _, _, rfl⟩ := video_pop_cases h
    cases hb : f.videoBuff with
    | none => exact .of_eq (by simp [videoLedger, hsrc, videoBuffers, hb, hnone])
    | some b =>
      simpa [videoLedger, hb] using take_head (l := videoLedger s) (x := b.buffer)
        (q := videoBuffers src.currentFrames)
        (by simp [videoLedger, hsrc, videoBuffers, hb]) (by simp [videoLedger, hnone])
  | videoReturn =>
    obtain ⟨f, b, ht, rfl⟩ := video_return_eq h
    simpa [videoLedger, Trail.deliver, Trail.release, GstAjaVideoSrc.output] using
      deliver_taken (l := videoLedger s) (x := b.buffer) (by simp [videoLedger, ht])
  | videoUnlockStop =>
    cases h
    exact drain_all (videoLedger s) (w := .unlockStop) (by decide)
  | videoStop =>
    obtain ⟨-, rfl⟩ := video_stop_eq h
    exact drain_all (videoLedger s) (w := .stop) (by decide)
  | videoUnlock | videoStartReset => cases h; exact .refl _
  | workerEnds | nullAudio | audioCallback | gotPacket | queuePacket | audioPop | audioReturn
  | audioUnlock | audioUnlockStop | audioReadyToPaused | audioEnable | audioStartReset
  | audioStop | audioStopPop => exact .of_eq (same_video_ledger (video_kept rfl h))

theorem audio_step (hf : Fresh s) {e : Event} (h : s.next videoInfoFromCaps e = some t) :
    Moves .create (audioLedger s) (audioLedger t) := by
  cases e with
  | status ac =>
    obtain ⟨-, rfl⟩ := status_eq h
    exact .refl _
  | capture d =>
    obtain ⟨hpc, rfl⟩ := capture_eq h
    have hx : s.nextBuffer ∉ s.audio.captured := fun hm => Nat.lt_irrefl _ (hf.audio _ hm)
    exact .of_move (e := .capture s.nextBuffer)
      (by simp [Ledger.move, audioLedger, hpc, audioInHand, hx, ACInputWorker.audioBuff])
  | nullAudio =>
    obtain ⟨hpc, rfl | rfl⟩ := null_audio_cases h <;>
      exact .of_eq (by simp [audioLedger, hpc, audioInHand])
  | audioCallback =>
    obtain ⟨a, verdict, hpc, ⟨-, rfl⟩ | ⟨-, rfl⟩⟩ := audio_callback_cases h
    · exact .of_eq (by simp [audioLedger, hpc, audioInHand])
    · exact give_up (l := audioLedger s) (x := a.buffer)
        (by simp [audioLedger, hpc, audioInHand]) (by decide)
  | gotPacket =>
    obtain ⟨a, memory, hpc, pc, audio, rfl, hv⟩ := got_packet_cases h
    have hh : (audioLedger s).hand = some a.buffer := by simp [audioLedger, hpc, audioInHand]
    rcases hv with ⟨-, rfl, rfl⟩ | ⟨-, rfl, rfl⟩ | ⟨ts, st, -, rfl, rfl⟩
    · simpa [audioLedger, audioInHand, Trail.release] using
        give_up (w := .noSignal) hh (by decide)
    · simpa [audioLedger, audioInHand, Trail.release] using
        give_up (w := .skipFirstTime) hh (by decide)
    · exact .of_eq (by simp [audioLedger, hpc, audioInHand])
  | queuePacket =>
    obtain ⟨a, ts, st, hpc, ⟨-, rfl⟩ | ⟨-, rfl⟩⟩ := queue_packet_cases h
    all_goals
      have hh : (audioLedger s).hand = some a.buffer := by simp [audioLedger, hpc, audioInHand]
    · simpa [audioLedger, audioInHand, Trail.release] using
        give_up (w := .flushing) hh (by decide)
    · have hq := audio_buffers_split s.audiosrc.queueSize s.audiosrc.currentPackets
      simpa [audioLedger, audioInHand, Trail.release, audio_buffers_queue_packet] using
        shed_push hh hq
  | audioPop =>
    obtain ⟨p, src, hnone, -, hsrc, rfl⟩ := audio_pop_eq h
    simpa [audioLedger] using take_head (l := audioLedger s) (x := p.audioBuff.buffer)
      (q := audioBuffers src.currentPackets)
      (by simp [audioLedger, hsrc, audioBuffers]) (by simp [audioLedger, hnone])
  | audioReturn =>
    obtain ⟨p, _, _, ht, rfl⟩ := audio_return_eq h
    simpa [audioLedger, Trail.deliver, Trail.release] using
      deliver_taken (l := audioLedger s) (x := p.audioBuff.buffer) (by simp [audioLedger, ht])
  | audioUnlockStop =>
    cases h
    exact drain_all (audioLedger s) (w := .unlockStop) (by decide)
  | audioStopPop =>
    cases h
    obtain ⟨-, hs⟩ | ⟨p, q, hq, hs⟩ := audio_stop_pop_cases s <;> rw [hs]
    · exact .refl _
    · refine .of_move (e := .shed 1 .stop) ?_
      simp [Ledger.move, audioLedger, hq, audioBuffers, Trail.release]
  | audioUnlock | audioReadyToPaused | audioEnable | audioStartReset | audioStop =>
    cases h
    exact .refl _
  | workerEnds | nullVideo | videoCallback | gotFrame env | queueFrame | videoPop | videoReturn
  | videoUnlock | videoUnlockStop | videoStop | videoStartReset =>
    exact .of_eq (same_audio_ledger (audio_kept rfl h))

/-! ## Along a run -/

theorem captured_kept {e : Event} (h : s.next videoInfoFromCaps e = some t)
    (hc : ∀ d, e ≠ .capture d) :
    t.video.captured = s.video.captured ∧ t.audio.captured = s.audio.captured ∧
      t.nextBuffer = s.nextBuffer := by
  rcases side_cases e with ⟨ac, rfl⟩ | ⟨d, rfl⟩ | he | he
  · obtain ⟨-, rfl⟩ := status_eq h
    exact ⟨rfl, rfl, rfl⟩
  · exact absurd rfl (hc d)
  · have k := video_kept he h
    exact ⟨congrArg _ k.trail, k.captured, k.next_buffer⟩
  · have k := audio_kept he h
    exact ⟨k.captured, congrArg _ k.trail, k.next_buffer⟩

theorem fresh_step (hf : Fresh s) {e : Event} (h : s.next videoInfoFromCaps e = some t) :
    Fresh t := by
  by_cases hc : ∀ d, e ≠ .capture d
  · obtain ⟨hv, ha, hn⟩ := captured_kept h hc
    exact ⟨by rw [hv, hn]; exact hf.video, by rw [ha, hn]; exact hf.audio⟩
  · simp only [ne_eq, not_forall, not_not] at hc
    obtain ⟨d, rfl⟩ := hc
    obtain ⟨-, rfl⟩ := capture_eq h
    have grow : ∀ l : List ℕ, (∀ x ∈ l, x < s.nextBuffer) →
        ∀ x ∈ l ++ [s.nextBuffer], x < s.nextBuffer + 1 := by
      intro l hl x hx
      rcases List.mem_append.mp hx with hx | hx
      · exact Nat.lt_succ_of_lt (hl x hx)
      · rw [List.mem_singleton.mp hx]
        exact Nat.lt_succ_self _
    exact ⟨grow _ hf.video, grow _ hf.audio⟩

/-- The books of one kind of buffer: where a buffer can be, and who gave it up. -/
structure Accounted (trail : Trail) (inside : List ℕ) : Prop where
  /-- No reference is given up twice. -/
  given_up_once : (trail.released.map Prod.fst).Nodup
  /-- What a queue, `create` or the worker still holds was not given up. -/
  inside_kept : ∀ x ∈ inside, x ∉ trail.released.map Prod.fst
  /-- Everything else was given up, on exactly one path. -/
  one_path : ∀ x ∈ trail.captured, x ∈ inside ∨ ∃! why, (x, why) ∈ trail.released
  delivered_by_create : ∀ x, x ∈ trail.delivered.map (·.buffer) ↔ (x, Path.create) ∈ trail.released
  in_capture_order : (trail.delivered.map (·.buffer)).Sublist trail.captured
  no_repetition : (trail.delivered.map (·.buffer)).Nodup

private theorem accounted_of_balanced {l : Ledger ℕ Path} (h : Balanced .create l) (trail : Trail)
    (hc : trail.captured = l.captured) (hr : trail.released = l.givenUp)
    (hd : trail.delivered.map (·.buffer) = l.delivered) :
    Accounted trail (l.hand.toList ++ l.queue ++ l.taken.toList) := by
  have once := h.given_up_once
  constructor
  · rw [hr]; exact once
  · intro x hx
    rw [hr]
    apply h.not_given_up
    simp only [List.mem_append, Option.mem_toList] at hx
    rcases hx with (hx | hx) | hx
    · exact Or.inr (Or.inr hx)
    · exact Or.inr (Or.inl hx)
    · exact Or.inl hx
  · intro x hx
    have unique : ∀ why, (x, why) ∈ l.givenUp → ∃! why, (x, why) ∈ trail.released := by
      intro why hw
      refine ⟨why, hr ▸ hw, ?_⟩
      intro other ho
      have := List.inj_on_of_nodup_map once (hr ▸ ho : (x, other) ∈ l.givenUp) hw rfl
      exact congrArg Prod.snd this
    rcases h.accounted (hc ▸ hx) with hx | hx | hx | hx | ⟨why, -, hw⟩
    · exact Or.inl (by simp [hx])
    · exact Or.inl (by simp [hx])
    · exact Or.inl (by simp [hx])
    · exact Or.inr (unique _ (h.mem_delivered_iff.mp hx))
    · exact Or.inr (unique _ hw)
  · intro x
    rw [hd, hr]
    exact h.mem_delivered_iff
  · rw [hd, hc]; exact h.delivered_sublist
  · rw [hd]; exact h.delivered_nodup

structure BuffersAccounted (s : Pipeline) : Prop where
  video : Accounted s.video ((videoInHand s.pc).toList ++ videoBuffers s.videosrc.currentFrames ++
    (s.videoTaken.map (·.2.buffer)).toList)
  audio : Accounted s.audio ((audioInHand s.pc).toList ++ audioBuffers s.audiosrc.currentPackets ++
    (s.audioTaken.map (·.audioBuff.buffer)).toList)

structure Invariant (s : Pipeline) : Prop where
  fresh : Fresh s
  video : Balanced .create (videoLedger s)
  audio : Balanced .create (audioLedger s)
  video_queue_size : 0 < s.videosrc.queueSize
  audio_queue_size : 0 < s.audiosrc.queueSize

theorem invariant_step {e : Event} (hi : Invariant s) (h : s.next videoInfoFromCaps e = some t) :
    Invariant t := by
  obtain ⟨hv, ha⟩ := queue_sizes_kept h
  exact ⟨fresh_step hi.fresh h, (video_step hi.fresh h).balanced hi.video,
    (audio_step hi.fresh h).balanced hi.audio, hv ▸ hi.video_queue_size,
    ha ▸ hi.audio_queue_size⟩

theorem invariant_started (hi : Started s) : Invariant s := by
  have hv : videoLedger s = .empty := by
    simp [videoLedger, Ledger.empty, hi.pc, videoInHand, hi.no_frames, videoBuffers,
      hi.video_taken, hi.video, Trail.empty]
  have ha : audioLedger s = .empty := by
    simp [audioLedger, Ledger.empty, hi.pc, audioInHand, hi.no_packets, audioBuffers,
      hi.audio_taken, hi.audio, Trail.empty]
  exact ⟨⟨by simp [hi.video, Trail.empty], by simp [hi.audio, Trail.empty]⟩,
    hv ▸ balanced_empty _, ha ▸ balanced_empty _, hi.video_queue_size, hi.audio_queue_size⟩

theorem reachable_invariant (h : Reachable (pipeline videoInfoFromCaps) s) : Invariant s :=
  h.invariant (fun _ hi => invariant_started hi) fun _ _ _ hi _ hn => invariant_step hi hn

private theorem queued_length {α : Type*} {bound : ℕ} (hb : 0 < bound) (q : List α) {k : ℕ}
    (hk : k = (left bound q).length + 1) : k ≤ bound := by
  have := left_length_lt hb q
  omega

theorem queue_frame_length (hq : 0 < s.videosrc.queueSize) (v : AjaVideoBuff) (ts st : ℕ)
    (had : Bool) :
    (s.videosrc.queueFrame v ts st had).currentFrames.length ≤ s.videosrc.queueSize := by
  apply queued_length hq s.videosrc.currentFrames
  have hw : ∀ c q, (writeBack c q).length = q.length := by
    intro c q
    cases q <;> simp [writeBack]
  simp [GstAjaVideoSrc.queueFrame, hw]

theorem queue_packet_length (hq : 0 < s.audiosrc.queueSize) (a : AjaAudioBuff) (ts st : ℕ) :
    (s.audiosrc.queuePacket a ts st).currentPackets.length ≤ s.audiosrc.queueSize :=
  queued_length hq s.audiosrc.currentPackets (by simp [GstAjaAudioSrc.queuePacket])

theorem Invariant.accounted (h : Invariant s) : BuffersAccounted s :=
  ⟨accounted_of_balanced h.video s.video rfl rfl rfl,
    accounted_of_balanced h.audio s.audio rfl rfl rfl⟩

end AjaBufferOwnership
