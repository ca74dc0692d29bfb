import NTV2Gst.AjaBufferOwnership
import NTV2Gst.AjaRecordFlow

/-!
# What comes out after a flush

`unlock_stop` empties the queue, but the capture thread may hold a frame from before, and so
may `create`. Nothing else from before the flush is returned after it.
-/
namespace AjaFlush

open TransitionRuns HandoverLedger GstAjaModes AjaVideoSrc AjaCapturePipeline AjaPipelineSteps
  AjaRecordFlow

variable {videoInfoFromCaps : GstCaps → GstVideoInfo} {s t u : Pipeline}

def heldBuffers (s : Pipeline) : List ℕ :=
  (frameInHand s.pc).toList.map (·.buffer) ++ s.videoTaken.toList.map (·.2.buffer)

/-- Captured after the flush, or already out of the queue at that time. -/
def Fresh (u : Pipeline) (buffer : ℕ) : Prop := u.nextBuffer ≤ buffer ∨ buffer ∈ heldBuffers u

structure SinceFlush (u p : Pipeline) : Prop where
  records : RecordsKeep (fun b => Fresh u b.buffer) p
  next_buffer : u.nextBuffer ≤ p.nextBuffer
  delivered : ∃ later, p.video.delivered = u.video.delivered ++ later ∧
    ∀ d ∈ later, Fresh u d.buffer

/-- Only `create` delivers, and only a transfer takes a new number. -/
theorem delivered_kept {e : Event} (he : e ≠ .videoReturn)
    (hn : s.next videoInfoFromCaps e = some t) :
    t.video.delivered = s.video.delivered ∧ s.nextBuffer ≤ t.nextBuffer := by
  rcases side_cases e with ⟨ac, rfl⟩ | ⟨d, rfl⟩ | ha | hv
  · obtain ⟨-, rfl⟩ := status_eq hn
    exact ⟨rfl, Nat.le_refl _⟩
  · obtain ⟨-, rfl⟩ := capture_eq hn
    exact ⟨rfl, Nat.le_succ _⟩
  · have k := video_kept ha hn
    exact ⟨by rw [k.trail], Nat.le_of_eq k.next_buffer.symm⟩
  · refine ⟨?_, Nat.le_of_eq (audio_kept hv hn).next_buffer.symm⟩
    cases e with
    | workerEnds =>
      obtain ⟨-, rfl⟩ := worker_ends_eq hn
      rfl
    | nullVideo => obtain ⟨-, rfl | rfl⟩ := null_video_cases hn <;> rfl
    | videoCallback => obtain ⟨_, _, -, ⟨-, rfl⟩ | ⟨-, rfl⟩⟩ := video_callback_cases hn <;> rfl
    | gotFrame env =>
      obtain ⟨_, _, _, -, -, _, _, rfl, hv⟩ := got_frame_cases hn
      rcases hv with ⟨-, -, rfl⟩ | ⟨-, -, rfl⟩ | ⟨_, _, _, -, -, rfl⟩ <;> rfl
    | queueFrame =>
      obtain ⟨_, _, _, _, _, -, ⟨-, rfl⟩ | ⟨-, rfl⟩⟩ := queue_frame_cases hn <;> rfl
    | videoPop =>
      obtain ⟨_, _, -, -, -, _, _, _, _, _, _, rfl⟩ := video_pop_cases hn
      rfl
    | videoReturn => exact absurd rfl he
    | videoStop =>
      obtain ⟨-, rfl⟩ := video_stop_eq hn
      rfl
    | videoUnlock | videoUnlockStop | videoStartReset =>
      obtain rfl := Option.some.inj hn
      rfl
    | _ => cases hv

theorem since_flush_next {e : Event} (h : SinceFlush u s)
    (hn : s.next videoInfoFromCaps e = some t) : SinceFlush u t := by
  have records := records_keep_next (fun _ _ hb => hb) h.records hn
    fun _ _ => Or.inl h.next_buffer
  obtain ⟨later, hd, hlater⟩ := h.delivered
  by_cases he : e = .videoReturn
  · subst he
    obtain ⟨f, b, ht, rfl⟩ := video_return_eq hn
    let d : Delivery := ⟨(s.videosrc.output s.mode f b).buffer,
      b.framesProcessed + b.framesDropped, (s.videosrc.output s.mode f b).discont⟩
    refine ⟨records, h.next_buffer, later ++ [d], ?_, ?_⟩
    · exact (congrArg (· ++ [d]) hd).trans (List.append_assoc _ _ _)
    · intro d hmem
      rcases List.mem_append.mp hmem with hmem | hmem
      · exact hlater d hmem
      · obtain rfl := List.mem_singleton.mp hmem
        exact (h.records.taken f b ht).1
  · obtain ⟨hsame, hle⟩ := delivered_kept he hn
    exact ⟨records, h.next_buffer.trans hle, later, hsame.trans hd, hlater⟩

theorem signal_kept (h : Reachable (pipeline videoInfoFromCaps) s) :
    RecordsKeep (fun _ => True) s :=
  h.invariant
    (fun i hi => ⟨fun _ _ => trivial, by simp [hi.pc], by simp [hi.no_frames],
      by simp [hi.video_taken]⟩)
    fun _ _ _ hr _ hn => records_keep_next (fun _ _ => id) hr hn fun _ _ => trivial

theorem video_in_hand (pc : WorkerPc) :
    (frameInHand pc).toList.map (·.buffer) = (AjaBufferOwnership.videoInHand pc).toList := by
  cases pc <;> rfl

theorem queued_not_fresh (h : AjaBufferOwnership.Invariant s) {buffer : ℕ}
    (hb : buffer ∈ videoBuffers s.videosrc.currentFrames) : ¬ Fresh s buffer := by
  have order := h.video.order
  have hnodup := order.nodup h.video.nodup
  simp only [Ledger.inOrder, AjaBufferOwnership.videoLedger] at order hnodup
  obtain ⟨-, hrest, -⟩ := List.nodup_append.mp hnodup
  obtain ⟨-, hqueue, htaken⟩ := List.nodup_append.mp hrest
  obtain ⟨-, -, hhand⟩ := List.nodup_append.mp hqueue
  rintro (hnew | hheld)
  · have hmem : buffer ∈ s.video.captured := order.subset (by simp [hb])
    exact absurd (h.fresh.video buffer hmem) (Nat.not_lt.mpr hnew)
  · rw [heldBuffers, video_in_hand] at hheld
    rcases List.mem_append.mp hheld with hh | ht
    · exact hhand buffer hb buffer hh rfl
    · have ht' : buffer ∈ (s.videoTaken.map (·.2.buffer)).toList := by
        simpa [Option.mem_toList] using ht
      exact htaken buffer ht' buffer (List.mem_append_left _ hb) rfl

/-- Whatever is returned after a flush was captured after it, or was in the hands of the
capture thread or of `create` when the queue was emptied. No buffer of the emptied queue is
returned again. -/
theorem flush_fresh (h : Reachable (pipeline videoInfoFromCaps) s)
    (hf : s.next videoInfoFromCaps .videoUnlockStop = some u)
    (he : Execution (pipeline videoInfoFromCaps) (fun _ _ => True) u t) :
    ∃ later, t.video.delivered = u.video.delivered ++ later ∧ ∀ d ∈ later,
      Fresh u d.buffer ∧ d.buffer ∉ videoBuffers s.videosrc.currentFrames := by
  have hu : Reachable (pipeline videoInfoFromCaps) u := h.step (e := .videoUnlockStop) trivial hf
  have hkeep := signal_kept hu
  have hempty : u.videosrc.currentFrames = [] := by
    obtain rfl := Option.some.inj hf
    rfl
  have start : SinceFlush u u := by
    refine ⟨⟨fun v hv => Or.inr ?_, hkeep.queueing, by simp [hempty], fun f b ht => ?_⟩,
      Nat.le_refl _, [], by simp, by simp⟩
    · exact List.mem_append_left _ (List.mem_map.mpr ⟨v, by simpa using hv, rfl⟩)
    · exact ⟨Or.inr (List.mem_append_right _ (by simp [ht])), (hkeep.taken f b ht).2⟩
  obtain ⟨later, hd, hfresh⟩ :=
    (he.invariant start fun _ _ _ hs _ hn => since_flush_next hs hn).delivered
  have hsame : ∀ buffer, Fresh u buffer → Fresh s buffer := by
    obtain rfl := Option.some.inj hf
    exact fun _ hb => hb
  refine ⟨later, hd, fun d hmem => ⟨hfresh d hmem, fun hq => ?_⟩⟩
  exact queued_not_fresh (AjaBufferOwnership.reachable_invariant h) hq (hsame _ (hfresh d hmem))

theorem flush_fresh_next : ∃ s u t : Pipeline, u.nextBuffer = 1 ∧
    t.video.delivered.map (·.buffer) = [1] ∧
    ∃ later, t.video.delivered = u.video.delivered ++ later ∧ ∀ d ∈ later,
      Fresh u d.buffer ∧ d.buffer ∉ videoBuffers s.videosrc.currentFrames := by
  have hrun : (runTrace (pipeline capsVideoInfo) (startedPipeline 2 false)
      (videoIteration (deviceFrame true 0) (clockAt 1000) ++ [.videoUnlock])).any (fun s =>
        (s.next capsVideoInfo .videoUnlockStop).any fun u => u.nextBuffer == 1 &&
          (runTrace (pipeline capsVideoInfo) u
            (videoIteration (deviceFrame true 0) (clockAt 2000) ++ [.videoPop, .videoReturn])).any
              fun t => t.video.delivered.map (·.buffer) == [1]) = true := by
    decide +kernel
  obtain ⟨s, hs, hrest⟩ := (Option.any_eq_true _ _).mp hrun
  obtain ⟨u, hu, hrest⟩ := (Option.any_eq_true _ _).mp hrest
  rw [Bool.and_eq_true, beq_iff_eq] at hrest
  obtain ⟨t, ht, hd⟩ := (Option.any_eq_true _ _).mp hrest.2
  have hreach : Reachable (pipeline capsVideoInfo) s :=
    ⟨_, started_pipeline (by decide) false, run_trace_execution hs⟩
  exact ⟨s, u, t, hrest.1, by simpa using hd, flush_fresh hreach hu (run_trace_execution ht)⟩

end AjaFlush
