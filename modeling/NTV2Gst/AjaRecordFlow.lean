import NTV2Gst.AjaPipelineSteps

/-!
# Records on their way through the pipeline

From the transfer to the return of its buffer a record is in the worker's hand, in the queue
or with `create`. A property that the transfer establishes holds of all of them.
-/
namespace AjaRecordFlow

open DropOldest GstAjaModes AjaVideoSrc AjaCapturePipeline AjaPipelineSteps

variable {videoInfoFromCaps : GstCaps → GstVideoInfo}

/-- A property of all records between the transfer and the return; those that are queued have
passed the test for a signal. -/
structure RecordsKeep (P : AjaVideoBuff → Prop) (p : Pipeline) : Prop where
  hand : ∀ v ∈ frameInHand p.pc, P v
  queueing : ∀ v a ts st had, p.pc = .queueFrame v a ts st had → v.haveSignal = true
  queued : ∀ f ∈ p.videosrc.currentFrames, ∀ b ∈ f.videoBuff, P b ∧ b.haveSignal = true
  taken : ∀ f b, p.videoTaken = some (f, b) → P b ∧ b.haveSignal = true

variable {P : AjaVideoBuff → Prop} {p q : Pipeline}

theorem markers_carry_nothing {changes : List SignalChange} {f : AjaCaptureVideoFrame}
    (hf : f ∈ changes.map marker) : f.videoBuff = none := by
  obtain ⟨c, -, rfl⟩ := List.mem_map.mp hf
  rfl

theorem prepare_queued {src : GstAjaVideoSrc} (mode : GstAjaMode) (env : CaptureEnv)
    (v : Option AjaVideoBuff)
    (h : ∀ f ∈ src.currentFrames, ∀ b ∈ f.videoBuff, P b ∧ b.haveSignal = true) :
    ∀ f ∈ (src.gotFramePrepare mode env v).1.currentFrames, ∀ b ∈ f.videoBuff,
      P b ∧ b.haveSignal = true := by
  intro f hf b hb
  rw [prepare_frames] at hf
  rcases List.mem_append.mp hf with hf | hf
  · exact h f hf b hb
  · split at hf
    · cases hf
    · rw [markers_carry_nothing hf] at hb
      cases hb

theorem lose_signal_queued {src : GstAjaVideoSrc}
    (h : ∀ f ∈ src.currentFrames, ∀ b ∈ f.videoBuff, P b ∧ b.haveSignal = true) :
    ∀ f ∈ src.loseSignal.currentFrames, ∀ b ∈ f.videoBuff, P b ∧ b.haveSignal = true :=
  prepare_queued mode720p5994 (clockAt 0) none h

theorem write_back_entries {change : SignalChange} {l : List AjaCaptureVideoFrame}
    {f : AjaCaptureVideoFrame} (hf : f ∈ writeBack change l) :
    ∃ g ∈ l, f = { g with signalChange := f.signalChange } := by
  cases l with
  | nil => cases hf
  | cons g l =>
    rcases List.mem_cons.mp hf with rfl | hf
    · refine ⟨g, List.mem_cons_self, ?_⟩
      split <;> rfl
    · exact ⟨f, List.mem_cons_of_mem _ hf, rfl⟩

theorem queue_frame_queued {src : GstAjaVideoSrc} {v : AjaVideoBuff} (ts st : ℕ) (had : Bool)
    (hP : ∀ b changed, P b → P { b with droppedChanged := changed })
    (hv : P v ∧ v.haveSignal = true)
    (h : ∀ f ∈ src.currentFrames, ∀ b ∈ f.videoBuff, P b ∧ b.haveSignal = true) :
    ∀ f ∈ (src.queueFrame v ts st had).currentFrames, ∀ b ∈ f.videoBuff,
      P b ∧ b.haveSignal = true := by
  intro f hf b hb
  unfold GstAjaVideoSrc.queueFrame at hf
  rcases List.mem_append.mp hf with hf | hf
  · obtain ⟨g, hg, hfg⟩ := write_back_entries hf
    have hmem : g ∈ src.currentFrames := by
      rw [← popped_append_left src.queueSize src.currentFrames]
      exact List.mem_append_right _ hg
    rw [hfg] at hb
    exact h g hmem b hb
  · obtain rfl := List.mem_singleton.mp hf
    cases hb
    exact ⟨hP _ _ hv.1, hv.2⟩

theorem records_keep_next {e : AjaCapturePipeline.Event}
    (hP : ∀ b changed, P b → P { b with droppedChanged := changed }) (h : RecordsKeep P p)
    (hn : p.next videoInfoFromCaps e = some q)
    (hnew : ∀ d, e = .capture d → P (p.worker.videoBuff p.nextBuffer d)) : RecordsKeep P q := by
  by_cases ha : onAudioSide e = true
  · have k := video_kept ha hn
    refine ⟨fun v hv => h.hand v (k.frame_in_hand ▸ hv), fun v a ts st had hpc => ?_,
      by rw [k.videosrc]; exact h.queued, by rw [k.taken]; exact h.taken⟩
    rcases k.pc with hsame | ⟨-, hnone⟩
    · exact h.queueing v a ts st had (hsame ▸ hpc)
    · rw [hpc] at hnone
      cases hnone
  cases e with
  | status ac =>
    obtain ⟨-, rfl⟩ := status_eq hn
    exact ⟨h.hand, h.queueing, h.queued, h.taken⟩
  | capture d =>
    obtain ⟨-, rfl⟩ := capture_eq hn
    refine ⟨fun v hv => ?_, nofun, h.queued, h.taken⟩
    cases hv
    exact hnew d rfl
  | nullVideo =>
    obtain ⟨-, rfl | rfl⟩ := null_video_cases hn
    · exact ⟨nofun, nofun, lose_signal_queued h.queued, h.taken⟩
    · exact ⟨nofun, nofun, h.queued, h.taken⟩
  | videoCallback =>
    obtain ⟨v, a, hpc, ⟨-, rfl⟩ | ⟨-, rfl⟩⟩ := video_callback_cases hn
    · exact ⟨fun w hw => h.hand w (by rw [hpc]; exact hw), nofun, h.queued, h.taken⟩
    · exact ⟨nofun, nofun, h.queued, h.taken⟩
  | gotFrame env =>
    obtain ⟨v, a, verdict, hpc, hverdict, pc, video, rfl, hv⟩ := got_frame_cases hn
    have hqueued := prepare_queued p.mode env (some v) h.queued
    rcases hv with ⟨-, rfl, -⟩ | ⟨-, rfl, -⟩ | ⟨ts, st, had, hq, rfl, -⟩
    · exact ⟨nofun, nofun, hqueued, h.taken⟩
    · exact ⟨nofun, nofun, hqueued, h.taken⟩
    · refine ⟨fun w hw => h.hand w (by rw [hpc]; exact hw), fun w a' ts' st' had' hw => ?_,
        hqueued, h.taken⟩
      cases hw
      have hsome := prepare_queue_some (hverdict.trans hq)
      by_contra hs
      simp [Option.filter, hs] at hsome
  | queueFrame =>
    obtain ⟨v, a, ts, st, had, hpc, ⟨-, rfl⟩ | ⟨-, rfl⟩⟩ := queue_frame_cases hn
    · exact ⟨nofun, nofun, h.queued, h.taken⟩
    · have hv : P v ∧ v.haveSignal = true :=
        ⟨h.hand v (by rw [hpc]; rfl), h.queueing v a ts st had hpc⟩
      exact ⟨nofun, nofun, queue_frame_queued ts st had hP hv h.queued, h.taken⟩
  | videoPop =>
    obtain ⟨f, src, -, -, hsrc, _, _, _, _, _, _, rfl⟩ := video_pop_cases hn
    have hmem : ∀ g ∈ f :: src.currentFrames, ∀ b ∈ g.videoBuff, P b ∧ b.haveSignal = true := by
      have hq := h.queued
      rw [hsrc] at hq
      exact hq
    refine ⟨h.hand, h.queueing, fun g hg => hmem g (List.mem_cons_of_mem _ hg), fun g b hg => ?_⟩
    obtain ⟨b', hb', heq⟩ := Option.map_eq_some_iff.mp hg
    cases heq
    exact hmem f List.mem_cons_self b hb'
  | videoReturn =>
    obtain ⟨f, b, -, rfl⟩ := video_return_eq hn
    exact ⟨h.hand, h.queueing, h.queued, fun _ _ hg => absurd hg.symm (Option.some_ne_none _)⟩
  | videoUnlock | videoStartReset =>
    obtain rfl := Option.some.inj hn
    exact ⟨h.hand, h.queueing, h.queued, h.taken⟩
  | videoUnlockStop =>
    obtain rfl := Option.some.inj hn
    exact ⟨h.hand, h.queueing, fun f hf => absurd hf List.not_mem_nil, h.taken⟩
  | videoStop =>
    obtain ⟨-, rfl⟩ := video_stop_eq hn
    exact ⟨h.hand, h.queueing, fun f hf => absurd hf List.not_mem_nil, h.taken⟩
  | _ => exact absurd rfl ha

theorem RecordsKeep.mono {Q : AjaVideoBuff → Prop} (h : RecordsKeep P p)
    (hpq : ∀ b, P b → Q b) : RecordsKeep Q p where
  hand v hv := hpq v (h.hand v hv)
  queueing := h.queueing
  queued f hf b hb := (h.queued f hf b hb).imp_left (hpq b)
  taken f b ht := (h.taken f b ht).imp_left (hpq b)

end AjaRecordFlow
