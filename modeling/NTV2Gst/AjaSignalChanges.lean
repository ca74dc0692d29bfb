import NTV2Gst.AjaPipelineSteps
import NTV2Gst.CancellingChanges

/-!
# Signal changes on their way to the streaming thread

Markers travel through the bounded frame queue. `create` reports the change of every
entry it pops; overflow may drop markers and writes a remembered change back onto the
oldest entry that is left.
-/
namespace AjaSignalChanges

open TransitionRuns DropOldest CancellingChanges GstAjaModes AjaVideoSrc AjaAudioSrc
  AjaCapturePipeline AjaPipelineSteps

def changeLevel : SignalChange → Option Bool
  | .noChange => none
  | .gotSignal | .recoveredSignal => some true
  | .lostSignal => some false

def stateLevel : GstAjaSignalState → Option Bool
  | .unknown => none
  | .lost => some false
  | .available => some true

def queuedChanges (q : List AjaCaptureVideoFrame) : List Bool :=
  q.filterMap fun f => changeLevel f.signalChange

def trueChanges (s : Pipeline) : List Bool := s.changes.filterMap changeLevel

def reportedChanges (s : Pipeline) : List Bool :=
  s.reported.filterMap changeLevel ++ queuedChanges s.videosrc.currentFrames

structure ChangesConsistent (s : Pipeline) : Prop where
  alternates : Alternates (reportedChanges s)
  cancels : Cancels (trueChanges s) (reportedChanges s)
  current : (reportedChanges s).getLast? = stateLevel s.videosrc.signalState

/-- Neither flushed nor stopped since the streams were started. -/
def NoFlush (s : Pipeline) : Event → Prop
  | .videoUnlock | .videoUnlockStop | .videoStop => False
  | _ => s.videosrc.flushing = false

/-- What the overflow loop has to find for no change to be lost: nothing to remember, or
together with the change of the entry it writes to a block from signal to signal, or,
when no entry is left, a loss and recovery that the reader need not know of. -/
def OverflowCancels (s : Pipeline) : Prop :=
  let old := queuedChanges (popped s.videosrc.queueSize s.videosrc.currentFrames)
  old = [] ∨
    match left s.videosrc.queueSize s.videosrc.currentFrames with
    | [] => old.head? = some false ∧ s.reported.filterMap changeLevel ≠ []
    | f :: _ =>
      (old ++ (changeLevel f.signalChange).toList).head? = some true ∧
        (old ++ (changeLevel f.signalChange).toList).getLast? = some true

instance (s : Pipeline) : Decidable (OverflowCancels s) := by
  unfold OverflowCancels
  cases left s.videosrc.queueSize s.videosrc.currentFrames <;> infer_instance

instance (s : Pipeline) (e : Event) : Decidable (NoFlush s e) := by
  unfold NoFlush
  split <;> infer_instance

def KeepsChanges (s : Pipeline) (e : Event) : Prop :=
  NoFlush s e ∧ (e = .queueFrame → OverflowCancels s)

instance (s : Pipeline) (e : Event) : Decidable (KeepsChanges s e) :=
  inferInstanceAs (Decidable (_ ∧ (_ → _)))

/-! ## Changes in the queue -/

theorem queued_changes_append (p q : List AjaCaptureVideoFrame) :
    queuedChanges (p ++ q) = queuedChanges p ++ queuedChanges q := by simp [queuedChanges]

theorem queued_changes_cons (f : AjaCaptureVideoFrame) (q : List AjaCaptureVideoFrame) :
    queuedChanges (f :: q) = (changeLevel f.signalChange).toList ++ queuedChanges q := by
  unfold queuedChanges
  cases h : changeLevel f.signalChange <;> simp [h]

theorem queued_changes_markers (cs : List SignalChange) :
    queuedChanges (cs.map marker) = cs.filterMap changeLevel := by
  simp [queuedChanges, marker, List.filterMap_map, Function.comp_def]

theorem remembered_level (old : List AjaCaptureVideoFrame) :
    changeLevel (rememberedChange old) =
      if true ∈ queuedChanges old then some true else none := by
  have fold : ∀ (old : List AjaCaptureVideoFrame) (acc : SignalChange), acc ≠ .lostSignal →
      changeLevel (old.foldl rememberChange acc) =
        if acc ≠ .noChange ∨ true ∈ queuedChanges old then some true else none := by
    intro old
    induction old with
    | nil => intro acc ha; cases acc <;> simp_all [changeLevel, queuedChanges]
    | cons f old ih =>
      intro acc ha
      rw [List.foldl_cons, queued_changes_cons]
      have step : rememberChange acc f ≠ .lostSignal ∧
          (rememberChange acc f ≠ .noChange ↔
            acc ≠ .noChange ∨ changeLevel f.signalChange = some true) := by
        unfold rememberChange
        cases hf : f.signalChange <;> cases acc <;> simp_all [changeLevel]
      rw [ih _ step.1]
      have hm : true ∈ (changeLevel f.signalChange).toList ++ queuedChanges old ↔
          changeLevel f.signalChange = some true ∨ true ∈ queuedChanges old := by simp
      simp only [step.2, hm, or_assoc]
  simpa [rememberedChange] using fold old .noChange (by decide)

theorem write_back_changes (c : SignalChange) (f : AjaCaptureVideoFrame)
    (q : List AjaCaptureVideoFrame) (hc : c ≠ .noChange) :
    queuedChanges (writeBack c (f :: q)) = (changeLevel c).toList ++ queuedChanges q := by
  simp [writeBack, hc, queued_changes_cons]

theorem write_back_none (q : List AjaCaptureVideoFrame) :
    queuedChanges (writeBack .noChange q) = queuedChanges q := by
  cases q <;> simp [writeBack]

theorem queue_frame_changes (src : GstAjaVideoSrc) (v : AjaVideoBuff) (ts st : ℕ) (had : Bool) :
    queuedChanges (src.queueFrame v ts st had).currentFrames =
      queuedChanges (writeBack (rememberedChange (popped src.queueSize src.currentFrames))
        (left src.queueSize src.currentFrames)) := by
  simp [GstAjaVideoSrc.queueFrame, queuedChanges, changeLevel]

/-! ## One step -/

variable {videoInfoFromCaps : GstCaps → GstVideoInfo} {s t : Pipeline}

private theorem last_ne_nil {l : List Bool} (hl : l.getLast? = some true) : l ≠ [] := by
  rintro rfl
  cases hl

theorem overflow_step (hc : OverflowCancels s) (ha : Alternates (reportedChanges s))
    (hl : (reportedChanges s).getLast? = some true) (v : AjaVideoBuff) (ts st : ℕ) (had : Bool) :
    Cancels (reportedChanges s) (s.reported.filterMap changeLevel ++
        queuedChanges (s.videosrc.queueFrame v ts st had).currentFrames) ∧
      s.reported.filterMap changeLevel ++
        queuedChanges (s.videosrc.queueFrame v ts st had).currentFrames ≠ [] := by
  have hq : queuedChanges s.videosrc.currentFrames =
      queuedChanges (popped s.videosrc.queueSize s.videosrc.currentFrames) ++
        queuedChanges (left s.videosrc.queueSize s.videosrc.currentFrames) := by
    rw [← queued_changes_append, popped_append_left]
  rw [queue_frame_changes]
  unfold OverflowCancels at hc
  unfold reportedChanges at ha hl ⊢
  rw [hq] at ha hl ⊢
  have hr := remembered_level (popped s.videosrc.queueSize s.videosrc.currentFrames)
  generalize rememberedChange (popped s.videosrc.queueSize s.videosrc.currentFrames) = c at hr ⊢
  generalize queuedChanges (popped s.videosrc.queueSize s.videosrc.currentFrames) = old at *
  generalize s.reported.filterMap changeLevel = reported at *
  have nothing : old = [] → Cancels (reported ++ (old ++ queuedChanges (left s.videosrc.queueSize
        s.videosrc.currentFrames))) (reported ++ queuedChanges (writeBack c (left
          s.videosrc.queueSize s.videosrc.currentFrames))) ∧
      reported ++ queuedChanges (writeBack c (left s.videosrc.queueSize
        s.videosrc.currentFrames)) ≠ [] := by
    rintro rfl
    have hn : c = .noChange := by cases c <;> simp_all [changeLevel]
    subst hn
    rw [write_back_none]
    exact ⟨by simpa using Cancels.refl _, by simpa using last_ne_nil hl⟩
  rcases hc with hc | hc
  · exact nothing hc
  cases hleft : left s.videosrc.queueSize s.videosrc.currentFrames with
  | nil =>
    simp only [hleft] at hc ha hl
    obtain ⟨hh, hne⟩ := hc
    obtain ⟨old, rfl⟩ : ∃ l, old = false :: l := by
      cases old <;> simp_all
    have hlast : (false :: old).getLast? = some (!false) := by
      simpa [queuedChanges, List.getLast?_append] using hl
    have hblock : Alternates (false :: old) := by
      have := (List.isChain_append.mp ha).2.1
      simpa [Alternates, queuedChanges] using this
    have hcancel := (cancels_to_nil hblock hlast).append reported []
    simpa [writeBack, queuedChanges, hne] using hcancel
  | cons f rest =>
    by_cases hold : old = []
    · rw [← hleft]
      exact nothing hold
    simp only [hleft] at hc ha hl
    obtain ⟨hh, hlast⟩ := hc
    obtain ⟨old, rfl⟩ : ∃ l, old = true :: l := by
      cases old <;> simp_all
    have hremember : changeLevel c = some true := by simpa using hr
    have hne : c ≠ .noChange := by
      rintro rfl
      cases hremember
    rw [write_back_changes c f rest hne, hremember, queued_changes_cons]
    rw [queued_changes_cons] at ha
    have hblock : Alternates (true :: (old ++ (changeLevel f.signalChange).toList)) := by
      have := (List.isChain_append.mp ha).2.1
      rw [← List.append_assoc] at this
      exact (List.isChain_append.mp this).1
    have hcancel := (cancels_to_head hblock hlast).append reported (queuedChanges rest)
    exact ⟨by simpa using hcancel, by simp⟩

theorem dropped_signal {reported old rest new : List Bool} {a : Bool} {c f : SignalChange}
    (ha : Alternates (reported ++ (a :: old ++ ((changeLevel f).toList ++ rest))))
    (hl : (reported ++ (a :: old ++ ((changeLevel f).toList ++ rest))).getLast? = some true)
    (hr : changeLevel c = if true ∈ a :: old then some true else none)
    (hnew : new = reported ++ ((changeLevel (if c = .noChange then f else c)).toList ++ rest))
    (hhead : new.head? = (reported ++ (a :: old ++ ((changeLevel f).toList ++ rest))).head?)
    (ha' : Alternates new) : a = true := by
  -- after what was reported the reader cannot see a signal where a loss was
  have no_loss : ∀ tail, new = reported ++ true :: tail → a = true := by
    intro tail hn
    rw [hn] at ha' hhead
    exact ha.same_change ha' hhead.symm
  by_cases hm : true ∈ a :: old
  · have hc : changeLevel c = some true := by simpa only [hm, if_true] using hr
    have hne : c ≠ .noChange := by
      rintro rfl
      cases hc
    exact no_loss rest (by rw [hnew, if_neg hne, hc]; rfl)
  · -- only a single loss was dropped, nothing is written back
    rw [if_neg hm] at hr
    have hc : c = .noChange := by cases c <;> simp_all [changeLevel]
    rw [if_pos hc] at hnew
    by_contra hne
    obtain rfl : a = false := by simpa using hne
    have hblock := (List.isChain_append.mp ha).2.1
    obtain rfl : old = [] := by
      apply Alternates.single (List.isChain_append.mp hblock).1
      intro h
      exact hm (List.mem_cons_of_mem _ h)
    cases hb : (changeLevel f).toList ++ rest with
    | nil =>
      rw [hb] at hl
      simp at hl
    | cons b tail =>
      rw [hb] at hblock
      have hbt : b = true := Alternates.next (p := []) hblock
      exact hne (no_loss tail (by rw [hnew, hb, hbt]))

/-- A signal is written onto the oldest entry, so the block it stands for ends with one. -/
theorem block_ends_with_signal {reported block rest : List Bool} (hne : block ≠ [])
    (ha : Alternates (reported ++ (block ++ rest)))
    (hl : (reported ++ (block ++ rest)).getLast? = some true)
    (ha' : Alternates (reported ++ true :: rest)) : block.getLast? = some true := by
  obtain ⟨p, x, rfl⟩ := (List.eq_nil_or_concat block).resolve_left hne
  cases rest with
  | nil => simpa [← List.append_assoc] using hl
  | cons b tail =>
    have hx : x = true := by
      by_contra hx
      obtain rfl : x = false := by simpa using hx
      have hb : b = true := Alternates.next (p := reported ++ p) (by simpa using ha)
      rw [hb] at ha'
      exact not_alternates_repeat reported tail true ha'
    simpa using hx

/-- Without the condition the new sequence is not consistent: a change is repeated, the
first one is replaced, or the last one is lost. -/
theorem overflow_only (ha : Alternates (reportedChanges s))
    (hc : Cancels (trueChanges s) (reportedChanges s)) (htrue : Alternates (trueChanges s))
    (hl : (reportedChanges s).getLast? = some true) (v : AjaVideoBuff) (ts st : ℕ) (had : Bool)
    {new : List Bool} (hnew : new = s.reported.filterMap changeLevel ++
      queuedChanges (s.videosrc.queueFrame v ts st had).currentFrames)
    (ha' : Alternates new) (hc' : Cancels (trueChanges s) new)
    (hl' : new.getLast? = some true) : OverflowCancels s := by
  have hq : queuedChanges s.videosrc.currentFrames =
      queuedChanges (popped s.videosrc.queueSize s.videosrc.currentFrames) ++
        queuedChanges (left s.videosrc.queueSize s.videosrc.currentFrames) := by
    rw [← queued_changes_append, popped_append_left]
  -- the first change is the same in all three sequences
  have hhead : new.head? = (reportedChanges s).head? :=
    ((hc'.head htrue).resolve_left (last_ne_nil hl')).trans
      ((hc.head htrue).resolve_left (last_ne_nil hl)).symm
  rw [queue_frame_changes] at hnew
  unfold OverflowCancels
  unfold reportedChanges at ha hl hhead
  rw [hq] at ha hl hhead
  have hr := remembered_level (popped s.videosrc.queueSize s.videosrc.currentFrames)
  generalize rememberedChange (popped s.videosrc.queueSize s.videosrc.currentFrames) = c at *
  generalize queuedChanges (popped s.videosrc.queueSize s.videosrc.currentFrames) = old at *
  generalize s.reported.filterMap changeLevel = reported at *
  by_cases hold : old = []
  · exact Or.inl hold
  obtain ⟨a, old, rfl⟩ := List.exists_cons_of_ne_nil hold
  apply Or.inr
  cases hleft : left s.videosrc.queueSize s.videosrc.currentFrames with
  | nil =>
    rw [hleft] at hnew
    obtain rfl : new = reported := by simpa [writeBack, queuedChanges] using hnew
    obtain ⟨p, x, rfl⟩ := (List.eq_nil_or_concat new).resolve_left (last_ne_nil hl')
    have hx : x = true := by simpa using hl'
    have hax : x = !a := ha.previous x (by simp)
    exact ⟨by simpa [hx] using hax, by simp⟩
  | cons f rest =>
    rw [hleft] at ha hl hhead hnew
    rw [queued_changes_cons] at ha hl hhead
    have hnew' : new = reported ++ ((changeLevel (if c = .noChange then f.signalChange
        else c)).toList ++ queuedChanges rest) := by
      by_cases hn : c = .noChange
      · rw [hnew, hn, write_back_none, queued_changes_cons, if_pos rfl]
      · rw [hnew, write_back_changes c f rest hn, if_neg hn]
    obtain rfl : a = true := dropped_signal ha hl hr hnew' hhead ha'
    have hc : changeLevel c = some true := by simpa using hr
    have hne : c ≠ .noChange := by
      rintro rfl
      cases hc
    rw [hnew', if_neg hne, hc] at ha'
    rw [← List.append_assoc (true :: old)] at ha hl
    exact ⟨rfl, block_ends_with_signal (by simp) ha hl ha'⟩

structure Invariant (s : Pipeline) : Prop extends ChangesConsistent s where
  history : Alternates (trueChanges s)
  history_current : (trueChanges s).getLast? = stateLevel s.videosrc.signalState
  queueing : ∀ v a ts st had, s.pc = .queueFrame v a ts st had →
    s.videosrc.signalState = .available

structure SameChanges (s t : Pipeline) : Prop where
  frames : queuedChanges t.videosrc.currentFrames = queuedChanges s.videosrc.currentFrames
  signalState : t.videosrc.signalState = s.videosrc.signalState
  changes : t.changes = s.changes
  reported : t.reported = s.reported
  queueing : ∀ v a ts st had, t.pc = .queueFrame v a ts st had → t.pc = s.pc

theorem SameChanges.invariant (h : SameChanges s t) (hi : Invariant s) : Invariant t := by
  have hr : reportedChanges t = reportedChanges s := by
    simp only [reportedChanges, h.frames, h.reported]
  have ht : trueChanges t = trueChanges s := by rw [trueChanges, h.changes]; rfl
  refine ⟨⟨hr ▸ hi.alternates, ?_, ?_⟩, ht ▸ hi.history, ?_, ?_⟩
  · rw [ht, hr]; exact hi.cancels
  · rw [hr, h.signalState]; exact hi.current
  · rw [ht, h.signalState]; exact hi.history_current
  · intro v a ts st had hp
    rw [h.signalState]
    exact hi.queueing v a ts st had (h.queueing v a ts st had hp ▸ hp)

def touchesChanges : Event → Bool
  | .nullVideo | .gotFrame _ | .queueFrame | .videoPop | .videoUnlockStop | .videoStop => true
  | _ => false

theorem same_changes_of_kept (h : VideoKept s t) : SameChanges s t := by
  refine ⟨by rw [h.videosrc], by rw [h.videosrc], h.changes, h.reported, ?_⟩
  intro v a ts st had hq
  rcases h.pc with hpc | ⟨-, ht⟩
  · exact hpc
  · rw [hq] at ht
    cases ht

theorem same_changes {e : Event} (h : s.next videoInfoFromCaps e = some t)
    (he : touchesChanges e = false) : SameChanges s t := by
  cases e with
  | status ac =>
    obtain ⟨-, rfl⟩ := status_eq h
    exact ⟨rfl, rfl, rfl, rfl, fun _ _ _ _ _ _ => rfl⟩
  | capture d =>
    obtain ⟨-, rfl⟩ := capture_eq h
    exact ⟨rfl, rfl, rfl, rfl, fun _ _ _ _ _ hp => by cases hp⟩
  | videoCallback =>
    obtain ⟨v, a, -, ⟨-, rfl⟩ | ⟨-, rfl⟩⟩ := video_callback_cases h <;>
      exact ⟨rfl, rfl, rfl, rfl, fun _ _ _ _ _ hp => by cases hp⟩
  | videoReturn =>
    obtain ⟨f, b, -, rfl⟩ := video_return_eq h
    exact ⟨rfl, rfl, rfl, rfl, fun _ _ _ _ _ _ => rfl⟩
  | videoUnlock | videoStartReset =>
    cases h
    exact ⟨rfl, rfl, rfl, rfl, fun _ _ _ _ _ _ => rfl⟩
  | nullVideo | gotFrame env | queueFrame | videoPop | videoUnlockStop | videoStop => cases he
  | workerEnds | nullAudio | audioCallback | gotPacket | queuePacket | audioPop | audioReturn
  | audioUnlock | audioUnlockStop | audioReadyToPaused | audioEnable | audioStartReset
  | audioStop | audioStopPop => exact same_changes_of_kept (video_kept rfl h)

theorem announce_step (hi : Invariant s) (videoBuff : Option AjaVideoBuff) {src : GstAjaVideoSrc}
    (hq : src.currentFrames =
      s.videosrc.currentFrames ++ (s.videosrc.change videoBuff).toList.map marker)
    (hs : src.signalState =
      if (videoBuff.filter (·.haveSignal)).isSome then .available else .lost)
    (ht : t.videosrc = src) (hr : t.reported = s.reported)
    (hc : t.changes = s.changes ++ (s.videosrc.change videoBuff).toList)
    (hp : ∀ v a ts st had, t.pc = .queueFrame v a ts st had → src.signalState = .available) :
    Invariant t := by
  have hseq : reportedChanges t =
      reportedChanges s ++ (s.videosrc.change videoBuff).toList.filterMap changeLevel := by
    simp only [reportedChanges, ht, hr, hq, queued_changes_append, queued_changes_markers,
      List.append_assoc]
  have htrue : trueChanges t =
      trueChanges s ++ (s.videosrc.change videoBuff).toList.filterMap changeLevel := by
    simp only [trueChanges, hc, List.filterMap_append]
  have hcur := hi.current
  subst ht
  cases hch : s.videosrc.change videoBuff with
  | none =>
    rw [hch] at hseq htrue
    simp only [Option.toList_none, List.filterMap_nil, List.append_nil] at hseq htrue
    have hsame : t.videosrc.signalState = s.videosrc.signalState := by
      unfold GstAjaVideoSrc.change at hch
      rw [hs]
      split at hch <;> split at hch <;> simp_all
    exact ⟨⟨hseq ▸ hi.alternates, by rw [htrue, hseq]; exact hi.cancels,
      by rw [hseq, hsame]; exact hcur⟩, htrue ▸ hi.history,
      by rw [htrue, hsame]; exact hi.history_current, hp⟩
  | some c =>
    have hlevel : changeLevel c = stateLevel t.videosrc.signalState ∧
        (stateLevel t.videosrc.signalState).isSome ∧
        stateLevel s.videosrc.signalState ≠ stateLevel t.videosrc.signalState := by
      unfold GstAjaVideoSrc.change at hch
      rw [hs]
      split at hch <;> split at hch <;> cases hch <;>
        cases hst : s.videosrc.signalState <;> simp_all [changeLevel, stateLevel,
          GstAjaSignalState.gain]
    obtain ⟨b, hb⟩ := Option.isSome_iff_exists.mp hlevel.2.1
    have hc' : changeLevel c = some b := hlevel.1.trans hb
    rw [hch] at hseq htrue
    simp only [Option.toList_some, List.filterMap_cons, hc', List.filterMap_nil] at hseq htrue
    have hne : stateLevel s.videosrc.signalState ≠ some b := hb ▸ hlevel.2.2
    refine ⟨⟨?_, ?_, ?_⟩, ?_, ?_, hp⟩
    · rw [hseq]
      exact alternates_append_singleton hi.alternates (by rw [hcur]; exact hne)
    · rw [hseq, htrue]
      simpa using hi.cancels.append [] [b]
    · rw [hseq, hb, List.getLast?_concat]
    · rw [htrue]
      exact alternates_append_singleton hi.history (by rw [hi.history_current]; exact hne)
    · rw [htrue, hb, List.getLast?_concat]

theorem pop_step (hi : Invariant s) (h : s.videoPop videoInfoFromCaps = some t) :
    Invariant t := by
  obtain ⟨f, src, -, -, hsrc, _, _, _, _, _, _, rfl⟩ := video_pop_cases h
  have hq : queuedChanges s.videosrc.currentFrames =
      (changeLevel f.signalChange).toList ++ queuedChanges src.currentFrames := by
    rw [hsrc, queued_changes_cons]
  have hst : src.signalState = s.videosrc.signalState := by rw [hsrc]
  have hr : reportedChanges s = (s.reported ++
        if f.signalChange = .noChange then [] else [f.signalChange]).filterMap changeLevel ++
      queuedChanges src.currentFrames := by
    simp only [reportedChanges, hq, List.filterMap_append]
    cases hc : f.signalChange <;> simp [changeLevel]
  obtain ⟨⟨halt, hcancel, hcur⟩, hhist, hhistcur, hqueueing⟩ := hi
  rw [hr] at halt hcancel hcur
  exact ⟨⟨halt, hcancel, hcur.trans (congrArg _ hst.symm)⟩, hhist,
    hhistcur.trans (congrArg _ hst.symm), fun v a ts st had hp =>
      hst.trans (hqueueing v a ts st had hp)⟩

theorem queued_with_signal (hi : Invariant s) (hf : s.videosrc.flushing = false)
    (h : s.queueFrame = some t) : ∃ v a timestamp streamTime hadSignal,
      s.videosrc.signalState = .available ∧ (reportedChanges s).getLast? = some true ∧
      t = { s with
        pc := .audioCallback a (some (.queue timestamp streamTime hadSignal))
        videosrc := s.videosrc.queueFrame v timestamp streamTime hadSignal
        video := s.video.release .overflow
          (videoBuffers (popped s.videosrc.queueSize s.videosrc.currentFrames)) } := by
  obtain ⟨v, a, ts, st, had, hp, ⟨hflush, -⟩ | ⟨-, ht⟩⟩ := queue_frame_cases h
  · rw [hf] at hflush
    cases hflush
  · have hstate := hi.queueing v a ts st had hp
    refine ⟨v, a, ts, st, had, hstate, ?_, ht⟩
    rw [hi.current, hstate]
    rfl

theorem step_invariant (hi : Invariant s) {e : Event} (ha : KeepsChanges s e)
    (h : s.next videoInfoFromCaps e = some t) : Invariant t := by
  cases he : touchesChanges e with
  | false => exact (same_changes h he).invariant hi
  | true =>
    cases e with
    | nullVideo =>
      have hf : s.videosrc.flushing = false := ha.1
      obtain ⟨-, rfl | rfl⟩ := null_video_cases h
      · have hl := prepare_frames s.videosrc s.mode ⟨⟨0, 0, 0⟩, none⟩ none
        have hs := prepare_signal_state s.videosrc s.mode ⟨⟨0, 0, 0⟩, none⟩ none
        simp only [hf, Bool.false_eq_true, if_false] at hl
        exact announce_step hi none hl hs rfl rfl rfl fun _ _ _ _ _ hp => by cases hp
      · have hsame : SameChanges s { s with pc := .nullAudio } :=
          ⟨rfl, rfl, rfl, rfl, fun _ _ _ _ _ hp => by cases hp⟩
        exact hsame.invariant hi
    | gotFrame env =>
      have hf : s.videosrc.flushing = false := ha.1
      obtain ⟨v, a, verdict, -, hverdict, pc, video, rfl, hv⟩ := got_frame_cases h
      have hl := prepare_frames s.videosrc s.mode env (some v)
      have hs := prepare_signal_state s.videosrc s.mode env (some v)
      simp only [hf, Bool.false_eq_true, if_false] at hl
      refine announce_step hi _ hl hs rfl rfl rfl ?_
      rcases hv with ⟨-, rfl, -⟩ | ⟨-, rfl, -⟩ | ⟨ts, st, had, hqueue, rfl, -⟩
      · intro _ _ _ _ _ hp
        cases hp
      · intro _ _ _ _ _ hp
        cases hp
      · intro _ _ _ _ _ _
        -- a frame is only queued when it has signal
        have hsome := prepare_queue_some (hverdict.trans hqueue)
        simpa [hsome] using hs
    | queueFrame =>
      have hf : s.videosrc.flushing = false := ha.1
      obtain ⟨v, a, ts, st, had, hstate, hlast, rfl⟩ := queued_with_signal hi hf h
      obtain ⟨hc, hne⟩ := overflow_step (ha.2 rfl) hi.alternates hlast v ts st had
      refine ⟨⟨hc.alternates hi.alternates, hi.cancels.trans hc, ?_⟩, hi.history,
        hi.history_current, fun _ _ _ _ _ hp => by cases hp⟩
      exact ((hc.last hi.alternates).resolve_left hne).trans
        (hlast.trans (congrArg stateLevel hstate).symm)
    | videoPop => exact pop_step hi h
    | videoUnlockStop => exact absurd ha.1 id
    | videoStop => exact absurd ha.1 id
    | _ => cases he

theorem started_invariant (h : Started s) : Invariant s := by
  have hs : s.videosrc.signalState = .unknown := by
    rw [← h.streams]
    rfl
  have hr : reportedChanges s = [] := by
    simp [reportedChanges, h.reported, h.no_frames, queuedChanges]
  have ht : trueChanges s = [] := by simp [trueChanges, h.changes]
  refine ⟨⟨?_, ?_, ?_⟩, ?_, ?_, ?_⟩
  · rw [hr]; exact List.isChain_nil
  · rw [hr, ht]; exact .refl _
  · rw [hr, hs]; rfl
  · rw [ht]; exact List.isChain_nil
  · rw [ht, hs]; rfl
  · intro v a ts st had hp
    rw [h.pc] at hp
    cases hp

/-- A step that queues a frame keeps the sequence consistent only under the condition. -/
theorem queue_frame_exact (hi : Invariant s) (hf : s.videosrc.flushing = false)
    (h : s.next videoInfoFromCaps .queueFrame = some t) :
    ChangesConsistent t ↔ OverflowCancels s := by
  constructor
  · intro hk
    obtain ⟨v, a, ts, st, had, hstate, hlast, rfl⟩ := queued_with_signal hi hf h
    exact overflow_only hi.alternates hi.cancels hi.history hlast v ts st had rfl
      hk.alternates hk.cancels (hk.current.trans (congrArg stateLevel hstate))
  · intro hc
    exact (step_invariant hi (e := .queueFrame) ⟨hf, fun _ => hc⟩ h).1

/-- As long as overflow only cancels changes the reader sees a consistent sequence, and
the first step that does otherwise breaks it. -/
theorem changes_consistent (h : ReachableWhile (pipeline videoInfoFromCaps) KeepsChanges s) :
    ChangesConsistent s ∧
      ∀ t, s.videosrc.flushing = false → s.next videoInfoFromCaps .queueFrame = some t →
        (ChangesConsistent t ↔ OverflowCancels s) := by
  have hi : Invariant s := h.invariant (fun _ hi => started_invariant hi)
    fun _ _ _ hi ha hn => step_invariant hi ha hn
  exact ⟨hi.1, fun t hf ht => queue_frame_exact hi hf ht⟩

theorem changes_consistent_after_drop :
    ∃ s, s.changes = [.gotSignal, .lostSignal, .recoveredSignal] ∧
      reportedChanges s = [true] ∧ ChangesConsistent s := by
  obtain ⟨s, hs, hp⟩ := reachable_while_of_trace (m := pipeline capsVideoInfo)
    (a := KeepsChanges)
    (l := videoIteration (deviceFrame true 0) (clockAt 1000) ++
      [.nullVideo, .nullAudio] ++ videoIteration (deviceFrame true 0) (clockAt 3000))
    (p := fun s => s.changes == [.gotSignal, .lostSignal, .recoveredSignal] &&
      reportedChanges s == [true])
    (i := startedPipeline 2 false) (started_pipeline (by decide) false) (by decide +kernel)
  have hc := changes_consistent hs
  simp only [Bool.and_eq_true, beq_iff_eq] at hp
  exact ⟨s, hp.1, hp.2, hc.1⟩

/-- With room for one entry the first frame drops the marker of its own signal. -/
theorem signal_lost_on_the_way : ¬ ∀ s : Pipeline,
    ReachableWhile (pipeline capsVideoInfo) NoFlush s → s.videosrc.skipFirstTime = 0 →
      ChangesConsistent s := by
  intro hall
  obtain ⟨s, hs, hp⟩ := reachable_while_of_trace (m := pipeline capsVideoInfo)
    (a := NoFlush) (l := videoIteration (deviceFrame true 0) (clockAt 1000))
    (p := fun s => reportedChanges s == [] && s.videosrc.signalState == .available &&
      s.videosrc.skipFirstTime == 0)
    (i := startedPipeline 1 false) (started_pipeline (by decide) false) (by decide +kernel)
  simp only [Bool.and_eq_true, beq_iff_eq] at hp
  have hc := (hall s hs hp.2).current
  rw [hp.1.1, hp.1.2] at hc
  cases hc

end AjaSignalChanges
