import NTV2Gst.AjaPipelineSteps
import NTV2Gst.AjaBufferOwnership
import NTV2Gst.SharedRecords
import Mathlib.Tactic.Abel

/-!
# Who touches a record, and who holds it

The records of a frame live as long as their buffers are referenced. Each step of the pipeline
comes with the operations it does on them, in the order of the source. The worker still reads
`lastFrame` of a record when the callback is over: a step of its own, since the other threads
may run before it. A record that the pool gives out again has a new name.
-/
namespace AjaRecordAccess

open TransitionRuns DropOldest GstAjaModes AjaVideoSrc AjaAudioSrc AjaCapturePipeline
  AjaPipelineSteps AjaBufferOwnership SharedRecords

inductive Kind where
  | video | audio
  deriving DecidableEq, Repr

abbrev Record := Kind × ℕ

/-- `callback` is `got_frame` or `got_packet`; `application` is `unlock_stop` and `stop`. -/
inductive Party where
  | worker | callback | queue | create | application | downstream
  deriving DecidableEq, Repr

abbrev RecordOp := Op Party Record

/-! ## The operations of each step -/

/-- `ReleaseVideoBuffer` and `ReleaseAudioBuffer` look the buffer up in the record. -/
def release (p : Party) (x : Record) : List RecordOp := [.access p x, .unref p x]

def clear (p : Party) (x : Record) : List RecordOp := .hand .queue p x :: release p x

/-- The worker fills in both records before the first callback. -/
def acquire (v a : Record) : List RecordOp :=
  [.acquire .worker v, .access .worker v, .acquire .worker a, .access .worker a,
    .access .worker v]

def doCallback (taken : Bool) (x : Record) : List RecordOp :=
  if taken then [.hand .worker .callback x] else release .worker x

def prepare (queued : Bool) (x : Record) : List RecordOp :=
  .access .callback x :: if queued then [] else release .callback x

/-- The last access is the write of `droppedChanged`. -/
def enqueue (flushing : Bool) (dropped : List Record) (x : Record) : List RecordOp :=
  if flushing then release .callback x
  else dropped.flatMap (clear .callback) ++ [.access .callback x, .hand .callback .queue x]

def pop (x : Record) : List RecordOp := [.hand .queue .create x, .access .create x]

/-- `create` adds a reference for its caller and gives up that of the queue entry. -/
def output (x : Record) : List RecordOp :=
  [.ref .create x, .access .create x] ++ release .create x ++ [.hand .create .downstream x]

def videoRecords (q : List AjaCaptureVideoFrame) : List Record := (videoBuffers q).map (.video, ·)

def audioRecords (q : List AjaCaptureAudioPacket) : List Record := (audioBuffers q).map (.audio, ·)

def videoTakenRecords (taken : Option (AjaCaptureVideoFrame × AjaVideoBuff)) : List Record :=
  taken.toList.map fun r => (.video, r.2.buffer)

def audioTakenRecords (taken : Option AjaCaptureAudioPacket) : List Record :=
  taken.toList.map fun p => (.audio, p.audioBuff.buffer)

def isQueued : FrameVerdict → Bool
  | .queue _ _ _ => true
  | _ => false

def isQueuedPacket : PacketVerdict → Bool
  | .queue _ _ => true
  | _ => false

def recordOps (s : Pipeline) : Event → List RecordOp
  | .capture _ => acquire (.video, s.nextBuffer) (.audio, s.nextBuffer)
  | .videoCallback =>
    match s.pc with
    | .videoCallback v _ => doCallback (s.videoCallback && s.videoEnabled) (.video, v.buffer)
    | _ => []
  | .gotFrame env =>
    match s.pc with
    | .gotFrame v _ =>
      prepare (isQueued (s.videosrc.gotFramePrepare s.mode env (some v)).2) (.video, v.buffer)
    | _ => []
  | .queueFrame =>
    match s.pc with
    | .queueFrame v _ _ _ _ =>
      enqueue s.videosrc.flushing
        (videoRecords (popped s.videosrc.queueSize s.videosrc.currentFrames)) (.video, v.buffer)
    | _ => []
  | .audioCallback =>
    match s.pc with
    | .audioCallback a _ => doCallback (s.audioCallback && s.audioEnabled) (.audio, a.buffer)
    | _ => []
  | .gotPacket =>
    match s.pc with
    | .gotPacket a _ =>
      prepare (isQueuedPacket
        (s.audiosrc.gotPacketPrepare (some s.videosrc) s.mode (some a)).2) (.audio, a.buffer)
    | _ => []
  | .queuePacket =>
    match s.pc with
    | .queuePacket a _ _ =>
      enqueue s.audiosrc.flushing
        (audioRecords (popped s.audiosrc.queueSize s.audiosrc.currentPackets)) (.audio, a.buffer)
    | _ => []
  | .videoPop => (videoRecords (s.videosrc.currentFrames.take 1)).flatMap pop
  | .videoReturn => (videoTakenRecords s.videoTaken).flatMap output
  | .audioPop => (audioRecords (s.audiosrc.currentPackets.take 1)).flatMap pop
  | .audioReturn => (audioTakenRecords s.audioTaken).flatMap output
  | .videoUnlockStop | .videoStop =>
    (videoRecords s.videosrc.currentFrames).flatMap (clear .application)
  | .audioUnlockStop => (audioRecords s.audiosrc.currentPackets).flatMap (clear .application)
  | .audioStopPop =>
    (audioRecords (s.audiosrc.currentPackets.take 1)).flatMap (clear .application)
  | _ => []

/-! ## The pipeline with its reference counts -/

/-- `lastFrameOf` is the record whose `lastFrame` the worker reads next. -/
structure CountedPipeline where
  pipe : Pipeline
  refs : Refs Party Record
  lastFrameOf : Option Record
  deriving DecidableEq

inductive CountedEvent where
  | step (e : Event)
  | readLastFrame
  | downstreamUnref (x : Record)
  deriving DecidableEq, Repr

def callbackOver (pc pc' : WorkerPc) : Option Record :=
  match frameInHand pc, frameInHand pc', packetInHand pc, packetInHand pc' with
  | some v, none, _, _ => some (.video, v.buffer)
  | _, _, some a, none => some (.audio, a.buffer)
  | _, _, _, _ => none

def onWorker : Event → Bool
  | .status _ | .capture _ | .nullVideo | .nullAudio | .videoCallback | .gotFrame _ | .queueFrame
  | .audioCallback | .gotPacket | .queuePacket | .workerEnds => true
  | _ => false

def CountedPipeline.ops (c : CountedPipeline) : CountedEvent → List RecordOp
  | .step e => recordOps c.pipe e
  | .readLastFrame => c.lastFrameOf.toList.map (.access .worker)
  | .downstreamUnref x => [.unref .downstream x]

section Counted

variable (videoInfoFromCaps : GstCaps → GstVideoInfo)

def CountedPipeline.next (c : CountedPipeline) : CountedEvent → Option CountedPipeline
  | .step e =>
    if onWorker e && c.lastFrameOf.isSome then none
    else (c.pipe.next videoInfoFromCaps e).map fun t =>
      { pipe := t
        refs := exec c.refs (recordOps c.pipe e)
        lastFrameOf := (callbackOver c.pipe.pc t.pc).or c.lastFrameOf }
  | .readLastFrame => if c.lastFrameOf.isSome then some { c with lastFrameOf := none } else none
  | .downstreamUnref x =>
    if (.downstream, x) ∈ c.refs then some { c with refs := exec c.refs [.unref .downstream x] }
    else none

def counted : Machine CountedPipeline CountedEvent where
  initial c := Started c.pipe ∧ c.refs = 0 ∧ c.lastFrameOf = none
  next := CountedPipeline.next videoInfoFromCaps

/-- Every operation of the run on a record is by a party that holds a reference then. -/
def AccessesHeld (c : CountedPipeline) (events : List CountedEvent) : Prop :=
  ∀ before e after u, events = before ++ e :: after →
    runTrace (counted videoInfoFromCaps) c before = some u → Held u.refs (u.ops e)

end Counted

/-! ## What the blocks need and leave -/

theorem release_triple (p : Party) (x : Record) : Triple {(p, x)} (release p x) 0 :=
  (Triple.access p x).append (.unref p x)

theorem clear_triple (p : Party) (x : Record) : Triple {(.queue, x)} (clear p x) 0 :=
  (Triple.hand .queue p x).append (release_triple p x)

theorem drain_triple (p : Party) (xs : List Record) :
    Triple (heldBy Party.queue xs) (xs.flatMap (clear p)) 0 :=
  .each_gone (clear_triple p) xs

theorem acquire_triple (v a : Record) :
    Triple 0 (acquire v a) ({(.worker, v)} + {(.worker, a)}) := by
  have hv := (Triple.acquire Party.worker v).append (.access Party.worker v)
  have ha := (Triple.acquire Party.worker a).append (.access Party.worker a)
  have hboth := hv.append (ha.within {(Party.worker, v)} (zero_add _).symm (add_comm _ _))
  exact hboth.append ((Triple.access Party.worker v).frame {(.worker, a)})

theorem callback_taken (x : Record) :
    Triple {(.worker, x)} (doCallback true x) {(.callback, x)} :=
  .hand Party.worker Party.callback x

theorem callback_refused (x : Record) : Triple {(.worker, x)} (doCallback false x) 0 :=
  release_triple Party.worker x

theorem prepare_queued (x : Record) :
    Triple {(.callback, x)} (prepare true x) {(.callback, x)} := .access Party.callback x

theorem prepare_released (x : Record) : Triple {(.callback, x)} (prepare false x) 0 :=
  (Triple.access Party.callback x).append (release_triple Party.callback x)

theorem enqueue_flushing (dropped : List Record) (x : Record) :
    Triple {(.callback, x)} (enqueue true dropped x) 0 := release_triple Party.callback x

theorem enqueue_pushed (dropped : List Record) (x : Record) :
    Triple ({(.callback, x)} + heldBy Party.queue dropped) (enqueue false dropped x)
      {(.queue, x)} := by
  have hdrop := (drain_triple Party.callback dropped).within {(.callback, x)} (add_comm _ _)
    (zero_add _).symm
  exact hdrop.append ((Triple.access Party.callback x).append (.hand Party.callback Party.queue x))

theorem pop_triple (x : Record) : Triple {(.queue, x)} (pop x) {(.create, x)} :=
  (Triple.hand Party.queue Party.create x).append (.access Party.create x)

theorem output_triple (x : Record) : Triple {(.create, x)} (output x) {(.downstream, x)} := by
  have href := (Triple.ref Party.create x).append
    ((Triple.access Party.create x).frame {(.create, x)})
  have hrel := (release_triple Party.create x).within {(.create, x)} rfl (zero_add _).symm
  exact (href.append hrel).append (.hand Party.create Party.downstream x)

/-! ## Who holds what in a state -/

def workerRefs : WorkerPc → Refs Party Record
  | .videoCallback v a => {(.worker, (.video, v.buffer))} + {(.worker, (.audio, a.buffer))}
  | .gotFrame v a | .queueFrame v a _ _ _ =>
    {(.callback, (.video, v.buffer))} + {(.worker, (.audio, a.buffer))}
  | .audioCallback a _ => {(.worker, (.audio, a.buffer))}
  | .gotPacket a _ | .queuePacket a _ _ => {(.callback, (.audio, a.buffer))}
  | .idle | .nullAudio | .ended => 0

def streamRefs (queue taken : List Record) : Refs Party Record :=
  heldBy Party.queue queue + heldBy Party.create taken

def videoRefs (s : Pipeline) : Refs Party Record :=
  streamRefs (videoRecords s.videosrc.currentFrames) (videoTakenRecords s.videoTaken)

def audioRefs (s : Pipeline) : Refs Party Record :=
  streamRefs (audioRecords s.audiosrc.currentPackets) (audioTakenRecords s.audioTaken)

def owned (s : Pipeline) : Refs Party Record := workerRefs s.pc + videoRefs s + audioRefs s

section Steps

variable {videoInfoFromCaps : GstCaps → GstVideoInfo} {s t : Pipeline} {e : Event}

theorem video_records_append (p q : List AjaCaptureVideoFrame) :
    videoRecords (p ++ q) = videoRecords p ++ videoRecords q := by
  simp only [videoRecords, video_buffers_append, List.map_append]

theorem video_taken_records (f : AjaCaptureVideoFrame) :
    videoTakenRecords (f.videoBuff.map fun b => (f, b)) = videoRecords [f] := by
  cases hb : f.videoBuff <;> simp [videoTakenRecords, videoRecords, videoBuffers, hb]

theorem audio_records_append (p q : List AjaCaptureAudioPacket) :
    audioRecords (p ++ q) = audioRecords p ++ audioRecords q := by
  simp only [audioRecords, audioBuffers, List.map_append]

theorem enqueue_stream (flushing : Bool) (dropped left taken : List Record) (x : Record)
    (rest : Refs Party Record) :
    Triple ({(.callback, x)} + rest + streamRefs (dropped ++ left) taken)
      (enqueue flushing dropped x)
      (rest + streamRefs (if flushing then dropped ++ left else left ++ [x]) taken) := by
  cases flushing
  · refine (enqueue_pushed dropped x).within (rest + streamRefs left taken) ?_ ?_
    · simp only [streamRefs, held_by_append]
      abel
    · simp only [Bool.false_eq_true, if_false, streamRefs, held_by_append, held_by_cons,
        held_by_nil]
      abel
  · exact (enqueue_flushing dropped x).within (rest + streamRefs (dropped ++ left) taken)
      (add_assoc _ _ _) (zero_add _).symm

theorem pop_stream (xs queue : List Record) :
    Triple (streamRefs (xs ++ queue) []) (xs.flatMap pop) (streamRefs queue xs) := by
  refine (Triple.each_kept pop_triple xs).within (heldBy Party.queue queue) ?_ (add_comm _ _)
  rw [streamRefs, held_by_append, held_by_nil, add_zero]

theorem output_stream (queue xs : List Record) :
    Triple (streamRefs queue xs) (xs.flatMap output)
      (streamRefs queue [] + heldBy Party.downstream xs) := by
  refine (Triple.each_kept output_triple xs).within (heldBy Party.queue queue) (add_comm _ _) ?_
  rw [streamRefs, held_by_nil, add_zero, add_comm]

theorem drain_stream (xs queue taken : List Record) :
    Triple (streamRefs (xs ++ queue) taken) (xs.flatMap (clear .application))
      (streamRefs queue taken) := by
  refine (drain_triple .application xs).within (streamRefs queue taken) ?_ (zero_add _).symm
  simp only [streamRefs, held_by_append]
  abel

theorem drain_all (xs taken : List Record) :
    Triple (streamRefs xs taken) (xs.flatMap (clear .application)) (streamRefs [] taken) := by
  simpa only [List.append_nil] using drain_stream xs [] taken

/-! ## Each step does what it may -/

theorem passes_nothing {r u : Refs Party Record} {ops : List RecordOp} (h : Triple r ops u) :
    ∃ out, Triple r ops (u + heldBy Party.downstream out) := by
  refine ⟨[], ?_⟩
  rw [held_by_nil, add_zero]
  exact h

theorem video_triple (he : onVideoSide e = true) (h : s.next videoInfoFromCaps e = some t) :
    ∃ out, Triple (workerRefs s.pc + videoRefs s) (recordOps s e)
      (workerRefs t.pc + videoRefs t + heldBy Party.downstream out) := by
  cases e with
  | workerEnds =>
    obtain ⟨hpc, rfl⟩ := worker_ends_eq h
    refine passes_nothing (.of_eq ?_)
    rw [hpc]
    rfl
  | nullVideo =>
    obtain ⟨hpc, rfl | rfl⟩ := null_video_cases h
    all_goals
      refine passes_nothing (.of_eq ?_)
      rw [hpc]
    · simp only [workerRefs, videoRefs, videoRecords, video_buffers_lose_signal]
    · rfl
  | videoCallback =>
    obtain ⟨v, a, hpc, ⟨hon, rfl⟩ | ⟨hoff, rfl⟩⟩ := video_callback_cases h
    all_goals
      apply passes_nothing
    · simp only [recordOps, hpc, hon, workerRefs]
      exact (callback_taken (.video, v.buffer)).within
        ({(.worker, (.audio, a.buffer))} + videoRefs s) (add_assoc _ _ _) (add_assoc _ _ _)
    · simp only [recordOps, hpc, hoff, workerRefs]
      exact (callback_refused (.video, v.buffer)).within
        ({(.worker, (.audio, a.buffer))} + videoRefs s) (add_assoc _ _ _) (zero_add _).symm
  | gotFrame env =>
    obtain ⟨v, a, verdict, hpc, hverdict, pc, video, rfl, hv⟩ := got_frame_cases h
    have hrefs := video_buffers_prepare s.videosrc s.mode env (some v)
    apply passes_nothing
    simp only [recordOps, hpc, hverdict, videoRefs, videoRecords, hrefs]
    rcases hv with ⟨rfl, rfl, rfl⟩ | ⟨rfl, rfl, rfl⟩ | ⟨ts, st, had, rfl, rfl, rfl⟩
    · exact (prepare_released (.video, v.buffer)).within
        ({(.worker, (.audio, a.buffer))} + videoRefs s) (add_assoc _ _ _) (zero_add _).symm
    · exact (prepare_released (.video, v.buffer)).within
        ({(.worker, (.audio, a.buffer))} + videoRefs s) (add_assoc _ _ _) (zero_add _).symm
    · exact (prepare_queued (.video, v.buffer)).within
        ({(.worker, (.audio, a.buffer))} + videoRefs s) (add_assoc _ _ _) (add_assoc _ _ _)
  | queueFrame =>
    obtain ⟨v, a, ts, st, had, hpc, hq⟩ := queue_frame_cases h
    have hpush := enqueue_stream s.videosrc.flushing
      (videoRecords (popped s.videosrc.queueSize s.videosrc.currentFrames))
      (videoRecords (left s.videosrc.queueSize s.videosrc.currentFrames))
      (videoTakenRecords s.videoTaken)
      (.video, v.buffer) {(.worker, (.audio, a.buffer))}
    rw [← video_records_append, popped_append_left] at hpush
    apply passes_nothing
    simp only [recordOps, hpc, workerRefs]
    rcases hq with ⟨hf, rfl⟩ | ⟨hf, rfl⟩
    · rw [hf] at hpush ⊢
      exact hpush
    · rw [hf] at hpush ⊢
      simp only [videoRefs, videoRecords, video_buffers_queue_frame, List.map_append]
      exact hpush
  | videoPop =>
    obtain ⟨f, src, hnone, -, hsrc, _, _, _, _, _, _, rfl⟩ := video_pop_cases h
    have hq : s.videosrc.currentFrames = [f] ++ src.currentFrames := by rw [hsrc]; rfl
    have hpop := pop_stream (videoRecords [f]) (videoRecords src.currentFrames)
    rw [← video_records_append, ← hq] at hpop
    apply passes_nothing
    have htake : s.videosrc.currentFrames.take 1 = [f] := by rw [hq]; rfl
    simp only [recordOps, videoRefs, hnone, video_taken_records, htake]
    exact hpop.within (workerRefs s.pc) (add_comm _ _) (add_comm _ _)
  | videoReturn =>
    obtain ⟨f, b, ht, rfl⟩ := video_return_eq h
    have hout := output_stream (videoRecords s.videosrc.currentFrames)
      (videoTakenRecords s.videoTaken)
    refine ⟨videoTakenRecords s.videoTaken, ?_⟩
    exact hout.within (workerRefs s.pc) (add_comm _ _) (by
      rw [add_assoc, add_comm]
      rfl)
  | videoUnlockStop =>
    cases h
    apply passes_nothing
    exact (drain_all _ _).within (workerRefs s.pc) (add_comm _ _) (add_comm _ _)
  | videoStop =>
    obtain ⟨-, rfl⟩ := video_stop_eq h
    apply passes_nothing
    exact (drain_all _ _).within (workerRefs s.pc) (add_comm _ _) (add_comm _ _)
  | videoUnlock | videoStartReset =>
    cases h
    exact passes_nothing (.of_eq rfl)
  | _ => cases he

theorem audio_triple (he : onAudioSide e = true) (h : s.next videoInfoFromCaps e = some t) :
    ∃ out, Triple (workerRefs s.pc + audioRefs s) (recordOps s e)
      (workerRefs t.pc + audioRefs t + heldBy Party.downstream out) := by
  cases e with
  | workerEnds =>
    obtain ⟨hpc, rfl⟩ := worker_ends_eq h
    refine passes_nothing (.of_eq ?_)
    rw [hpc]
    rfl
  | nullAudio =>
    obtain ⟨hpc, rfl | rfl⟩ := null_audio_cases h
    all_goals
      refine passes_nothing (.of_eq ?_)
      rw [hpc]
      rfl
  | audioCallback =>
    obtain ⟨a, memory, hpc, ⟨hon, rfl⟩ | ⟨hoff, rfl⟩⟩ := audio_callback_cases h
    all_goals
      apply passes_nothing
    · simp only [recordOps, hpc, hon, workerRefs]
      exact (callback_taken (.audio, a.buffer)).frame (audioRefs s)
    · simp only [recordOps, hpc, hoff, workerRefs]
      exact (callback_refused (.audio, a.buffer)).frame (audioRefs s)
  | gotPacket =>
    obtain ⟨a, memory, hpc, pc, audio, rfl, hv⟩ := got_packet_cases h
    apply passes_nothing
    simp only [recordOps, hpc]
    rcases hv with ⟨hverdict, rfl, rfl⟩ | ⟨hverdict, rfl, rfl⟩ | ⟨ts, st, hverdict, rfl, rfl⟩
    · rw [hverdict]
      exact (prepare_released (.audio, a.buffer)).frame (audioRefs s)
    · rw [hverdict]
      exact (prepare_released (.audio, a.buffer)).frame (audioRefs s)
    · rw [hverdict]
      exact (prepare_queued (.audio, a.buffer)).frame (audioRefs s)
  | queuePacket =>
    obtain ⟨a, ts, st, hpc, hq⟩ := queue_packet_cases h
    have hpush := enqueue_stream s.audiosrc.flushing
      (audioRecords (popped s.audiosrc.queueSize s.audiosrc.currentPackets))
      (audioRecords (left s.audiosrc.queueSize s.audiosrc.currentPackets))
      (audioTakenRecords s.audioTaken) (.audio, a.buffer) 0
    rw [← audio_records_append, popped_append_left, add_zero] at hpush
    apply passes_nothing
    simp only [recordOps, hpc, workerRefs]
    rcases hq with ⟨hf, rfl⟩ | ⟨hf, rfl⟩
    · rw [hf] at hpush ⊢
      exact hpush
    · rw [hf] at hpush ⊢
      simp only [audioRefs, audioRecords, audio_buffers_queue_packet, List.map_append]
      exact hpush
  | audioPop =>
    obtain ⟨p, src, hnone, -, hsrc, rfl⟩ := audio_pop_eq h
    have hq : s.audiosrc.currentPackets = [p] ++ src.currentPackets := by rw [hsrc]; rfl
    have hpop := pop_stream (audioRecords [p]) (audioRecords src.currentPackets)
    rw [← audio_records_append, ← hq] at hpop
    apply passes_nothing
    have htake : s.audiosrc.currentPackets.take 1 = [p] := by rw [hq]; rfl
    simp only [recordOps, audioRefs, hnone, htake]
    exact hpop.within (workerRefs s.pc) (add_comm _ _) (add_comm _ _)
  | audioReturn =>
    obtain ⟨p, _, _, ht, rfl⟩ := audio_return_eq h
    have hout := output_stream (audioRecords s.audiosrc.currentPackets)
      (audioTakenRecords s.audioTaken)
    refine ⟨audioTakenRecords s.audioTaken, ?_⟩
    exact hout.within (workerRefs s.pc) (add_comm _ _) (by
      rw [add_assoc, add_comm]
      rfl)
  | audioUnlockStop =>
    cases h
    apply passes_nothing
    exact (drain_all _ _).within (workerRefs s.pc) (add_comm _ _) (add_comm _ _)
  | audioStopPop =>
    cases h
    apply passes_nothing
    obtain ⟨hq, hs⟩ | ⟨p, q, hq, hs⟩ := audio_stop_pop_cases s
    · rw [hs]
      simp only [recordOps, audioRefs, hq]
      exact .of_eq rfl
    · have hdrain := drain_stream (audioRecords [p]) (audioRecords q)
        (audioTakenRecords s.audioTaken)
      rw [← audio_records_append, List.singleton_append, ← hq] at hdrain
      have htake : s.audiosrc.currentPackets.take 1 = [p] := by rw [hq]; rfl
      rw [hs]
      simp only [recordOps, htake]
      exact hdrain.within (workerRefs s.pc) (add_comm _ _) (add_comm _ _)
  | audioUnlock | audioReadyToPaused | audioEnable | audioStartReset | audioStop =>
    cases h
    exact passes_nothing (.of_eq rfl)
  | _ => cases he

theorem record_triple (h : s.next videoInfoFromCaps e = some t) :
    ∃ out, Triple (owned s) (recordOps s e) (owned t + heldBy Party.downstream out) := by
  rcases side_cases e with ⟨ac, rfl⟩ | ⟨d, rfl⟩ | he | he
  · obtain ⟨-, rfl⟩ := status_eq h
    exact passes_nothing (.of_eq rfl)
  · obtain ⟨hpc, rfl⟩ := capture_eq h
    apply passes_nothing
    refine (acquire_triple (.video, s.nextBuffer) (.audio, s.nextBuffer)).within
      (videoRefs s + audioRefs s) ?_ (add_assoc _ _ _)
    rw [owned, hpc, add_assoc]
    rfl
  · have k := video_kept he h
    obtain ⟨out, htriple⟩ := audio_triple he h
    have hsame : videoRefs t = videoRefs s := by simp only [videoRefs, k.videosrc, k.taken]
    refine ⟨out, htriple.within (videoRefs s) ?_ ?_⟩
    · rw [owned]
      abel
    · rw [owned, hsame]
      abel
  · have k := audio_kept he h
    obtain ⟨out, htriple⟩ := video_triple he h
    have hsame : audioRefs t = audioRefs s := by simp only [audioRefs, k.audiosrc, k.taken]
    refine ⟨out, htriple.within (audioRefs s) rfl ?_⟩
    rw [owned, hsame]
    abel

theorem pc_kept (hw : onWorker e = false) (h : s.next videoInfoFromCaps e = some t) :
    t.pc = s.pc := by
  cases e with
  | videoPop =>
    obtain ⟨f, src, -, -, -, _, _, _, _, _, _, rfl⟩ := video_pop_cases h
    rfl
  | videoReturn =>
    obtain ⟨f, b, -, rfl⟩ := video_return_eq h
    rfl
  | audioPop =>
    obtain ⟨p, src, -, -, -, rfl⟩ := audio_pop_eq h
    rfl
  | audioReturn =>
    obtain ⟨p, _, _, -, rfl⟩ := audio_return_eq h
    rfl
  | videoStop =>
    obtain ⟨-, rfl⟩ := video_stop_eq h
    rfl
  | audioStopPop =>
    cases h
    obtain ⟨-, hs⟩ | ⟨p, q, -, hs⟩ := audio_stop_pop_cases s <;> rw [hs]
  | videoUnlock | videoUnlockStop | videoStartReset | audioUnlock | audioUnlockStop
  | audioReadyToPaused | audioEnable | audioStartReset | audioStop =>
    cases h
    rfl
  | _ => cases hw

end Steps

theorem callback_over_given_away {pc pc' : WorkerPc} {x : Record}
    (h : callbackOver pc pc' = some x) : (Party.worker, x) ∉ workerRefs pc' := by
  cases pc <;> cases pc' <;> cases h <;> simp [workerRefs]

theorem stream_refs_party {queue taken : List Record} {h : Party × Record}
    (hh : h ∈ streamRefs queue taken) : h.1 = .queue ∨ h.1 = .create := by
  rcases Multiset.mem_add.mp hh with hh | hh
  · exact Or.inl (held_by_party hh)
  · exact Or.inr (held_by_party hh)

theorem worker_refs_party {pc : WorkerPc} {h : Party × Record} (hh : h ∈ workerRefs pc) :
    h.1 = .worker ∨ h.1 = .callback := by
  cases pc with
  | idle | nullAudio | ended => cases hh
  | videoCallback v a | gotFrame v a | queueFrame v a _ _ _ =>
    rcases Multiset.mem_add.mp hh with hh | hh <;> simp [Multiset.mem_singleton.mp hh]
  | audioCallback a _ | gotPacket a _ | queuePacket a _ _ => simp [Multiset.mem_singleton.mp hh]

theorem owned_party {s : Pipeline} {h : Party × Record} (hh : h ∈ owned s) :
    h ∈ workerRefs s.pc ∨ h.1 = .queue ∨ h.1 = .create := by
  rcases Multiset.mem_add.mp hh with hh | hh
  · rcases Multiset.mem_add.mp hh with hh | hh
    · exact Or.inl hh
    · exact Or.inr (stream_refs_party hh)
  · exact Or.inr (stream_refs_party hh)

/-- The references are those of the pipeline and of what is downstream, and the worker has
given away the record it still reads. -/
structure Invariant (c : CountedPipeline) : Prop where
  refs : ∃ rest, c.refs = owned c.pipe + rest ∧ ∀ h ∈ rest, h.1 = Party.downstream
  given_away : ∀ x, c.lastFrameOf = some x → (Party.worker, x) ∉ workerRefs c.pipe.pc

section Runs

variable {videoInfoFromCaps : GstCaps → GstVideoInfo} {c u : CountedPipeline} {e : CountedEvent}

theorem Invariant.read_not_held (hi : Invariant c) {x : Record} (hx : c.lastFrameOf = some x) :
    (Party.worker, x) ∉ c.refs := by
  obtain ⟨rest, hrefs, hrest⟩ := hi.refs
  rw [hrefs, Multiset.mem_add]
  rintro (hmem | hmem)
  · rcases owned_party hmem with hmem | hparty | hparty
    · exact hi.given_away x hx hmem
    · cases hparty
    · cases hparty
  · cases hrest _ hmem

theorem next_held (hi : Invariant c) (hn : c.next videoInfoFromCaps e = some u)
    (he : e ≠ .readLastFrame) : Held c.refs (c.ops e) := by
  obtain ⟨rest, hrefs, -⟩ := hi.refs
  cases e with
  | step e =>
    simp only [CountedPipeline.next] at hn
    split at hn
    case isTrue => cases hn
    case isFalse =>
      obtain ⟨t, ht, -⟩ := Option.map_eq_some_iff.mp hn
      obtain ⟨out, htriple⟩ := record_triple ht
      rw [hrefs]
      exact (htriple.frame rest).held
  | readLastFrame => exact absurd rfl he
  | downstreamUnref x =>
    simp only [CountedPipeline.next] at hn
    split at hn
    case isTrue hx => exact ⟨fun _ hh => by cases hh; exact hx, trivial⟩
    case isFalse => cases hn

theorem next_invariant (hi : Invariant c) (hn : c.next videoInfoFromCaps e = some u) :
    Invariant u := by
  obtain ⟨rest, hrefs, hrest⟩ := hi.refs
  cases e with
  | step e =>
    simp only [CountedPipeline.next] at hn
    split at hn
    case isTrue => cases hn
    case isFalse hfree =>
      obtain ⟨t, ht, rfl⟩ := Option.map_eq_some_iff.mp hn
      obtain ⟨out, htriple⟩ := record_triple ht
      refine ⟨⟨heldBy Party.downstream out + rest, ?_, ?_⟩, ?_⟩
      · rw [← add_assoc, hrefs]
        exact (htriple.frame rest).result
      · intro h hh
        rcases Multiset.mem_add.mp hh with hh | hh
        · exact held_by_party hh
        · exact hrest h hh
      · intro x hx
        rcases Option.or_eq_some_iff.mp hx with hover | ⟨-, hlast⟩
        · exact callback_over_given_away hover
        · -- the worker waits for the read, the others leave it where it is
          have hw : onWorker e = false := by simpa [hlast] using hfree
          change (Party.worker, x) ∉ workerRefs t.pc
          rw [pc_kept hw ht]
          exact hi.given_away x hlast
  | readLastFrame =>
    simp only [CountedPipeline.next] at hn
    split at hn
    case isTrue => cases hn; exact ⟨⟨rest, hrefs, hrest⟩, nofun⟩
    case isFalse => cases hn
  | downstreamUnref x =>
    simp only [CountedPipeline.next] at hn
    split at hn
    case isTrue hx =>
      cases hn
      refine ⟨⟨rest.erase (.downstream, x), ?_, ?_⟩, hi.given_away⟩
      · have hother : (Party.downstream, x) ∉ owned c.pipe := by
          intro hmem
          rcases owned_party hmem with hmem | hparty | hparty
          · rcases worker_refs_party hmem with hparty | hparty <;> cases hparty
          · cases hparty
          · cases hparty
        change c.refs.erase _ = _
        rw [hrefs, Multiset.erase_add_right_neg _ hother]
      · intro h hh
        exact hrest h (Multiset.mem_of_mem_erase hh)
    case isFalse => cases hn

theorem initial_invariant (h : (counted videoInfoFromCaps).initial c) : Invariant c := by
  obtain ⟨hs, hrefs, hlast⟩ := h
  have howned : owned c.pipe = 0 := by
    simp [owned, hs.pc, workerRefs, videoRefs, audioRefs, hs.no_frames, hs.no_packets,
      hs.video_taken, hs.audio_taken, videoRecords, audioRecords, videoBuffers, audioBuffers,
      videoTakenRecords, audioTakenRecords, streamRefs, held_by_nil]
  refine ⟨⟨0, by rw [hrefs, howned, add_zero], by simp⟩, ?_⟩
  intro x hx
  rw [hlast] at hx
  cases hx

theorem trace_invariant {events : List CountedEvent} (hi : Invariant c)
    (h : runTrace (counted videoInfoFromCaps) c events = some u) : Invariant u :=
  (run_trace_execution h).invariant hi fun _ _ _ ha _ hn => next_invariant ha hn

end Runs

/-- A run keeps to its references as long as the worker does not read `lastFrame` after a
callback, which it does for every frame. -/
theorem accesses_held_iff (videoInfoFromCaps : GstCaps → GstVideoInfo) (c : CountedPipeline)
    (events : List CountedEvent) (hc : (counted videoInfoFromCaps).initial c)
    (hrun : (runTrace (counted videoInfoFromCaps) c events).isSome) :
    AccessesHeld videoInfoFromCaps c events ↔ .readLastFrame ∉ events := by
  have hi := initial_invariant hc
  constructor
  · intro hheld hread
    obtain ⟨before, after, rfl⟩ := List.append_of_mem hread
    obtain ⟨u, v, hu, hv⟩ := run_trace_split hrun
    simp only [counted, CountedPipeline.next] at hv
    split at hv
    case isFalse => cases hv
    case isTrue hlast =>
      obtain ⟨x, hx⟩ := Option.isSome_iff_exists.mp hlast
      have hop := hheld before .readLastFrame after u rfl hu
      rw [CountedPipeline.ops, hx] at hop
      exact (trace_invariant hi hu).read_not_held hx (hop.1 _ rfl)
  · intro hread before e after u hevents hu
    rw [hevents] at hrun
    obtain ⟨w, v, hw, hv⟩ := run_trace_split hrun
    obtain rfl : w = u := Option.some.inj (hw.symm.trans hu)
    exact next_held (trace_invariant hi hu) hv fun he => hread (by simp [hevents, he])

def startedCounted : CountedPipeline := ⟨startedPipeline 2 false, 0, none⟩

theorem started_counted : (counted capsVideoInfo).initial startedCounted :=
  ⟨started_pipeline (by decide) false, rfl, rfl⟩

def deliveredFrame : List CountedEvent :=
  [.step (.capture (deviceFrame true 0)), .step .videoCallback, .step (.gotFrame (clockAt 1000)),
    .step .queueFrame, .step .videoPop, .step .videoPop, .step .videoReturn,
    .downstreamUnref (.video, 0)]

def lostFrame : List CountedEvent :=
  [.step (.capture (deviceFrame false 0)), .step .videoCallback, .step (.gotFrame (clockAt 1000))]

theorem accesses_held_delivered : AccessesHeld capsVideoInfo startedCounted deliveredFrame :=
  (accesses_held_iff capsVideoInfo startedCounted deliveredFrame started_counted
    (by decide +kernel)).mpr (by decide)

/-- The worker reads `lastFrame` of a record that nobody references any more. -/
theorem last_frame_read_after_release :
    (∃ u, runTrace (counted capsVideoInfo) startedCounted lostFrame = some u ∧
      u.lastFrameOf = some (.video, 0) ∧ u.refs.refCount (.video, 0) = 0) ∧
    ¬ ∀ videoInfoFromCaps c events, (counted videoInfoFromCaps).initial c →
      (runTrace (counted videoInfoFromCaps) c events).isSome →
      AccessesHeld videoInfoFromCaps c events := by
  have hrun : (runTrace (counted capsVideoInfo) startedCounted lostFrame).any (fun u =>
      u.lastFrameOf == some (.video, 0) && u.refs.refCount (.video, 0) == 0) = true := by
    decide +kernel
  obtain ⟨u, hu, hp⟩ := (Option.any_eq_true _ _).mp hrun
  simp only [Bool.and_eq_true, beq_iff_eq] at hp
  obtain ⟨hlast, hcount⟩ := hp
  refine ⟨⟨u, hu, hlast, hcount⟩, ?_⟩
  intro h
  have hheld := h capsVideoInfo startedCounted (lostFrame ++ [.readLastFrame]) started_counted
    (by decide +kernel) lostFrame .readLastFrame [] u rfl hu
  rw [CountedPipeline.ops, hlast] at hheld
  have hpos := ref_count_pos (hheld.1 _ rfl)
  omega

end AjaRecordAccess
