import NTV2Gst.AjaVideoSrc

/-!
# The audio source element

Packets are captured with the frames and dated by the video source of the same input:
the audio source reads its anchor and its time mapping. `gotPacket` is cut where it
takes `src->lock`, as the video callback is.
-/
namespace AjaAudioSrc

open DropOldest GstAjaModes GstClockMath AjaVideoSrc

/-- The frame number is 32 bits wide, the counters it comes from are 64. -/
structure AjaAudioBuff where
  buffer : ℕ
  audioDataSize : ℕ
  frameNumber : ℕ
  haveSignal : Bool
  framesProcessed : ℕ
  framesDropped : ℕ
  droppedChanged : Bool
  deriving DecidableEq, Repr

structure AjaCaptureAudioPacket where
  audioBuff : AjaAudioBuff
  captureTime : ℕ
  streamTime : ℕ
  firstBuffer : Bool
  deriving DecidableEq, Repr

structure GstAudioInfo where
  rate : ℕ
  bpf : ℕ
  deriving DecidableEq, Repr

structure GstAjaAudioSrc where
  info : GstAudioInfo
  flushing : Bool
  currentPackets : List AjaCaptureAudioPacket
  alignmentThreshold : ℕ
  discontWait : ℕ
  discontTime : ℕ
  channels : ℕ
  queueSize : ℕ
  nextOffset : ℕ
  hadSignal : Bool
  skippedLast : ℕ
  skippedOverall : ℕ
  skipFromTimestamp : ℕ
  skipToTimestamp : ℕ
  deriving DecidableEq, Repr

def GstAjaAudioSrc.init (channels queueSize alignmentThreshold discontWait : ℕ) :
    GstAjaAudioSrc where
  info := ⟨0, 0⟩
  flushing := false
  currentPackets := []
  alignmentThreshold := alignmentThreshold
  discontWait := discontWait
  discontTime := 0
  channels := channels
  queueSize := queueSize
  nextOffset := 0
  hadSignal := false
  skippedLast := 0
  skippedOverall := 0
  skipFromTimestamp := clockTimeNone
  skipToTimestamp := clockTimeNone

/-! ## Capture callback -/

inductive PacketVerdict where
  | noSignal
  /-- `g_assert` failed: the video source was never given a frame. -/
  | assertion
  | skipped
  | queue (timestamp streamTime : ℕ)
  deriving DecidableEq, Repr

/-- Up to taking `src->lock`. Without a video source a packet has no times. -/
def GstAjaAudioSrc.gotPacketPrepare (src : GstAjaAudioSrc) (videosrc : Option GstAjaVideoSrc)
    (mode : GstAjaMode) (audioBuff : Option AjaAudioBuff) : GstAjaAudioSrc × PacketVerdict :=
  match audioBuff.filter (·.haveSignal) with
  | none => ({ src with hadSignal := false }, .noSignal)
  | some b =>
    match videosrc with
    | none => (src, .queue clockTimeNone clockTimeNone)
    | some v =>
      if v.firstTime = clockTimeNone then (src, .assertion)
      else
        let s := v.streamTime mode b.frameNumber
        if v.skips s then ({ src with hadSignal := true }, .skipped)
        else (src, .queue (v.timestamp s) s)

def GstAjaAudioSrc.skippedBefore (src : GstAjaAudioSrc) (dropped : List AjaCaptureAudioPacket) :
    Bool :=
  dropped.isEmpty && 0 < src.skippedLast

def GstAjaAudioSrc.countSkipped (src : GstAjaAudioSrc) (dropped : List AjaCaptureAudioPacket) :
    GstAjaAudioSrc :=
  { src with
    skipFromTimestamp :=
      if src.skippedLast = 0 then (dropped.head?.map (·.captureTime)).getD src.skipFromTimestamp
      else src.skipFromTimestamp
    skipToTimestamp := (dropped.getLast?.map (·.captureTime)).getD src.skipToTimestamp
    skippedOverall :=
      if src.skippedBefore dropped then u64Add src.skippedOverall src.skippedLast
      else src.skippedOverall
    skippedLast :=
      ((if src.skippedBefore dropped then 0 else src.skippedLast) + dropped.length) % 2 ^ 32 }

def GstAjaAudioSrc.queuePacket (src : GstAjaAudioSrc) (audioBuff : AjaAudioBuff)
    (timestamp streamTime : ℕ) : GstAjaAudioSrc :=
  let old := popped src.queueSize src.currentPackets
  let before := src.skippedBefore old
  { src.countSkipped old with
    hadSignal := true
    currentPackets := left src.queueSize src.currentPackets ++
      [{ audioBuff := { audioBuff with droppedChanged := audioBuff.droppedChanged || before }
         captureTime := timestamp
         streamTime := streamTime
         firstBuffer := !src.hadSignal }] }

def GstAjaAudioSrc.gotPacket (src : GstAjaAudioSrc) (videosrc : Option GstAjaVideoSrc)
    (mode : GstAjaMode) (audioBuff : Option AjaAudioBuff) : Option GstAjaAudioSrc :=
  let r := src.gotPacketPrepare videosrc mode audioBuff
  match audioBuff, r.2 with
  | some b, .queue timestamp streamTime =>
    if r.1.flushing then some { r.1 with hadSignal := true }
    else some (r.1.queuePacket b timestamp streamTime)
  | _, .assertion => none
  | _, _ => some r.1

/-! ## Flushing, stopping, starting -/

def GstAjaAudioSrc.unlock (src : GstAjaAudioSrc) : GstAjaAudioSrc := { src with flushing := true }

def GstAjaAudioSrc.unlockStop (src : GstAjaAudioSrc) : GstAjaAudioSrc :=
  { src with flushing := false, currentPackets := [] }

def GstAjaAudioSrc.readyToPaused (src : GstAjaAudioSrc) : GstAjaAudioSrc :=
  { src with flushing := false, nextOffset := maxUint64 }

/-- What `start` sets once the streams were asked for: 32-bit samples at 48 kHz. -/
def GstAjaAudioSrc.startReset (src : GstAjaAudioSrc) : GstAjaAudioSrc :=
  { src with
    info := ⟨48000, 4 * src.channels⟩
    skippedLast := 0
    skippedOverall := 0
    skipFromTimestamp := clockTimeNone
    skipToTimestamp := clockTimeNone }

/-! ## Create -/

def GstAjaAudioSrc.popPacket (src : GstAjaAudioSrc) :
    Option (AjaCaptureAudioPacket × GstAjaAudioSrc) :=
  if src.flushing then none
  else match src.currentPackets with
    | [] => none
    | p :: q => some (p, { src with currentPackets := q })

structure GstAudioBuffer where
  buffer : ℕ
  timestamp : ℕ
  duration : ℕ
  discont : Bool
  referenceTime : ℕ
  qos : Option QosStats
  deriving DecidableEq, Repr

/-- The drift check on a packet that is not marked: whether to resync, and the time
since when the packets are off. -/
def GstAjaAudioSrc.checkDrift (src : GstAjaAudioSrc) (startOffset startTime : ℕ) : Bool × ℕ :=
  let diff :=
    if startOffset ≤ src.nextOffset then src.nextOffset - startOffset
    else startOffset - src.nextOffset
  let maxSampleDiff := uint64Scale src.alignmentThreshold src.info.rate second
  if 0 < src.alignmentThreshold ∧ src.alignmentThreshold ≠ clockTimeNone ∧
      maxSampleDiff ≤ diff then
    if 0 < src.discontWait then
      if src.discontTime = clockTimeNone then (false, startTime)
      else if src.discontWait ≤ u64Sub startTime src.discontTime then (true, clockTimeNone)
      else (false, src.discontTime)
    else (true, src.discontTime)
  else (false, clockTimeNone)

def GstAjaAudioSrc.startOffset (src : GstAjaAudioSrc) (p : AjaCaptureAudioPacket) : ℕ :=
  uint64Scale p.captureTime src.info.rate second

def GstAjaAudioSrc.startTime (src : GstAjaAudioSrc) (p : AjaCaptureAudioPacket) : ℕ :=
  uint64Scale (src.startOffset p) second src.info.rate

def GstAjaAudioSrc.sampleCount (src : GstAjaAudioSrc) (p : AjaCaptureAudioPacket) : ℕ :=
  p.audioBuff.audioDataSize / src.info.bpf

def GstAjaAudioSrc.endOffset (src : GstAjaAudioSrc) (p : AjaCaptureAudioPacket) : ℕ :=
  u64Add (src.startOffset p) (src.sampleCount p)

def AjaCaptureAudioPacket.marked (p : AjaCaptureAudioPacket) : Bool :=
  p.firstBuffer || p.audioBuff.droppedChanged

def GstAjaAudioSrc.resync (src : GstAjaAudioSrc) (p : AjaCaptureAudioPacket) : Bool × ℕ :=
  if src.nextOffset = maxUint64 ∨ p.marked then (true, src.discontTime)
  else src.checkDrift (src.startOffset p) (src.startTime p)

def GstAjaAudioSrc.captured (src : GstAjaAudioSrc) (mode : GstAjaMode)
    (p : AjaCaptureAudioPacket) (discont : Bool) : GstAudioBuffer where
  buffer := p.audioBuff.buffer
  timestamp := p.captureTime
  duration := u64Sub (uint64Scale (src.endOffset p) second src.info.rate) (src.startTime p)
  discont := discont
  referenceTime := p.streamTime
  qos :=
    if p.audioBuff.droppedChanged then
      some ⟨p.streamTime, p.captureTime, frameDuration mode,
        u64Sub p.audioBuff.framesProcessed src.skippedOverall,
        u64Add p.audioBuff.framesDropped src.skippedOverall⟩
    else none

/-- `create` after the packet is popped. Without a resync the time stamp follows from the
samples delivered so far, unless there is no alignment at all. -/
def GstAjaAudioSrc.output (src : GstAjaAudioSrc) (mode : GstAjaMode) (p : AjaCaptureAudioPacket) :
    GstAjaAudioSrc × GstAudioBuffer :=
  let r := src.resync p
  let next := u64Add src.nextOffset (src.sampleCount p)
  let timestamp := uint64Scale src.nextOffset second src.info.rate
  if r.1 then
    ({ src with nextOffset := src.endOffset p, discontTime := clockTimeNone },
      src.captured mode p true)
  else if src.alignmentThreshold = 0 then
    ({ src with discontTime := r.2 }, src.captured mode p false)
  else
    ({ src with nextOffset := next, discontTime := r.2 },
      { src.captured mode p false with
        timestamp := timestamp
        duration := u64Sub (uint64Scale next second src.info.rate) timestamp })

theorem output_discont_of_marked {src : GstAjaAudioSrc} {mode : GstAjaMode}
    {p : AjaCaptureAudioPacket} (h : p.marked = true) :
    (src.output mode p).2.discont = true := by
  have hr : (src.resync p).1 = true := by simp [GstAjaAudioSrc.resync, h]
  simp [GstAjaAudioSrc.output, hr, GstAjaAudioSrc.captured]

theorem output_keeps (src : GstAjaAudioSrc) (mode : GstAjaMode) (p : AjaCaptureAudioPacket) :
    (src.output mode p).1 = { src with
      nextOffset := (src.output mode p).1.nextOffset
      discontTime := (src.output mode p).1.discontTime } := by
  unfold GstAjaAudioSrc.output
  simp only
  split
  · rfl
  · split <;> rfl

theorem output_buffer (src : GstAjaAudioSrc) (mode : GstAjaMode) (p : AjaCaptureAudioPacket) :
    (src.output mode p).2.buffer = p.audioBuff.buffer := by
  unfold GstAjaAudioSrc.output
  simp only
  split
  · rfl
  · split <;> rfl

theorem pop_packet_some {src src' : GstAjaAudioSrc} {p : AjaCaptureAudioPacket}
    (h : src.popPacket = some (p, src')) :
    src.flushing = false ∧ src = { src' with currentPackets := p :: src'.currentPackets } := by
  unfold GstAjaAudioSrc.popPacket at h
  split at h
  · cases h
  case isFalse hf =>
    split at h
    · cases h
    case h_2 g q hq =>
      cases h
      exact ⟨by simpa using hf, by rw [← hq]⟩

theorem packet_prepare_keeps (src : GstAjaAudioSrc) (videosrc : Option GstAjaVideoSrc)
    (mode : GstAjaMode) (audioBuff : Option AjaAudioBuff) :
    (src.gotPacketPrepare videosrc mode audioBuff).1 = { src with
      hadSignal := (src.gotPacketPrepare videosrc mode audioBuff).1.hadSignal } := by
  unfold GstAjaAudioSrc.gotPacketPrepare
  split
  · rfl
  · split
    · rfl
    · split
      · rfl
      · simp only
        split <;> rfl

structure PacketMemory (src : GstAjaAudioSrc) (v : GstAjaVideoSrc) (mode : GstAjaMode)
    (b : AjaAudioBuff) (r : GstAjaAudioSrc × PacketVerdict) : Prop where
  no_signal : r.2 = .noSignal → r.1.hadSignal = false
  skipped : r.2 = .skipped →
    (b.haveSignal = true ∧ v.skips (v.streamTime mode b.frameNumber) = true) ∧
      r.1.hadSignal = true
  queue : ∀ {timestamp streamTime}, r.2 = .queue timestamp streamTime →
    r.1.hadSignal = src.hadSignal

theorem packet_memory (src : GstAjaAudioSrc) (v : GstAjaVideoSrc) (mode : GstAjaMode)
    (b : AjaAudioBuff) :
    PacketMemory src v mode b (src.gotPacketPrepare (some v) mode (some b)) := by
  unfold GstAjaAudioSrc.gotPacketPrepare
  cases hs : b.haveSignal with
  | false => constructor <;> simp [Option.filter, hs]
  | true =>
    simp only [Option.filter, hs, if_true]
    split
    · constructor <;> simp
    · split
      case isTrue hk => constructor <;> simp [hk, hs]
      case isFalse => constructor <;> simp

end AjaAudioSrc
