import NTV2Gst.TransitionRuns
import NTV2Gst.DropOldest
import NTV2Gst.HandoverLedger
import NTV2Gst.GstClockMath
import NTV2Gst.GstAjaModes
import NTV2Gst.AjaVideoSrc
import NTV2Gst.AjaAudioSrc
import NTV2Gst.AjaCapturePipeline
import NTV2Gst.WrappingCounter
import NTV2Gst.AjaDropCounter
import NTV2Gst.AjaPipelineSteps
import NTV2Gst.AjaBufferOwnership
import NTV2Gst.AjaQueueRaces
import NTV2Gst.CancellingChanges
import NTV2Gst.AjaSignalChanges
import NTV2Gst.GapMarking
import NTV2Gst.AjaDiscontinuity
import NTV2Gst.AjaTimeAgreement
import NTV2Gst.AjaTimestamps
import NTV2Gst.AjaInput
import NTV2Gst.AjaInputRegistry
import NTV2Gst.AjaInputSystem
import NTV2Gst.AjaTransitions
import NTV2Gst.AjaSingleCapture
import NTV2Gst.AjaSharedEngine
import NTV2Gst.AjaCapsInForce
import NTV2Gst.AjaTeardown
import NTV2Gst.BlockPool
import NTV2Gst.AjaAllocator
import NTV2Gst.AjaAllocatorAccounting
import NTV2Gst.AjaVideoSetup
import NTV2Gst.AjaFrameBuffers
import NTV2Gst.KeyedInserts
import NTV2Gst.AjaRouting
import NTV2Gst.AjaTimeSlew
import NTV2Gst.EpisodeTimer
import NTV2Gst.AjaAudioAlignment
import NTV2Gst.OverflowAccount
import NTV2Gst.AjaQosAccounting
import NTV2Gst.AjaFailedOpen
import NTV2Gst.AjaFrameSteps
import NTV2Gst.AjaFirstTime
import NTV2Gst.AjaBufferPool
import NTV2Gst.AjaCaptureTime
import NTV2Gst.AjaModeTiming
import NTV2Gst.AjaTemplateCaps
import NTV2Gst.AjaTimecodeSource
import NTV2Gst.AjaRouteShift
import NTV2Gst.AjaFrameCrop
import NTV2Gst.AjaVideoReference
import NTV2Gst.ResumedSearch
import NTV2Gst.AjaCaptions
import NTV2Gst.SharedRecords
import NTV2Gst.AjaRecordAccess
import NTV2Gst.SliceViews
import NTV2Gst.AjaMemorySlices
import NTV2Gst.SamplingWindow
import NTV2Gst.AjaSampleWindow
import NTV2Gst.AjaKnownRate
import NTV2Gst.BitFields
import NTV2Gst.AjaVpid
import NTV2Gst.AjaTimecodeDigits
import NTV2Gst.StepSimulation
import NTV2Gst.AjaCaptureLoop
import NTV2Gst.AjaLoopSignal
import NTV2Gst.AjaLastFrame
import NTV2Gst.AjaRecordFlow
import NTV2Gst.AjaFrameOrigin
import NTV2Gst.AjaSignalFormats
import NTV2Gst.AjaQueueBound
import NTV2Gst.AjaFlush
import NTV2Gst.SharedEntries
import NTV2Gst.AjaCard
import NTV2Gst.AjaRegisterIsolation
import NTV2Gst.AjaRouteIsolation
import NTV2Gst.AjaAudioSystems
import NTV2Gst.AjaHardwareClock
import NTV2Gst.AjaPoolCycle
import NTV2Gst.AjaDeviceProvider
import NTV2Gst.AjaAudioLayout
