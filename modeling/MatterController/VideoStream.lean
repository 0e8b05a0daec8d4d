import MatterController.Errors

/-!
# Video streams and their requests

What `AllocateCameraVideoStream` compares: the snapshot of an application's
options (`VideoStreamAllocate`), what the camera advertises, and the list of
allocated streams it reads back. The start of a session reads that list too
(`validateCameraSelectedVideo`). Every check is a function of that data, so
a machine that runs the allocation or the start takes its answers from the
camera and decides by these.
-/

/-- `UINT16_MAX`, the reserved stream identifier. -/
abbrev reservedStreamId : UInt16 := 65535

/-- The usage of a stream that is shown live (`StreamUsageEnum::kLiveView`). -/
abbrev liveViewUsage : UInt8 := 3

/-- `VideoCodecEnum::kH264`. -/
abbrev h264Codec : UInt8 := 0

/-- The commands of a camera's stream management the allocation depends on. -/
abbrev videoStreamAllocateId : UInt32 := 3

abbrev videoStreamAllocateResponseId : UInt32 := 4

abbrev videoStreamDeallocateId : UInt32 := 6

/-- A resolution in pixels. -/
structure Resolution where
  width : UInt16
  height : UInt16
  deriving DecidableEq, Repr

/-- **The allocation request**, the snapshot of the application's options
(`Commands::VideoStreamAllocate::Type`). -/
structure VideoStreamAllocate where
  streamUsage : UInt8
  videoCodec : UInt8
  minFrameRate : UInt16
  maxFrameRate : UInt16
  minResolution : Resolution
  maxResolution : Resolution
  minBitRate : UInt32
  maxBitRate : UInt32
  keyFrameInterval : UInt16
  deriving DecidableEq, Repr

/-- **An allocated stream**, as the camera reports it. -/
structure MatterCameraVideoStream where
  streamId : UInt16
  streamUsage : UInt8
  videoCodec : UInt8
  minimumFrameRate : UInt16
  maximumFrameRate : UInt16
  minimumResolution : Resolution
  maximumResolution : Resolution
  minimumBitRate : UInt32
  maximumBitRate : UInt32
  keyFrameInterval : UInt16
  deriving DecidableEq, Repr

namespace MatterCameraVideoStream

/-- `IsLiveView`. -/
def isLiveView (s : MatterCameraVideoStream) : Bool := s.streamUsage == liveViewUsage

/-- `FindAllocatedLiveViewStream`: the first live stream of this identifier. -/
def findAllocatedLiveViewStream (streams : List MatterCameraVideoStream)
    (streamId : UInt16) : Option MatterCameraVideoStream :=
  streams.find? fun s => s.streamId == streamId && s.isLiveView

/-- The stream found has the identifier looked for. -/
theorem streamId_of_find {streams : List MatterCameraVideoStream} {streamId : UInt16}
    {s : MatterCameraVideoStream}
    (h : findAllocatedLiveViewStream streams streamId = some s) : s.streamId = streamId := by
  have hp := List.find?_some h
  simp only [Bool.and_eq_true, beq_iff_eq] at hp
  exact hp.1

end MatterCameraVideoStream

/-- `ValidateCameraSelectedVideo`: the stream of a session is allocated and live, of
the codec the adapter supports, and has no zero bound. -/
def validateCameraSelectedVideo (streams : List MatterCameraVideoStream) (id : UInt16) :
    Except Exn Unit :=
  match MatterCameraVideoStream.findAllocatedLiveViewStream streams id with
  | none => .error (.hresult .invalidArgument)
  | some stream =>
    if stream.videoCodec != h264Codec then .error (.hresult .notImplemented)
    else if stream.minimumResolution.width == 0 || stream.minimumResolution.height == 0 ||
        stream.minimumFrameRate == 0 || stream.minimumBitRate == 0 ||
        stream.keyFrameInterval == 0 then
      .error (.hresult .bounds)
    else .ok ()

namespace VideoStreamAllocate

/-- `MatterCameraVideoStreamOptions::ValidateAllocated`: the stream allocated is
within what was requested. -/
def validateAllocated (request : VideoStreamAllocate) (s : MatterCameraVideoStream) :
    Except Exn Unit :=
  if !s.isLiveView || s.videoCodec != request.videoCodec ||
      s.minimumResolution.width < request.minResolution.width ||
      s.minimumResolution.height < request.minResolution.height ||
      s.maximumResolution.width > request.maxResolution.width ||
      s.maximumResolution.height > request.maxResolution.height ||
      s.minimumFrameRate < request.minFrameRate ||
      s.maximumFrameRate > request.maxFrameRate ||
      s.minimumBitRate < request.minBitRate || s.maximumBitRate > request.maxBitRate ||
      s.keyFrameInterval != request.keyFrameInterval then
    .error (.hresult .bounds)
  else .ok ()

end VideoStreamAllocate

/-- **What a camera advertises of its stream management**, as far as an
allocation asks: its video feature and its command lists. -/
structure VideoCapabilities where
  supportsVideo : Bool
  acceptedCommands : List UInt32
  generatedCommands : List UInt32
  deriving DecidableEq, Repr

/-- The capability test of an allocation: video, and the whole command path. -/
def VideoCapabilities.check (c : VideoCapabilities) : Except Exn Unit :=
  if !c.supportsVideo || videoStreamAllocateId ∉ c.acceptedCommands ||
      videoStreamDeallocateId ∉ c.acceptedCommands ||
      videoStreamAllocateResponseId ∉ c.generatedCommands then
    .error (.hresult .notImplemented)
  else .ok ()

/-- **The limits of a camera's sensor** and the usages it supports. -/
structure VideoLimits where
  sensor : Resolution
  sensorFrameRate : UInt16
  viewport : Resolution
  usages : List UInt8
  deriving DecidableEq, Repr

/-- The stream selection test: the usage is supported, and the request is
within the sensor and not below the viewport. -/
def VideoLimits.check (l : VideoLimits) (request : VideoStreamAllocate) :
    Except Exn Unit :=
  if request.streamUsage ∉ l.usages then .error (.hresult .notImplemented)
  else if request.maxResolution.width > l.sensor.width ||
      request.maxResolution.height > l.sensor.height ||
      request.maxFrameRate > l.sensorFrameRate ||
      request.minResolution.width < l.viewport.width ||
      request.minResolution.height < l.viewport.height then
    .error (.hresult .invalidArgument)
  else .ok ()
