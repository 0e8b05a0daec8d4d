import MatterController.VideoStream

/-!
# Audio streams and their requests

What the start of a session compares of the audio a camera offers: the formats
of its microphone, the bandwidth of its network, and the list of allocated
streams. A stream is checked as the request that would have allocated it, so
the check of the microphone (`MatterCameraAudioFormatCapabilities.validate`) is
that of an allocation.

A camera may advertise no microphone. `validateCameraSelectedAudio` then reads
through a null reference, which is no exception, and is `none`.
-/

/-- `AudioCodecEnum::kOpus`. -/
abbrev opusCodec : UInt8 := 0

/-- `AudioCodecEnum::kAacLc`. -/
abbrev aacLcCodec : UInt8 := 1

/-- **An allocated stream**, as the camera reports it. -/
structure MatterCameraAudioStream where
  streamId : UInt16
  streamUsage : UInt8
  audioCodec : UInt8
  channels : UInt8
  sampleRate : UInt32
  bitRate : UInt32
  bitDepth : UInt8
  deriving DecidableEq, Repr

/-- `IsLiveView`. -/
def MatterCameraAudioStream.isLiveView (s : MatterCameraAudioStream) : Bool :=
  s.streamUsage == liveViewUsage

/-- **The allocation request** (`Commands::AudioStreamAllocate::Type`). -/
structure AudioStreamAllocate where
  streamUsage : UInt8
  audioCodec : UInt8
  channelCount : UInt8
  sampleRate : UInt32
  bitRate : UInt32
  bitDepth : UInt8
  deriving DecidableEq, Repr

/-- `MatterCameraAudioStreamOptions::ValidateAllocated`: the stream allocated is what was
requested. -/
def AudioStreamAllocate.validateAllocated (request : AudioStreamAllocate)
    (s : MatterCameraAudioStream) : Except Exn Unit :=
  if !s.isLiveView || s.audioCodec != request.audioCodec || s.channels != request.channelCount ||
      s.sampleRate != request.sampleRate || s.bitRate != request.bitRate ||
      s.bitDepth != request.bitDepth then
    .error (.hresult .bounds)
  else .ok ()

/-- **What a microphone advertises.** The lists keep entries no request can use. -/
structure MatterCameraAudioFormatCapabilities where
  maximumChannels : UInt8
  codecs : List UInt8
  sampleRates : List UInt32
  bitDepths : List UInt8
  deriving DecidableEq, Repr

/-- `MatterCameraAudioFormatCapabilities::Validate`. -/
def MatterCameraAudioFormatCapabilities.validate (c : MatterCameraAudioFormatCapabilities)
    (request : AudioStreamAllocate) : Except Exn Unit :=
  if c.maximumChannels == 0 || c.maximumChannels > 8 || request.channelCount == 0 ||
      request.channelCount > c.maximumChannels || request.sampleRate == 0 ||
      request.bitDepth == 0 || request.audioCodec ∉ c.codecs ||
      request.sampleRate ∉ c.sampleRates || request.bitDepth ∉ c.bitDepths then
    .error (.hresult .notImplemented)
  else .ok ()

/-- **What a camera advertises of its audio**, as far as the start of a session
asks. -/
structure MatterCameraAudioCapabilities where
  microphone : Option MatterCameraAudioFormatCapabilities
  maximumNetworkBandwidth : UInt32
  deriving DecidableEq, Repr

/-- `ValidateCameraSelectedAudio`: the first stream of the identifier is live, and is
what a request to this camera may ask for. `none` where it uses a microphone
that is not there. -/
def validateCameraSelectedAudio (capabilities : MatterCameraAudioCapabilities)
    (streams : List MatterCameraAudioStream) (id : UInt16) : Option (Except Exn Unit) :=
  match streams.find? fun stream => stream.streamId == id with
  | none => some (.error (.hresult .invalidArgument))
  | some stream =>
    if !stream.isLiveView then some (.error (.hresult .invalidArgument))
    else
      let request : AudioStreamAllocate :=
        { streamUsage := liveViewUsage
          audioCodec := stream.audioCodec
          channelCount := stream.channels
          sampleRate := stream.sampleRate
          bitRate := stream.bitRate
          bitDepth := stream.bitDepth }
      if (request.audioCodec != opusCodec && request.audioCodec != aacLcCodec) ||
          (request.bitDepth != 8 && request.bitDepth != 16 && request.bitDepth != 24 &&
            request.bitDepth != 32) ||
          request.bitRate > capabilities.maximumNetworkBandwidth then
        some (.error (.hresult .notImplemented))
      else capabilities.microphone.map fun microphone => microphone.validate request
