import MatterController.Machine
import MatterController.Errors
import MatterController.AudioOwnership
import MatterController.InvokeState
import MatterController.PendingRelease
import MatterController.VideoAllocation
import MatterController.AudioAllocation
import MatterController.Admission
import MatterController.Bytes
import MatterController.NodeIndex
import MatterController.Commissioning
import MatterController.CameraSignals
import MatterController.CameraHost
import MatterController.CameraSessions
import MatterController.AudioStream
import MatterController.CameraCalls
import MatterController.CameraStart
import MatterController.CameraRuns
import MatterController.Text
import MatterController.Tlv
import MatterController.Inspectable
import MatterController.PropertySetTlv
import MatterController.PropertySetElements
import MatterController.PropertySetRoundTrip
import MatterController.PropertySetKeys
import MatterController.SubscriptionReports
import MatterController.ControllerLifecycle
import MatterController.AllocationStages
import MatterController.Subscriptions
import MatterController.CameraHandles
import MatterController.ReleaseRuns
import MatterController.Descriptors
import MatterController.CameraStreams
import MatterController.StreamOptions
import MatterController.CameraDiscovery
import MatterController.HandlerCount
import MatterController.ProgressDrain
import MatterController.CommissioningProgress
import MatterController.CommissioningFailure
import MatterController.CameraSelections
import MatterController.Listening
import MatterController.Scalars
import MatterController.Settling
import MatterController.CameraFailures
import MatterController.CameraAudioReads
import MatterController.AttributeValues
import MatterController.MalformedReads
import MatterController.CapabilityReads
import MatterController.CallbackCalls
import MatterController.Interactions
import MatterController.NodeIndexRuns
import MatterController.AudioProfiles
import MatterController.AllocationOutcomes
import MatterController.AudioControls
import MatterController.CommissioningStream
import MatterController.AdmissionDrain
import MatterController.Receiver
import MatterController.ReceiverCapture
import MatterController.ReceiverCandidates
import MatterController.LockedFile
import MatterController.WidgetSelections
import MatterController.ReceiverWindow
import MatterController.WindowSteps
import MatterController.WindowOwnership
import MatterController.WindowMicrophone
import MatterController.WindowEnd
