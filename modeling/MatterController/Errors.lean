import Mathlib.Data.Nat.Notation
import Mathlib.Tactic.Common

/-!
# Native errors and projected exceptions

The native stack reports a `CHIP_ERROR`; the projection throws WinRT
exceptions. `ChipError` and `Exn` are the two, with the codes the modelled
functions compare against or throw. `Exn.chip` is `ChipOperationError`, the
exception that carries a native error through the projection.
-/

/-- **A native error** (`CHIP_ERROR`): success, the SDK codes the projection
names, a status of the Interaction Model, global or of one cluster, or any
other SDK code. -/
inductive ChipError
  | noError
  | invalidArgument
  | decodeFailed
  | timeout
  | cancelled
  | incorrectState
  | notFound
  | busy
  | certNotTrusted
  | persistedStorageValueNotFound
  | bufferTooSmall
  | imGlobalStatus (status : ℕ)
  | imClusterStatus (status : ℕ)
  | other (code : ℕ)
  deriving DecidableEq, Repr

namespace ChipError

/-- `CHIP_ERROR::IsIMStatus`: whether the error is an Interaction Model
status, the answer a device gave. -/
def isIMStatus : ChipError → Bool
  | imGlobalStatus _ => true
  | imClusterStatus _ => true
  | _ => false

end ChipError

/-- **The status element of a response** (`app::StatusIB`): a global status,
zero being success, and the cluster's own status where it gave one. -/
structure StatusIB where
  /-- The Interaction Model status. -/
  status : ℕ
  /-- The cluster-specific status. -/
  clusterStatus : Option ℕ := none
  deriving DecidableEq, Repr

namespace StatusIB

/-- `StatusIB::IsSuccess`. -/
def isSuccess (s : StatusIB) : Bool := s.status == 0

/-- `StatusIB::ToChipError`: no error for success, an Interaction Model status
otherwise. -/
def toChipError (s : StatusIB) : ChipError :=
  if s.isSuccess then .noError
  else match s.clusterStatus with
    | some c => .imClusterStatus c
    | none => .imGlobalStatus s.status

theorem toChipError_of_isSuccess {s : StatusIB} (h : s.isSuccess = true) :
    s.toChipError = .noError := by
  unfold toChipError
  rw [if_pos h]

/-- A refusal is an Interaction Model status. -/
theorem isIMStatus_toChipError {s : StatusIB} (h : s.isSuccess = false) :
    s.toChipError.isIMStatus = true := by
  unfold toChipError
  rw [if_neg (by simp [h])]
  cases s.clusterStatus <;> rfl

/-- Only success is no error. -/
theorem toChipError_ne_noError {s : StatusIB} (h : s.isSuccess = false) :
    s.toChipError ≠ .noError := by
  intro hs
  have him := isIMStatus_toChipError h
  rw [hs] at him
  cases him

end StatusIB

/-- **The result codes of WinRT exceptions** the modelled functions throw. -/
inductive HResult
  | bounds
  | invalidArgument
  | illegalMethodCall
  | outOfMemory
  | timeout
  | notImplemented
  | accessDenied
  | noInterface
  | unexpected
  | fail
  deriving DecidableEq, Repr

/-- **An exception of the projection**: `hresult_canceled`, a
`ChipOperationError` with its native error, or another `hresult_error`. -/
inductive Exn
  | canceled
  | chip (error : ChipError)
  | hresult (code : HResult)
  deriving DecidableEq, Repr

/-- `CheckChipError`: a native error becomes a `ChipOperationError`. -/
def checkChipError (error : ChipError) : Except Exn Unit :=
  if error = .noError then .ok () else .error (.chip error)

/-- **The stages of a camera operation** (`MatterCameraStage`) the modelled
functions write. -/
inductive CameraStage
  | validation
  | descriptor
  | capabilities
  | privacy
  | streamSelection
  | streamAllocation
  | streamDeallocation
  | signaling
  | sessionEnd
  deriving DecidableEq, Repr

/-! ## Identifiers -/

/-- `kInvalidEndpointId`. -/
abbrev invalidEndpointId : UInt16 := 65535

/-- `IsOperationalNodeId`: the identifiers a node of a fabric may have. -/
def isOperationalNodeId (nodeId : UInt64) : Bool :=
  0 < nodeId && nodeId ≤ 0xFFFFFFEFFFFFFFFF
