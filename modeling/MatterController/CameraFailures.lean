import MatterController.Effects
import MatterController.Inspectable

/-!
# Reported failures of camera operations

A camera operation throws, and `RunCameraOperation` catches what it throws and reports a
failure, with the stage the operation had come to and a category. The category is all that
an application is to act on, and it is found after the fact: of the native error, where
there is one, and else of the result code and the stage. So what a helper deep in an
operation throws is what decides about it.

Two things are not reported. A cancellation is thrown on, and a fault is no exception.
-/

instance ChipError.inhabited : Inhabited ChipError := ⟨.noError⟩

/-- **The native errors** a category is named after, by what the SDK numbers them. -/
structure NativeErrors where
  noMemory : ChipError
  accessDenied : ChipError
  unsupportedChipFeature : ChipError
  notConnected : ChipError
  connectionAborted : ChipError
  connectionClosedUnexpectedly : ChipError
  /-- The statuses of the Interaction Model. -/
  dynamicConstraintError : ℕ
  constraintError : ℕ
  resourceExhausted : ℕ
  unsupportedAccess : ℕ
  unsupportedCluster : ℕ
  unsupportedCommand : ℕ
  unsupportedAttribute : ℕ
  invalidInState : ℕ
  deriving Inhabited

/-- `MatterCameraFailureCategory`. -/
inductive MatterCameraFailureCategory
  | unknown
  | invalidInput
  | unsupported
  | accessDenied
  | privacyEnabled
  | resourceExhausted
  | timeout
  | connectionFailure
  | malformedData
  | invalidState
  | dynamicConstraintError
  | constraintError
  | commandRejected
  deriving DecidableEq, Repr

/-- `CameraFailureCategory`, of a native error. -/
def nativeFailureCategory (native : NativeErrors) (stage : CameraStage) (error : ChipError) :
    MatterCameraFailureCategory :=
  if error = .imGlobalStatus native.dynamicConstraintError then .dynamicConstraintError
  else if error = .imGlobalStatus native.constraintError then .constraintError
  else if error = .timeout then .timeout
  else if error = .busy ∨ error = native.noMemory ∨
      error = .imGlobalStatus native.resourceExhausted then .resourceExhausted
  else if error = native.accessDenied ∨ error = .imGlobalStatus native.unsupportedAccess then
    .accessDenied
  else if error = native.unsupportedChipFeature ∨
      error = .imGlobalStatus native.unsupportedCluster ∨
      error = .imGlobalStatus native.unsupportedCommand ∨
      error = .imGlobalStatus native.unsupportedAttribute then .unsupported
  else if error = native.notConnected ∨ error = native.connectionAborted ∨
      error = native.connectionClosedUnexpectedly then .connectionFailure
  else if error = .incorrectState ∨ error = .notFound ∨
      error = .imGlobalStatus native.invalidInState then .invalidState
  else if error = .invalidArgument then
    if stage = .validation then .invalidInput else .malformedData
  else if error.isIMStatus then .commandRejected
  else .unknown

/-- `CameraFailureCategory`, of a result code. -/
def resultFailureCategory (stage : CameraStage) (result : HResult) :
    MatterCameraFailureCategory :=
  if result = .timeout then .timeout
  else if result = .accessDenied then
    if stage = .privacy then .privacyEnabled else .accessDenied
  else if result = .notImplemented then .unsupported
  else if result = .outOfMemory then .resourceExhausted
  else if result = .invalidArgument then .invalidInput
  else if result = .bounds ∨ result = .noInterface then .malformedData
  else if result = .illegalMethodCall then .invalidState
  else .unknown

/-- **A reported failure** (`MatterCameraFailure`), with the native error where there is
one. -/
structure MatterCameraFailure where
  stage : CameraStage
  category : MatterCameraFailureCategory
  nativeError : Option ChipError
  deriving DecidableEq, Repr

/-- **What is reported of a failure**, in the handlers of `RunCameraOperation`. -/
def Failure.report (native : NativeErrors) (stage : CameraStage) :
    Failure → Option MatterCameraFailure
  | .throws .canceled => none
  | .throws (.chip error) => some ⟨stage, nativeFailureCategory native stage error, some error⟩
  | .throws (.hresult result) => some ⟨stage, resultFailureCategory stage result, none⟩
  | .fault => none

/-- The end of an operation that failed: its report, or its failure where there is none. -/
def reportOrThrow {σ : Type} (failure : Failure) :
    Option MatterCameraFailure → EStateM Failure σ (Option MatterCameraFailure)
  | some report => pure (some report)
  | none => throw failure

/-- **`RunCameraOperation`**, where the state of the operation has its stage. -/
def runCameraOperation {σ α : Type} (native : NativeErrors) (stage : σ → CameraStage)
    (operation : EStateM Failure σ α) : EStateM Failure σ (Option MatterCameraFailure) :=
  tryCatch (do
    let _ ← operation
    pure none)
  fun failure => do
    let s ← get
    reportOrThrow failure (failure.report native (stage s))

section Run

variable {σ α : Type} {native : NativeErrors} {stage : σ → CameraStage}
  {operation : EStateM Failure σ α} {s t : σ} {failure : Failure}

/-- An operation that returns has nothing to report. -/
theorem runCameraOperation_of_ok {a : α} (h : operation s = .ok a t) :
    runCameraOperation native stage operation s = .ok none t := by
  show EStateM.tryCatch (EStateM.bind operation fun _ => pure none) _ s = _
  unfold EStateM.tryCatch EStateM.bind
  rw [h]
  rfl

/-- Of one that fails, the failure is looked at. -/
theorem runCameraOperation_of_error (h : operation s = .error failure t) :
    runCameraOperation native stage operation s =
      reportOrThrow failure (failure.report native (stage t)) t := by
  show EStateM.tryCatch (EStateM.bind operation fun _ => pure none) _ s = _
  unfold EStateM.tryCatch EStateM.bind
  rw [h]
  rfl

/-- **What is reported** is what the operation threw. -/
theorem runCameraOperation_report_iff {report : MatterCameraFailure} :
    runCameraOperation native stage operation s = .ok (some report) t ↔
      ∃ failure, operation s = .error failure t ∧
        failure.report native (stage t) = some report := by
  cases hrun : operation s with
  | ok a u =>
    rw [runCameraOperation_of_ok hrun]
    exact ⟨(by rintro ⟨⟩), (by rintro ⟨_, ⟨⟩, _⟩)⟩
  | error failure u =>
    rw [runCameraOperation_of_error hrun]
    cases hreport : failure.report native (stage u) with
    | some report' =>
      constructor
      · rintro ⟨⟩
        exact ⟨failure, rfl, hreport⟩
      · rintro ⟨_, ⟨⟩, h⟩
        rw [hreport] at h
        cases h
        rfl
    | none =>
      refine ⟨(by rintro ⟨⟩), ?_⟩
      rintro ⟨_, ⟨⟩, h⟩
      rw [hreport] at h
      cases h

/-- **What is thrown on** has no report. -/
theorem runCameraOperation_error_iff :
    runCameraOperation native stage operation s = .error failure t ↔
      operation s = .error failure t ∧ failure.report native (stage t) = none := by
  cases hrun : operation s with
  | ok a u =>
    rw [runCameraOperation_of_ok hrun]
    exact ⟨(by rintro ⟨⟩), (by rintro ⟨⟨⟩, _⟩)⟩
  | error failure' u =>
    rw [runCameraOperation_of_error hrun]
    cases hreport : failure'.report native (stage u) with
    | some report =>
      refine ⟨(by rintro ⟨⟩), ?_⟩
      rintro ⟨⟨⟩, h⟩
      rw [hreport] at h
      cases h
    | none =>
      constructor
      · rintro ⟨⟩
        exact ⟨rfl, hreport⟩
      · rintro ⟨⟨⟩, _⟩
        rfl

end Run
