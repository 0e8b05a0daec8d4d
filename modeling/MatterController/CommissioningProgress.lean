import MatterController.Commissioning
import Mathlib.Data.List.Infix

/-!
# What a commissioning over Bluetooth reports

`CommissionBleAsync` hands `Commission` a callback and reports from what the callback was
told. Two trackers follow the native stages. The delegate's `PairingState` says which stage
is active, and says that none is once a stage has ended without error. The
operation's own `ProgressState` has the stage of the last callback for active, be it that
the stage has just ended; and it has for the last completed stage whatever the projection
makes of the last stage that ended without error, be it nothing.

The latter goes wrong where a stage without an application-facing counterpart completes
after one that has a counterpart: the last completed stage falls back to unknown
(`lastCompletedStage_right_iff`). What is made of the former is in
`MatterController.CommissioningFailure`.

A callback is delivered as a whole here: first to the delegate, then to the operation. The
native stack holds its lock meanwhile, and an operation that times out takes that lock
before it throws. Elapsed times are left out.
-/

/-- **`MatterCommissioningStage`**, the stages an application is shown. -/
inductive MatterCommissioningStage
  | unknown
  | searchingForDevice
  | connectingOverBluetooth
  | establishingPase
  | readingCommissioningInformation
  | configuringRegulatoryInformation
  | provisioningNetwork
  | connectingDeviceToNetwork
  | discoveringOperationalDevice
  | establishingCase
  | sendingCommissioningComplete
  | completed
  | failed
  deriving DecidableEq, Repr

/-- `MatterCommissioningTransport`. -/
inductive MatterCommissioningTransport
  | unknown
  | bluetooth
  | wiFi
  | thread
  | ethernet
  | operationalIp
  deriving DecidableEq, Repr

/-- `MatterCommissioningOutcome`. -/
inductive MatterCommissioningOutcome
  | succeeded
  | failed
  | timedOut
  deriving DecidableEq, Repr

/-- `MatterCommissioningFailureKind`. -/
inductive MatterCommissioningFailureKind
  | unknown
  | deviceNotFoundOverBluetooth
  | bluetoothConnectionFailed
  | paseFailed
  | networkCredentialsRejected
  | deviceNetworkConnectionFailed
  | operationalDiscoveryTimedOut
  | caseEstablishmentFailed
  | commissioningCompleteFailed
  | overallTimeout
  deriving DecidableEq, Repr

/-- `MatterNetworkInterfaceSelectionMode`. -/
inductive MatterNetworkInterfaceSelectionMode
  | automatic
  | preferSpecifiedInterface
  | requireSpecifiedInterface
  deriving DecidableEq, Repr

namespace CommissioningProgress

open PairingDelegate

/-! ## The projection of a native stage -/

/-- **`ProjectCommissioningStage`**: most native stages have no counterpart. -/
def projectCommissioningStage : CommissioningStage → MatterCommissioningStage
  | .securePairing => .establishingPase
  | .readCommissioningInfo => .readingCommissioningInformation
  | .configRegulatory => .configuringRegulatoryInformation
  | .wiFiNetworkSetup => .provisioningNetwork
  | .threadNetworkSetup => .provisioningNetwork
  | .requestWiFiCredentials => .provisioningNetwork
  | .requestThreadCredentials => .provisioningNetwork
  | .wiFiNetworkEnable => .connectingDeviceToNetwork
  | .threadNetworkEnable => .connectingDeviceToNetwork
  | .findOperationalForStayActive => .discoveringOperationalDevice
  | .findOperationalForCommissioningComplete => .discoveringOperationalDevice
  | .sendComplete => .sendingCommissioningComplete
  | .other _ => .unknown

/-- `ProjectCommissioningTransport`. -/
def projectCommissioningTransport (stage : CommissioningStage) : MatterCommissioningTransport :=
  if stage = .findOperationalForStayActive ∨ stage = .findOperationalForCommissioningComplete ∨
      stage = .sendComplete then .operationalIp
  else if stage = .wiFiNetworkSetup ∨ stage = .wiFiNetworkEnable then .wiFi
  else if stage = .threadNetworkSetup ∨ stage = .threadNetworkEnable then .thread
  else .bluetooth

/-- `ClassifyCommissioningFailure`. -/
def classifyCommissioningFailure (stage : MatterCommissioningStage) (timedOut : Bool) :
    MatterCommissioningFailureKind :=
  match stage with
  | .searchingForDevice => .deviceNotFoundOverBluetooth
  | .connectingOverBluetooth => .bluetoothConnectionFailed
  | .establishingPase => .paseFailed
  | .provisioningNetwork => .networkCredentialsRejected
  | .connectingDeviceToNetwork => .deviceNetworkConnectionFailed
  | .discoveringOperationalDevice => .operationalDiscoveryTimedOut
  | .establishingCase => .caseEstablishmentFailed
  | .sendingCommissioningComplete => .commissioningCompleteFailed
  | _ => if timedOut then .overallTimeout else .unknown

/-! ## The operation -/

/-- `MatterCommissioningProgress`. A native stage identifier of −1 is none. -/
structure MatterCommissioningProgress where
  stage : MatterCommissioningStage
  lastCompletedStage : MatterCommissioningStage
  nativeStageId : Option CommissioningStage
  transport : MatterCommissioningTransport
  diagnosticMessage : String
  displayMessage : String
  networkInterfaceId : UInt64
  networkInterfaceName : String
  attemptNumber : UInt32
  isRetrying : Bool
  deriving DecidableEq, Repr

/-- `MatterCommissioningResult`, with the identifier of the node for the node. -/
structure MatterCommissioningResult where
  succeeded : Bool
  outcome : MatterCommissioningOutcome
  failureKind : MatterCommissioningFailureKind
  failedStage : MatterCommissioningStage
  lastCompletedStage : MatterCommissioningStage
  nativeStageId : Option CommissioningStage
  nativeErrorCode : ChipError
  diagnosticMessage : String
  networkInterfaceId : UInt64
  node : Option UInt64
  deriving DecidableEq, Repr

/-- **What an operation starts from**: the selected interface, with its name, and how it
was selected. The names of the native stages and the messages of exceptions are given
from outside. -/
structure Operation where
  interfaceId : UInt64
  interfaceName : String
  selectionMode : MatterNetworkInterfaceSelectionMode
  stageToString : CommissioningStage → Option String
  message : Exn → String

/-- **The operation's own tracker.** -/
structure ProgressState where
  lastCompleted : MatterCommissioningStage := .unknown
  active : MatterCommissioningStage := .searchingForDevice
  nativeStageId : Option CommissioningStage := none
  nativeError : ChipError := .noError
  attemptNumber : UInt32 := 1
  networkInterfaceId : UInt64
  networkInterfaceName : String
  deriving DecidableEq, Repr

/-- Whether an update says that its stage ended without error. -/
def succeeds (update : NativeCommissioningProgress) : Bool :=
  update.completed && update.error == .noError

/-- What the callback makes of the tracker. -/
def ProgressState.update (selectionMode : MatterNetworkInterfaceSelectionMode)
    (s : ProgressState) (update : NativeCommissioningProgress) : ProgressState :=
  let stage := projectCommissioningStage update.stage
  -- only a preferred interface is given up with a retry
  let gaveUp := update.retrying && selectionMode == .preferSpecifiedInterface
  { lastCompleted := if succeeds update then stage else s.lastCompleted
    active := stage
    nativeStageId := some update.stage
    nativeError := update.error
    attemptNumber := if update.retrying then s.attemptNumber + 1 else s.attemptNumber
    networkInterfaceId := if gaveUp then 0 else s.networkInterfaceId
    networkInterfaceName := if gaveUp then "" else s.networkInterfaceName }

namespace Operation

/-- The tracker at the start. -/
def start (o : Operation) : ProgressState where
  networkInterfaceId := o.interfaceId
  networkInterfaceName := o.interfaceName

/-- The name of a stage, or what stands for it. -/
def stageName (o : Operation) (stage : CommissioningStage) : String :=
  ((o.stageToString stage).filter (· ≠ "")).getD "Unknown commissioning stage"

/-- The progress the callback publishes for an update, from the tracker after it. -/
def report (o : Operation) (update : NativeCommissioningProgress) (s : ProgressState) :
    MatterCommissioningProgress where
  stage := projectCommissioningStage update.stage
  lastCompletedStage := s.lastCompleted
  nativeStageId := some update.stage
  transport := projectCommissioningTransport update.stage
  diagnosticMessage := o.stageName update.stage
  displayMessage := o.stageName update.stage
  networkInterfaceId := s.networkInterfaceId
  networkInterfaceName := s.networkInterfaceName
  attemptNumber := s.attemptNumber
  isRetrying := update.retrying

/-- **The callback**, call by call: the tracker it leaves, and what it publishes. -/
def follow (o : Operation) (s : ProgressState) :
    List NativeCommissioningProgress → ProgressState × List MatterCommissioningProgress
  | [] => (s, [])
  | update :: updates =>
    let s := s.update o.selectionMode update
    let rest := o.follow s updates
    (rest.1, o.report update s :: rest.2)

/-- The progress with which the operation starts. -/
def searching (o : Operation) : MatterCommissioningProgress where
  stage := .searchingForDevice
  lastCompletedStage := .unknown
  nativeStageId := none
  transport := .bluetooth
  diagnosticMessage := "Searching for the Matter device over Bluetooth."
  displayMessage := "Searching for device"
  networkInterfaceId := o.interfaceId
  networkInterfaceName := o.interfaceName
  attemptNumber := 1
  isRetrying := false

/-- The progress of an operation that is canceled before it commissions anything. -/
def canceledAtStart (o : Operation) : MatterCommissioningProgress where
  stage := .failed
  lastCompletedStage := .unknown
  nativeStageId := none
  transport := .bluetooth
  diagnosticMessage := "Commissioning was canceled."
  displayMessage := "Commissioning canceled"
  networkInterfaceId := o.interfaceId
  networkInterfaceName := o.interfaceName
  attemptNumber := 1
  isRetrying := false

end Operation

namespace ProgressState

/-- The progress of a commissioning that is complete. -/
def completed (s : ProgressState) : MatterCommissioningProgress where
  stage := .completed
  lastCompletedStage := s.lastCompleted
  nativeStageId := none
  transport := .operationalIp
  diagnosticMessage := "Commissioning completed."
  displayMessage := "Commissioning complete"
  networkInterfaceId := s.networkInterfaceId
  networkInterfaceName := s.networkInterfaceName
  attemptNumber := s.attemptNumber
  isRetrying := false

/-- The result of a commissioning that is complete. -/
def success (s : ProgressState) (node : UInt64) : MatterCommissioningResult where
  succeeded := true
  outcome := .succeeded
  failureKind := .unknown
  failedStage := .unknown
  lastCompletedStage := s.lastCompleted
  nativeStageId := none
  nativeErrorCode := .noError
  diagnosticMessage := "Commissioning completed."
  networkInterfaceId := s.networkInterfaceId
  node := some node

/-- The progress of a commissioning that failed or was canceled, by its two messages. -/
def failed (s : ProgressState) (diagnosticMessage displayMessage : String) :
    MatterCommissioningProgress where
  stage := .failed
  lastCompletedStage := s.lastCompleted
  nativeStageId := s.nativeStageId
  transport := .unknown
  diagnosticMessage := diagnosticMessage
  displayMessage := displayMessage
  networkInterfaceId := s.networkInterfaceId
  networkInterfaceName := s.networkInterfaceName
  attemptNumber := s.attemptNumber
  isRetrying := false

/-- **The result of a commissioning that failed**: the stage that failed is the tracker's
active one. -/
def failure (s : ProgressState) (timedOut : Bool) (message : String) :
    MatterCommissioningResult where
  succeeded := false
  outcome := if timedOut then .timedOut else .failed
  failureKind := classifyCommissioningFailure s.active timedOut
  failedStage := s.active
  lastCompletedStage := s.lastCompleted
  nativeStageId := s.nativeStageId
  nativeErrorCode := if timedOut then .timeout else s.nativeError
  diagnosticMessage := message
  networkInterfaceId := s.networkInterfaceId
  node := none

/-- What the operation puts into the tracker when `Commission` throws: the native error,
where there is one. -/
def thrown (s : ProgressState) : Except Exn UInt64 → ProgressState
  | .error (.chip error) => { s with nativeError := error }
  | _ => s

end ProgressState

/-- **How an operation ends**, from the tracker and from what `Commission` did: what it
publishes last, and what it returns. -/
def Operation.finish (o : Operation) (s : ProgressState) (cancellationRequested : Bool) :
    Except Exn UInt64 → MatterCommissioningProgress × Except Exn MatterCommissioningResult
  | .ok node => (s.completed, .ok (s.success node))
  | .error exn =>
    if cancellationRequested then
      (s.failed "Commissioning was canceled." "Commissioning canceled", .error .canceled)
    else
      (s.failed (o.message exn) "Commissioning failed",
        .ok (s.failure (exn == .hresult .timeout) (o.message exn)))

/-- The delegate takes callback after callback: the state it is left in, and what it tells
the operation. -/
def deliverAll (allowTestAttestation : Bool) (s : PairingState) :
    List PairingCallback → PairingState × List NativeCommissioningProgress
  | [] => (s, [])
  | callback :: callbacks =>
    let told := deliver allowTestAttestation s callback
    let rest := deliverAll allowTestAttestation told.1 callbacks
    (rest.1, told.2.toList ++ rest.2)

/-- **What happens during an operation**: whether it is canceled before it commissions;
and if not, the callbacks until `Commission` is over, how that ended, whether cancellation
was requested by then, and the callbacks that come after the operation has read the
tracker for the last time. -/
structure Course where
  canceledAtStart : Bool := false
  callbacks : List PairingCallback
  commissioned : Except Exn UInt64
  cancellationRequested : Bool := false
  late : List PairingCallback := []
  /-- Nothing is reported to an operation that never calls `Commission`. -/
  silent : canceledAtStart = true → callbacks = [] ∧ late = [] := by decide

/-- What an operation publishes, and what it returns. -/
structure Run where
  published : List MatterCommissioningProgress
  result : Except Exn MatterCommissioningResult

/-- **`CommissionBleAsync`**, from its first progress on. -/
def Operation.commissionBleAsync (o : Operation) (allowTestAttestation : Bool) (c : Course) :
    Run :=
  if c.canceledAtStart then ⟨[o.searching, o.canceledAtStart], .error .canceled⟩
  else
    let told := deliverAll allowTestAttestation {} c.callbacks
    let followed := o.follow o.start told.2
    let s := followed.1.thrown c.commissioned
    let finished := o.finish s c.cancellationRequested c.commissioned
    let after := o.follow s (deliverAll allowTestAttestation told.1 c.late).2
    ⟨o.searching :: followed.2 ++ finished.1 :: after.2, finished.2⟩

/-! ## What the delegate tells

What the delegate tells the operation depends on the callback alone. -/

/-- What the operation is told of a callback. -/
def tells : PairingCallback → Option NativeCommissioningProgress
  | .onCommissioningStageStart stage => some { stage := stage }
  | .onCommissioningStatusUpdate stage error =>
    some { stage := stage, error := error, completed := true }
  | .onCommissioningRetry stage error => some { stage := stage, error := error, retrying := true }
  | .onCommissioningFailure status =>
    status.failedStage.map fun stage => { stage := stage, error := status.err }
  | _ => none

/-- The stage that a callback says has ended without error. -/
def completes (callback : PairingCallback) : Option CommissioningStage :=
  ((tells callback).filter succeeds).map NativeCommissioningProgress.stage

/-- A stage is completed by a status update without error, and by nothing else. -/
theorem completes_eq_some {callback : PairingCallback} {stage : CommissioningStage} :
    completes callback = some stage ↔
      callback = .onCommissioningStatusUpdate stage .noError := by
  unfold completes
  rw [Option.map_eq_some_iff]
  constructor
  · rintro ⟨update, hupdate, rfl⟩
    obtain ⟨htold, hsucceeds⟩ := Option.filter_eq_some_iff.mp hupdate
    rw [succeeds, Bool.and_eq_true, beq_iff_eq] at hsucceeds
    cases callback with
    | onCommissioningStatusUpdate stage error =>
      obtain rfl := Option.some.inj htold
      rw [show error = .noError from hsucceeds.2]
    | onCommissioningFailure status =>
      obtain ⟨failed, -, rfl⟩ := Option.map_eq_some_iff.mp htold
      exact absurd hsucceeds.1 Bool.false_ne_true
    | onCommissioningStageStart stage =>
      obtain rfl := Option.some.inj htold
      exact absurd hsucceeds.1 Bool.false_ne_true
    | onCommissioningRetry stage error =>
      obtain rfl := Option.some.inj htold
      exact absurd hsucceeds.1 Bool.false_ne_true
    | onCommissioningComplete nodeId error => cases htold
    | onDeviceAttestationCompleted success continued => cases htold
  · rintro rfl
    exact ⟨_, Option.filter_eq_some_iff.mpr ⟨rfl, rfl⟩, rfl⟩

theorem deliver_tells (allow : Bool) (s : PairingState) (callback : PairingCallback) :
    (deliver allow s callback).2 = tells callback := by
  cases callback <;> rfl

/-- The operation is told one update for every callback that names a stage. -/
theorem deliverAll_tells (allow : Bool) (s : PairingState) (callbacks : List PairingCallback) :
    (deliverAll allow s callbacks).2 = callbacks.filterMap tells := by
  induction callbacks generalizing s with
  | nil => rfl
  | cons callback callbacks ih =>
    rw [deliverAll, ih, deliver_tells, List.filterMap_cons]
    cases tells callback <;> rfl

/-- The delegate's state after one more callback. -/
theorem deliverAll_concat (allow : Bool) (s : PairingState) (callbacks : List PairingCallback)
    (callback : PairingCallback) :
    (deliverAll allow s (callbacks ++ [callback])).1
      = (deliver allow (deliverAll allow s callbacks).1 callback).1 := by
  induction callbacks generalizing s with
  | nil => rfl
  | cons first callbacks ih => exact ih _

/-- The stages that completed, in the order of the callbacks. -/
def completions (updates : List NativeCommissioningProgress) : List CommissioningStage :=
  (updates.filter succeeds).map NativeCommissioningProgress.stage

theorem completions_tells (callbacks : List PairingCallback) :
    completions (callbacks.filterMap tells) = callbacks.filterMap completes := by
  induction callbacks with
  | nil => rfl
  | cons callback callbacks ih =>
    rw [List.filterMap_cons, List.filterMap_cons, ← ih, completes]
    cases tells callback with
    | none => rfl
    | some update =>
      unfold completions
      rw [List.filter_cons]
      cases hs : succeeds update <;> simp [Option.filter, hs]

/-! ## What the tracker knows -/

/-- The tracker after one more update. -/
theorem follow_concat (o : Operation) (s : ProgressState)
    (updates : List NativeCommissioningProgress) (update : NativeCommissioningProgress) :
    (o.follow s (updates ++ [update])).1
      = (o.follow s updates).1.update o.selectionMode update := by
  induction updates generalizing s with
  | nil => rfl
  | cons first updates ih => exact ih _

/-! ## The last completed stage

The tracker remembers the projection of the last completion. What it should remember is the
last projection there is. -/

/-- The projections of the stages that completed. -/
def projections (updates : List NativeCommissioningProgress) : List MatterCommissioningStage :=
  (completions updates).map projectCommissioningStage

/-- What the tracker remembers: the last projection, be it unknown. -/
def tracked (projections : List MatterCommissioningStage) : MatterCommissioningStage :=
  projections.getLast?.getD .unknown

/-- **The last completed stage that has an application-facing projection**, projected; and
unknown where there is none. -/
def lastProjected (projections : List MatterCommissioningStage) : MatterCommissioningStage :=
  tracked (projections.filter (· ≠ .unknown))

/-- **The stages without a counterpart complete first.** -/
def UnprojectedFirst (projections : List MatterCommissioningStage) : Prop :=
  projections.Pairwise fun earlier later => later = .unknown → earlier = .unknown

instance (projections : List MatterCommissioningStage) :
    Decidable (UnprojectedFirst projections) := by
  unfold UnprojectedFirst
  infer_instance

theorem tracked_concat (ps : List MatterCommissioningStage) (p : MatterCommissioningStage) :
    tracked (ps ++ [p]) = p := by
  rw [tracked, List.getLast?_concat, Option.getD_some]

theorem lastProjected_concat_unknown (ps : List MatterCommissioningStage) :
    lastProjected (ps ++ [.unknown]) = lastProjected ps := by
  rw [lastProjected, lastProjected, List.filter_append]
  exact congrArg tracked (List.append_nil _)

theorem lastProjected_concat (ps : List MatterCommissioningStage) {p : MatterCommissioningStage}
    (h : p ≠ .unknown) : lastProjected (ps ++ [p]) = p := by
  have hone : [p].filter (· ≠ .unknown) = [p] :=
    List.filter_eq_self.mpr fun q hq => by
      rw [List.mem_singleton.mp hq]
      exact decide_eq_true h
  rw [lastProjected, List.filter_append, hone, tracked_concat]

/-- It is unknown only where no stage with a counterpart has completed. -/
theorem lastProjected_eq_unknown {ps : List MatterCommissioningStage} :
    lastProjected ps = .unknown ↔ ∀ p ∈ ps, p = .unknown := by
  induction ps using List.reverseRecOn with
  | nil => exact ⟨fun _ p hp => absurd hp List.not_mem_nil, fun _ => rfl⟩
  | append_singleton ps p ih =>
    by_cases hp : p = .unknown
    · rw [hp, lastProjected_concat_unknown, ih, List.forall_mem_append, List.forall_mem_singleton]
      exact ⟨fun h => ⟨h, rfl⟩, And.left⟩
    · rw [lastProjected_concat ps hp]
      exact ⟨fun h => absurd h hp, fun h => h p (by simp)⟩

/-- One more completion is remembered as it should be unless it has no counterpart and an
earlier one has. -/
theorem tracked_concat_eq {ps : List MatterCommissioningStage} {p : MatterCommissioningStage} :
    tracked (ps ++ [p]) = lastProjected (ps ++ [p]) ↔ (p = .unknown → ∀ q ∈ ps, q = .unknown) := by
  rw [tracked_concat]
  by_cases hp : p = .unknown
  · rw [hp, lastProjected_concat_unknown, eq_comm, lastProjected_eq_unknown]
    exact ⟨fun h _ => h, fun h => h rfl⟩
  · rw [lastProjected_concat ps hp]
    exact ⟨fun _ h => absurd h hp, fun _ => rfl⟩

theorem unprojectedFirst_concat {ps : List MatterCommissioningStage}
    {p : MatterCommissioningStage} :
    UnprojectedFirst (ps ++ [p]) ↔
      UnprojectedFirst ps ∧ (p = .unknown → ∀ q ∈ ps, q = .unknown) := by
  simp only [UnprojectedFirst, List.pairwise_append, List.pairwise_singleton, List.mem_singleton,
    true_and, forall_eq]
  exact and_congr_right fun _ => ⟨fun h hp q hq => h q hq hp, fun h q hq hp => h hp q hq⟩

theorem projections_append (updates more : List NativeCommissioningProgress) :
    projections (updates ++ more) = projections updates ++ projections more := by
  rw [projections, completions, List.filter_append, List.map_append, List.map_append]
  rfl

/-- **The tracker is right after every update** exactly where the stages without a
counterpart complete first. -/
theorem tracked_eq_iff {updates : List NativeCommissioningProgress} :
    (∀ told, told <+: updates → tracked (projections told) = lastProjected (projections told)) ↔
      UnprojectedFirst (projections updates) := by
  induction updates using List.reverseRecOn with
  | nil =>
    refine ⟨fun _ => List.Pairwise.nil, fun _ told htold => ?_⟩
    rw [List.prefix_nil.mp htold]
    rfl
  | append_singleton updates update ih =>
    have hinits : (∀ told, told <+: updates ++ [update] →
        tracked (projections told) = lastProjected (projections told)) ↔
        (∀ told, told <+: updates →
          tracked (projections told) = lastProjected (projections told)) ∧
        tracked (projections (updates ++ [update]))
          = lastProjected (projections (updates ++ [update])) := by
      constructor
      · exact fun h => ⟨fun told htold => h told (htold.trans (List.prefix_append _ _)),
          h _ List.prefix_rfl⟩
      · rintro ⟨hbefore, hlast⟩ told htold
        rcases List.prefix_concat_iff.mp htold with rfl | htold
        · exact hlast
        · exact hbefore told htold
    rw [hinits, ih, projections_append]
    by_cases hs : succeeds update
    · rw [show projections [update] = [projectCommissioningStage update.stage] by
        simp [projections, completions, hs], tracked_concat_eq, unprojectedFirst_concat]
    · rw [show projections [update] = [] by simp [projections, completions, hs], List.append_nil]
      exact ⟨And.left, fun h => ⟨h, ih.mpr h updates List.prefix_rfl⟩⟩

/-- The last completed stage of the tracker. -/
theorem follow_lastCompleted (o : Operation) (s : ProgressState)
    (updates : List NativeCommissioningProgress) :
    (o.follow s updates).1.lastCompleted
      = (projections updates).getLast?.getD s.lastCompleted := by
  induction updates using List.reverseRecOn with
  | nil => rfl
  | append_singleton updates update ih =>
    rw [follow_concat, ProgressState.update, ih, projections_append]
    cases hs : succeeds update <;> simp [projections, completions, hs]

/-- What the callback publishes has the tracker's last completed stage, update by
update. -/
theorem follow_published (o : Operation) (s : ProgressState)
    (updates : List NativeCommissioningProgress) :
    s.lastCompleted :: (o.follow s updates).2.map MatterCommissioningProgress.lastCompletedStage
      = updates.inits.map fun told => (o.follow s told).1.lastCompleted := by
  induction updates generalizing s with
  | nil => rfl
  | cons update updates ih =>
    rw [List.inits_cons, List.map_cons, List.map_map]
    exact congrArg (s.lastCompleted :: ·) (ih _)

namespace Course

/-- What the operation is told before it has read the tracker for the last time. -/
def updates (c : Course) : List NativeCommissioningProgress := c.callbacks.filterMap tells

/-- What it is told after that. -/
def lateUpdates (c : Course) : List NativeCommissioningProgress := c.late.filterMap tells

/-- **What the operation has been told at each progress it publishes**: nothing at the first,
one update more at every one of the callback, all of them at the operation's last, and one
more again at those that come late. -/
def histories (c : Course) : List (List NativeCommissioningProgress) :=
  c.updates.inits ++ c.lateUpdates.inits.map (c.updates ++ ·)

/-- The stages that complete without error in the course of an operation. -/
def completed (c : Course) : List CommissioningStage :=
  (c.callbacks ++ c.late).filterMap completes

theorem projections_completed (c : Course) :
    projections (c.updates ++ c.lateUpdates) = c.completed.map projectCommissioningStage := by
  rw [completed, ← completions_tells, List.filterMap_append]
  rfl

theorem mem_histories {c : Course} {told : List NativeCommissioningProgress} :
    told ∈ c.histories ↔ told <+: c.updates ++ c.lateUpdates := by
  rw [histories, List.mem_append, List.mem_inits, List.mem_map]
  constructor
  · rintro (h | ⟨late, hlate, rfl⟩)
    · exact h.trans (List.prefix_append _ _)
    · exact (List.prefix_append_right_inj _).mpr ((List.mem_inits _ _).mp hlate)
  · intro h
    -- a beginning of both ends in the first or goes on in the second
    rcases List.prefix_or_prefix_of_prefix h (List.prefix_append c.updates c.lateUpdates) with
      hshort | ⟨late, rfl⟩
    · exact Or.inl hshort
    · exact Or.inr ⟨late, (List.mem_inits _ _).mpr ((List.prefix_append_right_inj _).mp h), rfl⟩

end Course

theorem thrown_lastCompleted (s : ProgressState) (commissioned : Except Exn UInt64) :
    (s.thrown commissioned).lastCompleted = s.lastCompleted := by
  rcases commissioned with ((_ | _ | _) | _) <;> rfl

theorem finish_lastCompletedStage (o : Operation) (s : ProgressState) (canceled : Bool)
    (commissioned : Except Exn UInt64) :
    (o.finish s canceled commissioned).1.lastCompletedStage = s.lastCompleted ∧
      ∀ result, (o.finish s canceled commissioned).2 = .ok result →
        result.lastCompletedStage = s.lastCompleted := by
  cases commissioned with
  | ok node =>
    refine ⟨rfl, fun result h => ?_⟩
    obtain rfl := Except.ok.inj h
    rfl
  | error exn =>
    cases canceled with
    | true => exact ⟨rfl, (by rintro _ ⟨⟩)⟩
    | false =>
      refine ⟨rfl, fun result h => ?_⟩
      obtain rfl := Except.ok.inj h
      rfl

/-- The tracker as the operation reads it for the last time. -/
def Operation.last (o : Operation) (c : Course) : ProgressState :=
  (o.follow o.start c.updates).1.thrown c.commissioned

/-- **A run that commissions**, in terms of what the operation is told. -/
theorem commissionBleAsync_of_started (o : Operation) (allow : Bool) {c : Course}
    (h : c.canceledAtStart = false) : o.commissionBleAsync allow c
      = ⟨o.searching :: (o.follow o.start c.updates).2 ++
          (o.finish (o.last c) c.cancellationRequested c.commissioned).1 ::
            (o.follow (o.last c) c.lateUpdates).2,
        (o.finish (o.last c) c.cancellationRequested c.commissioned).2⟩ := by
  rw [Operation.commissionBleAsync, if_neg (by rw [h]; exact Bool.false_ne_true)]
  dsimp only
  rw [deliverAll_tells, deliverAll_tells]
  rfl

/-- **Every progress has the last completed stage that the tracker has for what was told
until then**, and so has the result. -/
theorem commissionBleAsync_lastCompletedStage (o : Operation) (allow : Bool) (c : Course) :
    (o.commissionBleAsync allow c).published.map MatterCommissioningProgress.lastCompletedStage
        = c.histories.map (fun told => tracked (projections told)) ∧
      ∀ result, (o.commissionBleAsync allow c).result = .ok result →
        result.lastCompletedStage = tracked (projections c.updates) := by
  cases hstart : c.canceledAtStart with
  | true =>
    obtain ⟨hcallbacks, hlate⟩ := c.silent hstart
    rw [Operation.commissionBleAsync, if_pos hstart, Course.histories, Course.updates,
      Course.lateUpdates, hcallbacks, hlate]
    exact ⟨rfl, (by rintro _ ⟨⟩)⟩
  | false =>
    rw [commissionBleAsync_of_started o allow hstart]
    have hbefore : ∀ told, (o.follow o.start told).1.lastCompleted = tracked (projections told) :=
      fun told => follow_lastCompleted o o.start told
    have hlast : (o.last c).lastCompleted = tracked (projections c.updates) := by
      rw [Operation.last, thrown_lastCompleted, hbefore]
    have hafter : ∀ told, (o.follow (o.last c) told).1.lastCompleted
        = tracked (projections (c.updates ++ told)) := by
      intro told
      rw [follow_lastCompleted, hlast, projections_append, tracked, tracked, List.getLast?_append,
        Option.getD_or]
    obtain ⟨hprogress, hresult⟩ :=
      finish_lastCompletedStage o (o.last c) c.cancellationRequested c.commissioned
    refine ⟨?_, fun result h => (hresult result h).trans hlast⟩
    rw [List.map_append, List.map_cons, List.map_cons, hprogress, Course.histories,
      List.map_append, List.map_map]
    refine congrArg₂ (· ++ ·) ?_ ?_
    · exact (follow_published o o.start c.updates).trans
        (List.map_congr_left fun told _ => hbefore told)
    · exact (follow_published o (o.last c) c.lateUpdates).trans
        (List.map_congr_left fun told _ => hafter told)

/-- **The last completed stage is right** in a run: each progress, and the result, has the
projection of the last stage that completed until then among those that have one. -/
def LastCompletedRight (o : Operation) (allow : Bool) (c : Course) : Prop :=
  (o.commissionBleAsync allow c).published.map MatterCommissioningProgress.lastCompletedStage
      = c.histories.map (fun told => lastProjected (projections told)) ∧
    ∀ result, (o.commissionBleAsync allow c).result = .ok result →
      result.lastCompletedStage = lastProjected (projections c.updates)

/-- **The last completed stage is right exactly where the native stages without an
application-facing counterpart complete first**: where one of them completes after a stage
that has a counterpart, the last completed stage is unknown again. -/
theorem lastCompletedStage_right_iff (o : Operation) (allow : Bool) (c : Course) :
    LastCompletedRight o allow c ↔
      UnprojectedFirst (c.completed.map projectCommissioningStage) := by
  obtain ⟨hpublished, hresult⟩ := commissionBleAsync_lastCompletedStage o allow c
  rw [← c.projections_completed, ← tracked_eq_iff, LastCompletedRight, hpublished,
    List.map_inj_left]
  constructor
  · exact fun h told htold => h.1 told (Course.mem_histories.mpr htold)
  · refine fun h => ⟨fun told htold => h told (Course.mem_histories.mp htold), fun result hr => ?_⟩
    exact (hresult result hr).trans (h c.updates (List.prefix_append _ _))

/-- An operation without a selected interface. -/
def automatic : Operation := ⟨0, "", .automatic, fun _ => none, fun _ => ""⟩

/-- A commissioning during which the information is read, and then a stage ends that has no
counterpart. -/
def unprojectedCourse : Course where
  callbacks := [.onCommissioningStatusUpdate .readCommissioningInfo .noError,
    .onCommissioningStatusUpdate (.other 5) .noError]
  commissioned := .ok 1

/-- **The last completed stage falls back to unknown.** -/
theorem lastCompletedStage_falls_back :
    ¬ ∀ (o : Operation) (allow : Bool) (c : Course), LastCompletedRight o allow c := by
  intro h
  have hright := h automatic false unprojectedCourse
  exact absurd (hright.2 _ rfl) (by decide)

end CommissioningProgress
