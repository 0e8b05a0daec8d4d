import MatterController.CallbackCalls
import MatterController.InvokeState

/-!
# Reads, writes and commands

`ReadAttribute`, `ReadEvents`, `WriteAttribute` and `InvokeCommand` are made alike. Each has a
state that the native stack calls back into, waits until it is complete, and closes it on
every way out. They differ in what completes a state and in what a failure does: a read is
complete with its first failure, a write or a command only when it is done or was never sent;
and what is reported later replaces what was reported before.

Each is a `CallbackCall`, and what it returns is a function of the callbacks delivered by the
time it looks: `attributeOutcome`, `eventsOutcome`, `writeOutcome` and, for a command that
requires no response, `commandOutcome`. None of them asks for an answer: a write, or such a
command, that is done with no report at all has succeeded.
-/

/-! ## Reads -/

/-- **What the native stack reports to a read**: that it is connected, with the error of
sending the request; that it cannot connect; data, with a status; an error; that it is done. -/
inductive ReadCallback (τ δ : Type)
  | connected (error : ChipError)
  | connectionFailure (error : ChipError)
  | onData (status : τ) (data : Option δ)
  | onError (error : ChipError)
  | onDone
  deriving DecidableEq

/-- **The state of a read** (`GenericReadState` and `GenericEventReadState` without a
subscription), with what has been read. -/
structure GenericReadState (ω : Type) where
  complete : Bool := false
  closed : Bool := false
  result : ChipError := .noError
  read : ω

namespace GenericReadState

variable {ω ν τ δ : Type}

/-- `Fail`. -/
def fail (error : ChipError) (s : GenericReadState ω) : GenericReadState ω :=
  if s.closed then s else { s with result := error, complete := true }

/-- `OnAttributeData` and `OnEventData`: a status that is an error fails the read, and so does
data that is missing or cannot be decoded. -/
def onData (decode : δ → Option ν) (store : ν → ω → ω) (error : ChipError) (data : Option δ)
    (s : GenericReadState ω) : GenericReadState ω :=
  match data with
  | none => s.fail (if error ≠ .noError then error else .invalidArgument)
  | some d =>
    if error ≠ .noError then s.fail error
    else match decode d with
      | some value => { s with read := store value s.read }
      | none => s.fail .decodeFailed

/-- `HandleConnected`: a request that cannot be sent fails the read. -/
def handleConnected (error : ChipError) (s : GenericReadState ω) : GenericReadState ω :=
  if error ≠ .noError then s.fail error else s

/-- One callback, delivered. -/
def deliver (toChipError : τ → ChipError) (decode : δ → Option ν) (store : ν → ω → ω) :
    ReadCallback τ δ → GenericReadState ω → GenericReadState ω
  | .connected error, s => s.handleConnected error
  | .connectionFailure error, s => s.fail error
  | .onData status data, s => s.onData decode store (toChipError status) data
  | .onError error, s => s.fail error
  | .onDone, s => { s with complete := true }

/-- `Close`. -/
def close (s : GenericReadState ω) : GenericReadState ω :=
  { s with closed := true, complete := true }

end GenericReadState

namespace ReadCallback

variable {ν τ δ : Type} (toChipError : τ → ChipError) (decode : δ → Option ν)

/-- What a callback reads. -/
def value : ReadCallback τ δ → Option ν
  | .onData status (some d) => if toChipError status ≠ .noError then none else decode d
  | _ => none

/-- What a callback fails with, and leaves as the result. -/
def failure : ReadCallback τ δ → Option ChipError
  | .connected error => if error ≠ .noError then some error else none
  | .connectionFailure error => some error
  | .onData status none =>
    some (if toChipError status ≠ .noError then toChipError status else .invalidArgument)
  | .onData status (some d) =>
    if toChipError status ≠ .noError then some (toChipError status)
    else if (decode d).isSome then none else some .decodeFailed
  | .onError error => some error
  | .onDone => none

/-- Whether a callback completes the read: it fails, or says that the read is done. -/
def completes (c : ReadCallback τ δ) : Bool :=
  match c with
  | .onDone => true
  | c => (failure toChipError decode c).isSome

end ReadCallback

section Deliver

variable {ω ν τ δ : Type} {toChipError : τ → ChipError} {decode : δ → Option ν}
  {store : ν → ω → ω}

/-- A failure is the result of a read that is not closed, and completes it. -/
theorem GenericReadState.fail_of_open {s : GenericReadState ω} (hs : s.closed = false)
    (error : ChipError) : s.fail error = { s with result := error, complete := true } := by
  rw [GenericReadState.fail, hs]
  rfl

/-- **What one callback does to a read** that is not closed: it stores what it reads, leaves
what it fails with, and completes. -/
theorem GenericReadState.deliver_spec (c : ReadCallback τ δ) {s : GenericReadState ω}
    (hs : s.closed = false) :
    s.deliver toChipError decode store c =
      { s with
        complete := s.complete || c.completes toChipError decode
        result := (c.failure toChipError decode).getD s.result
        read := (c.value toChipError decode).elim s.read fun v => store v s.read } := by
  cases c with
  | connected error =>
    by_cases he : error = .noError <;>
      simp [deliver, handleConnected, fail_of_open hs, ReadCallback.completes,
        ReadCallback.failure, ReadCallback.value, he]
  | connectionFailure error =>
    simp [deliver, fail_of_open hs, ReadCallback.completes, ReadCallback.failure,
      ReadCallback.value]
  | onData status data =>
    cases data with
    | none =>
      simp [deliver, onData, fail_of_open hs, ReadCallback.completes, ReadCallback.failure,
        ReadCallback.value]
    | some d =>
      by_cases he : toChipError status = .noError
      · cases hd : decode d <;>
          simp [deliver, onData, fail_of_open hs, ReadCallback.completes,
            ReadCallback.failure, ReadCallback.value, he, hd]
      · simp [deliver, onData, fail_of_open hs, ReadCallback.completes,
          ReadCallback.failure, ReadCallback.value, he]
  | onError error =>
    simp [deliver, fail_of_open hs, ReadCallback.completes, ReadCallback.failure,
      ReadCallback.value]
  | onDone => simp [deliver, ReadCallback.completes, ReadCallback.failure, ReadCallback.value]

end Deliver

/-- **A read that waits**, given where it starts and what it makes of what it has read. -/
def readCall {ω ν τ δ α : Type} (toChipError : τ → ChipError) (decode : δ → Option ν)
    (store : ν → ω → ω) (nothing : ω) (verdict : ω → Except Exn α) (interrupted : Option Exn) :
    CallbackCall (GenericReadState ω) (ReadCallback τ δ) Exn α where
  initial := { read := nothing }
  deliver := fun c s => s.deliver toChipError decode store c
  complete := GenericReadState.complete
  verdict := fun s => checkChipError s.result >>= fun _ => verdict s.read
  close := GenericReadState.close
  interrupted := interrupted
  timedOut := .hresult .timeout

/-- **An outcome of what was reported**: the failure that was reported last, or what is made of
what was read. -/
def outcomeOf {α : Type} (failures : List ChipError) (result : Except Exn α) : Except Exn α :=
  checkChipError (failures.getLast?.getD .noError) >>= fun _ => result

section ReadCall

variable {ω ν τ δ α : Type} {toChipError : τ → ChipError} {decode : δ → Option ν}
  {store : ν → ω → ω} {nothing : ω} {verdict : ω → Except Exn α} {interrupted : Option Exn}

/-- The state of a read is not closed before the read takes it back. -/
theorem readCall_closed (ks : List (ReadCallback τ δ)) :
    ((readCall toChipError decode store nothing verdict interrupted).after ks).closed
      = false := by
  refine CallbackCall.after_keeps _ (fun s : GenericReadState ω => s.closed = false) rfl
    (fun k s hs => ?_) ks
  show (s.deliver toChipError decode store k).closed = false
  rw [GenericReadState.deliver_spec k hs]
  exact hs

/-- The result of a read is the failure that was reported last. -/
theorem readCall_result (ks : List (ReadCallback τ δ)) :
    ((readCall toChipError decode store nothing verdict interrupted).after ks).result
      = ((ks.filterMap (ReadCallback.failure toChipError decode)).getLast?).getD .noError := by
  refine CallbackCall.after_last _ (fun s => s.closed = false) readCall_closed
    (fun k s hs => ?_) ks
  show (s.deliver toChipError decode store k).result = _
  rw [GenericReadState.deliver_spec k hs]

/-- It has stored what the callbacks have read, in their order. -/
theorem readCall_read (ks : List (ReadCallback τ δ)) :
    ((readCall toChipError decode store nothing verdict interrupted).after ks).read
      = (ks.filterMap (ReadCallback.value toChipError decode)).foldl (fun w v => store v w)
        nothing := by
  refine CallbackCall.after_fold _ (fun s => s.closed = false) store readCall_closed
    (fun k s hs => ?_) ks
  show (s.deliver toChipError decode store k).read = _
  rw [GenericReadState.deliver_spec k hs]

/-- **A read returns what was reported to it.** -/
theorem readCall_accounted {outcome : List (ReadCallback τ δ) → Except Exn α}
    (houtcome : ∀ ks, outcome ks
      = outcomeOf (ks.filterMap (ReadCallback.failure toChipError decode))
        (verdict ((ks.filterMap (ReadCallback.value toChipError decode)).foldl
          (fun w v => store v w) nothing)))
    {s : CallbackCall.Run (GenericReadState ω) (ReadCallback τ δ) Exn α}
    (h : (readCall toChipError decode store nothing verdict interrupted).machine.Reachable s) :
    (readCall toChipError decode store nothing verdict interrupted).Accounted outcome s := by
  refine CallbackCall.accounted (fun ks _ => ?_) h
  show checkChipError _ >>= (fun _ => verdict _) = _
  rw [houtcome, readCall_result, readCall_read]
  rfl

end ReadCall

variable {ν δ : Type}

/-- **`ReadAttribute`**: the state keeps the value that was read last, and no value is an error
of its own. -/
def readAttribute (decode : δ → Option ν) :
    CallbackCall (GenericReadState (Option ν)) (ReadCallback StatusIB δ) Exn ν :=
  readCall StatusIB.toChipError decode (fun v _ => some v) none
    (fun value => value.elim (.error (.hresult .fail)) .ok) (some .canceled)

/-- What reading an attribute comes to. -/
def attributeOutcome (decode : δ → Option ν) (ks : List (ReadCallback StatusIB δ)) :
    Except Exn ν :=
  outcomeOf (ks.filterMap (ReadCallback.failure StatusIB.toChipError decode))
    ((ks.filterMap (ReadCallback.value StatusIB.toChipError decode)).getLast?.elim
      (.error (.hresult .fail)) .ok)

/-- **An event as it is reported** (`app::EventHeader`). -/
structure EventHeader where
  endpointId : UInt16
  clusterId : UInt32
  eventId : UInt32
  eventNumber : UInt64
  deriving DecidableEq, Repr

/-- **An event as it is returned** (`EventValue`, with its `EventPath`). -/
structure EventValue (ν : Type) extends EventHeader where
  urgent : Bool
  data : ν
  deriving DecidableEq, Repr

/-- The event of a header and its data. -/
def decodeEvent (decode : δ → Option ν) (urgent : Bool) (event : EventHeader × δ) :
    Option (EventValue ν) :=
  (decode event.2).map fun data => ⟨event.1, urgent, data⟩

/-- The status of an event, which may be missing. -/
def eventError (status : Option StatusIB) : ChipError :=
  status.elim .noError StatusIB.toChipError

/-- **`ReadEvents`**: the state keeps all events. -/
def readEvents (decode : δ → Option ν) (urgent : Bool) :
    CallbackCall (GenericReadState (List (EventValue ν)))
      (ReadCallback (Option StatusIB) (EventHeader × δ)) Exn (List (EventValue ν)) :=
  readCall eventError (decodeEvent decode urgent) (fun v vs => vs ++ [v]) [] .ok none

/-- What reading events comes to. -/
def eventsOutcome (decode : δ → Option ν) (urgent : Bool)
    (ks : List (ReadCallback (Option StatusIB) (EventHeader × δ))) :
    Except Exn (List (EventValue ν)) :=
  outcomeOf (ks.filterMap (ReadCallback.failure eventError (decodeEvent decode urgent)))
    (.ok (ks.filterMap (ReadCallback.value eventError (decodeEvent decode urgent))))

/-- **A read returns what was reported to it.** In every run of `ReadAttribute`, however its
callbacks, its cancellation and its waiting interleave, the outcome is decided by the callbacks
that had been delivered when it looked: the failure reported last, or the value read last, or
that there is none. In every run of `ReadEvents` it is the failure reported last, or all events
in the order they came. Neither returns a value otherwise, and no callback reaches either once
it has returned. -/
theorem reads_accounted (decode : δ → Option ν) (urgent : Bool) :
    (∀ s, (readAttribute decode).machine.Reachable s →
      (readAttribute decode).Accounted (attributeOutcome decode) s) ∧
    ∀ s, (readEvents decode urgent).machine.Reachable s →
      (readEvents decode urgent).Accounted (eventsOutcome decode urgent) s := by
  refine ⟨fun s h => readCall_accounted (fun ks => ?_) h,
    fun s h => readCall_accounted (fun ks => ?_) h⟩
  · rw [attributeOutcome, CallbackCall.foldl_overwrite_none]
  · rw [eventsOutcome, List.foldl_append_eq_append, List.nil_append, ← List.flatMap_def,
      List.flatMap_singleton']

/-- A read that is answered once and done, and a read of two events of which the second cannot
be decoded. -/
theorem reads_accounted_answered :
    (∃ s, (readAttribute (some : ℕ → Option ℕ)).machine.Reachable s ∧
      s.phase.outcome = some (.ok 7)) ∧
    ∃ s, (readEvents (fun n : ℕ => if n = 0 then none else some n) false).machine.Reachable s ∧
      s.phase.outcome = some (.error (.chip .decodeFailed)) := by
  obtain ⟨hattribute, -⟩ := reads_accounted (some : ℕ → Option ℕ) false
  obtain ⟨-, hevents⟩ := reads_accounted (fun n : ℕ => if n = 0 then none else some n) false
  have hread : (readAttribute (some : ℕ → Option ℕ)).machine.Reachable
      { state := { complete := true, closed := true, read := some 7 }
        phase := .returned (.ok 7)
        delivered := [.connected .noError, .onData ⟨0, none⟩ (some 7), .onDone]
        seen := some [.connected .noError, .onData ⟨0, none⟩ (some 7), .onDone] } :=
    Machine.reachable_iff_run.mpr ⟨[.register none, .deliver (.connected .noError),
      .deliver (.onData ⟨0, none⟩ (some 7)), .deliver .onDone, .look, .release], rfl⟩
  have hevent : (readEvents (fun n : ℕ => if n = 0 then none else some n) false).machine.Reachable
      { state := { complete := true, result := .decodeFailed, read := [⟨⟨1, 6, 0, 3⟩, false, 5⟩] }
        phase := .leaving (.error (.chip .decodeFailed))
        registered := true
        delivered := [.onData none (some (⟨1, 6, 0, 3⟩, 5)), .onData none (some (⟨1, 6, 0, 4⟩, 0))]
        seen := some [.onData none (some (⟨1, 6, 0, 3⟩, 5)),
          .onData none (some (⟨1, 6, 0, 4⟩, 0))] } :=
    Machine.reachable_iff_run.mpr ⟨[.register none,
      .deliver (.onData none (some (⟨1, 6, 0, 3⟩, 5))),
      .deliver (.onData none (some (⟨1, 6, 0, 4⟩, 0))), .look], rfl⟩
  exact ⟨⟨_, hread, ((hattribute _ hread).seen _ rfl).2.2⟩,
    ⟨_, hevent, ((hevents _ hevent).seen _ rfl).2.2⟩⟩

/-! ## Writes and commands -/

/-- **What the native stack reports to a write or a command**: that it is connected, with the
error of encoding and sending the request; that it cannot connect; what its client reports;
that it is done. -/
inductive SentCallback (ρ : Type)
  | connected (error : ChipError)
  | connectionFailure (error : ChipError)
  | reported (report : ρ)
  | onDone
  deriving DecidableEq

/-- What is reported to a write: a status, or an error. -/
inductive WriteReport
  | onResponse (status : StatusIB)
  | onError (error : ChipError)
  deriving DecidableEq

/-- **The state of a write.** -/
structure GenericWriteState where
  complete : Bool := false
  result : ChipError := .noError

namespace GenericWriteState

/-- `OnResponse` and `OnError`. -/
def report (s : GenericWriteState) : WriteReport → GenericWriteState
  | .onResponse status =>
    if status.toChipError ≠ .noError then { s with result := status.toChipError } else s
  | .onError error => { s with result := error }

/-- `Finish`. -/
def finish (error : ChipError) (_ : GenericWriteState) : GenericWriteState :=
  { complete := true, result := error }

/-- `HandleConnected`. -/
def handleConnected (error : ChipError) (s : GenericWriteState) : GenericWriteState :=
  if error ≠ .noError then s.finish error else s

/-- One callback, delivered. -/
def deliver (s : GenericWriteState) : SentCallback WriteReport → GenericWriteState
  | .connected error => s.handleConnected error
  | .connectionFailure error => s.finish error
  | .reported report => s.report report
  | .onDone => { s with complete := true }

end GenericWriteState

/-- **`WriteAttribute`**, once the value is encoded. -/
def writeAttribute : CallbackCall GenericWriteState (SentCallback WriteReport) Exn Unit where
  initial := {}
  deliver := fun c s => s.deliver c
  complete := GenericWriteState.complete
  verdict := fun s => checkChipError s.result
  close := id
  interrupted := none
  timedOut := .hresult .timeout

namespace GenericInvokeState

variable {ν δ : Type} [EmptyCollection ν]

/-- `Finish`. -/
def finish (error : ChipError) (s : GenericInvokeState ν) : GenericInvokeState ν :=
  { s with result := error, complete := true }

/-- `HandleConnected`. -/
def handleConnected (error : ChipError) (s : GenericInvokeState ν) : GenericInvokeState ν :=
  if error ≠ .noError then s.finish error else s

/-- One callback, delivered. -/
def deliverSent (decode : δ → Option ν) (s : GenericInvokeState ν) :
    SentCallback (SenderCallback δ) → GenericInvokeState ν
  | .connected error => s.handleConnected error
  | .connectionFailure error => s.finish error
  | .reported callback => s.deliver decode callback
  | .onDone => s.onDone

end GenericInvokeState

section Commands

variable [EmptyCollection ν]

/-- **`InvokeCommand`**, once the arguments are encoded: a command that ends without a value
returns an empty property set. -/
def invokeCommand (decode : δ → Option ν) (path : CommandPath) (response : Option UInt32)
    (data : Bool) :
    CallbackCall (GenericInvokeState ν) (SentCallback (SenderCallback δ)) Exn ν where
  initial := { path := path, responseCommand := response, responseData := data }
  deliver := fun c s => s.deliverSent decode c
  complete := GenericInvokeState.complete
  verdict := fun s => checkChipError s.result >>= fun _ => .ok (s.value.getD ∅)
  close := id
  interrupted := none
  timedOut := .hresult .timeout

/-- What a callback leaves as the result, given what a report does. -/
def SentCallback.failure {ρ : Type} (reported : ρ → Option ChipError) :
    SentCallback ρ → Option ChipError
  | .connected error => if error ≠ .noError then some error else none
  | .connectionFailure error => some error
  | .reported report => reported report
  | .onDone => none

/-- The failure of a report to a write. -/
def WriteReport.failure : WriteReport → Option ChipError
  | .onResponse status => if status.isSuccess then none else some status.toChipError
  | .onError error => some error

/-- The failure of a report to a command that requires no response. -/
def SenderCallback.failure (decode : δ → Option ν) : SenderCallback δ → Option ChipError
  | .onResponse _ status data =>
    if status.isSuccess then
      if data.all fun d => (decode d).isSome then none else some .decodeFailed
    else some status.toChipError
  | .onError error => some error

/-- The value of a report to a command that requires no response. -/
def SentCallback.value (decode : δ → Option ν) : SentCallback (SenderCallback δ) → Option ν
  | .reported (.onResponse _ status data) =>
    if status.isSuccess then data.elim (some ∅) decode else none
  | _ => none

/-- What a write comes to. -/
def writeOutcome (ks : List (SentCallback WriteReport)) : Except Exn Unit :=
  outcomeOf (ks.filterMap (SentCallback.failure WriteReport.failure)) (.ok ())

/-- What a command that requires no response comes to. -/
def commandOutcome (decode : δ → Option ν) (ks : List (SentCallback (SenderCallback δ))) :
    Except Exn ν :=
  outcomeOf (ks.filterMap (SentCallback.failure (SenderCallback.failure decode)))
    (.ok ((ks.filterMap (SentCallback.value decode)).getLast?.getD ∅))

omit [EmptyCollection ν] in
/-- A write keeps the failure that was reported last. -/
theorem writeAttribute_result (ks : List (SentCallback WriteReport)) :
    (writeAttribute.after ks).result
      = ((ks.filterMap (SentCallback.failure WriteReport.failure)).getLast?).getD .noError := by
  refine writeAttribute.after_last (fun _ => True) (fun _ => trivial) (fun k s _ => ?_) ks
  show (s.deliver k).result = _
  cases k with
  | connected error =>
    by_cases he : error = .noError <;>
      simp [GenericWriteState.deliver, GenericWriteState.handleConnected,
        GenericWriteState.finish, SentCallback.failure, he]
  | connectionFailure error => rfl
  | onDone => rfl
  | reported report =>
    cases report with
    | onError error => rfl
    | onResponse status =>
      cases hs : status.isSuccess with
      | true =>
        simp [GenericWriteState.deliver, GenericWriteState.report, SentCallback.failure,
          WriteReport.failure, hs, StatusIB.toChipError_of_isSuccess hs]
      | false =>
        simp [GenericWriteState.deliver, GenericWriteState.report, SentCallback.failure,
          WriteReport.failure, hs, StatusIB.toChipError_ne_noError hs]

variable {decode : δ → Option ν} {path : CommandPath} {response : Option UInt32} {data : Bool}

/-- No callback changes what a command requires. -/
theorem invokeCommand_responseCommand (ks : List (SentCallback (SenderCallback δ))) :
    ((invokeCommand decode path response data).after ks).responseCommand = response := by
  refine CallbackCall.after_keeps _ (fun s : GenericInvokeState ν => s.responseCommand = response)
    rfl (fun k s hs => ?_) ks
  show (s.deliverSent decode k).responseCommand = response
  cases k with
  | connected error =>
    by_cases he : error = .noError <;>
      simp [GenericInvokeState.deliverSent, GenericInvokeState.handleConnected,
        GenericInvokeState.finish, he, hs]
  | connectionFailure error => exact hs
  | onDone => exact hs
  | reported callback =>
    obtain ⟨seen, result, value, he⟩ := GenericInvokeState.deliver_eq decode s callback
    show (s.deliver decode callback).responseCommand = response
    rw [he]
    exact hs

/-- **What one report does to a command** that requires no response. -/
theorem GenericInvokeState.deliver_of_none {s : GenericInvokeState ν}
    (hs : s.responseCommand = none) (callback : SenderCallback δ) :
    (s.deliver decode callback).result
        = (SenderCallback.failure decode callback).getD s.result ∧
      (s.deliver decode callback).value
        = (SentCallback.value decode (.reported callback)).elim s.value some := by
  cases callback with
  | onError error => exact ⟨rfl, rfl⟩
  | onResponse path status data =>
    cases hst : status.isSuccess with
    | true =>
      cases data with
      | none =>
        simp [deliver, onResponse, hs, SenderCallback.failure, SentCallback.value, hst,
          StatusIB.toChipError_of_isSuccess hst]
      | some d =>
        cases hd : decode d <;>
          simp [deliver, onResponse, hs, SenderCallback.failure, SentCallback.value, hst,
            StatusIB.toChipError_of_isSuccess hst, hd]
    | false =>
      simp [deliver, onResponse, hs, SenderCallback.failure, SentCallback.value, hst,
        StatusIB.toChipError_ne_noError hst]

/-- It keeps the failure that was reported last. -/
theorem invokeCommand_result (ks : List (SentCallback (SenderCallback δ))) :
    ((invokeCommand decode path none data).after ks).result
      = ((ks.filterMap (SentCallback.failure (SenderCallback.failure decode))).getLast?).getD
        .noError := by
  refine CallbackCall.after_last _ (fun s : GenericInvokeState ν => s.responseCommand = none)
    invokeCommand_responseCommand (fun k s hs => ?_) ks
  show (s.deliverSent decode k).result = _
  cases k with
  | connected error =>
    by_cases he : error = .noError <;>
      simp [GenericInvokeState.deliverSent, GenericInvokeState.handleConnected,
        GenericInvokeState.finish, SentCallback.failure, he]
  | connectionFailure error => rfl
  | onDone => simp [GenericInvokeState.deliverSent, GenericInvokeState.onDone, hs,
      SentCallback.failure]
  | reported callback => exact (GenericInvokeState.deliver_of_none hs callback).1

/-- And the value that was reported last. -/
theorem invokeCommand_value (ks : List (SentCallback (SenderCallback δ))) :
    ((invokeCommand decode path none data).after ks).value
      = (ks.filterMap (SentCallback.value decode)).getLast? := by
  rw [← CallbackCall.foldl_overwrite_none]
  refine CallbackCall.after_fold _ (fun s : GenericInvokeState ν => s.responseCommand = none)
    (fun v _ => some v) invokeCommand_responseCommand (fun k s hs => ?_) ks
  show (s.deliverSent decode k).value = _
  cases k with
  | connected error =>
    by_cases he : error = .noError <;>
      simp [GenericInvokeState.deliverSent, GenericInvokeState.handleConnected,
        GenericInvokeState.finish, SentCallback.value, he]
  | connectionFailure error => rfl
  | onDone => rfl
  | reported callback => exact (GenericInvokeState.deliver_of_none hs callback).2

/-- **Writes and commands return what was reported to them.** In every run of `WriteAttribute`,
however its callbacks and its waiting interleave, the outcome is the failure that was reported
last by the time it looked, or success. In every run of an `InvokeCommand` that requires no
response it is that failure, or the value reported last, or the empty property set. -/
theorem commands_accounted (decode : δ → Option ν) (path : CommandPath) (data : Bool) :
    (∀ s, writeAttribute.machine.Reachable s → writeAttribute.Accounted writeOutcome s) ∧
    ∀ s, (invokeCommand decode path none data).machine.Reachable s →
      (invokeCommand decode path none data).Accounted (commandOutcome decode) s := by
  refine ⟨fun s h => CallbackCall.accounted (fun ks _ => ?_) h,
    fun s h => CallbackCall.accounted (fun ks _ => ?_) h⟩
  · show checkChipError _ = _
    rw [writeAttribute_result, writeOutcome, outcomeOf]
    cases checkChipError _ <;> rfl
  · show checkChipError _ >>= (fun _ => _) = _
    rw [invokeCommand_result, invokeCommand_value]
    rfl

/-- A write that is done without a report, and a command that is refused. -/
theorem commands_accounted_done :
    (∃ s, writeAttribute.machine.Reachable s ∧ s.phase.outcome = some (.ok ())) ∧
    ∃ s, (invokeCommand (some : List ℕ → Option (List ℕ)) ⟨1, 6, 1⟩ none
        false).machine.Reachable s ∧
      s.phase.outcome = some (.error (.chip (.imGlobalStatus 0x85))) := by
  obtain ⟨hwrite, hinvoke⟩ := commands_accounted (some : List ℕ → Option (List ℕ)) ⟨1, 6, 1⟩ false
  have hwritten : writeAttribute.machine.Reachable
      { state := { complete := true }
        phase := .returned (.ok ())
        delivered := [.connected .noError, .onDone]
        seen := some [.connected .noError, .onDone] } :=
    Machine.reachable_iff_run.mpr
      ⟨[.register none, .deliver (.connected .noError), .deliver .onDone, .look, .release], rfl⟩
  have hrefused : (invokeCommand (some : List ℕ → Option (List ℕ)) ⟨1, 6, 1⟩ none
      false).machine.Reachable
      { state :=
          { path := ⟨1, 6, 1⟩, responseCommand := none, responseSeen := true, complete := true
            result := .imGlobalStatus 0x85 }
        phase := .leaving (.error (.chip (.imGlobalStatus 0x85)))
        registered := true
        delivered := [.reported (.onResponse ⟨1, 6, 1⟩ ⟨0x85, none⟩ none), .onDone]
        seen := some [.reported (.onResponse ⟨1, 6, 1⟩ ⟨0x85, none⟩ none), .onDone] } :=
    Machine.reachable_iff_run.mpr ⟨[.register none,
      .deliver (.reported (.onResponse ⟨1, 6, 1⟩ ⟨0x85, none⟩ none)), .deliver .onDone, .look], rfl⟩
  exact ⟨⟨_, hwritten, ((hwrite _ hwritten).seen _ rfl).2.2⟩,
    ⟨_, hrefused, ((hinvoke _ hrefused).seen _ rfl).2.2⟩⟩

/-- **A command that requires a response** ends as its final state: what has been said of the
callbacks of its sender is said of the whole call. -/
theorem invokeCommand_finalState {response : UInt32} (cbs : List (SenderCallback δ)) :
    (invokeCommand decode path (some response) data).after (cbs.map .reported ++ [.onDone])
      = GenericInvokeState.finalState decode
        (GenericInvokeState.requiring path response data) cbs := by
  rw [CallbackCall.after_concat, CallbackCall.after, List.foldl_map]
  rfl

end Commands
