import MatterController.AllocationOutcomes
import MatterController.Receiver

/-!
# The window of the camera receiver

`CameraReceiverWindow` is the host of the receiver page. It allocates a video stream, and an
audio stream for a session that listens, hands the page's offer to the camera, and gives all
of it back when it stops. It stops for many reasons: the button, a failure of whatever it
waits for, a message of the page that it does not like, a privacy report of the camera, the
end of the session, the end of the window.

Everything is on one thread, but nearly every line waits for something, and meanwhile
anything else may go on: a click, a message, another task of the window. An `Action` is one
of these with all that is done until the next wait; what is waited for answers as the
schedule says. Where the code would go on at once, because there is nothing to wait for, an
action of its own does what comes next.

What the window asks of the camera it notes in `State.log`, which is not in the code.
-/

namespace CameraReceiverWindow

/-! ## What is asked of the camera -/

/-- The streams the window owns. -/
inductive Kind
  | video
  | audio
  deriving DecidableEq

/-- **What the camera is asked, and answers**: allocations, sessions and their ends, and
releases of streams; and that the window marks the node as one with an uncertain outcome. -/
inductive Event
  | allocate (kind : Kind)
  | allocated (kind : Kind) (endpoint stream : UInt16)
  | start (endpoint video : UInt16) (audio : Option UInt16)
  | started (session : UInt64)
  | close (session : UInt64)
  | closed (session : UInt64)
  | release (kind : Kind) (endpoint stream : UInt16)
  | released (kind : Kind) (succeeded : Bool)
  | doubt
  deriving DecidableEq

/-! ## Where the tasks stand -/

/-- `AllocateStreamAsync`, for an endpoint: it reads the capabilities, and allocates. -/
inductive Allocating
  | idle
  | capabilities (endpoint : UInt16)
  | allocating (endpoint : UInt16)
  | ended
  deriving DecidableEq

/-- Whether the task is not complete. -/
def Allocating.runs : Allocating → Bool
  | .capabilities _ | .allocating _ => true
  | .idle | .ended => false

/-- What `PrepareReceiverAsync` reads first. -/
inductive Reading
  | capabilities
  | audioCapabilities
  | information
  | formats
  deriving DecidableEq

/-- `PrepareReceiverAsync`, of the session with a number, and what `OnStart` does when it is
complete: if it failed it waits for a stop. -/
inductive Preparing
  | idle
  | reading (owner : ℕ) (what : Reading)
  | allocating (owner left : ℕ)
  | sending (owner : ℕ)
  | returned
  | thrown (owner : ℕ) (canceled : Bool)
  | stopping (number : ℕ)
  deriving DecidableEq

/-- The session a preparation is for, where the task is not complete. -/
def Preparing.owner : Preparing → Option ℕ
  | .reading o _ | .allocating o _ | .sending o => some o
  | .idle | .returned | .thrown _ _ | .stopping _ => none

/-- How `StartSessionAsync` ended. -/
inductive Ending
  | returned
  | failed
  | canceled
  deriving DecidableEq

/-- `StartSessionAsync`: it waits for the session, and closes one that comes too late. -/
inductive Starting
  | idle
  | calling (owner : ℕ)
  | cleaning (session : UInt64)
  | ended (ending : Ending)
  deriving DecidableEq

/-- Whether the task is not complete. -/
def Starting.runs : Starting → Bool
  | .calling _ | .cleaning _ => true
  | .idle | .ended _ => false

/-- `ReceiveSignalsAsync` or `MonitorPrivacyAsync`. -/
inductive Watching
  | idle
  | runs
  | ended
  deriving DecidableEq

/-- `DrainMessagesAsync`, between two messages or waiting for what one of them asked. -/
inductive Draining
  | idle
  | starting
  | sending
  | authorizing (owner token : ℕ)
  | stopping (number : ℕ)
  deriving DecidableEq

/-- `StopCoreAsync`, with the session it took over: what it is about to wait for, or to do,
next. -/
inductive Stopping
  | preparation
  | allocation (ownedSession : Option UInt64)
  | start (ownedSession : Option UInt64)
  | signal (ownedSession : Option UInt64)
  | privacy (ownedSession : Option UInt64)
  | session (session : UInt64)
  | audio
  | audioRelease
  | video
  | videoRelease
  | ended
  deriving DecidableEq

/-- How far a stop has come. -/
def Stopping.rank : Stopping → ℕ
  | .preparation => 0
  | .allocation _ => 1
  | .start _ => 2
  | .signal _ => 3
  | .privacy _ => 4
  | .session _ => 5
  | .audio => 6
  | .audioRelease => 7
  | .video => 8
  | .videoRelease => 9
  | .ended => 10

/-- `CloseReceiverCoreAsync`. -/
inductive Closing
  | stopping (number : ℕ)
  | ended
  deriving DecidableEq

/-- **The window.** A session's token has the number of the session; `told` says whether the
page has it. Sessions and stops are numbered. -/
structure State where
  sessionCancellation : Option ℕ := none
  canceled : ℕ → Bool := fun _ => false
  owners : ℕ := 0
  token : ℕ := 0
  told : Bool := false
  session : Option UInt64 := none
  startTask : Bool := false
  starting : Starting := .idle
  signalTask : Watching := .idle
  privacyTask : Watching := .idle
  allocationTask : Allocating := .idle
  preparationTask : Preparing := .idle
  stopTask : Option Stopping := none
  stops : ℕ := 0
  stopsOver : ℕ := 0
  closeTask : Option Closing := none
  draining : Draining := .idle
  selectedEndpoint : UInt16 := 0
  selectedStream : UInt16 := 0
  ready : Bool := false
  closing : Bool := false
  closed : Bool := false
  ownedStream : Option UInt16 := none
  ownedStreamEndpoint : UInt16 := 0
  deallocationAttempted : Bool := false
  ownershipUncertain : Bool := false
  ownedAudio : Option UInt16 := none
  audioReleaseAttempted : Bool := false
  selectedListening : Bool := false
  selectedTalk : Bool := false
  microphoneArmed : Bool := false
  activeWindow : Bool := true
  log : List Event := []

/-- What is waited for answers; `sends` says whether the page can then be told. -/
inductive Answer
  | returns
  | profiles (n : ℕ)
  | stream (stream : UInt16)
  | session (session : UInt64)
  | privacy (enabled sends : Bool)
  | fails (failure : MatterCameraFailure)
  | throws (canceled : Bool)
  deriving DecidableEq

/-- **An action**: an event of the window or of another one, a message of the page with its
token, which may be none the window can read, or a task that goes on. -/
inductive Action
  | navigated (success : Bool)
  | activated (active sends : Bool)
  | markedElsewhere
  | allocate (endpoint : UInt16)
  | start (endpoint stream : UInt16) (listening talk : Bool)
  | stop
  | close
  | message (token : ℕ) (report : Option Receiver.Report)
  | allocation (answer : Answer)
  | preparation (answer : Answer)
  | starting (answer : Answer)
  | draining (answer : Answer)
  | signalsEnd
  | privacyEnds (cleanup : Bool)
  | stopping (answer : Answer)
  | closing
  deriving DecidableEq

/-! ## Small steps -/

/-- Something is asked or answered. -/
def State.note (s : State) (e : Event) : State := { s with log := s.log ++ [e] }

/-- `ownershipUncertain` is set. -/
def State.mark (s : State) : State := { s.note .doubt with ownershipUncertain := true }

/-- `ownershipUncertain` is set where an outcome is uncertain. -/
def State.markIf (s : State) (uncertain : Bool) : State := if uncertain then s.mark else s

/-- **`StopAsync`**, until it first waits: there is one stop at a time. -/
def State.stop (s : State) : State :=
  match s.stopTask with
  | some _ => s
  | none =>
    let halted := { s with
      microphoneArmed := false
      sessionCancellation := none
      canceled := s.sessionCancellation.elim s.canceled fun o => Function.update s.canceled o true
      stops := s.stops + 1 }
    if s.ready then { halted with stopTask := some .preparation }
    else { halted with stopTask := some (.allocation s.session), session := none }

/-! ## The tasks -/

/-- `AllocateStreamAsync`, and what the click handler does when it is complete. -/
def allocationStep (s : State) : Answer → Option State
  | .returns =>
    match s.allocationTask with
    | .capabilities endpoint =>
      if s.closing ∨ s.stopTask ≠ none then some { s with allocationTask := .ended }
      else some { s.note (.allocate .video) with allocationTask := .allocating endpoint }
    | .ended => some { s with allocationTask := .idle }
    | _ => none
  | .stream stream =>
    match s.allocationTask with
    | .allocating endpoint => some { s.note (.allocated .video endpoint stream) with
        allocationTask := .ended
        ownedStream := some stream
        ownedStreamEndpoint := endpoint
        deallocationAttempted := false }
    | _ => none
  | .fails failure =>
    match s.allocationTask with
    | .allocating _ => some { s.markIf failure.isOutcomeUncertain with allocationTask := .ended }
    | _ => none
  | .throws _ =>
    match s.allocationTask with
    | .capabilities _ | .allocating _ => some { s with allocationTask := .ended }
    | _ => none
  | _ => none

/-- The next profile of a preparation is tried, unless it was canceled. -/
def State.tryNext (s : State) (owner : ℕ) : ℕ → State
  | 0 => { s with preparationTask := .sending owner }
  | left + 1 =>
    if s.canceled owner then { s with preparationTask := .thrown owner true }
    else { s.note (.allocate .audio) with preparationTask := .allocating owner left }

/-- The end of a preparation, which tells the page to start. -/
def State.sendStart (s : State) (owner : ℕ) (sends : Bool) : State :=
  if s.canceled owner then { s with preparationTask := .thrown owner true }
  else if s.sessionCancellation ≠ some owner then { s with preparationTask := .returned }
  else if sends then { s with preparationTask := .returned, told := true }
  else { s with preparationTask := .thrown owner false }

/-- `PrepareReceiverAsync`, and what `OnStart` does when it is complete. -/
def preparationStep (s : State) : Answer → Option State
  | .returns =>
    match s.preparationTask with
    | .reading owner .capabilities =>
      if s.selectedListening then
        some { s with preparationTask := .reading owner .audioCapabilities }
      else some { s with preparationTask := .sending owner }
    | .reading owner .audioCapabilities =>
      some { s with preparationTask := .reading owner .information }
    | .reading owner .information => some { s with preparationTask := .reading owner .formats }
    | .sending owner => some (s.sendStart owner true)
    | .returned => some { s with preparationTask := .idle }
    | .thrown owner canceled =>
      if canceled ∧ s.canceled owner then some { s with preparationTask := .idle }
      else some { s.stop with preparationTask := .stopping s.stop.stops }
    | .stopping number =>
      if number ≤ s.stopsOver then some { s with preparationTask := .idle } else none
    | _ => none
  | .profiles n =>
    match s.preparationTask with
    | .reading owner .formats => some (s.tryNext owner n)
    | _ => none
  | .stream stream =>
    match s.preparationTask with
    | .allocating owner _ => some { s.note (.allocated .audio s.selectedEndpoint stream) with
        preparationTask := .sending owner
        ownedAudio := some stream
        audioReleaseAttempted := false }
    | _ => none
  | .fails failure =>
    match s.preparationTask with
    | .allocating owner left =>
      let marked := s.markIf failure.isOutcomeUncertain
      if failure.canTryAnother = false ∨ left = 0 then
        some { marked with preparationTask := .thrown owner false }
      else some (marked.tryNext owner left)
    | _ => none
  | .throws canceled =>
    match s.preparationTask with
    | .reading owner _ | .allocating owner _ =>
      some { s with preparationTask := .thrown owner canceled }
    | .sending owner => some (s.sendStart owner false)
    | _ => none
  | _ => none

/-- The failures of a start after which there may be a session. -/
def startUncertain (failure : MatterCameraFailure) : Bool :=
  failure.category == .timeout || failure.category == .connectionFailure ||
    failure.category == .malformedData || failure.category == .unknown

/-- `StartSessionAsync`. -/
def startingStep (s : State) : Answer → Option State
  | .session session =>
    match s.starting with
    | .calling owner =>
      let started := s.note (.started session)
      if s.sessionCancellation ≠ some owner ∨ s.canceled owner then
        some { started.note (.close session) with starting := .cleaning session }
      else
        some { started with
          starting := .ended .returned
          session := some session
          signalTask := .runs
          privacyTask := .runs }
    | _ => none
  | .returns =>
    match s.starting with
    | .cleaning session => some { s.note (.closed session) with starting := .ended .returned }
    | _ => none
  | .fails failure =>
    match s.starting with
    | .calling _ => some { s.markIf (startUncertain failure) with starting := .ended .failed }
    | .cleaning session => some { (s.note (.closed session)).mark with starting := .ended .failed }
    | _ => none
  | .throws canceled =>
    match s.starting with
    | .calling _ =>
      if canceled then some { s.mark with starting := .ended .canceled }
      else some { s with starting := .ended .failed }
    | .cleaning session => some { s.note (.closed session) with
        starting := .ended (if canceled then .canceled else .failed) }
    | _ => none
  | _ => none

/-- A message, or what it asked, fails: the window stops. -/
def State.fail (s : State) : State :=
  { s.stop with draining := .stopping s.stop.stops }

/-- It was canceled: the window stops, unless a stop was why. -/
def State.failCanceled (s : State) : State :=
  if s.stopTask = none then s.fail else { s with draining := .idle }

/-- `DrainMessagesAsync`, when what it waits for is there. -/
def drainingStep (s : State) (answer : Answer) : Option State :=
  match s.draining with
  | .idle => none
  | .starting =>
    match s.starting with
    | .ended .returned =>
      some { s with starting := .idle, startTask := false, draining := .idle }
    | .ended .failed => some (State.fail { s with starting := .idle })
    | .ended .canceled => some (State.failCanceled { s with starting := .idle })
    | _ => none
  | .sending =>
    match answer with
    | .returns => some { s with draining := .idle }
    | .fails _ | .throws false => some s.fail
    | .throws true => some s.failCanceled
    | _ => none
  | .authorizing owner token =>
    match answer with
    | .privacy false sends =>
      if s.sessionCancellation ≠ some owner ∨ s.token ≠ token ∨ s.activeWindow = false ∨
          s.canceled owner then some { s with draining := .idle }
      else if sends then some { s with draining := .idle, microphoneArmed := true }
      else some (State.fail { s with microphoneArmed := true })
    | .privacy true _ | .fails _ | .throws false => some s.fail
    | .throws true => some s.failCanceled
    | _ => none
  | .stopping number =>
    if number ≤ s.stopsOver then some { s with draining := .idle } else none

/-- The bounds of a candidate of the page, with those of its projected class. -/
def candidateFits (c : Receiver.Candidate) : Bool :=
  !(c.candidate.isEmpty || 2048 < Receiver.encodedLength c.candidate || c.candidate.contains 0 ||
    256 < Receiver.encodedLength (c.sdpMid.getD []) || (c.sdpMid.getD []).contains 0 ||
    c.sdpMLineIndex.getD (-1) < -1 || 65535 ≤ c.sdpMLineIndex.getD (-1))

/-- The audio states with which the page says that the microphone is captured. -/
def captures : Receiver.AudioState → Bool
  | .captureOn | .outgoing | .inputSignalObserved => true
  | _ => false

/-- The audio states with which it says that it is not. -/
def disarms : Receiver.AudioState → Bool
  | .captureOff | .permissionDenied | .permissionTimeout | .captureTimeout | .captureUnavailable
  | .talkUnsupported | .capturePending => true
  | _ => false

/-- `StartSessionAsync`, until it first waits. -/
def State.startSession (s : State) (owner : ℕ) : State :=
  let begun := { s with startTask := true, draining := .starting }
  if s.canceled owner then { begun with starting := .ended .canceled }
  else if s.selectedListening then
    match s.ownedAudio with
    | some audio => { begun.note (.start s.selectedEndpoint s.selectedStream (some audio)) with
        starting := .calling owner }
    | none => { begun with starting := .ended .failed }
  else { begun.note (.start s.selectedEndpoint s.selectedStream none) with
    starting := .calling owner }

/-- **A message of the page** with the token of the session; `none` is one that the window
cannot read. -/
def received (s : State) (owner : ℕ) : Option Receiver.Report → State
  | some (.offer sdp) =>
    if s.session ≠ none ∨ 16384 < Receiver.encodedLength sdp then s.fail
    else s.startSession owner
  | some (.ice c) =>
    if s.session = none ∨ candidateFits c = false then s.fail else { s with draining := .sending }
  | some .playing => s
  | some (.connection .disconnected) | some (.connection .failed) => s.fail
  | some (.audio state) =>
    if s.selectedListening = false ∨
        captures state ∧ (s.selectedTalk = false ∨ s.microphoneArmed = false) then s.fail
    else if disarms state then { s with microphoneArmed := false } else s
  | some (.captureRequest press) =>
    if press < 1 ∨ 9007199254740991 < press ∨ s.selectedTalk = false ∨ s.activeWindow = false ∨
        s.session = none then s.fail
    else { s with draining := .authorizing owner s.token }
  | some .captureRelease => { s with microphoneArmed := false }
  | some .talkDiagnostics =>
    if s.selectedTalk = false ∨ s.microphoneArmed = false then s.fail else s
  | some (.error _) | some (.connection _) | none => s.fail

/-- `ReceiveSignalsAsync` and `MonitorPrivacyAsync` are awaited when they are complete. -/
def Watching.awaited : Watching → Bool
  | .runs => false
  | .idle | .ended => true

/-- **`StopCoreAsync`**, and `FinishStopAsync` after it. What is there is waited for; the
session is closed, and each of the streams is released, if that was not tried before. -/
def stoppingStep (s : State) (answer : Answer) : Option State :=
  match s.stopTask with
  | none => none
  | some .preparation =>
    if s.preparationTask.owner ≠ none then none
    else
      match answer with
      | .returns => some { s with stopTask := some (.allocation s.session), session := none }
      | .throws _ => some { s with
          stopTask := some (.allocation s.session)
          session := none
          ready := false }
      | _ => none
  | some (.allocation ownedSession) =>
    if s.allocationTask.runs then none else some { s with stopTask := some (.start ownedSession) }
  | some (.start ownedSession) =>
    if s.startTask ∧ s.starting.runs then none
    else some { s with stopTask := some (.signal ownedSession), startTask := false }
  | some (.signal ownedSession) =>
    if s.signalTask.awaited then
      some { s with stopTask := some (.privacy ownedSession), signalTask := .idle }
    else none
  | some (.privacy ownedSession) =>
    if s.privacyTask.awaited then
      match ownedSession with
      | some session => some { s.note (.close session) with
          stopTask := some (.session session)
          privacyTask := .idle }
      | none => some { s with stopTask := some .audio, privacyTask := .idle }
    else none
  | some (.session session) =>
    let closed := { s.note (.closed session) with stopTask := some .audio }
    match answer with
    | .returns => some closed
    | .fails _ | .throws _ => some closed.mark
    | _ => none
  | some .audio =>
    match s.ownedAudio, s.audioReleaseAttempted with
    | some stream, false => some { s.note (.release .audio s.selectedEndpoint stream) with
        stopTask := some .audioRelease
        audioReleaseAttempted := true }
    | _, _ => some { s with stopTask := some .video }
  | some .audioRelease =>
    let next := { s with stopTask := some .video }
    match answer with
    | .returns => some { next.note (.released .audio true) with ownedAudio := none }
    | .fails _ | .throws _ => some (next.note (.released .audio false)).mark
    | _ => none
  | some .video =>
    match s.ownedStream, s.deallocationAttempted with
    | some stream, false => some { s.note (.release .video s.ownedStreamEndpoint stream) with
        stopTask := some .videoRelease
        deallocationAttempted := true }
    | _, _ => some { s with stopTask := some .ended, stopsOver := s.stopsOver + 1 }
  | some .videoRelease =>
    let next := { s with stopTask := some .ended, stopsOver := s.stopsOver + 1 }
    match answer with
    | .returns => some { next.note (.released .video true) with ownedStream := none }
    | .fails _ | .throws _ => some (next.note (.released .video false)).mark
    | _ => none
  | some .ended => some { s with stopTask := none }

/-! ## The events -/

/-- The window is activated, or not: then the microphone is disarmed, and a page with a session
told to stop capturing it. -/
def State.activate (s : State) (active sends : Bool) : State :=
  if active then { s with activeWindow := true }
  else
    let disarmed := { s with activeWindow := false, microphoneArmed := false }
    if s.ready ∧ s.sessionCancellation ≠ none ∧ sends = false then disarmed.stop else disarmed

/-- The click that allocates; another is refused. -/
def State.allocate (s : State) (endpoint : UInt16) : Option State :=
  if s.sessionCancellation ≠ none ∨ s.allocationTask ≠ .idle ∨ s.stopTask ≠ none ∨
      s.ownedStream ≠ none ∨ s.ownershipUncertain ∨ s.closing then none
  else some { s with allocationTask := .capabilities endpoint }

/-- **`OnStart`**, with what the boxes show, until it first waits. -/
def State.start (s : State) (endpoint stream : UInt16) (listening talk : Bool) : Option State :=
  if s.ready = false ∨ s.closing ∨ s.stopTask ≠ none ∨ s.allocationTask ≠ .idle ∨
      s.preparationTask ≠ .idle ∨ s.ownershipUncertain ∨ s.sessionCancellation ≠ none then none
  else if s.ownedStream ≠ none ∧ (s.ownedStream ≠ some stream ∨ endpoint ≠ s.ownedStreamEndpoint)
    then none
  else some { s with
    sessionCancellation := some s.owners
    token := s.owners
    told := false
    owners := s.owners + 1
    selectedEndpoint := endpoint
    selectedStream := stream
    selectedListening := listening
    selectedTalk := talk
    microphoneArmed := false
    preparationTask := .reading s.owners .capabilities }

/-- `CloseReceiverAsync`. -/
def State.close (s : State) : Option State :=
  if s.closeTask ≠ none then none
  else
    let t := State.stop { s with closing := true }
    some { t with closeTask := some (.stopping t.stops) }

/-- **The step of the window.** -/
def step (s : State) : Action → Option State
  | .navigated success => some { s with ready := success }
  | .activated active sends => some (s.activate active sends)
  | .markedElsewhere => some { s with ownershipUncertain := true }
  | .allocate endpoint => s.allocate endpoint
  | .start endpoint stream listening talk => s.start endpoint stream listening talk
  | .stop => some s.stop
  | .close => s.close
  | .message token report =>
    match s.draining, s.sessionCancellation with
    | .idle, some owner =>
      if token ≠ s.token then some s
      -- The page has the token from the message that starts it.
      else if s.told then some (received s owner report) else none
    | .idle, none => some s
    | _, _ => none
  | .allocation answer => allocationStep s answer
  | .preparation answer => preparationStep s answer
  | .starting answer => startingStep s answer
  | .draining answer => drainingStep s answer
  | .signalsEnd =>
    match s.signalTask with
    | .runs => some { s with signalTask := .ended }
    | _ => none
  | .privacyEnds cleanup =>
    match s.privacyTask with
    | .runs => some { s.markIf (!cleanup) with privacyTask := .ended }
    | _ => none
  | .stopping answer => stoppingStep s answer
  | .closing =>
    match s.closeTask with
    | some (.stopping number) =>
      if number ≤ s.stopsOver then some { s with closeTask := some .ended, closed := true }
      else none
    | _ => none

/-- **The window**, when it is opened for a node that may already be an uncertain one. -/
def machine (uncertain : Bool) : Machine State Action := ⟨{ ownershipUncertain := uncertain }, step⟩

end CameraReceiverWindow
