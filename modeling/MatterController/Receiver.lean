import MatterController.Machine
import MatterController.Text
import Mathlib.Data.Finset.Basic
import Mathlib.Data.Finset.Range

/-!
# The camera receiver's page

The sample shows a camera in a page of its own: `receiver.js` negotiates the
session with the camera, whose answers and candidates the host window hands on,
and `realtime-audio.js` plays the camera's sound and captures the microphone
while a button is held. The page is a single thread, but nearly all that it
does it waits for – an offer, a description, a candidate, a permission, a
sender – and while it waits anything may happen: messages of the host, further
candidates, the button, the end of the session, the start of the next one.

`Page` is the state of both scripts, and an `Action` is one task of the
browser: an event, or a promise that is settled, with all that the scripts do
before they wait again. What the browser answers, and in which order it gets to
what, is the schedule's choice; so is what the host sends, here, down to
messages no host would send. Messages of the host are received one after the
other, each when the one before it is through (`Page.delivery`), but for those
that stop the session or the capture, which are received at once.

A peer connection and the audio engine made for it have the same number. The
fields `received`, `heard`, `accepted`, `given`, `described` and `released`, and
`Engine.press`, are not in the scripts; they are there to speak about what
happened.
-/

namespace Receiver

/-! ## Messages -/

/-- The number of bytes `TextEncoder` makes of a string. -/
def encodedLength (s : HString) : ℕ := (utf8 (decodeUtf16 s)).length

/-- A literal of the scripts. -/
def literal (s : String) : HString := utf16 s.toList

/-- A field of a message: a value of the type the page tests for, `null`, or
anything else. -/
inductive Field (α : Type)
  | value (a : α)
  | null
  | other
  deriving DecidableEq

/-- An ICE candidate. -/
structure Candidate where
  candidate : HString
  sdpMid : Option HString
  sdpMLineIndex : Option ℤ
  deriving DecidableEq

/-- An element of a batch of remote candidates, before it is checked. -/
structure RemoteCandidate where
  candidate : Field HString
  sdpMid : Field HString
  sdpMLineIndex : Field ℤ
  deriving DecidableEq

/-- What the page accepts as the media line of a candidate. -/
def checkMid : Field HString → Option (Option HString)
  | .value mid => if encodedLength mid ≤ 256 then some (some mid) else none
  | .null => some none
  | .other => none

/-- What the page accepts as the index of the media line. -/
def checkLineIndex : Field ℤ → Option (Option ℤ)
  | .value i => if 0 ≤ i ∧ i < 65535 then some (some i) else none
  | .null => some none
  | .other => none

/-- **The check of a remote candidate**; `none` where it throws. -/
def RemoteCandidate.check (c : RemoteCandidate) : Option Candidate :=
  match c.candidate with
  | .value text =>
    if text = [] ∨ 2048 < encodedLength text then none
    else
      (checkMid c.sdpMid).bind fun mid =>
        (checkLineIndex c.sdpMLineIndex).map fun index => ⟨text, mid, index⟩
  | _ => none

/-- The audio format of a session. -/
structure AudioProfile where
  codec : Field HString
  sampleRate : Field ℤ
  bitDepth : Field ℤ
  channels : Field ℤ
  bitRate : Field ℤ
  deriving DecidableEq

/-- What a `start` message asks for. -/
structure StartOptions where
  listen : Bool
  talk : Bool
  videoCodec : Field ℤ
  minimumWidth : Field ℤ
  maximumWidth : Field ℤ
  minimumHeight : Field ℤ
  maximumHeight : Field ℤ
  audio : Option AudioProfile
  deriving DecidableEq

/-- What a message of the host is. -/
inductive Body
  | start (options : StartOptions)
  | stop
  | captureStop
  | captureAuthorized (press : Field ℕ)
  | answer (sdp : Field HString)
  | ice (candidates : Option (List RemoteCandidate))
  | unsupported
  deriving DecidableEq

/-- **A message of the host**: an object, or nothing the page takes for a
command. -/
inductive Message
  | invalid
  | command (token : Field HString) (body : Body)
  deriving DecidableEq

/-- The states of the audio engine that it reports. -/
inductive AudioState
  | receiving
  | decoded
  | playing
  | playbackBlocked
  | muted
  | unmuted
  | captureOn
  | captureOff
  | outgoing
  | inputSignalObserved
  | permissionDenied
  | permissionTimeout
  | captureTimeout
  | captureUnavailable
  | talkUnsupported
  | capturePending
  deriving DecidableEq

/-- The states of a peer connection the scripts tell apart. -/
inductive Connection
  | new
  | connected
  | disconnected
  | failed
  deriving DecidableEq

/-- **What the page tells the host.** -/
inductive Report
  | offer (sdp : HString)
  | ice (c : Candidate)
  | error (message : String)
  | playing
  | connection (c : Connection)
  | audio (state : AudioState)
  | captureRequest (press : ℕ)
  | captureRelease
  | talkDiagnostics
  deriving DecidableEq

/-- What the browser can do, as the scripts ask it. -/
structure Browser where
  /-- The MIME types of the video codecs it receives, in lower case. -/
  videoCodecs : List HString
  /-- Whether it receives, and sends, Opus at 48 kHz. -/
  receivesOpus : Bool
  sendsOpus : Bool

/-- The codecs by the number the camera gives them. -/
def codecMimeTypes : List HString :=
  [literal "video/h264", literal "video/h265", literal "video/h266", literal "video/av1"]

/-- Whether a dimension is one. -/
def dimension : Field ℤ → Option ℤ
  | .value d => if 1 ≤ d ∧ d ≤ 65535 then some d else none
  | _ => none

/-- Whether the bounds of a dimension are in order. -/
def orderedBounds (low high : Field ℤ) : Bool :=
  match dimension low, dimension high with
  | some l, some h => l ≤ h
  | _, _ => false

/-- **The checks of a `start` message** before the peer connection is made. -/
def StartOptions.check (b : Browser) (o : StartOptions) : Bool :=
  !(o.talk && !o.listen) &&
  (match o.videoCodec with
    | .value i => 0 ≤ i && codecMimeTypes[i.toNat]?.any (fun codec => b.videoCodecs.contains codec)
    | _ => false) &&
  orderedBounds o.minimumWidth o.maximumWidth && orderedBounds o.minimumHeight o.maximumHeight

/-- Whether `RealtimeAudio.formats` has the codec. -/
def Browser.opus (b : Browser) (talk : Bool) : Bool :=
  b.receivesOpus && (if talk then b.sendsOpus else b.receivesOpus)

/-- **The checks of `RealtimeAudio.start`.** -/
def AudioProfile.check (b : Browser) (talk : Bool) (p : AudioProfile) : Bool :=
  p.codec = .value (literal "audio/opus") && b.opus talk &&
  [48000, 24000, 16000, 12000, 8000].any (fun rate => p.sampleRate = .value rate) &&
  [8, 16, 24, 32].any (fun depth => p.bitDepth = .value depth) &&
  (match p.channels with
    | .value n => 1 ≤ n && n ≤ 2
    | _ => false) &&
  (match p.bitRate with
    | .value n => 6000 ≤ n && n ≤ 128000
    | _ => false)

/-! ## The state -/

/-- An update of the audio sender that is queued: its track, or none to clear
it, and the generation it was queued in. -/
structure SenderUpdate where
  track : Option ℕ
  generation : ℕ
  deriving DecidableEq

/-- **An audio engine** (`RealtimeAudio`), as it is constructed. `press` is the
press its last capture was started for. -/
structure Engine where
  closed : Bool := true
  talk : Bool := false
  generation : ℕ := 0
  pendingCapture : Option ℕ := none
  capture : Option ℕ := none
  captureWanted : Bool := false
  captureEnabled : Bool := false
  captureAttached : Bool := false
  sender : Bool := false
  senderTrack : Option ℕ := none
  senderUpdates : List SenderUpdate := []
  receiveTrack : Bool := false
  inspecting : Option ℕ := none
  press : ℕ := 0
  deriving DecidableEq

/-- What `startCapture` waits for to acquire a track: the statistics, then the
permission; or it has been settled. -/
inductive Acquisition
  | statistics
  | permission
  | settled
  deriving DecidableEq

/-- Where `startCapture` itself is: at the acquisition, at the parameters of the
sender or at its track – with the track captured –, or through. -/
inductive Main
  | acquiring
  | parameters (track : ℕ)
  | replacing (track : ℕ)
  | over
  deriving DecidableEq

/-- **A call of `startCapture`.** The acquisition goes on when its deadline is
over, `startCapture` does not. -/
structure Call where
  acquisition : Acquisition := .settled
  main : Main := .over
  deriving DecidableEq

/-- What the message that is being received waits for: the browser to make the
offer of a peer, to set a description of it, or to add a candidate to it, with
the candidates that come after it. -/
inductive Receiving
  | createOffer (p : ℕ)
  | setLocalDescription (p : ℕ) (sdp : HString)
  | setRemoteDescription (p : ℕ)
  | flushing (p : ℕ) (rest : List Candidate)
  | adding (p : ℕ) (rest : List RemoteCandidate)
  deriving DecidableEq

/-- The peer it is about. -/
def Receiving.peer : Receiving → ℕ
  | .createOffer p | .setLocalDescription p _ | .setRemoteDescription p | .flushing p _
  | .adding p _ => p

/-- **The negotiation's part of the page.** `heard` are the candidates the browser
reported for a peer while it was open, `accepted` those of the host's messages,
`given` those added to it, and `described` the peers that have a remote
description. -/
structure Negotiation where
  remoteDescriptionSet : Bool := false
  pendingRemoteCandidates : List Candidate := []
  pendingLocalCandidates : List Candidate := []
  offerPublished : Bool := false
  running : Option Receiving := none
  heard : ℕ → List Candidate := fun _ => []
  accepted : ℕ → List Candidate := fun _ => []
  given : ℕ → List Candidate := fun _ => []
  described : ℕ → Bool := fun _ => false

/-- **The microphone's part of the page**, with the captured tracks that are live
and the sender updates that were refused. `released` is the last press there was
when the capture was last released. -/
structure Microphone where
  audioEngine : Option ℕ := none
  captureIntent : ℕ := 0
  captureSequence : ℕ := 0
  hidden : Bool := false
  engines : ℕ → Engine := fun _ => {}
  calls : ℕ → ℕ → Call := fun _ _ => {}
  live : Finset ℕ := ∅
  tracks : ℕ := 0
  rejected : List (ℕ × ℕ) := []
  released : ℕ := 0

/-- What the page told the host, with the token, and the peer it was about. -/
structure Posted where
  token : Option HString
  peer : Option ℕ
  report : Report
  deriving DecidableEq

/-- **The page.** -/
structure Page extends Negotiation, Microphone where
  peer : Option ℕ := none
  token : Option HString := none
  peers : ℕ := 0
  connection : ℕ → Connection := fun _ => .new
  talkDisabled : Bool := true
  delivery : List Message := []
  posted : List Posted := []
  received : List Message := []

/-! ## The microphone -/

/-- Tells the host. -/
def publish (s : Page) (r : Report) : Page :=
  { s with posted := s.posted ++ [⟨s.token, s.peer, r⟩] }

/-- Replaces an engine. -/
def setEngine (s : Page) (e : ℕ) (engine : Engine) : Page :=
  { s with engines := Function.update s.engines e engine }

/-- Moves a call of `startCapture`. -/
def setCall (s : Page) (e g : ℕ) (c : Call) : Page :=
  { s with calls := Function.update s.calls e (Function.update (s.calls e) g c) }

/-- The engine's report of a state, to the page it was made by: of a peer that is
no longer the page's nothing is told. -/
def reportAudio (s : Page) (e : ℕ) (state : AudioState) : Page :=
  if s.peer = some e then publish s (.audio state) else s

/-- `replaceTrack`: the update is queued, unless there are too many. -/
def replaceTrack (s : Page) (e : ℕ) (u : SenderUpdate) : Option Page :=
  if 8 ≤ (s.engines e).senderUpdates.length then none
  else
    some (setEngine s e
      { s.engines e with senderUpdates := (s.engines e).senderUpdates ++ [u] })

/-- The sender's track is cleared, later; where that is refused, it is noticed
later. -/
def clearSender (s : Page) (e : ℕ) : Page :=
  let u := ⟨none, (s.engines e).generation⟩
  (replaceTrack s e u).getD { s with rejected := s.rejected ++ [(e, (s.engines e).generation)] }

/-- Ends the tracks of a list. -/
def stopTracks (s : Page) (ts : List ℕ) : Page :=
  { s with live := s.live.filter (· ∉ ts) }

/-- An engine that captures no more. -/
def Engine.stopped (engine : Engine) : Engine :=
  { engine with
    captureWanted := false
    captureEnabled := false
    captureAttached := false
    generation := engine.generation + 1
    capture := none }

/-- `RealtimeAudio.stopCapture`. -/
def stopCapture (s : Page) (e : ℕ) : Page :=
  let engine := s.engines e
  let s := stopTracks (setEngine s e engine.stopped) engine.capture.toList
  let s := if engine.sender then clearSender s e else s
  if engine.closed then s else reportAudio s e .captureOff

/-- `RealtimeAudio.close`. -/
def closeEngine (s : Page) (e : ℕ) : Page :=
  let s := stopCapture s e
  setEngine s e { s.engines e with closed := true, receiveTrack := false, sender := false }

/-- The intent to capture is withdrawn. -/
def withdraw (s : Page) : Page := { s with captureIntent := 0, released := s.captureSequence }

/-- `releaseCapture`. -/
def releaseCapture (s : Page) : Page :=
  let s := withdraw s
  match s.audioEngine with
  | none => s
  | some e =>
    let s := stopCapture s e
    if s.token.isSome then publish s .captureRelease else s

/-- **`closeReceiver`.** -/
def closeReceiver (s : Page) : Page :=
  let s := releaseCapture s
  let s := match s.audioEngine with
    | none => s
    | some e => closeEngine s e
  { s with
    audioEngine := none
    peer := none
    pendingRemoteCandidates := []
    pendingLocalCandidates := []
    offerPublished := false
    remoteDescriptionSet := false }

/-- An error is told, and the receiver closed. -/
def fail (s : Page) (message : String) : Page :=
  closeReceiver (publish s (.error message))

/-- The engine's report of an error. -/
def reportError (s : Page) (e : ℕ) (message : String) : Page :=
  if s.peer = some e then fail s message else s

/-- `active` of a call of `startCapture`. -/
def active (s : Page) (e g : ℕ) : Bool :=
  !(s.engines e).closed && (s.engines e).captureWanted && (s.engines e).generation == g

/-- The `catch` of `startCapture`: where the call is still active, the capture is
stopped and the state reported. -/
def catchCapture (s : Page) (e g : ℕ) (state : AudioState) : Page :=
  let s := setCall s e g { s.calls e g with main := .over }
  if active s e g then reportAudio (stopCapture s e) e state else s

/-- The acquisition of a call is settled. -/
def finish (s : Page) (e g : ℕ) : Page :=
  let s := setCall s e g { s.calls e g with acquisition := .settled }
  let pending := (s.engines e).pendingCapture
  setEngine s e
    { s.engines e with pendingCapture := if pending = some g then none else pending }

/-- What the browser and the document answer when a message is received: whether
the calls on a new peer connection succeed, whether the audio transceiver has
come to send, and whether the input that is selected has a valid id. -/
structure Answers where
  media : Bool
  sending : Bool
  input : Bool
  deriving DecidableEq

/-- **`RealtimeAudio.startCapture`**, up to where it waits, with the handler of what
it throws. -/
def startCapture (s : Page) (e : ℕ) (answers : Answers) (press : ℕ) : Page :=
  let engine := s.engines e
  if engine.closed || !engine.talk || s.connection e != .connected || !answers.sending then
    reportAudio s e .talkUnsupported
  else if engine.pendingCapture.isSome || engine.captureWanted then
    reportAudio s e .capturePending
  else if !answers.input then
    if s.audioEngine = some e then fail s "Invalid local microphone request." else s
  else
    let g := engine.generation + 1
    let s := setEngine s e { engine with
      captureWanted := true
      generation := g
      pendingCapture := some g
      press := press }
    setCall s e g ⟨.statistics, .acquiring⟩

/-! ## Receiving messages -/

/-- What becomes of a message: it is through, it throws, or it waits. -/
inductive Outcome
  | returns (s : Page)
  | throws (s : Page)
  | awaits (s : Page) (r : Receiving)

/-- The page after it: a message that throws ends the session. -/
def Outcome.page : Outcome → Page
  | .returns s => { s with running := none }
  | .throws s =>
    fail { s with running := none } "Receiver rejected signaling or could not establish media."
  | .awaits s r => { s with running := some r }

/-- Adds a candidate to a peer. -/
def give (s : Page) (p : ℕ) (c : Candidate) : Page :=
  { s with given := Function.update s.given p (s.given p ++ [c]) }

/-- A remote candidate has passed its check. -/
def accept (s : Page) (p : ℕ) (c : Candidate) : Page :=
  { s with accepted := Function.update s.accepted p (s.accepted p ++ [c]) }

/-- The loop of an answer over the candidates that came before it. -/
def flush (s : Page) (p : ℕ) : List Candidate → Outcome
  | [] => .returns { s with pendingRemoteCandidates := [] }
  | c :: rest => .awaits (give s p c) (.flushing p rest)

/-- **The loop over a batch of candidates.** Each is checked, then added or kept; one
that fails its check, or finds no room, throws, and those before it stay. -/
def ingest (s : Page) (p : ℕ) : List RemoteCandidate → Outcome
  | [] => .returns s
  | raw :: rest =>
    match raw.check with
    | none => .throws s
    | some c =>
      if s.remoteDescriptionSet then .awaits (give (accept s p c) p c) (.adding p rest)
      else if s.pendingRemoteCandidates.length = 32 then .throws s
      else
        ingest { accept s p c with
          pendingRemoteCandidates := s.pendingRemoteCandidates ++ [c] } p rest

/-- Whether the token of a message is the page's. -/
def sameToken (t : Option HString) : Field HString → Bool
  | .value v => t == some v
  | .null => t.isNone
  | .other => false

/-- The audio engine of a new peer is started, where the session listens; `none`
where it throws. -/
def startAudio (b : Browser) (s : Page) (p : ℕ) (o : StartOptions) : Option Page :=
  if !o.listen then some s
  else if o.audio.any (AudioProfile.check b o.talk) then
    some (setEngine s p { s.engines p with
      closed := false
      talk := o.talk
      generation := (s.engines p).generation + 1
      sender := true })
  else none

/-- **`receive` of a `start` message.** -/
def start (b : Browser) (answers : Answers) (s : Page) (token : Field HString)
    (o : StartOptions) : Outcome :=
  match token with
  | .value t =>
    if t.length ≠ 32 ∨ s.peer.isSome then .throws s
    else
      let s := { s with token := some t }
      if !o.check b then .throws s
      else
        let p := s.peers
        let s := { s with
          peer := some p
          peers := p + 1
          talkDisabled := true
          audioEngine := if o.listen then some p else s.audioEngine }
        match startAudio b s p o with
        | none => .throws s
        | some s => if answers.media then .awaits s (.createOffer p) else .throws s
  | _ => .throws s

/-- `receive` of a microphone authorisation. -/
def captureAuthorized (answers : Answers) (s : Page) (press : Field ℕ) : Page :=
  match s.audioEngine with
  | none => releaseCapture s
  | some e =>
    if s.captureIntent ≠ 0 ∧ press = .value s.captureIntent ∧ s.hidden = false then
      startCapture s e answers s.captureIntent
    else releaseCapture s

/-- **`receive` of any other message**, for the peer it is about. -/
def receivePeer (answers : Answers) (s : Page) (p : ℕ) : Body → Outcome
  | .captureAuthorized press => .returns (captureAuthorized answers s press)
  | .answer (.value sdp) =>
    if 16384 < encodedLength sdp then .throws s else .awaits s (.setRemoteDescription p)
  | .ice (some candidates) =>
    if 16 < candidates.length then .throws s else ingest s p candidates
  | _ => .throws s

/-- **`receive`.** -/
def receive (b : Browser) (answers : Answers) (s : Page) : Message → Outcome
  | .invalid => .throws s
  | .command token (.start o) => start b answers s token o
  | .command token body =>
    if !sameToken s.token token then .throws s
    else
      match body, s.peer with
      | .stop, _ => .returns (closeReceiver s)
      | .captureStop, _ => .returns (releaseCapture s)
      | _, none => .throws s
      | body, some p => receivePeer answers s p body

/-- **The rest of `receive`**, once what it waited for is settled: a rejection is thrown,
and of a peer that is no longer the page's nothing more is done. -/
def resume (s : Page) (r : Receiving) (ok : Bool) (sdp : HString) : Outcome :=
  if !ok then .throws s
  else if s.peer ≠ some r.peer then .returns s
  else
    match r with
    | .createOffer p => .awaits s (.setLocalDescription p sdp)
    | .setLocalDescription _ offer =>
      let pending := s.pendingLocalCandidates
      let s := { publish s (.offer offer) with offerPublished := true }
      let s := pending.foldl (fun s c => publish s (.ice c)) s
      .returns { s with pendingLocalCandidates := [] }
    | .setRemoteDescription p =>
      flush { s with
        remoteDescriptionSet := true
        described := Function.update s.described p true } p s.pendingRemoteCandidates
    | .flushing p rest => flush s p rest
    | .adding p rest => ingest s p rest

/-- **A message of the host arrives.** Those that stop something are received at once,
the others after those before them. -/
def message (s : Page) (m : Message) : Page :=
  let s := { s with received := s.received ++ [m] }
  match m with
  | .command token .stop =>
    if sameToken s.token token then closeReceiver s
    else { s with delivery := s.delivery ++ [m] }
  | .command token .captureStop =>
    if sameToken s.token token then releaseCapture s
    else { s with delivery := s.delivery ++ [m] }
  | m => { s with delivery := s.delivery ++ [m] }

/-! ## Events -/

/-- The browser reports a candidate of a peer. -/
def localCandidate (s : Page) (p : ℕ) (c : Candidate) : Page :=
  if s.peer ≠ some p then s
  else
    let s := { s with heard := Function.update s.heard p (s.heard p ++ [c]) }
    if s.offerPublished then publish s (.ice c)
    else if s.pendingLocalCandidates.length < 32 then
      { s with pendingLocalCandidates := s.pendingLocalCandidates ++ [c] }
    else fail s "Local candidate queue overflow."

/-- A peer gets an audio track. -/
def audioTrack (s : Page) (p : ℕ) : Page :=
  if s.peer ≠ some p then s
  else
    match s.audioEngine with
    | none => fail s "Unexpected non-video media track."
    | some e =>
      if (s.engines e).closed || (s.engines e).receiveTrack then
        fail s "Unexpected audio track or playback initialization failure."
      else setEngine s e { s.engines e with receiveTrack := true }

/-- The connection of a peer changes. -/
def connectionChanged (s : Page) (p : ℕ) (c : Connection) : Page :=
  let s := { s with connection := Function.update s.connection p c }
  if s.peer ≠ some p then s
  else
    let s := { s with talkDisabled := c != .connected }
    if c = .failed ∨ c = .disconnected then publish (releaseCapture s) (.connection c) else s

/-- What can be wrong with the video that is received. -/
inductive VideoFault
  | undecoded
  | stalled
  | codec
  | dimensions
  | statistics (message : String)
  deriving DecidableEq

/-- What the page says then. -/
def VideoFault.message : VideoFault → String
  | .undecoded => "No decoded video frame within the receiver deadline."
  | .stalled => "Decoded video stopped progressing for ten seconds."
  | .codec => "The received video codec does not match the selected camera stream."
  | .dimensions => "Decoded video dimensions do not match the allocated stream."
  | .statistics m => if m = "" then "Decoded video or allocated-stream validation failed." else m

/-- The talk button is pressed. -/
def press (s : Page) : Page :=
  if s.talkDisabled || !s.audioEngine.any (fun e => (s.engines e).talk) || s.hidden then s
  else
    let s := { s with
      captureSequence := s.captureSequence + 1
      captureIntent := s.captureSequence + 1 }
    publish s (.captureRequest s.captureIntent)

/-- The page is hidden, or shown again. -/
def visibility (s : Page) (hidden : Bool) : Page :=
  if hidden then releaseCapture { s with hidden := true } else { s with hidden := false }

/-! ## What the audio engine waits for -/

/-- The statistics a call asked for. -/
def statistics (s : Page) (e g : ℕ) (ok : Bool) : Page :=
  if ok && active s e g then setCall s e g { s.calls e g with acquisition := .permission }
  else
    let s := finish s e g
    if (s.calls e g).main = .acquiring then catchCapture s e g .captureUnavailable else s

/-- What the browser answers a request for the microphone: it is denied, or fails, or
there is a stream with tracks, of which it says whether they are audio, and whether the
sender has encodings. -/
inductive Permission
  | denied
  | failed
  | stream (audio : List Bool) (encodings : Bool)
  deriving DecidableEq

/-- A call that captures a track: it is the engine's, and the sender is to be set up
for it. -/
def captured (s : Page) (e g t : ℕ) (encodings : Bool) : Page :=
  let s := setEngine s e { s.engines e with
    capture := some t
    captureEnabled := true
    captureAttached := false }
  let s := reportAudio s e .captureOn
  if encodings then setCall s e g { s.calls e g with main := .parameters t }
  else catchCapture s e g .captureUnavailable

/-- The tracks of a stream, live. -/
def grant (s : Page) (n : ℕ) : Page :=
  { s with live := s.live ∪ (List.range' s.tracks n).toFinset, tracks := s.tracks + n }

/-- **The microphone is granted, or not.** The tracks of a stream nobody wants any more
are stopped. -/
def permission (s : Page) (e g : ℕ) : Permission → Page
  | .denied =>
    let s := finish s e g
    if (s.calls e g).main = .acquiring then catchCapture s e g .permissionDenied else s
  | .failed =>
    let s := finish s e g
    if (s.calls e g).main = .acquiring then catchCapture s e g .captureUnavailable else s
  | .stream audio encodings =>
    let first := s.tracks
    let ts := List.range' first audio.length
    let s := finish (grant s audio.length) e g
    if !active s e g then
      let s := stopTracks s ts
      if (s.calls e g).main = .acquiring then setCall s e g {} else s
    else if (s.calls e g).main = .acquiring then
      if audio = [true] then captured s e g first encodings
      else catchCapture (stopTracks s ts) e g .captureUnavailable
    else s

/-- The deadline of a call is over. -/
def deadline (s : Page) (e g : ℕ) : Page :=
  if (s.calls e g).main = .acquiring then catchCapture s e g .permissionTimeout
  else catchCapture s e g .captureTimeout

/-- A call that finds that it is not active any more stops its track. -/
def abandon (s : Page) (e g t : ℕ) : Page :=
  setCall (stopTracks s [t]) e g { s.calls e g with main := .over }

/-- The parameters of the sender are set, for a call with a track. -/
def parameters (s : Page) (e g t : ℕ) (ok : Bool) : Page :=
  if !ok then catchCapture s e g .captureUnavailable
  else if !active s e g then abandon s e g t
  else
    match replaceTrack s e ⟨some t, g⟩ with
    | none => catchCapture s e g .captureUnavailable
    | some s => setCall s e g { s.calls e g with main := .replacing t }

/-- `reportCaptureEvidence`. -/
def reportCaptureEvidence (s : Page) (e : ℕ) : Page :=
  let engine := s.engines e
  if engine.captureEnabled && engine.captureAttached && engine.senderTrack == engine.capture &&
      s.peer == some e then
    publish s .talkDiagnostics
  else s

/-- An update of the sender leaves the queue. -/
def popUpdate (s : Page) (e : ℕ) (u : SenderUpdate) (rest : List SenderUpdate) (ok : Bool) : Page :=
  setEngine s e { s.engines e with
    senderUpdates := rest
    senderTrack := if ok then u.track else (s.engines e).senderTrack }

/-- **An update of the sender is through.** Whoever queued it goes on: the call of
`startCapture`, if it has not given up, or the handler of `stopCapture`. -/
def senderUpdated (s : Page) (e : ℕ) (u : SenderUpdate) (rest : List SenderUpdate)
    (ok : Bool) : Page :=
  let s := popUpdate s e u rest ok
  match u.track with
  | none =>
    if !ok && !(s.engines e).closed && (s.engines e).generation == u.generation then
      reportError s e "Local audio sender cleanup failed."
    else s
  | some t =>
    if (s.calls e u.generation).main ≠ .replacing t then s
    else if !ok then catchCapture s e u.generation .captureUnavailable
    else if !active s e u.generation then abandon s e u.generation t
    else
      let s := setCall s e u.generation { s.calls e u.generation with main := .over }
      reportCaptureEvidence (setEngine s e { s.engines e with captureAttached := true }) e

/-- What an inspection finds: the statistics are not what they should be, or there are
states to report, some of them only while it captures. -/
inductive Inspection
  | fails
  | finds (states sending : List AudioState)
  deriving DecidableEq

/-- The `catch` of `inspect`. -/
def catchInspect (s : Page) (e : ℕ) (text : String) : Page :=
  reportError (stopCapture s e) e text

/-- Whether the sender has a live track although nothing is captured. -/
def unexpectedCapture (s : Page) (e : ℕ) : Bool :=
  !(s.engines e).captureEnabled && (s.engines e).senderTrack.any (· ∈ s.live)

/-- **`RealtimeAudio.inspect`**, once it has the statistics it asked for in a
generation. -/
def inspected (s : Page) (e g : ℕ) (found : Inspection) : Page :=
  let s := setEngine s e { s.engines e with inspecting := none }
  let engine := s.engines e
  if engine.closed then s
  else if unexpectedCapture s e then
    catchInspect (stopTracks s engine.senderTrack.toList) e "Unexpected local microphone capture."
  else
    match found with
    | .fails => catchInspect s e "Audio format or media-state validation failed."
    | .finds states sending =>
      let s := states.foldl (fun s state => reportAudio s e state) s
      if engine.generation == g && engine.captureEnabled && engine.captureAttached &&
          engine.senderTrack == engine.capture then
        reportCaptureEvidence (sending.foldl (fun s state => reportAudio s e state) s) e
      else s

/-- What can be wrong with the audio that is received. -/
inductive AudioFault
  | undecoded
  | stalled
  | ended
  | playback
  deriving DecidableEq

/-- Whether the engine reports it, and how. -/
def audioFailed (s : Page) (e : ℕ) : AudioFault → Page
  | .undecoded => reportError s e "Camera audio did not decode within thirty seconds."
  | .stalled => reportError s e "Decoded audio stopped progressing for ten seconds."
  | .ended =>
    if (s.engines e).receiveTrack then
      reportError (stopCapture s e) e "The received audio track ended."
    else s
  | .playback =>
    if (s.engines e).receiveTrack then reportError s e "Local audio playback failed." else s

/-! ## The machine -/

/-- **A task of the browser.** -/
inductive Action
  | message (m : Message)
  | deliver (answers : Answers)
  | settled (ok : Bool) (sdp : HString)
  | localCandidate (p : ℕ) (c : Candidate)
  | audioTrack (p : ℕ)
  | otherTrack (p : ℕ)
  | connectionChanged (p : ℕ) (c : Connection)
  | videoFailed (p : ℕ) (fault : VideoFault)
  | videoError (p : ℕ)
  | videoPlaying (p : ℕ)
  | press
  | release
  | visibility (hidden : Bool)
  | statistics (e g : ℕ) (ok : Bool)
  | permission (e g : ℕ) (answer : Permission)
  | deadline (e g : ℕ)
  | parameters (e g : ℕ) (ok : Bool)
  | senderUpdated (e : ℕ) (ok : Bool)
  | senderRejected (e g : ℕ)
  | captureEnded (e : ℕ)
  | inspect (e : ℕ)
  | inspected (e : ℕ) (found : Inspection)
  | audioFailed (e : ℕ) (fault : AudioFault)

/-- **A step of the page.** -/
def step (b : Browser) (s : Page) : Action → Option Page
  | .message m => some (message s m)
  | .deliver answers =>
    match s.running, s.delivery with
    | none, m :: rest => some (receive b answers { s with delivery := rest } m).page
    | _, _ => none
  | .settled ok sdp => s.running.map fun r => (resume s r ok sdp).page
  | .localCandidate p c => some (localCandidate s p c)
  | .audioTrack p => some (audioTrack s p)
  | .otherTrack p =>
    some (if s.peer = some p then fail s "Unexpected non-video media track." else s)
  | .connectionChanged p c => some (connectionChanged s p c)
  | .videoFailed p fault => some (if s.peer = some p then fail s fault.message else s)
  | .videoError p =>
    some (if s.peer = some p then publish s (.error "Video decoding failed.") else s)
  | .videoPlaying p => some (if s.peer = some p then publish s .playing else s)
  | .press => some (press s)
  | .release => some (releaseCapture s)
  | .visibility hidden => some (visibility s hidden)
  | .statistics e g ok =>
    if (s.calls e g).acquisition = .statistics then some (statistics s e g ok) else none
  | .permission e g answer =>
    if (s.calls e g).acquisition = .permission then some (permission s e g answer) else none
  | .deadline e g => if (s.calls e g).main ≠ .over then some (deadline s e g) else none
  | .parameters e g ok =>
    match (s.calls e g).main with
    | .parameters t => some (parameters s e g t ok)
    | _ => none
  | .senderUpdated e ok =>
    match (s.engines e).senderUpdates with
    | u :: rest => some (senderUpdated s e u rest ok)
    | [] => none
  | .senderRejected e g =>
    if (e, g) ∈ s.rejected then
      let s := { s with rejected := s.rejected.erase (e, g) }
      some (if !(s.engines e).closed && (s.engines e).generation == g then
        reportError s e "Local audio sender cleanup failed." else s)
    else none
  | .captureEnded e => if (s.engines e).capture.isSome then some (stopCapture s e) else none
  | .inspect e =>
    if (s.engines e).closed || (s.engines e).inspecting.isSome then none
    else
      some (setEngine s e { s.engines e with inspecting := some (s.engines e).generation })
  | .inspected e found => (s.engines e).inspecting.map fun g => inspected s e g found
  | .audioFailed e fault => if (s.engines e).closed then none else some (audioFailed s e fault)

/-- **The page**, as it is loaded. -/
def machine (b : Browser) : Machine Page Action := ⟨{}, step b⟩

/-! ## What is replaced and what is not -/

@[simp] theorem setEngine_self (s : Page) (e : ℕ) (x : Engine) :
    (setEngine s e x).engines e = x := by
  show Function.update s.engines e x e = x
  rw [Function.update_self]

theorem setEngine_of_ne (s : Page) {e i : ℕ} (x : Engine) (h : i ≠ e) :
    (setEngine s e x).engines i = s.engines i := by
  show Function.update s.engines e x i = s.engines i
  rw [Function.update_of_ne h]

@[simp] theorem stopTracks_engines (s : Page) (ts : List ℕ) :
    (stopTracks s ts).engines = s.engines := rfl

@[simp] theorem setCall_engines (s : Page) (e g : ℕ) (c : Call) :
    (setCall s e g c).engines = s.engines := rfl

@[simp] theorem setCall_self (s : Page) (e g : ℕ) (c : Call) : (setCall s e g c).calls e g = c := by
  show Function.update s.calls e (Function.update (s.calls e) g c) e g = c
  rw [Function.update_self, Function.update_self]

/-- The calls of an engine, when one of them moves. -/
theorem setCall_calls (s : Page) (e g : ℕ) (c : Call) :
    (setCall s e g c).calls e = Function.update (s.calls e) g c := by
  show Function.update s.calls e (Function.update (s.calls e) g c) e = _
  rw [Function.update_self]

theorem setCall_of_ne (s : Page) {e i : ℕ} (g : ℕ) (c : Call) (h : i ≠ e) :
    (setCall s e g c).calls i = s.calls i := by
  show Function.update s.calls e _ i = s.calls i
  rw [Function.update_of_ne h]

/-- An update that is queued is all that changes. -/
theorem replaceTrack_some {s t : Page} {e : ℕ} {u : SenderUpdate}
    (h : replaceTrack s e u = some t) : t = setEngine s e
      { s.engines e with senderUpdates := (s.engines e).senderUpdates ++ [u] } := by
  unfold replaceTrack at h
  split at h
  · cases h
  · exact (Option.some.inj h).symm

/-- A report of a state changes neither the engines nor their calls. -/
@[simp] theorem reportAudio_engines (s : Page) (e : ℕ) (state : AudioState) :
    (reportAudio s e state).engines = s.engines := by
  unfold reportAudio
  split <;> rfl

@[simp] theorem reportAudio_calls (s : Page) (e : ℕ) (state : AudioState) :
    (reportAudio s e state).calls = s.calls := by
  unfold reportAudio
  split <;> rfl

/-! ## What the audio engine leaves alone -/

/-- The reports of the negotiation: the offer and the local candidates. -/
def Report.signals : Report → Bool
  | .offer _ | .ice _ => true
  | _ => false

/-- **The negotiation does not see the change**: it is where it was, and what was told
the host is no part of it. -/
structure Quiet (s t : Page) : Prop where
  negotiation : t.toNegotiation = s.toNegotiation
  peer : t.peer = s.peer
  peers : t.peers = s.peers
  posted : ∃ l, t.posted = s.posted ++ l ∧ ∀ x ∈ l, x.report.signals = false

/-- **Nothing but the audio engines is changed**, and what was told of them. -/
structure Still (s t : Page) : Prop extends Quiet s t where
  token : t.token = s.token
  delivery : t.delivery = s.delivery
  received : t.received = s.received
  audioEngine : t.audioEngine = s.audioEngine
  captureIntent : t.captureIntent = s.captureIntent
  captureSequence : t.captureSequence = s.captureSequence
  hidden : t.hidden = s.hidden
  released : t.released = s.released

variable {s t u : Page}

namespace Quiet

theorem refl (s : Page) : Quiet s s :=
  ⟨rfl, rfl, rfl, [], (List.append_nil _).symm, fun _ hx => by cases hx⟩

theorem trans (h : Quiet s t) (k : Quiet t u) : Quiet s u := by
  obtain ⟨l, hl, hlq⟩ := h.posted
  obtain ⟨m, hm, hmq⟩ := k.posted
  refine ⟨k.negotiation.trans h.negotiation, k.peer.trans h.peer, k.peers.trans h.peers, l ++ m,
    by rw [hm, hl, List.append_assoc], fun x hx => ?_⟩
  rcases List.mem_append.mp hx with hx | hx
  · exact hlq x hx
  · exact hmq x hx

end Quiet

namespace Still

/-- What is neither seen by the negotiation nor by the microphone but in the engines. -/
theorem of_rfl {m : Microphone} {connection : ℕ → Connection} {talkDisabled : Bool}
    (haudioEngine : m.audioEngine = s.audioEngine) (hintent : m.captureIntent = s.captureIntent)
    (hsequence : m.captureSequence = s.captureSequence) (hhidden : m.hidden = s.hidden)
    (hreleased : m.released = s.released) : Still s { s with
      toMicrophone := m
      connection := connection
      talkDisabled := talkDisabled } :=
  ⟨⟨rfl, rfl, rfl, (Quiet.refl s).posted⟩, rfl, rfl, rfl, haudioEngine, hintent, hsequence,
    hhidden, hreleased⟩

theorem refl (s : Page) : Still s s := of_rfl rfl rfl rfl rfl rfl

theorem trans (h : Still s t) (k : Still t u) : Still s u :=
  ⟨h.toQuiet.trans k.toQuiet, k.token.trans h.token, k.delivery.trans h.delivery,
    k.received.trans h.received, k.audioEngine.trans h.audioEngine,
    k.captureIntent.trans h.captureIntent, k.captureSequence.trans h.captureSequence,
    k.hidden.trans h.hidden, k.released.trans h.released⟩

theorem ite {p : Prop} [Decidable p] (h : Still s t) (k : Still s u) :
    Still s (if p then t else u) := by
  split
  · exact h
  · exact k

end Still

theorem still_publish (s : Page) {r : Report} (hr : r.signals = false) :
    Still s (publish s r) := by
  refine ⟨⟨rfl, rfl, rfl, [⟨s.token, s.peer, r⟩], rfl, fun x hx => ?_⟩, rfl, rfl, rfl, rfl, rfl,
    rfl, rfl, rfl⟩
  rw [List.mem_singleton.mp hx]
  exact hr

theorem still_setEngine (s : Page) (e : ℕ) (engine : Engine) : Still s (setEngine s e engine) :=
  .of_rfl rfl rfl rfl rfl rfl

theorem still_setCall (s : Page) (e g : ℕ) (c : Call) : Still s (setCall s e g c) :=
  .of_rfl rfl rfl rfl rfl rfl

theorem still_stopTracks (s : Page) (ts : List ℕ) : Still s (stopTracks s ts) :=
  .of_rfl rfl rfl rfl rfl rfl

theorem still_reportAudio (s : Page) (e : ℕ) (state : AudioState) :
    Still s (reportAudio s e state) :=
  (still_publish s rfl).ite (.refl s)

theorem still_replaceTrack {e : ℕ} {u : SenderUpdate} (h : replaceTrack s e u = some t) :
    Still s t := by
  rw [replaceTrack_some h]
  exact still_setEngine s e _

theorem still_clearSender (s : Page) (e : ℕ) : Still s (clearSender s e) := by
  unfold clearSender
  dsimp only
  cases h : replaceTrack s e ⟨none, (s.engines e).generation⟩ with
  | none => exact .of_rfl rfl rfl rfl rfl rfl
  | some t => exact still_replaceTrack h

theorem still_stopCapture (s : Page) (e : ℕ) : Still s (stopCapture s e) := by
  unfold stopCapture
  dsimp only
  have hstop := (still_setEngine s e (s.engines e).stopped).trans
    (still_stopTracks _ (s.engines e).capture.toList)
  have hclear := hstop.trans
    ((still_clearSender _ e).ite (p := (s.engines e).sender = true) (.refl _))
  exact Still.ite hclear (hclear.trans (still_reportAudio _ e .captureOff))

theorem still_closeEngine (s : Page) (e : ℕ) : Still s (closeEngine s e) :=
  (still_stopCapture s e).trans (still_setEngine _ e _)

theorem still_catchCapture (s : Page) (e g : ℕ) (state : AudioState) :
    Still s (catchCapture s e g state) :=
  (still_setCall s e g _).trans
    (Still.ite ((still_stopCapture _ e).trans (still_reportAudio _ e state)) (.refl _))

theorem still_finish (s : Page) (e g : ℕ) : Still s (finish s e g) :=
  (still_setCall s e g _).trans (still_setEngine _ e _)

theorem still_abandon (s : Page) (e g t : ℕ) : Still s (abandon s e g t) :=
  (still_stopTracks s [t]).trans (still_setCall _ e g _)

theorem still_reportCaptureEvidence (s : Page) (e : ℕ) : Still s (reportCaptureEvidence s e) :=
  (still_publish s rfl).ite (.refl s)

/-- Reports of states, one after the other. -/
theorem still_reports (s : Page) (e : ℕ) (states : List AudioState) :
    Still s (states.foldl (fun s state => reportAudio s e state) s) := by
  induction states generalizing s with
  | nil => exact .refl s
  | cons state states ih => exact (still_reportAudio s e state).trans (ih _)

theorem quiet_withdraw (s : Page) : Quiet s (withdraw s) :=
  ⟨rfl, rfl, rfl, (Quiet.refl s).posted⟩

theorem quiet_releaseCapture (s : Page) : Quiet s (releaseCapture s) := by
  unfold releaseCapture
  dsimp only
  split
  · exact quiet_withdraw s
  · rename_i e he
    have hstop := (quiet_withdraw s).trans (still_stopCapture _ e).toQuiet
    split
    · exact hstop.trans (still_publish _ rfl).toQuiet
    · exact hstop

end Receiver
