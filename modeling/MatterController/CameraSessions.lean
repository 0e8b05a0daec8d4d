import MatterController.CameraHost
import MatterController.Locks
import MatterController.Machine
import Mathlib.Data.List.Range

/-!
# Camera sessions under concurrent operations

The operations of a controller reach its camera host from any thread, and with
any handle – that of a session that was closed and replaced long ago, say. Each
is several steps: it takes the lifetime lease, looks the handle up, waits for
the gate of the node and then for that of the camera, and only then sends,
closes or creates. A command that was started runs on after the lock of the
stack is released, with references to the endpoint and the client.

Two locks keep this safe. What changes the host runs under the camera gate or
under the exclusive lease of `Close`, so a call that has one of them sees the
host it found (`Inv`); and a handle is looked at again after every
wait. The gates of the nodes and the lock of operations only order calls
further. Passing them is a step here, but they exclude nothing.

`Camera` is the host with a log of what was handed out and done: the sessions
created, the identifiers given to endpoints, and the effects on the outside.
`sessions_kept` is about that log. It rests on one thing the native stack does,
which `PeerReported` names: the metadata of a session names the peer the
session was created with.
-/

namespace CameraSessions

/-- **The operations** of the controller that reach the camera host. -/
inductive Op
  | startCamera (nodeId : UInt64)
  | sendCameraCandidates (handle : UInt64)
  | pollCameraSignal (handle : UInt64)
  | closeCamera (handle : UInt64)
  | close
  deriving DecidableEq, Repr

/-- What a command that runs refers to: the endpoint, by its identifier, and the
node it is sent to. -/
structure CommandOperation where
  endpoint : Option UInt16
  node : UInt64
  deriving DecidableEq, Repr

/-- **Where a call stands**: before its lifetime lease; before it looks up its
handle; before the gate of the node and that of the camera; and then, with all
it needs, before its own work, before `Send` and while the command of `Send`
runs, before the metadata of the new session is read and before the session is
closed. `leaving` is the rest of the way out. -/
inductive Pc
  | idle
  | lifetime (op : Op)
  | lookup (op : Op)
  | node (op : Op)
  | gate (op : Op)
  | body (op : Op)
  | send (op : Op) (command : CameraCommand) (handle : UInt64)
  | run (op : Op) (command : CameraCommand) (handle : UInt64) (operation : CommandOperation)
  | metadata (op : Op) (handle : UInt64)
  | closeLocal (op : Op) (handle : UInt64)
  | leaving
  deriving DecidableEq, Repr

/-- A session that was created: its handle, its endpoint and the peer it was
created for. -/
structure Session where
  handle : UInt64
  endpoint : UInt16
  peer : UInt64
  deriving DecidableEq, Repr

/-- **What an operation does outside**, on a handle: it sends a command from an
endpoint to a node, takes a signal from an endpoint, or closes one; with the
handle that was active then. `fault` is the use of a host, an endpoint or a
client that is not there, or not there any more. -/
inductive Effect
  | sent (command : CameraCommand) (handle : UInt64) (endpoint : UInt16) (node active : UInt64)
  | took (handle : UInt64) (endpoint : UInt16) (active : UInt64)
  | closed (handle : UInt64) (endpoint : UInt16) (active : UInt64)
  | fault
  deriving DecidableEq, Repr

/-- **The camera**: its host, if signaling is enabled and the controller has not
shut it down, whether the controller is closed, and the log. -/
structure Camera where
  host : Option CameraHost
  closed : Bool := false
  created : List Session := []
  endpoints : List UInt16 := []
  effects : List Effect := []
  deriving DecidableEq, Repr

/-- What a step is answered: it goes on, it throws, or it skips the remote end;
what the native steps of `Create`, `Send`, a running command and `CloseLocal`
return; and that a running command is dispatched. -/
inductive Answer
  | go
  | throws
  | skip
  | create (a : CreateAnswers)
  | info (i : Except ChipError SessionInfo)
  | dispatch
  | returns (error : ChipError)
  | native (closeSession unregister : ChipError)

/-- Where a step leads: to another place, or out of the operation. -/
inductive Next
  | move (q : Pc)
  | out
  deriving DecidableEq, Repr

namespace Camera

/-- The host, where the controller is open and has one. -/
def usable (c : Camera) : Option CameraHost := if c.closed then none else c.host

/-- One more effect. -/
def log (c : Camera) (e : Effect) : Camera := { c with effects := c.effects ++ [e] }

/-- `CameraPeerNode`, and the first look of `CloseCamera`: an operation on a handle
that is not valid ends here. -/
def lookup (c : Camera) (op : Op) (handle : UInt64) : Next :=
  match c.usable with
  | none => .out
  | some h =>
    match h.getPeerNode handle with
    | .error _ => .out
    | .ok _ => .move (.node op)

/-- `PollCameraSignal`, in one section under the lock of the stack, where there is
a signal. -/
def poll (c : Camera) (handle : UInt64) : Camera :=
  match c.usable with
  | none => c
  | some h =>
    if h.validate handle ≠ .noError then c
    else match h.endpoint with
      | none => c.log .fault
      | some e => c.log (.took handle e h.activeHandle)

/-- `StartCamera`, up to the offer. -/
def create (c : Camera) (nodeId : UInt64) (a : CreateAnswers) : Camera × Next :=
  match c.usable with
  | none => (c, .out)
  | some h =>
    let r := h.create nodeId a
    let endpoints := if r.2.nextEndpoint = h.nextEndpoint then c.endpoints
      else c.endpoints ++ [h.nextEndpoint]
    match r.1 with
    | .error _ => ({ c with host := some r.2, endpoints := endpoints }, .out)
    | .ok handle =>
      ({ c with
          host := some r.2
          endpoints := endpoints
          created := c.created ++ [⟨handle, r.2.requestorEndpoint, nodeId⟩] },
        .move (.send (.startCamera nodeId) .offer handle))

/-- A running command is dispatched: it uses the endpoint and the client it refers
to. -/
def dispatch (c : Camera) (command : CameraCommand) (handle : UInt64) (o : CommandOperation) :
    Camera :=
  match c.host, o.endpoint with
  | some h, some e =>
    if h.endpoint = some e ∧ h.client.isSome then
      c.log (.sent command handle e o.node h.activeHandle)
    else c.log .fault
  | _, _ => c.log .fault

/-- `CloseLocal`. -/
def closeLocal (c : Camera) (handle : UInt64) (closeSession unregister : ChipError) : Camera :=
  match c.host with
  | none => c.log .fault
  | some h =>
    match h.closeLocal handle closeSession unregister with
    | none => c.log .fault
    | some r =>
      match h.endpoint, r.2.endpoint with
      | some e, none => { c with host := some r.2 }.log (.closed handle e h.activeHandle)
      | _, _ => { c with host := some r.2 }

end Camera

/-- Where an operation goes on after `Send` has returned. An offer that failed, also
by being canceled, is ended and its session closed. -/
def Op.afterSend (op : Op) (command : CameraCommand) (handle : UInt64) (error : ChipError) :
    Next :=
  match op with
  | .startCamera _ =>
    if command = .offer then
      if error = .noError then .move (.metadata op handle) else .move (.send op .endSession handle)
    else .move (.closeLocal op handle)
  | .closeCamera _ => .move (.closeLocal op handle)
  | .close => .move (.closeLocal op handle)
  | .sendCameraCandidates _ => .out
  | .pollCameraSignal _ => .out

/-- **A step of an operation** that takes no lock. -/
def perform (c : Camera) (p : Pc) (a : Answer) : Option (Camera × Next) :=
  match p, a with
  | .lifetime _, .throws => some (c, .out)
  | .lookup _, .throws => some (c, .out)
  | .node _, .throws => some (c, .out)
  | .gate _, .throws => some (c, .out)
  | .lookup (.startCamera nodeId), .go => some (c, .move (.node (.startCamera nodeId)))
  | .lookup (.sendCameraCandidates handle), .go =>
    some (c, c.lookup (.sendCameraCandidates handle) handle)
  | .lookup (.pollCameraSignal handle), .go => some (c.poll handle, .out)
  | .lookup (.closeCamera handle), .go => some (c, c.lookup (.closeCamera handle) handle)
  | .node op, .go => some (c, .move (.gate op))
  | .body (.startCamera _), .throws => some (c, .out)
  | .body (.startCamera nodeId), .create a => some (c.create nodeId a)
  | .body (.sendCameraCandidates _), .throws => some (c, .out)
  | .body (.sendCameraCandidates handle), .go =>
    match c.usable with
    | none => some (c, .out)
    | some _ => some (c, .move (.send (.sendCameraCandidates handle) .candidates handle))
  | .body (.closeCamera handle), .go =>
    match c.host with
    | none => some (c.log .fault, .out)
    | some h =>
      if h.validate handle ≠ .noError then some (c, .out)
      else some (c, .move (.send (.closeCamera handle) .endSession handle))
  | .body .close, .go =>
    if c.closed then some (c, .out)
    else match c.host with
      | none => some (c, .move (.closeLocal .close 0))
      | some h =>
        if h.activeHandle ≠ 0 then some (c, .move (.send .close .endSession h.activeHandle))
        else some (c, .move (.closeLocal .close 0))
  -- a controller whose commissioner was not initialized ends nothing
  | .body .close, .skip =>
    if c.closed then some (c, .out) else some (c, .move (.closeLocal .close 0))
  | .send op command handle, .info i =>
    match c.host with
    | none => some (c.log .fault, .out)
    | some h =>
      match h.sendStart command handle i with
      | .returns error => some (c, op.afterSend command handle error)
      | .runs node => some (c, .move (.run op command handle ⟨h.endpoint, node⟩))
  | .run op command handle o, .dispatch =>
    some (c.dispatch command handle o, .move (.run op command handle o))
  | .run op command handle _, .returns error => some (c, op.afterSend command handle error)
  | .metadata _ _, .go => some (c, .out)
  | .metadata op handle, .throws => some (c, .move (.send op .endSession handle))
  -- the host is shut down, which may fail, and then destroyed
  | .closeLocal .close _, .native _ _ => some ({ c with host := none, closed := true }, .out)
  | .closeLocal _ handle, .native closeSession unregister =>
    some (c.closeLocal handle closeSession unregister, .out)
  | .leaving, .go => some (c, .out)
  | _, _ => none

/-! ## The locks -/

/-- The operation that has the lifetime to itself. -/
def Op.exclusive : Op → Bool
  | .close => true
  | _ => false

/-- The places of an operation that has everything it needs: the camera gate, or
the lifetime to itself. -/
def Pc.inside : Pc → Option Op
  | .body op => some op
  | .send op _ _ => some op
  | .run op _ _ _ => some op
  | .metadata op _ => some op
  | .closeLocal op _ => some op
  | _ => none

/-- The calls that hold the lifetime shared. -/
def Pc.shared : Pc → Bool
  | .lookup op => !op.exclusive
  | .node op => !op.exclusive
  | .gate op => !op.exclusive
  | .leaving => true
  | p => p.inside.any fun op => !op.exclusive

/-- The calls that hold the lifetime exclusively. -/
def Pc.exclusive (p : Pc) : Bool := p.inside.any Op.exclusive

/-- The calls that hold the camera gate. -/
def Pc.gated (p : Pc) : Bool := p.inside.any fun op => !op.exclusive

/-- **The state**: the camera, the two locks and the calls. -/
structure State where
  camera : Camera
  lifetime : RwLock ℕ := .free
  gate : Mutex ℕ := {}
  calls : ℕ → Pc := fun _ => .idle

/-- **A step**: an operation is called, or a call takes its next step. -/
inductive Action
  | call (i : ℕ) (op : Op)
  | advance (i : ℕ) (a : Answer)

/-- Moves a call. -/
def State.setCall (s : State) (i : ℕ) (p : Pc) : State :=
  { s with calls := Function.update s.calls i p }

/-- A call gives back what it holds, the gate before the lifetime. -/
def State.leave (s : State) (i : ℕ) : State :=
  if (s.calls i).gated then { s.setCall i .leaving with gate := s.gate.unlock }
  else if (s.calls i).shared then
    { s.setCall i .idle with lifetime := s.lifetime.unlockShared i }
  else if (s.calls i).exclusive then { s.setCall i .idle with lifetime := s.lifetime.unlock }
  else s.setCall i .idle

/-- A call goes where its step leads. -/
def State.follow (s : State) (i : ℕ) : Next → State
  | .move q => s.setCall i q
  | .out => s.leave i

/-- **The next step of a call.** -/
def advance (s : State) (i : ℕ) (a : Answer) : Option State :=
  match s.calls i, a with
  | .lifetime op, .go =>
    if op.exclusive then
      (s.lifetime.lock i).map fun l => { s.setCall i (.body op) with lifetime := l }
    else (s.lifetime.lockShared i).map fun l => { s.setCall i (.lookup op) with lifetime := l }
  | .gate op, .go =>
    if op.exclusive then none
    else (s.gate.lock i).map fun m => { s.setCall i (.body op) with gate := m }
  | p, a => (perform s.camera p a).map fun r => { s with camera := r.1 }.follow i r.2

/-- **The step of the controller.** -/
def step (s : State) : Action → Option State
  | .call i op => if s.calls i = .idle then some (s.setCall i (.lifetime op)) else none
  | .advance i a => advance s i a

/-- **A controller** that has just been created, with or without camera
signaling. -/
def machine (enabled : Bool) : Machine State Action :=
  ⟨{ camera := { host := if enabled then some {} else none } }, step⟩

/-- **The native metadata names the peer**: the metadata read from an endpoint reports
the node that the session of this endpoint was created with. -/
def PeerReported (s : State) : Action → Prop
  | .advance i (.info (.ok info)) => ∀ op command handle h,
      s.calls i = .send op command handle → s.camera.host = some h →
      ∀ r ∈ s.camera.created, h.endpoint = some r.endpoint → info.peerNodeID = r.peer
  | _ => True

/-! ## The invariant of the camera -/

/-- **An effect is that of its session**: the handle is the active one, and the
endpoint – and the node a command goes to – are those of the session created with
that handle. -/
def Effect.Of (created : List Session) : Effect → Prop
  | .sent _ handle endpoint node active => active = handle ∧ ⟨handle, endpoint, node⟩ ∈ created
  | .took handle endpoint active => active = handle ∧ ∃ peer, ⟨handle, endpoint, peer⟩ ∈ created
  | .closed handle endpoint active =>
    active = handle ∧ ∃ peer, ⟨handle, endpoint, peer⟩ ∈ created
  | .fault => False

theorem Effect.Of.mono {created created' : List Session} (h : ∀ r ∈ created, r ∈ created')
    {e : Effect} (he : e.Of created) : e.Of created' := by
  cases e with
  | sent command handle endpoint node active => exact ⟨he.1, h _ he.2⟩
  | took handle endpoint active =>
    obtain ⟨ha, peer, hp⟩ := he
    exact ⟨ha, peer, h _ hp⟩
  | closed handle endpoint active =>
    obtain ⟨ha, peer, hp⟩ := he
    exact ⟨ha, peer, h _ hp⟩
  | fault => exact he

namespace Camera

/-- Whether a session was closed by an operation on its handle. -/
def Closed (c : Camera) (r : Session) : Prop :=
  ∃ endpoint active, .closed r.handle endpoint active ∈ c.effects

/-- **What the host remembers of the log**: its counters stand one past what they
have handed out, and an active session is one that was created. -/
structure HostInv (c : Camera) (h : CameraHost) : Prop where
  nextEndpoint : h.nextEndpoint.toNat = c.endpoints.length + 1
  nextHandle : h.nextHandle.toNat = c.created.length + 1
  idle : h.activeHandle = 0 → h.endpoint = none
  active : h.activeHandle ≠ 0 →
    ∃ e, h.endpoint = some e ∧ ⟨h.activeHandle, e, h.peerNode⟩ ∈ c.created

/-- **The invariant of the camera**: handles and identifiers were handed out in
order from one, each session has an identifier of its own, the host remembers
it, every effect is that of its session, and a session that is not active was
closed. -/
structure Inv (c : Camera) : Prop where
  endpoints : c.endpoints.map UInt16.toNat = List.range' 1 c.endpoints.length
  bound : c.endpoints.length ≤ 65534
  handles : c.created.map (fun r => r.handle.toNat) = List.range' 1 c.created.length
  own : (c.created.map Session.endpoint).Sublist c.endpoints
  host : ∀ h, c.host = some h → c.HostInv h
  effects : ∀ e ∈ c.effects, e.Of c.created
  closed : ∀ r ∈ c.created, ∀ h, c.host = some h → r.handle = h.activeHandle ∨ c.Closed r

theorem inv_start (enabled : Bool) : Inv (machine enabled).start.camera where
  endpoints := rfl
  bound := Nat.zero_le _
  handles := rfl
  own := List.Sublist.refl []
  host := by
    intro h hh
    cases enabled with
    | false => cases hh
    | true =>
      obtain rfl := Option.some.inj hh
      exact ⟨rfl, rfl, fun _ => rfl, fun hne => absurd rfl hne⟩
  effects := fun e he => by cases he
  closed := fun r hr => by cases hr

/-- A handle that was handed out is not the next one. -/
theorem Inv.handle_lt {c : Camera} (hc : c.Inv) {r : Session} (hr : r ∈ c.created) :
    1 ≤ r.handle.toNat ∧ r.handle.toNat < c.created.length + 1 := by
  have hmem : r.handle.toNat ∈ List.range' 1 c.created.length := by
    rw [← hc.handles]
    exact List.mem_map_of_mem hr
  rw [List.mem_range'_1] at hmem
  omega

/-- **An effect of a created session** leaves the invariant. -/
theorem Inv.log {c : Camera} (hc : c.Inv) {e : Effect} (he : e.Of c.created) :
    (c.log e).Inv where
  endpoints := hc.endpoints
  bound := hc.bound
  handles := hc.handles
  own := hc.own
  host := fun h hh => ⟨(hc.host h hh).nextEndpoint, (hc.host h hh).nextHandle,
    (hc.host h hh).idle, (hc.host h hh).active⟩
  effects := by
    intro e' he'
    rcases List.mem_append.mp he' with hmem | hmem
    · exact hc.effects e' hmem
    · rw [List.mem_singleton.mp hmem]
      exact he
  closed := by
    intro r hr h hh
    rcases hc.closed r hr h hh with hactive | ⟨endpoint, active, hmem⟩
    · exact Or.inl hactive
    · exact Or.inr ⟨endpoint, active, List.mem_append_left _ hmem⟩

/-- The session of a valid handle. -/
theorem Inv.session {c : Camera} (hc : c.Inv) {h : CameraHost} (hh : c.host = some h)
    {handle : UInt64} (hv : h.validate handle = .noError) :
    handle ≠ 0 ∧ h.activeHandle = handle ∧ h.client.isSome ∧
      ∃ e, h.endpoint = some e ∧ ⟨handle, e, h.peerNode⟩ ∈ c.created := by
  obtain ⟨hne, hactive, -, hclient⟩ := CameraHost.validate_iff.mp hv
  obtain ⟨e, he, hmem⟩ := (hc.host h hh).active (by rw [← hactive]; exact hne)
  exact ⟨hne, hactive.symm, hclient, e, he, by rw [hactive]; exact hmem⟩

/-- **A new host and more endpoints** leave the invariant, where the host remembers
them and its session is that of the old one. -/
theorem Inv.of_endpoint {c : Camera} (hc : c.Inv) {h h' : CameraHost} (hh : c.host = some h)
    (hactive : h'.activeHandle = h.activeHandle) {es : List UInt16}
    (hes : es.map UInt16.toNat = List.range' 1 es.length) (hbound : es.length ≤ 65534)
    (hsub : c.endpoints.Sublist es) (hhost : HostInv { c with host := some h', endpoints := es } h') :
    Inv { c with host := some h', endpoints := es } where
  endpoints := hes
  bound := hbound
  handles := hc.handles
  own := hc.own.trans hsub
  host := by
    intro k hk
    obtain rfl := Option.some.inj hk
    exact hhost
  effects := hc.effects
  closed := by
    intro r hr k hk
    obtain rfl := Option.some.inj hk
    rw [hactive]
    exact hc.closed r hr h hh

/-- One more identifier, the next one, is handed out. -/
theorem Inv.endpoints_concat {c : Camera} (hc : c.Inv) {h : CameraHost}
    (hh : c.host = some h) :
    (c.endpoints ++ [h.nextEndpoint]).map UInt16.toNat
      = List.range' 1 (c.endpoints ++ [h.nextEndpoint]).length := by
  rw [List.map_append, hc.endpoints, List.length_append, List.length_singleton,
    List.range'_1_concat, List.map_cons, (hc.host h hh).nextEndpoint, Nat.add_comm 1]
  rfl

/-- It is within bounds, where the counter has not reached its end. -/
theorem Inv.bound_concat {c : Camera} (hc : c.Inv) {h : CameraHost} (hh : c.host = some h)
    (hn : h.nextEndpoint ≠ invalidEndpointId) :
    (c.endpoints ++ [h.nextEndpoint]).length ≤ 65534 := by
  have hlt : h.nextEndpoint.toNat < 65536 := h.nextEndpoint.toNat_lt
  have hne : h.nextEndpoint.toNat ≠ 65535 := fun heq => hn (UInt16.toNat_inj.mp heq)
  have hnext := (hc.host h hh).nextEndpoint
  rw [List.length_append, List.length_singleton]
  omega

/-- **The counters do not wrap**: the next handle has a successor, because there
are no more sessions than identifiers. -/
theorem Inv.toNat_succ {c : Camera} (hc : c.Inv) {h : CameraHost} (hh : c.host = some h)
    (hn : h.nextEndpoint ≠ invalidEndpointId) :
    (h.nextEndpoint + 1).toNat = h.nextEndpoint.toNat + 1 ∧
      (h.nextHandle + 1).toNat = h.nextHandle.toNat + 1 := by
  have hlt : h.nextEndpoint.toNat < 65536 := h.nextEndpoint.toNat_lt
  have hne : h.nextEndpoint.toNat ≠ 65535 := fun heq => hn (UInt16.toNat_inj.mp heq)
  have hlen : c.created.length ≤ c.endpoints.length := by
    have := hc.own.length_le
    rwa [List.length_map] at this
  have hendpoint := (hc.host h hh).nextEndpoint
  have hhandle := (hc.host h hh).nextHandle
  rw [UInt16.toNat_add, UInt64.toNat_add]
  simp only [UInt16.toNat_one, UInt64.toNat_one]
  omega

theorem host_of_usable {c : Camera} {h : CameraHost} (hu : c.usable = some h) :
    c.host = some h := by
  unfold usable at hu
  split at hu
  · cases hu
  · exact hu

/-- **Creating a session keeps the invariant**, and where it goes on, the new
session is active under the handle it goes on with. -/
theorem Inv.create {c : Camera} (hc : c.Inv) (nodeId : UInt64) (a : CreateAnswers) :
    (c.create nodeId a).1.Inv ∧ (∀ r ∈ c.created, r ∈ (c.create nodeId a).1.created) ∧
      ((c.create nodeId a).1.host = c.host ∨ (c.create nodeId a).1.host.isSome) ∧
      ((c.create nodeId a).2 = .out ∨ ∃ handle h, handle ≠ 0 ∧
        (c.create nodeId a).2 = .move (.send (.startCamera nodeId) .offer handle) ∧
        (c.create nodeId a).1.host = some h ∧ h.activeHandle = handle) := by
  unfold Camera.create
  cases hu : c.usable with
  | none => exact ⟨hc, fun r hr => hr, Or.inl rfl, Or.inl rfl⟩
  | some h =>
    have hh := host_of_usable hu
    dsimp only
    rcases h.create_spec nodeId a with ⟨e, -, hr⟩ | ⟨hidle, hn, hne, ⟨e, native, -, hr⟩ | hr⟩
    · -- nothing was handed out
      rw [hr]
      dsimp only
      rw [if_pos rfl]
      have hsame : { c with host := some h } = c := by rw [← hh]
      rw [hsame]
      exact ⟨hc, fun r hr => hr, Or.inr rfl, Or.inl rfl⟩
    · -- an identifier was
      obtain ⟨hendpoint, -⟩ := hc.toNat_succ hh hn
      rw [hr]
      dsimp only
      rw [if_neg (fun heq => by rw [heq] at hendpoint; omega)]
      refine ⟨?_, fun r hr => hr, Or.inr rfl, Or.inl rfl⟩
      refine hc.of_endpoint hh ?_ (hc.endpoints_concat hh) (hc.bound_concat hh hn)
        (List.sublist_append_left _ _)
        ⟨?_, (hc.host h hh).nextHandle, fun _ => ?_, fun hactive => absurd hidle hactive⟩
      · rfl
      · show (h.nextEndpoint + 1).toNat = (c.endpoints ++ [h.nextEndpoint]).length + 1
        rw [hendpoint, (hc.host h hh).nextEndpoint, List.length_append, List.length_singleton]
      · rfl
    · -- an identifier and a handle were
      obtain ⟨hendpoint, hhandle⟩ := hc.toNat_succ hh hn
      have hlast := (hc.host h hh).nextHandle
      rw [hr]
      dsimp only
      rw [if_neg (fun heq => by rw [heq] at hendpoint; omega)]
      refine ⟨⟨hc.endpoints_concat hh, hc.bound_concat hh hn, ?_, ?_, ?_, ?_, ?_⟩,
        fun r hr => List.mem_append_left _ hr, Or.inr rfl, Or.inr ⟨_, _, hne, rfl, rfl, rfl⟩⟩
      · rw [List.map_append, hc.handles, List.length_append, List.length_singleton,
          List.range'_1_concat, List.map_cons, hlast, Nat.add_comm 1]
        rfl
      · rw [List.map_append]
        exact hc.own.append (List.Sublist.refl _)
      · intro k hk
        obtain rfl := Option.some.inj hk
        refine ⟨?_, ?_, fun hzero => absurd hzero hne, fun _ => ⟨h.nextEndpoint, rfl, ?_⟩⟩
        · show (h.nextEndpoint + 1).toNat = (c.endpoints ++ [h.nextEndpoint]).length + 1
          rw [hendpoint, (hc.host h hh).nextEndpoint, List.length_append, List.length_singleton]
        · show (h.nextHandle + 1).toNat = (c.created ++ [_]).length + 1
          rw [hhandle, hlast, List.length_append, List.length_singleton]
        · exact List.mem_append_right _ (List.mem_singleton_self _)
      · exact fun e he => (hc.effects e he).mono (fun r hr => List.mem_append_left _ hr)
      · intro r hr k hk
        obtain rfl := Option.some.inj hk
        rcases List.mem_append.mp hr with hmem | hmem
        · rcases hc.closed r hmem h hh with hactive | hclosed
          · -- there was no active session, and handles start at one
            have hpos := (hc.handle_lt hmem).1
            rw [hactive, hidle] at hpos
            cases hpos
          · exact Or.inr hclosed
        · rw [List.mem_singleton.mp hmem]
          exact Or.inl rfl

/-- **Closing the active session keeps the invariant.** -/
theorem Inv.closeLocal {c : Camera} (hc : c.Inv) {h : CameraHost} (hh : c.host = some h)
    (hne : h.activeHandle ≠ 0) (closeSession unregister : ChipError) :
    (c.closeLocal h.activeHandle closeSession unregister).Inv ∧
      (c.closeLocal h.activeHandle closeSession unregister).created = c.created ∧
      (c.closeLocal h.activeHandle closeSession unregister).host.isSome := by
  obtain ⟨e, he, hmem⟩ := (hc.host h hh).active hne
  have hsome : h.endpoint.isSome := by rw [he]; rfl
  unfold Camera.closeLocal
  rw [hh]
  dsimp only
  rcases CameraHost.closeLocal_active hsome closeSession unregister with
    ⟨-, -, hr⟩ | ⟨-, error, -, hr⟩
  · rw [hr, he]
    refine ⟨⟨hc.endpoints, hc.bound, hc.handles, hc.own, ?_, ?_, ?_⟩, rfl, rfl⟩
    · intro k hk
      obtain rfl := Option.some.inj hk
      exact ⟨(hc.host h hh).nextEndpoint, (hc.host h hh).nextHandle, fun _ => rfl,
        fun hactive => absurd rfl hactive⟩
    · intro e' he'
      rcases List.mem_append.mp he' with hold | hnew
      · exact hc.effects e' hold
      · rw [List.mem_singleton.mp hnew]
        exact ⟨rfl, _, hmem⟩
    · intro r hr k hk
      rcases hc.closed r hr h hh with hactive | ⟨endpoint, active, hold⟩
      · refine Or.inr ⟨e, h.activeHandle, List.mem_append_right _ ?_⟩
        rw [hactive]
        exact List.mem_singleton_self _
      · exact Or.inr ⟨endpoint, active, List.mem_append_left _ hold⟩
  · rw [hr, he]
    refine ⟨⟨hc.endpoints, hc.bound, hc.handles, hc.own, ?_, hc.effects, ?_⟩, rfl, rfl⟩
    · intro k hk
      obtain rfl := Option.some.inj hk
      exact ⟨(hc.host h hh).nextEndpoint, (hc.host h hh).nextHandle,
        fun hzero => absurd hzero hne, fun _ => ⟨e, rfl, hmem⟩⟩
    · intro r hr k hk
      obtain rfl := Option.some.inj hk
      exact hc.closed r hr h hh

/-- **A poll keeps the invariant**: it takes only from the session of its handle. -/
theorem Inv.poll {c : Camera} (hc : c.Inv) (handle : UInt64) :
    (c.poll handle).Inv ∧ (c.poll handle).created = c.created ∧
      (c.poll handle).host = c.host := by
  unfold Camera.poll
  cases hu : c.usable with
  | none => exact ⟨hc, rfl, rfl⟩
  | some h =>
    have hh := host_of_usable hu
    dsimp only
    by_cases hv : h.validate handle = .noError
    · rw [if_neg (not_not_intro hv)]
      obtain ⟨-, hactive, -, e, he, hmem⟩ := hc.session hh hv
      rw [he]
      exact ⟨hc.log ⟨hactive, _, hmem⟩, rfl, rfl⟩
    · rw [if_pos hv]
      exact ⟨hc, rfl, rfl⟩

end Camera

/-! ## What a call knows -/

/-- Whether an operation acts on the session it created or found, rather than on
one it was given the handle of. -/
def Op.own : Op → Bool
  | .startCamera _ => true
  | .closeCamera _ => true
  | .close => true
  | _ => false

/-- The session of a handle is active. -/
def Camera.Active (c : Camera) (handle : UInt64) : Prop :=
  handle ≠ 0 ∧ ∃ h, c.host = some h ∧ h.activeHandle = handle

/-- **What a call knows of the camera** at its place: a call that closes has seen a
host; a call inside sends for its own session, which is active; and a command
that runs refers to the endpoint and the client of the active session, and goes
to the node that session was created for. -/
def Pc.Ok (c : Camera) : Pc → Prop
  | .node (.closeCamera _) => c.host.isSome
  | .gate (.closeCamera _) => c.host.isSome
  | .body (.closeCamera _) => c.host.isSome
  | .send op _ handle => c.host.isSome ∧ (op.own = true → c.Active handle)
  | .run _ _ handle o => handle ≠ 0 ∧ ∃ h e, c.host = some h ∧ h.activeHandle = handle ∧
      h.endpoint = some e ∧ h.client.isSome ∧ o.endpoint = some e ∧
      ⟨handle, e, o.node⟩ ∈ c.created
  | .metadata _ handle => c.Active handle
  | .closeLocal op handle => op.exclusive = false → c.Active handle
  | _ => True

/-- **Outside, a call knows only that there is a host**, so what others do to the
camera does not matter to it while there is one. -/
theorem Pc.Ok.of_outside {c c' : Camera} {p : Pc} (hp : p.inside = none)
    (hhost : c.host.isSome → c'.host.isSome) (h : p.Ok c) : p.Ok c' := by
  cases p with
  | node op => cases op <;> first | exact hhost h | trivial
  | gate op => cases op <;> first | exact hhost h | trivial
  | idle => trivial
  | lifetime op => trivial
  | lookup op => trivial
  | leaving => trivial
  | body op => cases hp
  | send op command handle => cases hp
  | run op command handle o => cases hp
  | metadata op handle => cases hp
  | closeLocal op handle => cases hp

/-- A call knows what it knew where the host stays. -/
theorem Pc.Ok.of_host {c c' : Camera} {p : Pc} (hhost : c'.host = c.host)
    (hcreated : ∀ r ∈ c.created, r ∈ c'.created) (h : p.Ok c) : p.Ok c' := by
  have hactive : ∀ handle, c.Active handle → c'.Active handle := by
    rintro handle ⟨hne, k, hk, ha⟩
    exact ⟨hne, k, hhost.trans hk, ha⟩
  cases p with
  | send op command handle =>
    exact ⟨by rw [hhost]; exact h.1, fun hown => hactive handle (h.2 hown)⟩
  | run op command handle o =>
    obtain ⟨hne, k, e, hk, ha, he, hclient, ho, hmem⟩ := h
    exact ⟨hne, k, e, hhost.trans hk, ha, he, hclient, ho, hcreated _ hmem⟩
  | metadata op handle => exact hactive handle h
  | closeLocal op handle => exact fun hx => hactive handle (h hx)
  | body op =>
    cases op with
    | closeCamera handle => exact (congrArg Option.isSome hhost).trans h
    | _ => trivial
  | node op => exact h.of_outside rfl (fun hs => by rw [hhost]; exact hs)
  | gate op => exact h.of_outside rfl (fun hs => by rw [hhost]; exact hs)
  | _ => trivial

/-- `Close` needs to know nothing before it shuts the host down. -/
theorem Pc.ok_closeLocal_close (c : Camera) (handle : UInt64) :
    (Pc.closeLocal .close handle).Ok c := by
  intro hx
  cases hx

/-- A call that has passed the gate of its node knows what it knew. -/
theorem Pc.Ok.gate {c : Camera} {op : Op} (h : (Pc.node op).Ok c) : (Pc.gate op).Ok c := by
  cases op <;> exact h

/-- So does one that has passed the gate of the camera. -/
theorem Pc.Ok.body {c : Camera} {op : Op} (h : (Pc.gate op).Ok c) : (Pc.body op).Ok c := by
  cases op <;> exact h

/-- **Two places hold the same**. -/
structure Pc.Same (p q : Pc) : Prop where
  shared : q.shared = p.shared
  exclusive : q.exclusive = p.exclusive
  gated : q.gated = p.gated

/-- Two places inside one operation hold the same. -/
theorem Pc.Same.of_inside {p q : Pc} {op : Op} (hp : p.inside = some op)
    (hq : q.inside = some op) : p.Same q := by
  have hshared : ∀ r : Pc, r.inside = some op → r.shared = !op.exclusive := by
    intro r hr
    cases r <;> cases hr <;> rfl
  refine ⟨by rw [hshared p hp, hshared q hq], ?_, ?_⟩
  · rw [Pc.exclusive, Pc.exclusive, hp, hq]
  · rw [Pc.gated, Pc.gated, hp, hq]

/-- **A sound step**: it keeps the invariant of the camera and all that was created;
it leaves the host, unless it is taken inside – and there takes the host away only
with the lifetime to itself; and where it leads holds what the call held, and
what a call knows there is so. -/
structure Sound (c : Camera) (p : Pc) (c' : Camera) (n : Next) : Prop where
  inv : c'.Inv
  created : ∀ r ∈ c.created, r ∈ c'.created
  host : c'.host = c.host ∨ p.exclusive = true ∨ (p.gated = true ∧ c'.host.isSome)
  next : ∀ q, n = .move q → q.Ok c' ∧ p.Same q

/-- A step that leaves the camera is sound where it leads to a place it may. -/
theorem Sound.same {c : Camera} {p : Pc} {n : Next} (hc : c.Inv)
    (hnext : ∀ q, n = .move q → q.Ok c ∧ p.Same q) : Sound c p c n :=
  ⟨hc, fun _ hr => hr, Or.inl rfl, hnext⟩

/-- A step out of the operation that leaves the camera is sound. -/
theorem Sound.out {c : Camera} {p : Pc} (hc : c.Inv) : Sound c p c .out :=
  .same hc (fun q hq => by cases hq)

/-- **After `Send` has returned** the operation stays inside, and closes or ends only
its own session. -/
theorem Op.afterSend_spec {c : Camera} {op : Op} {p q : Pc} {command : CameraCommand}
    {handle : UInt64} {error : ChipError} (hp : p.inside = some op)
    (hhost : c.host.isSome) (hactive : op.own = true → c.Active handle)
    (hq : op.afterSend command handle error = .move q) : q.Ok c ∧ p.Same q := by
  cases op with
  | startCamera nodeId =>
    unfold Op.afterSend at hq
    dsimp only at hq
    split at hq
    · split at hq <;> cases hq
      · exact ⟨hactive rfl, .of_inside hp rfl⟩
      · exact ⟨⟨hhost, hactive⟩, .of_inside hp rfl⟩
    · cases hq
      exact ⟨fun _ => hactive rfl, .of_inside hp rfl⟩
  | closeCamera h =>
    cases hq
    exact ⟨fun _ => hactive rfl, .of_inside hp rfl⟩
  | close =>
    cases hq
    exact ⟨Pc.ok_closeLocal_close c handle, .of_inside hp rfl⟩
  | sendCameraCandidates h => cases hq
  | pollCameraSignal h => cases hq

/-- Looking a handle up leads to the gate of its node, where there is a host. -/
theorem Camera.lookup_spec {c : Camera} {op : Op} {handle : UInt64} {q : Pc}
    (hq : c.lookup op handle = .move q) : c.host.isSome ∧ q = .node op := by
  unfold Camera.lookup at hq
  cases hu : c.usable with
  | none =>
    rw [hu] at hq
    cases hq
  | some h =>
    rw [hu] at hq
    dsimp only at hq
    split at hq
    · cases hq
    · cases hq
      exact ⟨by rw [Camera.host_of_usable hu]; rfl, rfl⟩

/-- **A dispatched command is its session's**: it uses the endpoint and the client it
refers to, which are there, and goes to the node of the session. -/
theorem Camera.Inv.dispatch {c : Camera} (hc : c.Inv) {op : Op} {command : CameraCommand}
    {handle : UInt64} {o : CommandOperation} (hok : (Pc.run op command handle o).Ok c) :
    (c.dispatch command handle o).Inv ∧ (c.dispatch command handle o).created = c.created ∧
      (c.dispatch command handle o).host = c.host := by
  obtain ⟨-, h, e, hh, hactive, he, hclient, ho, hmem⟩ := hok
  have hlog : c.dispatch command handle o
      = c.log (.sent command handle e o.node h.activeHandle) := by
    unfold Camera.dispatch
    rw [hh, ho]
    exact if_pos ⟨he, hclient⟩
  rw [hlog]
  exact ⟨hc.log ⟨hactive, hmem⟩, rfl, rfl⟩

/-- The lookup of a handle, or of the host. -/
theorem lookup_sound {c c' : Camera} {op : Op} {a : Answer} {n : Next} (hc : c.Inv)
    (h : perform c (.lookup op) a = some (c', n)) : Sound c (.lookup op) c' n := by
  cases a with
  | throws =>
    cases op <;> cases h <;> exact .out hc
  | go =>
    cases op with
    | startCamera nodeId =>
      cases h
      exact .same hc (fun q hq => by cases hq; exact ⟨trivial, rfl, rfl, rfl⟩)
    | sendCameraCandidates handle =>
      cases h
      refine .same hc (fun q hq => ?_)
      obtain ⟨-, rfl⟩ := Camera.lookup_spec hq
      exact ⟨trivial, rfl, rfl, rfl⟩
    | pollCameraSignal handle =>
      cases h
      obtain ⟨hinv, hcreated, hhost⟩ := hc.poll handle
      exact ⟨hinv, fun r hr => by rw [hcreated]; exact hr, Or.inl hhost, fun q hq => by cases hq⟩
    | closeCamera handle =>
      cases h
      refine .same hc (fun q hq => ?_)
      obtain ⟨hhost, rfl⟩ := Camera.lookup_spec hq
      exact ⟨hhost, rfl, rfl, rfl⟩
    | close => cases h
  | _ => cases op <;> cases h

/-- **`StartCamera` creates a session**, which is its own. -/
theorem startCamera_sound {c c' : Camera} {nodeId : UInt64} {a : Answer} {n : Next} (hc : c.Inv)
    (h : perform c (.body (.startCamera nodeId)) a = some (c', n)) :
    Sound c (.body (.startCamera nodeId)) c' n := by
  cases a with
  | throws =>
    cases h
    exact .out hc
  | create a =>
    obtain ⟨hinv, hcreated, hhost, hnext⟩ := hc.create nodeId a
    obtain heq := Option.some.inj h
    rw [heq] at hinv hcreated hhost hnext
    refine ⟨hinv, hcreated, ?_, fun q hq => ?_⟩
    · exact hhost.imp_right fun hs => Or.inr ⟨rfl, hs⟩
    · rcases hnext with hout | ⟨handle, k, hne, hto, hk, hactive⟩
      · rw [hq] at hout
        cases hout
      · rw [hq] at hto
        cases hto
        exact ⟨⟨by rw [hk]; rfl, fun _ => ⟨hne, k, hk, hactive⟩⟩, .of_inside rfl rfl⟩
  | _ => cases h

/-- `SendCameraCandidates` sends for whatever session there is. -/
theorem sendCameraCandidates_sound {c c' : Camera} {handle : UInt64} {a : Answer} {n : Next}
    (hc : c.Inv) (h : perform c (.body (.sendCameraCandidates handle)) a = some (c', n)) :
    Sound c (.body (.sendCameraCandidates handle)) c' n := by
  cases a with
  | throws =>
    cases h
    exact .out hc
  | go =>
    unfold perform at h
    dsimp only at h
    cases hu : c.usable with
    | none =>
      rw [hu] at h
      cases h
      exact .out hc
    | some k =>
      rw [hu] at h
      cases h
      refine .same hc (fun q hq => ?_)
      cases hq
      exact ⟨⟨by rw [Camera.host_of_usable hu]; rfl, fun hown => (nomatch hown)⟩,
        .of_inside rfl rfl⟩
  | _ => cases h

/-- `CloseCamera` goes on with the session it validated. -/
theorem closeCamera_sound {c c' : Camera} {handle : UInt64} {a : Answer} {n : Next} (hc : c.Inv)
    (hok : (Pc.body (.closeCamera handle)).Ok c)
    (h : perform c (.body (.closeCamera handle)) a = some (c', n)) :
    Sound c (.body (.closeCamera handle)) c' n := by
  cases a with
  | go =>
    obtain ⟨k, hk⟩ := Option.isSome_iff_exists.mp hok
    unfold perform at h
    dsimp only at h
    rw [hk] at h
    dsimp only at h
    split at h <;> cases h
    · exact .out hc
    · rename_i hv
      obtain ⟨hne, hactive, -⟩ := hc.session hk (Decidable.not_not.mp hv)
      refine .same hc (fun q hq => ?_)
      cases hq
      exact ⟨⟨by rw [hk]; rfl, fun _ => ⟨hne, k, hk, hactive⟩⟩, .of_inside rfl rfl⟩
  | _ => cases h

/-- `Close` ends the session there is, and shuts the host down. -/
theorem close_sound {c c' : Camera} {a : Answer} {n : Next} (hc : c.Inv)
    (h : perform c (.body .close) a = some (c', n)) : Sound c (.body .close) c' n := by
  have hlocal : Sound c (.body .close) c (.move (.closeLocal .close 0)) := by
    refine .same hc (fun q hq => ?_)
    cases hq
    exact ⟨Pc.ok_closeLocal_close c 0, .of_inside rfl rfl⟩
  cases a with
  | go =>
    unfold perform at h
    dsimp only at h
    split at h
    · cases h
      exact .out hc
    · cases hk : c.host with
      | none =>
        rw [hk] at h
        cases h
        exact hlocal
      | some k =>
        rw [hk] at h
        dsimp only at h
        split at h <;> cases h
        · rename_i hne
          refine .same hc (fun q hq => ?_)
          cases hq
          exact ⟨⟨by rw [hk]; rfl, fun _ => ⟨hne, k, hk, rfl⟩⟩, .of_inside rfl rfl⟩
        · exact hlocal
  | skip =>
    unfold perform at h
    dsimp only at h
    split at h <;> cases h
    · exact .out hc
    · exact hlocal
  | _ => cases h

/-- **A command is sent to the peer** of the session it is for. -/
theorem send_sound {c c' : Camera} {op : Op} {command : CameraCommand} {handle : UInt64}
    {a : Answer} {n : Next} (hc : c.Inv) (hok : (Pc.send op command handle).Ok c)
    (hinfo : ∀ i h, a = .info (.ok i) → c.host = some h →
      ∀ r ∈ c.created, h.endpoint = some r.endpoint → i.peerNodeID = r.peer)
    (h : perform c (.send op command handle) a = some (c', n)) :
    Sound c (.send op command handle) c' n := by
  cases a with
  | info i =>
    obtain ⟨k, hk⟩ := Option.isSome_iff_exists.mp hok.1
    unfold perform at h
    dsimp only at h
    rw [hk] at h
    dsimp only at h
    split at h <;> cases h
    · exact .same hc (fun q hq => Op.afterSend_spec rfl hok.1 hok.2 hq)
    · rename_i node hs
      obtain ⟨hv, i, rfl, hnode⟩ := CameraHost.sendStart_runs hs
      obtain ⟨hne, hactive, hclient, e, he, hmem⟩ := hc.session hk hv
      refine .same hc (fun q hq => ?_)
      cases hq
      refine ⟨⟨hne, k, e, hk, hactive, he, hclient, he, ?_⟩, .of_inside rfl rfl⟩
      rw [← hnode, hinfo i k rfl hk _ hmem he]
      exact hmem
  | _ => cases h

/-- **The local close** is of the session that is active, or takes the host away. -/
theorem closeLocal_sound {c c' : Camera} {op : Op} {handle : UInt64} {a : Answer} {n : Next}
    (hc : c.Inv) (hok : (Pc.closeLocal op handle).Ok c)
    (h : perform c (.closeLocal op handle) a = some (c', n)) :
    Sound c (.closeLocal op handle) c' n := by
  cases a with
  | native closeSession unregister =>
    cases hop : op.exclusive with
    | true =>
      cases op with
      | close =>
        cases h
        refine ⟨⟨hc.endpoints, hc.bound, hc.handles, hc.own, fun k hk => (nomatch hk), hc.effects,
          fun r _ k hk => (nomatch hk)⟩, fun r hr => hr, Or.inr (Or.inl rfl),
          fun q hq => by cases hq⟩
      | _ => cases hop
    | false =>
      obtain ⟨hne, k, hk, rfl⟩ := hok hop
      obtain ⟨hinv, hcreated, hhost⟩ := hc.closeLocal hk hne closeSession unregister
      have hrun : perform c (.closeLocal op k.activeHandle) (.native closeSession unregister) =
          some (c.closeLocal k.activeHandle closeSession unregister, .out) := by
        cases op <;> first | rfl | cases hop
      rw [hrun] at h
      cases h
      refine ⟨hinv, fun r hr => by rw [hcreated]; exact hr, Or.inr (Or.inr ⟨?_, hhost⟩),
        fun q hq => by cases hq⟩
      show (!op.exclusive) = true
      rw [hop]
      rfl
  | _ => cases op <;> cases h

/-- **Every step is sound**, where the native metadata names the peer. -/
theorem perform_sound {c c' : Camera} {p : Pc} {a : Answer} {n : Next} (hc : c.Inv)
    (hok : p.Ok c)
    (hinfo : ∀ op command handle i h, p = .send op command handle → a = .info (.ok i) →
      c.host = some h → ∀ r ∈ c.created, h.endpoint = some r.endpoint →
      i.peerNodeID = r.peer)
    (h : perform c p a = some (c', n)) : Sound c p c' n := by
  cases p with
  | idle => cases h
  | lifetime op | gate op | leaving =>
    cases a <;> cases h
    exact .out hc
  | lookup op => exact lookup_sound hc h
  | node op =>
    cases a with
    | throws =>
      cases h
      exact .out hc
    | go =>
      cases h
      refine .same hc (fun q hq => ?_)
      cases hq
      exact ⟨hok.gate, rfl, rfl, rfl⟩
    | _ => cases h
  | body op =>
    cases op with
    | startCamera nodeId => exact startCamera_sound hc h
    | sendCameraCandidates handle => exact sendCameraCandidates_sound hc h
    | pollCameraSignal handle => cases h
    | closeCamera handle => exact closeCamera_sound hc hok h
    | close => exact close_sound hc h
  | send op command handle =>
    exact send_sound hc hok (fun i h ha => hinfo op command handle i h rfl ha) h
  | run op command handle o =>
    cases a with
    | dispatch =>
      cases h
      obtain ⟨hinv, hcreated, hhost⟩ := hc.dispatch hok
      refine ⟨hinv, fun r hr => by rw [hcreated]; exact hr, Or.inl hhost, fun q hq => ?_⟩
      cases hq
      exact ⟨hok.of_host hhost (fun r hr => by rw [hcreated]; exact hr), rfl, rfl, rfl⟩
    | returns error =>
      cases h
      obtain ⟨hne, k, e, hk, hactive, -⟩ := hok
      exact .same hc (fun q hq => Op.afterSend_spec rfl (by rw [hk]; rfl)
        (fun _ => ⟨hne, k, hk, hactive⟩) hq)
    | _ => cases h
  | metadata op handle =>
    cases a with
    | go =>
      cases h
      exact .out hc
    | throws =>
      cases h
      refine .same hc (fun q hq => ?_)
      cases hq
      obtain ⟨hne, k, hk, hactive⟩ := hok
      exact ⟨⟨by rw [hk]; rfl, fun _ => ⟨hne, k, hk, hactive⟩⟩, .of_inside rfl rfl⟩
    | _ => cases h
  | closeLocal op handle => exact closeLocal_sound hc hok h

/-! ## The invariant -/

@[simp] theorem State.setCall_self (s : State) (i : ℕ) (p : Pc) :
    (s.setCall i p).calls i = p := by
  rw [State.setCall]
  exact Function.update_self i p s.calls

theorem State.setCall_of_ne (s : State) {i j : ℕ} (p : Pc) (h : j ≠ i) :
    (s.setCall i p).calls j = s.calls j := by
  rw [State.setCall]
  exact Function.update_of_ne h p s.calls

/-- **The invariant**: that of the camera; every lock is owned by the calls whose
place says so; and what calls know is so. -/
structure Inv (s : State) : Prop where
  camera : s.camera.Inv
  lifetime : s.lifetime.OwnedBy (fun i => (s.calls i).shared = true)
    (fun i => (s.calls i).exclusive = true)
  gate : s.gate.OwnedBy (fun i => (s.calls i).gated = true)
  calls : ∀ i, (s.calls i).Ok s.camera

theorem inv_start (enabled : Bool) : Inv (machine enabled).start where
  camera := Camera.inv_start enabled
  lifetime := ⟨fun i => by simp [machine, Pc.shared, Pc.inside],
    fun i => by simp [machine, Pc.exclusive, Pc.inside]⟩
  gate := fun i => by simp [machine, Pc.gated, Pc.inside]
  calls := fun i => trivial

/-- A call that holds the gate holds the lifetime shared. -/
theorem Pc.shared_of_gated {p : Pc} (h : p.gated = true) :
    p.shared = true ∧ p.exclusive = false := by
  cases p <;> simp_all [Pc.gated, Pc.shared, Pc.exclusive, Pc.inside]

/-- No call holds the lifetime shared and exclusively. -/
theorem Pc.exclusive_of_shared {p : Pc} (h : p.shared = true) : p.exclusive = false := by
  cases p <;> simp_all [Pc.shared, Pc.exclusive, Pc.inside]

/-- Inside is who holds the gate, or the lifetime exclusively. -/
theorem Pc.inside_eq_none {p : Pc} (hg : p.gated = false) (hx : p.exclusive = false) :
    p.inside = none := by
  rw [Pc.gated] at hg
  rw [Pc.exclusive] at hx
  cases hp : p.inside with
  | none => rfl
  | some op =>
    rw [hp, Option.any_some] at hg hx
    rw [hx] at hg
    cases hg

/-- Who does not hold the lifetime has not seen the camera. -/
theorem Pc.ok_of_unheld {p : Pc} (hs : p.shared = false) (hx : p.exclusive = false)
    (c : Camera) : p.Ok c := by
  have hg : p.gated = false := by
    rw [Bool.eq_false_iff]
    intro hg
    rw [(Pc.shared_of_gated hg).1] at hs
    cases hs
  cases p with
  | node op => cases op <;> trivial
  | gate op => cases op <;> trivial
  | idle => trivial
  | lifetime op => trivial
  | lookup op => trivial
  | leaving => trivial
  | body op => cases Pc.inside_eq_none hg hx
  | send op command handle => cases Pc.inside_eq_none hg hx
  | run op command handle o => cases Pc.inside_eq_none hg hx
  | metadata op handle => cases Pc.inside_eq_none hg hx
  | closeLocal op handle => cases Pc.inside_eq_none hg hx

/-- **What a sound step does to the camera does not matter to the other calls.** -/
theorem Inv.others {s : State} (h : Inv s) {i : ℕ} {c : Camera} {n : Next}
    (hs : Sound s.camera (s.calls i) c n) {j : ℕ} (hj : j ≠ i) : (s.calls j).Ok c := by
  rcases hs.host with hsame | hexclusive | ⟨hgated, hsome⟩
  · exact (h.calls j).of_host hsame hs.created
  · -- the lifetime was the call's own, so the other holds nothing
    refine Pc.ok_of_unheld ?_ ?_ c
    · exact Bool.eq_false_iff.mpr (h.lifetime.not_shared hexclusive j)
    · exact Bool.eq_false_iff.mpr fun hx => hj (h.lifetime.unique hx hexclusive)
  · -- the gate was the call's own, so the other is outside
    have hshared := (Pc.shared_of_gated hgated).1
    refine (h.calls j).of_outside (Pc.inside_eq_none ?_ ?_) (fun _ => hsome)
    · exact Bool.eq_false_iff.mpr fun hg => hj (h.gate.unique hg hgated)
    · exact Bool.eq_false_iff.mpr fun hx => h.lifetime.not_shared hx i hshared

/-- **A call that moves**: what remains to be shown concerns the locks and what it
knows where it moves. -/
theorem Inv.of_setCall {s : State} {i : ℕ} {q : Pc} {c : Camera} {l : RwLock ℕ} {g : Mutex ℕ}
    (hc : c.Inv)
    (hl : l.OwnedBy (fun j => ((s.setCall i q).calls j).shared = true)
      (fun j => ((s.setCall i q).calls j).exclusive = true))
    (hg : g.OwnedBy (fun j => ((s.setCall i q).calls j).gated = true))
    (hq : q.Ok c) (hothers : ∀ j, j ≠ i → (s.calls j).Ok c) :
    Inv { s.setCall i q with camera := c, lifetime := l, gate := g } := by
  refine ⟨hc, hl, hg, fun j => ?_⟩
  show ((s.setCall i q).calls j).Ok c
  by_cases hj : j = i
  · rw [hj, s.setCall_self]
    exact hq
  · rw [s.setCall_of_ne q hj]
    exact hothers j hj

/-- **A call that goes where a sound step leads keeps the invariant.** -/
theorem Inv.follow {s : State} (h : Inv s) {i : ℕ} {c : Camera} {n : Next}
    (hs : Sound s.camera (s.calls i) c n) : Inv ({ s with camera := c }.follow i n) := by
  have hother : ∀ (q : Pc) (j : ℕ), j ≠ i → (s.setCall i q).calls j = s.calls j :=
    fun q j hj => s.setCall_of_ne q hj
  cases n with
  | move q =>
    obtain ⟨hq, hsame⟩ := hs.next q rfl
    refine .of_setCall (s := s) hs.inv ?_ ?_ hq (fun j hj => h.others hs hj)
    · refine h.lifetime.congr (fun j => ?_) (fun j => ?_)
      · rw [State.setCall, update_congr Pc.shared hsame.shared]
      · rw [State.setCall, update_congr Pc.exclusive hsame.exclusive]
    · refine h.gate.congr (fun j => ?_)
      rw [State.setCall, update_congr Pc.gated hsame.gated]
  | out =>
    unfold State.follow State.leave
    dsimp only
    by_cases hg : (s.calls i).gated = true
    · rw [if_pos hg]
      obtain ⟨hshared, hexclusive⟩ := Pc.shared_of_gated hg
      refine .of_setCall (s := s) (q := .leaving) hs.inv ?_ ?_ trivial
        (fun j hj => h.others hs hj)
      · refine h.lifetime.congr (fun j => ?_) (fun j => ?_)
        · rw [State.setCall, update_congr Pc.shared (by rw [hshared]; rfl)]
        · rw [State.setCall, update_congr Pc.exclusive (by rw [hexclusive]; rfl)]
      · exact h.gate.unlock hg (by rw [s.setCall_self]; simp [Pc.gated, Pc.inside])
          (fun j hj => by rw [hother _ j hj])
    rw [if_neg hg]
    have hgate : s.gate.OwnedBy (fun j => ((s.setCall i .idle).calls j).gated = true) := by
      refine h.gate.congr (fun j => ?_)
      rw [State.setCall, update_congr Pc.gated (by rw [Bool.eq_false_iff.mpr hg]; rfl)]
    by_cases hshared : (s.calls i).shared = true
    · rw [if_pos hshared]
      have hexclusive := Pc.exclusive_of_shared hshared
      refine .of_setCall (s := s) hs.inv ?_ hgate trivial (fun j hj => h.others hs hj)
      refine h.lifetime.unlockShared (by rw [s.setCall_self]; simp [Pc.shared, Pc.inside])
        (fun j hj => by rw [hother _ j hj]) (fun j => ?_)
      rw [State.setCall, update_congr Pc.exclusive (by rw [hexclusive]; rfl)]
    rw [if_neg hshared]
    have hsame : ∀ j, ((s.setCall i .idle).calls j).shared = (s.calls j).shared := fun j => by
      rw [State.setCall, update_congr Pc.shared (by rw [Bool.eq_false_iff.mpr hshared]; rfl)]
    by_cases hexclusive : (s.calls i).exclusive = true
    · rw [if_pos hexclusive]
      refine .of_setCall (s := s) hs.inv ?_ hgate trivial (fun j hj => h.others hs hj)
      exact h.lifetime.unlock hexclusive
        (by rw [s.setCall_self]; simp [Pc.exclusive, Pc.inside])
        (fun j hj => by rw [hother _ j hj]) (fun j => by rw [hsame j])
    · rw [if_neg hexclusive]
      refine .of_setCall (s := s) hs.inv ?_ hgate trivial (fun j hj => h.others hs hj)
      refine h.lifetime.congr (fun j => by rw [hsame j]) (fun j => ?_)
      rw [State.setCall,
        update_congr Pc.exclusive (by rw [Bool.eq_false_iff.mpr hexclusive]; rfl)]

/-- A call that begins holds nothing. -/
theorem Inv.call {s : State} (h : Inv s) {i : ℕ} (op : Op) (hidle : s.calls i = .idle) :
    Inv (s.setCall i (.lifetime op)) := by
  refine .of_setCall (s := s) (q := .lifetime op) h.camera ?_ ?_ trivial
    (fun j _ => h.calls j)
  · refine h.lifetime.congr (fun j => ?_) (fun j => ?_)
    · rw [State.setCall, update_congr Pc.shared (by rw [hidle]; rfl)]
    · rw [State.setCall, update_congr Pc.exclusive (by rw [hidle]; rfl)]
  · refine h.gate.congr (fun j => ?_)
    rw [State.setCall, update_congr Pc.gated (by rw [hidle]; rfl)]

/-- **`Close` gets the lifetime to itself.** -/
theorem Inv.lockLifetime {s : State} (h : Inv s) {i : ℕ} {l : RwLock ℕ}
    (hpc : s.calls i = .lifetime .close) (hl : s.lifetime.lock i = some l) :
    Inv { s.setCall i (.body .close) with lifetime := l } := by
  refine .of_setCall (s := s) h.camera ?_ ?_ trivial (fun j _ => h.calls j)
  · refine h.lifetime.lock hl (by rw [s.setCall_self]; rfl)
      (fun j hj => by rw [s.setCall_of_ne _ hj]) (fun j => ?_)
    rw [State.setCall, update_congr Pc.shared (by rw [hpc]; rfl)]
  · refine h.gate.congr (fun j => ?_)
    rw [State.setCall, update_congr Pc.gated (by rw [hpc]; rfl)]

/-- The others share it. -/
theorem Inv.shareLifetime {s : State} (h : Inv s) {i : ℕ} {op : Op} {l : RwLock ℕ}
    (hpc : s.calls i = .lifetime op) (hop : op.exclusive = false)
    (hl : s.lifetime.lockShared i = some l) :
    Inv { s.setCall i (.lookup op) with lifetime := l } := by
  refine .of_setCall (s := s) h.camera ?_ ?_ trivial (fun j _ => h.calls j)
  · refine h.lifetime.lockShared hl ?_ (fun j hj => by rw [s.setCall_of_ne _ hj]) (fun j => ?_)
    · rw [s.setCall_self]
      show (!op.exclusive) = true
      rw [hop]
      rfl
    · rw [State.setCall, update_congr Pc.exclusive (by rw [hpc]; rfl)]
  · refine h.gate.congr (fun j => ?_)
    rw [State.setCall, update_congr Pc.gated (by rw [hpc]; rfl)]

/-- **A call gets the camera gate**, and is inside. -/
theorem Inv.lockGate {s : State} (h : Inv s) {i : ℕ} {op : Op} {m : Mutex ℕ}
    (hpc : s.calls i = .gate op) (hop : op.exclusive = false) (hm : s.gate.lock i = some m) :
    Inv { s.setCall i (.body op) with gate := m } := by
  have hknown : (Pc.gate op).Ok s.camera := by
    rw [← hpc]
    exact h.calls i
  have hshared : (Pc.body op).shared = true ∧ (Pc.body op).exclusive = false := by
    simp [Pc.shared, Pc.exclusive, Pc.inside, hop]
  refine .of_setCall (s := s) h.camera ?_ ?_ hknown.body (fun j _ => h.calls j)
  · refine h.lifetime.congr (fun j => ?_) (fun j => ?_)
    · rw [State.setCall, update_congr Pc.shared (by rw [hpc, hshared.1]; simp [Pc.shared, hop])]
    · rw [State.setCall, update_congr Pc.exclusive (by rw [hpc, hshared.2]; rfl)]
  · refine h.gate.lock hm ?_ (fun j hj => by rw [s.setCall_of_ne _ hj])
    rw [s.setCall_self]
    simp [Pc.gated, Pc.inside, hop]

/-- **Every step keeps the invariant**, where the native metadata names the peer. -/
theorem Inv.step {s t : State} {a : Action} (h : Inv s) (hok : PeerReported s a)
    (hst : step s a = some t) : Inv t := by
  cases a with
  | call i op =>
    unfold CameraSessions.step at hst
    dsimp only at hst
    split at hst <;> cases hst
    rename_i hidle
    exact h.call op hidle
  | advance i a =>
    change advance s i a = some t at hst
    unfold advance at hst
    split at hst
    · rename_i op hpc
      split at hst
      · rename_i hexclusive
        obtain ⟨l, hl, rfl⟩ := Option.map_eq_some_iff.mp hst
        cases op <;> cases hexclusive
        exact h.lockLifetime hpc hl
      · rename_i hexclusive
        obtain ⟨l, hl, rfl⟩ := Option.map_eq_some_iff.mp hst
        exact h.shareLifetime hpc (Bool.eq_false_iff.mpr hexclusive) hl
    · rename_i op hpc
      split at hst
      · cases hst
      · rename_i hexclusive
        obtain ⟨m, hm, rfl⟩ := Option.map_eq_some_iff.mp hst
        exact h.lockGate hpc (Bool.eq_false_iff.mpr hexclusive) hm
    · -- a step that takes no lock
      obtain ⟨⟨c, n⟩, hperform, rfl⟩ := Option.map_eq_some_iff.mp hst
      refine h.follow (perform_sound h.camera (h.calls i)
        (fun op command handle k g hp ha hh => ?_) hperform)
      subst ha
      exact hok op command handle g hp hh

theorem inv_of_reachable {enabled : Bool} {s : State}
    (h : (machine enabled).ReachableWithin PeerReported s) : Inv s :=
  h.invariant (P := Inv) (inv_start enabled) (fun _ _ _ _ hs hok hst => hs.step hok hst)

/-! ## What the log says -/

/-- **The sessions of a camera are kept apart**, as far as its log says. -/
structure SessionsKept (c : Camera) : Prop where
  /-- No handle is handed out twice. -/
  handles : (c.created.map Session.handle).Nodup
  /-- No identifier of an endpoint is, and each is within bounds. -/
  endpoints : c.endpoints.Nodup ∧ ∀ e ∈ c.endpoints, 1 ≤ e.toNat ∧ e.toNat ≤ 65534
  /-- Every session has one of these identifiers, of its own. -/
  own : (c.created.map Session.endpoint).Nodup ∧ ∀ r ∈ c.created, r.endpoint ∈ c.endpoints
  /-- The counters count what was handed out: they have not wrapped. -/
  counters : ∀ h, c.host = some h →
    h.nextEndpoint.toNat = c.endpoints.length + 1 ∧
      h.nextHandle.toNat = c.created.length + 1
  /-- Exhaustion is an error. -/
  exhausted : ∀ h, c.host = some h → c.endpoints.length = 65534 →
    ∀ peer a, ∃ e, e ≠ .noError ∧ h.create peer a = (.error e, h)
  /-- At most one session of a host is neither closed nor to be closed. -/
  one : ∀ h, c.host = some h → ∀ r ∈ c.created, ∀ r' ∈ c.created,
    ¬ c.Closed r → ¬ c.Closed r' → r = r'
  /-- Every effect is that of the session of its handle, which was active. -/
  effects : ∀ e ∈ c.effects, e.Of c.created

/-- The invariant of the camera keeps its sessions apart. -/
theorem Camera.Inv.sessionsKept {c : Camera} (hc : c.Inv) : SessionsKept c := by
  have hendpoints : c.endpoints.Nodup := by
    refine List.Nodup.of_map UInt16.toNat ?_
    rw [hc.endpoints]
    exact List.nodup_range'
  have hhandles : (c.created.map fun r => r.handle.toNat).Nodup := by
    rw [hc.handles]
    exact List.nodup_range'
  have hrange : ∀ e ∈ c.endpoints, 1 ≤ e.toNat ∧ e.toNat < c.endpoints.length + 1 := by
    intro e he
    have hmem : e.toNat ∈ List.range' 1 c.endpoints.length := by
      rw [← hc.endpoints]
      exact List.mem_map_of_mem he
    rw [List.mem_range'_1] at hmem
    omega
  refine ⟨?_, ⟨hendpoints, fun e he => ?_⟩, ⟨hendpoints.sublist hc.own, fun r hr => ?_⟩,
    fun h hh => ⟨(hc.host h hh).nextEndpoint, (hc.host h hh).nextHandle⟩,
    fun h hh hlen peer a => ?_, fun h hh r hr r' hr' hopen hopen' => ?_, hc.effects⟩
  · refine List.Nodup.of_map UInt64.toNat ?_
    rw [List.map_map]
    exact hhandles
  · have hle := hc.bound
    have hlt := hrange e he
    omega
  · exact hc.own.subset (List.mem_map_of_mem hr)
  · refine h.create_of_exhausted (UInt16.toNat_inj.mp ?_) peer a
    rw [(hc.host h hh).nextEndpoint, hlen]
    rfl
  · -- both have the handle of the active session
    have hr := (hc.closed r hr h hh).resolve_right hopen
    have hr' := (hc.closed r' hr' h hh).resolve_right hopen'
    refine List.inj_on_of_nodup_map hhandles ‹r ∈ c.created› ‹r' ∈ c.created› ?_
    rw [hr, hr']

/-- **Sessions are kept apart**: in every run in which the native metadata names the
peer, handles and identifiers are never reused and never run out silently, at
most one session is active, and every command sent, signal taken and session
closed for a handle is that of the session created with it, and that session was
active. -/
theorem sessions_kept (enabled : Bool) :
    ∀ s, (machine enabled).ReachableWithin PeerReported s → SessionsKept s.camera :=
  fun _ hs => (inv_of_reachable hs).camera.sessionsKept

/-- A session with node 5 is started, and its offer sent to that node. -/
theorem sessions_kept_offered :
    ∃ s, (machine true).run (machine true).start
        [.call 0 (.startCamera 5), .advance 0 .go, .advance 0 .go, .advance 0 .go,
          .advance 0 .go, .advance 0 (.create {}), .advance 0 (.info (.ok { peerNodeID := 5 })),
          .advance 0 .dispatch] = some s ∧
      s.camera.effects = [.sent .offer 1 1 5 1] ∧ SessionsKept s.camera := by
  refine ⟨_, rfl, rfl, sessions_kept true _ ?_⟩
  refine .step (a := .advance 0 .dispatch)
    (.step (a := .advance 0 (.info (.ok { peerNodeID := 5 })))
    (.step (a := .advance 0 (.create {})) (.step (a := .advance 0 .go)
    (.step (a := .advance 0 .go) (.step (a := .advance 0 .go) (.step (a := .advance 0 .go)
    (.step (a := .call 0 (.startCamera 5)) .start trivial rfl) trivial rfl) trivial rfl)
    trivial rfl) trivial rfl) trivial rfl) ?_ rfl) trivial rfl
  intro op command handle h _ _ r hr _
  rw [List.mem_singleton.mp hr]

end CameraSessions
