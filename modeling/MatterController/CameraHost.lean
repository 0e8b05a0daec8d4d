import MatterController.Errors

/-!
# The camera host

`CameraControllerRuntime` owns the one camera session a controller may have: the
requestor endpoint registered for it, the client that sends its commands, and
the handle applications know it by. Endpoints and handles are numbered, and no
number is used twice.

The functions here are the host's own, one after the other. What the native
stack answers is an argument. Who calls them, and under which locks, is the
matter of the machine that uses the host.
-/

/-- `CHIP_IM_GLOBAL_STATUS(ResourceExhausted)`. -/
abbrev resourceExhausted : ChipError := .imGlobalStatus 0x89

/-- The commands a camera session sends (`CameraProviderClient::Command`). -/
inductive CameraCommand
  | offer
  | candidates
  | endSession
  deriving DecidableEq, Repr

/-- **What the native stack knows of a session**: the peer it was created with and,
once the camera has answered, the identifier of the protocol session. -/
structure SessionInfo where
  peerNodeID : UInt64
  protocolId : Option UInt16 := none
  deriving DecidableEq, Repr

/-- What the native steps of `Create` return: `Bindings::Init`, `Register` and
`CreateSession`, with the native handle the last one writes. -/
structure CreateAnswers where
  bindingsInit : ChipError := .noError
  register : ChipError := .noError
  createSession : ChipError := .noError
  nativeHandle : UInt64 := 0
  deriving DecidableEq, Repr

/-- **The camera host**, once it is initialized: the endpoint of the session, by
its identifier, and the client, by the native handle it was made for. -/
structure CameraHost where
  bindingsInitialized : Bool := false
  accessInstalled : Bool := true
  endpoint : Option UInt16 := none
  client : Option UInt64 := none
  nextEndpoint : UInt16 := 1
  nextHandle : UInt64 := 1
  activeHandle : UInt64 := 0
  nativeHandle : UInt64 := 0
  peerNode : UInt64 := 0
  deriving DecidableEq, Repr

namespace CameraHost

/-- `RequestorEndpoint`. -/
def requestorEndpoint (h : CameraHost) : UInt16 := h.endpoint.getD invalidEndpointId

/-- `Create`: the identifier of the endpoint is used up where `Register` or
`CreateSession` fails. -/
def create (peer : UInt64) (a : CreateAnswers) (h : CameraHost) :
    Except ChipError UInt64 × CameraHost :=
  if h.activeHandle ≠ 0 then (.error .busy, h)
  else if h.nextEndpoint = invalidEndpointId ∨ h.nextHandle = 0 then
    (.error resourceExhausted, h)
  else if h.bindingsInitialized = false ∧ a.bindingsInit ≠ .noError then
    (.error a.bindingsInit, h)
  else
    let h := { h with
      bindingsInitialized := true
      endpoint := some h.nextEndpoint
      nextEndpoint := h.nextEndpoint + 1 }
    if a.register ≠ .noError then (.error a.register, { h with endpoint := none })
    else
      let h := { h with nativeHandle := a.nativeHandle }
      if a.createSession ≠ .noError then (.error a.createSession, { h with endpoint := none })
      else
        (.ok h.nextHandle,
          { h with
            client := some h.nativeHandle
            peerNode := peer
            activeHandle := h.nextHandle
            nextHandle := h.nextHandle + 1 })

/-- `Validate`. -/
def validate (handle : UInt64) (h : CameraHost) : ChipError :=
  if handle ≠ 0 ∧ handle = h.activeHandle ∧ h.endpoint.isSome ∧ h.client.isSome then .noError
  else .incorrectState

/-- `GetPeerNode`. -/
def getPeerNode (handle : UInt64) (h : CameraHost) : Except ChipError UInt64 :=
  if h.validate handle ≠ .noError then .error (h.validate handle) else .ok h.peerNode

/-- The error of `GetSessionInfo`, with that of the native stack. -/
def getSessionInfo (handle : UInt64) (native : ChipError) (h : CameraHost) : ChipError :=
  if h.validate handle ≠ .noError then h.validate handle else native

/-- `CloseLocal`, `none` where it uses an endpoint that is not there. An error of
the native stack leaves the endpoint and the handle, but not the client. -/
def closeLocal (handle : UInt64) (closeSession unregister : ChipError) (h : CameraHost) :
    Option (ChipError × CameraHost) :=
  if handle ≠ h.activeHandle then some (.noError, h)
  else if h.endpoint = none then none
  else
    let h := { h with client := none }
    if closeSession ≠ .noError then some (closeSession, h)
    else if unregister ≠ .noError then some (unregister, h)
    else some (.noError, { h with endpoint := none, activeHandle := 0 })

/-- `Shutdown`. -/
def shutdown (unregister : ChipError) (h : CameraHost) : ChipError × CameraHost :=
  let h := { h with bindingsInitialized := false, client := none }
  if h.endpoint.isSome ∧ unregister ≠ .noError then (unregister, h)
  else (.noError, { h with endpoint := none, activeHandle := 0, accessInstalled := false })

/-- What `Send` does after its first section: it returns, or runs the command
against a node. -/
inductive SendStart
  | returns (error : ChipError)
  | runs (node : UInt64)
  deriving DecidableEq, Repr

/-- **The first section of `Send`**, under the lock of the stack: the session is
validated and its native metadata read. A session that the camera has ended, or
that never got an identifier, has nothing to end. -/
def sendStart (command : CameraCommand) (handle : UInt64)
    (info : Except ChipError SessionInfo) (h : CameraHost) : SendStart :=
  if h.validate handle ≠ .noError then .returns (h.validate handle)
  else match info with
    | .error error =>
      if command = .endSession ∧ error = .notFound then .returns .noError else .returns error
    | .ok info =>
      if command = .endSession ∧ info.protocolId = none then .returns .noError
      else .runs info.peerNodeID

/-! ## What the functions do -/

/-- **A valid handle is that of the active session**, which has its endpoint and
its client. -/
theorem validate_iff {handle : UInt64} {h : CameraHost} :
    h.validate handle = .noError ↔
      handle ≠ 0 ∧ handle = h.activeHandle ∧ h.endpoint.isSome ∧ h.client.isSome := by
  unfold validate
  split
  · rename_i hv
    exact ⟨fun _ => hv, fun _ => rfl⟩
  · rename_i hv
    exact ⟨fun he => absurd he (by simp), fun he => absurd he hv⟩

/-- A command runs only for a valid handle, and against the node the native
metadata names. -/
theorem sendStart_runs {command : CameraCommand} {handle node : UInt64}
    {info : Except ChipError SessionInfo} {h : CameraHost}
    (hs : h.sendStart command handle info = .runs node) :
    h.validate handle = .noError ∧ ∃ i, info = .ok i ∧ i.peerNodeID = node := by
  unfold sendStart at hs
  split at hs
  · cases hs
  · rename_i hv
    refine ⟨Decidable.not_not.mp hv, ?_⟩
    split at hs
    · split at hs <;> cases hs
    · split at hs
      · cases hs
      · exact ⟨_, rfl, SendStart.runs.inj hs⟩

/-- **What `Create` does.** It fails and leaves the host; or it uses up an
identifier and fails; or it uses one up and a handle with it, and the session is
active. In the last two there was no session, and numbers were left. -/
theorem create_spec (peer : UInt64) (a : CreateAnswers) (h : CameraHost) :
    (∃ e, e ≠ .noError ∧ h.create peer a = (.error e, h)) ∨
      (h.activeHandle = 0 ∧ h.nextEndpoint ≠ invalidEndpointId ∧ h.nextHandle ≠ 0 ∧
        ((∃ e native, e ≠ .noError ∧ h.create peer a = (.error e,
            { h with
              bindingsInitialized := true
              endpoint := none
              nextEndpoint := h.nextEndpoint + 1
              nativeHandle := native })) ∨
          h.create peer a = (.ok h.nextHandle,
            { h with
              bindingsInitialized := true
              endpoint := some h.nextEndpoint
              nextEndpoint := h.nextEndpoint + 1
              nativeHandle := a.nativeHandle
              client := some a.nativeHandle
              peerNode := peer
              activeHandle := h.nextHandle
              nextHandle := h.nextHandle + 1 }))) := by
  unfold create
  by_cases hactive : h.activeHandle ≠ 0
  · rw [if_pos hactive]
    exact Or.inl ⟨_, by simp, rfl⟩
  rw [if_neg hactive]
  by_cases hnumbers : h.nextEndpoint = invalidEndpointId ∨ h.nextHandle = 0
  · rw [if_pos hnumbers]
    exact Or.inl ⟨_, by simp, rfl⟩
  rw [if_neg hnumbers]
  by_cases hbindings : h.bindingsInitialized = false ∧ a.bindingsInit ≠ .noError
  · rw [if_pos hbindings]
    exact Or.inl ⟨_, hbindings.2, rfl⟩
  rw [if_neg hbindings]
  rw [not_or] at hnumbers
  refine Or.inr ⟨Decidable.not_not.mp hactive, hnumbers.1, hnumbers.2, ?_⟩
  by_cases hregister : a.register ≠ .noError
  · exact Or.inl ⟨_, h.nativeHandle, hregister, if_pos hregister⟩
  by_cases hsession : a.createSession ≠ .noError
  · refine Or.inl ⟨_, a.nativeHandle, hsession, ?_⟩
    dsimp only
    rw [if_neg hregister, if_pos hsession]
  · refine Or.inr ?_
    dsimp only
    rw [if_neg hregister, if_neg hsession]

/-- **One session at a time**: while one is active, `Create` refuses another. -/
theorem create_of_active {h : CameraHost} (hactive : h.activeHandle ≠ 0) (peer : UInt64)
    (a : CreateAnswers) : h.create peer a = (.error .busy, h) := by
  unfold create
  exact if_pos hactive

/-- **Exhaustion is an error**, and changes nothing. -/
theorem create_of_exhausted {h : CameraHost} (hn : h.nextEndpoint = invalidEndpointId)
    (peer : UInt64) (a : CreateAnswers) :
    ∃ e, e ≠ .noError ∧ h.create peer a = (.error e, h) := by
  rcases h.create_spec peer a with hfail | ⟨-, hne, -⟩
  · exact hfail
  · exact absurd hn hne

/-- **What `CloseLocal` does to the active session**: the native stack closes and
unregisters it, and there is no session; or it does not, and the session is left
without its client. -/
theorem closeLocal_active {h : CameraHost} (he : h.endpoint.isSome)
    (closeSession unregister : ChipError) :
    (closeSession = .noError ∧ unregister = .noError ∧
      h.closeLocal h.activeHandle closeSession unregister
        = some (.noError, { h with client := none, endpoint := none, activeHandle := 0 })) ∨
      (¬ (closeSession = .noError ∧ unregister = .noError) ∧ ∃ e, e ≠ .noError ∧
        h.closeLocal h.activeHandle closeSession unregister
          = some (e, { h with client := none })) := by
  have hsome : h.endpoint ≠ none := by
    intro hnone
    rw [hnone] at he
    cases he
  unfold closeLocal
  rw [if_neg (not_not_intro rfl), if_neg hsome]
  by_cases hc : closeSession ≠ .noError
  · exact Or.inr ⟨fun hboth => hc hboth.1, _, hc, if_pos hc⟩
  dsimp only
  rw [if_neg hc]
  by_cases hu : unregister ≠ .noError
  · exact Or.inr ⟨fun hboth => hu hboth.2, _, hu, if_pos hu⟩
  rw [if_neg hu]
  exact Or.inl ⟨Decidable.not_not.mp hc, Decidable.not_not.mp hu, rfl⟩

/-- **What `CloseLocal` changes of the host**: at most, it takes away the active
session. -/
theorem closeLocal_spec {h : CameraHost} {handle : UInt64} {closeSession unregister : ChipError}
    {r : ChipError × CameraHost}
    (hr : h.closeLocal handle closeSession unregister = some r) :
    r.2 = h ∨ (handle = h.activeHandle ∧ r.2.nextHandle = h.nextHandle ∧
      (r.2.activeHandle = h.activeHandle ∨ r.2.activeHandle = 0)) := by
  unfold closeLocal at hr
  split at hr
  · obtain rfl := Option.some.inj hr
    exact Or.inl rfl
  · rename_i hactive
    refine Or.inr ⟨Decidable.not_not.mp hactive, ?_⟩
    split at hr
    · cases hr
    · dsimp only at hr
      split at hr
      · obtain rfl := Option.some.inj hr
        exact ⟨rfl, Or.inl rfl⟩
      · split at hr <;> obtain rfl := Option.some.inj hr
        · exact ⟨rfl, Or.inl rfl⟩
        · exact ⟨rfl, Or.inr rfl⟩

end CameraHost
