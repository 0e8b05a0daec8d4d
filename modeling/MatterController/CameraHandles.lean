import MatterController.CameraHost
import MatterController.Machine

/-!
# The active handle of the camera host

An application knows its session by a handle, and the host has a session exactly while its
`ActiveHandle` is not zero. Every operation on a session asks `Validate` first, which wants
more: the endpoint and the client must be there too. So it matters that the four are
released together. `CloseLocal` and `Shutdown` release the client before they ask the
native stack to close the session and to unregister the endpoint, and return where it
refuses. The host is then left with a handle that nothing accepts, and that every `Create`
takes for a session that is still active.

The host under any sequence of the three functions is a machine, with the answers of the
native stack in its actions. The endpoint follows the handle in every run
(`Inv.endpoint`), so it is the client alone that can be missing.
-/

namespace CameraHost

/-- **A call of one of the functions**, with what the native stack answers. -/
inductive HandleAction
  | create (peer : UInt64) (answers : CreateAnswers)
  | closeLocal (handle : UInt64) (closeSession unregister : ChipError)
  | shutdown (unregister : ChipError)

/-- The host after a call. -/
def handleStep (h : CameraHost) : HandleAction → Option CameraHost
  | .create peer answers => some (h.create peer answers).2
  | .closeLocal handle closeSession unregister =>
    (h.closeLocal handle closeSession unregister).map Prod.snd
  | .shutdown unregister => some (h.shutdown unregister).2

/-- **The host**, initialized, under any sequence of calls. -/
def handles : Machine CameraHost HandleAction := ⟨{}, handleStep⟩

/-- **The handle is that of a session that can be used**, if it is not zero. -/
def HandleValid (h : CameraHost) : Prop :=
  h.activeHandle ≠ 0 ↔ h.validate h.activeHandle = .noError

/-- **The native stack closes what it is asked to close**: the session and the endpoint
where `CloseLocal` is called of the active handle, the endpoint where `Shutdown` finds
one. -/
def Closes (h : CameraHost) : HandleAction → Prop
  | .create _ _ => True
  | .closeLocal handle closeSession unregister =>
    handle = h.activeHandle → h.endpoint.isSome = true →
      closeSession = .noError ∧ unregister = .noError
  | .shutdown unregister => h.endpoint.isSome = true → unregister = .noError

/-! ## The endpoint follows the handle -/

/-- **The endpoint is there while the handle is not zero**, whatever the native stack
answers. -/
def Registered (h : CameraHost) : Prop := h.endpoint.isSome = true ↔ h.activeHandle ≠ 0

/-- `CloseLocal` of a handle that is not the active one does nothing. -/
theorem closeLocal_of_ne {h : CameraHost} {handle : UInt64} (hne : handle ≠ h.activeHandle)
    (closeSession unregister : ChipError) :
    h.closeLocal handle closeSession unregister = some (.noError, h) := by
  unfold closeLocal
  exact if_pos hne

/-- **What `CloseLocal` does**: nothing of another handle; of the active one it leaves the
session without its client where the native stack does not close all of it, and takes it away
otherwise. -/
theorem handleStep_closeLocal {h k : CameraHost} {handle : UInt64}
    {closeSession unregister : ChipError}
    (hst : handleStep h (.closeLocal handle closeSession unregister) = some k) :
    (handle ≠ h.activeHandle ∧ k = h) ∨
      (handle = h.activeHandle ∧ h.endpoint.isSome = true ∧
        ((closeSession = .noError ∧ unregister = .noError ∧
            k = { h with client := none, endpoint := none, activeHandle := 0 }) ∨
          (¬ (closeSession = .noError ∧ unregister = .noError) ∧
            k = { h with client := none }))) := by
  obtain ⟨r, hc, rfl⟩ := Option.map_eq_some_iff.mp hst
  by_cases hne : handle = h.activeHandle
  · subst hne
    by_cases hsome : h.endpoint.isSome = true
    · refine Or.inr ⟨rfl, hsome, ?_⟩
      rcases closeLocal_active hsome closeSession unregister with
        ⟨hclose, hunregister, heq⟩ | ⟨hfail, e, -, heq⟩
      · rw [heq] at hc
        obtain rfl := Option.some.inj hc
        exact Or.inl ⟨hclose, hunregister, rfl⟩
      · rw [heq] at hc
        obtain rfl := Option.some.inj hc
        exact Or.inr ⟨hfail, rfl⟩
    · -- there is no endpoint to close
      have hnone : h.endpoint = none := by simpa using hsome
      simp [closeLocal, hnone] at hc
  · rw [closeLocal_of_ne hne] at hc
    obtain rfl := Option.some.inj hc
    exact Or.inl ⟨hne, rfl⟩

/-- **What `Shutdown` does**: it leaves the session without its client where the endpoint
cannot be unregistered, and takes it away otherwise. -/
theorem shutdown_spec (unregister : ChipError) (h : CameraHost) :
    (h.endpoint.isSome = true ∧ unregister ≠ .noError ∧
      (h.shutdown unregister).2 = { h with bindingsInitialized := false, client := none }) ∨
      ((h.endpoint.isSome = true → unregister = .noError) ∧
        (h.shutdown unregister).2 =
          { h with
            bindingsInitialized := false
            client := none
            endpoint := none
            activeHandle := 0
            accessInstalled := false }) := by
  unfold shutdown
  dsimp only
  by_cases hstuck : h.endpoint.isSome = true ∧ unregister ≠ .noError
  · rw [if_pos hstuck]
    exact Or.inl ⟨hstuck.1, hstuck.2, rfl⟩
  · rw [if_neg hstuck]
    exact Or.inr ⟨fun hsome => by_contra fun hne => hstuck ⟨hsome, hne⟩, rfl⟩

theorem Registered.step {h k : CameraHost} {a : HandleAction} (hr : h.Registered)
    (hst : handleStep h a = some k) : k.Registered := by
  cases a with
  | create peer answers =>
    obtain rfl := Option.some.inj hst
    rcases create_spec peer answers h with ⟨e, -, hc⟩ | ⟨hactive, -, hnext, hc | hc⟩
    · rw [hc]
      exact hr
    · obtain ⟨e, native, -, hc⟩ := hc
      rw [hc]
      exact ⟨(by rintro ⟨⟩), fun hne => absurd hactive hne⟩
    · rw [hc]
      exact ⟨fun _ => hnext, fun _ => rfl⟩
  | closeLocal handle closeSession unregister =>
    rcases handleStep_closeLocal hst with ⟨-, rfl⟩ | ⟨-, -, ⟨-, -, rfl⟩ | ⟨-, rfl⟩⟩
    · exact hr
    · exact ⟨(by rintro ⟨⟩), fun hbad => absurd rfl hbad⟩
    · exact hr
  | shutdown unregister =>
    obtain rfl := Option.some.inj hst
    rcases shutdown_spec unregister h with ⟨-, -, heq⟩ | ⟨-, heq⟩ <;> rw [heq]
    · exact hr
    · exact ⟨(by rintro ⟨⟩), fun hbad => absurd rfl hbad⟩

/-- In every run. -/
theorem registered_of_reachable {ok : CameraHost → HandleAction → Prop} {h : CameraHost}
    (hr : handles.ReachableWithin ok h) : h.Registered :=
  hr.invariant (P := Registered) ⟨(by rintro ⟨⟩), fun hbad => absurd rfl hbad⟩
    fun _ _ _ _ hs _ hst => hs.step hst

/-- Where the endpoint follows the handle, the client decides. -/
theorem Registered.handleValid_iff {h : CameraHost} (hr : h.Registered) :
    h.HandleValid ↔ (h.activeHandle ≠ 0 → h.client.isSome = true) := by
  unfold HandleValid
  rw [validate_iff]
  constructor
  · intro hv hne
    exact (hv.mp hne).2.2.2
  · intro hclient
    exact ⟨fun hne => ⟨hne, rfl, hr.mpr hne, hclient hne⟩, fun hv => hv.1⟩

/-- **A handle that is not valid is in the way**: no handle is accepted, and no session is
created. -/
theorem Registered.stuck {h : CameraHost} (hr : h.Registered) (hv : ¬ h.HandleValid) :
    (∀ handle, h.validate handle = .incorrectState) ∧
      ∀ peer answers, h.create peer answers = (.error .busy, h) := by
  rw [hr.handleValid_iff] at hv
  obtain ⟨hne, hclient⟩ := Classical.not_imp.mp hv
  refine ⟨fun handle => ?_, create_of_active hne⟩
  unfold validate
  exact if_neg fun hvalid => hclient hvalid.2.2.2

/-! ## Runs in which the native stack closes what it is asked to close -/

/-- **A step keeps the handle valid exactly where the native stack closes what it is asked
to close.** -/
theorem HandleValid.step_iff {h k : CameraHost} {a : HandleAction} (hr : h.Registered)
    (hv : h.HandleValid) (hst : handleStep h a = some k) : k.HandleValid ↔ h.Closes a := by
  have hk := hr.step hst
  rw [hk.handleValid_iff]
  rw [hr.handleValid_iff] at hv
  cases a with
  | create peer answers =>
    obtain rfl := Option.some.inj hst
    refine ⟨fun _ => trivial, fun _ => ?_⟩
    rcases create_spec peer answers h with ⟨e, -, hc⟩ | ⟨hactive, -, -, hc | hc⟩
    · rw [hc]
      exact hv
    · obtain ⟨e, native, -, hc⟩ := hc
      rw [hc]
      exact fun hne => absurd hactive hne
    · rw [hc]
      exact fun _ => rfl
  | closeLocal handle closeSession unregister =>
    rcases handleStep_closeLocal hst with
      ⟨hne, rfl⟩ | ⟨heq, hsome, ⟨hclose, hunregister, rfl⟩ | ⟨hfail, rfl⟩⟩
    · exact ⟨fun _ heq => absurd heq hne, fun _ => hv⟩
    · exact ⟨fun _ _ _ => ⟨hclose, hunregister⟩, fun _ hbad => absurd rfl hbad⟩
    · refine ⟨fun hclient => ?_, fun hcloses => absurd (hcloses heq hsome) hfail⟩
      cases hclient (hr.mp hsome)
  | shutdown unregister =>
    obtain rfl := Option.some.inj hst
    rcases shutdown_spec unregister h with ⟨hsome, hfail, heq⟩ | ⟨hok, heq⟩ <;> rw [heq]
    · refine ⟨fun hclient => ?_, fun hcloses => absurd (hcloses hsome) hfail⟩
      cases hclient (hr.mp hsome)
    · exact ⟨fun _ => hok, fun _ hbad => absurd rfl hbad⟩

/-- **The active handle is valid in every state of a run in which the native stack closes
what it is asked to close**; and the first step at which it does not ends that. -/
theorem activeHandle_valid {h : CameraHost} (hr : handles.ReachableWithin Closes h) :
    (h.activeHandle ≠ 0 ↔ h.validate h.activeHandle = .noError) ∧
      ∀ a k, handles.step h a = some k →
        ((k.activeHandle ≠ 0 ↔ k.validate k.activeHandle = .noError) ↔ h.Closes a) := by
  have hv : h.HandleValid :=
    hr.invariant (P := HandleValid)
      ⟨fun hbad => absurd rfl hbad, fun hbad => (validate_iff.mp hbad).1⟩
      fun _ _ _ hs hv hok hst => (hv.step_iff (registered_of_reachable hs) hst).mpr hok
  exact ⟨hv, fun a k hst => hv.step_iff (registered_of_reachable hr) hst⟩

/-- After a session was created, with what the native stack answered, it may be closed, and
the host is left without one. -/
theorem activeHandle_valid_closed :
    ∃ h k, handles.ReachableWithin Closes h ∧ h.activeHandle = 1 ∧
      h.validate 1 = .noError ∧ handles.step h (.closeLocal 1 .noError .noError) = some k ∧
      k.activeHandle = 0 ∧ (k.activeHandle ≠ 0 ↔ k.validate k.activeHandle = .noError) := by
  have hr : handles.ReachableWithin Closes (handles.start.create 7 {}).2 :=
    .step (a := .create 7 {}) .start trivial rfl
  have hvalid := activeHandle_valid hr
  exact ⟨_, _, hr, rfl, hvalid.1.mp (by decide), rfl, rfl,
    (hvalid.2 (.closeLocal 1 .noError .noError) _ rfl).mpr fun _ _ => ⟨rfl, rfl⟩⟩

/-- **An endpoint that is not unregistered leaves a handle that nothing accepts**: after
`Create` and a `CloseLocal` whose `Unregister` failed, the active handle is 1 and not
valid, and every later `Create` is refused. -/
theorem activeHandle_invalid :
    ∃ h, handles.run handles.start
        [.create 7 {}, .closeLocal 1 .noError (.other 3)] = some h ∧
      h.activeHandle = 1 ∧ ¬ (h.activeHandle ≠ 0 ↔ h.validate h.activeHandle = .noError) ∧
      (∀ handle, h.validate handle = .incorrectState) ∧
      ∀ peer answers, h.create peer answers = (.error .busy, h) := by
  have hrun : (handles.run handles.start [.create 7 {}, .closeLocal 1 .noError (.other 3)]) =
      some { (handles.start.create 7 {}).2 with client := none } := rfl
  have hr := registered_of_reachable (handles.reachable_start.run hrun)
  have hinvalid : ¬ HandleValid { (handles.start.create 7 {}).2 with client := none } := by
    rw [hr.handleValid_iff]
    decide
  exact ⟨_, hrun, rfl, hinvalid, hr.stuck hinvalid⟩

end CameraHost
