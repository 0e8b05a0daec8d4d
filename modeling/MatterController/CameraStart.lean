import MatterController.AudioStream
import MatterController.CameraCalls
import MatterController.PendingRelease

/-!
# Starting a camera session, and failing to

`StartPreparedCamera` and `StartPreparedCameraSession` start a session, record it
with the owner of its release, check it, and hand it over. On any failure after
the start they release it, which is `CloseCamera`, and rethrow.

This is the machine of such a call from `StartCamera` on: the coroutine that runs
it, the cancellation with its callback, the calls of `Release` they make or
spawn, and the other operations of the controller in between. What the release's
run of `CloseCamera` is answered is a parameter, because there is one such run at
most (`PendingCameraRelease`); all other answers are in the actions.

The release may fail, and is then not tried again. `session_closed_iff` says
exactly when: the session of a caller who got an exception is active no longer if
and only if `CloseCamera` was admitted everywhere and the native steps of its
local close succeeded – or the controller was closed. `Fate` is the argument,
what the phase of the release says of the session.
-/

namespace CameraStart

open CameraSessions

/-- The two functions that start a session. -/
inductive Function
  | startPreparedCamera
  | startPreparedCameraSession
  deriving DecidableEq, Repr

/-- **Where the coroutine stands.** The first two are inside `StartCamera`, before the
session is created and during its offer; then the session is recorded; the next
four, of `StartPreparedCameraSession` only, check it; and before it is returned
the flag is tested. `rollback` and `releasing` are the error handler, before and
inside `Release`. A check that reads through a null reference ends the process. -/
inductive Pc
  | starting
  | offering (handle : UInt64)
  | recording (handle : UInt64)
  | selecting (handle : UInt64)
  | validatingVideo (handle : UInt64) (video : UInt16) (audio : Option UInt16)
  | validatingAudio (handle : UInt64) (audio : UInt16)
  | readingPrivacy (handle : UInt64)
  | testing (handle : UInt64)
  | returned (handle : UInt64)
  | rollback (failure : Exn)
  | releasing (call : ℕ) (failure : Exn) (failedStage : CameraStage)
  | thrown (exn : Exn)
  | crashed
  deriving Repr

/-- **What the coroutine's step is answered**: that it goes on, with the data it reads
if any, or that something it calls throws. -/
inductive Answer
  | go
  | throws (exn : Exn)
  | create (a : CreateAnswers)
  | offer (a : OfferAnswers)
  | selected (error : ChipError) (video audio : Option UInt16)
  | videoStreams (l : List MatterCameraVideoStream)
  | audioStreams (l : List MatterCameraAudioStream)

/-- **A step of the machine**: of the coroutine, of the cancellation, of a call of
`Release`, the end of the `CloseCamera` such a call runs, or an operation of
somebody else. -/
inductive Action
  | main (answer : Answer)
  | cancel
  | release (call : ℕ)
  | releaseEnds (call : ℕ)
  | other (o : Other)

/-- **The state**: the camera; the coroutine with the stage it reports, the flag it
polls, the cancellation and the release owed; and – to speak about it – the handle
of the session that `StartCamera` returned. -/
structure State where
  camera : Camera
  pc : Pc := .starting
  stage : CameraStage := .signaling
  flag : Bool := false
  cancellation : Cancellation := .idle
  cleanup : Cleanup UInt64 Exn := {}
  session : Option UInt64 := none

/-- Goes on, at a place of the coroutine. -/
def State.goto (s : State) (pc : Pc) : State := { s with pc := pc }

/-- Goes on, with the stage set on the way. -/
def State.enter (s : State) (stage : CameraStage) (pc : Pc) : State :=
  { s with stage := stage, pc := pc }

/-- Goes on to the check of the audio that was selected, if any was. -/
def State.checkAudio (s : State) (handle : UInt64) : Option UInt16 → State
  | some audio => s.goto (.validatingAudio handle audio)
  | none => s.enter .privacy (.readingPrivacy handle)

section Steps

variable (function : Function) (nodeId : UInt64) (capabilities : MatterCameraAudioCapabilities)
  (answers : CloseAnswers)

/-- **The step of the coroutine.** -/
def mainStep (s : State) (a : Answer) : Option State :=
  match s.pc, a with
  -- the gate of the node, that of the camera, or the state of the native stack
  | .starting, .throws exn => some (s.goto (.thrown exn))
  | .starting, .create a =>
    match (s.camera.beginStart nodeId s.flag a).1 with
    | .error exn =>
      some { s with camera := (s.camera.beginStart nodeId s.flag a).2, pc := .thrown exn }
    | .ok handle =>
      some { s with camera := (s.camera.beginStart nodeId s.flag a).2, pc := .offering handle }
  | .offering handle, .offer a =>
    match (s.camera.offer handle s.flag a).1 with
    | some exn => some { s with camera := (s.camera.offer handle s.flag a).2, pc := .thrown exn }
    | none =>
      some { s with
        camera := (s.camera.offer handle s.flag a).2
        pc := .recording handle
        session := some handle }
  | .recording handle, .go =>
    -- the controller's own start ends here, the session's goes on to its streams
    match function with
    | .startPreparedCamera =>
      some { s with pc := .testing handle, cleanup := s.cleanup.record handle }
    | .startPreparedCameraSession =>
      some { s with
        pc := .selecting handle
        stage := .streamSelection
        cleanup := s.cleanup.record handle }
  | .selecting _, .throws exn => some (s.goto (.rollback exn))
  | .selecting handle, .selected error video audio =>
    match s.camera.usable with
    | none => some (s.goto (.rollback (.hresult .illegalMethodCall)))
    | some h =>
      match checkChipError (h.getSessionInfo handle error) with
      | .error exn => some (s.goto (.rollback exn))
      | .ok () =>
        match video with
        | some video => some (s.goto (.validatingVideo handle video audio))
        | none => some (s.checkAudio handle audio)
  | .validatingVideo _ _ _, .throws exn => some (s.goto (.rollback exn))
  | .validatingVideo handle video audio, .videoStreams l =>
    match validateCameraSelectedVideo l video with
    | .error exn => some (s.goto (.rollback exn))
    | .ok () => some (s.checkAudio handle audio)
  | .validatingAudio _ _, .throws exn => some (s.goto (.rollback exn))
  | .validatingAudio handle audio, .audioStreams l =>
    match validateCameraSelectedAudio capabilities l audio with
    | none => some (s.goto .crashed)
    | some (.error exn) => some (s.goto (.rollback exn))
    | some (.ok ()) => some (s.enter .privacy (.readingPrivacy handle))
  | .readingPrivacy _, .throws exn => some (s.goto (.rollback exn))
  | .readingPrivacy handle, .go => some (s.goto (.testing handle))
  | .testing handle, .go =>
    if s.flag then some (s.goto (.rollback .canceled)) else some (s.goto (.returned handle))
  | .rollback failure, .go =>
    some { s with
      pc := .releasing s.cleanup.calls.length failure s.stage
      stage := .sessionEnd
      cleanup := s.cleanup.call }
  | .releasing k failure failedStage, .go =>
    match s.cleanup.calls[k]? with
    | some (.returned none) => some (s.enter failedStage (.thrown failure))
    | some (.returned (some exn)) => some (s.goto (.thrown exn))
    | _ => none
  | _, _ => none

/-- **The next step of the cancellation**: the request and the two steps of its
callback. -/
def cancelStep (s : State) : Option State :=
  match s.cancellation with
  | .idle => some { s with cancellation := .requested }
  | .requested => some { s with cancellation := .stored, flag := true }
  | .stored => some { s with cancellation := .done, cleanup := s.cleanup.cancel }
  | .done => none

/-- **The step of the machine.** `CloseCamera` runs on the identifier that was recorded.
Others wait while the offer has the gate of the camera, and do not have the handle
of a session that was not handed over; what comes after that is not followed. -/
def step (s : State) : Action → Option State
  | .main a => mainStep function nodeId capabilities s a
  | .cancel => cancelStep s
  | .release k => (s.cleanup.advance k).map fun c => { s with cleanup := c }
  | .releaseEnds k =>
    match s.cleanup.calls[k]? with
    | some (.running handle) =>
      (s.cleanup.finish k (s.camera.closeCamera handle answers).1).map fun c =>
        { s with cleanup := c, camera := (s.camera.closeCamera handle answers).2 }
    | _ => none
  | .other o =>
    match s.pc with
    | .offering _ => none
    | .returned _ => none
    | _ =>
      if o.handle.isSome ∧ o.handle = s.session then none
      else some { s with camera := o.run s.camera }

/-- **The call**, on a controller with or without camera signaling. -/
def machine (enabled : Bool) : Machine State Action :=
  ⟨{ camera := { host := if enabled then some {} else none } },
    step function nodeId capabilities answers⟩

end Steps

/-! ## What a step of the coroutine can do -/

/-- The session a place between the recording and the end is about. -/
def Pc.handle : Pc → Option UInt64
  | .selecting handle => some handle
  | .validatingVideo handle _ _ => some handle
  | .validatingAudio handle _ => some handle
  | .readingPrivacy handle => some handle
  | .testing handle => some handle
  | .returned handle => some handle
  | _ => none

/-- **The steps of the coroutine**, by what they do to the rest of the state: `StartCamera`
throws, creates the session or returns it; the session is recorded; places that are
about it follow each other, or lead to the error handler; which calls `Release`,
waits for it and throws. -/
inductive MainStep (nodeId : UInt64) (s : State) : State → Prop
  | refused (camera : Camera) (exn : Exn) (pc : s.pc = .starting ∨ ∃ handle, s.pc = .offering handle)
      (kept : s.camera.Kept camera) :
      MainStep nodeId s { s with camera := camera, pc := .thrown exn }
  | create (a : CreateAnswers) (handle : UInt64) (pc : s.pc = .starting)
      (created : (s.camera.beginStart nodeId s.flag a).1 = .ok handle) :
      MainStep nodeId s
        { s with camera := (s.camera.beginStart nodeId s.flag a).2, pc := .offering handle }
  | start (a : OfferAnswers) (handle : UInt64) (pc : s.pc = .offering handle)
      (started : (s.camera.offer handle s.flag a).1 = none) :
      MainStep nodeId s
        { s with
          camera := (s.camera.offer handle s.flag a).2
          pc := .recording handle
          session := some handle }
  | record (stage : CameraStage) (pc : Pc) (handle : UInt64) (at_pc : s.pc = .recording handle)
      (next : pc.handle = some handle) :
      MainStep nodeId s
        { s with pc := pc, stage := stage, cleanup := s.cleanup.record handle }
  | move (stage : CameraStage) (pc : Pc) (handle : UInt64) (about : s.pc.handle = some handle)
      (next : pc.handle = some handle ∨ (∃ exn, pc = .rollback exn) ∨ pc = .crashed) :
      MainStep nodeId s (s.enter stage pc)
  | release (failure : Exn) (pc : s.pc = .rollback failure) :
      MainStep nodeId s
        { s with
          pc := .releasing s.cleanup.calls.length failure s.stage
          stage := .sessionEnd
          cleanup := s.cleanup.call }
  | released (k : ℕ) (failure exn : Exn) (outcome : Option Exn) (failedStage stage : CameraStage)
      (pc : s.pc = .releasing k failure failedStage)
      (back : s.cleanup.calls[k]? = some (.returned outcome)) :
      MainStep nodeId s (s.enter stage (.thrown exn))

/-- What throws where the session is recorded leads to the error handler. -/
theorem MainStep.throws {nodeId : UInt64} {s : State} {handle : UInt64} (exn : Exn)
    (about : s.pc.handle = some handle) : MainStep nodeId s (s.goto (.rollback exn)) :=
  .move s.stage _ handle about (Or.inr (Or.inl ⟨exn, rfl⟩))

/-- The check of the audio that was selected is about the same session. -/
theorem MainStep.checkAudio {nodeId : UInt64} {s : State} {handle : UInt64}
    (audio : Option UInt16) (about : s.pc.handle = some handle) :
    MainStep nodeId s (s.checkAudio handle audio) := by
  cases audio with
  | none => exact .move _ _ handle about (Or.inl rfl)
  | some audio => exact .move s.stage _ handle about (Or.inl rfl)

/-- The step function takes only these. -/
theorem mainStep_spec {function : Function} {nodeId : UInt64}
    {capabilities : MatterCameraAudioCapabilities} {s t : State} {a : Answer}
    (h : mainStep function nodeId capabilities s a = some t) : MainStep nodeId s t := by
  unfold mainStep at h
  cases hpc : s.pc <;> rw [hpc] at h
  case starting =>
    cases a with
    | throws exn =>
      cases h
      exact .refused s.camera _ (Or.inl hpc) (.of_host rfl rfl)
    | create a =>
      dsimp only at h
      split at h <;> cases h
      · exact .refused _ _ (Or.inl hpc) (s.camera.kept_beginStart nodeId s.flag a)
      · rename_i handle hcreated
        exact .create a handle hpc hcreated
    | _ => cases h
  case offering handle =>
    cases a with
    | offer a =>
      dsimp only at h
      split at h <;> cases h
      · exact .refused _ _ (Or.inr ⟨handle, hpc⟩) (s.camera.kept_offer handle s.flag a)
      · rename_i hstarted
        exact .start a handle hpc hstarted
    | _ => cases h
  case recording handle =>
    cases a with
    | go =>
      cases function <;> cases h
      · exact .record s.stage _ handle hpc rfl
      · exact .record _ _ handle hpc rfl
    | _ => cases h
  case selecting handle =>
    have about : s.pc.handle = some handle := by rw [hpc]; rfl
    cases a with
    | throws exn =>
      cases h
      exact .throws exn about
    | selected error video audio =>
      dsimp only at h
      split at h
      · cases h
        exact .throws _ about
      · split at h
        · cases h
          exact .throws _ about
        · cases video <;> cases h
          · exact .checkAudio audio about
          · exact .move s.stage _ handle about (Or.inl rfl)
    | _ => cases h
  case validatingVideo handle video audio =>
    have about : s.pc.handle = some handle := by rw [hpc]; rfl
    cases a with
    | throws exn =>
      cases h
      exact .throws exn about
    | videoStreams l =>
      dsimp only at h
      split at h <;> cases h
      · exact .throws _ about
      · exact .checkAudio audio about
    | _ => cases h
  case validatingAudio handle audio =>
    have about : s.pc.handle = some handle := by rw [hpc]; rfl
    cases a with
    | throws exn =>
      cases h
      exact .throws exn about
    | audioStreams l =>
      dsimp only at h
      split at h <;> cases h
      · exact .move s.stage _ handle about (Or.inr (Or.inr rfl))
      · exact .throws _ about
      · exact .move _ _ handle about (Or.inl rfl)
    | _ => cases h
  case readingPrivacy handle =>
    have about : s.pc.handle = some handle := by rw [hpc]; rfl
    cases a with
    | throws exn =>
      cases h
      exact .throws exn about
    | go =>
      cases h
      exact .move s.stage _ handle about (Or.inl rfl)
    | _ => cases h
  case testing handle =>
    have about : s.pc.handle = some handle := by rw [hpc]; rfl
    cases a with
    | go =>
      dsimp only at h
      split at h <;> cases h
      · exact .throws _ about
      · exact .move s.stage _ handle about (Or.inl rfl)
    | _ => cases h
  case rollback failure =>
    cases a <;> cases h
    exact .release failure hpc
  case releasing k failure failedStage =>
    cases a with
    | go =>
      dsimp only at h
      split at h <;> cases h
      · rename_i hback
        exact .released k failure failure none failedStage failedStage hpc hback
      · rename_i exn hback
        exact .released k failure exn (some exn) failedStage s.stage hpc hback
    | _ => cases h
  case returned handle | thrown exn | crashed => cases h

/-! ## What the phase of the release says of the session -/

section Runs

variable {function : Function} {nodeId : UInt64} {capabilities : MatterCameraAudioCapabilities}
  {answers : CloseAnswers}

/-- **The fate of a session**: it can be used until its release is over, and then it is
active exactly if the answers did not close it; or the controller is closed. -/
def Fate (answers : CloseAnswers) (c : Camera) (handle : UInt64) : Cleanup.Phase UInt64 Exn → Prop
  | .released _ _ => c.closed = true ∨ (c.Active handle ↔ ¬ answers.Closes)
  | _ => c.closed = true ∨ c.Valid handle

/-- **What others do does not change it.** -/
theorem Fate.other {c : Camera} {handle : UInt64} {ph : Cleanup.Phase UInt64 Exn}
    (h : Fate answers c handle ph) (hs : c.Spent handle) {o : Other}
    (hhandle : o.handle ≠ some handle) : Fate answers (o.run c) handle ph := by
  by_cases hclose : o = .close
  · -- the controller is closed
    subst hclose
    cases ph <;> exact Or.inl rfl
  have hapart := Other.apart hs hhandle hclose
  have hvalid : c.closed = true ∨ c.Valid handle →
      (o.run c).closed = true ∨ (o.run c).Valid handle := by
    rintro (hclosed | hv)
    · exact Or.inl (hapart.closed.trans hclosed)
    · obtain ⟨k, hk, hvk⟩ := hv
      exact Or.inr ⟨k, (hapart.active (Camera.Valid.active ⟨k, hk, hvk⟩)).trans hk, hvk⟩
  cases ph with
  | released id failure =>
    rcases h with hclosed | hiff
    · exact Or.inl (hapart.closed.trans hclosed)
    · refine Or.inr ⟨fun ha => ?_, fun hno => ?_⟩
      · rw [← hiff]
        by_contra hidle
        exact hapart.idle hidle ha
      · exact (hiff.mpr hno).of_host (hapart.active (hiff.mpr hno))
  | vacant => exact hvalid h
  | held id => exact hvalid h
  | releasing id k => exact hvalid h

/-- **The release decides it.** -/
theorem Fate.closeCamera {c : Camera} {handle id : UInt64} {failure : Option Exn}
    (h : c.closed = true ∨ c.Valid handle) :
    Fate answers (c.closeCamera handle answers).2 handle (.released id failure) := by
  by_cases hclosed : c.closed = true
  · exact Or.inl ((c.kept_closeCamera handle answers).closed.trans hclosed)
  · exact Or.inr (Camera.closeCamera_active_iff (Bool.eq_false_iff.mpr hclosed)
      (h.resolve_left hclosed) answers)

/-- The identifier recorded with the owner of the release: the session, from the
place after `Record` on. -/
def State.recorded (s : State) : Option UInt64 :=
  match s.pc with
  | .recording _ => none
  | _ => s.session

/-- **What each place knows of the session**: there is none before `StartCamera`
returns, and then it is the one the place is about. -/
def State.Place (s : State) : Prop :=
  match s.pc with
  | .starting => s.session = none
  | .offering handle =>
    s.session = none ∧ s.camera.closed = false ∧ s.camera.Valid handle ∧ s.camera.Spent handle
  | .rollback _ => s.session.isSome = true
  | .releasing _ _ _ => s.session.isSome = true
  | .thrown _ => True
  | .crashed => True
  | .recording handle => s.session = some handle
  | pc => pc.handle = s.session

/-- **The phase of the release and what is known by it**: its identifier, the fate of
the session, and that nothing was thrown with a session before it is over. -/
structure Phased (answers : CloseAnswers) (s : State) (ph : Cleanup.Phase UInt64 Exn) : Prop where
  at_phase : s.cleanup.At 0 ph
  id : ph.id = s.recorded
  spent : ∀ handle, s.session = some handle → s.camera.Spent handle
  fate : ∀ handle, s.session = some handle → Fate answers s.camera handle ph
  thrown : ∀ exn, s.pc = .thrown exn →
    s.session = none ∨ ∃ id failure, ph = .released id failure

/-- **The invariant of the call.** -/
structure Inv (answers : CloseAnswers) (s : State) : Prop where
  closed : s.camera.closed = true → s.camera.host = none
  place : s.Place
  phase : ∃ ph, Phased answers s ph

theorem inv_start (enabled : Bool) :
    Inv answers (machine function nodeId capabilities answers enabled).start where
  closed := fun h => by cases h
  place := rfl
  phase := by
    refine ⟨.vacant, Cleanup.at_vacant, rfl, fun _ h => ?_, fun _ h => ?_, fun _ h => ?_⟩ <;>
      cases h

/-- Nothing is recorded without a session. -/
theorem State.recorded_of_none {s : State} (h : s.session = none) : s.recorded = none := by
  unfold State.recorded
  split
  · rfl
  · exact h

theorem State.recorded_of_ne {s : State} (h : ∀ handle, s.pc ≠ .recording handle) :
    s.recorded = s.session := by
  unfold State.recorded
  split
  · rename_i handle hpc
    exact absurd hpc (h handle)
  · rfl

/-- The session a place is about. -/
theorem State.session_of_handle {s : State} {handle : UInt64} (h : s.Place)
    (hpc : s.pc.handle = some handle) : s.session = some handle := by
  unfold State.Place at h
  cases hs : s.pc <;> simp_all [Pc.handle]

/-- A place that is about the session may follow. -/
theorem State.place_of_handle {s : State} {handle : UInt64} (h : s.session = some handle)
    (hpc : s.pc.handle = some handle) : s.Place := by
  unfold State.Place
  cases hs : s.pc <;> simp_all [Pc.handle]

/-- A phase that knows no identifier is vacant. -/
theorem vacant_of_id {ph : Cleanup.Phase UInt64 Exn} (h : ph.id = none) : ph = .vacant := by
  cases ph with
  | vacant => rfl
  | held id => cases h
  | releasing id k => cases h
  | released id failure => cases h

/-- Without a session, the phase knows nothing else. -/
theorem Phased.of_none {s t : State} {ph : Cleanup.Phase UInt64 Exn}
    (h : Phased answers s ph) (hs : s.session = none) (ht : t.session = none)
    (hcleanup : t.cleanup = s.cleanup) : Phased answers t ph where
  at_phase := by
    rw [hcleanup]
    exact h.at_phase
  id := by rw [h.id, State.recorded_of_none hs, State.recorded_of_none ht]
  spent := fun _ hsession => by rw [ht] at hsession; cases hsession
  fate := fun _ hsession => by rw [ht] at hsession; cases hsession
  thrown := fun _ _ => Or.inl ht

/-- **The coroutine keeps the invariant.** -/
theorem Inv.main {s t : State} (h : Inv answers s) (hst : MainStep nodeId s t) :
    Inv answers t := by
  obtain ⟨ph, hph⟩ := h.phase
  have hplace := h.place
  cases hst with
  | refused camera exn pc kept =>
    have hnone : s.session = none := by
      rcases pc with pc | ⟨handle, pc⟩
      · rwa [State.Place, pc] at hplace
      · rw [State.Place, pc] at hplace
        exact hplace.1
    exact ⟨fun hc => kept.host (h.closed (kept.closed.symm.trans hc)), trivial, ph,
      hph.of_none hnone hnone rfl⟩
  | create a handle pc created =>
    rw [State.Place, pc] at hplace
    obtain ⟨hopen, hvalid, hspent, -⟩ := Camera.beginStart_ok created
    refine ⟨fun hc => ?_, ⟨hplace, hopen, hvalid, hspent⟩, ph, hph.of_none hplace hplace rfl⟩
    rw [hopen] at hc
    cases hc
  | start a handle pc started =>
    rw [State.Place, pc] at hplace
    obtain ⟨hnone, hopen, ⟨k, hk, hvalid⟩, hspent⟩ := hplace
    obtain ⟨hhost, hclosed⟩ :=
      (s.camera.offer_cases handle s.flag a).resolve_right fun hr => hr.1 started
    -- the session is there, and no release knows of it yet
    obtain rfl := vacant_of_id (by rw [hph.id, State.recorded_of_none hnone])
    refine ⟨fun hc => ?_, rfl, .vacant, hph.at_phase, rfl, fun _ hs => ?_, fun _ hs => ?_,
      fun _ hpc => by cases hpc⟩
    · rw [hclosed, hopen] at hc
      cases hc
    · cases hs
      exact ⟨hspent.1, fun k' hk' => hspent.2 k' (hhost.symm.trans hk')⟩
    · cases hs
      exact Or.inr ⟨k, hhost.trans hk, hvalid⟩
  | record stage pc handle at_pc next =>
    rw [State.Place, at_pc] at hplace
    obtain rfl := vacant_of_id (by rw [hph.id, State.recorded, at_pc])
    have hne : ∀ other, pc ≠ .recording other ∧ ∀ exn, pc ≠ .thrown exn := by
      intro other
      constructor
      · rintro rfl
        cases next
      · rintro exn rfl
        cases next
    refine ⟨h.closed, State.place_of_handle hplace next, .held handle,
      hph.at_phase.record handle, ?_, hph.spent, hph.fate,
      fun exn hpc => absurd hpc ((hne 0).2 exn)⟩
    rw [State.recorded_of_ne fun other => (hne other).1]
    exact hplace.symm
  | move stage pc handle about next =>
    have hsession := s.session_of_handle hplace about
    have hrecorded : s.recorded = s.session :=
      s.recorded_of_ne fun other hpc => by rw [hpc] at about; cases about
    have hne : (∀ other, pc ≠ .recording other) ∧ ∀ exn, pc ≠ .thrown exn := by
      rcases next with next | ⟨exn, rfl⟩ | rfl
      · constructor
        · rintro other rfl
          cases next
        · rintro exn rfl
          cases next
      · exact ⟨fun _ => by simp, fun _ => by simp⟩
      · exact ⟨fun _ => by simp, fun _ => by simp⟩
    refine ⟨h.closed, ?_, ph, hph.at_phase, ?_, hph.spent, hph.fate,
      fun exn hpc => absurd hpc (hne.2 exn)⟩
    · rcases next with next | ⟨exn, rfl⟩ | rfl
      · exact State.place_of_handle hsession next
      · exact Option.isSome_of_eq_some hsession
      · trivial
    · rw [hph.id, hrecorded, State.recorded_of_ne hne.1]
      rfl
  | release failure pc =>
    rw [State.Place, pc] at hplace
    have hrecorded : s.recorded = s.session := s.recorded_of_ne (by simp [pc])
    have hne : ph ≠ .vacant := by
      rintro rfl
      rw [← hrecorded, ← hph.id] at hplace
      cases hplace
    exact ⟨h.closed, hplace, ph, hph.at_phase.call hne, by rw [hph.id, hrecorded]; rfl,
      hph.spent, hph.fate, fun _ hpc => by cases hpc⟩
  | released k failure exn outcome failedStage stage pc back =>
    have hrecorded : s.recorded = s.session := s.recorded_of_ne (by simp [pc])
    refine ⟨h.closed, trivial, ph, hph.at_phase, by rw [hph.id, hrecorded]; rfl, hph.spent,
      hph.fate, fun _ _ => Or.inr ?_⟩
    obtain ⟨id, hreleased⟩ := hph.at_phase.of_returned (Nat.zero_le k) back
    exact ⟨id, outcome, hreleased⟩

/-- **What is known survives a step of the release** that moves to a phase of the same
identifier, with the session's fate what it was. -/
theorem Phased.move {s : State} {c : Cleanup UInt64 Exn} {ph ph' : Cleanup.Phase UInt64 Exn}
    (h : Phased answers s ph) (hat : c.At 0 ph') (hid : ph'.id = ph.id)
    (hfate : ∀ handle, Fate answers s.camera handle ph → Fate answers s.camera handle ph')
    (hreleased : ∀ id failure, ph = .released id failure → ph' = ph) :
    Phased answers { s with cleanup := c } ph' where
  at_phase := hat
  id := hid.trans h.id
  spent := h.spent
  fate := fun handle hs => hfate handle (h.fate handle hs)
  thrown := by
    intro exn hpc
    rcases h.thrown exn hpc with hnone | ⟨id, failure, hph⟩
    · exact Or.inl hnone
    · exact Or.inr ⟨id, failure, (hreleased id failure hph).trans hph⟩

/-- **The cancellation keeps the invariant.** -/
theorem Inv.cancel {s t : State} (h : Inv answers s) (hst : cancelStep s = some t) :
    Inv answers t := by
  obtain ⟨ph, hph⟩ := h.phase
  unfold cancelStep at hst
  split at hst
  · obtain rfl := Option.some.inj hst
    exact ⟨h.closed, h.place, ph, hph.at_phase, hph.id, hph.spent, hph.fate, hph.thrown⟩
  · obtain rfl := Option.some.inj hst
    exact ⟨h.closed, h.place, ph, hph.at_phase, hph.id, hph.spent, hph.fate, hph.thrown⟩
  · obtain rfl := Option.some.inj hst
    have hmove := hph.move hph.at_phase.cancel rfl (fun _ hf => hf) (fun _ _ _ => rfl)
    exact ⟨h.closed, h.place, ph, hmove.at_phase, hmove.id, hmove.spent, hmove.fate,
      hmove.thrown⟩
  · cases hst

/-- **A call of `Release` keeps the invariant.** -/
theorem Inv.release {s : State} {c : Cleanup UInt64 Exn} {k : ℕ} (h : Inv answers s)
    (hc : s.cleanup.advance k = some c) : Inv answers { s with cleanup := c } := by
  obtain ⟨ph, hph⟩ := h.phase
  rcases hph.at_phase.advance hc with hsame | ⟨id, rfl, hreleasing⟩
  · exact ⟨h.closed, h.place, ph, hph.move hsame rfl (fun _ hf => hf) (fun _ _ _ => rfl)⟩
  · exact ⟨h.closed, h.place, _,
      hph.move hreleasing rfl (fun _ hf => hf) (fun _ _ heq => by cases heq)⟩

/-- **The end of `CloseCamera` keeps the invariant**: it ran on the session, and the
answers decided its fate. -/
theorem Inv.releaseEnds {s : State} {c : Cleanup UInt64 Exn} {k : ℕ} {handle : UInt64}
    (h : Inv answers s) (hk : s.cleanup.calls[k]? = some (.running handle))
    (hc : s.cleanup.finish k (s.camera.closeCamera handle answers).1 = some c) :
    Inv answers
      { s with cleanup := c, camera := (s.camera.closeCamera handle answers).2 } := by
  obtain ⟨ph, hph⟩ := h.phase
  obtain ⟨id, rfl, hreleased⟩ := hph.at_phase.finish hc
  obtain rfl : id = handle := by
    have hrun := (hph.at_phase.runner id k rfl).symm.trans hk
    cases hrun
    rfl
  have hsession : s.session = some id := by
    have hrecorded := hph.id.symm
    unfold State.recorded at hrecorded
    split at hrecorded
    · cases hrecorded
    · exact hrecorded
  have hkept := s.camera.kept_closeCamera id answers
  refine ⟨fun hclosed => hkept.host (h.closed (hkept.closed.symm.trans hclosed)), ?_, _,
    hreleased, hph.id, fun handle hs => ?_, fun handle hs => ?_,
    fun _ _ => Or.inr ⟨id, _, rfl⟩⟩
  · have hplace := h.place
    unfold State.Place at hplace ⊢
    dsimp only
    split at hplace <;> simp_all
  · obtain rfl : handle = id := Option.some.inj (hs.symm.trans hsession)
    exact Camera.spent_closeCamera (hph.spent handle hs) answers
  · obtain rfl : handle = id := Option.some.inj (hs.symm.trans hsession)
    exact Fate.closeCamera (hph.fate handle hs)

/-- **The operations of others keep the invariant.** -/
theorem Inv.other {s : State} {o : Other} (h : Inv answers s)
    (hpc : ∀ handle, s.pc ≠ .offering handle)
    (hhandle : ∀ handle, s.session = some handle → o.handle ≠ some handle) :
    Inv answers { s with camera := o.run s.camera } := by
  obtain ⟨ph, hph⟩ := h.phase
  refine ⟨o.host_of_closed h.closed, ?_, ph, hph.at_phase, hph.id,
    fun handle hs => Other.spent (hph.spent handle hs) (hhandle handle hs),
    fun handle hs => (hph.fate handle hs).other (hph.spent handle hs) (hhandle handle hs),
    hph.thrown⟩
  have hplace := h.place
  unfold State.Place at hplace ⊢
  dsimp only
  split at hplace <;> simp_all

/-- **Every step keeps the invariant.** -/
theorem Inv.step {s t : State} {a : Action} (h : Inv answers s)
    (hst : step function nodeId capabilities answers s a = some t) : Inv answers t := by
  cases a with
  | main a => exact h.main (mainStep_spec hst)
  | cancel => exact h.cancel hst
  | release k =>
    obtain ⟨c, hc, rfl⟩ := Option.map_eq_some_iff.mp hst
    exact h.release hc
  | releaseEnds k =>
    unfold CameraStart.step at hst
    dsimp only at hst
    split at hst
    · rename_i handle hk
      obtain ⟨c, hc, rfl⟩ := Option.map_eq_some_iff.mp hst
      exact h.releaseEnds hk hc
    · cases hst
  | other o =>
    unfold CameraStart.step at hst
    dsimp only at hst
    split at hst
    · cases hst
    · cases hst
    · rename_i hoffering _
      split at hst
      · cases hst
      · rename_i hno
        obtain rfl := Option.some.inj hst
        refine h.other hoffering fun handle hs ho => hno ⟨by rw [ho]; rfl, ?_⟩
        rw [ho, hs]

/-! ## The session after an exception -/

/-- **When a failed start closes its session**: once the exception has left the
function, the session that `StartCamera` had returned is active no longer if and
only if the one run of `CloseCamera` was admitted and its local close succeeded,
or the controller was closed. -/
theorem session_closed_iff (function : Function) (nodeId : UInt64)
    (capabilities : MatterCameraAudioCapabilities) (answers : CloseAnswers) (enabled : Bool) :
    ∀ s, (machine function nodeId capabilities answers enabled).Reachable s →
      ∀ handle exn, s.session = some handle → s.pc = .thrown exn →
        (¬ s.camera.Active handle ↔ answers.Closes ∨ s.camera.closed = true) := by
  intro s hs handle exn hsession hpc
  have h : Inv answers s := hs.invariant (P := Inv answers) (inv_start enabled)
    fun _ _ _ _ hs hst => hs.step hst
  have hgone : s.camera.closed = true → ¬ s.camera.Active handle := by
    rintro hclosed ⟨-, k, hk, -⟩
    rw [h.closed hclosed] at hk
    cases hk
  obtain ⟨ph, hph⟩ := h.phase
  have hfate := hph.fate handle hsession
  rcases hph.thrown exn hpc with hnone | ⟨id, failure, rfl⟩
  · rw [hsession] at hnone
    cases hnone
  constructor
  · intro hidle
    rcases hfate with hclosed | hiff
    · exact Or.inr hclosed
    · exact Or.inl (by_contra fun hno => hidle (hiff.mpr hno))
  · rintro (hcloses | hclosed)
    · rcases hfate with hclosed | hiff
      · exact hgone hclosed
      · exact fun hactive => hiff.mp hactive hcloses
    · exact hgone hclosed

end Runs

/-- A start that is canceled after its session was returned, and then rolled back. -/
def canceledStart : List Action :=
  [.main (.create {}),
    .main (.offer { offer := { info := .ok ⟨5, some 1⟩ }, ending := { info := .error .notFound } }),
    .main .go, .cancel, .cancel, .main .go, .main .go, .release 0, .releaseEnds 0, .main .go]

/-- What the rollback is answered, where the node's gate answers as given. -/
def rollbackAnswers (node : Option Exn) : CloseAnswers where
  cleanup := true
  node := node
  gate := none
  ending := { info := .ok ⟨5, some 1⟩ }
  closeSession := .noError
  unregister := .noError

/-- A camera that offers no audio. -/
def noAudio : MatterCameraAudioCapabilities := ⟨none, 0⟩

/-- With the gate of the node granted, the canceled start closes its session. -/
theorem session_closed_canceled :
    ∃ s, (machine .startPreparedCamera 5 noAudio (rollbackAnswers none) true).run
        (machine .startPreparedCamera 5 noAudio (rollbackAnswers none) true).start
        canceledStart = some s ∧ ¬ s.camera.Active 1 := by
  have hcloses : (rollbackAnswers none).Closes := ⟨⟨rfl, rfl, rfl⟩, rfl, rfl⟩
  refine ⟨_, rfl, ?_⟩
  exact (session_closed_iff .startPreparedCamera 5 noAudio (rollbackAnswers none) true _
    (Machine.reachable_iff_run.mpr ⟨canceledStart, rfl⟩) 1 .canceled rfl rfl).mpr
      (Or.inl hcloses)

/-- **A session left behind**: the gate of the node is not granted in time, the start
has thrown, and its session is active – while it is, every other start is refused
(`CameraHost.create_of_active`). -/
theorem session_left_active :
    ¬ ∀ function nodeId capabilities answers enabled s,
      (machine function nodeId capabilities answers enabled).Reachable s →
        ∀ handle exn, s.session = some handle → s.pc = .thrown exn →
          ¬ s.camera.Active handle := by
  intro h
  have hrun : ((machine .startPreparedCamera 5 noAudio
      (rollbackAnswers (some (.hresult .timeout))) true).run
        (machine .startPreparedCamera 5 noAudio
          (rollbackAnswers (some (.hresult .timeout))) true).start canceledStart).map
      (fun s => (s.session, s.pc, s.camera.host.map CameraHost.activeHandle))
        = some (some 1, .thrown (.hresult .timeout), some 1) := rfl
  obtain ⟨s, hs, heq⟩ := Option.map_eq_some_iff.mp hrun
  simp only [Prod.mk.injEq] at heq
  obtain ⟨hsession, hpc, hactive⟩ := heq
  obtain ⟨k, hk, hk1⟩ := Option.map_eq_some_iff.mp hactive
  exact h _ _ _ _ _ s (Machine.reachable_start _ |>.run hs) 1 _ hsession hpc
    ⟨by decide, k, hk, hk1⟩

end CameraStart
