import MatterController.CameraSessions

/-!
# The camera operations, each as one function

`CameraSessions` takes the operations of a controller apart, because there it
matters what comes between their steps. Who starts a session and has to close it
again sees them whole: `StartCamera` and `CloseCamera` are here functions of the
camera and of all that the locks and the native stack answer, and they say which
exception they throw.

One function a call is no loss for the session in question. `StartCamera` has
the camera gate from before the session is created until it returns, and while a
session is nobody else's, no other operation on its handle comes between the
steps of `CloseCamera`.

What an operation does to a session is said by two predicates on the camera,
`Valid` and `Active`, and by `Spent`: its handle was handed out and will not be
again. An operation with another handle leaves an active session and starts no
session with a spent handle (`Other.apart`).
-/

/-- **Whether a handle was handed out**: the counter is past it, or at its end. -/
def CameraHost.Spent (h : CameraHost) (handle : UInt64) : Prop :=
  handle ≠ 0 ∧ (h.nextHandle = 0 ∨ handle < h.nextHandle)

namespace CameraSessions

/-- What `Send` is answered: the native metadata, whether the command is dispatched,
and what it returns. -/
structure SendAnswers where
  info : Except ChipError SessionInfo
  dispatched : Bool := true
  result : ChipError := .noError

/-- What `StartCamera` is answered from the offer on: by the offer and the metadata
of the session, and – where it must end what it has created – by the end, and by
the native steps of the local close. -/
structure OfferAnswers where
  offer : SendAnswers
  metadata : ChipError := .noError
  ending : SendAnswers
  closeSession : ChipError := .noError
  unregister : ChipError := .noError

/-- **What `CloseCamera` is answered**: by the three admissions, the lease for a
cleanup, the gate of the node and that of the camera; by the end; and by the
native steps of the local close. -/
structure CloseAnswers where
  cleanup : Bool
  node : Option Exn
  gate : Option Exn
  ending : SendAnswers
  closeSession : ChipError
  unregister : ChipError

/-- All three admissions are granted. -/
structure CloseAnswers.Admitted (a : CloseAnswers) : Prop where
  cleanup : a.cleanup = true
  node : a.node = none
  gate : a.gate = none

/-- **The answers that close a session**: all admissions are granted, and the native
steps of the local close succeed. -/
structure CloseAnswers.Closes (a : CloseAnswers) : Prop extends a.Admitted where
  closeSession : a.closeSession = .noError
  unregister : a.unregister = .noError

namespace Camera

/-- `Send`, with the error it returns. -/
def send (c : Camera) (command : CameraCommand) (handle : UInt64) (a : SendAnswers) :
    ChipError × Camera :=
  match c.host with
  | none => (.incorrectState, c.log .fault)
  | some h =>
    match h.sendStart command handle a.info with
    | .returns error => (error, c)
    | .runs node =>
      (a.result, if a.dispatched then c.dispatch command handle ⟨h.endpoint, node⟩ else c)

/-- What `CloseLocal` returns. -/
def closeLocalError (c : Camera) (handle : UInt64) (closeSession unregister : ChipError) :
    ChipError :=
  match c.host.bind fun h => h.closeLocal handle closeSession unregister with
  | none => .noError
  | some r => r.1

/-- **`StartCamera` up to the offer**, after its admissions: the handle of the session
created, or what it throws. -/
def beginStart (c : Camera) (nodeId : UInt64) (canceled : Bool) (a : CreateAnswers) :
    Except Exn UInt64 × Camera :=
  match c.usable with
  | none => (.error (.hresult .illegalMethodCall), c)
  | some h =>
    if canceled then (.error .canceled, c)
    else
      match (h.create nodeId a).1 with
      | .error error => (.error (.chip error), (c.create nodeId a).1)
      | .ok handle => (.ok handle, (c.create nodeId a).1)

/-- What `StartCamera` does where it fails with a session created: it ends and closes
it, and only logs if that fails. -/
def abandon (c : Camera) (handle : UInt64) (a : OfferAnswers) : Camera :=
  (c.send .endSession handle a.ending).2.closeLocal handle a.closeSession a.unregister

/-- A cancellation that comes during an offer counts after it. -/
def offerError (sent : ChipError) (canceled : Bool) : ChipError :=
  if sent = .noError ∧ canceled then .cancelled else sent

/-- **`StartCamera` from the offer on**: nothing, or what it throws. -/
def offer (c : Camera) (handle : UInt64) (canceled : Bool) (a : OfferAnswers) :
    Option Exn × Camera :=
  let sent := c.send .offer handle a.offer
  let error := offerError sent.1 canceled
  if error ≠ .noError then
    (some (if error = .cancelled then .canceled else .chip error), sent.2.abandon handle a)
  else
    match sent.2.host with
    | none => (none, sent.2.log .fault)
    | some h =>
      let error := h.getSessionInfo handle a.metadata
      if error ≠ .noError then (some (.chip error), sent.2.abandon handle a)
      else (none, sent.2)

/-- **`CloseCamera`.** The local close comes whatever the remote end returned, and its
own error is reported first. -/
def closeCamera (c : Camera) (handle : UInt64) (a : CloseAnswers) : Option Exn × Camera :=
  if a.cleanup = false then (none, c)
  else match c.usable with
    | none => (none, c)
    | some h =>
      if h.validate handle ≠ .noError then (none, c)
      else match h.getPeerNode handle, a.node, a.gate with
        | .error error, _, _ => (some (.chip error), c)
        | .ok _, some exn, _ => (some exn, c)
        | .ok _, none, some exn => (some exn, c)
        | .ok _, none, none =>
          -- the second look, behind the gates, finds the host of the first
          let sent := c.send .endSession handle a.ending
          let error := sent.2.closeLocalError handle a.closeSession a.unregister
          let closed := sent.2.closeLocal handle a.closeSession a.unregister
          if error ≠ .noError then (some (.chip error), closed)
          else if sent.1 ≠ .noError then (some (.chip sent.1), closed)
          else (none, closed)

/-! ## What the parts leave -/

/-- A dispatched command leaves the host. -/
theorem dispatch_spec (c : Camera) (command : CameraCommand) (handle : UInt64)
    (o : CommandOperation) :
    (c.dispatch command handle o).host = c.host ∧
      (c.dispatch command handle o).closed = c.closed := by
  unfold dispatch
  split
  · split <;> exact ⟨rfl, rfl⟩
  · exact ⟨rfl, rfl⟩

/-- `Send` leaves the host. -/
theorem send_spec (c : Camera) (command : CameraCommand) (handle : UInt64) (a : SendAnswers) :
    (c.send command handle a).2.host = c.host ∧
      (c.send command handle a).2.closed = c.closed := by
  unfold send
  split
  · exact ⟨rfl, rfl⟩
  · split
    · exact ⟨rfl, rfl⟩
    · dsimp only
      split
      · exact c.dispatch_spec command handle _
      · exact ⟨rfl, rfl⟩

/-- The camera keeps the host that `CloseLocal` leaves. -/
theorem closeLocal_spec (c : Camera) (handle : UInt64) (closeSession unregister : ChipError) :
    (c.closeLocal handle closeSession unregister).closed = c.closed ∧
      ((c.closeLocal handle closeSession unregister).host = c.host ∨
        ∃ h r, c.host = some h ∧ h.closeLocal handle closeSession unregister = some r ∧
          (c.closeLocal handle closeSession unregister).host = some r.2) := by
  unfold closeLocal
  cases hh : c.host with
  | none => exact ⟨rfl, Or.inl hh⟩
  | some h =>
    dsimp only
    cases hr : h.closeLocal handle closeSession unregister with
    | none => exact ⟨rfl, Or.inl hh⟩
    | some r =>
      dsimp only
      split <;> exact ⟨rfl, Or.inr ⟨h, r, rfl, hr, rfl⟩⟩

/-- **The controller is as it was**: not closed or closed, and without a host where it
had none. -/
structure Kept (c c' : Camera) : Prop where
  closed : c'.closed = c.closed
  host : c.host = none → c'.host = none

theorem Kept.of_host {c c' : Camera} (hhost : c'.host = c.host) (hclosed : c'.closed = c.closed) :
    Kept c c' := ⟨hclosed, fun h => hhost.trans h⟩

theorem Kept.trans {c c' c'' : Camera} (h : Kept c c') (h' : Kept c' c'') : Kept c c'' :=
  ⟨h'.closed.trans h.closed, fun hn => h'.host (h.host hn)⟩

theorem kept_send (c : Camera) (command : CameraCommand) (handle : UInt64) (a : SendAnswers) :
    Kept c (c.send command handle a).2 :=
  .of_host (c.send_spec command handle a).1 (c.send_spec command handle a).2

theorem kept_closeLocal (c : Camera) (handle : UInt64) (closeSession unregister : ChipError) :
    Kept c (c.closeLocal handle closeSession unregister) := by
  obtain ⟨hclosed, hhost | ⟨h, r, hh, -⟩⟩ := c.closeLocal_spec handle closeSession unregister
  · exact .of_host hhost hclosed
  · exact ⟨hclosed, fun hn => by rw [hh] at hn; cases hn⟩

/-- `Create` leaves its host to the camera. -/
theorem create_host {c : Camera} {h : CameraHost} (hu : c.usable = some h) (nodeId : UInt64)
    (a : CreateAnswers) :
    (c.create nodeId a).1.host = some (h.create nodeId a).2 ∧
      (c.create nodeId a).1.closed = c.closed := by
  unfold create
  rw [hu]
  dsimp only
  split <;> exact ⟨rfl, rfl⟩

theorem closed_of_usable {c : Camera} {h : CameraHost} (hu : c.usable = some h) :
    c.closed = false := by
  unfold usable at hu
  split at hu
  · cases hu
  · rename_i hc
    exact Bool.eq_false_iff.mpr hc

theorem usable_of_host {c : Camera} {h : CameraHost} (hopen : c.closed = false)
    (hh : c.host = some h) : c.usable = some h := by
  unfold usable
  rw [if_neg (by rw [hopen]; exact Bool.false_ne_true), hh]

/-! ## The session of a handle -/

/-- The session of a handle can be used: it is active, with its endpoint and its
client. -/
def Valid (c : Camera) (handle : UInt64) : Prop :=
  ∃ h, c.host = some h ∧ h.validate handle = .noError

/-- The handle was handed out. -/
def Spent (c : Camera) (handle : UInt64) : Prop :=
  handle ≠ 0 ∧ ∀ h, c.host = some h → h.Spent handle

theorem Valid.active {c : Camera} {handle : UInt64} (hv : c.Valid handle) : c.Active handle := by
  obtain ⟨h, hh, hvalid⟩ := hv
  obtain ⟨hne, hactive, -⟩ := CameraHost.validate_iff.mp hvalid
  exact ⟨hne, h, hh, hactive.symm⟩

theorem Active.of_host {c c' : Camera} {handle : UInt64} (hhost : c'.host = c.host)
    (ha : c.Active handle) : c'.Active handle := by
  obtain ⟨hne, h, hh, hactive⟩ := ha
  exact ⟨hne, h, hhost.trans hh, hactive⟩

/-- **What an operation apart from a handle does to its session**: nothing, if it is
active; and if it is not, it does not become active. -/
structure Apart (handle : UInt64) (c c' : Camera) : Prop where
  closed : c'.closed = c.closed
  spent : c'.Spent handle
  active : c.Active handle → c'.host = c.host
  idle : ¬ c.Active handle → ¬ c'.Active handle

theorem Apart.of_host {c c' : Camera} {handle : UInt64} (hs : c.Spent handle)
    (hhost : c'.host = c.host) (hclosed : c'.closed = c.closed) : Apart handle c c' where
  closed := hclosed
  spent := ⟨hs.1, fun h hh => hs.2 h (hhost.symm.trans hh)⟩
  active := fun _ => hhost
  idle := fun hidle hactive => hidle (hactive.of_host hhost.symm)

theorem Apart.trans {c c' c'' : Camera} {handle : UInt64} (h : Apart handle c c')
    (h' : Apart handle c' c'') : Apart handle c c'' where
  closed := h'.closed.trans h.closed
  spent := h'.spent
  active := fun ha => (h'.active (ha.of_host (h.active ha))).trans (h.active ha)
  idle := fun hidle => h'.idle (h.idle hidle)

/-- `Send` is apart from every session, its own included. -/
theorem apart_send {c : Camera} {handle : UInt64} (hs : c.Spent handle)
    (command : CameraCommand) (handle' : UInt64) (a : SendAnswers) :
    Apart handle c (c.send command handle' a).2 :=
  .of_host hs (c.send_spec command handle' a).1 (c.send_spec command handle' a).2

/-- Closing another handle is apart from the session. -/
theorem apart_closeLocal {c : Camera} {handle handle' : UInt64} (hs : c.Spent handle)
    (hne : handle' ≠ handle) (closeSession unregister : ChipError) :
    Apart handle c (c.closeLocal handle' closeSession unregister) := by
  obtain ⟨hclosed, hhost | ⟨h, r, hh, hr, hhost⟩⟩ :=
    c.closeLocal_spec handle' closeSession unregister
  · exact .of_host hs hhost hclosed
  rcases CameraHost.closeLocal_spec hr with hsame | ⟨hactive, hnext, hor⟩
  · exact .of_host hs (by rw [hhost, hsame, hh]) hclosed
  · refine ⟨hclosed, ⟨hs.1, fun k hk => ?_⟩, fun ha => ?_, fun _ ha => ?_⟩
    · rw [hhost] at hk
      obtain rfl := Option.some.inj hk
      refine ⟨hs.1, ?_⟩
      rw [hnext]
      exact (hs.2 h hh).2
    · -- the session that is active is the other
      obtain ⟨-, k, hk, ha⟩ := ha
      rw [hh] at hk
      obtain rfl := Option.some.inj hk
      exact absurd (hactive.trans ha) hne
    · obtain ⟨hzero, k, hk, ha⟩ := ha
      rw [hhost] at hk
      obtain rfl := Option.some.inj hk
      rcases hor with hor | hor
      · exact hne (hactive.trans (hor.symm.trans ha))
      · exact hzero (ha.symm.trans hor)

/-- The next handle is not one that was handed out. -/
theorem nextHandle_ne {h : CameraHost} {handle : UInt64} (hs : h.Spent handle)
    (hn : h.nextHandle ≠ 0) : h.nextHandle ≠ handle := by
  rintro rfl
  exact absurd (hs.2.resolve_left hn) (UInt64.lt_irrefl _)

/-- A counter that counts is past where it was, or at its end. -/
theorem zero_or_lt_succ (n : UInt64) : n + 1 = 0 ∨ n < n + 1 := by
  by_cases hlast : n + 1 = 0
  · exact Or.inl hlast
  · refine Or.inr (UInt64.lt_add_one fun hmax => hlast ?_)
    rw [hmax]
    rfl

/-- **Starting a session is apart from the sessions before.** -/
theorem apart_create {c : Camera} {h : CameraHost} (hu : c.usable = some h) {handle : UInt64}
    (hs : c.Spent handle) (nodeId : UInt64) (a : CreateAnswers) :
    Apart handle c (c.create nodeId a).1 := by
  have hh := host_of_usable hu
  obtain ⟨hhost, hclosed⟩ := create_host hu nodeId a
  rcases h.create_spec nodeId a with ⟨e, -, hr⟩ | ⟨hidle, -, hn, ⟨e, native, -, hr⟩ | hr⟩
  · rw [hr] at hhost
    exact .of_host hs (hhost.trans hh.symm) hclosed
  all_goals
    rw [hr] at hhost
    have hnone : ¬ c.Active handle := by
      rintro ⟨hzero, k, hk, ha⟩
      rw [hh] at hk
      obtain rfl := Option.some.inj hk
      exact hzero (ha.symm.trans hidle)
    refine ⟨hclosed, ⟨hs.1, fun k hk => ⟨hs.1, ?_⟩⟩, fun ha => absurd ha hnone, fun _ ha => ?_⟩
  · rw [hhost] at hk
    obtain rfl := Option.some.inj hk
    exact (hs.2 h hh).2
  · obtain ⟨hzero, k, hk, ha⟩ := ha
    rw [hhost] at hk
    obtain rfl := Option.some.inj hk
    exact hzero (ha.symm.trans hidle)
  · rw [hhost] at hk
    obtain rfl := Option.some.inj hk
    exact (zero_or_lt_succ h.nextHandle).imp_right
      (UInt64.lt_trans ((hs.2 h hh).2.resolve_left hn))
  · obtain ⟨-, k, hk, ha⟩ := ha
    rw [hhost] at hk
    obtain rfl := Option.some.inj hk
    exact nextHandle_ne (hs.2 h hh) hn ha

/-! ## What the operations do -/

/-- **A session that was created** can be used, its handle was handed out, and the
controller is open. -/
theorem beginStart_ok {c : Camera} {nodeId handle : UInt64} {canceled : Bool}
    {a : CreateAnswers} (hr : (c.beginStart nodeId canceled a).1 = .ok handle) :
    (c.beginStart nodeId canceled a).2.closed = false ∧
      (c.beginStart nodeId canceled a).2.Valid handle ∧
      (c.beginStart nodeId canceled a).2.Spent handle ∧
      ∀ other, c.Spent other → handle ≠ other := by
  unfold beginStart at hr ⊢
  cases hu : c.usable with
  | none =>
    rw [hu] at hr
    cases hr
  | some h =>
    rw [hu] at hr
    dsimp only at hr ⊢
    split at hr
    · cases hr
    rename_i hc
    rw [if_neg hc]
    obtain ⟨hhost, hclosed⟩ := create_host hu nodeId a
    rcases h.create_spec nodeId a with ⟨e, -, hcr⟩ | ⟨-, -, hn, ⟨e, native, -, hcr⟩ | hcr⟩ <;>
      rw [hcr] at hr hhost <;> cases hr
    rw [hcr]
    refine ⟨hclosed.trans (closed_of_usable hu), ⟨_, hhost, ?_⟩, ⟨hn, fun k hk => ?_⟩,
      fun other hs => nextHandle_ne (hs.2 h (host_of_usable hu)) hn⟩
    · exact CameraHost.validate_iff.mpr ⟨hn, rfl, rfl, rfl⟩
    · rw [hhost] at hk
      obtain rfl := Option.some.inj hk
      exact ⟨hn, zero_or_lt_succ h.nextHandle⟩

/-- Creating keeps the controller. -/
theorem kept_beginStart (c : Camera) (nodeId : UInt64) (canceled : Bool) (a : CreateAnswers) :
    Kept c (c.beginStart nodeId canceled a).2 := by
  unfold beginStart
  cases hu : c.usable with
  | none => exact .of_host rfl rfl
  | some h =>
    have hcreate : Kept c (c.create nodeId a).1 :=
      ⟨(create_host hu nodeId a).2, fun hn => by rw [host_of_usable hu] at hn; cases hn⟩
    dsimp only
    split
    · exact .of_host rfl rfl
    · split <;> exact hcreate

/-- Creating is apart from the sessions before. -/
theorem apart_beginStart {c : Camera} {handle : UInt64} (hs : c.Spent handle)
    (nodeId : UInt64) (canceled : Bool) (a : CreateAnswers) :
    Apart handle c (c.beginStart nodeId canceled a).2 := by
  unfold beginStart
  cases hu : c.usable with
  | none => exact .of_host hs rfl rfl
  | some h =>
    dsimp only
    split
    · exact .of_host hs rfl rfl
    · split <;> exact apart_create hu hs nodeId a

/-- **An offer** succeeds and leaves the host, or throws and abandons the session. -/
theorem offer_cases (c : Camera) (handle : UInt64) (canceled : Bool) (a : OfferAnswers) :
    ((c.offer handle canceled a).2.host = c.host ∧
        (c.offer handle canceled a).2.closed = c.closed) ∨
      ((c.offer handle canceled a).1 ≠ none ∧
        (c.offer handle canceled a).2 = (c.send .offer handle a.offer).2.abandon handle a) := by
  have hsend := c.send_spec .offer handle a.offer
  unfold offer
  dsimp only
  split
  · exact Or.inr ⟨Option.some_ne_none _, rfl⟩
  · split
    · exact Or.inl hsend
    · split
      · exact Or.inr ⟨Option.some_ne_none _, rfl⟩
      · exact Or.inl hsend

/-- Any offer keeps the controller. -/
theorem kept_offer (c : Camera) (handle : UInt64) (canceled : Bool) (a : OfferAnswers) :
    Kept c (c.offer handle canceled a).2 := by
  rcases c.offer_cases handle canceled a with ⟨hhost, hclosed⟩ | ⟨-, habandon⟩
  · exact .of_host hhost hclosed
  · rw [habandon]
    have hkept := (c.kept_send .offer handle a.offer).trans (kept_send _ .endSession handle a.ending)
    exact hkept.trans (kept_closeLocal _ handle a.closeSession a.unregister)

/-- An offer is apart from every other session. -/
theorem apart_offer {c : Camera} {handle handle' : UInt64} (hs : c.Spent handle)
    (hne : handle' ≠ handle) (canceled : Bool) (a : OfferAnswers) :
    Apart handle c (c.offer handle' canceled a).2 := by
  rcases c.offer_cases handle' canceled a with ⟨hhost, hclosed⟩ | ⟨-, habandon⟩
  · exact .of_host hs hhost hclosed
  · have hsend := apart_send hs .offer handle' a.offer
    have hend := hsend.trans (apart_send hsend.spent .endSession handle' a.ending)
    rw [habandon]
    exact hend.trans (apart_closeLocal hend.spent hne a.closeSession a.unregister)

/-- **A close that is admitted**, of a session that can be used, sends the end and
closes locally. -/
theorem closeCamera_admitted {c : Camera} {handle : UInt64} {a : CloseAnswers}
    (ha : a.Admitted) (hopen : c.closed = false) (hv : c.Valid handle) :
    (c.closeCamera handle a).2
      = (c.send .endSession handle a.ending).2.closeLocal handle a.closeSession a.unregister := by
  obtain ⟨h, hh, hvalid⟩ := hv
  have hpeer : h.getPeerNode handle = .ok h.peerNode := if_neg (not_not_intro hvalid)
  unfold closeCamera
  rw [if_neg (by rw [ha.cleanup]; exact Bool.noConfusion), usable_of_host hopen hh]
  dsimp only
  rw [if_neg (not_not_intro hvalid), hpeer, ha.node, ha.gate]
  dsimp only
  split
  · rfl
  · split <;> rfl

/-- **Every other close** leaves the camera. -/
theorem closeCamera_left {c : Camera} {handle : UInt64} {a : CloseAnswers}
    (hno : ¬ (a.Admitted ∧ c.closed = false ∧ c.Valid handle)) :
    (c.closeCamera handle a).2 = c := by
  unfold closeCamera
  split
  · rfl
  rename_i hcleanup
  cases hu : c.usable with
  | none => rfl
  | some h =>
    dsimp only
    split
    · rfl
    rename_i hvalid
    split
    · rfl
    · rfl
    · rfl
    · rename_i hnode hgate
      exact absurd ⟨⟨Bool.eq_true_of_not_eq_false hcleanup, hnode, hgate⟩, closed_of_usable hu,
        h, host_of_usable hu, Decidable.not_not.mp hvalid⟩ hno

/-- A close leaves the camera, or sends the end and closes locally. -/
theorem closeCamera_cases (c : Camera) (handle : UInt64) (a : CloseAnswers) :
    (c.closeCamera handle a).2 = c ∨ (c.closeCamera handle a).2
      = (c.send .endSession handle a.ending).2.closeLocal handle a.closeSession
          a.unregister := by
  by_cases h : a.Admitted ∧ c.closed = false ∧ c.Valid handle
  · exact Or.inr (closeCamera_admitted h.1 h.2.1 h.2.2)
  · exact Or.inl (closeCamera_left h)

/-- Closing keeps the controller. -/
theorem kept_closeCamera (c : Camera) (handle : UInt64) (a : CloseAnswers) :
    Kept c (c.closeCamera handle a).2 := by
  rcases c.closeCamera_cases handle a with hleft | hclosed
  · rw [hleft]
    exact .of_host rfl rfl
  · rw [hclosed]
    exact (c.kept_send .endSession handle a.ending).trans
      (kept_closeLocal _ handle a.closeSession a.unregister)

/-- **Closing another handle is apart from the session.** -/
theorem apart_closeCamera {c : Camera} {handle handle' : UInt64} (hs : c.Spent handle)
    (hne : handle' ≠ handle) (a : CloseAnswers) :
    Apart handle c (c.closeCamera handle' a).2 := by
  rcases c.closeCamera_cases handle' a with hleft | hclosed
  · rw [hleft]
    exact .of_host hs rfl rfl
  · have hsend := apart_send hs .endSession handle' a.ending
    rw [hclosed]
    exact hsend.trans (apart_closeLocal hsend.spent hne a.closeSession a.unregister)

/-- A handle that was handed out stays so when its session is closed. -/
theorem spent_closeCamera {c : Camera} {handle : UInt64} (hs : c.Spent handle)
    (a : CloseAnswers) : (c.closeCamera handle a).2.Spent handle := by
  rcases c.closeCamera_cases handle a with hleft | hclosed
  · rw [hleft]
    exact hs
  have hsent := (apart_send hs .endSession handle a.ending).spent
  rw [hclosed]
  obtain ⟨-, hsame | ⟨h, r, hh, hr, hhost⟩⟩ := closeLocal_spec
    (c.send .endSession handle a.ending).2 handle a.closeSession a.unregister
  · exact ⟨hs.1, fun k hk => hsent.2 k (hsame.symm.trans hk)⟩
  · refine ⟨hs.1, fun k hk => ⟨hs.1, ?_⟩⟩
    rw [hhost] at hk
    obtain rfl := Option.some.inj hk
    rcases CameraHost.closeLocal_spec hr with hsame | ⟨-, hnext, -⟩
    · rw [hsame]
      exact (hsent.2 h hh).2
    · rw [hnext]
      exact (hsent.2 h hh).2

/-- **What becomes of a session that is closed**, where it can be used and the
controller is open: it is active no longer exactly if the answers close it. -/
theorem closeCamera_active_iff {c : Camera} {handle : UInt64} (hopen : c.closed = false)
    (hv : c.Valid handle) (a : CloseAnswers) :
    (c.closeCamera handle a).2.Active handle ↔ ¬ a.Closes := by
  by_cases ha : a.Admitted
  · rw [closeCamera_admitted ha hopen hv]
    obtain ⟨h, hh, hvalid⟩ := hv
    obtain ⟨hne, rfl, hendpoint, -⟩ := CameraHost.validate_iff.mp hvalid
    have hsent : (c.send .endSession h.activeHandle a.ending).2.host = some h :=
      (c.send_spec .endSession h.activeHandle a.ending).1.trans hh
    obtain ⟨e, he⟩ := Option.isSome_iff_exists.mp hendpoint
    unfold closeLocal
    rw [hsent]
    dsimp only
    rcases CameraHost.closeLocal_active hendpoint a.closeSession a.unregister with
      ⟨hsession, hunregister, hr⟩ | ⟨hfails, error, -, hr⟩
    · rw [hr, he]
      refine ⟨fun ⟨_, k, hk, hactive⟩ => ?_, fun hno => absurd ⟨ha, hsession, hunregister⟩ hno⟩
      obtain rfl := Option.some.inj hk
      exact absurd hactive.symm hne
    · rw [hr, he]
      exact ⟨fun _ hcloses => hfails ⟨hcloses.closeSession, hcloses.unregister⟩,
        fun _ => ⟨hne, _, rfl, rfl⟩⟩
  · rw [closeCamera_left fun h => ha h.1]
    exact ⟨fun _ hcloses => ha hcloses.toAdmitted, fun _ => hv.active⟩

end Camera

/-! ## The operations of others -/

/-- **What else may happen to the camera** while nobody has the camera gate: another
caller starts a session, another session is closed, or the controller is. -/
inductive Other
  | startCamera (nodeId : UInt64) (canceledBefore canceledAfter : Bool) (create : CreateAnswers)
      (offer : OfferAnswers)
  | closeCamera (handle : UInt64) (a : CloseAnswers)
  | close

/-- The handle an operation is called with. -/
def Other.handle : Other → Option UInt64
  | .closeCamera handle _ => some handle
  | _ => none

/-- The operation, from its first step to its last. -/
def Other.run (c : Camera) : Other → Camera
  | .startCamera nodeId canceledBefore canceledAfter create offer =>
    match (c.beginStart nodeId canceledBefore create).1 with
    | .error _ => (c.beginStart nodeId canceledBefore create).2
    | .ok handle => ((c.beginStart nodeId canceledBefore create).2.offer handle canceledAfter offer).2
  | .closeCamera handle a => (c.closeCamera handle a).2
  | .close => { c with host := none, closed := true }

/-- The operations of others leave no host to a closed controller. -/
theorem Other.host_of_closed {c : Camera} (hc : c.closed = true → c.host = none) (o : Other)
    (hclosed : (o.run c).closed = true) : (o.run c).host = none := by
  have hkept : ∀ c', Camera.Kept c c' → c'.closed = true → c'.host = none :=
    fun c' hk hc' => hk.host (hc (hk.closed.symm.trans hc'))
  cases o with
  | startCamera nodeId canceledBefore canceledAfter create offer =>
    have hbegin := c.kept_beginStart nodeId canceledBefore create
    refine hkept _ ?_ hclosed
    unfold Other.run
    dsimp only
    split
    · exact hbegin
    · exact hbegin.trans (Camera.kept_offer _ _ canceledAfter offer)
  | closeCamera handle a => exact hkept _ (c.kept_closeCamera handle a) hclosed
  | close => rfl

/-- **The operations of others are apart from a session** whose handle they do not
have, but for the end of the controller. -/
theorem Other.apart {c : Camera} {handle : UInt64} (hs : c.Spent handle) {o : Other}
    (hhandle : o.handle ≠ some handle) (hclose : o ≠ .close) :
    Camera.Apart handle c (o.run c) := by
  cases o with
  | startCamera nodeId canceledBefore canceledAfter create offer =>
    have hbegin := Camera.apart_beginStart hs nodeId canceledBefore create
    unfold Other.run
    dsimp only
    split
    · exact hbegin
    · rename_i handle' hr
      obtain ⟨-, -, -, hnew⟩ := Camera.beginStart_ok hr
      exact hbegin.trans (Camera.apart_offer hbegin.spent (hnew handle hs) canceledAfter offer)
  | closeCamera handle' a =>
    exact Camera.apart_closeCamera hs (fun heq => hhandle (congrArg some heq)) a
  | close => exact absurd rfl hclose

/-- A handle that was handed out stays so. -/
theorem Other.spent {c : Camera} {handle : UInt64} (hs : c.Spent handle) {o : Other}
    (hhandle : o.handle ≠ some handle) : (o.run c).Spent handle := by
  by_cases hclose : o = .close
  · subst hclose
    exact ⟨hs.1, fun h hh => by cases hh⟩
  · exact (Other.apart hs hhandle hclose).spent

end CameraSessions
