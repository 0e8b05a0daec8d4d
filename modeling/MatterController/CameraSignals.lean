import Mathlib.Algebra.GroupWithZero.Nat
import MatterController.Errors
import MatterController.Machine

/-!
# Waiting for the signals of a camera session

The native stack queues the signals of a session. `WaitForSignalAsync` polls
the queue until there is one, its deadline is over or it is canceled, and
returns the signal as the projection shows it.

A poll takes the signal off the queue first, and then builds what it returns.
Two things can still go wrong. The projected candidates check their fields, and
a native candidate that fails the check – an empty text, which ends the
candidates of a stream, is one – is thrown as an invalid argument. And the
operation can be canceled before it completes, so that its result is
discarded. In both cases the signal is gone and nobody has it.

`none_lost` says that nothing else loses one: in every run in which the signals
taken can be projected, and no cancellation meets a wait between its last test
and its completion, the signals returned are those that arrived, in their order.
-/

namespace CameraSignals

/-- A candidate as the native stack holds it, in bytes. -/
structure NativeCandidate where
  candidate : List UInt8
  mid : Option (List UInt8) := none
  lineIndex : Option UInt16 := none
  deriving DecidableEq, Repr

/-- **A native signal.** -/
structure NativeSignal where
  type : UInt8
  sdp : List UInt8 := []
  candidates : List NativeCandidate := []
  error : UInt32 := 0
  protocolId : Option UInt16 := none
  reason : UInt8 := 0
  deriving DecidableEq, Repr

/-- The bytes of a text in UTF-8, as `to_string` makes them. -/
def utf8Size (text : List Char) : ℕ := (text.map Char.utf8Size).sum

/-- The check of `MatterCameraIceCandidate`. -/
def candidateValid (candidate mid : List Char) (lineIndex : Int) : Bool :=
  !(candidate.isEmpty || 2048 < utf8Size candidate || candidate.contains '\x00' ||
    256 < utf8Size mid || mid.contains '\x00' || lineIndex < -1 || 65535 ≤ lineIndex)

/-- **A candidate as an application sees it**: its fields are within their
bounds. -/
structure MatterCameraIceCandidate where
  candidate : List Char
  mid : List Char
  lineIndex : Int
  valid : candidateValid candidate mid lineIndex = true
  deriving DecidableEq

/-- The constructor of a projected candidate. -/
def MatterCameraIceCandidate.make (candidate mid : List Char) (lineIndex : Int) :
    Except Exn MatterCameraIceCandidate :=
  if h : candidateValid candidate mid lineIndex = true then .ok ⟨candidate, mid, lineIndex, h⟩
  else .error (.hresult .invalidArgument)

/-- **A signal as an application sees it.** -/
structure MatterCameraSignal where
  handle : UInt64
  kind : UInt8
  sdp : List Char
  candidates : List MatterCameraIceCandidate
  error : UInt32
  protocolId : Option UInt16
  reason : UInt8
  deriving DecidableEq

/-! ## The projection of a signal

`toHstring` is the conversion of native text. Nothing is asked of it. -/

section
variable (toHstring : List UInt8 → List Char)

/-- A native candidate, projected: an absent identifier is an empty one, an absent
line index is −1. -/
def projectCandidate (c : NativeCandidate) : Except Exn MatterCameraIceCandidate :=
  MatterCameraIceCandidate.make (toHstring c.candidate) ((c.mid.map toHstring).getD [])
    ((c.lineIndex.map fun i => (i.toNat : Int)).getD (-1))

/-- The candidates of a signal, projected one after the other. -/
def projectCandidates : List NativeCandidate → Except Exn (List MatterCameraIceCandidate)
  | [] => .ok []
  | c :: cs =>
    match projectCandidate toHstring c with
    | .error exn => .error exn
    | .ok value =>
      match projectCandidates cs with
      | .error exn => .error exn
      | .ok values => .ok (value :: values)

/-- A native signal, projected. -/
def projectSignal (handle : UInt64) (signal : NativeSignal) : Except Exn MatterCameraSignal :=
  match projectCandidates toHstring signal.candidates with
  | .error exn => .error exn
  | .ok candidates =>
    .ok {
      handle := handle
      kind := signal.type
      sdp := toHstring signal.sdp
      candidates := candidates
      error := signal.error
      protocolId := signal.protocolId
      reason := signal.reason }

/-- Whether a native candidate passes the check of its projection. -/
def candidateFits (c : NativeCandidate) : Bool :=
  candidateValid (toHstring c.candidate) ((c.mid.map toHstring).getD [])
    ((c.lineIndex.map fun i => (i.toNat : Int)).getD (-1))

/-- **A signal whose candidates all pass their check is projected.** -/
theorem projectSignal_of_fits (handle : UInt64) {signal : NativeSignal}
    (h : ∀ c ∈ signal.candidates, candidateFits toHstring c = true) :
    ∃ value, projectSignal toHstring handle signal = .ok value := by
  have hlist : ∀ cs : List NativeCandidate, (∀ c ∈ cs, candidateFits toHstring c = true) →
      ∃ values, projectCandidates toHstring cs = .ok values := by
    intro cs hcs
    induction cs with
    | nil => exact ⟨[], rfl⟩
    | cons c cs ih =>
      obtain ⟨values, hvalues⟩ := ih (fun d hd => hcs d (List.mem_cons_of_mem c hd))
      have hc : ∃ value, projectCandidate toHstring c = .ok value :=
        ⟨_, dif_pos (hcs c List.mem_cons_self)⟩
      obtain ⟨value, hvalue⟩ := hc
      exact ⟨value :: values, by rw [projectCandidates, hvalue, hvalues]⟩
  obtain ⟨values, hvalues⟩ := hlist signal.candidates h
  exact ⟨_, by rw [projectSignal, hvalues]⟩

end

/-! ## The wait -/

/-- **Where a wait stands**: at the head of its loop, about to poll, about to
complete with a signal, or after a poll that found none. -/
inductive Pc
  | head
  | polling
  | returning (signal : MatterCameraSignal)
  | between
  deriving DecidableEq

/-- **A wait**, with whether it was canceled and – to speak about it – the signals
it took off the queue. -/
structure Wait where
  pc : Pc := .head
  canceled : Bool := false
  taken : List NativeSignal := []
  deriving DecidableEq

/-- How a wait ended, and what it took. -/
structure Outcome where
  result : Except Exn MatterCameraSignal
  taken : List NativeSignal

/-- **The state of a session's signals**: the native queue and the wait there may
be, and – to speak about it – the signals that arrived and how waits ended. -/
structure State where
  queue : List NativeSignal := []
  wait : Option Wait := none
  arrived : List NativeSignal := []
  outcomes : List Outcome := []

/-- What a step of a wait is answered: it goes on, another operation has the lock
a poll tries to get, the poll throws before it takes a signal, or the deadline is
over. -/
inductive Answer
  | go
  | busy
  | throws (exn : Exn)
  | expires
  deriving DecidableEq, Repr

/-- **A step**: a signal arrives, an application waits or cancels its wait, or the
wait takes its next step. -/
inductive Action
  | arrive (signal : NativeSignal)
  | wait (timeoutMilliseconds : UInt32)
  | cancel
  | advance (a : Answer)
  deriving DecidableEq, Repr

/-- The wait moves. -/
def State.setPc (s : State) (w : Wait) (pc : Pc) : State :=
  { s with wait := some { w with pc := pc } }

/-- The wait ends. -/
def State.leave (s : State) (w : Wait) (result : Except Exn MatterCameraSignal) : State :=
  { s with wait := none, outcomes := s.outcomes ++ [⟨result, w.taken⟩] }

/-- A call of `WaitForSignalAsync` that does not become a wait. -/
def State.refuse (s : State) (code : HResult) : State :=
  { s with outcomes := s.outcomes ++ [⟨.error (.hresult code), []⟩] }

section
variable (toHstring : List UInt8 → List Char) (handle : UInt64)

/-- `PollCameraSignal`, once it has its locks and the session is valid: the head
of the queue is taken, and then projected. -/
def State.poll (s : State) (w : Wait) : State :=
  match s.queue with
  | [] => s.setPc w .between
  | signal :: rest =>
    let w := { w with taken := w.taken ++ [signal] }
    match projectSignal toHstring handle signal with
    | .error exn => { s.leave w (.error exn) with queue := rest }
    | .ok value => { s.setPc w (.returning value) with queue := rest }

/-- **The next step of the wait.** The result of an operation that was canceled is
discarded. -/
def advance (s : State) (w : Wait) (a : Answer) : Option State :=
  match w.pc, a with
  | .head, .go =>
    if w.canceled then some (s.leave w (.error .canceled)) else some (s.setPc w .polling)
  | .polling, .throws exn => some (s.leave w (.error exn))
  | .polling, .busy => some (s.setPc w .between)
  | .polling, .go => some (s.poll toHstring handle w)
  | .returning value, .go =>
    some (s.leave w (if w.canceled then .error .canceled else .ok value))
  | .between, .expires => some (s.leave w (.error (.hresult .timeout)))
  | .between, .go => some (s.setPc w .head)
  | _, _ => none

/-- **The step of a session's signals.** One wait is allowed at a time. -/
def step (s : State) : Action → Option State
  | .arrive signal =>
    some { s with queue := s.queue ++ [signal], arrived := s.arrived ++ [signal] }
  | .wait timeoutMilliseconds =>
    if timeoutMilliseconds = 0 ∨ 30000 < timeoutMilliseconds then
      some (s.refuse .invalidArgument)
    else if s.wait.isSome then some (s.refuse .illegalMethodCall)
    else some { s with wait := some {} }
  | .cancel => s.wait.map fun w => { s with wait := some { w with canceled := true } }
  | .advance a => s.wait.bind fun w => advance toHstring handle s w a

/-- **The signals of a session**, none of them yet. -/
def machine : Machine State Action := ⟨{}, step toHstring handle⟩

/-- **A step that loses nothing**: a signal is taken only if its candidates pass
their check and the wait is not canceled, and a wait that has taken one is not
canceled. -/
def Lossless (s : State) : Action → Prop
  | .advance .go => ∀ w signal rest, s.wait = some w → w.pc = .polling →
      s.queue = signal :: rest →
      (∀ c ∈ signal.candidates, candidateFits toHstring c = true) ∧ w.canceled = false
  | .cancel => ∀ w value, s.wait = some w → w.pc ≠ .returning value
  | _ => True

/-- The signal a wait that is about to complete holds. -/
def State.held (s : State) : List NativeSignal :=
  match s.wait with
  | none => []
  | some w => w.taken

/-- The signals returned, in their order. -/
def State.returned (s : State) : List MatterCameraSignal :=
  s.outcomes.filterMap fun o => o.result.toOption

/-- **No signal is lost or duplicated**: the signals that arrived are those
returned, in their order, then the one a wait is about to return, then the queue;
and a wait that ended otherwise has consumed nothing. -/
def NoneLost (s : State) : Prop :=
  (∃ consumed, s.arrived = consumed ++ s.held ++ s.queue ∧
    consumed.map (projectSignal toHstring handle) = s.returned.map .ok) ∧
  ∀ o ∈ s.outcomes, ∀ exn, o.result = .error exn → o.taken = []

/-! ## What a step can do -/

/-- **The steps of a wait**, by what they do to the queue. -/
inductive Step (s : State) (w : Wait) (a : Answer) : State → Prop
  | move (pc : Pc) (holds : ∀ value, pc ≠ .returning value)
      (before : ∀ value, w.pc ≠ .returning value) : Step s w a (s.setPc w pc)
  | fail (exn : Exn) (before : ∀ value, w.pc ≠ .returning value) :
      Step s w a (s.leave w (.error exn))
  | complete (value : MatterCameraSignal) (pc : w.pc = .returning value) :
      Step s w a (s.leave w (if w.canceled then .error .canceled else .ok value))
  | take (signal : NativeSignal) (rest : List NativeSignal) (answer : a = .go)
      (pc : w.pc = .polling) (queue : s.queue = signal :: rest) :
      Step s w a (s.poll toHstring handle w)

/-- Every step of a wait is one of these. -/
theorem advance_spec {s t : State} {w : Wait} {a : Answer}
    (h : advance toHstring handle s w a = some t) : Step toHstring handle s w a t := by
  unfold advance at h
  cases hpc : w.pc <;> rw [hpc] at h
  case head =>
    cases a with
    | go =>
      dsimp only at h
      split at h <;> cases h
      · exact .fail _ (by simp [hpc])
      · exact .move .polling (by simp) (by simp [hpc])
    | _ => cases h
  case polling =>
    cases a with
    | throws exn =>
      cases h
      exact .fail exn (by simp [hpc])
    | busy =>
      cases h
      exact .move .between (by simp) (by simp [hpc])
    | go =>
      cases h
      cases hq : s.queue with
      | cons signal rest => exact .take signal rest rfl hpc hq
      | nil =>
        have hpoll : s.poll toHstring handle w = s.setPc w .between := by
          rw [State.poll, hq]
        rw [hpoll]
        exact .move .between (by simp) (by simp [hpc])
    | expires => cases h
  case returning value =>
    cases a <;> cases h
    exact .complete value hpc
  case between =>
    cases a with
    | expires =>
      cases h
      exact .fail _ (by simp [hpc])
    | go =>
      cases h
      exact .move .head (by simp) (by simp [hpc])
    | _ => cases h

/-! ## The invariant -/

/-- What a wait holds: the signal it is about to return, and else nothing. -/
def Wait.Holds (w : Wait) : Prop :=
  match w.pc with
  | .returning value =>
    ∃ signal, w.taken = [signal] ∧ projectSignal toHstring handle signal = .ok value ∧
      w.canceled = false
  | _ => w.taken = []

/-- What a wait that ended took: the signal it returned, or nothing. -/
def Outcome.Took (o : Outcome) : Prop :=
  (∃ signal value, o.taken = [signal] ∧ o.result = .ok value ∧
    projectSignal toHstring handle signal = .ok value) ∨
  (o.taken = [] ∧ ∃ exn, o.result = .error exn)

/-- **The invariant**: what arrived is what ended waits took, what the wait holds
and what is queued. -/
structure Inv (s : State) : Prop where
  arrived : s.arrived = s.outcomes.flatMap Outcome.taken ++ s.held ++ s.queue
  holds : ∀ w, s.wait = some w → w.Holds toHstring handle
  took : ∀ o ∈ s.outcomes, o.Took toHstring handle

variable {toHstring handle}

theorem inv_start : Inv toHstring handle (machine toHstring handle).start where
  arrived := rfl
  holds := fun w h => by cases h
  took := fun o h => by cases h

theorem Wait.taken_of_not_returning {w : Wait} (h : w.Holds toHstring handle)
    (hpc : ∀ value, w.pc ≠ .returning value) : w.taken = [] := by
  unfold Wait.Holds at h
  split at h
  · rename_i value hv
    exact absurd hv (hpc value)
  · exact h

theorem Wait.holds_of_not_returning {w : Wait} (h : w.taken = [])
    (hpc : ∀ value, w.pc ≠ .returning value) : w.Holds toHstring handle := by
  unfold Wait.Holds
  split
  · rename_i value hv
    exact absurd hv (hpc value)
  · exact h

/-- One more wait that ended. -/
theorem Inv.took_concat {s : State} (h : Inv toHstring handle s) {o : Outcome}
    (ho : o.Took toHstring handle) : ∀ o' ∈ s.outcomes ++ [o], o'.Took toHstring handle := by
  intro o' ho'
  rcases List.mem_append.mp ho' with hmem | hmem
  · exact h.took o' hmem
  · rw [List.mem_singleton.mp hmem]
    exact ho

theorem flatMap_taken_concat (os : List Outcome) (o : Outcome) :
    (os ++ [o]).flatMap Outcome.taken = os.flatMap Outcome.taken ++ o.taken := by
  rw [List.flatMap_append, List.flatMap_singleton]

/-- A wait that ends with what it took leaves the invariant. -/
theorem Inv.leave {s : State} (h : Inv toHstring handle s) {w : Wait}
    (hw : s.wait = some w) {result : Except Exn MatterCameraSignal}
    (ho : Outcome.Took toHstring handle ⟨result, w.taken⟩) :
    Inv toHstring handle (s.leave w result) where
  arrived := by
    have harrived := h.arrived
    rw [State.held, hw] at harrived
    show s.arrived = (s.outcomes ++ [_]).flatMap Outcome.taken ++ [] ++ s.queue
    rw [flatMap_taken_concat, List.append_nil]
    exact harrived
  holds := fun w' h' => by cases h'
  took := h.took_concat ho

/-- **A poll that takes a signal it can project, for a wait that is not
canceled, keeps the invariant**: the signal moves from the queue to the wait. -/
theorem Inv.poll {s : State} (h : Inv toHstring handle s) {w : Wait}
    (hw : s.wait = some w) (hpc : w.pc = .polling) {signal : NativeSignal}
    {rest : List NativeSignal} (hq : s.queue = signal :: rest)
    (hfits : ∀ c ∈ signal.candidates, candidateFits toHstring c = true)
    (hcancel : w.canceled = false) : Inv toHstring handle (s.poll toHstring handle w) := by
  obtain ⟨value, hvalue⟩ := projectSignal_of_fits toHstring handle hfits
  have htaken : w.taken = [] :=
    Wait.taken_of_not_returning (h.holds w hw) (by rw [hpc]; exact fun _ => Pc.noConfusion)
  have hpoll : s.poll toHstring handle w
      = { s.setPc { w with taken := [signal] } (.returning value) with queue := rest } := by
    rw [State.poll, hq]
    dsimp only
    rw [hvalue, htaken]
    rfl
  rw [hpoll]
  refine ⟨?_, fun w' hw' => ?_, h.took⟩
  · have harrived := h.arrived
    rw [State.held, hw, hq] at harrived
    dsimp only at harrived
    rw [htaken, List.append_nil] at harrived
    show s.arrived = s.outcomes.flatMap Outcome.taken ++ [signal] ++ rest
    rw [harrived, List.append_assoc]
    rfl
  · obtain rfl := Option.some.inj hw'
    exact ⟨signal, rfl, hvalue, hcancel⟩

/-- A call that is refused takes nothing off the queue. -/
theorem Inv.refuse {s : State} (h : Inv toHstring handle s) (code : HResult) :
    Inv toHstring handle (s.refuse code) := by
  refine ⟨?_, h.holds, h.took_concat (Or.inr ⟨rfl, _, rfl⟩)⟩
  show s.arrived = (s.outcomes ++ [_]).flatMap Outcome.taken ++ s.held ++ s.queue
  rw [flatMap_taken_concat, List.append_nil]
  exact h.arrived

/-- **Every step that loses nothing keeps the invariant.** -/
theorem Inv.step {s t : State} {a : Action} (h : Inv toHstring handle s)
    (hok : Lossless toHstring s a) (hst : step toHstring handle s a = some t) :
    Inv toHstring handle t := by
  unfold CameraSignals.step at hst
  cases a with
  | arrive signal =>
    obtain rfl := Option.some.inj hst
    refine ⟨?_, h.holds, h.took⟩
    show s.arrived ++ [signal] = s.outcomes.flatMap Outcome.taken ++ s.held ++ (s.queue ++ [signal])
    rw [h.arrived, List.append_assoc _ s.queue]
  | wait timeoutMilliseconds =>
    dsimp only at hst
    split at hst
    · obtain rfl := Option.some.inj hst
      exact h.refuse _
    · split at hst
      · obtain rfl := Option.some.inj hst
        exact h.refuse _
      · rename_i hfree
        obtain rfl := Option.some.inj hst
        have hnone : s.wait = none := by
          cases hw : s.wait with
          | none => rfl
          | some w => rw [hw] at hfree; exact absurd rfl hfree
        refine ⟨?_, fun w hw => ?_, h.took⟩
        · have harrived := h.arrived
          rw [State.held, hnone] at harrived
          exact harrived
        · obtain rfl := Option.some.inj hw
          exact rfl
  | cancel =>
    obtain ⟨w, hw, rfl⟩ := Option.map_eq_some_iff.mp hst
    have hpc : ∀ value, w.pc ≠ .returning value := fun value => hok w value hw
    have htaken := Wait.taken_of_not_returning (h.holds w hw) hpc
    refine ⟨?_, fun w' hw' => ?_, h.took⟩
    · have harrived := h.arrived
      rw [State.held, hw] at harrived
      exact harrived
    · obtain rfl := Option.some.inj hw'
      exact Wait.holds_of_not_returning htaken hpc
  | advance a =>
    obtain ⟨w, hw, ha⟩ := Option.bind_eq_some_iff.mp hst
    have hstep := advance_spec toHstring handle ha
    cases hstep with
    | move pc holds before =>
      have htaken := Wait.taken_of_not_returning (h.holds w hw) before
      refine ⟨?_, fun w' hw' => ?_, h.took⟩
      · have harrived := h.arrived
        rw [State.held, hw] at harrived
        exact harrived
      · obtain rfl := Option.some.inj hw'
        exact Wait.holds_of_not_returning htaken holds
    | fail exn before =>
      have htaken := Wait.taken_of_not_returning (h.holds w hw) before
      exact h.leave hw (Or.inr ⟨htaken, exn, rfl⟩)
    | complete value pc =>
      have hholds := h.holds w hw
      rw [Wait.Holds, pc] at hholds
      obtain ⟨signal, htaken, hvalue, hcancel⟩ := hholds
      rw [hcancel]
      exact h.leave hw (Or.inl ⟨signal, value, htaken, rfl, hvalue⟩)
    | take signal rest answer pc queue =>
      subst answer
      obtain ⟨hfits, hcancel⟩ := hok w signal rest hw pc queue
      exact h.poll hw pc queue hfits hcancel

/-- What ended waits took, projected, is what they returned. -/
theorem map_project_taken {os : List Outcome} (h : ∀ o ∈ os, o.Took toHstring handle) :
    (os.flatMap Outcome.taken).map (projectSignal toHstring handle)
      = (os.filterMap fun o => o.result.toOption).map .ok := by
  induction os with
  | nil => rfl
  | cons o os ih =>
    have htail := ih (fun o' ho' => h o' (List.mem_cons_of_mem o ho'))
    rcases h o List.mem_cons_self with ⟨signal, value, htaken, hresult, hvalue⟩ |
      ⟨htaken, exn, hresult⟩
    · rw [List.flatMap_cons, htaken, List.map_append, htail,
        List.filterMap_cons_some (b := value) (by rw [hresult]; rfl), List.map_cons,
        List.map_cons, hvalue]
      rfl
    · rw [List.flatMap_cons, htaken, List.nil_append, htail,
        List.filterMap_cons_none (by rw [hresult]; rfl)]

variable (toHstring handle)

/-- **No signal is lost or duplicated**, in every run whose steps lose nothing. -/
theorem none_lost : ∀ s, (machine toHstring handle).ReachableWithin (Lossless toHstring) s →
    NoneLost toHstring handle s := by
  intro s hs
  have hinv : Inv toHstring handle s := hs.invariant (P := Inv toHstring handle) inv_start
    (fun _ _ _ _ h hok hst => h.step hok hst)
  refine ⟨⟨_, hinv.arrived, map_project_taken hinv.took⟩, fun o ho exn hexn => ?_⟩
  rcases hinv.took o ho with ⟨signal, value, -, hresult, -⟩ | ⟨htaken, -⟩
  · rw [hexn] at hresult
    cases hresult
  · exact htaken

end

/-- Text that is ASCII. -/
def asciiHstring (bytes : List UInt8) : List Char := bytes.map fun b => Char.ofNat b.toNat

/-- An answer with one candidate. -/
def answer : NativeSignal where
  type := 1
  sdp := [118]
  candidates := [{ candidate := [97], mid := some [48], lineIndex := some 0 }]

/-- The answer arrives and is returned. -/
theorem none_lost_returned :
    ∃ s, (machine asciiHstring 7).run (machine asciiHstring 7).start
        [.arrive answer, .wait 1000, .advance .go, .advance .go, .advance .go] = some s ∧
      s.returned.length = 1 ∧ NoneLost asciiHstring 7 s := by
  refine ⟨_, rfl, rfl, none_lost asciiHstring 7 _ ?_⟩
  refine .step (a := .advance .go) (.step (a := .advance .go) (.step (a := .advance .go)
    (.step (a := .wait 1000) (.step (a := .arrive answer) .start trivial rfl) trivial rfl)
    ?_ rfl) ?_ rfl) ?_ rfl
  all_goals
    intro w signal rest hw hpc hq
    obtain rfl := Option.some.inj hw
  · cases hpc
  · obtain ⟨rfl, -⟩ := List.cons.inj hq
    exact ⟨by decide, rfl⟩
  · cases hpc

/-- A signal that ends the candidates of a stream with an empty one arrives, and
is waited for. -/
def emptyCandidate : List Action :=
  [.arrive { type := 2, candidates := [{ candidate := [] }] }, .wait 1000,
    .advance .go, .advance .go]

/-- **A signal lost**: the wait has thrown, and what it took is neither returned nor
queued. -/
theorem signal_lost :
    ¬ ∀ toHstring handle s, (machine toHstring handle).Reachable s →
      NoneLost toHstring handle s := by
  intro h
  have hrun : ((machine asciiHstring 7).run (machine asciiHstring 7).start emptyCandidate).map
      (fun s => (s.outcomes.map fun o => (o.taken.length, o.result), s.queue))
        = some ([(1, .error (.hresult .invalidArgument))], []) := rfl
  obtain ⟨s, hs, heq⟩ := Option.map_eq_some_iff.mp hrun
  have hmem : (1, .error (.hresult .invalidArgument)) ∈
      s.outcomes.map fun o => (o.taken.length, o.result) := by
    rw [(Prod.mk.inj heq).1]
    exact List.mem_singleton_self _
  obtain ⟨o, ho, hfields⟩ := List.mem_map.mp hmem
  obtain ⟨hlength, hresult⟩ := Prod.mk.inj hfields
  have hreach := (machine asciiHstring 7).reachable_start.run hs
  have htaken := (h asciiHstring 7 s hreach).2 o ho _ hresult
  rw [htaken] at hlength
  cases hlength

end CameraSignals
