import Mathlib.Algebra.GroupWithZero.Nat
import Mathlib.Data.List.Basic
import Mathlib.Tactic.Common

/-!
# A release that runs once

What a camera operation acquired – an allocated stream, a started session –
must be given back when the operation fails or is canceled, and kept when it
succeeds. `PendingCameraRelease` is the object that owes this: `Record` stores
the identifier, `Cancel` and the error handlers call `Release`, from any
thread, and the first `Release` that finds an identifier runs the release
function while every later one waits for its outcome.

`Release` is three critical sections with the release function running between
the first two, so a call of it is a small state of its own (`ReleaseCall`), and
`Cleanup` is the object with all calls of `Release` made so far, in order, and
with the list of the release function's runs. Nothing here says who calls
when: a machine that uses a `Cleanup` decides that.

`Phase` is what the object is for, without the calls: nothing recorded, an
identifier held, its release under way, or over. `Cleanup.At` relates the two,
and one lemma for each operation says how the phase moves. The release
function runs at most once, and only on the recorded identifier, because the
phases move one way and carry its runs (`Phase.runs`); and once a call was made
after the recording and all calls returned, it ran (`Cleanup.At.exists_released`).
-/

/-- **The owner of a release** (`PendingCameraRelease`), for an identifier type
`ι` and the failures `ε` its release function may throw. -/
structure PendingCameraRelease (ι ε : Type) where
  stream : Option ι := none
  failure : Option ε := none
  canceled : Bool := false
  releaseStarted : Bool := false
  releaseFinished : Bool := false
  deriving DecidableEq, Repr

/-- **Where one call of `Release` stands**: not in its first critical section
yet, running the release function, waiting for the call that does, or back –
with what it throws, if anything. -/
inductive ReleaseCall (ι ε : Type)
  | entering
  | running (id : ι)
  | waiting
  | returned (failure : Option ε)
  deriving DecidableEq, Repr

/-- **The cancellation of the operation that owes the release**: not requested,
requested, with the flag the operation polls stored, and with the callback
done – the flag is stored before the owner is canceled. -/
inductive Cancellation
  | idle
  | requested
  | stored
  | done
  deriving DecidableEq, Repr

/-- The steps a cancellation has left, with the call its callback may spawn. -/
def Cancellation.weight : Cancellation → ℕ
  | .idle => 5
  | .requested => 4
  | .stored => 3
  | .done => 0

/-- The steps a call has left, at most. -/
def ReleaseCall.weight {ι ε : Type} : ReleaseCall ι ε → ℕ
  | .entering => 2
  | .running _ => 1
  | .waiting => 1
  | .returned _ => 0

namespace PendingCameraRelease

variable {ι ε : Type}

/-- The critical section of `Cancel`, and whether it spawns `ReleaseCanceled`. -/
def cancel (r : PendingCameraRelease ι ε) : PendingCameraRelease ι ε × Bool :=
  ({ r with canceled := true }, r.stream.isSome)

/-- The critical section of `Record`, and whether it spawns `ReleaseCanceled`. -/
def record (id : ι) (r : PendingCameraRelease ι ε) : PendingCameraRelease ι ε × Bool :=
  ({ r with stream := some id }, r.canceled)

/-- The first critical section of `Release`, and where it leaves the call. -/
def enter (r : PendingCameraRelease ι ε) : PendingCameraRelease ι ε × ReleaseCall ι ε :=
  if r.releaseStarted then (r, .waiting)
  else match r.stream with
    | none => (r, .returned none)
    | some id => ({ r with releaseStarted := true }, .running id)

@[simp] theorem canceled_enter (r : PendingCameraRelease ι ε) :
    r.enter.1.canceled = r.canceled := by
  unfold enter
  split
  · rfl
  · split <;> rfl

/-- The critical section of `Release` after the release function returned, or
threw `failure`. -/
def finish (failure : Option ε) (r : PendingCameraRelease ι ε) :
    PendingCameraRelease ι ε :=
  { r with
    failure := failure
    releaseFinished := true
    stream := if failure.isNone then none else r.stream }

end PendingCameraRelease

/-- **An owner with the calls of its `Release`**, in the order they were made,
and the runs of its release function. -/
structure Cleanup (ι ε : Type) where
  owner : PendingCameraRelease ι ε := {}
  calls : List (ReleaseCall ι ε) := []
  invocations : List ι := []
  deriving DecidableEq, Repr

namespace Cleanup

variable {ι ε : Type}

/-- One more call of `Release`; its index is the number of calls before. -/
def call (p : Cleanup ι ε) : Cleanup ι ε :=
  { p with calls := p.calls ++ [.entering] }

/-- `Cancel`, with the call it may spawn. -/
def cancel (p : Cleanup ι ε) : Cleanup ι ε :=
  let (owner, spawn) := p.owner.cancel
  if spawn then { p with owner := owner }.call else { p with owner := owner }

/-- `Record`, with the call it may spawn. -/
def record (id : ι) (p : Cleanup ι ε) : Cleanup ι ε :=
  let (owner, spawn) := p.owner.record id
  if spawn then { p with owner := owner }.call else { p with owner := owner }

/-- The next step of a call that is entering, or waiting for a release that is
over. -/
def advance (k : ℕ) (p : Cleanup ι ε) : Option (Cleanup ι ε) :=
  match p.calls[k]? with
  | some .entering =>
    some { p with
      owner := p.owner.enter.1
      calls := p.calls.set k p.owner.enter.2
      invocations := match p.owner.enter.2 with
        | .running id => p.invocations ++ [id]
        | _ => p.invocations }
  | some .waiting =>
    if p.owner.releaseFinished then
      some { p with calls := p.calls.set k (.returned p.owner.failure) }
    else none
  | _ => none

/-- The release function that call `k` runs returns, or throws `failure`. -/
def finish (k : ℕ) (failure : Option ε) (p : Cleanup ι ε) : Option (Cleanup ι ε) :=
  match p.calls[k]? with
  | some (.running _) =>
    some { p with
      owner := p.owner.finish failure
      calls := p.calls.set k (.returned failure) }
  | _ => none

/-- Every call made so far is back. -/
def Settled (p : Cleanup ι ε) : Prop :=
  ∀ c ∈ p.calls, ∃ failure, c = .returned failure

/-! ## The phases of a release -/

/-- **The life of a release**: nothing recorded, an identifier held, its
release run by one call, and the outcome of that run. -/
inductive Phase (ι ε : Type)
  | vacant
  | held (id : ι)
  | releasing (id : ι) (k : ℕ)
  | released (id : ι) (failure : Option ε)
  deriving DecidableEq, Repr

/-- The recorded identifier. -/
def Phase.id : Phase ι ε → Option ι
  | .vacant => none
  | .held id => some id
  | .releasing id _ => some id
  | .released id _ => some id

/-- The runs of the release function a phase has behind it. -/
def Phase.runs : Phase ι ε → List ι
  | .vacant => []
  | .held _ => []
  | .releasing id _ => [id]
  | .released id _ => [id]

/-- What the owner stores in a phase. -/
def Phase.Stored (r : PendingCameraRelease ι ε) : Phase ι ε → Prop
  | .vacant => r.stream = none ∧ r.releaseStarted = false ∧ r.releaseFinished = false
  | .held id => r.stream = some id ∧ r.releaseStarted = false ∧ r.releaseFinished = false
  | .releasing id _ =>
    r.stream = some id ∧ r.releaseStarted = true ∧ r.releaseFinished = false
  | .released _ failure =>
    r.failure = failure ∧ r.releaseStarted = true ∧ r.releaseFinished = true

/-- **Where call `j` may stand in a phase**, if the first `early` calls were
made before anything was recorded: it may always be entering, it waits once the
release started, it runs the release function only as the call the phase names,
and it is back with the outcome of the release – or, an early call, without
having found anything to release. -/
def Phase.Allows (ph : Phase ι ε) (early j : ℕ) : ReleaseCall ι ε → Prop
  | .entering => True
  | .running id => ph = .releasing id j
  | .waiting => (∃ id k, ph = .releasing id k) ∨ ∃ id failure, ph = .released id failure
  | .returned failure =>
    (failure = none ∧ j < early) ∨ ∃ id, ph = .released id failure

/-- **The phase an owner and its calls are in**, with `early` calls made before
anything was recorded. -/
structure At (p : Cleanup ι ε) (early : ℕ) (ph : Phase ι ε) : Prop where
  stored : ph.Stored p.owner
  calls : ∀ j c, p.calls[j]? = some c → ph.Allows early j c
  runs : p.invocations = ph.runs
  vacant : ph = .vacant → p.calls.length = early
  runner : ∀ id k, ph = .releasing id k → p.calls[k]? = some (.running id)
  called : ph.runs ≠ [] → p.calls ≠ []

/-- A new owner is vacant. -/
theorem at_vacant : ({} : Cleanup ι ε).At 0 .vacant where
  stored := ⟨rfl, rfl, rfl⟩
  calls := by simp
  runs := rfl
  vacant := fun _ => rfl
  runner := by simp
  called := fun h => absurd rfl h

/-- The phase decides whether the release started. -/
theorem At.releaseStarted_iff {p : Cleanup ι ε} {n : ℕ} {ph : Phase ι ε}
    (h : p.At n ph) : p.owner.releaseStarted = true ↔
      (∃ id k, ph = .releasing id k) ∨ ∃ id failure, ph = .released id failure := by
  have hs := h.stored
  cases ph <;> simp_all [Phase.Stored]

/-- The phase decides whether the release is over, and its outcome. -/
theorem At.failure_of_finished {p : Cleanup ι ε} {n : ℕ} {ph : Phase ι ε}
    (h : p.At n ph) (hf : p.owner.releaseFinished = true) :
    ∃ id, ph = .released id p.owner.failure := by
  have hs := h.stored
  cases ph with
  | vacant => rw [hs.2.2] at hf; cases hf
  | held id => rw [hs.2.2] at hf; cases hf
  | releasing id k => rw [hs.2.2] at hf; cases hf
  | released id failure => exact ⟨id, by rw [hs.1]⟩

/-- **What is known of the calls survives a call that moves**, where it moves
to a place its phase allows. -/
theorem calls_set {calls : List (ReleaseCall ι ε)} {n : ℕ} {ph : Phase ι ε}
    (h : ∀ j c, calls[j]? = some c → ph.Allows n j c) {k : ℕ} {c : ReleaseCall ι ε}
    (hc : ph.Allows n k c) : ∀ j d, (calls.set k c)[j]? = some d → ph.Allows n j d := by
  intro j d hget
  by_cases hjk : k = j
  · subst hjk
    obtain ⟨hlt, -⟩ := List.getElem?_eq_some_iff.mp hget
    rw [List.length_set] at hlt
    rw [List.getElem?_set_self hlt, Option.some.injEq] at hget
    rw [← hget]
    exact hc
  · rw [List.getElem?_set_ne hjk] at hget
    exact h j d hget

/-! ## What the operations leave of the calls and the cancel flag -/

/-- A cancellation sets the flag and forgets no call. -/
theorem cancel_spec (p : Cleanup ι ε) :
    p.cancel.owner.canceled = true ∧ p.calls.length ≤ p.cancel.calls.length ∧
      (p.owner.stream.isSome = true → p.cancel.calls ≠ []) := by
  unfold Cleanup.cancel PendingCameraRelease.cancel
  dsimp only
  split
  · simp [Cleanup.call]
  · rename_i hs
    exact ⟨rfl, Nat.le_refl _, fun h => absurd h hs⟩

/-- Recording leaves the flag, and calls the release where it is set. -/
theorem record_spec (id : ι) (p : Cleanup ι ε) :
    (p.record id).owner.canceled = p.owner.canceled ∧
      (p.owner.canceled = true → (p.record id).calls ≠ []) ∧
      (p.owner.canceled = false → (p.record id).calls = p.calls) := by
  unfold Cleanup.record PendingCameraRelease.record
  dsimp only
  split
  · rename_i hc
    exact ⟨rfl, fun _ => by simp [Cleanup.call], fun h => by rw [hc] at h; cases h⟩
  · rename_i hc
    exact ⟨rfl, fun h => absurd h hc, fun _ => rfl⟩

/-- The step of a call is the step of an existing call, and leaves the flag. -/
theorem advance_spec {p q : Cleanup ι ε} {k : ℕ} (h : p.advance k = some q) :
    q.owner.canceled = p.owner.canceled ∧ q.calls.length = p.calls.length ∧
      k < p.calls.length := by
  unfold Cleanup.advance at h
  split at h
  · rename_i hk
    obtain rfl := Option.some.inj h
    exact ⟨p.owner.canceled_enter, List.length_set, (List.getElem?_eq_some_iff.mp hk).1⟩
  · rename_i hk
    split at h
    · obtain rfl := Option.some.inj h
      exact ⟨rfl, List.length_set, (List.getElem?_eq_some_iff.mp hk).1⟩
    · cases h
  · cases h

/-- So is the end of the release function. -/
theorem finish_spec {p q : Cleanup ι ε} {k : ℕ} {failure : Option ε}
    (h : p.finish k failure = some q) :
    q.owner.canceled = p.owner.canceled ∧ q.calls.length = p.calls.length ∧
      k < p.calls.length := by
  unfold Cleanup.finish at h
  split at h
  · rename_i hk
    obtain rfl := Option.some.inj h
    exact ⟨rfl, List.length_set, (List.getElem?_eq_some_iff.mp hk).1⟩
  · cases h

/-! ## How the phase moves -/

/-- **One more call leaves the phase**, where something is recorded. -/
theorem At.call {p : Cleanup ι ε} {n : ℕ} {ph : Phase ι ε} (h : p.At n ph)
    (hph : ph ≠ .vacant) : p.call.At n ph := by
  refine ⟨h.stored, fun j c hget => ?_, h.runs, fun hv => absurd hv hph, fun id k hk => ?_,
    fun _ => by simp [Cleanup.call]⟩
  · rw [Cleanup.call] at hget
    by_cases hlt : j < p.calls.length
    · rw [List.getElem?_append_left hlt] at hget
      exact h.calls j c hget
    · rw [List.getElem?_append_right (Nat.le_of_not_lt hlt)] at hget
      rw [List.mem_singleton.mp (List.mem_of_getElem? hget)]
      trivial
  · have hrun := h.runner id k hk
    obtain ⟨hlt, -⟩ := List.getElem?_eq_some_iff.mp hrun
    rw [Cleanup.call, List.getElem?_append_left hlt]
    exact hrun

/-- The cancel flag is in no phase. -/
theorem At.setCanceled {p : Cleanup ι ε} {n : ℕ} {ph : Phase ι ε} (h : p.At n ph) :
    ({ p with owner := { p.owner with canceled := true } } : Cleanup ι ε).At n ph :=
  ⟨by cases ph <;> exact h.stored, h.calls, h.runs, h.vacant, h.runner, h.called⟩

/-- **A cancellation leaves the phase.** -/
theorem At.cancel {p : Cleanup ι ε} {n : ℕ} {ph : Phase ι ε} (h : p.At n ph) :
    p.cancel.At n ph := by
  unfold Cleanup.cancel PendingCameraRelease.cancel
  dsimp only
  split
  · rename_i hs
    refine h.setCanceled.call ?_
    rintro rfl
    rw [h.stored.1] at hs
    cases hs
  · exact h.setCanceled

/-- A cancellation after the recording has called for the release: its own call,
or one before. -/
theorem At.cancel_calls {p : Cleanup ι ε} {n : ℕ} {ph : Phase ι ε} (h : p.At n ph)
    (hph : ph ≠ .vacant) : p.cancel.calls ≠ [] := by
  have hspec := p.cancel_spec
  cases ph with
  | vacant => exact absurd rfl hph
  | held id => exact hspec.2.2 (by rw [h.stored.1]; rfl)
  | releasing id k =>
    have hne := h.called (by simp [Phase.runs])
    exact List.ne_nil_of_length_pos
      (Nat.lt_of_lt_of_le (List.length_pos_of_ne_nil hne) hspec.2.1)
  | released id failure =>
    have hne := h.called (by simp [Phase.runs])
    exact List.ne_nil_of_length_pos
      (Nat.lt_of_lt_of_le (List.length_pos_of_ne_nil hne) hspec.2.1)

/-- **Recording holds the identifier.** -/
theorem At.record {p : Cleanup ι ε} {n : ℕ} (h : p.At n .vacant) (id : ι) :
    (p.record id).At n (.held id) := by
  have hheld : ({ p with owner := { p.owner with stream := some id } } :
      Cleanup ι ε).At n (.held id) := by
    refine ⟨⟨rfl, h.stored.2.1, h.stored.2.2⟩, fun j c hget => ?_, h.runs,
      (by simp), (by simp), fun hr => absurd rfl hr⟩
    have hc := h.calls j c hget
    cases c with
    | entering => trivial
    | running id' => cases hc
    | waiting => rcases hc with ⟨_, _, hbad⟩ | ⟨_, _, hbad⟩ <;> cases hbad
    | returned failure =>
      rcases hc with hc | ⟨_, hbad⟩
      · exact Or.inl hc
      · cases hbad
  unfold Cleanup.record PendingCameraRelease.record
  dsimp only
  split
  · exact hheld.call (by simp)
  · exact hheld

/-- A phase that allows a call but names it as no runner allows it still when
the release of what was held starts. -/
theorem Phase.Allows.of_held {n j k : ℕ} {id : ι} {c : ReleaseCall ι ε}
    (h : (Phase.held id).Allows n j c) : (Phase.releasing id k).Allows n j c := by
  cases c with
  | entering => trivial
  | running id' => cases h
  | waiting => exact Or.inl ⟨id, k, rfl⟩
  | returned failure =>
    rcases h with h | ⟨_, hbad⟩
    · exact Or.inl h
    · cases hbad

/-- **The step of a call**: it starts the release of a held identifier, or
leaves the phase. -/
theorem At.advance {p q : Cleanup ι ε} {n : ℕ} {ph : Phase ι ε} (h : p.At n ph) {k : ℕ}
    (hq : p.advance k = some q) :
    q.At n ph ∨ ∃ id, ph = .held id ∧ q.At n (.releasing id k) := by
  -- a call that moves keeps the runner, which neither enters nor waits
  have hother : ∀ c : ReleaseCall ι ε, (∀ id, p.calls[k]? ≠ some (.running id)) →
      ∀ id k', ph = .releasing id k' → (p.calls.set k c)[k']? = some (.running id) := by
    intro c hk id k' hph
    have hrun := h.runner id k' hph
    have hne : k ≠ k' := by
      rintro rfl
      exact hk id hrun
    rw [List.getElem?_set_ne hne]
    exact hrun
  have hne : ∀ c, p.calls[k]? ≠ none → p.calls.set k c ≠ [] := by
    intro c hk hnil
    rw [List.set_eq_nil_iff] at hnil
    exact hk (by rw [hnil]; rfl)
  unfold Cleanup.advance at hq
  split at hq
  · rename_i hk
    obtain ⟨hlt, -⟩ := List.getElem?_eq_some_iff.mp hk
    have hk' : ∀ id, p.calls[k]? ≠ some (.running id) := by
      intro id hbad
      rw [hk] at hbad
      cases hbad
    by_cases hst : p.owner.releaseStarted = true
    · simp only [PendingCameraRelease.enter, hst, if_true, Option.some.injEq] at hq
      subst hq
      have hwait : ph.Allows n k .waiting := h.releaseStarted_iff.mp hst
      exact Or.inl ⟨h.stored, calls_set h.calls hwait, h.runs,
        fun hv => by simpa using h.vacant hv, hother _ hk', fun _ => hne _ (by rw [hk]; simp)⟩
    · rw [Bool.not_eq_true] at hst
      cases ph with
      | vacant =>
        have hs := h.stored.1
        simp only [PendingCameraRelease.enter, hst, hs, Bool.false_eq_true, if_false,
          Option.some.injEq] at hq
        subst hq
        have hn := h.vacant rfl
        exact Or.inl ⟨h.stored, calls_set h.calls (Or.inl ⟨rfl, by omega⟩), h.runs,
          fun _ => by simpa using hn, hother _ hk', fun _ => hne _ (by rw [hk]; simp)⟩
      | held id =>
        -- this call finds the identifier first: it becomes the runner
        have hs := h.stored.1
        simp only [PendingCameraRelease.enter, hst, hs, Bool.false_eq_true, if_false,
          Option.some.injEq] at hq
        subst hq
        refine Or.inr ⟨id, rfl, ⟨rfl, rfl, h.stored.2.2⟩,
          calls_set (fun j c hget => (h.calls j c hget).of_held) rfl, ?_, (by simp), ?_,
          fun _ => hne _ (by rw [hk]; simp)⟩
        · show p.invocations ++ [id] = [id]
          rw [h.runs]
          rfl
        · intro id' k' heq
          cases heq
          exact List.getElem?_set_self hlt
      | releasing id k' => rw [h.stored.2.1] at hst; cases hst
      | released id failure => rw [h.stored.2.1] at hst; cases hst
  · rename_i hk
    have hk' : ∀ id, p.calls[k]? ≠ some (.running id) := by
      intro id hbad
      rw [hk] at hbad
      cases hbad
    split at hq
    · rename_i hfin
      simp only [Option.some.injEq] at hq
      subst hq
      obtain ⟨id, hph⟩ := h.failure_of_finished hfin
      exact Or.inl ⟨h.stored, calls_set h.calls (Or.inr ⟨id, hph⟩), h.runs,
        fun hv => by simpa using h.vacant hv, hother _ hk', fun _ => hne _ (by rw [hk]; simp)⟩
    · cases hq
  · cases hq

/-- **The release function ends**: the release under way is over, with its
outcome. -/
theorem At.finish {p q : Cleanup ι ε} {n : ℕ} {ph : Phase ι ε} (h : p.At n ph) {k : ℕ}
    {failure : Option ε} (hq : p.finish k failure = some q) :
    ∃ id, ph = .releasing id k ∧ q.At n (.released id failure) := by
  unfold Cleanup.finish at hq
  split at hq
  · rename_i id hk
    simp only [Option.some.injEq] at hq
    subst hq
    have hph : ph = .releasing id k := h.calls k _ hk
    subst hph
    have hlt := (List.getElem?_eq_some_iff.mp hk).1
    refine ⟨id, rfl, ⟨rfl, h.stored.2.1, rfl⟩, fun j c hget => ?_, h.runs, (by simp),
      (by simp), fun _ hnil => ?_⟩
    swap
    · rw [List.set_eq_nil_iff] at hnil
      rw [hnil] at hlt
      exact absurd hlt (Nat.not_lt_zero k)
    by_cases hjk : k = j
    · subst hjk
      rw [List.getElem?_set_self hlt, Option.some.injEq] at hget
      rw [← hget]
      exact Or.inr ⟨id, rfl⟩
    · rw [List.getElem?_set_ne hjk] at hget
      have hc := h.calls j c hget
      cases c with
      | entering => trivial
      | running id' => exact absurd (by cases hc; rfl) hjk
      | waiting => exact Or.inr ⟨id, failure, rfl⟩
      | returned f =>
        rcases hc with hc | ⟨_, hbad⟩
        · exact Or.inl hc
        · cases hbad
  · cases hq

/-- **What a call returns** is the outcome of the release, for a call made
after the identifier was recorded. -/
theorem At.of_returned {p : Cleanup ι ε} {n : ℕ} {ph : Phase ι ε} (h : p.At n ph) {k : ℕ}
    {failure : Option ε} (hn : n ≤ k) (hk : p.calls[k]? = some (.returned failure)) :
    ∃ id, ph = .released id failure := by
  rcases h.calls k _ hk with ⟨-, hlt⟩ | hr
  · omega
  · exact hr

/-- **Once, at the end**: where a call was made after the identifier was
recorded, and all calls are back, the release is over. -/
theorem At.exists_released {p : Cleanup ι ε} {n : ℕ} {ph : Phase ι ε} (h : p.At n ph)
    (hcalls : n < p.calls.length) (hset : p.Settled) :
    ∃ id failure, ph = .released id failure := by
  have hget := List.getElem?_eq_getElem hcalls
  obtain ⟨failure, hf⟩ := hset _ (List.getElem_mem hcalls)
  rw [hf] at hget
  obtain ⟨id, hph⟩ := h.of_returned (Nat.le_refl n) hget
  exact ⟨id, failure, hph⟩

/-- **No call waits for nothing**: while one is not back, a call can step, or
the release function is running and can end. -/
theorem At.exists_step {p : Cleanup ι ε} {n : ℕ} {ph : Phase ι ε} (h : p.At n ph)
    (hset : ¬ p.Settled) :
    (∃ k, (p.advance k).isSome = true) ∨
      ∃ k, ∀ failure, (p.finish k failure).isSome = true := by
  obtain ⟨c, hc, hback⟩ : ∃ c ∈ p.calls, ¬ ∃ failure, c = .returned failure := by
    unfold Settled at hset
    simpa using hset
  obtain ⟨k, hk⟩ := List.mem_iff_getElem?.mp hc
  cases c with
  | entering => exact Or.inl ⟨k, by simp [Cleanup.advance, hk]⟩
  | running id => exact Or.inr ⟨k, fun failure => by simp [Cleanup.finish, hk]⟩
  | waiting =>
    rcases h.calls k _ hk with ⟨id, k', rfl⟩ | ⟨id, failure, rfl⟩
    · have hrun := h.runner id k' rfl
      exact Or.inr ⟨k', fun failure => by simp [Cleanup.finish, hrun]⟩
    · exact Or.inl ⟨k, by simp [Cleanup.advance, hk, h.stored.2.2]⟩
  | returned failure => exact absurd ⟨failure, rfl⟩ hback

/-! ## Every call comes back -/

/-- The steps all calls have left, at most. -/
def weight (p : Cleanup ι ε) : ℕ := (p.calls.map ReleaseCall.weight).sum

/-- A call that moves changes the weight by its own. -/
theorem sum_weight_set {calls : List (ReleaseCall ι ε)} {k : ℕ} {c d : ReleaseCall ι ε}
    (h : calls[k]? = some c) :
    ((calls.set k d).map ReleaseCall.weight).sum + c.weight
      = (calls.map ReleaseCall.weight).sum + d.weight := by
  induction calls generalizing k with
  | nil => cases h
  | cons e calls ih =>
    cases k with
    | zero =>
      rw [List.getElem?_cons_zero, Option.some.injEq] at h
      simp only [List.set_cons_zero, List.map_cons, List.sum_cons, h]
      omega
    | succ k =>
      rw [List.getElem?_cons_succ] at h
      have := ih h
      simp only [List.set_cons_succ, List.map_cons, List.sum_cons]
      omega

@[simp] theorem weight_call (p : Cleanup ι ε) : p.call.weight = p.weight + 2 := by
  simp [weight, call, ReleaseCall.weight]

theorem weight_cancel_le (p : Cleanup ι ε) : p.cancel.weight ≤ p.weight + 2 := by
  unfold cancel PendingCameraRelease.cancel
  dsimp only
  split
  · rw [weight_call]
    exact Nat.le_refl _
  · exact Nat.le_add_right _ 2

theorem weight_record_le (id : ι) (p : Cleanup ι ε) :
    (p.record id).weight ≤ p.weight + 2 := by
  unfold record PendingCameraRelease.record
  dsimp only
  split
  · rw [weight_call]
    exact Nat.le_refl _
  · exact Nat.le_add_right _ 2

/-- The step of a call is one step fewer. -/
theorem weight_advance_lt {p q : Cleanup ι ε} {k : ℕ} (h : p.advance k = some q) :
    q.weight < p.weight := by
  unfold advance at h
  split at h
  · rename_i hk
    obtain rfl := Option.some.inj h
    have hsum := sum_weight_set (d := p.owner.enter.2) hk
    have hle : p.owner.enter.2.weight ≤ 1 := by
      unfold PendingCameraRelease.enter
      split
      · exact Nat.le_refl 1
      · split
        · exact Nat.zero_le 1
        · exact Nat.le_refl 1
    rw [show (ReleaseCall.entering : ReleaseCall ι ε).weight = 2 from rfl] at hsum
    unfold weight
    dsimp only
    omega
  · rename_i hk
    split at h
    · obtain rfl := Option.some.inj h
      have hsum := sum_weight_set (d := .returned p.owner.failure) hk
      simp only [ReleaseCall.weight] at hsum
      unfold weight
      dsimp only
      omega
    · cases h
  · cases h

theorem weight_finish_lt {p q : Cleanup ι ε} {k : ℕ} {failure : Option ε}
    (h : p.finish k failure = some q) : q.weight < p.weight := by
  unfold finish at h
  split at h
  · rename_i hk
    obtain rfl := Option.some.inj h
    have hsum := sum_weight_set (d := .returned failure) hk
    simp only [ReleaseCall.weight] at hsum
    unfold weight
    dsimp only
    omega
  · cases h

end Cleanup
