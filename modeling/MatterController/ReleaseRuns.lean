import MatterController.Machine
import MatterController.PendingRelease

/-!
# A pending release under any interleaving

`Cancel` and `Release` of a `PendingCameraRelease` may be called from any thread, any
number of times, and `Record` is called once, by the operation that acquired what is to be
released. The machine here makes these calls in any order and lets the calls of `Release`,
and those that `Cancel` and `Record` spawn in the background, take their steps in any order.

`Cleanup.At` follows the owner and its calls through the phases of the release. What is
added is what the claims about whole runs are about: which identifier was recorded and how
many calls of `Release` were made before, which calls were spawned, and how the runs of the
release function ended.
-/

namespace Cleanup

variable {ι ε : Type} {p q : Cleanup ι ε} {n : ℕ}

/-- A call made while nothing is recorded is one more of the early ones. -/
theorem At.call_vacant (h : p.At n .vacant) : p.call.At (n + 1) .vacant := by
  refine ⟨h.stored, fun j c hget => ?_, h.runs, fun _ => ?_, (by simp), fun hr => absurd rfl hr⟩
  · rw [Cleanup.call] at hget
    by_cases hlt : j < p.calls.length
    · rw [List.getElem?_append_left hlt] at hget
      have hc := h.calls j c hget
      cases c with
      | entering => trivial
      | running id => cases hc
      | waiting => rcases hc with ⟨_, _, hbad⟩ | ⟨_, _, hbad⟩ <;> cases hbad
      | returned failure =>
        exact hc.imp_left fun hearly => ⟨hearly.1, Nat.lt_succ_of_lt hearly.2⟩
    · rw [List.getElem?_append_right (Nat.le_of_not_lt hlt)] at hget
      rw [List.mem_singleton.mp (List.mem_of_getElem? hget)]
      trivial
  · rw [Cleanup.call, List.length_append, h.vacant rfl, List.length_singleton]

/-- How the runs of the release function a phase has behind it ended. -/
def Phase.outcomes : Phase ι ε → List (Option ε)
  | .released _ failure => [failure]
  | _ => []

/-- A phase of a recorded identifier has at most one run behind it, on this identifier. -/
theorem Phase.runs_of_id {ph : Phase ι ε} {id : ι} (h : ph.id = some id) :
    ph.runs = [] ∨ ph.runs = [id] := by
  cases ph with
  | vacant => cases h
  | held id' => exact Or.inl rfl
  | releasing id' k =>
    obtain rfl := Option.some.inj h
    exact Or.inr rfl
  | released id' failure =>
    obtain rfl := Option.some.inj h
    exact Or.inr rfl

/-- `Cancel` spawns a release of what is recorded, unless it is released. -/
theorem length_cancel (p : Cleanup ι ε) :
    p.cancel.calls.length = p.calls.length + if p.owner.stream.isSome then 1 else 0 := by
  unfold Cleanup.cancel PendingCameraRelease.cancel
  dsimp only
  split <;> simp [Cleanup.call]

/-- `Record` spawns a release of what was canceled. -/
theorem length_record (id : ι) (p : Cleanup ι ε) :
    (p.record id).calls.length = p.calls.length + if p.owner.canceled then 1 else 0 := by
  unfold Cleanup.record PendingCameraRelease.record
  dsimp only
  split <;> simp [Cleanup.call]

end Cleanup

namespace ReleaseRuns

/-- **The owner with its calls**, and – to speak about them – the identifier that was
recorded with the number of calls made before, the calls that were spawned, and the
outcomes of the runs of the release function. -/
structure State (ι ε : Type) where
  cleanup : Cleanup ι ε := {}
  recorded : Option (ι × ℕ) := none
  spawned : List ℕ := []
  outcomes : List (Option ε) := []
  deriving DecidableEq

/-- **A step**: a call of one of the functions, the next step of a call of `Release`, or the
end of the release function a call runs. -/
inductive Action (ι ε : Type)
  | cancel
  | record (id : ι)
  | release
  | advance (k : ℕ)
  | finish (k : ℕ) (failure : Option ε)
  deriving DecidableEq

variable {ι ε : Type}

/-- An operation of the owner, the calls it adds being spawned. -/
def State.spawning (s : State ι ε) (p : Cleanup ι ε) : State ι ε :=
  { s with
    cleanup := p
    spawned :=
      if s.cleanup.calls.length < p.calls.length then s.spawned ++ [s.cleanup.calls.length]
      else s.spawned }

/-- **The step of the release.** -/
def step (s : State ι ε) : Action ι ε → Option (State ι ε)
  | .cancel => some (s.spawning s.cleanup.cancel)
  | .record id =>
    match s.recorded with
    | some _ => none
    | none =>
      some { s.spawning (s.cleanup.record id) with
        recorded := some (id, s.cleanup.calls.length) }
  | .release => some { s with cleanup := s.cleanup.call }
  | .advance k => (s.cleanup.advance k).map fun p => { s with cleanup := p }
  | .finish k failure =>
    (s.cleanup.finish k failure).map fun p =>
      { s with cleanup := p, outcomes := s.outcomes ++ [failure] }

/-- **The release** of an owner that has nothing yet. -/
def machine : Machine (State ι ε) (Action ι ε) := ⟨{}, step⟩

/-! ## The invariant -/

/-- **The phase of a state**: something is recorded in it if it was; `n` counts the calls
made before; and what was recorded and canceled has a spawned call that came after, or is
released. -/
structure Tracks (s : State ι ε) (n : ℕ) (ph : Cleanup.Phase ι ε) : Prop where
  phase : s.cleanup.At n ph
  early : n ≤ s.cleanup.calls.length
  recorded : s.recorded = ph.id.map fun id => (id, n)
  outcomes : s.outcomes = ph.outcomes
  spawned : s.cleanup.owner.canceled = true → ph ≠ .vacant →
    (∃ k ∈ s.spawned, n ≤ k) ∨ ∃ id failure, ph = .released id failure

theorem tracks_start : Tracks (machine : Machine (State ι ε) _).start 0 .vacant where
  phase := Cleanup.at_vacant
  early := Nat.le_refl 0
  recorded := rfl
  outcomes := rfl
  spawned := fun h => by cases h

section Steps

variable {s t : State ι ε} {n : ℕ} {ph : Cleanup.Phase ι ε}

/-- Only what is recorded has a phase but the first. -/
theorem Tracks.vacant_of_none (h : Tracks s n ph) (hnone : s.recorded = none) : ph = .vacant := by
  have hrec := h.recorded
  rw [hnone] at hrec
  cases ph with
  | vacant => rfl
  | _ => cases hrec

/-- **`Cancel` leaves the phase.** -/
theorem Tracks.cancel (h : Tracks s n ph) : Tracks (s.spawning s.cleanup.cancel) n ph where
  phase := h.phase.cancel
  early := Nat.le_trans h.early s.cleanup.cancel_spec.2.1
  recorded := h.recorded
  outcomes := h.outcomes
  spawned := fun _ hph => by
    have hlen := s.cleanup.length_cancel
    have hstored := h.phase.stored
    have hspawn : s.cleanup.owner.stream.isSome = true →
        ∃ k ∈ (s.spawning s.cleanup.cancel).spawned, n ≤ k := by
      intro hsome
      rw [if_pos hsome] at hlen
      refine ⟨s.cleanup.calls.length, ?_, h.early⟩
      rw [State.spawning, if_pos (by omega)]
      exact List.mem_append_right _ (List.mem_singleton_self _)
    cases ph with
    | vacant => exact absurd rfl hph
    | held id => exact Or.inl (hspawn (by rw [hstored.1]; rfl))
    | releasing id k => exact Or.inl (hspawn (by rw [hstored.1]; rfl))
    | released id failure => exact Or.inr ⟨id, failure, rfl⟩

/-- **`Record` holds the identifier**; the call it spawns comes after. -/
theorem Tracks.record (h : Tracks s n .vacant) (id : ι) :
    Tracks { s.spawning (s.cleanup.record id) with
      recorded := some (id, s.cleanup.calls.length) } n (.held id) where
  phase := h.phase.record id
  early := by
    show n ≤ (s.cleanup.record id).calls.length
    rw [s.cleanup.length_record id]
    exact Nat.le_add_right_of_le h.early
  recorded := by rw [h.phase.vacant rfl]; rfl
  outcomes := h.outcomes
  spawned := fun hcanceled _ => by
    have hlen := s.cleanup.length_record id
    rw [if_pos ((s.cleanup.record_spec id).1 ▸ hcanceled)] at hlen
    refine Or.inl ⟨s.cleanup.calls.length, ?_, h.early⟩
    rw [State.spawning, if_pos (by omega)]
    exact List.mem_append_right _ (List.mem_singleton_self _)

/-- A call of `Release` leaves the phase, and is an early one where nothing is recorded. -/
theorem Tracks.release (h : Tracks s n ph) :
    ∃ m, Tracks { s with cleanup := s.cleanup.call } m ph := by
  have hlen : s.cleanup.call.calls.length = s.cleanup.calls.length + 1 := by
    rw [Cleanup.call, List.length_append, List.length_singleton]
  by_cases hph : ph = .vacant
  · subst hph
    refine ⟨n + 1, h.phase.call_vacant, ?_, h.recorded, h.outcomes,
      fun _ hbad => absurd rfl hbad⟩
    rw [hlen]
    exact Nat.succ_le_succ h.early
  · exact ⟨n, h.phase.call hph, by rw [hlen]; exact Nat.le_succ_of_le h.early, h.recorded,
      h.outcomes, h.spawned⟩

/-- The step of a call may start the release. -/
theorem Tracks.advance (h : Tracks s n ph) {k : ℕ} {p : Cleanup ι ε}
    (hp : s.cleanup.advance k = some p) :
    ∃ ph', Tracks { s with cleanup := p } n ph' := by
  obtain ⟨hcanceled, hlen, -⟩ := Cleanup.advance_spec hp
  have hearly : n ≤ p.calls.length := by
    rw [hlen]
    exact h.early
  rcases h.phase.advance hp with hat | ⟨id, rfl, hat⟩
  · exact ⟨ph, hat, hearly, h.recorded, h.outcomes, fun hc => h.spawned (hcanceled ▸ hc)⟩
  · refine ⟨.releasing id k, hat, hearly, h.recorded, h.outcomes, fun hc _ => ?_⟩
    rcases h.spawned (hcanceled ▸ hc) (by simp) with hspawn | ⟨_, _, hbad⟩
    · exact Or.inl hspawn
    · cases hbad

/-- The release function's end ends the release. -/
theorem Tracks.finish (h : Tracks s n ph) {k : ℕ} {failure : Option ε} {p : Cleanup ι ε}
    (hp : s.cleanup.finish k failure = some p) :
    ∃ ph', Tracks { s with cleanup := p, outcomes := s.outcomes ++ [failure] } n ph' := by
  obtain ⟨-, hlen, -⟩ := Cleanup.finish_spec hp
  obtain ⟨id, rfl, hat⟩ := h.phase.finish hp
  refine ⟨.released id failure, hat, by rw [hlen]; exact h.early, h.recorded, ?_,
    fun _ _ => Or.inr ⟨id, failure, rfl⟩⟩
  rw [h.outcomes]
  rfl

/-- **Every step keeps a phase.** -/
theorem Tracks.step {a : Action ι ε} (h : Tracks s n ph) (hst : step s a = some t) :
    ∃ m ph', Tracks t m ph' := by
  cases a with
  | cancel =>
    obtain rfl := Option.some.inj hst
    exact ⟨n, ph, h.cancel⟩
  | record id =>
    unfold ReleaseRuns.step at hst
    dsimp only at hst
    split at hst
    · cases hst
    · rename_i hnone
      obtain rfl := Option.some.inj hst
      obtain rfl := h.vacant_of_none hnone
      exact ⟨n, .held id, h.record id⟩
  | release =>
    obtain rfl := Option.some.inj hst
    obtain ⟨m, hm⟩ := h.release
    exact ⟨m, ph, hm⟩
  | advance k =>
    obtain ⟨p, hp, rfl⟩ := Option.map_eq_some_iff.mp hst
    exact ⟨n, h.advance hp⟩
  | finish k failure =>
    obtain ⟨p, hp, rfl⟩ := Option.map_eq_some_iff.mp hst
    exact ⟨n, h.finish hp⟩

theorem tracks_of_reachable (h : machine.Reachable s) : ∃ n ph, Tracks s n ph :=
  h.invariant (P := fun s => ∃ n ph, Tracks s n ph) ⟨0, .vacant, tracks_start⟩
    fun _ _ _ _ ⟨_, _, hs⟩ hst => hs.step hst

/-! ## What holds of every run -/

/-- The release function has run at most once, on what was recorded. -/
theorem Tracks.runs (h : Tracks s n ph) :
    s.cleanup.invocations = [] ∨
      ∃ id, s.recorded = some (id, n) ∧ s.cleanup.invocations = [id] := by
  have hrec := h.recorded
  have hruns := h.phase.runs
  cases hid : ph.id with
  | none =>
    cases ph with
    | vacant => exact Or.inl hruns
    | _ => cases hid
  | some id =>
    rw [hid] at hrec
    rcases Cleanup.Phase.runs_of_id hid with hnil | hone
    · exact Or.inl (hruns.trans hnil)
    · exact Or.inr ⟨id, hrec, hruns.trans hone⟩

/-- **A release that is over** ran the release function once, on what was recorded, with the
outcome it has. -/
theorem Tracks.of_released {id : ι} {failure : Option ε}
    (h : Tracks s n (.released id failure)) :
    s.recorded = some (id, n) ∧ s.cleanup.invocations = [id] ∧ s.outcomes = [failure] :=
  ⟨h.recorded, h.phase.runs, h.outcomes⟩

/-- **Of the calls that are back**, one made after the recording has the outcome of the
release. -/
theorem Tracks.of_returned (h : Tracks s n ph) {id : ι} {m k : ℕ} {failure : Option ε}
    (hrec : s.recorded = some (id, m)) (hk : m ≤ k)
    (hcall : s.cleanup.calls[k]? = some (.returned failure)) :
    s.cleanup.invocations = [id] ∧ s.outcomes = [failure] := by
  have hphase := h.recorded
  rw [hrec] at hphase
  obtain ⟨id', hid, heq⟩ := Option.map_eq_some_iff.mp hphase.symm
  cases heq
  obtain ⟨id', rfl⟩ := h.phase.of_returned hk hcall
  obtain rfl := Option.some.inj hid
  exact ⟨h.of_released.2.1, h.of_released.2.2⟩

/-- **A release that is owed is run**: once something was recorded and canceled, and the
spawned calls are back. -/
theorem Tracks.of_canceled (h : Tracks s n ph) {id : ι} {m : ℕ}
    (hcanceled : s.cleanup.owner.canceled = true) (hrec : s.recorded = some (id, m))
    (hback : ∀ k ∈ s.spawned, ∃ failure, s.cleanup.calls[k]? = some (.returned failure)) :
    s.cleanup.invocations = [id] := by
  have hphase := h.recorded
  rw [hrec] at hphase
  obtain ⟨id', hid, heq⟩ := Option.map_eq_some_iff.mp hphase.symm
  cases heq
  have hne : ph ≠ .vacant := by
    rintro rfl
    cases hid
  rcases h.spawned hcanceled hne with ⟨k, hk, hle⟩ | ⟨id', failure, rfl⟩
  · obtain ⟨failure, hcall⟩ := hback k hk
    exact (h.of_returned hrec hle hcall).1
  · obtain rfl := Option.some.inj hid
    exact h.of_released.2.1

/-- **No call is left waiting**: while one is not back, one can step, or the release
function runs and can end as it likes; and each such step leaves fewer. -/
theorem Tracks.progress (h : Tracks s n ph) (hset : ¬ s.cleanup.Settled) :
    (∃ k t, machine.step s (.advance k) = some t ∧ t.cleanup.weight < s.cleanup.weight) ∨
      ∃ k, ∀ failure, ∃ t, machine.step s (.finish k failure) = some t ∧
        t.cleanup.weight < s.cleanup.weight := by
  rcases h.phase.exists_step hset with ⟨k, hk⟩ | ⟨k, hk⟩
  · obtain ⟨p, hp⟩ := Option.isSome_iff_exists.mp hk
    exact Or.inl ⟨k, { s with cleanup := p },
      by simp only [machine, ReleaseRuns.step, hp, Option.map_some],
      Cleanup.weight_advance_lt hp⟩
  · refine Or.inr ⟨k, fun failure => ?_⟩
    obtain ⟨p, hp⟩ := Option.isSome_iff_exists.mp (hk failure)
    exact ⟨{ s with cleanup := p, outcomes := s.outcomes ++ [failure] },
      by simp only [machine, ReleaseRuns.step, hp, Option.map_some],
      Cleanup.weight_finish_lt hp⟩

end Steps

/-- **The release of a pending resource**, in any interleaving of calls of `Cancel` and
`Release` with one of `Record`, and for every outcome of the release function. It runs at
most once, and only on the recorded identifier; it has run exactly once where `Cancel` and
`Record` have both happened and the spawned calls are back; a call of `Release` made after
the recording that is back returned or threw as that one run did; and no call is left
waiting. -/
theorem released_once {ι ε : Type} {s : State ι ε} (h : machine.Reachable s) :
    (s.cleanup.invocations = [] ∨
      ∃ id n, s.recorded = some (id, n) ∧ s.cleanup.invocations = [id]) ∧
    (∀ id n, s.cleanup.owner.canceled = true → s.recorded = some (id, n) →
      (∀ k ∈ s.spawned, ∃ failure, s.cleanup.calls[k]? = some (.returned failure)) →
      s.cleanup.invocations = [id]) ∧
    (∀ id n k failure, s.recorded = some (id, n) → n ≤ k →
      s.cleanup.calls[k]? = some (.returned failure) →
      s.cleanup.invocations = [id] ∧ s.outcomes = [failure]) ∧
    (¬ s.cleanup.Settled →
      (∃ k t, machine.step s (.advance k) = some t ∧ t.cleanup.weight < s.cleanup.weight) ∨
        ∃ k, ∀ failure, ∃ t, machine.step s (.finish k failure) = some t ∧
          t.cleanup.weight < s.cleanup.weight) := by
  obtain ⟨n, ph, hs⟩ := tracks_of_reachable h
  refine ⟨hs.runs.imp_right fun ⟨id, hid⟩ => ⟨id, n, hid⟩,
    fun id m hc hrec hback => hs.of_canceled hc hrec hback,
    fun id m k failure hrec hk hcall => hs.of_returned hrec hk hcall, hs.progress⟩

/-- A release called before anything is recorded, a cancellation, the recording of
identifier 7, whose spawned call runs the release function while another call waits, and
the failure of the release function. -/
def failingOnce : List (Action ℕ String) :=
  [.release, .advance 0, .cancel, .record 7, .release, .advance 1, .advance 2,
    .finish 1 (some "offline"), .advance 2]

/-- There the release function ran once, and the second call of `Release` throws what it
threw. -/
theorem released_once_failing :
    ∃ s, machine.run machine.start failingOnce = some s ∧ s.recorded = some (7, 1) ∧
      s.spawned = [1] ∧ s.cleanup.calls[2]? = some (.returned (some "offline")) ∧
      s.cleanup.invocations = [7] ∧ s.outcomes = [some "offline"] := by
  have hrun : (machine.run machine.start failingOnce).map
      (fun s => (s.recorded, s.spawned, s.cleanup.calls[2]?)) =
        some (some (7, 1), [1], some (.returned (some "offline"))) := rfl
  obtain ⟨s, hs, heq⟩ := Option.map_eq_some_iff.mp hrun
  simp only [Prod.mk.injEq] at heq
  have hreached := machine.reachable_start.run hs
  exact ⟨s, hs, heq.1, heq.2.1, heq.2.2,
    (released_once hreached).2.2.1 7 1 2 _ heq.1 (by decide) heq.2.2⟩

end ReleaseRuns
