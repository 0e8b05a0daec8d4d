import MatterController.Machine
import Mathlib.Data.List.Basic
import Mathlib.Logic.Function.Basic

/-!
# Raising the progress of a commissioning

The progress of a commissioning is published by the native stack's threads and by the
operation itself, and is raised as an event on a thread of the pool. `Publish` puts an
update into a queue and, where no drain is scheduled, schedules one; the drain takes one
update after the other, raises it without the lock, and ends where it finds the queue
empty. Before the operation returns a result it waits until everything is drained.

The decision to schedule is made under the lock and carried out outside of it, so
between the two there is a drain that has been promised and does not exist yet. What
carries all three properties is that the flag stands for one call of `Publish`, which has
a drain to start or whose drain is at work (`Custody`): nobody else schedules, the queue
is taken from at one place, and where the flag is down and the queue is empty
nothing is on its way to the handlers either.
-/

namespace ProgressDrain

variable {π : Type}

/-! ## The queue -/

/-- **The queue of the progress**, over the updates `π`. -/
structure ProgressQueue (π : Type) where
  pendingProgress : List π := []
  progressDrainScheduled : Bool := false

namespace ProgressQueue

/-- What `Publish` does under the lock, with whether it is to schedule a drain. -/
def publish (progress : π) (q : ProgressQueue π) : Bool × ProgressQueue π :=
  let q := { q with pendingProgress := q.pendingProgress ++ [progress] }
  if q.progressDrainScheduled then (false, q) else (true, { q with progressDrainScheduled := true })

/-- What `DrainProgress` does under the lock, with the update it takes. -/
def take (q : ProgressQueue π) : Option π × ProgressQueue π :=
  match q.pendingProgress with
  | [] => (none, { q with progressDrainScheduled := false })
  | progress :: rest => (some progress, { q with pendingProgress := rest })

/-- Where a drain is scheduled, an update is queued behind the others. -/
theorem publish_of_scheduled {q : ProgressQueue π} (h : q.progressDrainScheduled = true)
    (progress : π) : q.publish progress
      = (false, { q with pendingProgress := q.pendingProgress ++ [progress] }) := by
  unfold publish
  exact if_pos h

/-- Where none is, the call is to schedule one. -/
theorem publish_of_not_scheduled {q : ProgressQueue π} (h : q.progressDrainScheduled = false)
    (progress : π) : q.publish progress
      = (true, ⟨q.pendingProgress ++ [progress], true⟩) := by
  unfold publish
  exact if_neg (by rw [h]; exact Bool.false_ne_true)

theorem take_of_cons {q : ProgressQueue π} {progress : π} {rest : List π}
    (h : q.pendingProgress = progress :: rest) :
    q.take = (some progress, { q with pendingProgress := rest }) := by
  rw [take, h]

theorem take_of_nil {q : ProgressQueue π} (h : q.pendingProgress = []) :
    q.take = (none, ⟨[], false⟩) := by
  rw [take, h]

/-- What `WaitForProgressDrain` waits for. -/
def drained (q : ProgressQueue π) : Bool :=
  !q.progressDrainScheduled && q.pendingProgress.isEmpty

end ProgressQueue

/-! ## Threads -/

/-- **A call of `Publish`**, and the drain it schedules, if it does: not yet made, about to
start the drain; then the drain, about to look into the queue, with an update it has
taken, and while it raises it; or nothing that is left to do. -/
inductive PublishCall (π : Type)
  | idle
  | scheduling
  | looking
  | taken (progress : π)
  | raising (progress : π)
  | ended

namespace PublishCall

/-- A drain that is to be started or at work. -/
def InProgress : PublishCall π → Prop
  | .idle | .ended => False
  | _ => True

/-- The update that was taken and is not yet delivered. -/
def hand : PublishCall π → List π
  | .taken progress | .raising progress => [progress]
  | _ => []

/-- The update that was raised and is not yet delivered. -/
def raised : PublishCall π → List π
  | .raising progress => [progress]
  | _ => []

/-- The steps the drain has left of this round, with its start. -/
def steps : PublishCall π → ℕ
  | .idle | .ended => 0
  | .scheduling => 2
  | .looking => 1
  | .taken _ => 3
  | .raising _ => 2

end PublishCall

/-- **A call of `WaitForProgressDrain`**, with the updates that were published before it:
not yet made, about to take the lock, asleep – and whether it was notified since – or
returned. -/
inductive Waiter (π : Type)
  | idle
  | called (before : List π)
  | asleep (before : List π) (notified : Bool)
  | returned (before : List π)

/-- `notify_all`, for one waiter. -/
def Waiter.notify : Waiter π → Waiter π
  | .asleep before _ => .asleep before true
  | w => w

/-- **The queue among its threads**, with what was published, raised, and delivered to all
handlers, in order. -/
structure State (π : Type) where
  queue : ProgressQueue π := {}
  calls : ℕ → PublishCall π := fun _ => .idle
  waiters : ℕ → Waiter π := fun _ => .idle
  published : List π := []
  raised : List π := []
  delivered : List π := []

/-- What a thread does next, each under the lock once or without it. -/
inductive Action (π : Type)
  | publish (k : ℕ) (progress : π)
  | runAsync (k : ℕ)
  | take (k : ℕ)
  | raise (k : ℕ)
  | deliver (k : ℕ) (handlerFails : Bool)
  | wait (k : ℕ)
  | check (k : ℕ)

/-- The steps of a drain, from its start on. -/
def Action.OfDrain : Action π → Prop
  | .runAsync _ | .take _ | .raise _ | .deliver _ _ => True
  | _ => False

namespace State

/-- Changes where a call of `Publish` stands. -/
def setCall (s : State π) (k : ℕ) (c : PublishCall π) : State π :=
  { s with calls := Function.update s.calls k c }

/-- Changes where a waiter stands. -/
def setWaiter (s : State π) (k : ℕ) (w : Waiter π) : State π :=
  { s with waiters := Function.update s.waiters k w }

/-- `Publish`, up to the end of its section. -/
def publish (s : State π) (k : ℕ) (progress : π) : Option (State π) :=
  match s.calls k with
  | .idle =>
    let (scheduleDrain, queue) := s.queue.publish progress
    some { s.setCall k (if scheduleDrain then .scheduling else .ended) with
      queue := queue
      published := s.published ++ [progress] }
  | _ => none

/-- The end of `Publish`: the pool has the drain. -/
def runAsync (s : State π) (k : ℕ) : Option (State π) :=
  match s.calls k with
  | .scheduling => some (s.setCall k .looking)
  | _ => none

/-- The section of `DrainProgress`: it takes an update, or ends and notifies. -/
def take (s : State π) (k : ℕ) : Option (State π) :=
  match s.calls k with
  | .looking =>
    match s.queue.take with
    | (some progress, queue) => some { s.setCall k (.taken progress) with queue := queue }
    | (none, queue) => some { s.setCall k .ended with
        queue := queue
        waiters := fun j => (s.waiters j).notify }
  | _ => none

/-- The drain raises the update it has taken. -/
def raise (s : State π) (k : ℕ) : Option (State π) :=
  match s.calls k with
  | .taken progress => some { s.setCall k (.raising progress) with
      raised := s.raised ++ [progress] }
  | _ => none

/-- The handlers are through with an update; a failure of theirs is caught. -/
def deliver (s : State π) (k : ℕ) : Option (State π) :=
  match s.calls k with
  | .raising progress => some { s.setCall k .looking with
      delivered := s.delivered ++ [progress] }
  | _ => none

/-- `WaitForProgressDrain` is called. -/
def wait (s : State π) (k : ℕ) : Option (State π) :=
  match s.waiters k with
  | .idle => some (s.setWaiter k (.called s.published))
  | _ => none

/-- A waiter has the lock – at first, or because it woke up, for which it need not have
been notified – and returns or goes to sleep. -/
def checkDrained (s : State π) (k : ℕ) (before : List π) : State π :=
  s.setWaiter k (if s.queue.drained then .returned before else .asleep before false)

def check (s : State π) (k : ℕ) : Option (State π) :=
  match s.waiters k with
  | .called before => some (s.checkDrained k before)
  | .asleep before _ => some (s.checkDrained k before)
  | _ => none

end State

/-- A step of one of the threads. -/
def step (s : State π) : Action π → Option (State π)
  | .publish k progress => s.publish k progress
  | .runAsync k => s.runAsync k
  | .take k => s.take k
  | .raise k => s.raise k
  | .deliver k _ => s.deliver k
  | .wait k => s.wait k
  | .check k => s.check k

/-- **The queue and its threads.** -/
def machine (π : Type) : Machine (State π) (Action π) where
  start := {}
  step := step

/-! ## What holds in every run -/

/-- **Who has the flag**: nobody, and then nothing is pending, or the one call whose drain
is in progress. -/
inductive Custody (s : State π) : PublishCall π → Prop
  | quiet (nobody : ∀ k, ¬ (s.calls k).InProgress)
      (flag : s.queue.progressDrainScheduled = false) (empty : s.queue.pendingProgress = []) :
      Custody s .idle
  | busy {k : ℕ} {c : PublishCall π} (here : s.calls k = c) (inProgress : c.InProgress)
      (others : ∀ j, j ≠ k → ¬ (s.calls j).InProgress)
      (flag : s.queue.progressDrainScheduled = true) : Custody s c

/-- **What a waiter may rely on**: until it returns, the flag is up or it is notified; and
when it has, what was published before its call is delivered. -/
def Waiter.Ok (s : State π) : Waiter π → Prop
  | .idle => True
  | .called before => before <+: s.published
  | .asleep before notified =>
    before <+: s.published ∧ (notified = false → s.queue.progressDrainScheduled = true)
  | .returned before => before <+: s.delivered

/-- **The invariant**, for the call whose drain is in progress. -/
structure Invariant (s : State π) (c : PublishCall π) : Prop where
  custody : Custody s c
  published : s.published = s.delivered ++ (c.hand ++ s.queue.pendingProgress)
  raised : s.raised = s.delivered ++ c.raised
  waiters : ∀ k, (s.waiters k).Ok s

theorem invariant_start : Invariant (machine π).start .idle where
  custody := .quiet (fun _ h => h) rfl rfl
  published := rfl
  raised := rfl
  waiters _ := trivial

/-- A call that is in progress is the one whose drain is. -/
theorem Custody.of_inProgress {s : State π} {c d : PublishCall π} (h : Custody s c) {k : ℕ}
    (hk : s.calls k = d) (hd : d.InProgress) :
    c = d ∧ (∀ j, j ≠ k → ¬ (s.calls j).InProgress) ∧
      s.queue.progressDrainScheduled = true := by
  rw [← hk] at hd ⊢
  cases h with
  | quiet nobody => exact absurd hd (nobody k)
  | @busy j c here _ others flag =>
    by_cases hkj : k = j
    · subst hkj
      exact ⟨here.symm, others, flag⟩
    · exact absurd hd (others k hkj)

/-- Where the flag is down, nobody drains. -/
theorem Custody.of_flag {s : State π} {c : PublishCall π} (h : Custody s c)
    (hflag : s.queue.progressDrainScheduled = false) :
    c = .idle ∧ s.queue.pendingProgress = [] := by
  cases h with
  | quiet _ _ empty => exact ⟨rfl, empty⟩
  | busy _ _ _ flag =>
    rw [hflag] at flag
    cases flag

/-- The others are not in progress whatever this call does. -/
theorem others_update {calls : ℕ → PublishCall π} {k : ℕ} (c : PublishCall π)
    (others : ∀ j, j ≠ k → ¬ (calls j).InProgress) (j : ℕ) (hj : j ≠ k) :
    ¬ (Function.update calls k c j).InProgress := by
  rw [Function.update_of_ne hj]
  exact others j hj

/-- Nor is anybody where this call ends and the others are not. -/
theorem ended_update {calls : ℕ → PublishCall π} {j k : ℕ}
    (other : j ≠ k → ¬ (calls j).InProgress) :
    ¬ (Function.update calls k .ended j).InProgress := by
  by_cases hj : j = k
  · rw [hj, Function.update_self]
    exact fun h => h
  · rw [Function.update_of_ne hj]
    exact other hj

/-- **A call that moves on**, with its drain in progress. -/
theorem Custody.move {s t : State π} {k : ℕ} {c : PublishCall π}
    (others : ∀ j, j ≠ k → ¬ (s.calls j).InProgress)
    (calls : t.calls = Function.update s.calls k c) (inProgress : c.InProgress)
    (flag : t.queue.progressDrainScheduled = true) : Custody t c :=
  .busy (by rw [calls, Function.update_self]) inProgress
    (by rw [calls]; exact others_update c others) flag

/-- A waiter keeps what it relies on while more is published and delivered, and the flag
stays up. -/
theorem Waiter.Ok.mono {s t : State π} {w : Waiter π} (h : w.Ok s)
    (published : s.published <+: t.published) (delivered : s.delivered <+: t.delivered)
    (flag : s.queue.progressDrainScheduled = true → t.queue.progressDrainScheduled = true) :
    w.Ok t := by
  cases w with
  | idle => trivial
  | called before => exact List.IsPrefix.trans h published
  | asleep before notified => exact ⟨h.1.trans published, fun hn => flag (h.2 hn)⟩
  | returned before => exact List.IsPrefix.trans h delivered

/-- The steps that are left to the drain: three for every update that is pending. -/
def State.left (s : State π) (c : PublishCall π) : ℕ :=
  c.steps + 3 * s.queue.pendingProgress.length

/-- **A step of the drain**: it keeps the invariant, and one step less is left. -/
def Advances (s : State π) (c : PublishCall π) (t : State π) : Prop :=
  ∃ c', Invariant t c' ∧ t.left c' + 1 = s.left c ∧ t.published = s.published

/-! ### The steps -/

namespace State

/-- A call that publishes was not yet made. -/
theorem publish_cases {s t : State π} {k : ℕ} {progress : π}
    (ht : s.publish k progress = some t) :
    s.calls k = .idle ∧
      t = { s.setCall k (if (s.queue.publish progress).1 then .scheduling else .ended) with
        queue := (s.queue.publish progress).2
        published := s.published ++ [progress] } := by
  unfold publish at ht
  split at ht
  · rename_i hk
    exact ⟨hk, (Option.some.inj ht).symm⟩
  · cases ht

/-- A drain that starts was scheduled. -/
theorem runAsync_cases {s t : State π} {k : ℕ} (ht : s.runAsync k = some t) :
    s.calls k = .scheduling ∧ t = s.setCall k .looking := by
  unfold runAsync at ht
  split at ht
  · rename_i hk
    exact ⟨hk, (Option.some.inj ht).symm⟩
  · cases ht

/-- A drain that looks into the queue takes the first update, or ends where there is none. -/
theorem take_cases {s t : State π} {k : ℕ} (ht : s.take k = some t) :
    s.calls k = .looking ∧
      ((∃ progress rest, s.queue.pendingProgress = progress :: rest ∧
          t = { s.setCall k (.taken progress) with
            queue := { s.queue with pendingProgress := rest } }) ∨
        (s.queue.pendingProgress = [] ∧
          t = { s.setCall k .ended with
            queue := ⟨[], false⟩
            waiters := fun j => (s.waiters j).notify })) := by
  unfold take at ht
  split at ht
  · rename_i hk
    refine ⟨hk, ?_⟩
    cases hpending : s.queue.pendingProgress with
    | cons progress rest =>
      rw [ProgressQueue.take_of_cons hpending] at ht
      exact Or.inl ⟨progress, rest, rfl, (Option.some.inj ht).symm⟩
    | nil =>
      rw [ProgressQueue.take_of_nil hpending] at ht
      exact Or.inr ⟨rfl, (Option.some.inj ht).symm⟩
  · cases ht

/-- A drain raises the update it has taken. -/
theorem raise_cases {s t : State π} {k : ℕ} (ht : s.raise k = some t) :
    ∃ progress, s.calls k = .taken progress ∧
      t = { s.setCall k (.raising progress) with raised := s.raised ++ [progress] } := by
  unfold raise at ht
  split at ht
  · rename_i progress hk
    exact ⟨progress, hk, (Option.some.inj ht).symm⟩
  · cases ht

/-- A drain delivers the update it raises. -/
theorem deliver_cases {s t : State π} {k : ℕ} (ht : s.deliver k = some t) :
    ∃ progress, s.calls k = .raising progress ∧
      t = { s.setCall k .looking with delivered := s.delivered ++ [progress] } := by
  unfold deliver at ht
  split at ht
  · rename_i progress hk
    exact ⟨progress, hk, (Option.some.inj ht).symm⟩
  · cases ht

end State

theorem Invariant.publish {s t : State π} {c : PublishCall π} (h : Invariant s c) {k : ℕ}
    {progress : π} (ht : s.publish k progress = some t) : ∃ c', Invariant t c' := by
  obtain ⟨hk, rfl⟩ := State.publish_cases ht
  have hpublished := h.published
  cases h.custody with
  | quiet nobody flag empty =>
    -- this call is to schedule the drain
    rw [ProgressQueue.publish_of_not_scheduled flag]
    rw [empty] at hpublished
    refine ⟨.scheduling, .move (fun j _ => nobody j) rfl trivial rfl, ?_, h.raised,
      fun j => (h.waiters j).mono (List.prefix_append _ _) List.prefix_rfl fun _ => rfl⟩
    show s.published ++ [progress]
      = s.delivered ++ ([] ++ (s.queue.pendingProgress ++ [progress]))
    rw [hpublished, empty]
    simp [PublishCall.hand]
  | @busy j c here inProgress others flag =>
    rw [ProgressQueue.publish_of_scheduled flag]
    have hjk : j ≠ k := by
      rintro rfl
      rw [hk] at here
      rw [← here] at inProgress
      exact inProgress
    refine ⟨c, .busy ((Function.update_of_ne hjk _ _).trans here) inProgress
      (fun i hi => ended_update fun _ => others i hi) flag, ?_, h.raised,
      fun j => (h.waiters j).mono (List.prefix_append _ _) List.prefix_rfl id⟩
    show s.published ++ [progress]
      = s.delivered ++ (c.hand ++ (s.queue.pendingProgress ++ [progress]))
    rw [hpublished]
    simp only [List.append_assoc]

theorem Invariant.runAsync {s t : State π} {c : PublishCall π} (h : Invariant s c) {k : ℕ}
    (ht : s.runAsync k = some t) : Advances s c t := by
  obtain ⟨hk, rfl⟩ := State.runAsync_cases ht
  obtain ⟨rfl, others, flag⟩ := h.custody.of_inProgress hk trivial
  refine ⟨.looking, ⟨.move others rfl trivial flag, h.published, h.raised, h.waiters⟩, ?_, rfl⟩
  show 1 + 3 * s.queue.pendingProgress.length + 1 = 2 + 3 * s.queue.pendingProgress.length
  omega

/-- What a waiter relies on, where the drain ends and everybody who sleeps is told. -/
theorem Waiter.Ok.notify {s t : State π} {w : Waiter π} (h : w.Ok s)
    (published : t.published = s.published) (delivered : t.delivered = s.delivered) :
    w.notify.Ok t := by
  cases w with
  | idle => trivial
  | called before =>
    show before <+: t.published
    rw [published]
    exact h
  | asleep before notified =>
    refine ⟨?_, (by rintro ⟨⟩)⟩
    rw [published]
    exact h.1
  | returned before =>
    show before <+: t.delivered
    rw [delivered]
    exact h

theorem Invariant.take {s t : State π} {c : PublishCall π} (h : Invariant s c) {k : ℕ}
    (ht : s.take k = some t) : Advances s c t := by
  obtain ⟨hk, hcases⟩ := State.take_cases ht
  obtain ⟨rfl, others, flag⟩ := h.custody.of_inProgress hk trivial
  have hpublished := h.published
  rcases hcases with ⟨progress, rest, hpending, rfl⟩ | ⟨hpending, rfl⟩
  · rw [hpending] at hpublished
    refine ⟨.taken progress, ⟨.move others rfl trivial flag, hpublished, h.raised, h.waiters⟩,
      ?_, rfl⟩
    have hleft : s.left .looking = 1 + 3 * (rest.length + 1) := by
      rw [State.left, hpending]
      rfl
    rw [hleft]
    show 3 + 3 * rest.length + 1 = 1 + 3 * (rest.length + 1)
    omega
  · -- the drain ends
    rw [hpending] at hpublished
    refine ⟨.idle, ⟨.quiet (fun j => ended_update (others j)) rfl rfl, hpublished, h.raised,
      fun j => (h.waiters j).notify rfl rfl⟩, ?_, rfl⟩
    have hleft : s.left .looking = 1 := by
      rw [State.left, hpending]
      rfl
    rw [hleft]
    rfl

theorem Invariant.raise {s t : State π} {c : PublishCall π} (h : Invariant s c) {k : ℕ}
    (ht : s.raise k = some t) : Advances s c t := by
  obtain ⟨progress, hk, rfl⟩ := State.raise_cases ht
  obtain ⟨rfl, others, flag⟩ := h.custody.of_inProgress hk trivial
  refine ⟨.raising progress, ⟨.move others rfl trivial flag, h.published, ?_, h.waiters⟩, ?_, rfl⟩
  · show s.raised ++ [progress] = s.delivered ++ [progress]
    rw [h.raised]
    exact congrArg (· ++ [progress]) (List.append_nil s.delivered)
  · show 2 + 3 * s.queue.pendingProgress.length + 1 = 3 + 3 * s.queue.pendingProgress.length
    omega

theorem Invariant.deliver {s t : State π} {c : PublishCall π} (h : Invariant s c) {k : ℕ}
    (ht : s.deliver k = some t) : Advances s c t := by
  obtain ⟨progress, hk, rfl⟩ := State.deliver_cases ht
  obtain ⟨rfl, others, flag⟩ := h.custody.of_inProgress hk trivial
  refine ⟨.looking, ⟨.move others rfl trivial flag, ?_, ?_, fun j => (h.waiters j).mono
    List.prefix_rfl (List.prefix_append _ _) id⟩, ?_, rfl⟩
  · show s.published = (s.delivered ++ [progress]) ++ ([] ++ s.queue.pendingProgress)
    rw [h.published, List.append_assoc]
    rfl
  · show s.raised = (s.delivered ++ [progress]) ++ []
    rw [h.raised, List.append_nil]
    rfl
  · show 1 + 3 * s.queue.pendingProgress.length + 1 = 2 + 3 * s.queue.pendingProgress.length
    omega

/-- A waiter that moves changes nothing for the others. -/
theorem Invariant.setWaiter {s : State π} {c : PublishCall π} (h : Invariant s c) (k : ℕ)
    {w : Waiter π} (hw : w.Ok s) : Invariant (s.setWaiter k w) c := by
  refine ⟨?_, h.published, h.raised, fun j => ?_⟩
  · cases h.custody with
    | quiet nobody flag empty => exact .quiet nobody flag empty
    | busy here inProgress others flag => exact .busy here inProgress others flag
  · show Waiter.Ok s (Function.update s.waiters k w j)
    by_cases hj : j = k
    · rw [hj, Function.update_self]
      exact hw
    · rw [Function.update_of_ne hj]
      exact h.waiters j

/-- **A waiter that returns** finds the flag down and the queue empty, so that everything
is delivered. -/
theorem Invariant.checkDrained {s : State π} {c : PublishCall π} (h : Invariant s c) (k : ℕ)
    {before : List π} (hbefore : before <+: s.published) :
    Invariant (s.checkDrained k before) c := by
  refine h.setWaiter k ?_
  cases hflag : s.queue.progressDrainScheduled with
  | true =>
    rw [ProgressQueue.drained, hflag]
    exact ⟨hbefore, fun _ => hflag⟩
  | false =>
    obtain ⟨rfl, empty⟩ := h.custody.of_flag hflag
    have hpublished := h.published
    rw [empty] at hpublished
    rw [ProgressQueue.drained, hflag, empty]
    show before <+: s.delivered
    rw [hpublished] at hbefore
    exact (List.append_nil s.delivered) ▸ hbefore

/-- What is published before the call is published. -/
theorem Invariant.wait {s t : State π} {c : PublishCall π} (h : Invariant s c) {k : ℕ}
    (ht : s.wait k = some t) : Invariant t c := by
  unfold State.wait at ht
  cases hw : s.waiters k with
  | idle =>
    rw [hw] at ht
    cases ht
    exact h.setWaiter k List.prefix_rfl
  | called _ => rw [hw] at ht; cases ht
  | asleep _ _ => rw [hw] at ht; cases ht
  | returned _ => rw [hw] at ht; cases ht

theorem Invariant.check {s t : State π} {c : PublishCall π} (h : Invariant s c) {k : ℕ}
    (ht : s.check k = some t) : Invariant t c := by
  have hok := h.waiters k
  unfold State.check at ht
  cases hw : s.waiters k with
  | called before =>
    rw [hw] at ht hok
    cases ht
    exact h.checkDrained k hok
  | asleep before notified =>
    rw [hw] at ht hok
    cases ht
    exact h.checkDrained k hok.1
  | idle => rw [hw] at ht; cases ht
  | returned _ => rw [hw] at ht; cases ht

/-! ### Runs -/

/-- Every step of the drain advances it. -/
theorem Invariant.advances {s t : State π} {a : Action π} {c : PublishCall π}
    (h : Invariant s c) (ha : a.OfDrain) (ht : ProgressDrain.step s a = some t) :
    Advances s c t := by
  cases a with
  | runAsync k => exact h.runAsync ht
  | take k => exact h.take ht
  | raise k => exact h.raise ht
  | deliver k handlerFails => exact h.deliver ht
  | publish k progress => exact ha.elim
  | wait k => exact ha.elim
  | check k => exact ha.elim

/-- **Every step keeps the invariant.** -/
theorem Invariant.step {s t : State π} {a : Action π} {c : PublishCall π} (h : Invariant s c)
    (ht : ProgressDrain.step s a = some t) : ∃ c', Invariant t c' := by
  have hdrain : a.OfDrain → ∃ c', Invariant t c' := fun ha => by
    obtain ⟨c', hc', -⟩ := h.advances ha ht
    exact ⟨c', hc'⟩
  cases a with
  | publish k progress => exact h.publish ht
  | wait k => exact ⟨c, h.wait ht⟩
  | check k => exact ⟨c, h.check ht⟩
  | runAsync k => exact hdrain trivial
  | take k => exact hdrain trivial
  | raise k => exact hdrain trivial
  | deliver k handlerFails => exact hdrain trivial

theorem invariant_of_reachable {s : State π} (h : (machine π).Reachable s) :
    ∃ c, Invariant s c :=
  h.invariant (P := fun s => ∃ c, Invariant s c) ⟨.idle, invariant_start⟩
    fun _ _ _ _ ⟨_, hs⟩ ht => hs.step ht

/-- While a step is left, the drain can make it. -/
theorem Invariant.exists_step {s : State π} {c : PublishCall π} (h : Invariant s c)
    (hleft : 0 < s.left c) : ∃ a t, Action.OfDrain a ∧ ProgressDrain.step s a = some t := by
  cases h.custody with
  | quiet nobody flag empty =>
    rw [State.left, empty] at hleft
    exact absurd hleft (Nat.lt_irrefl 0)
  | @busy k c here inProgress others flag =>
    cases c with
    | idle => exact inProgress.elim
    | ended => exact inProgress.elim
    | scheduling =>
      exact ⟨.runAsync k, _, trivial, by rw [ProgressDrain.step, State.runAsync, here]⟩
    | looking =>
      cases hpending : s.queue.pendingProgress with
      | nil =>
        exact ⟨.take k, _, trivial, by
          rw [ProgressDrain.step, State.take, here]
          dsimp only
          rw [ProgressQueue.take_of_nil hpending]⟩
      | cons progress rest =>
        exact ⟨.take k, _, trivial, by
          rw [ProgressDrain.step, State.take, here]
          dsimp only
          rw [ProgressQueue.take_of_cons hpending]⟩
    | taken progress => exact ⟨.raise k, _, trivial, by rw [ProgressDrain.step, State.raise, here]⟩
    | raising progress =>
      exact ⟨.deliver k false, _, trivial, by rw [ProgressDrain.step, State.deliver, here]⟩

/-- Where no step is left, everything was raised. -/
theorem Invariant.raised_of_left {s : State π} {c : PublishCall π} (h : Invariant s c)
    (hleft : s.left c = 0) : s.raised = s.published := by
  cases h.custody with
  | quiet nobody flag empty =>
    rw [h.raised, h.published, empty]
    rfl
  | busy here inProgress others flag =>
    cases c with
    | idle => exact inProgress.elim
    | ended => exact inProgress.elim
    | scheduling => simp [State.left, PublishCall.steps] at hleft
    | looking => simp [State.left, PublishCall.steps] at hleft
    | taken progress => simp [State.left, PublishCall.steps] at hleft
    | raising progress => simp [State.left, PublishCall.steps] at hleft

/-- **The drain has so many steps left**: whatever they are and whoever makes them, they
can be made until there are as many, and then no more, and everything that was published
is raised. -/
def State.SettlesIn (s : State π) (n : ℕ) : Prop :=
  ∀ as t, (∀ a ∈ as, Action.OfDrain a) → (machine π).run s as = some t →
    as.length ≤ n ∧ (as.length < n → ∃ a u, Action.OfDrain a ∧ step t a = some u) ∧
    (as.length = n → t.raised = s.published)

theorem Invariant.settlesIn {s : State π} {c : PublishCall π} (h : Invariant s c) :
    s.SettlesIn (s.left c) := by
  intro as
  induction as generalizing s c with
  | nil =>
    rintro t - ⟨⟩
    exact ⟨Nat.zero_le _, h.exists_step, fun hleft => h.raised_of_left hleft.symm⟩
  | cons a as ih =>
    intro t has ht
    obtain ⟨u, hu, hrest⟩ := Option.bind_eq_some_iff.mp ht
    obtain ⟨c', hc', hleft, hpublished⟩ := h.advances (has a List.mem_cons_self) hu
    obtain ⟨hle, hmore, hend⟩ := ih hc' t (fun b hb => has b (List.mem_cons_of_mem a hb)) hrest
    rw [List.length_cons, ← hleft, ← hpublished]
    exact ⟨by omega, fun hlt => hmore (by omega), fun heq => hend (by omega)⟩

/-- **Progress is raised once, in order, and before the operation returns.** In every state
that publishers, drains and waiters reach, in whatever order they move, at most one
drain is scheduled or at work; what was raised is what was published, in order, but for
the last updates, and those are raised after the steps that are left to the drain; a
waiter that has returned finds everything delivered that was published before its call;
and one that sleeps without having been notified has something to wait for. -/
theorem progress_delivered {s : State π} (h : (machine π).Reachable s) :
    (∀ j k, (s.calls j).InProgress → (s.calls k).InProgress → j = k) ∧
    (s.raised <+: s.published ∧ ∃ n, s.SettlesIn n) ∧
    (∀ k before, s.waiters k = .returned before → before <+: s.delivered) ∧
    ∀ k before, s.waiters k = .asleep before false → s.queue.drained = false := by
  obtain ⟨c, hc⟩ := invariant_of_reachable h
  refine ⟨fun j k hj hk => ?_, ⟨?_, s.left c, hc.settlesIn⟩, fun k before hk => ?_,
    fun k before hk => ?_⟩
  · by_contra hne
    exact (hc.custody.of_inProgress rfl hk).2.1 j hne hj
  · have hhand : c.raised <+: c.hand := by
      cases c with
      | raising progress => exact List.prefix_rfl
      | _ => exact List.nil_prefix
    rw [hc.raised, hc.published]
    exact (List.prefix_append_right_inj _).mpr (hhand.trans (List.prefix_append _ _))
  · have hok := hc.waiters k
    rw [hk] at hok
    exact hok
  · have hok := hc.waiters k
    rw [hk] at hok
    rw [ProgressQueue.drained, hok.2 rfl]
    rfl

/-- Two updates, the second published while the first is raised, and a waiter that sleeps
until both are delivered. -/
theorem progress_delivered_two :
    ∃ s, (machine ℕ).run (machine ℕ).start
        [.publish 0 1, .runAsync 0, .take 0, .raise 0, .publish 1 2, .wait 0, .check 0,
          .deliver 0 true, .take 0, .raise 0, .deliver 0 false, .take 0, .check 0] = some s ∧
      s.delivered = [1, 2] ∧ s.waiters 0 = .returned [1, 2] ∧ [1, 2] <+: s.delivered :=
  ⟨_, rfl, rfl, rfl, (progress_delivered ((machine ℕ).reachable_start.run (show
    (machine ℕ).run (machine ℕ).start
      [.publish 0 1, .runAsync 0, .take 0, .raise 0, .publish 1 2, .wait 0, .check 0,
        .deliver 0 true, .take 0, .raise 0, .deliver 0 false, .take 0, .check 0] = some _
      from rfl))).2.2.1 0 [1, 2] rfl⟩

end ProgressDrain
