import Mathlib.Data.Option.Basic
import Mathlib.Data.List.Basic

/-!
# Machines run under a schedule

A `Machine` is a start state and a partial step function: `step s a` is the
state after the action `a`, and `none` where `a` is not enabled in `s`. Every
choice a run makes – which thread moves, what a device answers, whether a
write fails – is in the action, so a run is determined by its **schedule**,
the list of its actions, and can be evaluated.

A property of every interleaving is a property of every state a schedule
reaches (`Machine.Reachable`). `Machine.ReachableWithin ok` restricts the
schedules to those whose every step meets a condition `ok` on the state before
the step and the action, which is how a property that needs such a condition
is stated. `Machine.ReachableWithin.invariant` is the induction both use.
`Machine.Leads` is for a run from any state to any other.
-/

/-- **A machine**: a start state and a step that is partial in the action. -/
structure Machine (σ α : Type*) where
  /-- The state every run starts in. -/
  start : σ
  /-- The state after an action, or `none` where the action is not enabled. -/
  step : σ → α → Option σ

namespace Machine

variable {σ α : Type*}

/-- The state a schedule leads to, or `none` where one of its actions is not
enabled. -/
def run (m : Machine σ α) (s : σ) : List α → Option σ
  | [] => some s
  | a :: as => (m.step s a).bind (fun t => run m t as)

@[simp] theorem run_nil (m : Machine σ α) (s : σ) : m.run s [] = some s := rfl

@[simp] theorem run_cons (m : Machine σ α) (s : σ) (a : α) (as : List α) :
    m.run s (a :: as) = (m.step s a).bind (fun t => m.run t as) := rfl

/-- A schedule splits where its list does. -/
theorem run_append (m : Machine σ α) (s : σ) (as bs : List α) :
    m.run s (as ++ bs) = (m.run s as).bind (fun t => m.run t bs) := by
  induction as generalizing s with
  | nil => rfl
  | cons a as ih =>
    rw [List.cons_append, run_cons, run_cons, Option.bind_assoc]
    exact congrArg _ (funext fun t => ih t)

/-- **A schedule leads** from one state to another. -/
def Leads (m : Machine σ α) (s t : σ) : Prop := ∃ as, m.run s as = some t

theorem Leads.refl (m : Machine σ α) (s : σ) : m.Leads s s := ⟨[], rfl⟩

/-- A step leads on. -/
theorem Leads.head {m : Machine σ α} {s t u : σ} {a : α} (hst : m.step s a = some t)
    (h : m.Leads t u) : m.Leads s u := by
  obtain ⟨as, hr⟩ := h
  exact ⟨a :: as, by rw [run_cons, hst, Option.bind_some, hr]⟩

/-- **Reachability under a condition**: the states of the runs whose every step
meets `ok`, a condition on the state before the step and the action taken. -/
inductive ReachableWithin (m : Machine σ α) (ok : σ → α → Prop) : σ → Prop
  | start : ReachableWithin m ok m.start
  | step {s t : σ} {a : α} : ReachableWithin m ok s → ok s a →
      m.step s a = some t → ReachableWithin m ok t

/-- **Reachability**: the states of all runs. -/
def Reachable (m : Machine σ α) : σ → Prop :=
  m.ReachableWithin (fun _ _ => True)

/-- **Invariants hold along runs.** What holds at the start and survives every
step that meets `ok` holds in every state such steps reach; the step may use
that its source is itself reached. -/
theorem ReachableWithin.invariant {m : Machine σ α} {ok : σ → α → Prop}
    {P : σ → Prop} (hstart : P m.start)
    (hstep : ∀ s a t, m.ReachableWithin ok s → P s → ok s a →
      m.step s a = some t → P t)
    {s : σ} (h : m.ReachableWithin ok s) : P s := by
  induction h with
  | start => exact hstart
  | step hs hok hst ih => exact hstep _ _ _ hs ih hok hst

/-- The unconditional case. -/
theorem Reachable.invariant {m : Machine σ α} {P : σ → Prop}
    (hstart : P m.start)
    (hstep : ∀ s a t, m.Reachable s → P s → m.step s a = some t → P t)
    {s : σ} (h : m.Reachable s) : P s :=
  ReachableWithin.invariant hstart (fun s a t hs hp _ => hstep s a t hs hp) h

theorem reachable_start (m : Machine σ α) : m.Reachable m.start :=
  ReachableWithin.start

theorem Reachable.step {m : Machine σ α} {s t : σ} {a : α}
    (h : m.Reachable s) (hst : m.step s a = some t) : m.Reachable t :=
  ReachableWithin.step h trivial hst

/-- A schedule from a reachable state ends in a reachable state. -/
theorem Reachable.run {m : Machine σ α} {s t : σ} (h : m.Reachable s)
    {as : List α} (hr : m.run s as = some t) : m.Reachable t := by
  induction as generalizing s with
  | nil =>
    obtain rfl := Option.some.inj hr
    exact h
  | cons a as ih =>
    obtain ⟨u, hu, hrest⟩ := Option.bind_eq_some_iff.mp hr
    exact ih (h.step hu) hrest

/-- **Reachable states are the ends of schedules.** -/
theorem reachable_iff_run {m : Machine σ α} {s : σ} :
    m.Reachable s ↔ ∃ as, m.run m.start as = some s := by
  constructor
  · intro h
    refine h.invariant (P := fun s => ∃ as, m.run m.start as = some s)
      ⟨[], rfl⟩ (fun s a t _ hs hst => ?_)
    obtain ⟨as, hr⟩ := hs
    refine ⟨as ++ [a], ?_⟩
    rw [run_append, hr, Option.bind_some, run_cons, hst, Option.bind_some, run_nil]
  · rintro ⟨as, hr⟩
    exact m.reachable_start.run hr

/-- **A run is bounded by a measure**: where every step from a state with `P` keeps `P`
and lowers the measure `μ`, but for an action that `r` accepts, which may add `k` to it,
a schedule is no longer than the measure of the state it starts in and what the actions
that `r` accepts added. -/
theorem run_length_le {m : Machine σ α} {P : σ → Prop} {μ : σ → ℕ} {r : α → Bool} {k : ℕ}
    (hstep : ∀ s a t, P s → m.step s a = some t →
      P t ∧ μ t + 1 ≤ μ s + if r a then k else 0)
    {s t : σ} (hs : P s) {as : List α} (hr : m.run s as = some t) :
    P t ∧ as.length + μ t ≤ μ s + k * as.countP r := by
  induction as generalizing s with
  | nil =>
    obtain rfl := Option.some.inj hr
    exact ⟨hs, by simp⟩
  | cons a as ih =>
    obtain ⟨u, hu, hrest⟩ := Option.bind_eq_some_iff.mp hr
    obtain ⟨hPu, hμ⟩ := hstep s a u hs hu
    obtain ⟨hPt, hlen⟩ := ih hPu hrest
    refine ⟨hPt, ?_⟩
    rw [List.length_cons, List.countP_cons, Nat.mul_add]
    by_cases hra : r a = true
    · rw [if_pos hra] at hμ ⊢
      omega
    · rw [if_neg hra] at hμ ⊢
      omega

/-- The state a schedule leads to by steps that all pass a test. -/
def runWithin (m : Machine σ α) (ok : σ → α → Bool) (s : σ) : List α → Option σ
  | [] => some s
  | a :: as => if ok s a then (m.step s a).bind (fun t => runWithin m ok t as) else none

/-- **A schedule that passes a test** at every step reaches a state under the condition
the test decides. -/
theorem ReachableWithin.run {m : Machine σ α} {ok : σ → α → Prop} {test : σ → α → Bool}
    (htest : ∀ s a, test s a = true → ok s a) {s t : σ} (h : m.ReachableWithin ok s)
    {as : List α} (hr : m.runWithin test s as = some t) : m.ReachableWithin ok t := by
  induction as generalizing s with
  | nil =>
    obtain rfl := Option.some.inj hr
    exact h
  | cons a as ih =>
    rw [runWithin] at hr
    split at hr
    · rename_i hok
      obtain ⟨u, hu, hrest⟩ := Option.bind_eq_some_iff.mp hr
      exact ih (h.step (htest s a hok) hu) hrest
    · cases hr

end Machine
