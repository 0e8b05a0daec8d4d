import MatterController.SubscriptionReports

/-!
# The count of the handlers

`Publish` raises a report where there is a handler and nobody drains, and buffers it
otherwise. It does not ask the event for its handlers: a subscription keeps their
number itself, one more for each registration and one less for each removal. The event
ignores the removal of a token it does not know, and the count does not: from then on it
is one too small, and when it reaches zero the handlers that are left hear nothing.

`step_countMatches_iff` says that a step keeps the two in agreement exactly where it
removes a handler that is there, or the count is zero already, so that
`count_eq_handlers` holds along the runs of such steps.
-/

namespace SubscriptionReports

variable {ρ : Type}

/-- **The count is the number of the handlers.** -/
def State.CountMatches (s : State ρ) : Prop :=
  s.subscription.reportHandlerCount = s.subscription.reportReceived.length

/-- **A removal finds its handler**, or finds no handler at all. A registration that takes
its own handler back does not ask whether there is one. -/
def RemovesRegistered (s : State ρ) (a : Action ρ) : Prop :=
  (∀ token, a = .remove token →
    token ∈ s.subscription.reportReceived ∨ s.subscription.reportReceived = []) ∧
  ∀ k token, a = .removeFailed k → s.registrations k = .failed token →
    token ∈ s.subscription.reportReceived

/-! ## What a step does to the handlers -/

/-- A registration adds its handler, and counts it. -/
theorem ReportSubscription.add_spec (token : ℕ) (s : ReportSubscription ρ) :
    (s.add token).2.reportReceived = s.reportReceived ++ [token] ∧
      (s.add token).2.reportHandlerCount = s.reportHandlerCount + 1 ∧
      ((s.add token).1 = none →
        (s.add token).2.drainingPendingReports = s.drainingPendingReports) := by
  unfold ReportSubscription.add
  dsimp only
  split
  · exact ⟨rfl, rfl, fun _ => rfl⟩
  · exact ⟨rfl, rfl, (by rintro ⟨⟩)⟩

/-- The end of a round neither adds nor removes a handler, and lowers the flag where it
ends the drain. -/
theorem ReportSubscription.swap_spec (s : ReportSubscription ρ) :
    s.swap.2.reportReceived = s.reportReceived ∧
      s.swap.2.reportHandlerCount = s.reportHandlerCount ∧
      (s.swap.1 = none → s.swap.2.drainingPendingReports = false) := by
  unfold ReportSubscription.swap
  split
  · exact ⟨rfl, rfl, fun _ => rfl⟩
  · exact ⟨rfl, rfl, (by rintro ⟨⟩)⟩

/-- `Publish` neither adds nor removes a handler. -/
theorem publish_keeps {s t : State ρ} {report : ρ} (ht : s.publish report = some t) :
    t.subscription.reportReceived = s.subscription.reportReceived ∧
      t.subscription.reportHandlerCount = s.subscription.reportHandlerCount ∧
      t.subscription.drainingPendingReports = s.subscription.drainingPendingReports ∧
      t.registrations = s.registrations := by
  unfold State.publish at ht
  cases hp : s.publishing with
  | some _ =>
    rw [hp] at ht
    cases ht
  | none =>
    rw [hp] at ht
    dsimp only at ht
    rcases publish_cases s.subscription report with ⟨-, hr⟩ |
      ⟨-, -, evicted, kept, -, -, hr⟩ | ⟨-, -, -, hr⟩
    all_goals
      rw [hr] at ht
      cases ht
      exact ⟨rfl, rfl, rfl, rfl⟩

/-- **A registration**: its handler is there and counted, and it drains, or the flag is as
it was. -/
theorem register_cases {s t : State ρ} {k token : ℕ} (ht : s.register k token = some t) :
    t.subscription.reportReceived = s.subscription.reportReceived ++ [token] ∧
      t.subscription.reportHandlerCount = s.subscription.reportHandlerCount + 1 ∧
      s.registrations k = .idle ∧
      ((t.registrations = Function.update s.registrations k .returned ∧
          t.subscription.drainingPendingReports = s.subscription.drainingPendingReports) ∨
        ∃ reports, t.registrations k = .draining token reports false) := by
  have hadd := s.subscription.add_spec token
  unfold State.register at ht
  cases hk : s.registrations k with
  | idle =>
    rw [hk] at ht
    dsimp only at ht
    cases h : s.subscription.add token with
    | mk taken subscription =>
      rw [h] at ht hadd
      cases taken with
      | none =>
        cases ht
        exact ⟨hadd.1, hadd.2.1, rfl, Or.inl ⟨rfl, hadd.2.2 rfl⟩⟩
      | some reports =>
        cases ht
        exact ⟨hadd.1, hadd.2.1, rfl, Or.inr ⟨reports, Function.update_self k _ _⟩⟩
  | draining _ _ _ => rw [hk] at ht; cases ht
  | failed _ => rw [hk] at ht; cases ht
  | returned => rw [hk] at ht; cases ht
  | threw => rw [hk] at ht; cases ht

/-- **A report that the drain raises**: the handlers are as they were, and it still
drains. -/
theorem raisePending_cases {s t : State ρ} {k : ℕ} {throws : Bool}
    (ht : s.raisePending k throws = some t) :
    t.subscription = s.subscription ∧
      ∃ token reports handlerError, t.registrations = Function.update s.registrations k
        (.draining token reports handlerError) := by
  unfold State.raisePending at ht
  cases hk : s.registrations k with
  | draining token reports handlerError =>
    rw [hk] at ht
    cases reports with
    | nil => cases ht
    | cons report reports =>
      cases ht
      exact ⟨rfl, _, _, _, rfl⟩
  | idle => rw [hk] at ht; cases ht
  | failed _ => rw [hk] at ht; cases ht
  | returned => rw [hk] at ht; cases ht
  | threw => rw [hk] at ht; cases ht

/-- A report that is raised live leaves the subscription and the registrations. -/
theorem raiseLive_keeps {s t : State ρ} (ht : s.raiseLive = some t) :
    t.subscription = s.subscription ∧ t.registrations = s.registrations := by
  obtain ⟨report, -, rfl⟩ := raiseLive_cases ht
  exact ⟨rfl, rfl⟩

/-- **The end of a round**: the handlers are as they were, and it still drains, or the flag
is down. -/
theorem swap_cases {s t : State ρ} {k : ℕ} (ht : s.swap k = some t) :
    t.subscription.reportReceived = s.subscription.reportReceived ∧
      t.subscription.reportHandlerCount = s.subscription.reportHandlerCount ∧
      (t.subscription.drainingPendingReports = false ∨
        ∃ token reports handlerError, t.registrations k
          = .draining token reports handlerError) := by
  have hswap := s.subscription.swap_spec
  unfold State.swap at ht
  cases hk : s.registrations k with
  | draining token reports handlerError =>
    rw [hk] at ht
    cases reports with
    | cons _ _ => cases ht
    | nil =>
      dsimp only at ht
      cases h : s.subscription.swap with
      | mk taken subscription =>
        rw [h] at ht hswap
        cases taken with
        | some reports =>
          cases ht
          exact ⟨hswap.1, hswap.2.1, Or.inr ⟨_, _, _, Function.update_self k _ _⟩⟩
        | none =>
          cases handlerError with
          | true =>
            cases ht
            exact ⟨hswap.1, hswap.2.1, Or.inl (hswap.2.2 rfl)⟩
          | false =>
            cases ht
            exact ⟨hswap.1, hswap.2.1, Or.inl (hswap.2.2 rfl)⟩
  | idle => rw [hk] at ht; cases ht
  | failed _ => rw [hk] at ht; cases ht
  | returned => rw [hk] at ht; cases ht
  | threw => rw [hk] at ht; cases ht

/-- **A registration that takes its handler back.** -/
theorem removeFailed_cases {s t : State ρ} {k : ℕ} (ht : s.removeFailed k = some t) :
    ∃ token, s.registrations k = .failed token ∧
      t.registrations = Function.update s.registrations k .threw ∧
      t.subscription = s.subscription.removeFailed token := by
  unfold State.removeFailed at ht
  cases hk : s.registrations k with
  | failed token =>
    rw [hk] at ht
    cases ht
    exact ⟨token, rfl, rfl, rfl⟩
  | idle => rw [hk] at ht; cases ht
  | draining _ _ _ => rw [hk] at ht; cases ht
  | returned => rw [hk] at ht; cases ht
  | threw => rw [hk] at ht; cases ht

/-! ## One step -/

/-- **A removal keeps the agreement** where it finds its handler or no handler. -/
theorem countMatches_remove_iff {s : State ρ} (h : s.CountMatches) (token : ℕ) :
    (s.remove token).CountMatches ↔
      token ∈ s.subscription.reportReceived ∨ s.subscription.reportReceived = [] := by
  unfold State.CountMatches at h ⊢
  dsimp only [State.remove, ReportSubscription.remove]
  rw [h]
  by_cases hmem : token ∈ s.subscription.reportReceived
  · have hpos : 0 < s.subscription.reportReceived.length := List.length_pos_of_mem hmem
    rw [if_pos hpos, List.length_erase_of_mem hmem]
    exact iff_of_true rfl (Or.inl hmem)
  · -- the event ignores the token
    rw [List.erase_of_not_mem hmem]
    by_cases hnil : s.subscription.reportReceived = []
    · rw [hnil]
      exact iff_of_true rfl (Or.inr rfl)
    · have hpos : 0 < s.subscription.reportReceived.length := List.length_pos_iff.mpr hnil
      rw [if_pos hpos]
      exact iff_of_false (by omega) (not_or.mpr ⟨hmem, hnil⟩)

/-- **So does a registration that takes its handler back**, only where it is still
there. -/
theorem countMatches_removeFailed_iff {s t : State ρ} (h : s.CountMatches) {token : ℕ}
    (ht : t.subscription = s.subscription.removeFailed token) :
    t.CountMatches ↔ token ∈ s.subscription.reportReceived := by
  unfold State.CountMatches at h ⊢
  rw [ht]
  dsimp only [ReportSubscription.removeFailed]
  rw [h, ReportSubscription.decremented]
  by_cases hmem : token ∈ s.subscription.reportReceived
  · have hpos : 0 < s.subscription.reportReceived.length := List.length_pos_of_mem hmem
    rw [if_neg (by omega), List.length_erase_of_mem hmem]
    exact iff_of_true rfl hmem
  · rw [List.erase_of_not_mem hmem]
    refine iff_of_false ?_ hmem
    split <;> omega

/-- **A step keeps the count in agreement exactly where its removal finds its
handler.** -/
theorem step_countMatches_iff {s t : State ρ} {a : Action ρ} (h : s.CountMatches)
    (ht : step s a = some t) : t.CountMatches ↔ RemovesRegistered s a := by
  have hkeep : t.subscription.reportReceived = s.subscription.reportReceived →
      t.subscription.reportHandlerCount = s.subscription.reportHandlerCount →
      t.CountMatches := by
    intro hhandlers hcount
    rw [State.CountMatches, hhandlers, hcount]
    exact h
  cases a with
  | publish report =>
    obtain ⟨hhandlers, hcount, -, -⟩ := publish_keeps ht
    exact iff_of_true (hkeep hhandlers hcount) ⟨(by rintro _ ⟨⟩), (by rintro _ _ ⟨⟩)⟩
  | raiseLive =>
    obtain ⟨hsame, -⟩ := raiseLive_keeps ht
    exact iff_of_true (hkeep (by rw [hsame]) (by rw [hsame]))
      ⟨(by rintro _ ⟨⟩), (by rintro _ _ ⟨⟩)⟩
  | register k token =>
    obtain ⟨hhandlers, hcount, -, -⟩ := register_cases ht
    refine iff_of_true ?_ ⟨(by rintro _ ⟨⟩), (by rintro _ _ ⟨⟩)⟩
    rw [State.CountMatches, hhandlers, hcount, List.length_append, List.length_singleton]
    exact congrArg (· + 1) h
  | raisePending k throws =>
    obtain ⟨hsame, -⟩ := raisePending_cases ht
    exact iff_of_true (hkeep (by rw [hsame]) (by rw [hsame]))
      ⟨(by rintro _ ⟨⟩), (by rintro _ _ ⟨⟩)⟩
  | swap k =>
    obtain ⟨hhandlers, hcount, -⟩ := swap_cases ht
    exact iff_of_true (hkeep hhandlers hcount) ⟨(by rintro _ ⟨⟩), (by rintro _ _ ⟨⟩)⟩
  | removeFailed k =>
    obtain ⟨token, hk, -, hsub⟩ := removeFailed_cases ht
    rw [countMatches_removeFailed_iff h hsub]
    refine ⟨fun hmem => ⟨(by rintro _ ⟨⟩), ?_⟩, fun hok => hok.2 k token rfl hk⟩
    rintro j token' ⟨⟩ hj
    rw [hk] at hj
    cases hj
    exact hmem
  | remove token =>
    cases ht
    rw [countMatches_remove_iff h]
    refine ⟨fun hmem => ⟨?_, (by rintro _ _ ⟨⟩)⟩, fun hok => hok.1 token rfl⟩
    rintro token' ⟨⟩
    exact hmem
  | closeAsync =>
    cases ht
    exact iff_of_true h ⟨(by rintro _ ⟨⟩), (by rintro _ _ ⟨⟩)⟩

/-! ## The flag -/

/-- Somebody drains. -/
def State.Drains (s : State ρ) : Prop :=
  ∃ k token reports handlerError, s.registrations k = .draining token reports handlerError

/-- A drain goes on while another registration moves. -/
theorem State.Drains.update {s t : State ρ} {k : ℕ} {r : Registration ρ} (h : s.Drains)
    (hk : ∀ token reports handlerError,
      s.registrations k ≠ .draining token reports handlerError)
    (ht : t.registrations = Function.update s.registrations k r) : t.Drains := by
  obtain ⟨j, token, reports, handlerError, hj⟩ := h
  have hjk : j ≠ k := by
    rintro rfl
    exact hk _ _ _ hj
  exact ⟨j, token, reports, handlerError, by rw [ht, Function.update_of_ne hjk, hj]⟩

/-- **While the flag is up somebody drains**: who raises it does, and whoever stops lowers
it. -/
theorem step_drains {s t : State ρ} {a : Action ρ}
    (h : s.subscription.drainingPendingReports = true → s.Drains) (ht : step s a = some t)
    (hflag : t.subscription.drainingPendingReports = true) : t.Drains := by
  cases a with
  | publish report =>
    obtain ⟨-, -, hsame, hregistrations⟩ := publish_keeps ht
    unfold State.Drains
    rw [hregistrations]
    exact h (hsame ▸ hflag)
  | raiseLive =>
    obtain ⟨hsame, hregistrations⟩ := raiseLive_keeps ht
    unfold State.Drains
    rw [hregistrations]
    exact h (hsame ▸ hflag)
  | register k token =>
    obtain ⟨-, -, hk, ⟨hregistrations, hsame⟩ | ⟨reports, hdrains⟩⟩ := register_cases ht
    · exact (h (hsame ▸ hflag)).update (fun _ _ _ heq => by rw [hk] at heq; cases heq)
        hregistrations
    · exact ⟨k, token, reports, false, hdrains⟩
  | raisePending k throws =>
    obtain ⟨-, token, reports, handlerError, hregistrations⟩ := raisePending_cases ht
    exact ⟨k, token, reports, handlerError, by rw [hregistrations, Function.update_self]⟩
  | swap k =>
    obtain ⟨-, -, hdown | ⟨token, reports, handlerError, hk⟩⟩ := swap_cases ht
    · rw [hdown] at hflag
      cases hflag
    · exact ⟨k, token, reports, handlerError, hk⟩
  | removeFailed k =>
    obtain ⟨token, hk, hregistrations, hsub⟩ := removeFailed_cases ht
    rw [hsub] at hflag
    exact (h hflag).update (fun _ _ _ heq => by rw [hk] at heq; cases heq) hregistrations
  | remove token =>
    cases ht
    exact h hflag
  | closeAsync =>
    cases ht
    exact h hflag

/-! ## Runs -/

/-- **The count is the number of the handlers**, in every state reached by steps whose
removals find their handlers, so that a report is buffered only where no handler is
registered or somebody drains. -/
theorem count_eq_handlers {s : State ρ} (h : (machine ρ).ReachableWithin RemovesRegistered s) :
    s.subscription.reportHandlerCount = s.subscription.reportReceived.length ∧
      ∀ report evicted subscription,
        s.subscription.publish report = (.buffered evicted, subscription) →
        s.subscription.reportReceived = [] ∨ s.Drains := by
  obtain ⟨hcount, hdrains⟩ : s.CountMatches ∧
      (s.subscription.drainingPendingReports = true → s.Drains) :=
    h.invariant (P := fun s => s.CountMatches ∧
        (s.subscription.drainingPendingReports = true → s.Drains))
      ⟨rfl, fun hflag => by cases hflag⟩ fun s a t _ hs hok ht =>
        ⟨(step_countMatches_iff hs.1 ht).mpr hok, step_drains hs.2 ht⟩
  refine ⟨hcount, fun report evicted subscription hbuffered => ?_⟩
  rcases publish_cases s.subscription report with ⟨-, hr⟩ | ⟨-, hzero | hflag, -⟩ |
    ⟨-, -, -, hr⟩
  · rw [hr] at hbuffered
    cases hbuffered
  · rw [hcount] at hzero
    exact Or.inl (List.length_eq_zero_iff.mp hzero)
  · exact Or.inr (hdrains hflag)
  · rw [hr] at hbuffered
    cases hbuffered

/-- Whether a removal finds its handler. -/
def removesRegistered (s : State ρ) : Action ρ → Bool
  | .remove token =>
    s.subscription.reportReceived.contains token || s.subscription.reportReceived.isEmpty
  | .removeFailed k =>
    match s.registrations k with
    | .failed token => s.subscription.reportReceived.contains token
    | _ => true
  | _ => true

theorem removesRegistered_ok (s : State ρ) (a : Action ρ) (h : removesRegistered s a = true) :
    RemovesRegistered s a := by
  constructor
  · rintro token rfl
    simpa [removesRegistered] using h
  · rintro k token rfl hk
    simpa [removesRegistered, hk] using h

/-- Two handlers, of which one is removed, and a report that is raised. -/
theorem count_eq_handlers_two :
    ∃ s, (machine ℕ).runWithin removesRegistered (machine ℕ).start
        [.register 0 5, .swap 0, .register 1 6, .remove 5, .publish 1, .raiseLive] = some s ∧
      s.raised = [1] ∧
      s.subscription.reportHandlerCount = s.subscription.reportReceived.length :=
  ⟨_, rfl, rfl, (count_eq_handlers (.run removesRegistered_ok .start (show
    (machine ℕ).runWithin removesRegistered (machine ℕ).start
      [.register 0 5, .swap 0, .register 1 6, .remove 5, .publish 1, .raiseLive] = some _
      from rfl))).1⟩

/-- **A token that is no longer known**: of two handlers one is removed twice, and the count
says that there is none, although the other is registered. -/
theorem buffered_with_handler :
    ¬ ∀ s : State ℕ, (machine ℕ).Reachable s →
      s.subscription.reportHandlerCount = s.subscription.reportReceived.length ∧
        ∀ report evicted subscription,
          s.subscription.publish report = (.buffered evicted, subscription) →
          s.subscription.reportReceived = [] ∨ s.Drains := by
  intro h
  have hreach := (machine ℕ).reachable_start.run (show (machine ℕ).run (machine ℕ).start
    [.register 0 5, .swap 0, .register 1 6, .remove 5, .remove 5] = some _ from rfl)
  exact absurd (h _ hreach).1 (by decide)

end SubscriptionReports
