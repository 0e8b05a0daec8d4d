import Mathlib.Data.List.Perm.Basic
import MatterController.Inspectable
import MatterController.Locks
import MatterController.Machine

/-!
# The reports of a subscription

A subscription raises its reports as an event. Reports that come while nobody
listens are buffered, up to a limit, and given to the first handler that is
registered, by the thread that registers it: it takes the buffer, raises what it
took without the lock, and looks again, until the buffer is empty. Meanwhile
further reports are buffered behind those it took. A report that comes when
somebody listens and nobody drains is raised at once, also without the lock.

So a report is in one of five places, and a thread moves it while others move
theirs: it was evicted from a full buffer, or is buffered, or in the batch of the
drain, or about to be raised, or has been raised. `reports_accounted` says that
these are all the reports there are, each as often as it was published, that those
that were raised were raised in their order, and that a report is published whenever
the subscription is open, and evicted only from a full buffer, as its oldest
(`State.Records`). What carries it is that there is one drain at a time, since its own
handler is counted while it drains, and that reports are raised from one place at a
time (`Invariant.apart`).

Attribute and event subscriptions have the same code, which is one definition
here, over the type of the reports.
-/

namespace SubscriptionReports

/-! ## Reports -/

structure AttributePath where
  endpointId : UInt16
  clusterId : UInt32
  attributeId : UInt32

structure AttributeValue where
  path : AttributePath
  data : PropertySet

/-- The report of an attribute. -/
structure AttributeReportEventArgs where
  value : AttributeValue

structure EventPath where
  endpointId : UInt16
  clusterId : UInt32
  eventId : UInt32
  urgent : Bool

structure EventValue where
  path : EventPath
  eventNumber : UInt64
  data : PropertySet

/-- The report of an event. -/
structure EventReportEventArgs where
  value : EventValue

/-! ## Subscriptions -/

/-- `kMaximumPendingReports`. -/
abbrev maximumPendingReports : ℕ := 256

/-- **A subscription**, with the reports `ρ`. A handler is its token; the event gives
out tokens and may give one out again. -/
structure ReportSubscription (ρ : Type) where
  /-- The handlers of `mReportReceived`. -/
  reportReceived : List ℕ := []
  pendingReports : List ρ := []
  reportHandlerCount : ℕ := 0
  drainingPendingReports : Bool := false
  /-- Whether `mClose` holds its function. -/
  close : Bool := true

/-- `AttributeSubscription`. -/
abbrev AttributeSubscription := ReportSubscription AttributeReportEventArgs

/-- `EventSubscription`. -/
abbrev EventSubscription := ReportSubscription EventReportEventArgs

/-- What becomes of a report that is published. -/
inductive Publication (ρ : Type)
  | refused
  | buffered (evicted : Option ρ)
  | live

namespace ReportSubscription

variable {ρ : Type}

/-- One less, in the 64 bits of a `size_t`. -/
def decremented (n : ℕ) : ℕ := if n = 0 then 2 ^ 64 - 1 else n - 1

/-- What a registration does under the lock: it adds its handler, and takes the buffer
if that is the first one. -/
def add (token : ℕ) (s : ReportSubscription ρ) : Option (List ρ) × ReportSubscription ρ :=
  let s := { s with
    reportReceived := s.reportReceived ++ [token]
    reportHandlerCount := s.reportHandlerCount + 1 }
  if 1 < s.reportHandlerCount then (none, s)
  else (some s.pendingReports, { s with drainingPendingReports := true, pendingReports := [] })

/-- The end of a round of the drain: it takes the buffer again, or ends. -/
def swap (s : ReportSubscription ρ) : Option (List ρ) × ReportSubscription ρ :=
  if s.pendingReports.isEmpty then (none, { s with drainingPendingReports := false })
  else (some s.pendingReports, { s with pendingReports := [] })

/-- What a registration does last when a handler has thrown. -/
def removeFailed (token : ℕ) (s : ReportSubscription ρ) : ReportSubscription ρ :=
  { s with
    reportReceived := s.reportReceived.erase token
    reportHandlerCount := decremented s.reportHandlerCount }

/-- The removal of a handler; the event ignores a token it does not know. -/
def remove (token : ℕ) (s : ReportSubscription ρ) : ReportSubscription ρ :=
  { s with
    reportReceived := s.reportReceived.erase token
    reportHandlerCount :=
      if 0 < s.reportHandlerCount then s.reportHandlerCount - 1 else s.reportHandlerCount }

/-- What `Publish` does under the lock. -/
def publish (report : ρ) (s : ReportSubscription ρ) : Publication ρ × ReportSubscription ρ :=
  if !s.close then (.refused, s)
  else if s.reportHandlerCount = 0 ∨ s.drainingPendingReports then
    if s.pendingReports.length = maximumPendingReports then
      (.buffered s.pendingReports.head?,
        { s with pendingReports := s.pendingReports.tail ++ [report] })
    else (.buffered none, { s with pendingReports := s.pendingReports ++ [report] })
  else (.live, s)

/-- What `CloseAsync` does under the lock: it moves the function out. -/
def takeClose (s : ReportSubscription ρ) : Bool × ReportSubscription ρ :=
  (s.close, { s with close := false })

end ReportSubscription

/-! ## Threads -/

/-- **A registration**: not yet made, with reports left to raise, about to take its
handler back, or over. -/
inductive Registration (ρ : Type)
  | idle
  | draining (token : ℕ) (reports : List ρ) (handlerError : Bool)
  | failed (token : ℕ)
  | returned
  | threw

/-- A registration that has a handler which is not yet the application's. -/
def Registration.InProgress {ρ : Type} : Registration ρ → Prop
  | .draining _ _ _ => True
  | .failed _ => True
  | _ => False

/-- **A subscription among its threads**: the thread of the reports, with a report it
is about to raise, the registrations, the tokens that were returned and not yet
used, and what became of the reports. -/
structure State (ρ : Type) where
  subscription : ReportSubscription ρ := {}
  publishing : Option ρ := none
  registrations : ℕ → Registration ρ := fun _ => .idle
  tokens : List ℕ := []
  /-- The reports that were published while the subscription was open. -/
  published : List ρ := []
  evicted : List ρ := []
  raised : List ρ := []

/-- What a thread does next, each under the lock once or without it. -/
inductive Action (ρ : Type)
  | publish (report : ρ)
  | raiseLive
  | register (k : ℕ) (token : ℕ)
  | raisePending (k : ℕ) (throws : Bool)
  | swap (k : ℕ)
  | removeFailed (k : ℕ)
  | remove (token : ℕ)
  | closeAsync

namespace State

variable {ρ : Type}

/-- Changes where a registration stands. -/
def setRegistration (s : State ρ) (k : ℕ) (r : Registration ρ) : State ρ :=
  { s with registrations := Function.update s.registrations k r }

/-- `Publish`, up to the end of its section. -/
def publish (report : ρ) (s : State ρ) : Option (State ρ) :=
  match s.publishing with
  | some _ => none
  | none =>
    match s.subscription.publish report with
    | (.refused, _) => some s
    | (.buffered evicted, subscription) => some { s with
        subscription := subscription
        published := s.published ++ [report]
        evicted := s.evicted ++ evicted.toList }
    | (.live, _) => some { s with
        publishing := some report
        published := s.published ++ [report] }

/-- The end of `Publish`, after its section: the report is raised. -/
def raiseLive (s : State ρ) : Option (State ρ) :=
  match s.publishing with
  | none => none
  | some report => some { s with publishing := none, raised := s.raised ++ [report] }

/-- The first section of a registration. -/
def register (k token : ℕ) (s : State ρ) : Option (State ρ) :=
  match s.registrations k with
  | .idle =>
    match s.subscription.add token with
    | (none, subscription) => some
        { s.setRegistration k .returned with
          subscription := subscription
          tokens := token :: s.tokens }
    | (some reports, subscription) => some
        { s.setRegistration k (.draining token reports false) with
          subscription := subscription }
  | _ => none

/-- A registration raises a report it has taken; a handler may throw. -/
def raisePending (k : ℕ) (throws : Bool) (s : State ρ) : Option (State ρ) :=
  match s.registrations k with
  | .draining token (report :: reports) handlerError => some
      { s.setRegistration k (.draining token reports (handlerError || throws)) with
        raised := s.raised ++ [report] }
  | _ => none

/-- A registration that has raised what it took looks again. -/
def swap (k : ℕ) (s : State ρ) : Option (State ρ) :=
  match s.registrations k with
  | .draining token [] handlerError =>
    match s.subscription.swap with
    | (some reports, subscription) => some
        { s.setRegistration k (.draining token reports handlerError) with
          subscription := subscription }
    | (none, subscription) =>
      if handlerError then some
        { s.setRegistration k (.failed token) with subscription := subscription }
      else some
        { s.setRegistration k .returned with
          subscription := subscription
          tokens := token :: s.tokens }
  | _ => none

/-- A registration whose handler has thrown takes it back and throws. -/
def removeFailed (k : ℕ) (s : State ρ) : Option (State ρ) :=
  match s.registrations k with
  | .failed token => some
      { s.setRegistration k .threw with subscription := s.subscription.removeFailed token }
  | _ => none

/-- A handler is removed, with a token that was returned or any other. -/
def remove (token : ℕ) (s : State ρ) : State ρ :=
  { s with subscription := s.subscription.remove token, tokens := s.tokens.erase token }

end State

/-- A step of one of the threads. -/
def step {ρ : Type} (s : State ρ) : Action ρ → Option (State ρ)
  | .publish report => s.publish report
  | .raiseLive => s.raiseLive
  | .register k token => s.register k token
  | .raisePending k throws => s.raisePending k throws
  | .swap k => s.swap k
  | .removeFailed k => s.removeFailed k
  | .remove token => some (s.remove token)
  | .closeAsync => some { s with subscription := s.subscription.takeClose.2 }

/-- **A subscription and its threads.** -/
def machine (ρ : Type) : Machine (State ρ) (Action ρ) where
  start := {}
  step := step

/-- **Each token is used at most once**, by who it was returned to. -/
def TokensUsedOnce {ρ : Type} (s : State ρ) (a : Action ρ) : Prop :=
  ∀ token, a = .remove token → token ∈ s.tokens

/-! ## What holds in every run

The registration that drains is one: while it has its handler, the handlers are one
more than the tokens of the application, so that nobody else finds itself the
first. -/

variable {ρ : Type}

/-- **The registration in progress**, if there is one, with what it has left to
raise. -/
inductive Stage (s : State ρ) : List ρ → Prop
  | quiet (nobody : ∀ k, ¬ (s.registrations k).InProgress)
      (count : s.subscription.reportHandlerCount = s.tokens.length)
      (flag : s.subscription.drainingPendingReports = false) : Stage s []
  | draining {k token : ℕ} {reports : List ρ} {handlerError : Bool}
      (here : s.registrations k = .draining token reports handlerError)
      (others : ∀ j, j ≠ k → ¬ (s.registrations j).InProgress)
      (count : s.subscription.reportHandlerCount = s.tokens.length + 1)
      (flag : s.subscription.drainingPendingReports = true) : Stage s reports
  | failed {k token : ℕ} (here : s.registrations k = .failed token)
      (others : ∀ j, j ≠ k → ¬ (s.registrations j).InProgress)
      (count : s.subscription.reportHandlerCount = s.tokens.length + 1)
      (flag : s.subscription.drainingPendingReports = false) : Stage s []

/-- The reports that were not evicted, in the order in which they are raised, given what
the drain has left to raise. -/
def State.line (s : State ρ) (batch : List ρ) : List ρ :=
  s.raised ++ (batch ++ (s.publishing.toList ++ s.subscription.pendingReports))

/-- **The invariant**, for what the drain has left to raise. -/
structure Invariant (s : State ρ) (batch : List ρ) : Prop where
  stage : Stage s batch
  /-- What is about to be raised is the last report there is. -/
  apart : s.publishing ≠ none → batch = [] ∧ s.subscription.pendingReports = []
  /-- Nothing is buffered while somebody listens and nobody drains. -/
  empty : s.subscription.reportHandlerCount ≠ 0 →
    s.subscription.drainingPendingReports = false → s.subscription.pendingReports = []
  capacity : s.subscription.pendingReports.length ≤ maximumPendingReports
  ordered : (s.line batch).Sublist s.published
  accounted : s.published.Perm (s.evicted ++ s.line batch)

theorem invariant_start : Invariant (machine ρ).start [] where
  stage := .quiet (fun _ h => h) rfl rfl
  apart h := absurd rfl h
  empty h := absurd rfl h
  capacity := Nat.zero_le _
  ordered := List.Sublist.refl _
  accounted := List.Perm.refl _

/-- A stage does not depend on anything but the registrations and the counts. -/
theorem Stage.congr {s t : State ρ} {batch : List ρ} (h : Stage s batch)
    (registrations : t.registrations = s.registrations)
    (count : t.subscription.reportHandlerCount = s.subscription.reportHandlerCount)
    (flag : t.subscription.drainingPendingReports = s.subscription.drainingPendingReports)
    (tokens : t.tokens = s.tokens) : Stage t batch := by
  cases h with
  | quiet nobody hcount hflag =>
    exact .quiet (fun k => by rw [registrations]; exact nobody k)
      (by rw [count, tokens, hcount]) (flag.trans hflag)
  | draining here others hcount hflag =>
    exact .draining ((congrFun registrations _).trans here)
      (fun j hj => by rw [registrations]; exact others j hj) (by rw [count, tokens, hcount])
      (flag.trans hflag)
  | failed here others hcount hflag =>
    exact .failed ((congrFun registrations _).trans here)
      (fun j hj => by rw [registrations]; exact others j hj) (by rw [count, tokens, hcount])
      (flag.trans hflag)

/-- Nobody has a batch while the flag is down. -/
theorem Stage.batch_nil {s : State ρ} {batch : List ρ} (h : Stage s batch)
    (hflag : s.subscription.drainingPendingReports = false) : batch = [] := by
  cases h with
  | quiet => rfl
  | draining _ _ _ hup => rw [hflag] at hup; cases hup
  | failed => rfl

/-- While there are no handlers nobody is registering one. -/
theorem Stage.quiet_of_count {s : State ρ} {batch : List ρ} (h : Stage s batch)
    (hcount : s.subscription.reportHandlerCount = 0) :
    batch = [] ∧ (∀ k, ¬ (s.registrations k).InProgress) ∧ s.tokens = [] := by
  cases h with
  | quiet nobody hc => exact ⟨rfl, nobody, List.length_eq_zero_iff.mp (hc.symm.trans hcount)⟩
  | draining _ _ hc => omega
  | failed _ _ hc => omega

/-! ### The thread of the reports -/

/-- **What `Publish` can do**: nothing, where the subscription is closed; else buffer the
report, evicting the oldest one where the buffer is full, or be about to raise it. -/
theorem publish_cases (s : ReportSubscription ρ) (report : ρ) :
    (s.close = false ∧ s.publish report = (.refused, s)) ∨
    (s.close = true ∧ (s.reportHandlerCount = 0 ∨ s.drainingPendingReports = true) ∧
      ∃ evicted kept, s.pendingReports = evicted.toList ++ kept ∧
        (evicted.isSome = true ↔ s.pendingReports.length = maximumPendingReports) ∧
        s.publish report
          = (.buffered evicted, { s with pendingReports := kept ++ [report] })) ∨
    (s.close = true ∧ s.reportHandlerCount ≠ 0 ∧ s.drainingPendingReports = false ∧
      s.publish report = (.live, s)) := by
  unfold ReportSubscription.publish
  split
  · rename_i hclosed
    exact Or.inl ⟨Bool.eq_false_iff.mpr fun hopen => (by rw [hopen] at hclosed; cases hclosed), rfl⟩
  · rename_i hopen
    have hopen : s.close = true := by simpa using hopen
    split
    · rename_i hbuffer
      refine Or.inr (Or.inl ⟨hopen, hbuffer, ?_⟩)
      split
      · rename_i hfull
        cases hpending : s.pendingReports with
        | nil => rw [hpending] at hfull; cases hfull
        | cons oldest kept =>
          exact ⟨some oldest, kept, rfl, ⟨fun _ => hpending ▸ hfull, fun _ => rfl⟩, rfl⟩
      · rename_i hroom
        exact ⟨none, s.pendingReports, rfl, ⟨nofun, fun h => absurd h hroom⟩, rfl⟩
    · rename_i hlive
      exact Or.inr (Or.inr ⟨hopen, fun h => hlive (Or.inl h),
        Bool.eq_false_iff.mpr fun h => hlive (Or.inr h), rfl⟩)

theorem Invariant.publish {s t : State ρ} {batch : List ρ} (h : Invariant s batch)
    {report : ρ} (ht : s.publish report = some t) : Invariant t batch := by
  have hordered := h.ordered
  have haccounted := h.accounted
  unfold State.publish at ht
  unfold State.line at hordered haccounted
  cases hp : s.publishing with
  | some _ => rw [hp] at ht; cases ht
  | none =>
    rw [hp] at ht hordered haccounted
    dsimp only at ht
    rcases publish_cases s.subscription report with ⟨-, hr⟩ |
      ⟨-, hbuffer, evicted, kept, hpending, hfull, hr⟩ | ⟨-, hcount, hflag, hr⟩
    · rw [hr] at ht
      cases ht
      exact h
    · rw [hr] at ht
      cases ht
      have hcapacity := h.capacity
      rw [hpending] at hordered haccounted
      refine ⟨h.stage.congr rfl rfl rfl rfl, fun hne => absurd rfl hne, fun hcount hflag => ?_,
        ?_, ?_, ?_⟩
      · -- the report was buffered because nobody listens or somebody drains
        rcases hbuffer with h0 | hd
        · exact absurd h0 hcount
        · rw [hd] at hflag
          cases hflag
      · -- a full buffer has given up its oldest report
        show (kept ++ [report]).length ≤ maximumPendingReports
        rw [hpending] at hfull hcapacity
        cases evicted <;> simp_all
        omega
      · show (s.raised ++ (batch ++ (kept ++ [report]))).Sublist (s.published ++ [report])
        have hkept : (s.raised ++ (batch ++ kept)).Sublist s.published :=
          (List.Sublist.append_left (List.Sublist.append_left (List.sublist_append_right _ _) _)
            _).trans hordered
        simpa only [List.append_assoc] using hkept.append_right [report]
      · show (s.published ++ [report]).Perm ((s.evicted ++ evicted.toList)
          ++ (s.raised ++ (batch ++ (kept ++ [report]))))
        refine (haccounted.append_right [report]).trans ?_
        simp only [List.append_assoc, Option.toList_none, List.nil_append]
        refine List.Perm.append_left _ ?_
        -- what was evicted moves in front of what was raised and the batch
        simpa only [List.append_assoc] using
          List.perm_append_comm_assoc (s.raised ++ batch) evicted.toList (kept ++ [report])
    · rw [hr] at ht
      cases ht
      have hpending := h.empty hcount hflag
      have hbatch := h.stage.batch_nil hflag
      rw [hbatch, hpending] at hordered haccounted
      refine ⟨h.stage.congr rfl rfl rfl rfl, fun _ => ⟨hbatch, hpending⟩, fun _ _ => hpending,
        h.capacity, ?_, ?_⟩
      · show (s.raised ++ (batch ++ ([report] ++ s.subscription.pendingReports))).Sublist
          (s.published ++ [report])
        rw [hbatch, hpending]
        simpa using hordered.append_right [report]
      · show (s.published ++ [report]).Perm
          (s.evicted ++ (s.raised ++ (batch ++ ([report] ++ s.subscription.pendingReports))))
        rw [hbatch, hpending]
        simpa using haccounted.append_right [report]

/-- Reports that stay in line are accounted for. -/
theorem Invariant.of_line {s t : State ρ} {batch batch' : List ρ} (h : Invariant s batch)
    (published : t.published = s.published) (evicted : t.evicted = s.evicted)
    (line : t.line batch' = s.line batch) (stage : Stage t batch')
    (apart : t.publishing ≠ none → batch' = [] ∧ t.subscription.pendingReports = [])
    (empty : t.subscription.reportHandlerCount ≠ 0 →
      t.subscription.drainingPendingReports = false → t.subscription.pendingReports = [])
    (capacity : t.subscription.pendingReports.length ≤ s.subscription.pendingReports.length) :
    Invariant t batch' where
  stage := stage
  apart := apart
  empty := empty
  capacity := Nat.le_trans capacity h.capacity
  ordered := by rw [line, published]; exact h.ordered
  accounted := by rw [line, published, evicted]; exact h.accounted

/-- A report that is raised live was being published. -/
theorem raiseLive_cases {s t : State ρ} (ht : s.raiseLive = some t) :
    ∃ report, s.publishing = some report ∧
      t = { s with publishing := none, raised := s.raised ++ [report] } := by
  unfold State.raiseLive at ht
  cases hp : s.publishing with
  | none =>
    rw [hp] at ht
    cases ht
  | some report =>
    rw [hp] at ht
    exact ⟨report, rfl, (Option.some.inj ht).symm⟩

theorem Invariant.raiseLive {s t : State ρ} {batch : List ρ} (h : Invariant s batch)
    (ht : s.raiseLive = some t) : Invariant t batch := by
  obtain ⟨report, hp, rfl⟩ := raiseLive_cases ht
  obtain ⟨hbatch, hpending⟩ := h.apart (by rw [hp]; simp)
  refine h.of_line rfl rfl ?_ (h.stage.congr rfl rfl rfl rfl) (fun hne => absurd rfl hne)
    h.empty (Nat.le_refl _)
  simp [State.line, hp, hbatch, hpending]

/-! ### The registrations -/

/-- Who is in progress is the one whose stage it is. -/
theorem Stage.of_draining {s : State ρ} {batch : List ρ} (h : Stage s batch) {k token : ℕ}
    {reports : List ρ} {handlerError : Bool}
    (hk : s.registrations k = .draining token reports handlerError) :
    batch = reports ∧ (∀ j, j ≠ k → ¬ (s.registrations j).InProgress) ∧
      s.subscription.reportHandlerCount = s.tokens.length + 1 ∧
      s.subscription.drainingPendingReports = true := by
  have hin : (s.registrations k).InProgress := by rw [hk]; trivial
  cases h with
  | quiet nobody => exact absurd hin (nobody k)
  | @draining j _ _ _ here others hcount hflag =>
    by_cases hj : k = j
    · subst hj
      rw [hk] at here
      cases here
      exact ⟨rfl, others, hcount, hflag⟩
    · exact absurd hin (others k hj)
  | @failed j _ here others =>
    by_cases hj : k = j
    · subst hj
      rw [hk] at here
      cases here
    · exact absurd hin (others k hj)

theorem Stage.of_failed {s : State ρ} {batch : List ρ} (h : Stage s batch) {k token : ℕ}
    (hk : s.registrations k = .failed token) :
    batch = [] ∧ (∀ j, j ≠ k → ¬ (s.registrations j).InProgress) ∧
      s.subscription.reportHandlerCount = s.tokens.length + 1 ∧
      s.subscription.drainingPendingReports = false := by
  have hin : (s.registrations k).InProgress := by rw [hk]; trivial
  cases h with
  | quiet nobody => exact absurd hin (nobody k)
  | @draining j _ _ _ here others =>
    by_cases hj : k = j
    · subst hj
      rw [hk] at here
      cases here
    · exact absurd hin (others k hj)
  | @failed j _ here others hcount hflag =>
    by_cases hj : k = j
    · subst hj
      exact ⟨rfl, others, hcount, hflag⟩
    · exact absurd hin (others k hj)

/-- A registration that is not in progress is nobody's stage. -/
theorem not_inProgress_update {g : ℕ → Registration ρ} {k : ℕ} {r : Registration ρ}
    (hr : ¬ r.InProgress) (others : ∀ j, j ≠ k → ¬ (g j).InProgress) (j : ℕ) :
    ¬ (Function.update g k r j).InProgress := by
  by_cases hj : j = k
  · rw [hj, Function.update_self]
    exact hr
  · rw [Function.update_of_ne hj]
    exact others j hj

/-- The others are not in progress whatever this one does. -/
theorem others_update {g : ℕ → Registration ρ} {k : ℕ} (r : Registration ρ)
    (others : ∀ j, j ≠ k → ¬ (g j).InProgress) (j : ℕ) (hj : j ≠ k) :
    ¬ (Function.update g k r j).InProgress := by
  rw [Function.update_of_ne hj]
  exact others j hj

/-- **A further handler** makes one more handler and one more token. -/
theorem Stage.further {s t : State ρ} {batch : List ρ} (h : Stage s batch) {k : ℕ}
    (hk : s.registrations k = .idle)
    (registrations : t.registrations = Function.update s.registrations k .returned)
    (count : t.subscription.reportHandlerCount = s.subscription.reportHandlerCount + 1)
    (flag : t.subscription.drainingPendingReports = s.subscription.drainingPendingReports)
    (tokens : t.tokens.length = s.tokens.length + 1) : Stage t batch := by
  have hout : ∀ j, ¬ (s.registrations j).InProgress →
      ¬ (t.registrations j).InProgress := fun j hj => by
    rw [registrations]
    by_cases hjk : j = k
    · rw [hjk, Function.update_self]
      exact fun h => h
    · rw [Function.update_of_ne hjk]
      exact hj
  have hhere : ∀ j, (s.registrations j).InProgress → t.registrations j = s.registrations j := by
    intro j hj
    have hjk : j ≠ k := fun hjk => by rw [hjk, hk] at hj; exact hj
    rw [registrations, Function.update_of_ne hjk]
  cases h with
  | quiet nobody hcount hflag =>
    exact .quiet (fun j => hout j (nobody j)) (by omega) (flag.trans hflag)
  | draining here others hcount hflag =>
    exact .draining ((hhere _ (by rw [here]; trivial)).trans here)
      (fun j hj => hout j (others j hj)) (by omega) (flag.trans hflag)
  | failed here others hcount hflag =>
    exact .failed ((hhere _ (by rw [here]; trivial)).trans here)
      (fun j hj => hout j (others j hj)) (by omega) (flag.trans hflag)

/-- **A buffer that is taken stays in line**, since nothing is about to be raised while
there is something in it. -/
theorem Invariant.line_take {s : State ρ} (h : Invariant s []) :
    s.raised ++ (s.subscription.pendingReports ++ (s.publishing.toList ++ []))
      = s.line [] := by
  unfold State.line
  cases hp : s.publishing with
  | none => simp
  | some report =>
    rw [(h.apart (by rw [hp]; simp)).2]

theorem Invariant.register {s t : State ρ} {batch : List ρ} (h : Invariant s batch)
    {k token : ℕ} (ht : s.register k token = some t) : ∃ batch', Invariant t batch' := by
  unfold State.register at ht
  cases hk : s.registrations k with
  | idle =>
    rw [hk] at ht
    dsimp only at ht
    by_cases hcount : s.subscription.reportHandlerCount = 0
    · -- the first handler: its registration drains
      have hadd : s.subscription.add token = (some s.subscription.pendingReports,
          { s.subscription with
            reportReceived := s.subscription.reportReceived ++ [token]
            reportHandlerCount := s.subscription.reportHandlerCount + 1
            drainingPendingReports := true
            pendingReports := [] }) := by
        unfold ReportSubscription.add
        exact if_neg (by dsimp only; omega)
      rw [hadd] at ht
      cases ht
      obtain ⟨rfl, hnobody, htokens⟩ := h.stage.quiet_of_count hcount
      refine ⟨s.subscription.pendingReports, h.of_line rfl rfl h.line_take
        (.draining (Function.update_self k _ s.registrations)
          (others_update _ fun j _ => hnobody j) ?_ rfl) (fun hne => ⟨(h.apart hne).2, rfl⟩)
        (fun _ _ => rfl) (Nat.zero_le _)⟩
      show s.subscription.reportHandlerCount + 1 = s.tokens.length + 1
      rw [hcount, htokens, List.length_nil]
    · have hadd : s.subscription.add token = (none,
          { s.subscription with
            reportReceived := s.subscription.reportReceived ++ [token]
            reportHandlerCount := s.subscription.reportHandlerCount + 1 }) := by
        unfold ReportSubscription.add
        exact if_pos (by dsimp only; omega)
      rw [hadd] at ht
      cases ht
      exact ⟨batch, h.of_line rfl rfl rfl (h.stage.further hk rfl rfl rfl rfl) h.apart
        (fun _ => h.empty hcount) (Nat.le_refl _)⟩
  | draining _ _ _ => rw [hk] at ht; cases ht
  | failed _ => rw [hk] at ht; cases ht
  | returned => rw [hk] at ht; cases ht
  | threw => rw [hk] at ht; cases ht

theorem Invariant.raisePending {s t : State ρ} {batch : List ρ} (h : Invariant s batch)
    {k : ℕ} {throws : Bool} (ht : s.raisePending k throws = some t) :
    ∃ batch', Invariant t batch' := by
  unfold State.raisePending at ht
  split at ht
  · rename_i token report reports handlerError hk
    cases ht
    obtain ⟨rfl, others, hcount, hflag⟩ := h.stage.of_draining hk
    have hnone : s.publishing = none := by
      by_contra hne
      cases (h.apart hne).1
    refine ⟨reports, h.of_line rfl rfl ?_ (.draining (Function.update_self k _ s.registrations)
      (others_update _ others) hcount hflag) (fun hne => absurd hnone hne) h.empty
      (Nat.le_refl _)⟩
    show (s.raised ++ [report]) ++ (reports ++ (s.publishing.toList
      ++ s.subscription.pendingReports)) = s.line (report :: reports)
    rw [State.line, List.append_assoc, List.singleton_append, List.cons_append]
  · cases ht

theorem Invariant.swap {s t : State ρ} {batch : List ρ} (h : Invariant s batch) {k : ℕ}
    (ht : s.swap k = some t) : ∃ batch', Invariant t batch' := by
  unfold State.swap ReportSubscription.swap at ht
  split at ht
  · rename_i token handlerError hk
    obtain ⟨rfl, others, hcount, hflag⟩ := h.stage.of_draining hk
    by_cases hpending : s.subscription.pendingReports.isEmpty
    · -- the drain is over: its handler is the application's now, or is taken back
      have hnil := List.isEmpty_iff.mp hpending
      rw [if_pos hpending] at ht
      dsimp only at ht
      split at ht
      · cases ht
        exact ⟨[], h.of_line rfl rfl rfl (.failed (Function.update_self k _ s.registrations)
          (others_update _ others) hcount rfl) h.apart (fun _ _ => hnil) (Nat.le_refl _)⟩
      · cases ht
        exact ⟨[], h.of_line rfl rfl rfl
          (.quiet (not_inProgress_update (fun h => h) others) hcount rfl) h.apart
          (fun _ _ => hnil) (Nat.le_refl _)⟩
    · rw [if_neg hpending] at ht
      cases ht
      exact ⟨s.subscription.pendingReports, h.of_line rfl rfl h.line_take
        (.draining (Function.update_self k _ s.registrations) (others_update _ others) hcount hflag)
        (fun hne => ⟨(h.apart hne).2, rfl⟩) (fun _ _ => rfl) (Nat.zero_le _)⟩
  · cases ht

theorem Invariant.removeFailed {s t : State ρ} {batch : List ρ} (h : Invariant s batch) {k : ℕ}
    (ht : s.removeFailed k = some t) : ∃ batch', Invariant t batch' := by
  unfold State.removeFailed at ht
  split at ht
  · rename_i token hk
    cases ht
    obtain ⟨rfl, others, hcount, hflag⟩ := h.stage.of_failed hk
    have hne : s.subscription.reportHandlerCount ≠ 0 := by omega
    refine ⟨[], h.of_line rfl rfl rfl (.quiet (not_inProgress_update (fun h => h) others) ?_ hflag)
      h.apart (fun _ => h.empty hne) (Nat.le_refl _)⟩
    show ReportSubscription.decremented s.subscription.reportHandlerCount = s.tokens.length
    rw [ReportSubscription.decremented, if_neg hne, hcount, Nat.add_sub_cancel]
  · cases ht

/-- **A handler that is removed with its token** was counted. -/
theorem Invariant.remove {s : State ρ} {batch : List ρ} (h : Invariant s batch) {token : ℕ}
    (htoken : token ∈ s.tokens) : Invariant (s.remove token) batch := by
  have hlength : (s.tokens.erase token).length = s.tokens.length - 1 :=
    List.length_erase_of_mem htoken
  have hpos : 0 < s.tokens.length := List.length_pos_of_mem htoken
  have hremoved : (s.remove token).subscription.reportHandlerCount
      = s.subscription.reportHandlerCount - 1 := by
    show (if 0 < s.subscription.reportHandlerCount then s.subscription.reportHandlerCount - 1
      else s.subscription.reportHandlerCount) = _
    split <;> omega
  have htokens : (s.remove token).tokens = s.tokens.erase token := rfl
  refine h.of_line rfl rfl rfl ?_ h.apart (fun hne => h.empty (by omega)) (Nat.le_refl _)
  cases h.stage with
  | quiet nobody hcount hflag => exact .quiet nobody (by rw [hremoved, htokens]; omega) hflag
  | draining here others hcount hflag =>
    exact .draining here others (by rw [hremoved, htokens]; omega) hflag
  | failed here others hcount hflag =>
    exact .failed here others (by rw [hremoved, htokens]; omega) hflag

/-! ### Runs -/

/-- **Every step keeps the invariant**, where a removal uses a token it was given. -/
theorem Invariant.step {s t : State ρ} {a : Action ρ} {batch : List ρ} (h : Invariant s batch)
    (hok : TokensUsedOnce s a) (ht : step s a = some t) : ∃ batch', Invariant t batch' := by
  cases a with
  | publish report => exact ⟨batch, h.publish ht⟩
  | raiseLive => exact ⟨batch, h.raiseLive ht⟩
  | register k token => exact h.register ht
  | raisePending k throws => exact h.raisePending ht
  | swap k => exact h.swap ht
  | removeFailed k => exact h.removeFailed ht
  | remove token =>
    cases ht
    exact ⟨batch, h.remove (hok token rfl)⟩
  | closeAsync =>
    cases ht
    exact ⟨batch, h.of_line rfl rfl rfl (h.stage.congr rfl rfl rfl rfl) h.apart h.empty
      (Nat.le_refl _)⟩

/-- **The batch of the current drainer**, which is empty where nobody drains. -/
def State.DrainerBatch (s : State ρ) (batch : List ρ) : Prop :=
  (∃ k token handlerError, s.registrations k = .draining token batch handlerError ∧
    ∀ j ≠ k, ∀ token reports handlerError,
      s.registrations j ≠ .draining token reports handlerError) ∨
  batch = [] ∧ ∀ k token reports handlerError,
    s.registrations k ≠ .draining token reports handlerError

theorem Stage.drainerBatch {s : State ρ} {batch : List ρ} (h : Stage s batch) :
    s.DrainerBatch batch := by
  have hno : ∀ {j token reports handlerError}, ¬ (s.registrations j).InProgress →
      s.registrations j ≠ .draining token reports handlerError := by
    intro j token reports handlerError hj heq
    rw [heq] at hj
    exact hj trivial
  cases h with
  | quiet nobody => exact Or.inr ⟨rfl, fun k _ _ _ => hno (nobody k)⟩
  | draining here others =>
    exact Or.inl ⟨_, _, _, here, fun j hj _ _ _ => hno (others j hj)⟩
  | @failed k token here others =>
    refine Or.inr ⟨rfl, fun j _ _ _ => ?_⟩
    by_cases hj : j = k
    · rw [hj, here]
      exact fun heq => by cases heq
    · exact hno (others j hj)

/-- The reports a step publishes: that of `Publish`, while the subscription is open. -/
def State.publishes (s : State ρ) : Action ρ → List ρ
  | .publish report => if s.subscription.close then [report] else []
  | _ => []

/-- **What a step records** of the reports. It publishes that of `Publish`, while the
subscription is open; and it evicts nothing, or the oldest report of a full buffer of 256,
for the one that is published and goes behind the others. -/
structure State.Records (s : State ρ) (a : Action ρ) (t : State ρ) : Prop where
  published : t.published = s.published ++ s.publishes a
  evicted : t.evicted = s.evicted ∨ ∃ report oldest kept, a = .publish report ∧
    s.subscription.pendingReports = oldest :: kept ∧
    s.subscription.pendingReports.length = 256 ∧
    t.subscription.pendingReports = kept ++ [report] ∧ t.evicted = s.evicted ++ [oldest]

/-- `Publish` records so. -/
theorem publish_records {s t : State ρ} {report : ρ} (ht : s.publish report = some t) :
    s.Records (.publish report) t := by
  have hpublishes : s.subscription.close = true → s.publishes (.publish report) = [report] :=
    fun hopen => if_pos hopen
  unfold State.publish at ht
  split at ht
  · cases ht
  · rcases publish_cases s.subscription report with ⟨hclosed, hr⟩ |
      ⟨hopen, -, evicted, kept, hpending, hfull, hr⟩ | ⟨hopen, -, -, hr⟩
    · have hnone : s.publishes (.publish report) = [] :=
        if_neg (by rw [hclosed]; exact Bool.false_ne_true)
      rw [hr] at ht
      cases ht
      exact ⟨by rw [hnone, List.append_nil], Or.inl rfl⟩
    · rw [hr] at ht
      cases ht
      refine ⟨by rw [hpublishes hopen], ?_⟩
      cases evicted with
      | none => exact Or.inl (List.append_nil _)
      | some oldest => exact Or.inr ⟨report, oldest, kept, rfl, hpending, hfull.mp rfl, rfl, rfl⟩
    · rw [hr] at ht
      cases ht
      exact ⟨by rw [hpublishes hopen], Or.inl rfl⟩

/-- A step of another thread leaves both as they are. -/
theorem records_of_eq {s t : State ρ} {a : Action ρ} (ha : s.publishes a = [])
    (hpublished : t.published = s.published) (hevicted : t.evicted = s.evicted) :
    s.Records a t :=
  ⟨by rw [ha, List.append_nil, hpublished], Or.inl hevicted⟩

/-- **Every step records so.** -/
theorem step_records {s t : State ρ} {a : Action ρ} (ht : step s a = some t) :
    s.Records a t := by
  cases a with
  | publish report => exact publish_records ht
  | raiseLive =>
    obtain ⟨report, -, rfl⟩ := raiseLive_cases ht
    exact records_of_eq rfl rfl rfl
  | register k token =>
    replace ht : s.register k token = some t := ht
    unfold State.register at ht
    split at ht
    · split at ht <;> cases ht <;> exact records_of_eq rfl rfl rfl
    · cases ht
  | raisePending k throws =>
    replace ht : s.raisePending k throws = some t := ht
    unfold State.raisePending at ht
    split at ht <;> cases ht
    exact records_of_eq rfl rfl rfl
  | swap k =>
    replace ht : s.swap k = some t := ht
    unfold State.swap at ht
    split at ht
    · split at ht
      · cases ht
        exact records_of_eq rfl rfl rfl
      · split at ht <;> cases ht <;> exact records_of_eq rfl rfl rfl
    · cases ht
  | removeFailed k =>
    replace ht : s.removeFailed k = some t := ht
    unfold State.removeFailed at ht
    split at ht <;> cases ht
    exact records_of_eq rfl rfl rfl
  | remove token =>
    cases ht
    exact records_of_eq rfl rfl rfl
  | closeAsync =>
    cases ht
    exact records_of_eq rfl rfl rfl

/-- **Every report is in one place.** In every state that registrations, removals that
use each token once, and the thread of the reports reach, the reports that were
published are those that were evicted, that were raised, that the drain has left, that
are about to be raised and that are buffered, each as often; and those that were raised
were raised in their order. The buffer holds at most 256. The next step publishes what
`Publish` is called with, if the subscription is open, and evicts only the oldest report
of a full buffer. -/
theorem reports_accounted {s : State ρ} (h : (machine ρ).ReachableWithin TokensUsedOnce s) :
    (∃ batch, s.DrainerBatch batch ∧
      s.published.Perm (s.evicted ++ s.subscription.pendingReports ++ batch
        ++ s.publishing.toList ++ s.raised) ∧
      s.raised.Sublist s.published) ∧
    s.subscription.pendingReports.length ≤ 256 ∧
    ∀ a t, (machine ρ).step s a = some t → s.Records a t := by
  obtain ⟨batch, hinv⟩ : ∃ batch, Invariant s batch :=
    h.invariant (P := fun s => ∃ batch, Invariant s batch) ⟨[], invariant_start⟩
      fun s a t _ ⟨_, hs⟩ hok ht => hs.step hok ht
  refine ⟨⟨batch, hinv.stage.drainerBatch, hinv.accounted.trans ?_,
    (List.sublist_append_left _ _).trans hinv.ordered⟩, hinv.capacity,
    fun a t ht => step_records ht⟩
  simp only [List.append_assoc]
  refine List.Perm.append_left _ ?_
  -- the places are those of the line, from its end
  have hswap : (s.line batch).Perm
      ((batch ++ (s.publishing.toList ++ s.subscription.pendingReports)) ++ s.raised) :=
    List.perm_append_comm
  refine hswap.trans ?_
  simpa only [List.append_assoc] using
    (@List.perm_append_comm _ (batch ++ s.publishing.toList)
      s.subscription.pendingReports).append_right s.raised

/-- Whether a removal uses a token that was returned. -/
def usesToken (s : State ρ) : Action ρ → Bool
  | .remove token => s.tokens.contains token
  | _ => true

theorem usesToken_ok (s : State ρ) (a : Action ρ) (h : usesToken s a = true) :
    TokensUsedOnce s a := by
  rintro token rfl
  simpa [usesToken] using h

/-- A report is buffered, drained by the first handler while another comes, and a third
one is raised at once, after its handler was removed. -/
def drained : List (Action ℕ) :=
  [.publish 1, .register 0 5, .publish 2, .raisePending 0 false, .swap 0, .raisePending 0 false,
    .swap 0, .publish 3, .remove 5, .closeAsync, .raiseLive, .publish 4]

theorem reports_accounted_drained :
    ∃ s, (machine ℕ).runWithin usesToken (machine ℕ).start drained = some s ∧
      s.raised = [1, 2, 3] ∧
      (∃ batch, s.DrainerBatch batch ∧
        s.published.Perm (s.evicted ++ s.subscription.pendingReports ++ batch
          ++ s.publishing.toList ++ s.raised) ∧
        s.raised.Sublist s.published) ∧
      s.subscription.pendingReports.length ≤ 256 ∧
      ∀ a t, (machine ℕ).step s a = some t → s.Records a t :=
  ⟨_, rfl, rfl, reports_accounted (.run usesToken_ok .start (show
    (machine ℕ).runWithin usesToken (machine ℕ).start drained = some _ from rfl))⟩

/-- One report more than the buffer holds evicts the first. -/
example :
    ((machine ℕ).run (machine ℕ).start ((List.range 257).map .publish)).map
      (fun s => (s.evicted, s.subscription.pendingReports.length)) = some ([0], 256) := by
  decide +kernel

end SubscriptionReports
