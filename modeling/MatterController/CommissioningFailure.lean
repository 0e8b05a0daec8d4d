import MatterController.CommissioningProgress

/-!
# The stage that a commissioning failed in

A commissioning that fails or times out reports the stage it failed in, and classifies the
failure by it. It takes the stage of the last update for that, where the delegate keeps an
active stage and gives it up when a stage ends without error.

So where the last stage to be named has completed and nothing else has started, the stage
reported is one that did not fail, and the kind of failure is one that did not happen: a
commissioning that times out right after PASE is established fails because of PASE. The
two trackers are compared on the callbacks alone. The delegate has no active stage exactly
where every start of a stage is followed by a success (`activeStage_eq_none`), and a report
comes from the last stage that a callback names (`comesFrom_iff`). What goes wrong is that
both can hold of a stage that has completed (`failedStage_notCompleted_iff`).
-/

namespace CommissioningProgress

open PairingDelegate

/-! ## Stages under way -/

/-- The stage that a callback names. -/
def names (callback : PairingCallback) : Option CommissioningStage :=
  (tells callback).map NativeCommissioningProgress.stage

/-- **No stage is under way**: after every start of a stage, some stage has ended without
error. -/
def Idle (callbacks : List PairingCallback) : Prop :=
  ∀ stage later, .onCommissioningStageStart stage :: later <:+ callbacks →
    ∃ done, .onCommissioningStatusUpdate done .noError ∈ later

/-- What starts the last part of a list with one more callback. -/
theorem start_suffix_concat {callbacks : List PairingCallback} {callback : PairingCallback}
    {stage : CommissioningStage} {later : List PairingCallback}
    (h : .onCommissioningStageStart stage :: later <:+ callbacks ++ [callback]) :
    (callback = .onCommissioningStageStart stage ∧ later = []) ∨
      ∃ before, later = before ++ [callback] ∧
        .onCommissioningStageStart stage :: before <:+ callbacks := by
  rcases List.suffix_concat_iff.mp h with hnil | ⟨before, hbefore, hsuffix⟩
  · cases hnil
  · cases before with
    | nil =>
      obtain ⟨hcallback, hlater⟩ := List.cons_eq_cons.mp hbefore
      exact Or.inl ⟨hcallback.symm, hlater⟩
    | cons first before =>
      obtain ⟨hfirst, hlater⟩ := List.cons_eq_cons.mp hbefore
      exact Or.inr ⟨before, hlater, by rwa [hfirst]⟩

theorem not_idle_concat_start (callbacks : List PairingCallback) (stage : CommissioningStage) :
    ¬ Idle (callbacks ++ [.onCommissioningStageStart stage]) := by
  intro h
  obtain ⟨done, hdone⟩ := h stage [] (List.suffix_append _ _)
  cases hdone

theorem idle_concat_success (callbacks : List PairingCallback) (stage : CommissioningStage) :
    Idle (callbacks ++ [.onCommissioningStatusUpdate stage .noError]) := by
  intro started later h
  rcases start_suffix_concat h with ⟨hstart, -⟩ | ⟨before, rfl, -⟩
  · cases hstart
  · exact ⟨stage, by simp⟩

/-- Any other callback leaves it as it was. -/
theorem idle_concat {callback : PairingCallback}
    (hstart : ∀ stage, callback ≠ .onCommissioningStageStart stage)
    (hsuccess : ∀ stage, callback ≠ .onCommissioningStatusUpdate stage .noError)
    (callbacks : List PairingCallback) : Idle (callbacks ++ [callback]) ↔ Idle callbacks := by
  constructor
  · rintro h stage later ⟨earlier, rfl⟩
    obtain ⟨done, hdone⟩ := h stage (later ++ [callback]) ⟨earlier, by simp⟩
    rcases List.mem_append.mp hdone with hlater | hlast
    · exact ⟨done, hlater⟩
    · exact absurd (List.mem_singleton.mp hlast).symm (hsuccess done)
  · intro h stage later hlater
    rcases start_suffix_concat hlater with ⟨hstarted, -⟩ | ⟨before, rfl, hbefore⟩
    · exact absurd hstarted (hstart stage)
    · obtain ⟨done, hdone⟩ := h stage before hbefore
      exact ⟨done, List.mem_append_left _ hdone⟩

/-- **The delegate has no active stage exactly where no stage is under way.** -/
theorem activeStage_eq_none (allow : Bool) (callbacks : List PairingCallback) :
    (deliverAll allow {} callbacks).1.activeStage = none ↔ Idle callbacks := by
  induction callbacks using List.reverseRecOn with
  | nil => exact ⟨fun _ stage later h => absurd (List.suffix_nil.mp h) (List.cons_ne_nil _ _),
      fun _ => rfl⟩
  | append_singleton callbacks callback ih =>
    rw [deliverAll_concat]
    generalize deliverAll allow {} callbacks = told at ih ⊢
    cases callback with
    | onCommissioningStageStart stage =>
      exact ⟨(by rintro ⟨⟩), fun h => absurd h (not_idle_concat_start callbacks stage)⟩
    | onCommissioningStatusUpdate stage error =>
      by_cases herror : error = .noError
      · rw [herror]
        exact ⟨fun _ => idle_concat_success callbacks stage, fun _ => rfl⟩
      · rw [idle_concat (by simp) (by simpa using herror), ← ih, deliver,
          onCommissioningStatusUpdate, if_neg herror]
    | onDeviceAttestationCompleted success continued =>
      rw [idle_concat (by simp) (by simp), ← ih, deliver, onDeviceAttestationCompleted]
      split
      · rfl
      · split <;> rfl
    | onCommissioningComplete nodeId error => rw [idle_concat (by simp) (by simp), ← ih]; rfl
    | onCommissioningFailure status => rw [idle_concat (by simp) (by simp), ← ih]; rfl
    | onCommissioningRetry stage error => rw [idle_concat (by simp) (by simp), ← ih]; rfl

/-! ## Where a failure comes from -/

/-- **Where a stage that failed comes from**: the native stage with its identifier, its
projection, and the kind of failure that is classified by it. -/
structure ComesFrom (stage : CommissioningStage) (result : MatterCommissioningResult) : Prop where
  nativeStageId : result.nativeStageId = some stage
  failedStage : result.failedStage = projectCommissioningStage stage
  failureKind : result.failureKind
    = classifyCommissioningFailure (projectCommissioningStage stage) (result.outcome == .timedOut)

theorem thrown_active (s : ProgressState) (commissioned : Except Exn UInt64) :
    (s.thrown commissioned).active = s.active ∧
      (s.thrown commissioned).nativeStageId = s.nativeStageId := by
  rcases commissioned with ((_ | _ | _) | _) <;> exact ⟨rfl, rfl⟩

/-- **A result that is no success** is made from the tracker. -/
theorem failure_of_result {o : Operation} {allow : Bool} {c : Course}
    {result : MatterCommissioningResult}
    (hresult : (o.commissionBleAsync allow c).result = .ok result)
    (hfailed : result.succeeded = false) :
    ∃ timedOut message, result = (o.last c).failure timedOut message := by
  cases hstart : c.canceledAtStart with
  | true =>
    rw [Operation.commissionBleAsync, if_pos hstart] at hresult
    cases hresult
  | false =>
    rw [commissionBleAsync_of_started o allow hstart] at hresult
    replace hresult : (o.finish (o.last c) c.cancellationRequested c.commissioned).2 = .ok result :=
      hresult
    cases hcommissioned : c.commissioned with
    | ok node =>
      rw [hcommissioned] at hresult
      obtain rfl := Except.ok.inj hresult
      cases hfailed
    | error exn =>
      rw [hcommissioned, Operation.finish] at hresult
      split at hresult
      · cases hresult
      · exact ⟨_, _, (Except.ok.inj hresult).symm⟩

theorem names_tells (callbacks : List PairingCallback) :
    callbacks.filterMap names
      = (callbacks.filterMap tells).map NativeCommissioningProgress.stage := by
  rw [List.map_filterMap]
  rfl

/-- The tracker has the last stage that a callback named. -/
theorem last_nativeStageId (o : Operation) (c : Course) :
    (o.last c).nativeStageId = (c.callbacks.filterMap names).getLast? := by
  rw [names_tells, List.getLast?_map, Operation.last, (thrown_active _ _).2]
  change _ = Option.map _ c.updates.getLast?
  rcases List.eq_nil_or_concat c.updates with h | ⟨before, update, h⟩ <;> rw [h]
  · rfl
  · rw [List.concat_eq_append, follow_concat, List.getLast?_concat]
    rfl

/-- The active stage of the tracker is the projection of that one. -/
theorem last_active {o : Operation} {c : Course} {stage : CommissioningStage}
    (h : (o.last c).nativeStageId = some stage) :
    (o.last c).active = projectCommissioningStage stage := by
  rw [Operation.last, (thrown_active _ _).2] at h
  rw [Operation.last, (thrown_active _ _).1]
  rcases List.eq_nil_or_concat c.updates with hupdates | ⟨before, update, hupdates⟩ <;>
    rw [hupdates] at h ⊢
  · cases h
  · rw [List.concat_eq_append, follow_concat] at h ⊢
    obtain rfl := Option.some.inj h
    rfl

/-- **A stage that failed comes from the last stage that a callback named.** -/
theorem comesFrom_iff {o : Operation} {allow : Bool} {c : Course}
    {result : MatterCommissioningResult}
    (hresult : (o.commissionBleAsync allow c).result = .ok result)
    (hfailed : result.succeeded = false) {stage : CommissioningStage} :
    ComesFrom stage result ↔ (c.callbacks.filterMap names).getLast? = some stage := by
  obtain ⟨timedOut, message, rfl⟩ := failure_of_result hresult hfailed
  rw [← last_nativeStageId o c]
  refine ⟨ComesFrom.nativeStageId, fun h => ⟨h, last_active h, ?_⟩⟩
  rw [← last_active h]
  cases timedOut <;> rfl

/-! ## Completed stages -/

/-- **The last event of a stage**, as the operation is told of it. -/
def latestEvent (stage : CommissioningStage) (callbacks : List PairingCallback) :
    Option NativeCommissioningProgress :=
  ((callbacks.filterMap tells).filter (·.stage = stage)).getLast?

/-- **A failure is reported of no completed stage**: the last event of the stage it comes
from was not its success, and where the delegate has no active stage that stage has never
completed. -/
def NotCompleted (allow : Bool) (callbacks : List PairingCallback)
    (result : MatterCommissioningResult) : Prop :=
  ∀ stage, ComesFrom stage result →
    (∀ event, latestEvent stage callbacks = some event → succeeds event = false) ∧
      ((deliverAll allow {} callbacks).1.activeStage = none →
        .onCommissioningStatusUpdate stage .noError ∉ callbacks)

/-- **The last stage to be named is spent**: it has completed, and no stage is under
way. -/
def Spent (callbacks : List PairingCallback) : Prop :=
  ∃ stage, (callbacks.filterMap names).getLast? = some stage ∧
    .onCommissioningStatusUpdate stage .noError ∈ callbacks ∧ Idle callbacks

/-- Where the last update says that its stage has completed, the delegate was told of a
completion, and has not been told of a start since. -/
theorem idle_of_last {callbacks : List PairingCallback} {update : NativeCommissioningProgress}
    (hlast : (callbacks.filterMap tells).getLast? = some update) (hs : succeeds update = true) :
    .onCommissioningStatusUpdate update.stage .noError ∈ callbacks ∧ Idle callbacks := by
  induction callbacks using List.reverseRecOn with
  | nil => cases hlast
  | append_singleton callbacks callback ih =>
    rw [List.filterMap_append] at hlast
    cases htells : tells callback with
    | none =>
      rw [List.filterMap_cons_none htells, List.filterMap_nil, List.append_nil] at hlast
      obtain ⟨hmem, hidle⟩ := ih hlast
      refine ⟨List.mem_append_left _ hmem, (idle_concat ?_ ?_ callbacks).mpr hidle⟩ <;>
        rintro stage rfl <;> cases htells
    | some told =>
      rw [List.filterMap_cons_some htells, List.filterMap_nil, List.getLast?_concat] at hlast
      obtain rfl := Option.some.inj hlast
      have hcompletes : completes callback = some told.stage := by
        rw [completes, htells, Option.filter_some, if_pos hs]
        rfl
      rw [completes_eq_some.mp hcompletes]
      exact ⟨by simp, idle_concat_success callbacks _⟩

/-- **A failure is reported of a completed stage exactly where the last stage to be named is
spent**: then its own success was the last that was heard of it, or the delegate knows of no
active stage and the operation names a completed one. -/
theorem failedStage_notCompleted_iff {o : Operation} {allow : Bool} {c : Course}
    {result : MatterCommissioningResult}
    (hresult : (o.commissionBleAsync allow c).result = .ok result)
    (hfailed : result.succeeded = false) :
    NotCompleted allow c.callbacks result ↔ ¬ Spent c.callbacks := by
  constructor
  · rintro h ⟨stage, hlast, hdone, hidle⟩
    exact (h stage ((comesFrom_iff hresult hfailed).mpr hlast)).2
      ((activeStage_eq_none allow c.callbacks).mpr hidle) hdone
  · intro h stage hfrom
    have hlast := (comesFrom_iff hresult hfailed).mp hfrom
    refine ⟨fun event hevent => Bool.eq_false_iff.mpr fun hs => h ?_, fun hactive hdone =>
      h ⟨stage, hlast, hdone, (activeStage_eq_none allow c.callbacks).mp hactive⟩⟩
    -- the last event of the last stage is the last event of all
    obtain ⟨update, hupdate, rfl⟩ : ∃ update, (c.callbacks.filterMap tells).getLast? = some update ∧
        update.stage = stage := by
      rwa [names_tells, List.getLast?_map, Option.map_eq_some_iff] at hlast
    obtain ⟨before, hbefore⟩ := List.getLast?_eq_some_iff.mp hupdate
    rw [latestEvent, hbefore, List.filter_append, List.filter_singleton, decide_eq_true rfl,
      cond_true, List.getLast?_concat] at hevent
    obtain rfl := Option.some.inj hevent
    obtain ⟨hdone, hidle⟩ := idle_of_last hupdate hs
    exact ⟨_, hlast, hdone, hidle⟩

/-- A commissioning that times out while the information is read. -/
def timedOutReading : Course where
  callbacks := [.onCommissioningStatusUpdate .securePairing .noError,
    .onCommissioningStageStart .readCommissioningInfo]
  commissioned := .error (.hresult .timeout)

/-- The stage that failed is the one that was read then, and it had not completed. -/
theorem reading_notCompleted :
    ∃ result, (automatic.commissionBleAsync false timedOutReading).result = .ok result ∧
      result.failedStage = .readingCommissioningInformation ∧
      NotCompleted false timedOutReading.callbacks result := by
  refine ⟨(automatic.last timedOutReading).failure true "", rfl, rfl, ?_⟩
  refine (@failedStage_notCompleted_iff automatic false timedOutReading _ rfl rfl).mpr ?_
  rintro ⟨stage, -, -, hidle⟩
  exact not_idle_concat_start [_] _ hidle

/-- A commissioning that times out after PASE is established, before anything else
starts. -/
def timedOutBetween : Course where
  callbacks := [.onCommissioningStageStart .securePairing,
    .onCommissioningStatusUpdate .securePairing .noError]
  commissioned := .error (.hresult .timeout)

/-- **A stage that has completed is reported as the one that failed**: PASE, though it was
established. -/
theorem completed_stage_failed :
    ∃ result, (automatic.commissionBleAsync false timedOutBetween).result = .ok result ∧
      result.failedStage = .establishingPase ∧ result.failureKind = .paseFailed ∧
      result.lastCompletedStage = .establishingPase ∧
      ¬ NotCompleted false timedOutBetween.callbacks result := by
  refine ⟨(automatic.last timedOutBetween).failure true "", rfl, rfl, rfl, rfl, fun h => ?_⟩
  exact absurd ((h .securePairing ⟨rfl, rfl, rfl⟩).1 _ rfl) (by decide)

end CommissioningProgress
