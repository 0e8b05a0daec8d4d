import MatterController.AudioOwnership

/-!
# The result of an invoked command

`GenericInvokeState` collects what the native command sender reports for one
command: any number of responses and errors, in any order, and then that it is
done. The allocation commands require a response command, so a response counts
only where it comes from the requested endpoint and cluster, answers with the
expected command and is the first to do so.

An allocation that fails is forgotten only where the camera refused it
(`knownRejection`): the error that ends the command is an Interaction Model
status. A success the camera reported must therefore never end as such a
status, whatever else is delivered. `result` is one field that every callback
may overwrite, and two of them overwrite it without asking what is there:
`onError` stores any error, and the first correlated refusal stores its status
over the mismatch an uncorrelated response left. `successRulesOutRefusal_iff` says
exactly which sequences end so: those `EndsInRefusal` describes.
-/

/-- A command path (`ConcreteCommandPath`). -/
structure CommandPath where
  endpoint : UInt16
  cluster : UInt32
  command : UInt32
  deriving DecidableEq, Repr

/-- **What the native sender delivers before it is done**: a response, with its
path, its status and the data it may carry, or an error. -/
inductive SenderCallback (δ : Type)
  | onResponse (path : CommandPath) (status : StatusIB) (data : Option δ)
  | onError (error : ChipError)
  deriving DecidableEq, Repr

/-- **The state of one invoked command**: the requested path, the response
command it requires if any, whether that response must carry data, and what
was reported so far. -/
structure GenericInvokeState (ν : Type) where
  path : CommandPath
  responseCommand : Option UInt32 := none
  responseData : Bool := false
  responseSeen : Bool := false
  complete : Bool := false
  result : ChipError := .noError
  value : Option ν := none
  deriving DecidableEq, Repr

namespace GenericInvokeState

variable {δ ν : Type} [EmptyCollection ν] (decode : δ → Option ν)

/-- Whether a response fails to correlate with the request, the part of the
test of `OnResponse` that does not ask what was seen before. A refusal need not
name the response command, nor carry data. -/
def mismatch (s : GenericInvokeState ν) (path : CommandPath) (status : StatusIB)
    (data : Option δ) : Bool :=
  path.endpoint != s.path.endpoint || path.cluster != s.path.cluster ||
    (status.isSuccess && (some path.command != s.responseCommand ||
      (s.responseData && data.isNone)))

/-- `OnResponse`: a response that repeats or does not correlate is an error of
its own; the first that does decides between the status it refuses with and
the data it carries. -/
def onResponse (path : CommandPath) (status : StatusIB) (data : Option δ)
    (s : GenericInvokeState ν) : GenericInvokeState ν :=
  if s.responseCommand.isSome && (s.responseSeen || s.mismatch path status data) then
    { s with result := .invalidArgument }
  else
    let s := { s with responseSeen := true }
    if status.toChipError ≠ .noError then { s with result := status.toChipError }
    else match data with
      | some d =>
        match decode d with
        | some value => { s with value := some value }
        | none => { s with result := .decodeFailed }
      | none => { s with value := some ∅ }

/-- `OnError`: the error replaces whatever was there. -/
def onError (error : ChipError) (s : GenericInvokeState ν) : GenericInvokeState ν :=
  { s with result := error }

/-- `OnDone`: a required response that never came is a timeout. -/
def onDone (s : GenericInvokeState ν) : GenericInvokeState ν :=
  { s with
    result := if s.responseCommand.isSome && !s.responseSeen && s.result == .noError
      then .timeout else s.result
    complete := true }

/-- One callback, delivered. -/
def deliver (s : GenericInvokeState ν) : SenderCallback δ → GenericInvokeState ν
  | .onResponse path status data => s.onResponse decode path status data
  | .onError error => s.onError error

/-- **The final state**: the callbacks in their order, then `OnDone`. -/
def finalState (s : GenericInvokeState ν) (cbs : List (SenderCallback δ)) :
    GenericInvokeState ν :=
  onDone (cbs.foldl (deliver decode) s)

/-- The state of a command that requires a response command, before any
callback. -/
def requiring (path : CommandPath) (response : UInt32) (data : Bool) :
    GenericInvokeState ν :=
  { path := path, responseCommand := some response, responseData := data }

/-! ## What a callback leaves -/

/-- Whether a callback is a response that correlates with the request. -/
def correlated (s : GenericInvokeState ν) : SenderCallback δ → Bool
  | .onResponse path status data => !s.mismatch path status data
  | .onError _ => false

/-- What a callback writes to `result` where no response was accepted before,
`none` where it leaves it: the success of the first correlated response, with
data that decodes or no data, is the one callback that writes nothing. -/
def verdict (s : GenericInvokeState ν) : SenderCallback δ → Option ChipError
  | .onError error => some error
  | .onResponse path status data =>
    if s.mismatch path status data then some .invalidArgument
    else if status.isSuccess then
      match data with
      | some d => if (decode d).isSome then none else some .decodeFailed
      | none => none
    else some status.toChipError

/-- What a callback writes to `result` after an accepted response. -/
def verdictAfter : SenderCallback δ → ChipError
  | .onError error => error
  | .onResponse _ _ _ => .invalidArgument

/-- A callback writes the result, the value and whether a response was seen,
and nothing else. -/
theorem deliver_eq (s : GenericInvokeState ν) (c : SenderCallback δ) :
    ∃ seen result value, deliver decode s c
      = { s with responseSeen := seen, result := result, value := value } := by
  cases c with
  | onError error => exact ⟨_, _, _, rfl⟩
  | onResponse path status data =>
    simp only [deliver, onResponse]
    split
    · exact ⟨_, _, _, rfl⟩
    · split
      · exact ⟨_, _, _, rfl⟩
      · cases data with
        | none => exact ⟨_, _, _, rfl⟩
        | some d => cases hd : decode d <;> exact ⟨_, _, _, by simp only [hd]; rfl⟩

/-- **What one callback does**, where a response command is required: it notes
a correlated response, and writes `result` as the verdict on it says. -/
theorem deliver_spec {s : GenericInvokeState ν} (hreq : s.responseCommand.isSome = true)
    (c : SenderCallback δ) :
    (deliver decode s c).responseSeen = (s.responseSeen || correlated s c) ∧
      (deliver decode s c).result
        = if s.responseSeen then verdictAfter c
          else (verdict decode s c).getD s.result := by
  cases c with
  | onError error =>
    cases hseen : s.responseSeen <;>
      simp [deliver, onError, correlated, verdict, verdictAfter, hseen]
  | onResponse path status data =>
    simp only [deliver, onResponse, hreq, Bool.true_and, correlated, verdict, verdictAfter]
    cases hseen : s.responseSeen with
    | true => simp
    | false =>
      cases hm : s.mismatch path status data with
      | true => simp
      | false =>
        cases hs : status.isSuccess with
        | false =>
          have hne : status.toChipError ≠ .noError := by
            intro h
            have := StatusIB.isIMStatus_toChipError hs
            rw [h] at this
            cases this
          simp [hne]
        | true =>
          rw [StatusIB.toChipError_of_isSuccess hs]
          cases data with
          | none => simp
          | some d => cases hd : decode d <;> simp [hd]

/-! ## What a sequence of callbacks leaves -/

/-- A command in a state that requires a response and has seen none: the state
every invoked allocation starts in. -/
def Fresh (s : GenericInvokeState ν) : Prop :=
  s.responseCommand.isSome = true ∧ s.responseSeen = false ∧ s.result = .noError

omit [EmptyCollection ν] in
theorem fresh_requiring (path : CommandPath) (response : UInt32) (data : Bool) :
    Fresh (requiring path response data : GenericInvokeState ν) :=
  ⟨rfl, rfl, rfl⟩

/-- The request survives every sequence of callbacks. -/
theorem foldl_deliver_eq (s : GenericInvokeState ν) (cbs : List (SenderCallback δ)) :
    ∃ seen result value, cbs.foldl (deliver decode) s
      = { s with responseSeen := seen, result := result, value := value } := by
  induction cbs generalizing s with
  | nil => exact ⟨_, _, _, rfl⟩
  | cons c cbs ih =>
    obtain ⟨seen, result, value, h⟩ := deliver_eq decode s c
    obtain ⟨seen', result', value', h'⟩ := ih (deliver decode s c)
    exact ⟨seen', result', value', by rw [List.foldl_cons, h', h]⟩

/-- A response was seen exactly where some callback correlated. -/
theorem responseSeen_foldl {s : GenericInvokeState ν} (h : Fresh s)
    (cbs : List (SenderCallback δ)) :
    (cbs.foldl (deliver decode) s).responseSeen = cbs.any (correlated s) := by
  induction cbs using List.reverseRecOn with
  | nil => exact h.2.1
  | append_singleton cbs c ih =>
    obtain ⟨seen, result, value, he⟩ := foldl_deliver_eq decode s cbs
    have hreq : (cbs.foldl (deliver decode) s).responseCommand.isSome = true := by
      rw [he]; exact h.1
    have hc : correlated (cbs.foldl (deliver decode) s) c = correlated s c := by
      rw [he]; cases c <;> rfl
    rw [List.foldl_append, List.foldl_cons, List.foldl_nil,
      (deliver_spec decode hreq c).1, ih, hc, List.any_append]
    simp

/-- **The result after one more callback**: its verdict, or the one a repeated
response gets once some response correlated. -/
theorem result_foldl_concat {s : GenericInvokeState ν} (h : Fresh s)
    (cbs : List (SenderCallback δ)) (c : SenderCallback δ) :
    ((cbs ++ [c]).foldl (deliver decode) s).result
      = if cbs.any (correlated s) then verdictAfter c
        else (verdict decode s c).getD (cbs.foldl (deliver decode) s).result := by
  obtain ⟨seen, result, value, he⟩ := foldl_deliver_eq decode s cbs
  have hreq : (cbs.foldl (deliver decode) s).responseCommand.isSome = true := by
    rw [he]; exact h.1
  have hv : verdict decode (cbs.foldl (deliver decode) s) c = verdict decode s c := by
    rw [he]; cases c <;> rfl
  rw [List.foldl_append, List.foldl_cons, List.foldl_nil,
    (deliver_spec decode hreq c).2, responseSeen_foldl decode h, hv]

/-! ## The sequences that end as a refusal -/

/-- An error that is an Interaction Model status. -/
def imError : SenderCallback δ → Bool
  | .onError error => error.isIMStatus
  | .onResponse _ _ _ => false

/-- A correlated response that refuses the command. -/
def refuses (s : GenericInvokeState ν) : SenderCallback δ → Bool
  | .onResponse path status data => !s.mismatch path status data && !status.isSuccess
  | .onError _ => false

/-- A correlated success whose data, if any, decodes. -/
def succeeds (s : GenericInvokeState ν) : SenderCallback δ → Bool
  | .onResponse path status data =>
    !s.mismatch path status data && status.isSuccess && data.all (fun d => (decode d).isSome)
  | .onError _ => false

/-- **The sequences that end as a refusal**: an Interaction Model error comes
last; or the first correlated response does, and refuses; or the last two are
an Interaction Model error and then the first correlated response, a success,
which writes nothing over it. -/
def EndsInRefusal (s : GenericInvokeState ν) (cbs : List (SenderCallback δ)) : Prop :=
  (∃ pre c, cbs = pre ++ [c] ∧ imError c = true) ∨
  (∃ pre c, cbs = pre ++ [c] ∧ refuses s c = true ∧ pre.any (correlated s) = false) ∨
  (∃ pre c d, cbs = pre ++ [c, d] ∧ imError c = true ∧ succeeds decode s d = true ∧
    pre.any (correlated s) = false)

omit [EmptyCollection ν] in
/-- What an uncorrelated callback writes is an Interaction Model status only
where it is such an error. -/
theorem verdict_isIMStatus_of_not_correlated {s : GenericInvokeState ν}
    {c : SenderCallback δ} (hc : correlated s c = false) :
    ∃ error, verdict decode s c = some error ∧ error.isIMStatus = imError c := by
  cases c with
  | onError error => exact ⟨error, rfl, rfl⟩
  | onResponse path status data =>
    simp only [correlated, Bool.not_eq_false'] at hc
    exact ⟨.invalidArgument, by simp [verdict, hc], rfl⟩

omit [EmptyCollection ν] in
/-- What a correlated response writes is an Interaction Model status where it
refuses; it writes nothing where it succeeds. -/
theorem verdict_of_correlated {s : GenericInvokeState ν} {c : SenderCallback δ}
    (hc : correlated s c = true) :
    (verdict decode s c = none ↔ succeeds decode s c = true) ∧
      ∀ error, verdict decode s c = some error → error.isIMStatus = refuses s c := by
  cases c with
  | onError error => cases hc
  | onResponse path status data =>
    simp only [correlated, Bool.not_eq_true'] at hc
    cases hs : status.isSuccess with
    | false =>
      refine ⟨by simp [verdict, succeeds, hc, hs], fun error he => ?_⟩
      simp only [verdict, hc, hs, Bool.false_eq_true, if_false, Option.some.injEq] at he
      simp [← he, refuses, hc, hs, StatusIB.isIMStatus_toChipError hs]
    | true =>
      cases data with
      | none => simp [verdict, succeeds, hc, hs]
      | some d =>
        cases hd : decode d with
        | none =>
          refine ⟨by simp [verdict, succeeds, hc, hs, hd], fun error he => ?_⟩
          simp only [verdict, hc, hs, hd, Bool.false_eq_true, if_false, if_true,
            Option.isSome_none, Option.some.injEq] at he
          simp [← he, refuses, hs, ChipError.isIMStatus]
        | some value => simp [verdict, succeeds, hc, hs, hd]

omit [EmptyCollection ν] in
/-- A refusal correlates. -/
theorem correlated_of_refuses {s : GenericInvokeState ν} {c : SenderCallback δ}
    (hc : refuses s c = true) : correlated s c = true := by
  cases c with
  | onError error => cases hc
  | onResponse path status data =>
    rw [refuses, Bool.and_eq_true] at hc
    exact hc.1

omit [EmptyCollection ν] in
/-- So does a success. -/
theorem correlated_of_succeeds {s : GenericInvokeState ν} {c : SenderCallback δ}
    (hc : succeeds decode s c = true) : correlated s c = true := by
  cases c with
  | onError error => cases hc
  | onResponse path status data =>
    rw [succeeds, Bool.and_eq_true, Bool.and_eq_true] at hc
    exact hc.1.1

omit [EmptyCollection ν] in
/-- A refusal is no success, and writes its status. -/
theorem verdict_of_refuses {s : GenericInvokeState ν} {c : SenderCallback δ}
    (hc : refuses s c = true) :
    ∃ error, verdict decode s c = some error ∧ error.isIMStatus = true := by
  obtain ⟨hnone, hsome⟩ := verdict_of_correlated decode (correlated_of_refuses hc)
  cases hv : verdict decode s c with
  | some error => exact ⟨error, rfl, (hsome error hv).trans hc⟩
  | none =>
    have hs := hnone.mp hv
    cases c with
    | onError error => cases hc
    | onResponse path status data =>
      simp only [refuses, succeeds, Bool.and_eq_true, Bool.not_eq_true'] at hc hs
      exact absurd hs.1.2 (Bool.eq_false_iff.mp hc.2)

/-- An Interaction Model error is the result, whatever came before it. -/
theorem isIMStatus_foldl_imError {s : GenericInvokeState ν} (h : Fresh s)
    (pre : List (SenderCallback δ)) {c : SenderCallback δ} (hc : imError c = true) :
    ((pre ++ [c]).foldl (deliver decode) s).result.isIMStatus = true := by
  cases c with
  | onResponse path status data => cases hc
  | onError error =>
    rw [result_foldl_concat decode h]
    split <;> exact hc

/-- Callbacks that leave a refusal end in one. -/
theorem endsInRefusal_of_isIMStatus {s : GenericInvokeState ν} (h : Fresh s)
    {cbs : List (SenderCallback δ)}
    (him : (cbs.foldl (deliver decode) s).result.isIMStatus = true) :
    EndsInRefusal decode s cbs := by
  rcases List.eq_nil_or_concat cbs with rfl | ⟨cbs, c, rfl⟩
  · rw [List.foldl_nil, h.2.2] at him
    cases him
  rw [List.concat_eq_append] at him ⊢
  rw [result_foldl_concat decode h] at him
  by_cases hseen : cbs.any (correlated s) = true
  · -- behind a correlated response only an error can be a status
    rw [if_pos hseen] at him
    cases c with
    | onError error => exact Or.inl ⟨cbs, _, rfl, him⟩
    | onResponse path status data => cases him
  have hseen' := Bool.eq_false_iff.mpr hseen
  rw [if_neg hseen] at him
  cases hc : correlated s c with
  | false =>
    obtain ⟨error, hv, he⟩ := verdict_isIMStatus_of_not_correlated decode hc
    rw [hv, Option.getD_some, he] at him
    exact Or.inl ⟨cbs, c, rfl, him⟩
  | true =>
    obtain ⟨hnone, hsome⟩ := verdict_of_correlated decode hc
    cases hv : verdict decode s c with
    | some error =>
      rw [hv, Option.getD_some, hsome error hv] at him
      exact Or.inr (Or.inl ⟨cbs, c, rfl, him, hseen'⟩)
    | none =>
      -- a success wrote nothing, so the callback before it left the status
      rw [hv, Option.getD_none] at him
      have hs := hnone.mp hv
      rcases List.eq_nil_or_concat cbs with rfl | ⟨pre, d, rfl⟩
      · rw [List.foldl_nil, h.2.2] at him
        cases him
      rw [List.concat_eq_append] at him hseen' ⊢
      rw [List.any_append, Bool.or_eq_false_iff] at hseen'
      have hd : correlated s d = false := by simpa using hseen'.2
      obtain ⟨error, hvd, he⟩ := verdict_isIMStatus_of_not_correlated decode hd
      rw [result_foldl_concat decode h, hseen'.1, if_neg Bool.false_ne_true, hvd,
        Option.getD_some, he] at him
      exact Or.inr (Or.inr ⟨pre, d, c, by simp, him, hs, hseen'.1⟩)

/-- Callbacks that end in a refusal leave one. -/
theorem isIMStatus_of_endsInRefusal {s : GenericInvokeState ν} (h : Fresh s)
    {cbs : List (SenderCallback δ)} (hend : EndsInRefusal decode s cbs) :
    (cbs.foldl (deliver decode) s).result.isIMStatus = true := by
  rcases hend with ⟨pre, c, rfl, hc⟩ | ⟨pre, c, rfl, hc, hpre⟩ | ⟨pre, c, d, rfl, hc, hd, hpre⟩
  · exact isIMStatus_foldl_imError decode h pre hc
  · obtain ⟨error, hv, him⟩ := verdict_of_refuses decode hc
    rw [result_foldl_concat decode h, hpre, if_neg Bool.false_ne_true, hv, Option.getD_some]
    exact him
  · -- the success writes nothing, so the error before it is what is read
    have hv := (verdict_of_correlated decode (correlated_of_succeeds decode hd)).1.mpr hd
    have hany : (pre ++ [c]).any (correlated s) = false := by
      cases c with
      | onResponse path status data => cases hc
      | onError error => simpa [correlated] using hpre
    rw [show pre ++ [c, d] = (pre ++ [c]) ++ [d] by simp, result_foldl_concat decode h,
      hany, if_neg Bool.false_ne_true, hv, Option.getD_none]
    exact isIMStatus_foldl_imError decode h pre hc

/-- **The callbacks that leave a refusal are those that end in one.** -/
theorem isIMStatus_foldl_iff {s : GenericInvokeState ν} (h : Fresh s)
    (cbs : List (SenderCallback δ)) :
    (cbs.foldl (deliver decode) s).result.isIMStatus = true
      ↔ EndsInRefusal decode s cbs :=
  ⟨endsInRefusal_of_isIMStatus decode h, isIMStatus_of_endsInRefusal decode h⟩

/-! ## The one sequence that ends in success -/

omit [EmptyCollection ν] in
/-- A verdict is never success: an error is nonzero, and so is the status of a
refusal. -/
theorem verdict_ne_noError {s : GenericInvokeState ν} {c : SenderCallback δ}
    (hc : ∀ error, c = .onError error → error ≠ .noError) {error : ChipError}
    (hv : verdict decode s c = some error) : error ≠ .noError := by
  cases c with
  | onError e =>
    rw [verdict, Option.some.injEq] at hv
    exact hv ▸ hc e rfl
  | onResponse path status data =>
    simp only [verdict] at hv
    by_cases hm : s.mismatch path status data = true
    · rw [if_pos hm, Option.some.injEq] at hv
      exact hv ▸ (by rintro ⟨⟩)
    rw [if_neg hm] at hv
    by_cases hs : status.isSuccess = true
    · rw [if_pos hs] at hv
      cases data with
      | none => cases hv
      | some d =>
        by_cases hd : (decode d).isSome = true
        · simp [hd] at hv
        · simp only [hd] at hv
          cases hv
          exact (by rintro ⟨⟩)
    · rw [if_neg hs, Option.some.injEq] at hv
      have him := StatusIB.isIMStatus_toChipError (Bool.eq_false_iff.mpr hs)
      rintro rfl
      rw [hv] at him
      cases him

/-- What a callback writes behind an accepted response is never success. -/
theorem verdictAfter_ne_noError {c : SenderCallback δ}
    (hc : ∀ error, c = .onError error → error ≠ .noError) :
    verdictAfter c ≠ .noError := by
  cases c with
  | onError e => exact hc e rfl
  | onResponse path status data => exact (by rintro ⟨⟩)

omit [EmptyCollection ν] in
/-- **A callback that writes nothing is a correlated success.** -/
theorem verdict_eq_none_iff {s : GenericInvokeState ν} {c : SenderCallback δ} :
    verdict decode s c = none ↔ succeeds decode s c = true := by
  cases hc : correlated s c with
  | true => exact (verdict_of_correlated decode hc).1
  | false =>
    obtain ⟨error, hv, -⟩ := verdict_isIMStatus_of_not_correlated decode hc
    rw [hv]
    refine ⟨(by rintro ⟨⟩), fun hs => ?_⟩
    rw [correlated_of_succeeds decode hs] at hc
    cases hc

/-- **Only the first callback can leave a success**: where no response
correlated, every callback wrote an error; and what comes behind a correlated
one writes another. -/
theorem result_foldl_eq_noError_iff {s : GenericInvokeState ν} (h : Fresh s)
    (cbs : List (SenderCallback δ))
    (hne : ∀ error, SenderCallback.onError error ∈ cbs → error ≠ .noError) :
    (cbs.foldl (deliver decode) s).result = .noError
      ↔ cbs = [] ∨ ∃ c, cbs = [c] ∧ succeeds decode s c = true := by
  induction cbs using List.reverseRecOn with
  | nil => exact ⟨fun _ => Or.inl rfl, fun _ => h.2.2⟩
  | append_singleton cbs c ih =>
    have hc : ∀ error, c = .onError error → error ≠ .noError :=
      fun error he => hne error (by simp [he])
    have ih := ih (fun error he => hne error (List.mem_append_left _ he))
    have hone : (cbs ++ [c] = [] ∨ ∃ d, cbs ++ [c] = [d] ∧ succeeds decode s d = true)
        ↔ cbs = [] ∧ succeeds decode s c = true := by
      constructor
      · rintro (hnil | ⟨d, hd, hs⟩)
        · exact absurd hnil (by simp)
        · obtain ⟨hnil, rfl⟩ : cbs = [] ∧ c = d := by simpa using List.append_eq_singleton_iff.mp hd
          exact ⟨hnil, hs⟩
      · rintro ⟨rfl, hs⟩
        exact Or.inr ⟨c, rfl, hs⟩
    rw [result_foldl_concat decode h, hone]
    by_cases hseen : cbs.any (correlated s) = true
    · -- behind a correlated response there is no way back to success
      rw [if_pos hseen]
      refine ⟨fun hv => absurd hv (verdictAfter_ne_noError hc), ?_⟩
      rintro ⟨rfl, -⟩
      cases hseen
    rw [if_neg hseen]
    cases hv : verdict decode s c with
    | some error =>
      refine ⟨fun he => absurd he (verdict_ne_noError decode hc hv), fun hs => ?_⟩
      rw [(verdict_eq_none_iff decode).mpr hs.2] at hv
      cases hv
    | none =>
      rw [Option.getD_none, ih]
      refine ⟨?_, fun hs => Or.inl hs.1⟩
      rintro (hnil | ⟨d, rfl, hd⟩)
      · exact ⟨hnil, (verdict_eq_none_iff decode).mp hv⟩
      · refine absurd ?_ hseen
        rw [List.any_cons, correlated_of_succeeds decode hd]
        rfl

omit [EmptyCollection ν] in
/-- Being done makes no result a success, and turns the one of a command
nobody answered into a timeout. -/
theorem result_onDone_eq_noError_iff {s : GenericInvokeState ν}
    (hreq : s.responseCommand.isSome = true) :
    (onDone s).result = .noError ↔ s.result = .noError ∧ s.responseSeen = true := by
  unfold onDone
  dsimp only
  rw [hreq, Bool.true_and]
  cases hseen : s.responseSeen with
  | true => simp
  | false =>
    by_cases hr : s.result = .noError
    · simp [hr]
    · simp [hr]

/-- **A command succeeds on one answer alone.** Whatever the sender delivers, the
final result is success exactly where it delivered one callback in all, and
that is a response of the requested endpoint and cluster, with a success
status, the required response command, data where data is required, and data
that decodes where there is any. -/
theorem finalState_success_iff (path : CommandPath) (response : UInt32) (responseData : Bool)
    (cbs : List (SenderCallback δ))
    (hne : ∀ error, SenderCallback.onError error ∈ cbs → error ≠ .noError) :
    (finalState decode (requiring path response responseData : GenericInvokeState ν)
        cbs).result = .noError
      ↔ ∃ answer status data, cbs = [.onResponse answer status data] ∧
        answer.endpoint = path.endpoint ∧ answer.cluster = path.cluster ∧
        status.isSuccess = true ∧ answer.command = response ∧
        (responseData = true → data.isSome = true) ∧
        ∀ d, data = some d → (decode d).isSome = true := by
  have h := fresh_requiring (ν := ν) path response responseData
  obtain ⟨seen, result, value, he⟩ := foldl_deliver_eq decode
    (requiring path response responseData : GenericInvokeState ν) cbs
  rw [finalState, result_onDone_eq_noError_iff (by rw [he]; exact h.1),
    result_foldl_eq_noError_iff decode h cbs hne, responseSeen_foldl decode h]
  constructor
  · rintro ⟨rfl | ⟨c, rfl, hc⟩, hseen⟩
    · cases hseen
    · cases c with
      | onError error => cases hc
      | onResponse answer status data =>
        refine ⟨answer, status, data, rfl, ?_⟩
        simp only [succeeds, mismatch, requiring, Bool.and_eq_true, Bool.not_eq_true',
          Bool.or_eq_false_iff, Bool.and_eq_false_iff, bne_eq_false_iff_eq] at hc
        obtain ⟨⟨⟨⟨hend, hcl⟩, hm⟩, hs⟩, hd⟩ := hc
        have hd : ∀ d, data = some d → (decode d).isSome = true := (Option.all_eq_true _ _).mp hd
        rcases hm with hm | ⟨hcmd, hdata⟩
        · exact absurd hs (by simp [hm])
        · refine ⟨hend, hcl, hs, by simpa using hcmd, fun hr => ?_, hd⟩
          rcases hdata with hdata | hdata
          · exact absurd hr (by simp [hdata])
          · cases data with
            | none => cases hdata
            | some d => rfl
  · rintro ⟨answer, status, data, rfl, hend, hcl, hs, hcmd, hdata, hd⟩
    have hmis : (requiring path response responseData : GenericInvokeState ν).mismatch
        answer status data = false := by
      cases data with
      | none =>
        have : responseData = false := by
          cases responseData with
          | false => rfl
          | true => exact absurd (hdata rfl) (by simp)
        simp [mismatch, requiring, hend, hcl, hcmd, this]
      | some d => simp [mismatch, requiring, hend, hcl, hcmd]
    refine ⟨Or.inr ⟨_, rfl, ?_⟩, by simp [correlated, hmis]⟩
    simp only [succeeds, hmis, hs, Bool.not_false, Bool.and_self, Bool.true_and]
    exact (Option.all_eq_true _ _).mpr hd

/-- `AudioStreamAllocate` answered once, with success and data. -/
theorem finalState_success_allocated :
    (finalState (some : List UInt8 → Option (List UInt8)) (requiring ⟨2, 0x551, 0⟩ 1 true)
      [.onResponse ⟨2, 0x551, 1⟩ ⟨0, none⟩ (some [7])]).result = .noError :=
  (finalState_success_iff (some : List UInt8 → Option (List UInt8)) ⟨2, 0x551, 0⟩ 1 true
    [.onResponse ⟨2, 0x551, 1⟩ ⟨0, none⟩ (some [7])]
    (fun _ h => absurd h (by simp))).mpr
    ⟨⟨2, 0x551, 1⟩, ⟨0, none⟩, some [7], rfl, rfl, rfl, rfl, rfl, fun _ => rfl,
      fun _ _ => rfl⟩

omit [EmptyCollection ν] in
/-- Being done turns no result into a status, nor a status into another. -/
theorem isIMStatus_onDone (s : GenericInvokeState ν) :
    (onDone s).result.isIMStatus = s.result.isIMStatus := by
  unfold onDone
  dsimp only
  split
  · rename_i h
    simp only [Bool.and_eq_true, beq_iff_eq] at h
    rw [h.2]
    rfl
  · rfl

/-! ## What a refusal is to the ownership table -/

/-- Whether some response with a success status was delivered: the camera may
have carried the command out. -/
def successDelivered (cbs : List (SenderCallback δ)) : Bool :=
  cbs.any fun
    | .onResponse _ status _ => status.isSuccess
    | .onError _ => false

/-- **The handlers of a failed audio allocation**: the exceptions they tell the
ownership table are a known rejection, by the stage reached. -/
def knownRejection (stage : CameraStage) : Exn → Bool
  | .chip error => stage == .validation || error.isIMStatus
  | _ => stage == .validation

/-- **No refusal after a success.** Where a success was delivered, the final
result is not an Interaction Model status; and where it is an error, the
failure handler does not classify it as a known rejection and leaves the entry
of the allocation in the ownership table. The stage is the one `InvokeCommand`
sets before it dispatches. -/
def SuccessRulesOutRefusal (s : GenericInvokeState ν) (cbs : List (SenderCallback δ)) :
    Prop :=
  successDelivered cbs = true →
    (finalState decode s cbs).result.isIMStatus = false ∧
    ∀ exn, checkChipError (finalState decode s cbs).result = .error exn →
      knownRejection .streamAllocation exn = false ∧
      ∀ (key : CameraAudioAllocationOwnership.Key)
        (t : CameraAudioAllocationOwnership.Table), key ∈ t →
        key ∈ (CameraAudioAllocationOwnership.allocationFailed key
          (knownRejection .streamAllocation exn) t).2

/-- An allocation that fails without a known rejection keeps its entry. -/
theorem mem_allocationFailed_false {key : CameraAudioAllocationOwnership.Key}
    {t : CameraAudioAllocationOwnership.Table} (h : key ∈ t) :
    key ∈ (CameraAudioAllocationOwnership.allocationFailed key false t).2 := by
  unfold CameraAudioAllocationOwnership.allocationFailed
  split
  · exact h
  · simp only [Bool.false_eq_true, if_false]
    split
    · exact (AList.mem_insert _).mpr (Or.inl rfl)
    · exact h

/-- **A success is never refused exactly where the callbacks do not end in a
refusal.** -/
theorem successRulesOutRefusal_iff (path : CommandPath) (response : UInt32) (data : Bool)
    (cbs : List (SenderCallback δ)) :
    SuccessRulesOutRefusal decode (requiring path response data : GenericInvokeState ν) cbs
      ↔ ¬ (successDelivered cbs = true ∧
          EndsInRefusal decode (requiring path response data : GenericInvokeState ν) cbs) := by
  have hend := isIMStatus_foldl_iff decode
    (fresh_requiring (ν := ν) path response data) cbs
  rw [← isIMStatus_onDone] at hend
  constructor
  · rintro h ⟨hs, he⟩
    have him := hend.mpr he
    have hno := (h hs).1
    rw [finalState, him] at hno
    cases hno
  · intro h hs
    have hno : (finalState decode (requiring path response data : GenericInvokeState ν)
        cbs).result.isIMStatus = false :=
      Bool.eq_false_iff.mpr (fun him => h ⟨hs, hend.mp him⟩)
    refine ⟨hno, fun exn hexn => ?_⟩
    have hrej : knownRejection .streamAllocation exn = false := by
      unfold checkChipError at hexn
      split at hexn
      · cases hexn
      · cases hexn
        simpa [knownRejection] using hno
    rw [hrej]
    exact ⟨rfl, fun key t hk => mem_allocationFailed_false hk⟩

/-- An `AudioStreamAllocate` answered with success and data, and then ended by
an Interaction Model failure: the failure is the final result, so the handler
takes the command for refused. -/
theorem refused_after_success :
    ¬ SuccessRulesOutRefusal (some : List UInt8 → Option (List UInt8))
      (requiring ⟨2, 0x551, 0⟩ 1 true)
      [.onResponse ⟨2, 0x551, 1⟩ ⟨0, none⟩ (some [7]), .onError (.imGlobalStatus 1)] := by
  intro h
  have hno := (h rfl).1
  revert hno
  decide

end GenericInvokeState
