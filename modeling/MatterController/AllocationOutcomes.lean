import MatterController.AudioAllocation
import MatterController.CameraFailures
import Mathlib.Data.List.Dedup
import Mathlib.Data.List.Perm.Subperm

/-!
# What an app makes of a failed allocation

An app that is told that an allocation has failed asks two questions of the failure. May it try
another format at once (`CanTryAnother`)? And may there be a stream on the camera that nobody
owns (`IsOutcomeUncertain`)? It asks them of the stage and the category alone. The SDK has asked
the second one before, of the exception, and has forgotten the entry of the allocation in its
ownership table, or has kept it for good.

`outcome_agrees` compares the two, of an allocation that fails before it has committed: what the
app may try again the SDK has forgotten, so that it does not refuse the next attempt because of
this one, and what the app is uncertain of the SDK keeps. An allocation that fails later is not
compared, and none may have disturbed the table (`Undisturbed`). The app notes its uncertainty
by node, in a set of a fixed size, and `isNodeUncertain_iff` says what comes of the bound.
-/

/-- `CanTryAnother`. -/
def MatterCameraFailure.canTryAnother (f : MatterCameraFailure) : Bool :=
  f.stage == .streamAllocation && f.nativeError.isSome &&
    (f.category == .dynamicConstraintError || f.category == .constraintError)

/-- `IsOutcomeUncertain`. -/
def MatterCameraFailure.isOutcomeUncertain (f : MatterCameraFailure) : Bool :=
  f.stage == .streamDeallocation ||
    (f.stage == .streamAllocation && (f.category == .timeout || f.category == .connectionFailure ||
      f.category == .malformedData || f.category == .unknown))

/-- **The errors of the SDK are its own**: none of those that a category is named after is an
answer of a device. -/
structure NativeErrors.OfTheSdk (native : NativeErrors) : Prop where
  noMemory : native.noMemory.isIMStatus = false
  accessDenied : native.accessDenied.isIMStatus = false
  unsupportedChipFeature : native.unsupportedChipFeature.isIMStatus = false
  notConnected : native.notConnected.isIMStatus = false
  connectionAborted : native.connectionAborted.isIMStatus = false
  connectionClosedUnexpectedly : native.connectionClosedUnexpectedly.isIMStatus = false

section Category

variable {native : NativeErrors} {stage : CameraStage} {error : ChipError}

/-- An app tries another format after an answer of the device only. -/
theorem isIMStatus_of_constraint
    (h : nativeFailureCategory native stage error = .dynamicConstraintError ∨
      nativeFailureCategory native stage error = .constraintError) :
    error.isIMStatus = true := by
  unfold nativeFailureCategory at h
  split at h
  · rename_i he
    rw [he]
    rfl
  · split at h
    · rename_i he
      rw [he]
      rfl
    · exfalso
      revert h
      split_ifs <;> simp

/-- **No answer of the device is taken to be uncertain.** -/
theorem not_uncertain_of_isIMStatus (hnative : native.OfTheSdk) (h : error.isIMStatus = true) :
    nativeFailureCategory native stage error ≠ .timeout ∧
      nativeFailureCategory native stage error ≠ .connectionFailure ∧
      nativeFailureCategory native stage error ≠ .malformedData ∧
      nativeFailureCategory native stage error ≠ .unknown := by
  have hne : ∀ e : ChipError, e.isIMStatus = false → error ≠ e := by
    rintro e he rfl
    rw [h] at he
    cases he
  have htimeout := hne .timeout rfl
  have hargument := hne .invalidArgument rfl
  have hconnected := hne _ hnative.notConnected
  have haborted := hne _ hnative.connectionAborted
  have hclosed := hne _ hnative.connectionClosedUnexpectedly
  unfold nativeFailureCategory
  split_ifs <;> simp_all

end Category

namespace AudioAllocation

open CameraAudioAllocationOwnership

/-- **What the handler leaves of the entry**: it is free after a known rejection, and uncertain
otherwise. -/
theorem slot_of_handling {s t : State} (h : machine.ReachableWithin Undisturbed s) {i : ℕ}
    {exn : Exn} (hpc : (s.allocs i).pc = .handling exn false)
    (hst : machine.step s (.main i .go) = some t) :
    slot t.table (s.allocs i).key =
      if GenericInvokeState.knownRejection (s.allocs i).stage exn then .free else .uncertain := by
  have hpending : slot s.table (s.allocs i).key = .pending :=
    (keyInv_of_reachable h _).pending i ⟨by simp [Allocation.Holds, hpc], rfl⟩
  have hstep : mainStep s i .go = some t := hst
  simp only [mainStep, hpc, Option.some.injEq] at hstep
  subst hstep
  have hnext : ∀ known, slot (exec ⟨(s.allocs i).key, .allocationFailed known⟩ s.table).2
      (s.allocs i).key = if known then .free else .uncertain := by
    intro known
    obtain ⟨entry, hl, hentry⟩ : ∃ entry, s.table.lookup (s.allocs i).key = some entry ∧
        entry.state = .pending := by
      unfold slot at hpending
      split at hpending
      · cases hpending
      · rename_i entry hl
        refine ⟨entry, hl, ?_⟩
        rcases entry.slot_cases with ⟨hst, -⟩ | ⟨_, -, -, hs⟩ | ⟨_, -, -, hs⟩ | ⟨-, hs⟩
        · exact hst
        · rw [hs] at hpending; cases hpending
        · rw [hs] at hpending; cases hpending
        · rw [hs] at hpending; cases hpending
    cases known <;> simp [exec, allocationFailed, hl, hentry]
  exact hnext _

/-- A reservation of a free entry is refused only where the table is full. -/
theorem reserve_of_free {t : Table} {k : Key} (h : slot t k = .free) :
    (reserve k t).1 = .ok () ∨ 8 ≤ t.keys.length := by
  have hnot : k ∉ t := by
    intro hk
    obtain ⟨entry, hl⟩ := Option.isSome_iff_exists.mp (AList.lookup_isSome.mpr hk)
    rw [slot, hl] at h
    rcases entry.slot_cases with ⟨-, hs⟩ | ⟨_, -, -, hs⟩ | ⟨_, -, -, hs⟩ | ⟨-, hs⟩ <;>
      · dsimp only at h
        rw [hs] at h
        cases h
  unfold reserve
  rw [if_neg hnot]
  by_cases hfull : t.keys.length ≥ 8
  · exact Or.inr hfull
  · exact Or.inl (by rw [if_neg hfull])

/-- **The app and the table agree.** In every undisturbed run of allocations and deallocations, of
one allocation that fails before it has committed: where the app may try another format, its entry
has been forgotten, and the next reservation is not refused unless the table is full of others;
where the app takes a failure of the command to be uncertain, the entry is kept for good; and
where the entry has been forgotten after the command, the failure is an answer of the device and
the app takes it to be certain. -/
theorem outcome_agrees {native : NativeErrors} (hnative : native.OfTheSdk) {s t : State}
    (h : machine.ReachableWithin Undisturbed s) {i : ℕ} {exn : Exn}
    (hpc : (s.allocs i).pc = .handling exn false)
    (hst : machine.step s (.main i .go) = some t) {f : MatterCameraFailure}
    (hf : (Failure.throws exn).report native (s.allocs i).stage = some f) :
    (f.canTryAnother = true →
      (reserve (s.allocs i).key t.table).1 = .ok () ∨ 8 ≤ t.table.keys.length) ∧
    (f.stage = .streamAllocation → f.isOutcomeUncertain = true →
      slot t.table (s.allocs i).key = .uncertain) ∧
    (f.stage = .streamAllocation → slot t.table (s.allocs i).key = .free →
      f.isOutcomeUncertain = false ∧ ∃ error, f.nativeError = some error ∧
        error.isIMStatus = true) := by
  have hslot := slot_of_handling h hpc hst
  have hreported : f.stage = (s.allocs i).stage := by
    cases exn <;> cases hf <;> rfl
  have hchip : ∀ error, exn = .chip error → f.nativeError = some error ∧
      f.category = nativeFailureCategory native f.stage error := by
    rintro error rfl
    cases hf
    exact ⟨rfl, rfl⟩
  have hcode : ∀ code, exn = .hresult code → f.nativeError = none := by
    rintro code rfl
    cases hf
    rfl
  -- of a failure of the command, the answers of a device are the known rejections
  have hknown : f.stage = .streamAllocation →
      (GenericInvokeState.knownRejection (s.allocs i).stage exn = true ↔
        ∃ error, exn = .chip error ∧ error.isIMStatus = true) := by
    intro hstage
    rw [← hreported, hstage]
    cases exn <;> simp [GenericInvokeState.knownRejection]
  have hcertain : f.stage = .streamAllocation →
      (∃ error, exn = .chip error ∧ error.isIMStatus = true) → f.isOutcomeUncertain = false := by
    rintro hstage ⟨error, he, him⟩
    have hcategory := (hchip error he).2
    obtain ⟨htimeout, hconnection, hmalformed, hunknown⟩ :
        f.category ≠ .timeout ∧ f.category ≠ .connectionFailure ∧ f.category ≠ .malformedData ∧
          f.category ≠ .unknown := by
      rw [hcategory]
      exact not_uncertain_of_isIMStatus hnative him
    simp [MatterCameraFailure.isOutcomeUncertain, hstage, htimeout, hconnection, hmalformed,
      hunknown]
  refine ⟨fun htry => ?_, fun hstage huncertain => ?_, fun hstage hfree => ?_⟩
  · simp only [MatterCameraFailure.canTryAnother, Bool.and_eq_true, beq_iff_eq,
      Bool.or_eq_true] at htry
    obtain ⟨⟨hstage, hnativeError⟩, hcategory⟩ := htry
    refine reserve_of_free ?_
    rw [hslot, if_pos]
    refine (hknown hstage).mpr ?_
    cases exn with
    | canceled => cases hf
    | hresult code => rw [hcode code rfl] at hnativeError; cases hnativeError
    | chip error =>
      rw [(hchip error rfl).2] at hcategory
      exact ⟨error, rfl, isIMStatus_of_constraint hcategory⟩
  · rw [hslot, if_neg]
    intro hk
    rw [hcertain hstage ((hknown hstage).mp hk)] at huncertain
    cases huncertain
  · have hk : GenericInvokeState.knownRejection (s.allocs i).stage exn = true := by
      by_contra hk
      rw [hslot, if_neg hk] at hfree
      cases hfree
    obtain ⟨error, he, him⟩ := (hknown hstage).mp hk
    exact ⟨hcertain hstage ⟨error, he, him⟩, error, (hchip error he).1, him⟩

/-- Errors of an SDK, by numbers of their own. -/
def exampleErrors : NativeErrors where
  noMemory := .other 11
  accessDenied := .other 165
  unsupportedChipFeature := .other 45
  notConnected := .other 2
  connectionAborted := .other 5
  connectionClosedUnexpectedly := .other 59
  dynamicConstraintError := 0xCF
  constraintError := 0x87
  resourceExhausted := 0x89
  unsupportedAccess := 0x7E
  unsupportedCluster := 0xC3
  unsupportedCommand := 0x81
  unsupportedAttribute := 0x86
  invalidInState := 0xCB

/-- The command of an allocation is refused for its format, and the entry can be reserved
again. -/
theorem outcome_agrees_refused :
    ∃ s, machine.ReachableWithin Undisturbed s ∧
      (s.allocs 0).pc = .handling (.chip (.imGlobalStatus 0x87)) false ∧
      ∃ t, machine.step s (.main 0 .go) = some t ∧
        ((reserve (s.allocs 0).key t.table).1 = .ok () ∨ 8 ≤ t.table.keys.length) := by
  have hreach : ∀ s, machine.run machine.start
      [.allocate 0 ⟨1, 2⟩, .main 0 .go, .main 0 .go, .main 0 .go,
        .main 0 (.throws (.chip (.imGlobalStatus 0x87)))] = some s →
      machine.ReachableWithin Undisturbed s := by
    rintro s ⟨⟩
    refine .step (a := .main 0 (.throws _)) (.step (a := .main 0 .go) (.step (a := .main 0 .go)
      (.step (a := .main 0 .go) (.step (a := .allocate 0 ⟨1, 2⟩) .start trivial rfl)
      ?_ rfl) ?_ rfl) ?_ rfl) ?_ rfl
    all_goals
      intro exn h
      cases h
  have hnative : exampleErrors.OfTheSdk := ⟨rfl, rfl, rfl, rfl, rfl, rfl⟩
  exact ⟨_, hreach _ rfl, rfl, _, rfl, (outcome_agrees hnative (hreach _ rfl) rfl rfl rfl).1 rfl⟩

end AudioAllocation

/-! ## Nodes an app is uncertain of -/

namespace CameraAllocationOwnership

/-- **The nodes an app is uncertain of** (`ControllerFailures`, of one controller), and whether
there have been more than it keeps. -/
structure ControllerFailures where
  nodes : List UInt64 := []
  capacityExhausted : Bool := false
  deriving DecidableEq, Repr

/-- `IsNodeUncertain`. -/
def ControllerFailures.isNodeUncertain (s : ControllerFailures) (node : UInt64) : Bool :=
  s.capacityExhausted || s.nodes.contains node

/-- `MarkNodeUncertain`. -/
def ControllerFailures.markNodeUncertain (s : ControllerFailures) (node : UInt64) :
    ControllerFailures :=
  if s.nodes.length ≥ 64 && !s.nodes.contains node then { s with capacityExhausted := true }
  else { s with nodes := s.nodes.insert node }

/-- What an app has noted after it has marked some nodes, in their order. -/
def marked (ms : List UInt64) : ControllerFailures :=
  ms.foldl ControllerFailures.markNodeUncertain {}

/-- **What the set is.** Its nodes are distinct and marked, and no more than it may hold; and
while it has not overflown, it has all that were marked. -/
structure ControllerFailures.Of (ms : List UInt64) (s : ControllerFailures) : Prop where
  nodup : s.nodes.Nodup
  subset : s.nodes ⊆ ms
  bounded : s.nodes.length ≤ 64
  all : s.capacityExhausted = false → ms ⊆ s.nodes
  overflown : s.capacityExhausted = true → s.nodes.length = 64 ∧ ∃ m ∈ ms, m ∉ s.nodes

/-- A mark keeps what the set is. -/
theorem ControllerFailures.Of.mark {ms : List UInt64} {s : ControllerFailures} (h : s.Of ms)
    (node : UInt64) : (s.markNodeUncertain node).Of (ms ++ [node]) := by
  have hwider : s.nodes ⊆ ms ++ [node] := fun m hm => List.mem_append_left _ (h.subset hm)
  have hnode : node ∈ ms ++ [node] := List.mem_append_right _ (List.mem_singleton_self node)
  unfold ControllerFailures.markNodeUncertain
  split
  · rename_i hfull
    simp only [Bool.and_eq_true, decide_eq_true_eq, Bool.not_eq_true', List.contains_eq_mem,
      decide_eq_false_iff_not] at hfull
    exact
      { nodup := h.nodup
        subset := hwider
        bounded := h.bounded
        all := fun hc => by cases hc
        overflown := fun _ => ⟨Nat.le_antisymm h.bounded hfull.1, node, hnode, hfull.2⟩ }
  · rename_i hroom
    simp only [Bool.and_eq_true, decide_eq_true_eq, Bool.not_eq_true', List.contains_eq_mem,
      decide_eq_false_iff_not, not_and, not_not] at hroom
    have hinsert : ∀ m, m ∈ s.nodes.insert node ↔ m = node ∨ m ∈ s.nodes := fun m =>
      List.mem_insert_iff
    have hlength : (s.nodes.insert node).length ≤ 64 := by
      by_cases hmem : node ∈ s.nodes
      · rw [List.insert_of_mem hmem]
        exact h.bounded
      · rw [List.insert_of_not_mem hmem, List.length_cons]
        have : ¬ 64 ≤ s.nodes.length := fun hge => hmem (hroom hge)
        omega
    refine
      { nodup := h.nodup.insert
        subset := fun m hm => ?_
        bounded := hlength
        all := fun hc m hm => ?_
        overflown := fun hc => ?_ }
    · rcases (hinsert m).mp hm with rfl | hm
      · exact hnode
      · exact hwider hm
    · rcases List.mem_append.mp hm with hm | hm
      · exact (hinsert m).mpr (Or.inr (h.all hc hm))
      · exact (hinsert m).mpr (Or.inl (List.mem_singleton.mp hm))
    · obtain ⟨hfull, m, hm, hout⟩ := h.overflown hc
      have hin : node ∈ s.nodes := hroom (by omega)
      rw [List.insert_of_mem hin]
      exact ⟨hfull, m, List.mem_append_left _ hm, hout⟩

theorem of_marked (ms : List UInt64) : (marked ms).Of ms := by
  induction ms using List.reverseRecOn with
  | nil =>
    exact
      { nodup := List.nodup_nil
        subset := fun _ hm => by cases hm
        bounded := Nat.zero_le _
        all := fun _ _ hm => by cases hm
        overflown := fun hc => by cases hc }
  | append_singleton ms node ih =>
    rw [marked, List.foldl_append]
    exact ih.mark node

/-- **A node that was marked is uncertain for good**, whatever is marked after it, and no other
node is, unless more than sixty-four have been marked: then every node is. The set never has
more than these sixty-four. -/
theorem isNodeUncertain_iff (ms : List UInt64) :
    (∀ node, (marked ms).isNodeUncertain node = true ↔ node ∈ ms ∨ 64 < ms.dedup.length) ∧
      (marked ms).nodes.length ≤ 64 := by
  have h := of_marked ms
  have hfits : (marked ms).nodes.length ≤ ms.dedup.length :=
    (h.nodup.subperm fun m hm => List.mem_dedup.mpr (h.subset hm)).length_le
  refine ⟨fun node => ?_, h.bounded⟩
  simp only [ControllerFailures.isNodeUncertain, Bool.or_eq_true, List.contains_iff_mem]
  cases hc : (marked ms).capacityExhausted with
  | false =>
    have hsame : ms.dedup.length ≤ (marked ms).nodes.length :=
      ((List.nodup_dedup ms).subperm fun m hm => h.all hc (List.mem_dedup.mp hm)).length_le
    have hbounded := h.bounded
    constructor
    · rintro (hf | hm)
      · cases hf
      · exact Or.inl (h.subset hm)
    · rintro (hm | hmany)
      · exact Or.inr (h.all hc hm)
      · omega
  | true =>
    obtain ⟨hfull, m, hm, hout⟩ := h.overflown hc
    -- the sixty-four of the set, and one that is not among them
    have hmore : (m :: (marked ms).nodes).length ≤ ms.dedup.length :=
      ((List.nodup_cons.mpr ⟨hout, h.nodup⟩).subperm fun n hn => by
        rcases List.mem_cons.mp hn with rfl | hn
        · exact List.mem_dedup.mpr hm
        · exact List.mem_dedup.mpr (h.subset hn)).length_le
    rw [List.length_cons, hfull] at hmore
    exact ⟨fun _ => Or.inr (by omega), fun _ => Or.inl rfl⟩

end CameraAllocationOwnership
