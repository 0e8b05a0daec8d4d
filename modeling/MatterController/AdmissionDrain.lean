import MatterController.Admission
import Mathlib.Algebra.BigOperators.Group.Finset.Basic

/-!
# The admission drains

`admission_policy` says what the admission never does: two leases that exclude
each other are never out together. Here is what it cannot fail to do. Take any
reachable state and let no new call come in. Then the calls that are under way
– those that wait for a lease, those that hold one and give it back, and the
shutdown that waits for all of them – can never block each other: as long as
one is under way, one of them can go on, without being canceled and without
its deadline passing. And they cannot go round in circles: the number of steps
is bounded, up to the retries of attempts to lock that timed out.

A call takes the lifetime before the mutex of its node, and gives them back in
the opposite order, so whoever has locked a node mutex waits for nothing; whoever
has the lifetime waits for a node mutex at most; and whoever has neither waits
for those two. `progress` is this order of the calls. The bound is a weight of
the places of a call, which every step lowers but for the retry.
-/

namespace RuntimeOperationAdmission

/-- **The calls under way**, and no new ones. -/
def underWay : Machine State (ℕ × Answer) := ⟨machine.start, fun s x => advance s x.1 x.2⟩

/-- **The admission has drained**: no call is under way, the lifetime is free, the
mutex of every node has expired, and a shutdown that began has returned. -/
structure Drained (s : State) : Prop where
  idle : ∀ i, s.calls i = .idle
  lifetime : s.lifetime.writer = none ∧ s.lifetime.readers = ∅
  expired : ∀ n, s.live n = none
  shutdown : s.closing = true → s.shutdownReturned = true

/-! ## Every step but a retry brings a call closer to its end -/

/-- How many steps a call is from its end, at most, if no attempt of it to lock
times out. -/
def Pc.weight : Pc → ℕ
  | .idle => 0
  | .droppingLifetime | .lifetimeLease | .exclusiveLease | .shutdownLease => 1
  | .droppingMutex _ _ | .cleanupRetest | .shutdownLock => 2
  | .nodeLease _ _ | .cleanupLock | .shutdownStore => 3
  | .gateAdmitted _ _ true | .cleanupTest => 4
  | .gateWaiting _ _ true => 5
  | .gateAdmitted _ _ false => 6
  | .gateWaiting _ _ false => 7
  | .indexing _ => 8
  | .admitted _ true => 9
  | .waiting _ true => 10
  | .admitted _ false => 11
  | .waiting _ false => 12

/-- What an answer adds to the weight of a call: after an attempt that timed out, the
attempt and the tests before it are made again. -/
def Answer.retries (a : Answer) : ℕ := if a = .blocked then 2 else 0

theorem State.indexNode_calls (s : State) (i : ℕ) (n : UInt64) :
    ∃ m, (s.indexNode i n).calls i = .gateWaiting n m false := by
  unfold State.indexNode
  split
  · exact ⟨_, s.setCall_self i _⟩
  · exact ⟨_, s.setCall_self i _⟩

/-- **A step lowers the weight of its call**, up to a retry. -/
theorem weight_of_advance {s t : State} {i : ℕ} {a : Answer} (h : advance s i a = some t) :
    (t.calls i).weight + 1 ≤ (s.calls i).weight + a.retries := by
  -- where the call goes, and that its weight is less there
  have hgo : ∀ {p : Pc}, t.calls i = p → p.weight + 1 ≤ (s.calls i).weight + a.retries →
      (t.calls i).weight + 1 ≤ (s.calls i).weight + a.retries :=
    fun hp hlt => by rwa [hp]
  unfold advance at h
  cases hq : s.calls i <;> rw [hq] at h hgo
  case idle => cases h
  case waiting t owns =>
    cases a with
    | go =>
      dsimp only at h
      split at h <;> cases h
      · exact hgo (s.leave_calls i t owns) (by cases owns <;> simp [Pc.weight, Answer.retries])
      · exact hgo (s.setCall_self i _) (by cases owns <;> simp [Pc.weight, Answer.retries])
    | _ => cases h
  case admitted t owns =>
    cases a with
    | throws =>
      cases h
      exact hgo (s.leave_calls i t owns) (by cases owns <;> simp [Pc.weight, Answer.retries])
    | go =>
      cases owns with
      | true =>
        cases h
        exact hgo (s.setCall_self i _)
          (by cases t <;> simp [Target.granted, Pc.weight, Answer.retries])
      | false =>
        cases t <;>
        · obtain ⟨l, hl, rfl⟩ := Option.map_eq_some_iff.mp h
          exact hgo (s.setCall_self i _) (by simp [Pc.weight, Answer.retries])
    | blocked =>
      cases owns <;> cases h
      exact hgo (s.setCall_self i _) (by simp [Pc.weight, Answer.retries])
  case indexing n =>
    cases a <;> cases h
    obtain ⟨m, hm⟩ := s.indexNode_calls i n
    exact hgo hm (by simp [Pc.weight, Answer.retries])
  case gateWaiting n m owns =>
    cases a with
    | go =>
      dsimp only at h
      split at h <;> cases h
      · exact hgo (s.leaveGate_calls i n m owns)
          (by cases owns <;> simp [Pc.weight, Answer.retries])
      · exact hgo (s.setCall_self i _) (by cases owns <;> simp [Pc.weight, Answer.retries])
    | _ => cases h
  case gateAdmitted n m owns =>
    cases a with
    | throws =>
      cases h
      exact hgo (s.leaveGate_calls i n m owns)
        (by cases owns <;> simp [Pc.weight, Answer.retries])
    | go =>
      cases owns with
      | true =>
        cases h
        exact hgo (s.setCall_self i _) (by simp [Pc.weight, Answer.retries])
      | false =>
        obtain ⟨l, hl, rfl⟩ := Option.map_eq_some_iff.mp h
        exact hgo (s.setCall_self i _) (by simp [Pc.weight, Answer.retries])
    | blocked =>
      cases owns <;> cases h
      exact hgo (s.setCall_self i _) (by simp [Pc.weight, Answer.retries])
  case nodeLease n m =>
    cases a <;> cases h
    exact hgo (s.leaveGate_calls i n m true) (by simp [Pc.weight, Answer.retries])
  case cleanupTest | cleanupRetest =>
    cases a with
    | go =>
      dsimp only at h
      split at h <;> cases h <;>
        exact hgo (s.setCall_self i _) (by simp [Pc.weight, Answer.retries])
    | _ => cases h
  case cleanupLock | shutdownLock =>
    cases a with
    | go =>
      obtain ⟨l, hl, rfl⟩ := Option.map_eq_some_iff.mp h
      exact hgo (s.setCall_self i _) (by simp [Pc.weight, Answer.retries])
    | _ => cases h
  all_goals
    cases a <;> cases h
    exact hgo (s.setCall_self i _) (by simp [Pc.weight, Answer.retries])

/-! ## One of the calls can always go on -/

theorem Inv.writer_eq_none {s : State} (h : Inv s)
    (hno : ∀ i, (s.calls i).exclusive = false) : s.lifetime.writer = none := by
  cases hw : s.lifetime.writer with
  | none => rfl
  | some i =>
    have hx := (h.lifetime.writer i).mp hw
    rw [hno i] at hx
    cases hx

theorem Inv.readers_eq_empty {s : State} (h : Inv s)
    (hno : ∀ i, (s.calls i).shared = false) : s.lifetime.readers = ∅ := by
  rw [Finset.eq_empty_iff_forall_notMem]
  intro i hi
  have hs := (h.lifetime.shared i).mp hi
  rw [hno i] at hs
  cases hs

theorem Inv.owner_eq_none {s : State} (h : Inv s)
    (hno : ∀ i, (s.calls i).locked = none) (m : ℕ) : (s.mutexes m).lock.owner = none := by
  cases ho : (s.mutexes m).lock.owner with
  | none => rfl
  | some i =>
    have hl : (s.calls i).locked = some m := (h.locks m i).mp ho
    rw [hno i] at hl
    cases hl

/-- Whoever has the lifetime exclusively waits for nobody. -/
theorem advance_of_exclusive {s : State} {i : ℕ} (hx : (s.calls i).exclusive = true) :
    ∃ t, advance s i .go = some t := by
  unfold advance
  cases hq : s.calls i <;> rw [hq] at hx
  case waiting t owns =>
    dsimp only
    split <;> exact ⟨_, rfl⟩
  case admitted t owns =>
    obtain ⟨rfl, -⟩ := Bool.and_eq_true_iff.mp hx
    exact ⟨_, rfl⟩
  case exclusiveLease | shutdownLease => exact ⟨_, rfl⟩
  all_goals cases hx

/-- Whoever has locked the mutex of a node waits for nobody. -/
theorem advance_of_locked {s : State} {i m : ℕ} (hl : (s.calls i).locked = some m) :
    ∃ t, advance s i .go = some t := by
  unfold advance
  cases hq : s.calls i <;> rw [hq] at hl
  case gateWaiting n k owns =>
    dsimp only
    split <;> exact ⟨_, rfl⟩
  case gateAdmitted n k owns =>
    cases owns with
    | true => exact ⟨_, rfl⟩
    | false => cases hl
  case nodeLease n k => exact ⟨_, rfl⟩
  all_goals cases hl

/-- Whoever has the lifetime shared waits for the mutex of a node at most. -/
theorem advance_of_shared {s : State} {i : ℕ} (hs : (s.calls i).shared = true)
    (hfree : ∀ m, (s.mutexes m).lock.owner = none) : ∃ t, advance s i .go = some t := by
  unfold advance
  cases hq : s.calls i <;> rw [hq] at hs
  case waiting t owns | gateWaiting n m owns =>
    dsimp only
    split <;> exact ⟨_, rfl⟩
  case cleanupRetest =>
    dsimp only
    split <;> exact ⟨_, rfl⟩
  case admitted t owns =>
    obtain ⟨rfl, -⟩ := Bool.and_eq_true_iff.mp hs
    exact ⟨_, rfl⟩
  case gateAdmitted n m owns =>
    cases owns with
    | true => exact ⟨_, rfl⟩
    | false =>
      dsimp only
      rw [Mutex.lock, if_pos (hfree m)]
      exact ⟨_, rfl⟩
  case lifetimeLease | indexing | nodeLease | droppingMutex | droppingLifetime => exact ⟨_, rfl⟩
  all_goals cases hs

/-- Where nobody has the lifetime, nobody who waits for it has to. -/
theorem advance_of_free {s : State} {i : ℕ} (hi : s.calls i ≠ .idle)
    (hshared : (s.calls i).shared = false) (hexclusive : (s.calls i).exclusive = false)
    (hfree : s.lifetime.writer = none ∧ s.lifetime.readers = ∅) :
    ∃ t, advance s i .go = some t := by
  have hread : ∃ l, s.lifetime.lockShared i = some l := by
    rw [RwLock.lockShared, if_pos hfree.1]
    exact ⟨_, rfl⟩
  have hwrite : ∃ l, s.lifetime.lock i = some l := by
    rw [RwLock.lock, if_pos hfree]
    exact ⟨_, rfl⟩
  obtain ⟨l, hl⟩ := hread
  obtain ⟨k, hk⟩ := hwrite
  unfold advance
  cases hq : s.calls i <;> rw [hq] at hi hshared hexclusive
  case idle => exact absurd rfl hi
  case waiting t owns =>
    dsimp only
    split <;> exact ⟨_, rfl⟩
  case cleanupTest =>
    dsimp only
    split <;> exact ⟨_, rfl⟩
  case admitted t owns =>
    cases owns with
    | true =>
      -- it would have the lifetime, one way or the other
      cases t <;> simp [Pc.shared, Pc.exclusive, Target.shared] at hshared hexclusive
    | false =>
      cases t with
      | exclusive =>
        dsimp only
        rw [hk]
        exact ⟨_, rfl⟩
      | _ =>
        dsimp only
        rw [hl]
        exact ⟨_, rfl⟩
  case cleanupLock =>
    dsimp only
    rw [hl]
    exact ⟨_, rfl⟩
  case shutdownLock =>
    dsimp only
    rw [hk]
    exact ⟨_, rfl⟩
  case shutdownStore => exact ⟨_, rfl⟩
  case exclusiveLease | shutdownLease => cases hexclusive
  all_goals cases hshared

/-- **The calls never block each other**: while one is under way, one can go on. The
one that can is whoever has the lifetime exclusively; else whoever has locked the mutex
of a node; else whoever has the lifetime shared; else anybody. -/
theorem Inv.progress {s : State} (h : Inv s) {i : ℕ} (hi : s.calls i ≠ .idle) :
    ∃ j t, advance s j .go = some t := by
  by_cases hx : ∃ j, (s.calls j).exclusive = true
  · obtain ⟨j, hj⟩ := hx
    exact ⟨j, advance_of_exclusive hj⟩
  by_cases hl : ∃ j m, (s.calls j).locked = some m
  · obtain ⟨j, m, hj⟩ := hl
    exact ⟨j, advance_of_locked hj⟩
  have hmutex := h.owner_eq_none fun j => by
    rw [Option.eq_none_iff_forall_ne_some]
    exact fun m hm => hl ⟨j, m, hm⟩
  by_cases hs : ∃ j, (s.calls j).shared = true
  · obtain ⟨j, hj⟩ := hs
    exact ⟨j, advance_of_shared hj hmutex⟩
  have hshared : ∀ j, (s.calls j).shared = false :=
    fun j => Bool.eq_false_iff.mpr fun hj => hs ⟨j, hj⟩
  have hexclusive : ∀ j, (s.calls j).exclusive = false :=
    fun j => Bool.eq_false_iff.mpr fun hj => hx ⟨j, hj⟩
  exact ⟨i, advance_of_free hi (hshared i) (hexclusive i)
    ⟨h.writer_eq_none hexclusive, h.readers_eq_empty hshared⟩⟩

/-! ## The calls under way are finitely many -/

/-- Outside a finite set of calls, none has been made. -/
theorem idle_of_reachable {s : State} (h : machine.Reachable s) :
    ∃ C : Finset ℕ, ∀ i, i ∉ C → s.calls i = .idle := by
  refine h.invariant (P := fun s => ∃ C : Finset ℕ, ∀ i, i ∉ C → s.calls i = .idle)
    ⟨∅, fun i _ => rfl⟩ (fun s a t _ hs hst => ?_)
  obtain ⟨C, hC⟩ := hs
  obtain ⟨i, hi⟩ := step_spec hst
  refine ⟨insert i C, fun j hj => ?_⟩
  obtain ⟨hne, hjC⟩ := not_or.mp (fun hor => hj (Finset.mem_insert.mpr hor))
  rw [hi.calls_of_ne hne]
  exact hC j hjC

/-- The weight of the calls of a set. -/
def State.weight (C : Finset ℕ) (s : State) : ℕ := ∑ i ∈ C, (s.calls i).weight

/-- **A step of a call under way** lowers the weight of all that may be, up to a
retry. -/
theorem State.weight_of_advance {C : Finset ℕ} {s t : State} {i : ℕ} {a : Answer}
    (hi : i ∈ C) (h : advance s i a = some t) :
    t.weight C + 1 ≤ s.weight C + a.retries := by
  have hown := RuntimeOperationAdmission.weight_of_advance h
  have hothers : ∑ j ∈ C.erase i, (t.calls j).weight = ∑ j ∈ C.erase i, (s.calls j).weight :=
    Finset.sum_congr rfl fun j hj => by
      rw [(advance_spec h).calls_of_ne (Finset.ne_of_mem_erase hj)]
  have hs := Finset.add_sum_erase C (fun j => (s.calls j).weight) hi
  have ht := Finset.add_sum_erase C (fun j => (t.calls j).weight) hi
  unfold State.weight
  omega

/-! ## A shutdown that began -/

/-- Whether a shutdown has begun: the flag is set, or a call is about to set it. -/
def ShutdownBegun (s : State) : Prop := s.closing = true ∨ ∃ i, s.calls i = .shutdownStore

/-- The flag stays, but for the call that sets it. -/
theorem Step.closing {s t : State} {i : ℕ} (h : Step s i t) :
    t.closing = s.closing ∨ t.closing = true ∧ t.calls i = .shutdownLock := by
  cases h with
  | index n pc =>
    unfold State.indexNode
    split <;> exact Or.inl rfl
  | store pc => exact Or.inr ⟨rfl, s.setCall_self i _⟩
  | _ => exact Or.inl rfl

/-- What has begun stays so, or is done. -/
theorem ShutdownBegun.advance {s t : State} {i : ℕ} {a : Answer} (h : ShutdownBegun s)
    (hst : advance s i a = some t) : ShutdownBegun t := by
  have hspec := advance_spec hst
  have hset : s.closing = true → t.closing = true := by
    intro hc
    rcases hspec.closing with hsame | ⟨hc', -⟩
    · rw [hsame, hc]
    · exact hc'
  rcases h with hc | ⟨j, hj⟩
  · exact Or.inl (hset hc)
  by_cases hji : j = i
  · -- the step is the one that sets the flag
    rw [hji] at hj
    unfold RuntimeOperationAdmission.advance at hst
    rw [hj] at hst
    cases a <;> cases hst
    exact Or.inl rfl
  · exact Or.inr ⟨j, by rw [hspec.calls_of_ne hji, hj]⟩

/-- A call that waits to lock for shutdown waits on, or its shutdown returns. -/
theorem step_of_shutdownLock {s t : State} {i : ℕ} {a : Action} (hst : step s a = some t)
    (hi : s.calls i = .shutdownLock) :
    t.shutdownReturned = true ∨ t.calls i = .shutdownLock := by
  cases a with
  | call j f =>
    obtain ⟨hj, rfl⟩ := call_spec hst
    have hij : i ≠ j := by
      rintro rfl
      rw [hi] at hj
      cases hj
    exact Or.inr (by rw [s.setCall_of_ne _ hij, hi])
  | withLifetime j n =>
    unfold step at hst
    dsimp only at hst
    split at hst
    · rename_i hj
      obtain rfl := Option.some.inj hst
      have hij : i ≠ j := by
        rintro rfl
        rw [hi] at hj
        cases hj
      exact Or.inr (by rw [s.setCall_of_ne _ hij, hi])
    · cases hst
  | advance j a =>
    have hadv : advance s j a = some t := hst
    by_cases hij : i = j
    · rw [← hij] at hadv
      unfold advance at hadv
      rw [hi] at hadv
      cases a with
      | go =>
        obtain ⟨l, hl, rfl⟩ := Option.map_eq_some_iff.mp hadv
        exact Or.inl rfl
      | _ => cases hadv
    · exact Or.inr (by rw [(advance_spec hadv).calls_of_ne hij, hi])

/-- **Once the flag is set**, a shutdown has returned or is about to lock. -/
theorem shutdown_of_closing {s : State} (h : machine.Reachable s) (hc : s.closing = true) :
    s.shutdownReturned = true ∨ ∃ i, s.calls i = .shutdownLock := by
  refine h.invariant
    (P := fun s => s.closing = true → s.shutdownReturned = true ∨ ∃ i, s.calls i = .shutdownLock)
    (fun hc => by cases hc) (fun s a t _ hs hst hc => ?_) hc
  obtain ⟨i, hi⟩ := step_spec hst
  rcases hi.closing with hsame | ⟨-, hlock⟩
  · rw [hsame] at hc
    rcases hs hc with hret | ⟨j, hj⟩
    · exact Or.inl (hi.shutdownReturned hret)
    · exact (step_of_shutdownLock hst hj).imp_right fun hj' => ⟨j, hj'⟩
  · exact Or.inr ⟨i, hlock⟩

/-! ## The drain -/

/-- **Where no call is under way**, the admission has drained. -/
theorem drained_of_idle {s : State} (h : machine.Reachable s) (hidle : ∀ i, s.calls i = .idle) :
    Drained s := by
  have hinv := inv_of_reachable h
  refine ⟨hidle, ⟨hinv.writer_eq_none fun i => ?_, hinv.readers_eq_empty fun i => ?_⟩,
    fun n => ?_, fun hc => ?_⟩
  · rw [hidle i]
    rfl
  · rw [hidle i]
    rfl
  · rw [State.live, Option.filter_eq_none_iff]
    intro m _ hm
    obtain ⟨i, hi⟩ := Finset.nonempty_iff_ne_empty.mpr (of_decide_eq_true hm)
    obtain ⟨k, hk⟩ := (hinv.refs m i).mp hi
    rw [hidle i] at hk
    cases hk
  · rcases shutdown_of_closing h hc with hret | ⟨i, hi⟩
    · exact hret
    · rw [hidle i] at hi
      cases hi

/-- **What the calls under way keep**: they stay among those of a set, and a shutdown
stays begun. -/
structure Among (C : Finset ℕ) (begun : Prop) (s : State) : Prop where
  reached : machine.Reachable s
  idle : ∀ i, i ∉ C → s.calls i = .idle
  shutdown : begun → ShutdownBegun s

/-- A step of a call under way keeps this, and lowers the weight. -/
theorem Among.step {C : Finset ℕ} {begun : Prop} {s t : State} {i : ℕ} {a : Answer}
    (h : Among C begun s) (hst : advance s i a = some t) :
    Among C begun t ∧ t.weight C + 1 ≤ s.weight C + a.retries := by
  have hi : i ∈ C := by
    by_contra hi
    unfold advance at hst
    rw [h.idle i hi] at hst
    cases hst
  refine ⟨⟨h.reached.step (a := .advance i a) hst, fun j hj => ?_,
    fun hb => (h.shutdown hb).advance hst⟩, State.weight_of_advance hi hst⟩
  have hji : j ≠ i := by
    rintro rfl
    exact hj hi
  rw [(advance_spec hst).calls_of_ne hji]
  exact h.idle j hj

/-- **The admission drains.** From a reachable state, let the calls under way take
their steps in any order, and no new call come in. They take a bounded number of steps,
plus two for every attempt to lock that timed out; and wherever they have got to, one of
them can go on, neither canceled nor timed out – or none is under way any more, nothing
is locked, and a shutdown that had begun has returned. -/
theorem admission_drains : ∀ s, machine.Reachable s → ∃ bound, ∀ as t,
    underWay.run s as = some t →
    as.length ≤ bound + 2 * as.countP (fun x => x.2 = .blocked) ∧
    ((∃ i u, advance t i .go = some u) ∨
      Drained t ∧ (ShutdownBegun s → t.shutdownReturned = true)) := by
  intro s hs
  obtain ⟨C, hC⟩ := idle_of_reachable hs
  refine ⟨s.weight C, fun as t hrun => ?_⟩
  have hstart : Among C (ShutdownBegun s) s := ⟨hs, hC, id⟩
  obtain ⟨hend, hlen⟩ := Machine.run_length_le (μ := State.weight C) (k := 2)
    (r := fun x => x.2 = .blocked)
    (fun s x t h hst => by simpa [Answer.retries] using h.step hst) hstart hrun
  refine ⟨by omega, ?_⟩
  by_cases hidle : ∀ i, t.calls i = .idle
  · have hdrained := drained_of_idle hend.reached hidle
    refine Or.inr ⟨hdrained, fun hbegun => ?_⟩
    rcases hend.shutdown hbegun with hc | ⟨i, hi⟩
    · exact hdrained.shutdown hc
    · rw [hidle i] at hi
      cases hi
  · obtain ⟨i, hi⟩ := not_forall.mp hidle
    exact Or.inl ((inv_of_reachable hend.reached).progress hi)

/-- The leases of `sharedLeases` are given back, and the shutdown has the lifetime and
gives it back; it has to wait for them. -/
def givenBack : List (ℕ × Answer) :=
  [(0, .go), (1, .go), (0, .go), (0, .go), (2, .go), (2, .go)]

/-- There the admission has drained, and the shutdown has returned. -/
theorem admission_drains_givenBack :
    ∃ s t, machine.run machine.start sharedLeases = some s ∧
      underWay.run s givenBack = some t ∧ Drained t ∧ t.shutdownReturned = true := by
  have hrun : (machine.run machine.start sharedLeases).map (fun s => s.closing) = some true := rfl
  obtain ⟨s, hs, hc⟩ := Option.map_eq_some_iff.mp hrun
  have hback : ((machine.run machine.start sharedLeases).bind
      (fun s => underWay.run s givenBack)).map
        (fun t => (t.calls 0, t.calls 1, t.calls 2, fun i => t.calls (i + 3)))
        = some (.idle, .idle, .idle, fun _ => .idle) := rfl
  rw [hs, Option.bind_some] at hback
  obtain ⟨t, ht, heq⟩ := Option.map_eq_some_iff.mp hback
  simp only [Prod.mk.injEq] at heq
  have hidle : ∀ i, t.calls i = .idle
    | 0 => heq.1
    | 1 => heq.2.1
    | 2 => heq.2.2.1
    | i + 3 => congrFun heq.2.2.2 i
  obtain ⟨bound, hbound⟩ := admission_drains s (machine.reachable_start.run hs)
  rcases (hbound givenBack t ht).2 with ⟨i, u, hi⟩ | ⟨hdrained, hret⟩
  · unfold advance at hi
    rw [hidle i] at hi
    cases hi
  · exact ⟨s, t, hs, ht, hdrained, hret (Or.inl hc)⟩

end RuntimeOperationAdmission
