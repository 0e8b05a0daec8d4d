import MatterController.WindowOwnership

/-!
# A window that is closed comes to its end

The window is not closed before its stop is over, which waits for one task after another; and
some of the tasks stop the window, and wait for that. A task that a stop waits for must not wait
for it: `ReceiveSignalsAsync` and `MonitorPrivacyAsync` leave the stop to the dispatcher.

`closing_ends` says that this is enough. Once the window is asked to close, and nothing comes
from outside but the answers to what its tasks wait for, they take a bounded number of steps, in
whatever order, and as long as the window is not closed one of them can go on. So it is closed
in the end, unless an answer never comes.
-/

namespace CameraReceiverWindow

/-- The actions with which a task of the window goes on. -/
def Action.task : Action → Bool
  | .allocation _ | .preparation _ | .starting _ | .draining _ | .signalsEnd | .privacyEnds _
  | .stopping _ | .closing => true
  | _ => false

/-! ## What is left to do -/

/-- The stages that are left of a stop. -/
def stagesLeft : Option Stopping → ℕ
  | some pc => 11 - pc.rank
  | none => 0

/-- The step that is left of the end of the window. -/
def closesLeft : Option Closing → ℕ
  | some (.stopping _) => 1
  | some .ended | none => 0

/-- **The steps that are left.** The preparation and the messages may each stop the window, when
they go on: one of their steps counts for all the stages of a stop. -/
def State.left (s : State) : ℕ :=
  12 * (s.preparationTask.left + s.draining.left) + s.allocationTask.left + s.starting.left +
    s.signalTask.left + s.privacyTask.left + stagesLeft s.stopTask + closesLeft s.closeTask

/-- **A window that is to be closed**: nobody owns a session, what is prepared is for one that
was canceled, and the end waits for no stop that was not begun. -/
structure Finishing (s : State) : Prop where
  closing : s.closing = true
  nobody : s.sessionCancellation = none
  canceled : ∀ owner, s.preparationTask.owner = some owner → s.canceled owner = true
  numbers : s.stopsOver ≤ s.stops ∧ s.stops ≤ s.stopsOver + 1 ∧
    (s.stops = s.stopsOver ↔ s.stopTask = none ∨ s.stopTask = some .ended)
  asked : s.closeTask = some .ended ∧ s.closed = true ∨
    ∃ number, s.closeTask = some (.stopping number) ∧ number ≤ s.stops

section
variable {s t : State}

/-- **A step of a window that is to be closed.** -/
structure Nears (s t : State) : Prop where
  finishing : Finishing t
  left : t.left < s.left

/-- A mark has nothing to do with the end. -/
theorem markIf_finishing (h : Finishing s) (b : Bool) : Finishing (s.markIf b) := by
  cases b with
  | true => exact { h with }
  | false => exact h

/-- It is no step of a task. -/
theorem left_markIf (s : State) (b : Bool) : (s.markIf b).left = s.left := by
  cases b with
  | true => rfl
  | false => rfl

/-- **Stopping adds no more than its stages.** -/
theorem Finishing.stop (h : Finishing s) : Finishing s.stop ∧ s.stop.left ≤ s.left + 11 := by
  cases hs : s.stopTask with
  | some pc =>
    rw [stop_of_some hs]
    exact ⟨h, Nat.le_add_right _ _⟩
  | none =>
    rw [stop_of_none hs]
    have hfirst := rank_firstWait s
    have hlt : s.firstWait ≠ .ended := by
      intro hx
      rw [hx] at hfirst
      exact absurd hfirst (by decide)
    obtain ⟨hle, -, hiff⟩ := h.numbers
    have heq := hiff.mpr (.inl hs)
    refine ⟨{ h with
      nobody := rfl
      canceled := fun owner ho => by
        dsimp only
        rw [h.nobody]
        exact h.canceled owner ho
      numbers := by
        dsimp only
        refine ⟨by omega, by omega, ⟨fun hx => by omega, ?_⟩⟩
        rintro (hx | hx)
        · cases hx
        · exact absurd (Option.some.inj hx) hlt
      asked := h.asked.imp_right fun ⟨number, hn, hle⟩ => ⟨number, hn, Nat.le_succ_of_le hle⟩ },
      ?_⟩
    unfold State.left
    rw [hs]
    dsimp only [stagesLeft]
    omega

/-- A stop waits for the preparation, and does not cut it short. -/
theorem stop_preparationTask (s : State) : s.stop.preparationTask = s.preparationTask := by
  cases hs : s.stopTask with
  | none => rw [stop_of_none hs]
  | some pc => rw [stop_of_some hs]

/-- Nor does it cut a message short. -/
theorem stop_draining (s : State) : s.stop.draining = s.draining := by
  cases hs : s.stopTask with
  | none => rw [stop_of_none hs]
  | some pc => rw [stop_of_some hs]

/-! ## The tasks -/

/-- A step that also marks the node is one. -/
theorem Nears.markIf (h : Nears s t) (b : Bool) : Nears s (t.markIf b) where
  finishing := markIf_finishing h.finishing b
  left := (left_markIf t b).trans_lt h.left

/-- Two steps in one. -/
theorem Nears.trans {u : State} (h : Nears s t) (h' : Nears t u) : Nears s u :=
  ⟨h'.finishing, h'.left.trans h.left⟩

/-- An allocation goes on. -/
theorem Finishing.allocates (h : Finishing s) {x : Allocating}
    (hleft : x.left < s.allocationTask.left) : Nears s { s with allocationTask := x } where
  finishing := { h with }
  left := by
    simp only [State.left]
    omega

/-- A task that is not complete has two steps left. -/
theorem two_le_of_runs {x : Allocating} (hr : x.runs = true) : 2 ≤ x.left := by
  cases x with
  | capabilities endpoint => exact Nat.le_refl 2
  | allocating endpoint => exact Nat.le_refl 2
  | _ => cases hr

/-- **Allocating**: nothing is asked for any more. -/
theorem Finishing.allocationStep (h : Finishing s) {a : Answer}
    (hst : allocationStep s a = some t) : Nears s t := by
  cases allocationStep_spec hst with
  | allocate endpoint htask hwanted hgoes =>
    rw [h.closing] at hwanted
    cases hwanted
  | allocated endpoint stream htask =>
    have hends : Nears s { s with allocationTask := .ended } :=
      h.allocates (by rw [htask]; exact Nat.lt_succ_self 1)
    exact ⟨{ hends.finishing with }, hends.left⟩
  | ends uncertain hr =>
    have hends : Nears s { s with allocationTask := .ended } := h.allocates (two_le_of_runs hr)
    exact hends.markIf uncertain
  | noticed htask => exact h.allocates (by rw [htask]; exact Nat.lt_succ_self 0)

/-- A preparation goes on. -/
theorem Finishing.prepares (h : Finishing s) {x : Preparing}
    (hx : ∀ owner, x.owner = some owner → s.preparationTask.owner = some owner)
    (hleft : x.left < s.preparationTask.left) : Nears s { s with preparationTask := x } where
  finishing := { h with canceled := fun owner ho => h.canceled owner (hx owner ho) }
  left := by
    simp only [State.left]
    omega

/-- A canceled preparation throws before it allocates anything else, or tells the page. -/
theorem Finishing.tryNext {owner : ℕ} (h : Finishing s)
    (ho : s.preparationTask.owner = some owner) (n : ℕ) (hleft : 4 ≤ s.preparationTask.left) :
    Nears s (s.tryNext owner n) := by
  cases n with
  | zero =>
    exact h.prepares (fun other hx => hx ▸ ho) (Nat.lt_of_lt_of_le (show 3 < 4 by decide) hleft)
  | succ left =>
    rw [State.tryNext, if_pos (h.canceled owner ho)]
    exact h.prepares (fun other hx => (by cases hx))
      (Nat.lt_of_lt_of_le (show 2 < 4 by decide) hleft)

/-- Nor does it tell the page: it throws instead. -/
theorem Finishing.sendStart {owner : ℕ} (h : Finishing s)
    (ho : s.preparationTask = .sending owner) (sends : Bool) :
    Nears s (s.sendStart owner sends) := by
  have howner : s.preparationTask.owner = some owner := by rw [ho]; rfl
  unfold State.sendStart
  rw [if_pos (h.canceled owner howner)]
  exact h.prepares (fun other hx => (by cases hx)) (by rw [ho]; exact Nat.lt_succ_self 2)

/-- Once it has thrown, the click handler catches that, or stops the window. -/
theorem Finishing.stopsPreparation (h : Finishing s) {number : ℕ}
    (hleft : s.preparationTask.left = 2) :
    Nears s { s.stop with preparationTask := .stopping number } := by
  obtain ⟨hstop, hle⟩ := h.stop
  refine ⟨{ hstop with canceled := fun owner ho => (by cases ho) }, ?_⟩
  have htask := stop_preparationTask s
  have hbefore : s.stop.left = 12 * (2 + s.stop.draining.left) + s.stop.allocationTask.left +
      s.stop.starting.left + s.stop.signalTask.left + s.stop.privacyTask.left +
      stagesLeft s.stop.stopTask + closesLeft s.stop.closeTask := by
    rw [State.left, htask, hleft]
  simp only [State.left, Preparing.left] at hbefore hle ⊢
  omega

/-- A preparation goes on to its end, or stops the window. -/
theorem Finishing.preparationStep (h : Finishing s) {a : Answer}
    (hst : preparationStep s a = some t) : Nears s t := by
  cases preparationStep_spec hst with
  | reads owner what x htask hnext hdown =>
    refine h.prepares (fun other hx => ?_) hdown
    obtain rfl := Option.some.inj (hnext.symm.trans hx)
    rw [htask]
    rfl
  | tries owner n ho hearly => exact h.tryNext ho n hearly
  | allocated owner left stream htask =>
    have ho : s.preparationTask.owner = some owner := by rw [htask]; rfl
    have hsends : Nears s { s with preparationTask := .sending owner } :=
      h.prepares (fun other hx => hx ▸ ho) (by rw [htask]; exact Nat.lt_succ_self 3)
    exact ⟨{ hsends.finishing with }, hsends.left⟩
  | throws owner canceled uncertain ho hearly =>
    have hthrows : Nears s { s with preparationTask := .thrown owner canceled } :=
      h.prepares (fun other hx => (by cases hx))
        (Nat.lt_of_lt_of_le (show 2 < 4 by decide) hearly)
    exact hthrows.markIf uncertain
  | sends owner sends htask => exact h.sendStart htask sends
  | ends hcomplete hpending hcaught => exact h.prepares (fun other hx => (by cases hx)) hpending
  -- The last stop may be over by now, so this one may have all its stages before it.
  | stops owner canceled htask => exact h.stopsPreparation (by rw [htask]; rfl)

/-- The session that a start gets comes too late. -/
theorem Finishing.startingStep (h : Finishing s) {a : Answer} (hst : startingStep s a = some t) :
    Nears s t := by
  have hstarts : ∀ x : Starting, x.left < s.starting.left → Nears s { s with starting := x } :=
    fun x hx => ⟨{ h with }, by simp only [State.left]; omega⟩
  cases startingStep_spec hst with
  | late owner session hstart hlate =>
    have hcleans := hstarts (.cleaning session) (by rw [hstart]; exact Nat.lt_succ_self 2)
    exact ⟨{ hcleans.finishing with }, hcleans.left⟩
  | started owner session hstart hcurrent =>
    exact absurd (h.nobody.symm.trans hcurrent) (Option.some_ne_none owner).symm
  | fails owner ending uncertain hstart hbad =>
    have hends := hstarts (.ended ending) (by rw [hstart]; exact show 1 < 3 by decide)
    exact hends.markIf uncertain
  | closed session ending uncertain hstart =>
    have hends := hstarts (.ended ending) (by rw [hstart]; exact Nat.lt_succ_self 1)
    have hnoted : Nears s { s.note (.closed session) with starting := .ended ending } :=
      ⟨{ hends.finishing with }, hends.left⟩
    exact hnoted.markIf uncertain

/-! ## The messages -/

/-- The messages go on. -/
theorem Finishing.drains (h : Finishing s) {x : Draining} (hleft : x.left < s.draining.left) :
    Nears s { s with draining := x } where
  finishing := { h with }
  left := by
    simp only [State.left]
    omega

/-- **A message that fails stops the window**, and is over when the stop is. -/
theorem Finishing.fail (h : Finishing s) (hleft : s.draining.left = 2) : Nears s s.fail := by
  obtain ⟨hstop, hle⟩ := h.stop
  refine ⟨{ hstop with }, ?_⟩
  have hdraining := stop_draining s
  have hbefore : s.stop.left = 12 * (s.stop.preparationTask.left + 2) +
      s.stop.allocationTask.left + s.stop.starting.left + s.stop.signalTask.left +
      s.stop.privacyTask.left + stagesLeft s.stop.stopTask + closesLeft s.stop.closeTask := by
    rw [State.left, hdraining, hleft]
  simp only [State.fail, State.left, Draining.left] at hbefore hle ⊢
  omega

/-- A message that waits has a step left. -/
theorem left_pos_of_waits {x : Draining} (h : x ≠ .idle) : 0 < x.left := by
  cases x with
  | idle => exact absurd rfl h
  | stopping number => exact Nat.one_pos
  | _ => exact Nat.two_pos

/-- **The messages**: one more is over, or stops the window. -/
theorem Finishing.drainingStep (h : Finishing s) {a : Answer} (hst : drainingStep s a = some t) :
    Nears s t := by
  have hnoticed : ∀ ending, s.starting = .ended ending → Nears s { s with starting := .idle } :=
    fun ending hstart => ⟨{ h with }, by simp only [State.left, hstart, Starting.left]; omega⟩
  cases drainingStep_spec hst with
  | ends hwaits hstart => exact h.drains (left_pos_of_waits hwaits)
  | fails hwaits hstart => exact h.fail hwaits
  | started htask hended =>
    have hstart := hnoticed _ hended
    have hidle := hstart.finishing.drains (x := .idle)
      (show 0 < s.draining.left by rw [htask]; exact Nat.two_pos)
    exact ⟨{ hidle.finishing with }, hidle.left.trans hstart.left⟩
  | startFails ending htask hended =>
    have hstart := hnoticed _ hended
    exact hstart.trans (hstart.finishing.fail (show s.draining.left = 2 by rw [htask]; rfl))
  | startStopped ending htask hended hstop =>
    have hstart := hnoticed _ hended
    have hidle := hstart.finishing.drains (x := .idle)
      (show 0 < s.draining.left by rw [htask]; exact Nat.two_pos)
    exact hstart.trans hidle
  -- Nobody owns the session that asked.
  | arms owner htask hcurrent hactive hanswer =>
    exact absurd (h.nobody.symm.trans hcurrent) (Option.some_ne_none owner).symm
  | armsUntold owner token htask hcurrent =>
    exact absurd (h.nobody.symm.trans hcurrent) (Option.some_ne_none owner).symm

/-! ## The stop -/

theorem rank_le (pc : Stopping) : pc.rank ≤ 10 := by
  cases pc <;> simp only [Stopping.rank] <;> decide

/-- The stops that are over with a stage. -/
def Stopping.over : Stopping → ℕ
  | .ended => 1
  | _ => 0

/-- A window without what a stop waits for and gives back. -/
def State.rest (s : State) : State := { s with
  session := none
  startTask := false
  signalTask := .idle
  privacyTask := .idle
  stopTask := none
  stopsOver := 0
  ready := false
  ownedStream := none
  deallocationAttempted := false
  ownershipUncertain := false
  ownedAudio := none
  audioReleaseAttempted := false
  log := [] }

/-- **A stop goes on** to a later stage. -/
theorem Finishing.stage {pc pc' : Stopping} (h : Finishing s) (hpc : s.stopTask = some pc)
    (hpc' : t.stopTask = some pc') (hrank : pc.rank < pc'.rank) (hrest : t.rest = s.rest)
    (hover : t.stopsOver = s.stopsOver + pc'.over)
    (hsignal : t.signalTask.left ≤ s.signalTask.left)
    (hprivacy : t.privacyTask.left ≤ s.privacyTask.left) : Nears s t := by
  have hlast := rank_le pc'
  have hfield : ∀ {β : Type} (f : State → β), f t.rest = f s.rest := fun f => congrArg f hrest
  have hclosing : t.closing = s.closing := hfield State.closing
  have hnobody : t.sessionCancellation = s.sessionCancellation := hfield State.sessionCancellation
  have hstops : t.stops = s.stops := hfield State.stops
  have hclose : t.closeTask = s.closeTask := hfield State.closeTask
  have hclosed : t.closed = s.closed := hfield State.closed
  have htask : t.preparationTask = s.preparationTask := hfield State.preparationTask
  have hcanceled : t.canceled = s.canceled := hfield State.canceled
  have hne : pc ≠ .ended := by
    rintro rfl
    exact absurd (hrank.trans_le hlast) (by decide)
  obtain ⟨hle, hge, hiff⟩ := h.numbers
  have hlt : s.stops ≠ s.stopsOver := fun heq => (hiff.mp heq).elim
    (fun hx => (by rw [hpc] at hx; cases hx))
    (fun hx => hne (Option.some.inj (hpc.symm.trans hx)))
  constructor
  · refine ⟨hclosing.trans h.closing, hnobody.trans h.nobody, fun owner ho => ?_, ?_, ?_⟩
    · rw [hcanceled]
      exact h.canceled owner (htask ▸ ho)
    · rw [hstops, hover, hpc']
      cases pc' with
      | ended => exact ⟨by simp only [Stopping.over]; omega, by simp only [Stopping.over]; omega,
          fun _ => .inr rfl, fun _ => by simp only [Stopping.over]; omega⟩
      | _ => exact ⟨hle, hge, fun heq => absurd heq hlt, fun hx => (by
          rcases hx with hx | hx
          · cases hx
          · cases hx)⟩
    · rw [hclose, hclosed, hstops]
      exact h.asked
  · have hallocation : t.allocationTask = s.allocationTask := hfield State.allocationTask
    have hstarting : t.starting = s.starting := hfield State.starting
    have hdraining : t.draining = s.draining := hfield State.draining
    unfold State.left
    rw [htask, hdraining, hallocation, hstarting, hclose, hpc, hpc']
    simp only [stagesLeft]
    omega

/-- **The stop**: every step is a stage nearer to its end. -/
theorem Finishing.stoppingStep (h : Finishing s) {a : Answer} (hst : stoppingStep s a = some t) :
    Nears s t := by
  have hsame := Nat.le_refl s.signalTask.left
  have hsame' := Nat.le_refl s.privacyTask.left
  cases stoppingStep_spec hst with
  | takesOver ready hpc ho =>
    exact h.stage hpc rfl (show 0 < 1 by decide) rfl rfl hsame hsame'
  | allocationAwaited x hpc hr =>
    exact h.stage hpc rfl (show 1 < 2 by decide) rfl rfl hsame hsame'
  | startAwaited x hpc hr =>
    exact h.stage hpc rfl (show 2 < 3 by decide) rfl rfl hsame hsame'
  | signalsAwaited x hpc =>
    exact h.stage hpc rfl (show 3 < 4 by decide) rfl rfl (Nat.zero_le _) hsame'
  | privacyAwaited hpc =>
    exact h.stage hpc rfl (show 4 < 6 by decide) rfl rfl hsame (Nat.zero_le _)
  | closes session hpc =>
    exact h.stage hpc rfl (show 4 < 5 by decide) rfl rfl hsame (Nat.zero_le _)
  | closed session uncertain hpc =>
    have hnears : Nears s { s.note (.closed session) with stopTask := some .audio } :=
      h.stage hpc rfl (show 5 < 6 by decide) rfl rfl hsame hsame'
    exact hnears.markIf uncertain
  | releasesAudio stream hpc howned huntried =>
    exact h.stage hpc rfl (show 6 < 7 by decide) rfl rfl hsame hsame'
  | keepsAudio hpc htried =>
    exact h.stage hpc rfl (show 6 < 8 by decide) rfl rfl hsame hsame'
  | audioReleased hpc =>
    exact h.stage hpc rfl (show 7 < 8 by decide) rfl rfl hsame hsame'
  | audioKept hpc =>
    exact h.stage hpc rfl (show 7 < 8 by decide) rfl rfl hsame hsame'
  | releasesVideo stream hpc howned huntried =>
    exact h.stage hpc rfl (show 8 < 9 by decide) rfl rfl hsame hsame'
  | keepsVideo hpc htried =>
    exact h.stage hpc rfl (show 8 < 10 by decide) rfl rfl hsame hsame'
  | videoReleased hpc =>
    exact h.stage hpc rfl (show 9 < 10 by decide) rfl rfl hsame hsame'
  | videoKept hpc =>
    exact h.stage hpc rfl (show 9 < 10 by decide) rfl rfl hsame hsame'
  | finished hpc =>
    obtain ⟨hle, hge, hiff⟩ := h.numbers
    refine ⟨{ h with numbers := ⟨hle, hge, fun _ => .inl rfl, fun _ => hiff.mpr (.inr hpc)⟩ }, ?_⟩
    simp only [State.left, hpc, stagesLeft, Stopping.rank]
    omega

/-! ## Every step -/

theorem markIf_privacyTask (s : State) (b : Bool) (x : Watching) :
    { s.markIf b with privacyTask := x } = State.markIf { s with privacyTask := x } b := by
  cases b with
  | true => rfl
  | false => rfl

/-- **A task that goes on brings the window nearer to its end.** -/
theorem Finishing.step (h : Finishing s) {a : Action} (ha : a.task = true)
    (hst : step s a = some t) : Nears s t := by
  cases a with
  | allocation answer => exact h.allocationStep hst
  | preparation answer => exact h.preparationStep hst
  | starting answer => exact h.startingStep hst
  | draining answer => exact h.drainingStep hst
  | signalsEnd =>
    unfold CameraReceiverWindow.step at hst
    dsimp only at hst
    split at hst
    · rename_i hsignal
      obtain rfl := Option.some.inj hst
      refine ⟨{ h with }, ?_⟩
      simp only [State.left, hsignal, Watching.left]
      omega
    · cases hst
  | privacyEnds cleanup =>
    unfold CameraReceiverWindow.step at hst
    dsimp only at hst
    split at hst
    · rename_i hprivacy
      obtain rfl := Option.some.inj hst
      rw [markIf_privacyTask]
      have hends : Nears s { s with privacyTask := .ended } := by
        refine ⟨{ h with }, ?_⟩
        simp only [State.left, hprivacy, Watching.left]
        omega
      exact hends.markIf _
    · cases hst
  | stopping answer => exact h.stoppingStep hst
  | closing =>
    unfold CameraReceiverWindow.step at hst
    dsimp only at hst
    split at hst
    · rename_i number hclose
      split at hst
      · obtain rfl := Option.some.inj hst
        refine ⟨{ h with asked := .inl ⟨rfl, rfl⟩ }, ?_⟩
        simp only [State.left, hclose, closesLeft]
        omega
      · cases hst
    · cases hst
  | _ => cases ha

/-! ## A task that can go on -/

/-- **The window can go on** by a task of its own. -/
def State.GoesOn (s : State) : Prop := ∃ a, a.task = true ∧ (step s a).isSome = true

/-- A preparation goes on, be it that it throws. -/
theorem preparation_goesOn {owner : ℕ} (ho : s.preparationTask.owner = some owner) :
    s.GoesOn := by
  refine ⟨.preparation (.throws true), rfl, ?_⟩
  show (preparationStep s (.throws true)).isSome = true
  unfold preparationStep
  cases htask : s.preparationTask with
  | reading owner what => rfl
  | allocating owner left => rfl
  | sending owner => rfl
  | _ =>
    rw [htask] at ho
    cases ho

/-- So does an allocation. -/
theorem allocation_goesOn (hr : s.allocationTask.runs = true) : s.GoesOn := by
  refine ⟨.allocation (.throws true), rfl, ?_⟩
  show (allocationStep s (.throws true)).isSome = true
  unfold allocationStep
  cases htask : s.allocationTask with
  | capabilities endpoint => rfl
  | allocating endpoint => rfl
  | _ =>
    rw [htask] at hr
    cases hr

/-- So does a start, or the closing of a session that came too late. -/
theorem starting_goesOn (hr : s.starting.runs = true) : s.GoesOn := by
  refine ⟨.starting (.throws false), rfl, ?_⟩
  show (startingStep s (.throws false)).isSome = true
  unfold startingStep
  cases hstart : s.starting with
  | calling owner => rfl
  | cleaning x => rfl
  | _ =>
    rw [hstart] at hr
    cases hr

/-- The signals come to an end. -/
theorem signals_goesOn (hr : s.signalTask = .runs) : s.GoesOn := by
  refine ⟨.signalsEnd, rfl, ?_⟩
  unfold CameraReceiverWindow.step
  dsimp only
  rw [hr]
  rfl

/-- So does the monitor. -/
theorem privacy_goesOn (hr : s.privacyTask = .runs) : s.GoesOn := by
  refine ⟨.privacyEnds true, rfl, ?_⟩
  unfold CameraReceiverWindow.step
  dsimp only
  rw [hr]
  rfl

theorem runs_of_not_awaited {x : Watching} (h : x.awaited ≠ true) : x = .runs := by
  cases x with
  | runs => rfl
  | _ => exact absurd rfl h

/-- **A stop goes on**, or what it waits for does. -/
theorem stop_goesOn {pc : Stopping} (hpc : s.stopTask = some pc) : s.GoesOn := by
  have hstop : (stoppingStep s .returns).isSome = true → s.GoesOn := fun h =>
    ⟨.stopping .returns, rfl, h⟩
  have hstep := hstop
  unfold stoppingStep at hstep
  rw [hpc] at hstep
  cases pc with
  | preparation =>
    cases ho : s.preparationTask.owner with
    | some owner => exact preparation_goesOn ho
    | none => exact hstep (by dsimp only; rw [if_neg (fun hx => hx ho)]; rfl)
  | allocation x =>
    cases hr : s.allocationTask.runs with
    | true => exact allocation_goesOn hr
    | false => exact hstep (by dsimp only; rw [if_neg (by rw [hr]; decide)]; rfl)
  | start x =>
    cases hr : s.starting.runs with
    | true => exact starting_goesOn hr
    | false =>
      exact hstep (by dsimp only; rw [if_neg (fun hx => by rw [hr] at hx; cases hx.2)]; rfl)
  | signal x =>
    by_cases ha : s.signalTask.awaited = true
    · exact hstep (by dsimp only; rw [if_pos ha]; rfl)
    · exact signals_goesOn (runs_of_not_awaited ha)
  | privacy x =>
    by_cases ha : s.privacyTask.awaited = true
    · refine hstep ?_
      dsimp only
      rw [if_pos ha]
      cases x with
      | some session => rfl
      | none => rfl
    · exact privacy_goesOn (runs_of_not_awaited ha)
  | session x => exact hstep rfl
  | audio =>
    refine hstep ?_
    dsimp only
    split
    · rfl
    · rfl
  | audioRelease => exact hstep rfl
  | video =>
    refine hstep ?_
    dsimp only
    split
    · rfl
    · rfl
  | videoRelease => exact hstep rfl
  | ended => exact hstep rfl

/-- **A window that is to be closed goes on**, until it is. -/
theorem Finishing.goesOn (h : Finishing s) (hopen : s.closed = false) : s.GoesOn := by
  rcases h.asked with ⟨-, hclosed⟩ | ⟨number, hclose, hle⟩
  · rw [hopen] at hclosed
    cases hclosed
  · cases hpc : s.stopTask with
    | some pc => exact stop_goesOn hpc
    -- Every stop that was begun is over, also the one the end waits for.
    | none =>
      have hover : s.stops = s.stopsOver := h.numbers.2.2.mpr (.inl hpc)
      refine ⟨.closing, rfl, ?_⟩
      unfold CameraReceiverWindow.step
      dsimp only
      rw [hclose]
      dsimp only
      rw [if_pos (hover ▸ hle)]
      rfl

/-! ## The end -/

/-- How much may be left. -/
theorem left_le (s : State) : s.left ≤ 128 := by
  have hpreparation : s.preparationTask.left ≤ 7 := by
    cases s.preparationTask with
    | reading owner what => cases what <;> simp only [Preparing.left] <;> decide
    | _ =>
      simp only [Preparing.left]
      decide
  have hdraining : s.draining.left ≤ 2 := by
    cases s.draining <;> simp only [Draining.left] <;> decide
  have hallocation : s.allocationTask.left ≤ 2 := by
    cases s.allocationTask <;> simp only [Allocating.left] <;> decide
  have hstarting : s.starting.left ≤ 3 := by
    cases s.starting <;> simp only [Starting.left] <;> decide
  have hwatching : ∀ x : Watching, x.left ≤ 1 := fun x => (by
    cases x <;> simp only [Watching.left] <;> decide)
  have hsignal := hwatching s.signalTask
  have hprivacy := hwatching s.privacyTask
  have hstages : stagesLeft s.stopTask ≤ 11 := by
    cases s.stopTask with
    | none => exact Nat.zero_le _
    | some pc => exact Nat.sub_le 11 pc.rank
  have hcloses : closesLeft s.closeTask ≤ 1 := by
    cases s.closeTask with
    | none => exact Nat.zero_le _
    | some x => cases x <;> simp only [closesLeft] <;> decide
  unfold State.left
  omega

/-- **The window is to be closed** from then on: what it waits for, and what is still prepared,
was canceled by the stop. -/
theorem Inv.finishing {l : Ledger} (h : Inv l s) (hst : s.close = some t) : Finishing t := by
  have hinv := h.closes_window hst
  unfold State.close at hst
  split at hst
  · cases hst
  · obtain rfl := Option.some.inj hst
    have hnone : (State.stop { s with closing := true }).sessionCancellation = none :=
      hinv.stopping (stop_ne_none { s with closing := true })
    refine ⟨stop_closing { s with closing := true }, hnone, fun owner ho => ?_, hinv.numbers,
      .inr ⟨_, rfl, Nat.le_refl _⟩⟩
    obtain ⟨-, -, -, -, -, hcurrent⟩ := hinv.preparation owner ho
    rcases hcurrent with hsome | ⟨hcanceled, -⟩
    · exact absurd (hnone.symm.trans hsome) (Option.some_ne_none owner).symm
    · exact hcanceled

/-- What the tasks do of a window that is to be closed. -/
theorem Finishing.run {uncertain : Bool} {u : State} {as : List Action} (h : Finishing t)
    (htask : ∀ a ∈ as, a.task = true) (hrun : (machine uncertain).run t as = some u) :
    Finishing u ∧ as.length + u.left ≤ t.left := by
  induction as generalizing t with
  | nil =>
    obtain rfl := Option.some.inj hrun
    exact ⟨h, (Nat.zero_add _).le⟩
  | cons a as ih =>
    obtain ⟨v, hst, hrest⟩ := Option.bind_eq_some_iff.mp hrun
    have hnears : Nears t v := h.step (htask a List.mem_cons_self) hst
    obtain ⟨hu, hle⟩ := ih hnears.finishing (fun b hb => htask b (List.mem_cons_of_mem a hb)) hrest
    refine ⟨hu, ?_⟩
    have hlt := hnears.left
    rw [List.length_cons]
    omega

/-- **Closing a window ends**, wherever it is, if the page was not lost during a preparation:
alone, its tasks take a bounded number of steps, in whatever order they go on and whatever they
are answered, and one of them can go on unless the window is closed. -/
theorem closing_ends {uncertain : Bool} {u : State} {as : List Action}
    (h : (machine uncertain).ReachableWithin Steady s) (hclose : s.close = some t)
    (htask : ∀ a ∈ as, a.task = true) (hrun : (machine uncertain).run t as = some u) :
    as.length ≤ 128 ∧ (u.closed = false → u.GoesOn) := by
  obtain ⟨l, hinv⟩ := inv_of_reachable h
  obtain ⟨hu, hle⟩ := (hinv.finishing hclose).run htask hrun
  exact ⟨((Nat.le_add_right _ _).trans hle).trans (left_le t), fun hopen => hu.goesOn hopen⟩

end

/-- The camera allocates the audio stream while the window is closed, which begins to stop. -/
def late : List Action :=
  [.preparation (.stream 9), .preparation .returns, .stopping .returns, .preparation .returns]

/-- Then the window goes on. -/
theorem closing_ends_late : ∃ s t u, (machine false).ReachableWithin Steady s ∧
    s.close = some t ∧ (machine false).run t late = some u ∧ u.closed = false ∧ u.GoesOn := by
  have hrun : (((machine false).runWithin steady (machine false).start prepared).bind fun s =>
      s.close.bind fun t => (machine false).run t late).map State.closed = some false := by decide
  obtain ⟨u, hu, hopen⟩ := Option.map_eq_some_iff.mp hrun
  obtain ⟨s, hs, hrest⟩ := Option.bind_eq_some_iff.mp hu
  obtain ⟨t, hclose, hlate⟩ := Option.bind_eq_some_iff.mp hrest
  have hreachable := Machine.ReachableWithin.start.run steady_of_test hs
  exact ⟨s, t, u, hreachable, hclose, hlate, hopen,
    (closing_ends hreachable hclose (by decide) hlate).2 hopen⟩

end CameraReceiverWindow
