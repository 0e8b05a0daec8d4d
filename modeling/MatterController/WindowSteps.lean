import MatterController.ReceiverWindow

/-!
# What the tasks of the receiver window can do

A task of the window is a step function, with a case for every place the task may be at and for
every answer. What is said of the window – what it owns, when it arms the microphone, that it
ends – is said of each of these steps. So the steps of a task are listed once, by how they
change the window, with what is known where they are taken; and `allocationStep_spec`,
`preparationStep_spec`, `startingStep_spec`, `drainingStep_spec` and `stoppingStep_spec` say that
there are no others.

A task comes nearer to its end with every step. What is left of it is counted here, and some of
the lists say what a step does by what it leaves.
-/

namespace CameraReceiverWindow

/-! ## What is left to do -/

/-- The steps that are left of an allocation. -/
def Allocating.left : Allocating → ℕ
  | .capabilities _ | .allocating _ => 2
  | .ended => 1
  | .idle => 0

/-- The steps that are left of a preparation, if it allocates nothing twice. -/
def Preparing.left : Preparing → ℕ
  | .reading _ .capabilities => 7
  | .reading _ .audioCapabilities => 6
  | .reading _ .information => 5
  | .reading _ .formats | .allocating _ _ => 4
  | .sending _ => 3
  | .thrown _ _ => 2
  | .returned | .stopping _ => 1
  | .idle => 0

/-- The steps that are left of a start. -/
def Starting.left : Starting → ℕ
  | .calling _ => 3
  | .cleaning _ => 2
  | .ended _ => 1
  | .idle => 0

/-- The step that is left of a task that watches. -/
def Watching.left : Watching → ℕ
  | .runs => 1
  | .idle | .ended => 0

/-- The steps that are left of a message. -/
def Draining.left : Draining → ℕ
  | .starting | .sending | .authorizing _ _ => 2
  | .stopping _ => 1
  | .idle => 0

section

variable {s t : State}

/-! ## An allocation -/

/-- **The steps of an allocation**: it goes on to allocate, unless the window stops; a stream is
there; it ends without one, with a certain outcome or not; and its end is noticed. -/
inductive AllocationStep (s : State) : State → Prop
  | allocate (endpoint : UInt16) (task : s.allocationTask = .capabilities endpoint)
      (wanted : s.closing = false) (goes : s.stopTask = none) :
      AllocationStep s { s.note (.allocate .video) with allocationTask := .allocating endpoint }
  | allocated (endpoint stream : UInt16) (task : s.allocationTask = .allocating endpoint) :
      AllocationStep s { s.note (.allocated .video endpoint stream) with
        allocationTask := .ended
        ownedStream := some stream
        ownedStreamEndpoint := endpoint
        deallocationAttempted := false }
  | ends (uncertain : Bool) (runs : s.allocationTask.runs = true) :
      AllocationStep s (State.markIf { s with allocationTask := .ended } uncertain)
  | noticed (task : s.allocationTask = .ended) :
      AllocationStep s { s with allocationTask := .idle }

theorem markIf_allocationTask (s : State) (b : Bool) (x : Allocating) :
    { s.markIf b with allocationTask := x } = State.markIf { s with allocationTask := x } b := by
  cases b with
  | true => rfl
  | false => rfl

/-- An allocation takes only these steps. -/
theorem allocationStep_spec {a : Answer} (hst : allocationStep s a = some t) :
    AllocationStep s t := by
  unfold allocationStep at hst
  cases htask : s.allocationTask with
  | idle =>
    rw [htask] at hst
    cases a <;> cases hst
  | capabilities endpoint =>
    rw [htask] at hst
    have hruns : s.allocationTask.runs = true := by rw [htask]; rfl
    cases a with
    | returns =>
      dsimp only at hst
      split at hst
      · obtain rfl := Option.some.inj hst
        exact .ends false hruns
      · rename_i hgo
        obtain rfl := Option.some.inj hst
        obtain ⟨hclosing, hstop⟩ := not_or.mp hgo
        exact .allocate endpoint htask (Bool.not_eq_true _ |>.mp hclosing) (not_not.mp hstop)
    | throws canceled =>
      obtain rfl := Option.some.inj hst
      exact .ends false hruns
    | _ => cases hst
  | allocating endpoint =>
    rw [htask] at hst
    have hruns : s.allocationTask.runs = true := by rw [htask]; rfl
    cases a with
    | stream stream =>
      obtain rfl := Option.some.inj hst
      exact .allocated endpoint stream htask
    | fails failure =>
      obtain rfl := Option.some.inj hst
      rw [markIf_allocationTask]
      exact .ends _ hruns
    | throws canceled =>
      obtain rfl := Option.some.inj hst
      exact .ends false hruns
    | _ => cases hst
  | ended =>
    rw [htask] at hst
    cases a with
    | returns =>
      obtain rfl := Option.some.inj hst
      exact .noticed htask
    | _ => cases hst

/-! ## A preparation -/

/-- **The steps of a preparation**: it reads; it tries the next profile; an audio stream is
there; it throws, with a certain outcome or not; it tells the page to start. Once it is
complete, its failure is caught, or it stops the window and waits for the stop. -/
inductive PreparationStep (s : State) : State → Prop
  | reads (owner : ℕ) (what : Reading) (x : Preparing)
      (task : s.preparationTask = .reading owner what) (next : x.owner = some owner)
      (down : x.left < s.preparationTask.left) :
      PreparationStep s { s with preparationTask := x }
  | tries (owner n : ℕ) (current : s.preparationTask.owner = some owner)
      (early : 4 ≤ s.preparationTask.left) :
      PreparationStep s (s.tryNext owner n)
  | allocated (owner left : ℕ) (stream : UInt16)
      (task : s.preparationTask = .allocating owner left) :
      PreparationStep s { s.note (.allocated .audio s.selectedEndpoint stream) with
        preparationTask := .sending owner
        ownedAudio := some stream
        audioReleaseAttempted := false }
  | throws (owner : ℕ) (canceled uncertain : Bool)
      (current : s.preparationTask.owner = some owner) (early : 4 ≤ s.preparationTask.left) :
      PreparationStep s
        (State.markIf { s with preparationTask := .thrown owner canceled } uncertain)
  | sends (owner : ℕ) (sends : Bool) (task : s.preparationTask = .sending owner) :
      PreparationStep s (s.sendStart owner sends)
  | ends (complete : s.preparationTask.owner = none) (pending : 0 < s.preparationTask.left)
      (caught : ∀ owner canceled, s.preparationTask = .thrown owner canceled →
        s.canceled owner = true) :
      PreparationStep s { s with preparationTask := .idle }
  | stops (owner : ℕ) (canceled : Bool) (task : s.preparationTask = .thrown owner canceled) :
      PreparationStep s { s.stop with preparationTask := .stopping s.stop.stops }

theorem markIf_preparationTask (s : State) (b : Bool) (x : Preparing) :
    { s.markIf b with preparationTask := x } =
      State.markIf { s with preparationTask := x } b := by
  cases b with
  | true => rfl
  | false => rfl

/-- Where another profile may be tried, the outcome of the last is certain. -/
theorem isOutcomeUncertain_of_canTryAnother {f : MatterCameraFailure}
    (h : f.canTryAnother = true) : f.isOutcomeUncertain = false := by
  unfold MatterCameraFailure.canTryAnother at h
  unfold MatterCameraFailure.isOutcomeUncertain
  simp only [Bool.and_eq_true, Bool.or_eq_true, beq_iff_eq] at h
  obtain ⟨⟨hstage, -⟩, hcategory | hcategory⟩ := h
  · rw [hstage, hcategory]
    rfl
  · rw [hstage, hcategory]
    rfl

/-- A preparation takes only these steps. -/
theorem preparationStep_spec {a : Answer} (hst : preparationStep s a = some t) :
    PreparationStep s t := by
  unfold preparationStep at hst
  cases htask : s.preparationTask with
  | idle =>
    rw [htask] at hst
    cases a <;> cases hst
  | reading owner what =>
    rw [htask] at hst
    have howner : s.preparationTask.owner = some owner := by rw [htask]; rfl
    have hearly : 4 ≤ s.preparationTask.left := by
      rw [htask]
      cases what <;> simp only [Preparing.left] <;> decide
    cases a with
    | returns =>
      cases what with
      | capabilities =>
        dsimp only at hst
        split at hst
        · obtain rfl := Option.some.inj hst
          exact .reads owner _ _ htask rfl (by rw [htask]; exact Nat.lt_succ_self 6)
        · obtain rfl := Option.some.inj hst
          exact .reads owner _ _ htask rfl (by rw [htask]; exact show 3 < 7 by decide)
      | audioCapabilities =>
        obtain rfl := Option.some.inj hst
        exact .reads owner _ _ htask rfl (by rw [htask]; exact Nat.lt_succ_self 5)
      | information =>
        obtain rfl := Option.some.inj hst
        exact .reads owner _ _ htask rfl (by rw [htask]; exact Nat.lt_succ_self 4)
      | formats => cases hst
    | profiles n =>
      cases what with
      | formats =>
        obtain rfl := Option.some.inj hst
        exact .tries owner n howner hearly
      | _ => cases hst
    | throws canceled =>
      obtain rfl := Option.some.inj hst
      exact .throws owner canceled false howner hearly
    | _ => cases hst
  | allocating owner left =>
    rw [htask] at hst
    have howner : s.preparationTask.owner = some owner := by rw [htask]; rfl
    have hearly : 4 ≤ s.preparationTask.left := by rw [htask]; exact Nat.le_refl 4
    cases a with
    | stream stream =>
      obtain rfl := Option.some.inj hst
      exact .allocated owner left stream htask
    | fails failure =>
      dsimp only at hst
      split at hst
      · obtain rfl := Option.some.inj hst
        rw [markIf_preparationTask]
        exact .throws owner false _ howner hearly
      · rename_i htry
        obtain rfl := Option.some.inj hst
        obtain ⟨hcan, -⟩ := not_or.mp htry
        rw [isOutcomeUncertain_of_canTryAnother (Bool.not_eq_false _ |>.mp hcan)]
        exact .tries owner left howner hearly
    | throws canceled =>
      obtain rfl := Option.some.inj hst
      exact .throws owner canceled false howner hearly
    | _ => cases hst
  | sending owner =>
    rw [htask] at hst
    cases a with
    | returns =>
      obtain rfl := Option.some.inj hst
      exact .sends owner true htask
    | throws canceled =>
      obtain rfl := Option.some.inj hst
      exact .sends owner false htask
    | _ => cases hst
  | returned =>
    rw [htask] at hst
    cases a with
    | returns =>
      obtain rfl := Option.some.inj hst
      exact .ends (by rw [htask]; rfl) (by rw [htask]; exact Nat.one_pos)
        fun owner canceled hx => (by rw [htask] at hx; cases hx)
    | _ => cases hst
  | thrown owner canceled =>
    rw [htask] at hst
    cases a with
    | returns =>
      dsimp only at hst
      split at hst
      · rename_i hboth
        obtain rfl := Option.some.inj hst
        refine .ends (by rw [htask]; rfl) (by rw [htask]; exact Nat.two_pos) fun other c hx => ?_
        rw [htask] at hx
        rw [← (Preparing.thrown.inj hx).1]
        exact hboth.2
      · obtain rfl := Option.some.inj hst
        exact .stops owner canceled htask
    | _ => cases hst
  | stopping number =>
    rw [htask] at hst
    cases a with
    | returns =>
      dsimp only at hst
      split at hst
      · obtain rfl := Option.some.inj hst
        exact .ends (by rw [htask]; rfl) (by rw [htask]; exact Nat.one_pos)
          fun owner canceled hx => (by rw [htask] at hx; cases hx)
      · cases hst
    | _ => cases hst

/-! ## The start of a session -/

/-- **The steps of a start**: a session comes too late, and is closed; a session is there; it
fails, with a certain outcome or not; and a session that came too late is closed. -/
inductive StartingStep (s : State) : State → Prop
  | late (owner : ℕ) (session : UInt64) (task : s.starting = .calling owner)
      (late : s.sessionCancellation ≠ some owner ∨ s.canceled owner = true) :
      StartingStep s { (s.note (.started session)).note (.close session) with
        starting := .cleaning session }
  | started (owner : ℕ) (session : UInt64) (task : s.starting = .calling owner)
      (current : s.sessionCancellation = some owner) :
      StartingStep s { s.note (.started session) with
        starting := .ended .returned
        session := some session
        signalTask := .runs
        privacyTask := .runs }
  | fails (owner : ℕ) (ending : Ending) (uncertain : Bool) (task : s.starting = .calling owner)
      (bad : ending = .failed ∨ ending = .canceled) :
      StartingStep s (State.markIf { s with starting := .ended ending } uncertain)
  | closed (session : UInt64) (ending : Ending) (uncertain : Bool)
      (task : s.starting = .cleaning session) :
      StartingStep s
        (State.markIf { s.note (.closed session) with starting := .ended ending } uncertain)

theorem markIf_starting (s : State) (b : Bool) (x : Starting) :
    { s.markIf b with starting := x } = State.markIf { s with starting := x } b := by
  cases b with
  | true => rfl
  | false => rfl

/-- A start takes only these steps. -/
theorem startingStep_spec {a : Answer} (hst : startingStep s a = some t) :
    StartingStep s t := by
  unfold startingStep at hst
  cases hstart : s.starting with
  | idle =>
    rw [hstart] at hst
    cases a <;> cases hst
  | calling owner =>
    rw [hstart] at hst
    cases a with
    | session session =>
      dsimp only at hst
      split at hst
      · rename_i hlate
        obtain rfl := Option.some.inj hst
        exact .late owner session hstart hlate
      · rename_i hcurrent
        obtain rfl := Option.some.inj hst
        exact .started owner session hstart (not_not.mp (not_or.mp hcurrent).1)
    | fails failure =>
      obtain rfl := Option.some.inj hst
      rw [markIf_starting]
      exact .fails owner .failed _ hstart (.inl rfl)
    | throws canceled =>
      dsimp only at hst
      split at hst
      · obtain rfl := Option.some.inj hst
        exact .fails owner .canceled true hstart (.inr rfl)
      · obtain rfl := Option.some.inj hst
        exact .fails owner .failed false hstart (.inl rfl)
    | _ => cases hst
  | cleaning session =>
    rw [hstart] at hst
    cases a with
    | returns =>
      obtain rfl := Option.some.inj hst
      exact .closed session .returned false hstart
    | fails failure =>
      obtain rfl := Option.some.inj hst
      exact .closed session .failed true hstart
    | throws canceled =>
      obtain rfl := Option.some.inj hst
      exact .closed session _ false hstart
    | _ => cases hst
  | ended ending =>
    rw [hstart] at hst
    cases a <;> cases hst

/-! ## The messages of the page -/

/-- **The steps of a message** that waits: it is over; or it fails, and the window stops. A start
is noticed when it has ended, and where it failed the window stops, if it does not already. The
microphone is armed for the session that asked, while the window is active, also where the page
cannot be told. -/
inductive DrainingStep (s : State) (a : Answer) : State → Prop
  | ends (waits : s.draining ≠ .idle) (noStart : s.draining ≠ .starting) :
      DrainingStep s a { s with draining := .idle }
  | fails (waits : s.draining.left = 2) (noStart : s.draining ≠ .starting) :
      DrainingStep s a s.fail
  | started (task : s.draining = .starting) (ended : s.starting = .ended .returned) :
      DrainingStep s a { s with starting := .idle, startTask := false, draining := .idle }
  | startFails (ending : Ending) (task : s.draining = .starting)
      (ended : s.starting = .ended ending) :
      DrainingStep s a (State.fail { s with starting := .idle })
  | startStopped (ending : Ending) (task : s.draining = .starting)
      (ended : s.starting = .ended ending) (stop : s.stopTask ≠ none) :
      DrainingStep s a { s with starting := .idle, draining := .idle }
  | arms (owner : ℕ) (task : s.draining = .authorizing owner s.token)
      (current : s.sessionCancellation = some owner) (active : s.activeWindow = true)
      (answer : a = .privacy false true) :
      DrainingStep s a { s with draining := .idle, microphoneArmed := true }
  | armsUntold (owner token : ℕ) (task : s.draining = .authorizing owner token)
      (current : s.sessionCancellation = some owner) :
      DrainingStep s a (State.fail { s with microphoneArmed := true })

/-- What was canceled fails, or is over because a stop was why. -/
theorem drainingStep_failCanceled {a : Answer} (hwaits : s.draining.left = 2)
    (hstart : s.draining ≠ .starting) : DrainingStep s a s.failCanceled := by
  unfold State.failCanceled
  split
  · exact .fails hwaits hstart
  · refine .ends (fun hd => ?_) hstart
    rw [hd] at hwaits
    cases hwaits

/-- The messages take only these steps. -/
theorem drainingStep_spec {a : Answer} (hst : drainingStep s a = some t) :
    DrainingStep s a t := by
  unfold drainingStep at hst
  cases htask : s.draining with
  | idle =>
    rw [htask] at hst
    cases hst
  | starting =>
    rw [htask] at hst
    dsimp only at hst
    cases hended : s.starting with
    | ended ending =>
      rw [hended] at hst
      have hfails : DrainingStep s a (State.fail { s with starting := .idle }) :=
        .startFails ending htask hended
      cases ending with
      | returned =>
        obtain rfl := Option.some.inj hst
        exact .started htask hended
      | failed =>
        obtain rfl := Option.some.inj hst
        rw [← htask]
        exact hfails
      | canceled =>
        obtain rfl := Option.some.inj hst
        rw [← htask]
        unfold State.failCanceled
        split
        · exact hfails
        · rename_i hstop
          exact .startStopped .canceled htask hended hstop
    | _ =>
      rw [hended] at hst
      cases hst
  | sending =>
    rw [htask] at hst
    have hwaits : s.draining.left = 2 := by rw [htask]; rfl
    have hidle : s.draining ≠ .idle := by rw [htask]; exact fun hx => (by cases hx)
    have hstart : s.draining ≠ .starting := by rw [htask]; exact fun hx => (by cases hx)
    cases a with
    | returns =>
      obtain rfl := Option.some.inj hst
      exact .ends hidle hstart
    | fails failure =>
      obtain rfl := Option.some.inj hst
      exact .fails hwaits hstart
    | throws canceled =>
      cases canceled with
      | true =>
        obtain rfl := Option.some.inj hst
        exact drainingStep_failCanceled hwaits hstart
      | false =>
        obtain rfl := Option.some.inj hst
        exact .fails hwaits hstart
    | _ => cases hst
  | authorizing owner token =>
    rw [htask] at hst
    have hwaits : s.draining.left = 2 := by rw [htask]; rfl
    have hidle : s.draining ≠ .idle := by rw [htask]; exact fun hx => (by cases hx)
    have hstart : s.draining ≠ .starting := by rw [htask]; exact fun hx => (by cases hx)
    cases a with
    | privacy enabled sends =>
      cases enabled with
      | true =>
        obtain rfl := Option.some.inj hst
        exact .fails hwaits hstart
      | false =>
        dsimp only at hst
        split at hst
        · obtain rfl := Option.some.inj hst
          exact .ends hidle hstart
        · rename_i hno
          obtain ⟨ho, hno⟩ := not_or.mp hno
          obtain ⟨htoken, hno⟩ := not_or.mp hno
          obtain ⟨hactive, -⟩ := not_or.mp hno
          have hcurrent : s.sessionCancellation = some owner := not_not.mp ho
          split at hst
          · rename_i hsends
            obtain rfl := Option.some.inj hst
            refine .arms owner ?_ hcurrent (eq_true_of_ne_false hactive) (by rw [hsends])
            rw [htask, not_not.mp htoken]
          · obtain rfl := Option.some.inj hst
            rw [← htask]
            exact .armsUntold owner token htask hcurrent
    | fails failure =>
      obtain rfl := Option.some.inj hst
      exact .fails hwaits hstart
    | throws canceled =>
      cases canceled with
      | true =>
        obtain rfl := Option.some.inj hst
        exact drainingStep_failCanceled hwaits hstart
      | false =>
        obtain rfl := Option.some.inj hst
        exact .fails hwaits hstart
    | _ => cases hst
  | stopping number =>
    rw [htask] at hst
    dsimp only at hst
    split at hst
    · obtain rfl := Option.some.inj hst
      exact .ends (by rw [htask]; exact fun hx => (by cases hx))
        (by rw [htask]; exact fun hx => (by cases hx))
    · cases hst

/-! ## A stop -/

/-- **The steps of a stop**, at the stage where each is taken: it takes the session over; it has
waited for a task; it asks for the end of the session, and the session is closed, or nothing is
known of its end; and of each stream it asks for the release, or keeps it because that was
tried, and the release succeeds, or fails. -/
inductive StoppingStep (s : State) : State → Prop
  | takesOver (ready : Bool) (stage : s.stopTask = some .preparation)
      (waited : s.preparationTask.owner = none) :
      StoppingStep s { s with
        stopTask := some (.allocation s.session)
        session := none
        ready := ready }
  | allocationAwaited (x : Option UInt64) (stage : s.stopTask = some (.allocation x))
      (waited : s.allocationTask.runs = false) :
      StoppingStep s { s with stopTask := some (.start x) }
  | startAwaited (x : Option UInt64) (stage : s.stopTask = some (.start x))
      (waited : ¬ (s.startTask = true ∧ s.starting.runs = true)) :
      StoppingStep s { s with stopTask := some (.signal x), startTask := false }
  | signalsAwaited (x : Option UInt64) (stage : s.stopTask = some (.signal x)) :
      StoppingStep s { s with stopTask := some (.privacy x), signalTask := .idle }
  | privacyAwaited (stage : s.stopTask = some (.privacy none)) :
      StoppingStep s { s with stopTask := some .audio, privacyTask := .idle }
  | closes (session : UInt64) (stage : s.stopTask = some (.privacy (some session))) :
      StoppingStep s { s.note (.close session) with
        stopTask := some (.session session)
        privacyTask := .idle }
  | closed (session : UInt64) (uncertain : Bool) (stage : s.stopTask = some (.session session)) :
      StoppingStep s
        (State.markIf { s.note (.closed session) with stopTask := some .audio } uncertain)
  | releasesAudio (stream : UInt16) (stage : s.stopTask = some .audio)
      (owned : s.ownedAudio = some stream) (untried : s.audioReleaseAttempted = false) :
      StoppingStep s { s.note (.release .audio s.selectedEndpoint stream) with
        stopTask := some .audioRelease
        audioReleaseAttempted := true }
  | keepsAudio (stage : s.stopTask = some .audio)
      (tried : s.ownedAudio ≠ none → s.audioReleaseAttempted = true) :
      StoppingStep s { s with stopTask := some .video }
  | audioReleased (stage : s.stopTask = some .audioRelease) :
      StoppingStep s { s.note (.released .audio true) with
        stopTask := some .video
        ownedAudio := none }
  | audioKept (stage : s.stopTask = some .audioRelease) :
      StoppingStep s (State.mark { s.note (.released .audio false) with stopTask := some .video })
  | releasesVideo (stream : UInt16) (stage : s.stopTask = some .video)
      (owned : s.ownedStream = some stream) (untried : s.deallocationAttempted = false) :
      StoppingStep s { s.note (.release .video s.ownedStreamEndpoint stream) with
        stopTask := some .videoRelease
        deallocationAttempted := true }
  | keepsVideo (stage : s.stopTask = some .video)
      (tried : s.ownedStream ≠ none → s.deallocationAttempted = true) :
      StoppingStep s { s with stopTask := some .ended, stopsOver := s.stopsOver + 1 }
  | videoReleased (stage : s.stopTask = some .videoRelease) :
      StoppingStep s { s.note (.released .video true) with
        stopTask := some .ended
        stopsOver := s.stopsOver + 1
        ownedStream := none }
  | videoKept (stage : s.stopTask = some .videoRelease) :
      StoppingStep s (State.mark { s.note (.released .video false) with
        stopTask := some .ended
        stopsOver := s.stopsOver + 1 })
  | finished (stage : s.stopTask = some .ended) : StoppingStep s { s with stopTask := none }

/-- A stream is kept where there is none, or its release was tried. -/
theorem tried_of_not_held {stream : Option UInt16} {tried : Bool}
    (h : ∀ x, stream = some x → tried = false → False) : stream ≠ none → tried = true := by
  intro hsome
  obtain ⟨x, hx⟩ := Option.ne_none_iff_exists'.mp hsome
  exact Bool.not_eq_false _ |>.mp (h x hx)

/-- A stop takes only these steps. -/
theorem stoppingStep_spec {a : Answer} (hst : stoppingStep s a = some t) : StoppingStep s t := by
  unfold stoppingStep at hst
  cases hpc : s.stopTask with
  | none =>
    rw [hpc] at hst
    cases hst
  | some pc =>
    rw [hpc] at hst
    cases pc with
    | preparation =>
      dsimp only at hst
      split at hst
      · cases hst
      · rename_i ho
        cases a with
        | returns =>
          obtain rfl := Option.some.inj hst
          exact .takesOver s.ready hpc (not_not.mp ho)
        | throws canceled =>
          obtain rfl := Option.some.inj hst
          exact .takesOver false hpc (not_not.mp ho)
        | _ => cases hst
    | allocation x =>
      dsimp only at hst
      split at hst
      · cases hst
      · rename_i hr
        obtain rfl := Option.some.inj hst
        exact .allocationAwaited x hpc (Bool.not_eq_true _ |>.mp hr)
    | start x =>
      dsimp only at hst
      split at hst
      · cases hst
      · rename_i hr
        obtain rfl := Option.some.inj hst
        exact .startAwaited x hpc hr
    | signal x =>
      dsimp only at hst
      split at hst
      · obtain rfl := Option.some.inj hst
        exact .signalsAwaited x hpc
      · cases hst
    | privacy x =>
      dsimp only at hst
      split at hst
      · cases x with
        | some session =>
          obtain rfl := Option.some.inj hst
          exact .closes session hpc
        | none =>
          obtain rfl := Option.some.inj hst
          exact .privacyAwaited hpc
      · cases hst
    | session session =>
      cases a with
      | returns =>
        obtain rfl := Option.some.inj hst
        exact .closed session false hpc
      | fails failure =>
        obtain rfl := Option.some.inj hst
        exact .closed session true hpc
      | throws canceled =>
        obtain rfl := Option.some.inj hst
        exact .closed session true hpc
      | _ => cases hst
    | audio =>
      dsimp only at hst
      split at hst
      · rename_i stream haudio hheld
        obtain rfl := Option.some.inj hst
        exact .releasesAudio stream hpc haudio hheld
      · rename_i hno
        obtain rfl := Option.some.inj hst
        exact .keepsAudio hpc (tried_of_not_held hno)
    | audioRelease =>
      cases a with
      | returns =>
        obtain rfl := Option.some.inj hst
        exact .audioReleased hpc
      | fails failure =>
        obtain rfl := Option.some.inj hst
        exact .audioKept hpc
      | throws canceled =>
        obtain rfl := Option.some.inj hst
        exact .audioKept hpc
      | _ => cases hst
    | video =>
      dsimp only at hst
      split at hst
      · rename_i stream hvideo hheld
        obtain rfl := Option.some.inj hst
        exact .releasesVideo stream hpc hvideo hheld
      · rename_i hno
        obtain rfl := Option.some.inj hst
        exact .keepsVideo hpc (tried_of_not_held hno)
    | videoRelease =>
      cases a with
      | returns =>
        obtain rfl := Option.some.inj hst
        exact .videoReleased hpc
      | fails failure =>
        obtain rfl := Option.some.inj hst
        exact .videoKept hpc
      | throws canceled =>
        obtain rfl := Option.some.inj hst
        exact .videoKept hpc
      | _ => cases hst
    | ended =>
      obtain rfl := Option.some.inj hst
      exact .finished hpc

end

end CameraReceiverWindow
