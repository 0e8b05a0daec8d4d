import MatterController.WindowOwnership

/-!
# When the receiver window arms the microphone

While the microphone is armed the browser may ask for it. The window arms it when the page asks,
because a button is pressed, and the camera answers that its privacy mode is off. Before that
answer the session may have ended, another have started, and the window have been left.

After its wait `AuthorizeCaptureAsync` looks again at the session and at the window, but not at
whether the session has talk, nor at whether the camera has it, and `PermissionRequested` looks
at all of this once more. `microphone_permitted` says that it need not: what is asked before the
wait is still so after it, if the session is the same, and what takes any of it away disarms the
microphone.
-/

namespace CameraReceiverWindow

/-- **What arming the microphone has to do with.** -/
structure Mic where
  sessionCancellation : Option ℕ
  canceled : ℕ → Bool
  owners : ℕ
  token : ℕ
  session : Option UInt64
  stops : Bool
  closing : Bool
  draining : Draining
  selectedTalk : Bool
  microphoneArmed : Bool
  activeWindow : Bool

/-- That part of the window. -/
def State.mic (s : State) : Mic where
  sessionCancellation := s.sessionCancellation
  canceled := s.canceled
  owners := s.owners
  token := s.token
  session := s.session
  stops := s.stopTask.isSome
  closing := s.closing
  draining := s.draining
  selectedTalk := s.selectedTalk
  microphoneArmed := s.microphoneArmed
  activeWindow := s.activeWindow

/-- **The invariant.** What is asked before a wait still holds after it, if the session is the
same. -/
structure Mic.Guarded (m : Mic) : Prop where
  stopping : m.stops = true → m.sessionCancellation = none
  closing : m.closing = true → m.sessionCancellation = none
  live : ∀ owner, m.sessionCancellation = some owner → m.canceled owner = false
  fresh : ∀ owner, m.owners ≤ owner → m.canceled owner = false
  last : ∀ owner, m.sessionCancellation = some owner → owner < m.owners
  asking : ∀ owner token, m.draining = .authorizing owner token → owner < m.owners ∧
    (m.sessionCancellation = some owner → m.selectedTalk = true ∧ m.session ≠ none)
  armed : m.microphoneArmed = true → m.activeWindow = true ∧ m.selectedTalk = true ∧
    m.session ≠ none ∧ m.sessionCancellation ≠ none

/-- The microphone is not armed when the window is opened. -/
theorem guarded_start (uncertain : Bool) : (machine uncertain).start.mic.Guarded where
  stopping := fun _ => rfl
  closing := fun _ => rfl
  live := fun owner h => (by cases h)
  fresh := fun owner h => rfl
  last := fun owner h => (by cases h)
  asking := fun owner token h => (by cases h)
  armed := fun h => (by cases h)

/-- **What a step keeps**: the invariant, and it neither arms the microphone nor asks whether it
may. -/
structure Mic.Keeps (m n : Mic) : Prop where
  guarded : n.Guarded
  armed : n.microphoneArmed = true → m.microphoneArmed = true ∧ n.token = m.token
  asking : ∀ owner token, n.draining = .authorizing owner token →
    m.draining = .authorizing owner token

/-- Doing nothing keeps the invariant. -/
theorem Mic.Guarded.keeps {m : Mic} (h : m.Guarded) : m.Keeps m where
  guarded := h
  armed := fun harmed => ⟨harmed, rfl⟩
  asking := fun _ _ => id

/-- So does what has nothing to do with the microphone. -/
theorem Mic.Guarded.keeps_of_eq {m n : Mic} (h : m.Guarded) (hn : n = m) : m.Keeps n := by
  rw [hn]
  exact h.keeps

theorem Mic.Keeps.trans {m n o : Mic} (h : m.Keeps n) (h' : n.Keeps o) : m.Keeps o where
  guarded := h'.guarded
  armed := fun harmed =>
    have hn := h'.armed harmed
    ⟨(h.armed hn.1).1, hn.2.trans (h.armed hn.1).2⟩
  asking := fun owner token hd => h.asking owner token (h'.asking owner token hd)

section
variable {s t : State}

/-! ## A stop, and what fails -/

/-- Without a session the microphone is not armed, whatever a stop has to do with it. -/
theorem Mic.Guarded.halted (h : s.mic.Guarded) (hnone : s.sessionCancellation = none)
    {x : Option UInt64} {b : Bool} : s.mic.Keeps { s.mic with session := x, stops := b } where
  guarded :=
    { h with
      stopping := fun _ => hnone
      asking := fun owner token hd => ⟨(h.asking owner token hd).1, fun ho =>
        absurd (hnone.symm.trans ho) (Option.some_ne_none owner).symm⟩
      armed := fun harmed => absurd hnone (h.armed harmed).2.2.2 }
  armed := fun harmed => ⟨harmed, rfl⟩
  asking := fun _ _ => id

/-- A stop disarms the microphone, also that of a window that closes. -/
theorem mic_stop (h : s.mic.Guarded) (closing : Bool) :
    s.mic.Keeps (State.stop { s with closing := closing }).mic := by
  unfold State.stop
  dsimp only
  split
  · rename_i pc hs
    have hnone : s.sessionCancellation = none := h.stopping (by rw [State.mic, hs]; rfl)
    exact { h.keeps with guarded := { h with closing := fun _ => hnone } }
  · have hstop : ∀ x pc, s.mic.Keeps (State.mic { s with
        closing := closing
        microphoneArmed := false
        sessionCancellation := none
        canceled := s.sessionCancellation.elim s.canceled fun o =>
          Function.update s.canceled o true
        session := x
        stopTask := some pc }) := fun x pc =>
      { guarded :=
          { stopping := fun _ => rfl
            closing := fun _ => rfl
            live := fun owner ho => (by cases ho)
            fresh := fun owner ho => fresh_stop h.last h.fresh ho
            last := fun owner ho => (by cases ho)
            asking := fun owner token hd =>
              ⟨(h.asking owner token hd).1, fun ho => (by cases ho)⟩
            armed := fun harmed => (by cases harmed) }
        armed := fun harmed => (by cases harmed)
        asking := fun _ _ => id }
    split
    · exact hstop s.session .preparation
    · exact hstop none (.allocation s.session)

/-- The window goes on with its messages, and does not ask for the microphone. -/
theorem Mic.Keeps.drains {m : Mic} (h : m.Keeps s.mic) {x : Draining}
    (hx : ∀ owner token, x ≠ .authorizing owner token) :
    m.Keeps (State.mic { s with draining := x }) where
  guarded := { h.guarded with asking := fun owner token hd => absurd hd (hx owner token) }
  armed := h.armed
  asking := fun owner token hd => absurd hd (hx owner token)

/-- A message that fails disarms the microphone, since the window stops. -/
theorem mic_fail (h : s.mic.Guarded) : s.mic.Keeps s.fail.mic :=
  (mic_stop h s.closing).drains fun _ _ hx => (by cases hx)

theorem mic_markIf (s : State) (b : Bool) : (s.markIf b).mic = s.mic := by
  cases b with
  | true => rfl
  | false => rfl

/-! ## The tasks -/

/-- Allocating has nothing to do with the microphone. -/
theorem mic_allocationStep {a : Answer} (hst : allocationStep s a = some t) : t.mic = s.mic := by
  cases allocationStep_spec hst with
  | allocate endpoint htask hwanted hgoes => rfl
  | allocated endpoint stream htask => rfl
  | ends uncertain hr => exact mic_markIf _ uncertain
  | noticed htask => rfl

/-- Trying another profile has nothing to do with it. -/
theorem mic_tryNext (s : State) (owner n : ℕ) : (s.tryNext owner n).mic = s.mic := by
  cases n with
  | zero => rfl
  | succ left =>
    rw [State.tryNext]
    split
    · rfl
    · rfl

/-- Nor has telling the page to start, which gives it the token. -/
theorem mic_sendStart (s : State) (owner : ℕ) (sends : Bool) :
    (s.sendStart owner sends).mic = s.mic := by
  unfold State.sendStart
  split
  · rfl
  · split
    · rfl
    · split
      · rfl
      · rfl

/-- A preparation that fails stops the window. -/
theorem mic_preparationStep (h : s.mic.Guarded) {a : Answer}
    (hst : preparationStep s a = some t) : s.mic.Keeps t.mic := by
  cases preparationStep_spec hst with
  | reads owner what x htask hnext hdown => exact h.keeps
  | tries owner n ho hearly => exact h.keeps_of_eq (mic_tryNext s owner n)
  | allocated owner left stream htask => exact h.keeps
  | throws owner canceled uncertain ho hearly => exact h.keeps_of_eq (mic_markIf _ uncertain)
  | sends owner sends htask => exact h.keeps_of_eq (mic_sendStart s owner sends)
  | ends hcomplete hpending hcaught => exact h.keeps
  | stops owner canceled htask => exact mic_stop h s.closing

/-- The camera has the session: what was asked for, and what is armed, stays so. -/
theorem Mic.Guarded.started (h : s.mic.Guarded) (session : UInt64) :
    s.mic.Keeps { s.mic with session := some session } where
  guarded :=
    { h with
      asking := fun owner token hd => ⟨(h.asking owner token hd).1, fun ho =>
        ⟨((h.asking owner token hd).2 ho).1, Option.some_ne_none session⟩⟩
      armed := fun harmed =>
        have hbefore := h.armed harmed
        ⟨hbefore.1, hbefore.2.1, Option.some_ne_none session, hbefore.2.2.2⟩ }
  armed := fun harmed => ⟨harmed, rfl⟩
  asking := fun _ _ => id

/-- A start has nothing to do with it, unless the session is there in time. -/
theorem mic_startingStep (h : s.mic.Guarded) {a : Answer} (hst : startingStep s a = some t) :
    s.mic.Keeps t.mic := by
  cases startingStep_spec hst with
  | late owner session hstart hlate => exact h.keeps
  | started owner session hstart hcurrent => exact h.started session
  | fails owner ending uncertain hstart hbad => exact h.keeps_of_eq (mic_markIf _ uncertain)
  | closed session ending uncertain hstart => exact h.keeps_of_eq (mic_markIf _ uncertain)

/-- **A step of a stop** has to do with the session it takes over, and with the stop itself. -/
theorem StoppingStep.mic_eq (h : StoppingStep s t) :
    s.stopTask ≠ none ∧ ∃ x b, t.mic = { s.mic with session := x, stops := b } := by
  have hstops : ∀ pc, s.stopTask = some pc → s.stopTask ≠ none := fun pc hpc => by
    rw [hpc]
    exact Option.some_ne_none pc
  cases h with
  | closed session uncertain hpc => exact ⟨hstops _ hpc, _, _, mic_markIf _ uncertain⟩
  | takesOver _ hpc | allocationAwaited _ hpc | startAwaited _ hpc | signalsAwaited _ hpc
  | privacyAwaited hpc | closes _ hpc | releasesAudio _ hpc | keepsAudio hpc | audioReleased hpc
  | audioKept hpc | releasesVideo _ hpc | keepsVideo hpc | videoReleased hpc | videoKept hpc
  | finished hpc => exact ⟨hstops _ hpc, _, _, rfl⟩

/-- While the window stops there is no session of the page. -/
theorem mic_stoppingStep (h : s.mic.Guarded) {a : Answer} (hst : stoppingStep s a = some t) :
    s.mic.Keeps t.mic := by
  obtain ⟨hstops, x, b, hmic⟩ := (stoppingStep_spec hst).mic_eq
  rw [hmic]
  exact h.halted (h.stopping (Option.isSome_iff_ne_none.mpr hstops))

/-! ## The messages -/

/-- **What arms the microphone**: the camera answers that its privacy mode is off, and the page
can be told. -/
structure State.Arms (s : State) (a : Action) : Prop where
  answer : a = .draining (.privacy false true)
  asked : ∃ owner, s.draining = .authorizing owner s.token

/-- **What asks for it**: a message of the page, with the token. -/
def Asks (a : Action) (token : ℕ) : Prop :=
  ∃ press, a = .message token (some (.captureRequest press))

/-- The invariant, and when the microphone is armed and asked for. -/
structure Moves (s : State) (a : Action) (t : State) : Prop where
  guarded : t.mic.Guarded
  armed : t.microphoneArmed = true → t.token = s.token ∧ (s.microphoneArmed = true ∨ s.Arms a)
  asking : ∀ owner token, t.draining = .authorizing owner token →
    s.draining = .authorizing owner token ∨ Asks a token

theorem Mic.Keeps.moves {a : Action} (h : s.mic.Keeps t.mic) : Moves s a t where
  guarded := h.guarded
  armed := fun harmed => ⟨(h.armed harmed).2, .inl (h.armed harmed).1⟩
  asking := fun owner token hd => .inl (h.asking owner token hd)

/-- Where the page cannot be told the window stops, and the microphone is disarmed at once. -/
theorem fail_armed (h : s.stopTask = none) :
    State.fail { s with microphoneArmed := true } = s.fail := by
  have hstop : State.stop { s with microphoneArmed := true } = s.stop := by
    unfold State.stop
    dsimp only
    rw [h]
  unfold State.fail
  rw [hstop]

/-- The session is the one that asked, and the window was not left: so the microphone may be
armed. -/
theorem Mic.Guarded.arms {owner : ℕ} (h : s.mic.Guarded)
    (hd : s.draining = .authorizing owner s.token) (ho : s.sessionCancellation = some owner)
    (hactive : s.activeWindow = true) :
    Moves s (.draining (.privacy false true))
      { s with draining := .idle, microphoneArmed := true } where
  guarded :=
    { h with
      asking := fun _ _ hx => (by cases hx)
      armed := fun _ =>
        have hasked := (h.asking owner s.token hd).2 ho
        ⟨hactive, hasked.1, hasked.2, fun hnone =>
          Option.some_ne_none owner (ho.symm.trans hnone)⟩ }
  armed := fun _ => ⟨rfl, .inr ⟨rfl, owner, hd⟩⟩
  asking := fun _ _ hx => (by cases hx)

/-- What the page was told to wait for arms the microphone, or is over, or fails. -/
theorem moves_drainingStep (h : s.mic.Guarded) {a : Answer} (hst : drainingStep s a = some t) :
    Moves s (.draining a) t := by
  have hidle : s.mic.Keeps (State.mic { s with draining := .idle }) :=
    h.keeps.drains fun _ _ hx => (by cases hx)
  cases drainingStep_spec hst with
  | ends hwaits hstart => exact hidle.moves
  | fails hwaits hstart => exact (mic_fail h).moves
  | started htask hended => exact Mic.Keeps.moves hidle
  | startFails ending htask hended =>
    exact Mic.Keeps.moves (mic_fail (s := { s with starting := .idle }) h)
  | startStopped ending htask hended hstop => exact Mic.Keeps.moves hidle
  | arms owner htask hcurrent hactive hanswer =>
    subst hanswer
    exact h.arms htask hcurrent hactive
  -- `microphoneArmed` is set before `Send` throws.
  | armsUntold owner token htask hcurrent =>
    have hstop : s.stopTask = none := Option.not_isSome_iff_eq_none.mp fun hstops =>
      Option.some_ne_none owner (hcurrent.symm.trans (h.stopping hstops))
    rw [fail_armed hstop]
    exact (mic_fail h).moves

/-- The microphone is disarmed. -/
theorem Mic.Guarded.disarmed (h : s.mic.Guarded) (active : Bool) : s.mic.Keeps
    (State.mic { s with activeWindow := active, microphoneArmed := false }) where
  guarded := { h with armed := fun harmed => (by cases harmed) }
  armed := fun harmed => (by cases harmed)
  asking := fun _ _ => id

/-- What the page asks for is looked at before the camera is asked. -/
theorem Mic.Guarded.asks {owner : ℕ} {a : Action} (h : s.mic.Guarded)
    (ho : s.sessionCancellation = some owner) (htalk : s.selectedTalk = true)
    (hsession : s.session ≠ none) (ha : Asks a s.token) :
    Moves s a { s with draining := .authorizing owner s.token } where
  guarded :=
    { h with
      asking := fun o token hd => by
        obtain ⟨rfl, -⟩ := Draining.authorizing.inj hd
        exact ⟨h.last _ ho, fun _ => ⟨htalk, hsession⟩⟩ }
  armed := fun harmed => ⟨rfl, .inl harmed⟩
  asking := fun o token hd => by
    obtain ⟨rfl, rfl⟩ := Draining.authorizing.inj hd
    exact .inr ha

/-- An offer makes the window wait for the camera, and for nothing of the microphone. -/
theorem mic_startSession (h : s.mic.Guarded) (owner : ℕ) :
    s.mic.Keeps (s.startSession owner).mic := by
  have hbegun : s.mic.Keeps (State.mic { s with draining := .starting }) :=
    h.keeps.drains fun _ _ hx => (by cases hx)
  unfold State.startSession
  dsimp only
  split
  · exact hbegun
  · split
    · split
      · exact hbegun
      · exact hbegun
    · exact hbegun

/-- **A message** asks for the microphone, disarms it, or stops the window. -/
theorem moves_received {owner : ℕ} (h : s.mic.Guarded) (ho : s.sessionCancellation = some owner)
    (report : Option Receiver.Report) :
    Moves s (.message s.token report) (received s owner report) := by
  have hfail : Moves s (.message s.token report) s.fail := (mic_fail h).moves
  have hsame : Moves s (.message s.token report) s := h.keeps.moves
  have hdisarmed : Moves s (.message s.token report) { s with microphoneArmed := false } :=
    Mic.Keeps.moves (h.disarmed s.activeWindow)
  unfold received
  split
  · split
    · exact hfail
    · exact (mic_startSession h owner).moves
  · split
    · exact hfail
    · exact (h.keeps.drains fun _ _ hx => (by cases hx)).moves
  · exact hsame
  · exact hfail
  · exact hfail
  · split
    · exact hfail
    · split
      · exact hdisarmed
      · exact hsame
  -- What `AuthorizeCaptureAsync` looks at before it waits.
  · rename_i press
    split
    · exact hfail
    · rename_i hno
      obtain ⟨-, hno⟩ := not_or.mp hno
      obtain ⟨-, hno⟩ := not_or.mp hno
      obtain ⟨htalk, hno⟩ := not_or.mp hno
      obtain ⟨-, hsession⟩ := not_or.mp hno
      exact h.asks ho (eq_true_of_ne_false htalk) hsession ⟨press, rfl⟩
  · exact hdisarmed
  · split
    · exact hfail
    · exact hsame
  · exact hfail
  · exact hfail
  · exact hfail

/-! ## The events -/

/-- Where the window is left the microphone is disarmed. -/
theorem mic_activate (h : s.mic.Guarded) (active sends : Bool) :
    s.mic.Keeps (s.activate active sends).mic := by
  unfold State.activate
  split
  · exact
      { guarded := { h with armed := fun harmed => ⟨rfl, (h.armed harmed).2⟩ }
        armed := fun harmed => ⟨harmed, rfl⟩
        asking := fun _ _ => id }
  · have hleft := h.disarmed false
    dsimp only
    split
    · exact hleft.trans (mic_stop hleft.guarded s.closing)
    · exact hleft

theorem mic_allocate {endpoint : UInt16} (hst : s.allocate endpoint = some t) :
    t.mic = s.mic := by
  unfold State.allocate at hst
  split at hst
  · cases hst
  · obtain rfl := Option.some.inj hst
    rfl

/-- A session has a number that nobody asked with. -/
theorem mic_start (h : s.mic.Guarded) {endpoint stream : UInt16} {listening talk : Bool}
    (hst : s.start endpoint stream listening talk = some t) : s.mic.Keeps t.mic := by
  unfold State.start at hst
  split at hst
  · cases hst
  · rename_i hno
    split at hst
    · cases hst
    · obtain rfl := Option.some.inj hst
      obtain ⟨-, hno⟩ := not_or.mp hno
      obtain ⟨hclosing, hno⟩ := not_or.mp hno
      have hstop : s.stopTask = none := not_not.mp (not_or.mp hno).1
      exact
        { guarded :=
            { stopping := fun hs => by
                rw [State.mic, hstop] at hs
                cases hs
              closing := fun hc => absurd hc hclosing
              live := fun owner ho => by
                obtain rfl := Option.some.inj ho
                exact h.fresh _ le_rfl
              fresh := fun owner ho => h.fresh owner (Nat.le_of_succ_le ho)
              last := fun owner ho => by
                obtain rfl := Option.some.inj ho
                exact Nat.lt_succ_self _
              -- What the camera has yet to answer was asked for in an earlier session.
              asking := fun owner token hd =>
                have hlast : owner < s.owners := (h.asking owner token hd).1
                ⟨Nat.lt_succ_of_lt hlast, fun ho =>
                  absurd (Option.some.inj ho) (Nat.ne_of_gt hlast)⟩
              armed := fun harmed => (by cases harmed) }
          armed := fun harmed => (by cases harmed)
          asking := fun _ _ => id }

/-- The window disarms the microphone when it closes, also while it stops. -/
theorem mic_close (h : s.mic.Guarded) (hst : s.close = some t) : s.mic.Keeps t.mic := by
  unfold State.close at hst
  split at hst
  · cases hst
  · obtain rfl := Option.some.inj hst
    exact mic_stop h true

/-- **One step**: whatever happens, the invariant is kept. -/
theorem moves_step (h : s.mic.Guarded) {a : Action} (hst : step s a = some t) : Moves s a t := by
  cases a with
  | navigated success =>
    obtain rfl := Option.some.inj hst
    exact Mic.Keeps.moves h.keeps
  | activated active sends =>
    obtain rfl := Option.some.inj hst
    exact (mic_activate h active sends).moves
  | markedElsewhere =>
    obtain rfl := Option.some.inj hst
    exact Mic.Keeps.moves h.keeps
  | allocate endpoint => exact (h.keeps_of_eq (mic_allocate hst)).moves
  | start endpoint stream listening talk => exact (mic_start h hst).moves
  | stop =>
    obtain rfl := Option.some.inj hst
    exact (mic_stop h s.closing).moves
  | close => exact (mic_close h hst).moves
  | message token report =>
    unfold CameraReceiverWindow.step at hst
    dsimp only at hst
    split at hst
    · rename_i owner hd howner
      split at hst
      · obtain rfl := Option.some.inj hst
        exact h.keeps.moves
      · rename_i htoken
        obtain rfl := not_not.mp htoken
        split at hst
        · obtain rfl := Option.some.inj hst
          exact moves_received h howner report
        · cases hst
    · obtain rfl := Option.some.inj hst
      exact h.keeps.moves
    · cases hst
  | allocation answer => exact (h.keeps_of_eq (mic_allocationStep hst)).moves
  | preparation answer => exact (mic_preparationStep h hst).moves
  | starting answer => exact (mic_startingStep h hst).moves
  | draining answer => exact moves_drainingStep h hst
  | signalsEnd =>
    unfold CameraReceiverWindow.step at hst
    dsimp only at hst
    split at hst
    · obtain rfl := Option.some.inj hst
      exact Mic.Keeps.moves h.keeps
    · cases hst
  | privacyEnds cleanup =>
    unfold CameraReceiverWindow.step at hst
    dsimp only at hst
    split at hst
    · obtain rfl := Option.some.inj hst
      exact Mic.Keeps.moves (h.keeps_of_eq (mic_markIf s (!cleanup)))
    · cases hst
  | stopping answer => exact (mic_stoppingStep h hst).moves
  | closing =>
    unfold CameraReceiverWindow.step at hst
    dsimp only at hst
    split at hst
    · split at hst
      · obtain rfl := Option.some.inj hst
        exact Mic.Keeps.moves h.keeps
      · cases hst
    · cases hst

/-- **The invariant holds in every run.** -/
theorem guarded_of_reachable {uncertain : Bool} (h : (machine uncertain).Reachable s) :
    s.mic.Guarded :=
  h.invariant (P := fun s => s.mic.Guarded) (guarded_start uncertain)
    fun _ _ _ _ hs hst => (moves_step hs hst).guarded

/-! ## Runs -/

/-- **The page asks for the microphone** in a run, with a token. -/
def Asked (as : List Action) (token : ℕ) : Prop :=
  ∃ press, .message token (some (.captureRequest press)) ∈ as

/-- **The camera answers** that its privacy mode is off, after the page has asked. -/
def Authorized (as : List Action) (token : ℕ) : Prop :=
  ∃ before after, as = before ++ .draining (.privacy false true) :: after ∧ Asked before token

/-- What was answered stays so. -/
theorem Authorized.concat {as : List Action} {token : ℕ} (h : Authorized as token) (a : Action) :
    Authorized (as ++ [a]) token := by
  obtain ⟨before, after, rfl, hasked⟩ := h
  exact ⟨before, after ++ [a], by rw [List.append_assoc, List.cons_append], hasked⟩

/-- **What a run has asked and been answered.** -/
theorem history {uncertain : Bool} (as : List Action)
    (h : (machine uncertain).run (machine uncertain).start as = some s) :
    (∀ owner token, s.draining = .authorizing owner token → Asked as token) ∧
      (s.microphoneArmed = true → Authorized as s.token) := by
  induction as using List.reverseRecOn generalizing s with
  | nil =>
    obtain rfl := Option.some.inj h
    exact ⟨fun _ _ hd => (by cases hd), fun harmed => (by cases harmed)⟩
  -- While the microphone is armed there is no other session, so the token stays.
  | append_singleton as a ih =>
    rw [Machine.run_append] at h
    obtain ⟨u, hu, hlast⟩ := Option.bind_eq_some_iff.mp h
    obtain ⟨t, hst, hend⟩ := Option.bind_eq_some_iff.mp hlast
    obtain rfl := Option.some.inj hend
    obtain ⟨hasked, hauthorized⟩ := ih hu
    have hmoves : Moves u a t :=
      moves_step (guarded_of_reachable (Machine.reachable_iff_run.mpr ⟨as, hu⟩)) hst
    constructor
    · intro owner token hd
      rcases hmoves.asking owner token hd with hbefore | ⟨press, rfl⟩
      · obtain ⟨press, hpress⟩ := hasked owner token hbefore
        exact ⟨press, List.mem_append_left _ hpress⟩
      · exact ⟨press, List.mem_append_right _ (List.mem_singleton_self _)⟩
    · intro harmed
      obtain ⟨htoken, hbefore | harms⟩ := hmoves.armed harmed
      · rw [htoken]
        exact (hauthorized hbefore).concat a
      · obtain ⟨rfl, owner, hd⟩ := harms
        rw [htoken]
        exact ⟨as, [], rfl, hasked owner _ hd⟩

/-- **`PermissionRequested`**: whether the browser may ask for the microphone, for a request of
this kind, of a page that is the receiver's. -/
def State.permissionRequested (s : State) (microphone trusted : Bool) : Bool :=
  microphone && trusted && s.microphoneArmed && s.activeWindow && s.selectedTalk &&
    s.session.isSome && s.sessionCancellation.isSome && !s.closing

/-- **The browser may ask for the microphone while it is armed**: in every run what else the
window looks at is then as it should be. There is no stop, the session has not been canceled,
and with its token the page has asked for the microphone before the camera answered that its
privacy mode is off. -/
theorem microphone_permitted {uncertain : Bool} {as : List Action}
    (h : (machine uncertain).run (machine uncertain).start as = some s)
    (microphone trusted : Bool) :
    s.permissionRequested microphone trusted = (microphone && trusted && s.microphoneArmed) ∧
      (s.microphoneArmed = true → s.stopTask = none ∧ Authorized as s.token ∧
        ∃ owner, s.sessionCancellation = some owner ∧ s.canceled owner = false) := by
  have hs : s.mic.Guarded := guarded_of_reachable (Machine.reachable_iff_run.mpr ⟨as, h⟩)
  cases harmed : s.microphoneArmed with
  | false =>
    refine ⟨?_, fun ha => (by cases ha)⟩
    rw [State.permissionRequested, harmed, Bool.and_false]
    rfl
  | true =>
    have hmic : s.activeWindow = true ∧ s.selectedTalk = true ∧ s.session ≠ none ∧
        s.sessionCancellation ≠ none := hs.armed harmed
    obtain ⟨hactive, htalk, hsession, hcancellation⟩ := hmic
    obtain ⟨session, hsome⟩ := Option.ne_none_iff_exists'.mp hsession
    obtain ⟨owner, howner⟩ := Option.ne_none_iff_exists'.mp hcancellation
    have hclosing : s.closing = false :=
      Bool.eq_false_iff.mpr fun hc => hcancellation (hs.closing hc)
    have hstop : s.stopTask = none :=
      Option.not_isSome_iff_eq_none.mp fun hstops => hcancellation (hs.stopping hstops)
    refine ⟨?_, fun _ => ⟨hstop, (history as h).2 harmed, owner, howner, hs.live owner howner⟩⟩
    simp [State.permissionRequested, harmed, hactive, htalk, hsome, howner, hclosing]

end

/-- A session with talk, in which a button is pressed and the camera's privacy mode is off. -/
def talking : List Action :=
  [.navigated true, .allocate 1, .allocation .returns, .allocation (.stream 5),
    .allocation .returns, .start 1 5 true true, .preparation .returns, .preparation .returns,
    .preparation .returns, .preparation (.profiles 1), .preparation (.stream 9),
    .preparation .returns, .preparation .returns, .message 0 (some (.offer [])),
    .starting (.session 7), .draining .returns, .message 0 (some (.captureRequest 1)),
    .draining (.privacy false true)]

/-- Then the browser may ask. -/
theorem microphone_permitted_talking :
    ∃ s, (machine false).run (machine false).start talking = some s ∧
      s.permissionRequested true true = true ∧ s.stopTask = none ∧ Authorized talking s.token := by
  have hrun : ((machine false).run (machine false).start talking).map State.microphoneArmed =
      some true := by decide
  obtain ⟨s, hs, harmed⟩ := Option.map_eq_some_iff.mp hrun
  obtain ⟨hpermitted, hauthorized⟩ := microphone_permitted hs true true
  obtain ⟨hstop, hauthorized, -⟩ := hauthorized harmed
  exact ⟨s, hs, hpermitted.trans harmed, hstop, hauthorized⟩

end CameraReceiverWindow
