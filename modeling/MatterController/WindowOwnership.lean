import MatterController.WindowSteps

/-!
# What the receiver window owns

A client of the camera has its rules (`Ledger.step`). It holds at most one stream of a kind, and
has one session. The session uses the video stream it holds, or one that somebody else allocated
if it holds none, and no audio stream but the one it holds. It ends the session before it
releases the streams, and asks for the end, and for each release, once. If an outcome was
uncertain – there may be a stream, or a session, that nobody knows – it neither allocates nor
starts anything again.

`calls_accounted` says that the window follows them, however its tasks take turns, and that a
stop leaves nothing: no session, and no stream but one whose release was tried and failed. For
each task there is a stage of the stop that waits for it, and the task can run before that
stage only (`State.within`). So a stop finds, at a stage, that what it has passed is done
(`Inv.done`), and that is enough to let go of the rest.

There is one gap. A stop waits for the preparation of a session only while the page is there,
since that is where it goes on to tell the page to stop. If the page is lost before, what the
preparation allocates afterwards comes too late (`audio_forgotten`); so `calls_accounted` is
about the runs in which it is not lost then (`Steady`).
-/

namespace CameraReceiverWindow

/-! ## The books -/

/-- **A stream that is held**, and whether its release was asked for. -/
structure Held where
  endpoint : UInt16
  stream : UInt16
  asked : Bool
  deriving DecidableEq

/-- **The books of a client of the camera**: what it holds, the session it has, with whether
its end was asked for, and whether some outcome was uncertain. -/
structure Ledger where
  video : Option Held := none
  audio : Option Held := none
  session : Option (UInt64 × Bool) := none
  uncertain : Bool := false
  deriving DecidableEq

/-- The stream held of a kind. -/
def Ledger.held (l : Ledger) : Kind → Option Held
  | .video => l.video
  | .audio => l.audio

/-- Another stream is held of a kind, or none. -/
def Ledger.hold (l : Ledger) (x : Option Held) : Kind → Ledger
  | .video => { l with video := x }
  | .audio => { l with audio := x }

/-- **What a session may use**: the video stream that is held, if one is held, and any other if
not; and an audio stream only if it is held. What is held is not being released. -/
def Ledger.lends (l : Ledger) (endpoint video : UInt16) (audio : Option UInt16) : Prop :=
  (∀ x ∈ l.video, x = ⟨endpoint, video, false⟩) ∧
    ∀ stream ∈ audio, l.audio = some ⟨endpoint, stream, false⟩

instance (l : Ledger) (endpoint video : UInt16) (audio : Option UInt16) :
    Decidable (l.lends endpoint video audio) :=
  inferInstanceAs (Decidable ((∀ x ∈ l.video, x = ⟨endpoint, video, false⟩) ∧
    ∀ stream ∈ audio, l.audio = some ⟨endpoint, stream, false⟩))

/-- **The rules**. At most one stream of a kind is held, and one session open. A session uses
the video stream that is held, if one is held, and an audio stream only if it is held. It is
closed once, a stream is released once, and no stream before the session it may serve has been
closed, nor the video before the audio. Nothing is allocated or started once an outcome was
uncertain. -/
def Ledger.step (l : Ledger) : Event → Option Ledger
  | .allocate kind => if l.uncertain = false ∧ l.held kind = none then some l else none
  | .allocated kind endpoint stream =>
    if l.held kind = none then some (l.hold (some ⟨endpoint, stream, false⟩) kind) else none
  | .start endpoint video audio =>
    if l.uncertain = false ∧ l.session = none ∧ l.lends endpoint video audio then some l else none
  | .started session =>
    if l.session = none then some { l with session := some (session, false) } else none
  | .close session =>
    if l.session = some (session, false) then some { l with session := some (session, true) }
    else none
  | .closed session =>
    if l.session = some (session, true) then some { l with session := none } else none
  | .release kind endpoint stream =>
    if l.held kind = some ⟨endpoint, stream, false⟩ ∧ l.session = none ∧
        (kind = .video → ∀ x ∈ l.audio, x.asked = true) then
      some (l.hold (some ⟨endpoint, stream, true⟩) kind)
    else none
  | .released kind succeeded =>
    if ∃ x ∈ l.held kind, x.asked = true then
      some (if succeeded then l.hold none kind else l)
    else none
  | .doubt => some { l with uncertain := true }

/-- **The books, from the first entry on.** -/
def ledger : Machine Ledger Event := ⟨{}, Ledger.step⟩

/-! ## What the window's fields say -/

/-- The session a stop has taken over. -/
def Stopping.openSession : Stopping → Option (UInt64 × Bool)
  | .allocation x | .start x | .signal x | .privacy x => x.map fun y => (y, false)
  | .session x => some (x, true)
  | .preparation | .audio | .audioRelease | .video | .videoRelease | .ended => none

/-- The stream `ownedStream` is about. -/
def State.video (s : State) : Option Held :=
  s.ownedStream.map fun stream => ⟨s.ownedStreamEndpoint, stream, s.deallocationAttempted⟩

/-- The stream `ownedAudio` is about. -/
def State.audio (s : State) : Option Held :=
  s.ownedAudio.map fun stream => ⟨s.selectedEndpoint, stream, s.audioReleaseAttempted⟩

/-- The session there is: one that came too late, that of the window, or that of a stop. -/
def State.openSession (s : State) : Option (UInt64 × Bool) :=
  match s.starting with
  | .cleaning session => some (session, true)
  | _ => (s.session.map fun session => (session, false)).or (s.stopTask.bind Stopping.openSession)

/-- There is a session, or a stop that has not come far. -/
def State.within (s : State) (n : ℕ) : Prop :=
  s.sessionCancellation ≠ none ∨ ∃ pc, s.stopTask = some pc ∧ pc.rank ≤ n

/-- A start that failed, before the window stops because of it. -/
def State.startFailed (s : State) : Prop :=
  s.startTask = true ∧ (s.starting = .ended .failed ∨ s.starting = .ended .canceled)

/-- **Nothing is left to be done**: no task can come to own anything, and of what is owned the
release was tried. -/
structure State.Settled (s : State) : Prop where
  owner : s.sessionCancellation = none
  allocation : s.allocationTask.runs = false
  preparation : s.preparationTask.owner = none
  starting : s.starting.runs = false
  session : s.openSession = none
  video : s.ownedStream ≠ none → s.deallocationAttempted = true
  audio : s.ownedAudio ≠ none → s.audioReleaseAttempted = true
  release : s.stopTask ≠ some .audioRelease ∧ s.stopTask ≠ some .videoRelease

/-- The stop that the end of the window waits for is over. -/
def State.stopped (s : State) : Prop :=
  ∃ pc, s.closeTask = some pc ∧ ∀ number, pc = .stopping number → number ≤ s.stopsOver

/-- **The invariant**, with the books as they are. -/
structure Inv (l : Ledger) (s : State) : Prop where
  -- What the fields say is what the camera was asked.
  books : ledger.run ledger.start s.log = some l
  video : l.video = s.video
  audio : l.audio = s.audio
  session : l.session = s.openSession
  uncertain : l.uncertain = true → s.ownershipUncertain = true
  videoAsked : s.ownedStream ≠ none → s.deallocationAttempted = true →
    l.uncertain = true ∨ s.stopTask = some .videoRelease
  audioAsked : s.ownedAudio ≠ none → s.audioReleaseAttempted = true →
    l.uncertain = true ∨ s.stopTask = some .audioRelease
  videoHeld : ∀ pc, s.stopTask = some pc → 9 ≤ pc.rank → s.ownedStream ≠ none →
    s.deallocationAttempted = true
  audioHeld : s.ownedAudio ≠ none → s.audioReleaseAttempted = false → s.within 6
  videoReleasing : s.stopTask = some .videoRelease →
    s.ownedStream ≠ none ∧ s.deallocationAttempted = true
  audioReleasing : s.stopTask = some .audioRelease →
    s.ownedAudio ≠ none ∧ s.audioReleaseAttempted = true
  -- A session uses the video stream that is held, if one is, and has the last number.
  videoLent : s.sessionCancellation ≠ none → ∀ stream, s.ownedStream = some stream →
    stream = s.selectedStream ∧ s.ownedStreamEndpoint = s.selectedEndpoint ∧
      s.deallocationAttempted = false
  audioLent : s.sessionCancellation ≠ none → s.ownedAudio ≠ none → s.audioReleaseAttempted = false
  stopping : s.stopTask ≠ none → s.sessionCancellation = none
  live : ∀ owner, s.sessionCancellation = some owner →
    s.canceled owner = false ∧ owner + 1 = s.owners
  fresh : ∀ owner, s.owners ≤ owner → s.canceled owner = false
  -- A task is that of the session, or a stop has not come to the stage that waits for it.
  allocation : s.allocationTask.runs = true → s.sessionCancellation = none ∧
    s.ownedStream = none ∧ ∀ pc, s.stopTask = some pc → pc.rank ≤ 1
  preparation : ∀ owner, s.preparationTask.owner = some owner → owner + 1 = s.owners ∧
    s.told = false ∧ s.ready = true ∧ s.startTask = false ∧ s.session = none ∧
    (s.sessionCancellation = some owner ∨
      s.canceled owner = true ∧ s.stopTask = some .preparation)
  preparing : ∀ owner, s.preparationTask.owner = some owner →
    s.preparationTask ≠ .sending owner → s.ownedAudio = none
  thrown : ∀ owner canceled, s.preparationTask = .thrown owner canceled →
    owner + 1 = s.owners ∧ s.told = false
  starts : s.starting.runs = true → s.startTask = true ∧ s.session = none ∧
    ∀ pc, s.stopTask = some pc → pc.openSession = none
  draining : s.starting ≠ .idle → s.draining = .starting
  calling : ∀ owner, s.starting = .calling owner →
    s.sessionCancellation = none ∨ s.sessionCancellation = some owner
  cleaning : ∀ session, s.starting = .cleaning session → s.sessionCancellation = none
  startTask : s.startTask = true → s.within 2
  opened : s.session ≠ none → s.within 0
  signals : s.signalTask = .runs → s.within 3
  privacy : s.privacyTask = .runs → s.within 4 ∧
    (s.sessionCancellation ≠ none → s.session ≠ none)
  -- Where something may still be asked for, no outcome was uncertain.
  calm : s.sessionCancellation ≠ none → s.session = none → ¬ s.startFailed →
    (∀ owner canceled, s.preparationTask ≠ .thrown owner canceled) → l.uncertain = false
  allocating : ∀ endpoint, s.allocationTask = .capabilities endpoint → s.stopTask = none →
    l.uncertain = false
  -- There is one stop at a time, and the window closes after one.
  numbers : s.stopsOver ≤ s.stops ∧ s.stops ≤ s.stopsOver + 1 ∧
    (s.stops = s.stopsOver ↔ s.stopTask = none ∨ s.stopTask = some .ended)
  closing : s.closeTask ≠ none → s.closing = true
  closed : s.closed = true → s.closeTask = some .ended
  settled : s.stopped → s.Settled

/-- The window owns nothing when it is opened, and the books are empty. -/
theorem inv_start (uncertain : Bool) : Inv {} (machine uncertain).start where
  books := rfl
  video := rfl
  audio := rfl
  session := rfl
  uncertain := fun h => (by cases h)
  videoAsked := fun h => absurd rfl h
  audioAsked := fun h => absurd rfl h
  videoHeld := fun pc h => (by cases h)
  audioHeld := fun h => absurd rfl h
  videoReleasing := fun h => (by cases h)
  audioReleasing := fun h => (by cases h)
  videoLent := fun h => absurd rfl h
  audioLent := fun h => absurd rfl h
  stopping := fun _ => rfl
  live := fun owner h => (by cases h)
  fresh := fun owner h => rfl
  allocation := fun h => (by cases h)
  preparation := fun owner h => (by cases h)
  preparing := fun owner h => (by cases h)
  thrown := fun owner canceled h => (by cases h)
  starts := fun h => (by cases h)
  draining := fun h => absurd rfl h
  calling := fun owner h => (by cases h)
  cleaning := fun session h => (by cases h)
  startTask := fun h => (by cases h)
  opened := fun h => absurd rfl h
  signals := fun h => (by cases h)
  privacy := fun h => (by cases h)
  calm := fun h => absurd rfl h
  allocating := fun endpoint h => (by cases h)
  numbers := ⟨Nat.le_refl _, Nat.le_succ _, ⟨fun _ => .inl rfl, fun _ => rfl⟩⟩
  closing := fun h => absurd rfl h
  closed := fun h => (by cases h)
  settled := fun ⟨pc, h, _⟩ => (by cases h)

section
variable {l : Ledger} {s t : State}

/-! ### Stops -/

/-- What a stop first waits for. -/
def State.firstWait (s : State) : Stopping :=
  if s.ready then .preparation else .allocation s.session

/-- Whichever of the two it is, it comes before the start of a session is waited for. -/
theorem rank_firstWait (s : State) : s.firstWait.rank ≤ 1 := by
  unfold State.firstWait
  split
  · exact Nat.zero_le 1
  · exact Nat.le_refl 1

/-- **What a stop does at once**, when there is none: it ends the session, and takes it over
where the page is lost. -/
theorem stop_of_none (h : s.stopTask = none) : s.stop = { s with
    microphoneArmed := false
    sessionCancellation := none
    canceled := s.sessionCancellation.elim s.canceled fun o => Function.update s.canceled o true
    stops := s.stops + 1
    stopTask := some s.firstWait
    session := if s.ready then s.session else none } := by
  unfold State.stop State.firstWait
  rw [h]
  dsimp only
  split
  · rfl
  · rfl

/-- A stop that is under way is not begun again. -/
theorem stop_of_some {pc : Stopping} (h : s.stopTask = some pc) : s.stop = s := by
  unfold State.stop
  rw [h]

/-- Where no late session is cleaned up, the session is that of the window or of a stop. -/
theorem openSession_eq (h : ∀ x, s.starting ≠ .cleaning x) : s.openSession =
    (s.session.map fun session => (session, false)).or (s.stopTask.bind Stopping.openSession) := by
  unfold State.openSession
  split
  · rename_i x hx
    exact absurd hx (h x)
  · rfl

/-- A stop that begins loses no session: what it takes over stays open. -/
theorem openSession_stop (h : s.stopTask = none) : s.stop.openSession = s.openSession := by
  rw [stop_of_none h]
  unfold State.openSession State.firstWait
  dsimp only
  rw [h]
  cases s.starting with
  | cleaning x => rfl
  | idle | calling owner | ended ending =>
    cases s.ready with
    | true => rfl
    | false =>
      cases s.session with
      | none => rfl
      | some x => rfl

/-- While the window stops nobody owns a session. -/
theorem Inv.owner_none {pc : Stopping} (h : Inv l s) (hpc : s.stopTask = some pc) :
    s.sessionCancellation = none :=
  h.stopping (by rw [hpc]; exact Option.some_ne_none pc)

/-- A stop cancels the session there is, and none that is still to come. -/
theorem fresh_stop (hlast : ∀ owner, s.sessionCancellation = some owner → owner < s.owners)
    (hfresh : ∀ owner, s.owners ≤ owner → s.canceled owner = false) {owner : ℕ}
    (ho : s.owners ≤ owner) :
    (s.sessionCancellation.elim s.canceled fun o => Function.update s.canceled o true) owner =
      false := by
  cases hc : s.sessionCancellation with
  | none => exact hfresh owner ho
  | some current =>
    have hne : owner ≠ current := Nat.ne_of_gt ((hlast current hc).trans_le ho)
    exact (Function.update_of_ne hne _ _).trans (hfresh owner ho)

/-- **A stop keeps the invariant**: it stops nothing that it does not wait for. -/
theorem Inv.stop (h : Inv l s) : Inv l s.stop := by
  cases hs : s.stopTask with
  | some pc =>
    rw [stop_of_some hs]
    exact h
  | none =>
    have hsession := (openSession_stop hs).symm
    rw [stop_of_none hs] at hsession ⊢
    have hrank : ∀ pc, some s.firstWait = some pc → pc.rank ≤ 1 := by
      rintro pc hpc
      rw [← Option.some.inj hpc]
      exact rank_firstWait s
    have hwithin : ∀ n, 1 ≤ n → ∃ pc, some s.firstWait = some pc ∧ pc.rank ≤ n :=
      fun n hn => ⟨_, rfl, (rank_firstWait s).trans hn⟩
    exact { h with
      session := h.session.trans hsession
      videoAsked := fun ho ha => .inl ((h.videoAsked ho ha).resolve_right (by rw [hs]; simp))
      audioAsked := fun ho ha => .inl ((h.audioAsked ho ha).resolve_right (by rw [hs]; simp))
      videoHeld := fun pc hpc hlate => absurd (hlate.trans (hrank pc hpc)) (by decide)
      audioHeld := fun _ _ => .inr (hwithin 6 (by decide))
      videoReleasing := fun hpc => absurd (hrank _ hpc) (by decide)
      audioReleasing := fun hpc => absurd (hrank _ hpc) (by decide)
      videoLent := fun hc => absurd rfl hc
      audioLent := fun hc => absurd rfl hc
      stopping := fun _ => rfl
      live := fun owner ho => (by cases ho)
      fresh := fun owner ho =>
        fresh_stop (fun current hc => Nat.lt_of_succ_le (h.live current hc).2.le) h.fresh ho
      allocation := fun hr => ⟨rfl, (h.allocation hr).2.1, hrank⟩
      preparation := fun owner ho => by
        obtain ⟨hown, htold, hready, hstart, hnone, hcurrent⟩ := h.preparation owner ho
        have hcurrent := hcurrent.resolve_right fun hstop => (by rw [hs] at hstop; cases hstop.2)
        refine ⟨hown, htold, hready, hstart, ?_, .inr ⟨?_, ?_⟩⟩
        · dsimp only
          rw [hnone, ite_self]
        · dsimp only
          rw [hcurrent]
          exact Function.update_self owner _ _
        · exact congrArg some (if_pos hready)
      starts := fun hr => by
        obtain ⟨htask, hnone, -⟩ := h.starts hr
        refine ⟨htask, ?_, fun pc hpc => ?_⟩
        · dsimp only
          rw [hnone, ite_self]
        · rw [← Option.some.inj hpc]
          unfold State.firstWait
          rw [hnone]
          split
          · rfl
          · rfl
      calling := fun owner _ => .inl rfl
      cleaning := fun session _ => rfl
      startTask := fun _ => .inr (hwithin 2 (by decide))
      opened := fun hne => by
        cases hready : s.ready with
        | true => exact .inr ⟨.preparation, congrArg some (if_pos hready), Nat.le_refl 0⟩
        | false =>
          dsimp only at hne
          rw [hready] at hne
          exact absurd rfl hne
      signals := fun _ => .inr (hwithin 3 (by decide))
      privacy := fun _ => ⟨.inr (hwithin 4 (by decide)), fun hc => absurd rfl hc⟩
      calm := fun hc => absurd rfl hc
      allocating := fun endpoint _ hpc => (by cases hpc)
      numbers := by
        obtain ⟨hle, -, hiff⟩ := h.numbers
        have heq := hiff.mpr (.inl hs)
        dsimp only
        refine ⟨by omega, by omega, ⟨fun hstops => by omega, ?_⟩⟩
        rintro (hnone | hended)
        · cases hnone
        · exact absurd (hrank _ hended) (by decide)
      settled := fun hstopped => by
        have hset := h.settled hstopped
        exact { hset with
          owner := rfl
          session := hsession.symm.trans hset.session
          release := ⟨fun hpc => absurd (hrank _ hpc) (by decide),
            fun hpc => absurd (hrank _ hpc) (by decide)⟩ } }

/-! ### The books go on -/

/-- An entry the rules allow. -/
theorem run_note {l' : Ledger} {log : List Event} {e : Event}
    (h : ledger.run ledger.start log = some l) (he : l.step e = some l') :
    ledger.run ledger.start (log ++ [e]) = some l' := by
  rw [Machine.run_append, h, Option.bind_some, Machine.run_cons]
  show (l.step e).bind _ = _
  rw [he]
  rfl

/-- **An outcome is uncertain**, where nothing goes on as if it were not. -/
theorem Inv.mark (h : Inv l s)
    (hcalm : s.sessionCancellation ≠ none → s.session = none → ¬ s.startFailed →
      ¬ ∀ owner canceled, s.preparationTask ≠ .thrown owner canceled)
    (hallocating : ∀ endpoint, s.allocationTask = .capabilities endpoint → s.stopTask ≠ none) :
    Inv { l with uncertain := true } s.mark :=
  { h with
    books := run_note h.books rfl
    uncertain := fun _ => rfl
    videoAsked := fun _ _ => .inl rfl
    audioAsked := fun _ _ => .inl rfl
    calm := fun hc hs hf ht => absurd ht (hcalm hc hs hf)
    allocating := fun endpoint ha hs => absurd hs (hallocating endpoint ha)
    settled := fun hs => { h.settled hs with } }

/-- The same where it depends on the failure whether the outcome is uncertain. -/
theorem Inv.markIf (h : Inv l s) (b : Bool)
    (hcalm : s.sessionCancellation ≠ none → s.session = none → ¬ s.startFailed →
      ¬ ∀ owner canceled, s.preparationTask ≠ .thrown owner canceled)
    (hallocating : ∀ endpoint, s.allocationTask = .capabilities endpoint → s.stopTask ≠ none) :
    ∃ l', Inv l' (s.markIf b) := by
  cases b with
  | true => exact ⟨_, h.mark hcalm hallocating⟩
  | false => exact ⟨l, h⟩

/-! ### The tasks -/

/-- An allocation is complete. -/
theorem Inv.allocationEnds (h : Inv l s) : Inv l { s with allocationTask := .ended } :=
  { h with
    allocation := fun hr => (by cases hr)
    allocating := fun endpoint ha => (by cases ha)
    settled := fun hs => { h.settled hs with allocation := rfl } }

/-- While a video stream is allocated none is held. -/
theorem Inv.video_none (h : Inv l s) (hr : s.allocationTask.runs = true) :
    l.held .video = none := by
  show l.video = none
  rw [h.video, State.video, (h.allocation hr).2.1]
  rfl

/-- **The video stream of an allocation** is there: nothing was held, and no stop has come so far
as to release it. -/
theorem Inv.videoAllocated {endpoint : UInt16} (h : Inv l s)
    (htask : s.allocationTask = .allocating endpoint) (stream : UInt16) :
    Inv (l.hold (some ⟨endpoint, stream, false⟩) .video)
      { s.note (.allocated .video endpoint stream) with
        allocationTask := .ended
        ownedStream := some stream
        ownedStreamEndpoint := endpoint
        deallocationAttempted := false } := by
  have hr : s.allocationTask.runs = true := by rw [htask]; rfl
  obtain ⟨howner, -, hrank⟩ := h.allocation hr
  exact { h with
    books := run_note h.books (if_pos (h.video_none hr))
    video := rfl
    videoAsked := fun _ ha => (by cases ha)
    videoHeld := fun pc hpc hlate => absurd (hlate.trans (hrank pc hpc)) (by decide)
    videoReleasing := fun hpc => absurd (hrank _ hpc) (by decide)
    videoLent := fun hc => absurd howner hc
    allocation := fun hr => (by cases hr)
    allocating := fun endpoint ha => (by cases ha)
    settled := fun hs => (by rw [(h.settled hs).allocation] at hr; cases hr) }

/-- An allocation keeps the invariant. -/
theorem Inv.allocationStep (h : Inv l s) {a : Answer} (hst : allocationStep s a = some t) :
    ∃ l', Inv l' t := by
  cases allocationStep_spec hst with
  | allocate endpoint htask hwanted hgoes =>
    have hr : s.allocationTask.runs = true := by rw [htask]; rfl
    have hcalm := h.allocating endpoint htask hgoes
    exact ⟨l, { h with
      books := run_note h.books (if_pos ⟨hcalm, h.video_none hr⟩)
      allocation := fun _ => h.allocation hr
      allocating := fun endpoint ha => (by cases ha)
      settled := fun hs => (by rw [(h.settled hs).allocation] at hr; cases hr) }⟩
  | allocated endpoint stream htask => exact ⟨_, h.videoAllocated htask stream⟩
  | ends uncertain hr =>
    exact h.allocationEnds.markIf uncertain (fun hc => absurd (h.allocation hr).1 hc)
      fun endpoint ha => (by cases ha)
  | noticed htask =>
    exact ⟨l, { h with
      allocation := fun hr => (by cases hr)
      allocating := fun endpoint ha => (by cases ha)
      settled := fun hs => { h.settled hs with allocation := rfl } }⟩

/-- A preparation goes on, or is through. -/
theorem Inv.prepares {x : Preparing} (h : Inv l s)
    (howner : ∀ owner, x.owner = some owner → s.preparationTask.owner = some owner ∧
      (x ≠ .sending owner → s.ownedAudio = none))
    (hthrown : ∀ owner canceled, x = .thrown owner canceled →
      s.preparationTask.owner = some owner)
    (hcalm : ∀ owner canceled, s.preparationTask = .thrown owner canceled →
      s.sessionCancellation = none) :
    Inv l { s with preparationTask := x } :=
  { h with
    preparation := fun owner ho => h.preparation owner (howner owner ho).1
    preparing := fun owner ho => (howner owner ho).2
    thrown := fun owner canceled hx => by
      obtain ⟨hown, htold, -⟩ := h.preparation owner (hthrown owner canceled hx)
      exact ⟨hown, htold⟩
    calm := fun hc hs hf _ =>
      h.calm hc hs hf fun owner canceled ht => hc (hcalm owner canceled ht)
    settled := fun hs => { h.settled hs with
      preparation := by
        cases ho : x.owner with
        | none => rfl
        | some owner =>
          have hnone := (h.settled hs).preparation
          rw [(howner owner ho).1] at hnone
          cases hnone } }

/-- A task that is not complete has not thrown. -/
theorem not_thrown_of_owner {owner : ℕ} (ho : s.preparationTask.owner = some owner)
    (other : ℕ) (canceled : Bool) : s.preparationTask ≠ .thrown other canceled := by
  intro ht
  rw [ht] at ho
  cases ho

/-- A preparation that was not canceled is that of the session. -/
theorem Inv.current {owner : ℕ} (h : Inv l s) (ho : s.preparationTask.owner = some owner)
    (hcanceled : s.canceled owner = false) : s.sessionCancellation = some owner := by
  obtain ⟨-, -, -, -, -, hcurrent⟩ := h.preparation owner ho
  refine hcurrent.resolve_right fun hstop => ?_
  rw [hcanceled] at hstop
  cases hstop.1

/-- Nothing was uncertain when it began. -/
theorem Inv.calm_of_owner {owner : ℕ} (h : Inv l s) (ho : s.preparationTask.owner = some owner)
    (hcanceled : s.canceled owner = false) : l.uncertain = false := by
  obtain ⟨-, -, -, hstart, hnone, -⟩ := h.preparation owner ho
  refine h.calm ?_ hnone (fun hf => ?_) (not_thrown_of_owner ho)
  · rw [h.current ho hcanceled]
    exact Option.some_ne_none owner
  · rw [hf.1] at hstart
    cases hstart

/-- A preparation has no audio stream before it is about to tell the page. -/
theorem Inv.audio_none {owner : ℕ} (h : Inv l s) (ho : s.preparationTask.owner = some owner)
    (hsending : s.preparationTask ≠ .sending owner) : l.held .audio = none := by
  show l.audio = none
  rw [h.audio, State.audio, h.preparing owner ho hsending]
  rfl

/-- **The next profile** is asked for only where the session was not canceled, so nothing is held
and nothing uncertain. -/
theorem Inv.tryNext {owner : ℕ} (h : Inv l s) (ho : s.preparationTask.owner = some owner)
    (hsending : s.preparationTask ≠ .sending owner) (n : ℕ) :
    ∃ l', Inv l' (s.tryNext owner n) := by
  have hnone := h.preparing owner ho hsending
  have hthrown := not_thrown_of_owner ho
  cases n with
  | zero =>
    refine ⟨l, h.prepares (fun other hx => ?_) (fun other canceled hx => (by cases hx))
      fun other canceled hx => absurd hx (hthrown other canceled)⟩
    obtain rfl := Option.some.inj hx
    exact ⟨ho, fun hne => absurd rfl hne⟩
  | succ left =>
    unfold State.tryNext
    cases hcanceled : s.canceled owner with
    | true =>
      refine ⟨l, h.prepares (fun other hx => (by cases hx)) (fun other canceled hx => ?_)
        fun other canceled hx => absurd hx (hthrown other canceled)⟩
      obtain rfl := (Preparing.thrown.inj hx).1
      exact ho
    | false =>
      have hinv : Inv l { s with preparationTask := .allocating owner left } := by
        refine h.prepares (fun other hx => ?_) (fun other canceled hx => (by cases hx))
          fun other canceled hx => absurd hx (hthrown other canceled)
        obtain rfl := Option.some.inj hx
        exact ⟨ho, fun _ => hnone⟩
      exact ⟨l, { hinv with
        books := run_note h.books
          (if_pos ⟨h.calm_of_owner ho hcanceled, h.audio_none ho hsending⟩)
        settled := fun hs => { hinv.settled hs with } }⟩

/-- The audio stream of a preparation is there. -/
theorem Inv.audioAllocated {owner left : ℕ} (h : Inv l s)
    (htask : s.preparationTask = .allocating owner left) (stream : UInt16) :
    Inv (l.hold (some ⟨s.selectedEndpoint, stream, false⟩) .audio)
      { s.note (.allocated .audio s.selectedEndpoint stream) with
        preparationTask := .sending owner
        ownedAudio := some stream
        audioReleaseAttempted := false } := by
  have ho : s.preparationTask.owner = some owner := by rw [htask]; rfl
  have hsending : s.preparationTask ≠ .sending owner := by
    rw [htask]
    exact fun hx => (by cases hx)
  have hthrown := not_thrown_of_owner ho
  obtain ⟨-, -, -, -, -, hcurrent⟩ := h.preparation owner ho
  have hwithin : s.within 6 := by
    rcases hcurrent with hsome | ⟨-, hstop⟩
    · exact .inl (by rw [hsome]; exact Option.some_ne_none owner)
    · exact .inr ⟨_, hstop, Nat.zero_le 6⟩
  -- A stop waits for the preparation, so it cannot release the audio stream meanwhile.
  have hrelease : s.stopTask ≠ some .audioRelease := by
    intro hpc
    rcases hcurrent with hsome | ⟨-, hstop⟩
    · have hnone := h.owner_none hpc
      rw [hsome] at hnone
      cases hnone
    · rw [hpc] at hstop
      cases hstop
  have hinv : Inv l { s with preparationTask := .sending owner } := by
    refine h.prepares (fun other hx => ?_) (fun other canceled hx => (by cases hx))
      fun other canceled hx => absurd hx (hthrown other canceled)
    obtain rfl := Option.some.inj hx
    exact ⟨ho, fun hne => absurd rfl hne⟩
  exact { hinv with
    books := run_note h.books (if_pos (h.audio_none ho hsending))
    audio := rfl
    audioAsked := fun _ ha => (by cases ha)
    audioHeld := fun _ _ => hwithin
    audioReleasing := fun hpc => absurd hpc hrelease
    audioLent := fun _ _ => rfl
    preparing := fun other hx hne => by
      obtain rfl := Option.some.inj hx
      exact absurd rfl hne
    settled := fun hs => (by rw [(h.settled hs).preparation] at ho; cases ho) }

/-- A preparation throws. -/
theorem Inv.throws {owner : ℕ} (h : Inv l s) (ho : s.preparationTask.owner = some owner)
    (canceled : Bool) : Inv l { s with preparationTask := .thrown owner canceled } := by
  refine h.prepares (fun other hx => (by cases hx)) (fun other c hx => ?_)
    fun other c hx => absurd hx (not_thrown_of_owner ho other c)
  rw [← (Preparing.thrown.inj hx).1]
  exact ho

/-- However telling the page ends, it changes nothing that is owned. -/
theorem Inv.sendStart {owner : ℕ} (h : Inv l s) (ho : s.preparationTask.owner = some owner)
    (sends : Bool) : Inv l (s.sendStart owner sends) := by
  have hreturned : Inv l { s with preparationTask := .returned } :=
    h.prepares (fun other hx => (by cases hx)) (fun other canceled hx => (by cases hx))
      fun other canceled hx => absurd hx (not_thrown_of_owner ho other canceled)
  unfold State.sendStart
  split
  · exact h.throws ho true
  · split
    · exact hreturned
    · split
      · exact { hreturned with
          preparation := fun other hx => (by cases hx)
          thrown := fun other canceled hx => (by cases hx)
          settled := fun hs => { hreturned.settled hs with } }
      · exact h.throws ho false

/-- After a stop has begun nobody owns a session, whether there was a stop before or not. -/
theorem stop_sessionCancellation (h : Inv l s) : s.stop.sessionCancellation = none := by
  cases hs : s.stopTask with
  | none =>
    rw [stop_of_none hs]
  | some pc =>
    rw [stop_of_some hs]
    exact h.stopping (by rw [hs]; exact Option.some_ne_none pc)

/-- While a session is prepared no video stream is allocated that nothing waits for. -/
theorem Inv.stops_of_owner {owner : ℕ} (h : Inv l s) (ho : s.preparationTask.owner = some owner)
    (hr : s.allocationTask.runs = true) : s.stopTask ≠ none := by
  obtain ⟨-, -, -, -, -, hcurrent⟩ := h.preparation owner ho
  have hnone := (h.allocation hr).1
  rcases hcurrent with hsome | ⟨-, hstop⟩
  · rw [hsome] at hnone
    cases hnone
  · rw [hstop]
    exact Option.some_ne_none _

/-- The failure of a preparation is caught when the session has been canceled: there is no later
one. -/
theorem Inv.caught {owner : ℕ} {canceled : Bool} (h : Inv l s)
    (htask : s.preparationTask = .thrown owner canceled) (hcanceled : s.canceled owner = true) :
    s.sessionCancellation = none := by
  obtain ⟨hown, -⟩ := h.thrown owner canceled htask
  cases hs : s.sessionCancellation with
  | none => rfl
  | some current =>
    obtain ⟨hlive, hlast⟩ := h.live current hs
    have hsame : current = owner := by omega
    rw [hsame, hcanceled] at hlive
    cases hlive

/-- A preparation that has tries to make sends nothing yet. -/
theorem not_sending_of_left (hearly : 4 ≤ s.preparationTask.left) (owner : ℕ) :
    s.preparationTask ≠ .sending owner := by
  intro hx
  rw [hx] at hearly
  exact absurd hearly (show ¬ 4 ≤ 3 by decide)

/-- A preparation keeps the invariant. -/
theorem Inv.preparationStep (h : Inv l s) {a : Answer} (hst : preparationStep s a = some t) :
    ∃ l', Inv l' t := by
  cases preparationStep_spec hst with
  | reads owner what x htask hnext hdown =>
    have ho : s.preparationTask.owner = some owner := by rw [htask]; rfl
    have hsending : s.preparationTask ≠ .sending owner := by
      rw [htask]
      exact fun hx => (by cases hx)
    refine ⟨l, h.prepares (fun other hother => ?_) (fun other canceled hother => ?_)
      fun other canceled hother => absurd hother (not_thrown_of_owner ho other canceled)⟩
    · obtain rfl := Option.some.inj (hnext.symm.trans hother)
      exact ⟨ho, fun _ => h.preparing owner ho hsending⟩
    · rw [hother] at hnext
      cases hnext
  | tries owner n ho hearly => exact h.tryNext ho (not_sending_of_left hearly owner) n
  | allocated owner left stream htask => exact ⟨_, h.audioAllocated htask stream⟩
  | throws owner canceled uncertain ho hearly =>
    refine (h.throws ho canceled).markIf uncertain (fun _ _ _ ht => ht owner canceled rfl)
      fun endpoint ha => h.stops_of_owner ho ?_
    rw [show s.allocationTask = _ from ha]
    rfl
  | sends owner sends htask => exact ⟨l, h.sendStart (by rw [htask]; rfl) sends⟩
  | ends hcomplete hpending hcaught =>
    exact ⟨l, h.prepares (fun other hx => (by cases hx)) (fun other c hx => (by cases hx))
      fun other c hx => h.caught hx (hcaught other c hx)⟩
  | stops owner canceled htask =>
    exact ⟨l, h.stop.prepares (fun other hx => (by cases hx)) (fun other c hx => (by cases hx))
      fun _ _ _ => stop_sessionCancellation h⟩

/-! ### The start of a session -/

/-- While a session is being started, or is cleaned up, there is no other. -/
theorem no_session (hsession : s.session = none)
    (hstop : ∀ pc, s.stopTask = some pc → pc.openSession = none)
    (hcleaning : ∀ x, s.starting ≠ .cleaning x) : s.openSession = none := by
  rw [openSession_eq hcleaning, hsession]
  cases hpc : s.stopTask with
  | none => rfl
  | some pc => exact hstop pc hpc

/-- While a session is asked for, the books have none. -/
theorem Inv.session_none {owner : ℕ} (h : Inv l s) (hcalling : s.starting = .calling owner) :
    l.session = none := by
  obtain ⟨-, hnone, hstop⟩ := h.starts (by rw [hcalling]; rfl)
  rw [h.session]
  exact no_session hnone hstop (fun x hx => (by rw [hcalling] at hx; cases hx))

/-- **A session comes too late**, and is closed. -/
theorem Inv.startedLate {owner : ℕ} (h : Inv l s) (hcalling : s.starting = .calling owner)
    (hlate : s.sessionCancellation ≠ some owner ∨ s.canceled owner = true) (x : UInt64) :
    Inv { l with session := some (x, true) }
      { (s.note (.started x)).note (.close x) with starting := .cleaning x } := by
  have hr : s.starting.runs = true := by rw [hcalling]; rfl
  have hnone : s.sessionCancellation = none := by
    rcases h.calling owner hcalling with hnone | hsome
    · exact hnone
    · rcases hlate with hother | hcanceled
      · exact absurd hsome hother
      · rw [(h.live owner hsome).1] at hcanceled
        cases hcanceled
  exact { h with
    books := run_note (l := { l with session := some (x, false) })
      (run_note h.books (if_pos (h.session_none hcalling))) (if_pos rfl)
    session := rfl
    starts := fun _ => h.starts hr
    draining := fun _ => h.draining (by rw [hcalling]; exact fun hx => (by cases hx))
    calling := fun other hx => (by cases hx)
    cleaning := fun _ _ => hnone
    calm := fun hc => absurd hnone hc
    settled := fun hs => (by rw [(h.settled hs).starting] at hr; cases hr) }

/-- **A session is there** when it is wanted. -/
theorem Inv.startedInTime {owner : ℕ} (h : Inv l s) (hcalling : s.starting = .calling owner)
    (hcurrent : s.sessionCancellation = some owner) (x : UInt64) :
    Inv { l with session := some (x, false) } { s.note (.started x) with
      starting := .ended .returned
      session := some x
      signalTask := .runs
      privacyTask := .runs } := by
  have hr : s.starting.runs = true := by rw [hcalling]; rfl
  have hsome : s.sessionCancellation ≠ none := by
    rw [hcurrent]
    exact Option.some_ne_none owner
  exact { h with
    books := run_note h.books (if_pos (h.session_none hcalling))
    session := rfl
    preparation := fun other ho => by
      obtain ⟨-, -, -, hstart, -, -⟩ := h.preparation other ho
      rw [(h.starts hr).1] at hstart
      cases hstart
    starts := fun hx => (by cases hx)
    draining := fun _ => h.draining (by rw [hcalling]; exact fun hx => (by cases hx))
    calling := fun other hx => (by cases hx)
    cleaning := fun y hx => (by cases hx)
    opened := fun _ => .inl hsome
    signals := fun _ => .inl hsome
    privacy := fun _ => ⟨.inl hsome, fun _ => Option.some_ne_none x⟩
    calm := fun _ hx => (by cases hx)
    settled := fun hs => (by rw [(h.settled hs).starting] at hr; cases hr) }

/-- **A start is over**, without a session: it failed, or has closed its session. -/
theorem Inv.startEnds {ending : Ending} {log : List Event} (h : Inv l s)
    (hr : s.starting.runs = true)
    (hbooks : ledger.run ledger.start log = some { l with session := none })
    (hbad : ending = .failed ∨ ending = .canceled ∨ s.sessionCancellation = none) :
    Inv { l with session := none } { s with log := log, starting := .ended ending } := by
  obtain ⟨htask, hnone, hstop⟩ := h.starts hr
  have hsession : State.openSession { s with log := log, starting := .ended ending } = none :=
    no_session hnone hstop (fun x hx => (by cases hx))
  exact { h with
    books := hbooks
    session := hsession.symm
    starts := fun hx => (by cases hx)
    draining := fun _ => h.draining (fun hx => (by rw [hx] at hr; cases hr))
    calling := fun other hx => (by cases hx)
    cleaning := fun y hx => (by cases hx)
    calm := fun hc _ hf _ => by
      rcases hbad with rfl | rfl | hnone
      · exact absurd ⟨htask, .inl rfl⟩ hf
      · exact absurd ⟨htask, .inr rfl⟩ hf
      · exact absurd hnone hc
    settled := fun hs => (by rw [(h.settled hs).starting] at hr; cases hr) }

/-- Without a session, a start is one that a stop waits for. -/
theorem Inv.stops_of_runs (h : Inv l s) (hr : s.starting.runs = true)
    (hnone : s.sessionCancellation = none) : s.stopTask ≠ none := by
  intro hx
  rcases h.startTask (h.starts hr).1 with hsome | ⟨pc, hpc, -⟩
  · exact hsome hnone
  · rw [hx] at hpc
    cases hpc

/-- A start fails. -/
theorem Inv.startFails {owner : ℕ} {ending : Ending} (h : Inv l s)
    (hcalling : s.starting = .calling owner) (hbad : ending = .failed ∨ ending = .canceled)
    (b : Bool) : ∃ l', Inv l' (State.markIf { s with starting := .ended ending } b) := by
  have hr : s.starting.runs = true := by rw [hcalling]; rfl
  have hbooks : ledger.run ledger.start s.log = some { l with session := none } := by
    rw [h.books, ← h.session_none hcalling]
  have hends := h.startEnds hr hbooks (hbad.imp_right .inl)
  refine hends.markIf b (fun _ _ hf _ => ?_) fun endpoint ha hx => ?_
  · refine hf ⟨(h.starts hr).1, ?_⟩
    rcases hbad with rfl | rfl
    · exact .inl rfl
    · exact .inr rfl
  · exact h.stops_of_runs hr (h.allocation (by rw [show s.allocationTask = _ from ha]; rfl)).1 hx

/-- A session that came too late is closed. -/
theorem Inv.lateClosed {x : UInt64} (h : Inv l s) (hcleaning : s.starting = .cleaning x)
    (ending : Ending) :
    Inv { l with session := none } { s.note (.closed x) with starting := .ended ending } := by
  have hopen : l.session = some (x, true) := by
    rw [h.session, State.openSession, hcleaning]
  exact h.startEnds (by rw [hcleaning]; rfl) (run_note h.books (if_pos hopen))
    (.inr (.inr (h.cleaning x hcleaning)))

/-- A start keeps the invariant. -/
theorem Inv.startingStep (h : Inv l s) {a : Answer} (hst : startingStep s a = some t) :
    ∃ l', Inv l' t := by
  cases startingStep_spec hst with
  | late owner session hstart hlate => exact ⟨_, h.startedLate hstart hlate session⟩
  | started owner session hstart hcurrent => exact ⟨_, h.startedInTime hstart hcurrent session⟩
  | fails owner ending uncertain hstart hbad => exact h.startFails hstart hbad uncertain
  | closed session ending uncertain hstart =>
    have hnone := h.cleaning session hstart
    exact (h.lateClosed hstart ending).markIf uncertain (fun hc => absurd hnone hc)
      fun _ _ => h.stops_of_runs (by rw [hstart]; rfl) hnone

/-! ### The messages of the page -/

/-- Between two messages no session is being started. -/
theorem Inv.starting_idle (h : Inv l s) (hd : s.draining ≠ .starting) : s.starting = .idle := by
  by_contra hne
  exact hd (h.draining hne)

/-- What the messages wait for owns nothing, unless a session is being started. -/
theorem Inv.drains (h : Inv l s) (hidle : s.starting = .idle) (x : Draining) :
    Inv l { s with draining := x } :=
  { h with
    draining := fun hne => absurd hidle hne
    settled := fun hs => { h.settled hs with } }

theorem stop_starting (s : State) (x : Starting) :
    State.stop { s with starting := x } = { s.stop with starting := x } := by
  rcases Option.eq_none_or_eq_some s.stopTask with hs | ⟨pc, hs⟩
  · rw [stop_of_none hs, stop_of_none (s := { s with starting := x }) hs]
    rfl
  · rw [stop_of_some hs, stop_of_some (s := { s with starting := x }) hs]

/-- A stop does not cut a start short: it waits for it. -/
theorem starting_stop (s : State) : s.stop.starting = s.starting := by
  cases hs : s.stopTask with
  | some pc => rw [stop_of_some hs]
  | none => rw [stop_of_none hs]

/-- A message that fails stops the window. -/
theorem Inv.fail (h : Inv l s) (hidle : s.starting = .idle) : Inv l s.fail :=
  h.stop.drains ((starting_stop s).trans hidle) _

/-- That a start has failed is noticed: there is no session any more. -/
theorem Inv.noticed {ending : Ending} (h : Inv l s) (hended : s.starting = .ended ending)
    (hnone : s.sessionCancellation = none) (x : Draining) :
    Inv l { s with starting := .idle, draining := x } := by
  have hsession : s.openSession =
      State.openSession { s with starting := .idle, draining := x } :=
    openSession_eq fun y hy => (by rw [hended] at hy; cases hy)
  exact { h with
    session := h.session.trans hsession
    starts := fun hx => (by cases hx)
    draining := fun hx => absurd rfl hx
    calling := fun owner hx => (by cases hx)
    cleaning := fun y hx => (by cases hx)
    calm := fun hc => absurd hnone hc
    settled := fun hs => { h.settled hs with
      starting := rfl
      session := hsession.symm.trans (h.settled hs).session } }

/-- A failed start is noticed by a stop, which ends the session it was for. -/
theorem Inv.noticedFailed {ending : Ending} (h : Inv l s) (hended : s.starting = .ended ending) :
    Inv l (State.fail { s with starting := .idle }) := by
  unfold State.fail
  rw [stop_starting]
  exact h.stop.noticed ((starting_stop s).trans hended) (stop_sessionCancellation h) _

/-- The microphone is armed, or disarmed. -/
theorem Inv.arms (h : Inv l s) (armed : Bool) : Inv l { s with microphoneArmed := armed } :=
  { h with settled := fun hs => { h.settled hs with } }

/-- That a session was started is noticed. -/
theorem Inv.noticedStarted (h : Inv l s) (hended : s.starting = .ended .returned) :
    Inv l { s with starting := .idle, startTask := false, draining := .idle } := by
  have hsession : s.openSession = State.openSession
      { s with starting := .idle, startTask := false, draining := .idle } :=
    openSession_eq fun y hy => (by rw [hended] at hy; cases hy)
  have hfailed : ¬ s.startFailed := by
    rintro ⟨-, hx | hx⟩
    · rw [hended] at hx
      cases hx
    · rw [hended] at hx
      cases hx
  exact { h with
    session := h.session.trans hsession
    preparation := fun owner ho => by
      obtain ⟨hown, htold, hready, -, hnone, hcurrent⟩ := h.preparation owner ho
      exact ⟨hown, htold, hready, rfl, hnone, hcurrent⟩
    starts := fun hx => (by cases hx)
    draining := fun hx => absurd rfl hx
    calling := fun owner hx => (by cases hx)
    cleaning := fun y hx => (by cases hx)
    startTask := fun hx => (by cases hx)
    calm := fun hc hs _ ht => h.calm hc hs hfailed ht
    settled := fun hs => { h.settled hs with
      starting := rfl
      session := hsession.symm.trans (h.settled hs).session } }

/-- The messages keep the invariant. -/
theorem Inv.drainingStep (h : Inv l s) {a : Answer} (hst : drainingStep s a = some t) :
    Inv l t := by
  have hidle : ∀ owner token, s.draining = .authorizing owner token → s.starting = .idle :=
    fun owner token hd => h.starting_idle (by rw [hd]; exact fun hx => (by cases hx))
  cases drainingStep_spec hst with
  | ends hwaits hstart => exact h.drains (h.starting_idle hstart) .idle
  | fails hwaits hstart => exact h.fail (h.starting_idle hstart)
  | started htask hended => exact h.noticedStarted hended
  | startFails ending htask hended => exact h.noticedFailed hended
  | startStopped ending htask hended hstop => exact h.noticed hended (h.stopping hstop) .idle
  | arms owner htask hcurrent hactive hanswer =>
    exact (h.drains (hidle owner s.token htask) .idle).arms true
  | armsUntold owner token htask hcurrent => exact (h.arms true).fail (hidle owner token htask)

/-- What holds when the page's messages are heeded: the page was told to start, and there is
nothing but the session. -/
structure Heeded (l : Ledger) (s : State) : Prop where
  owner : s.sessionCancellation ≠ none
  idle : s.starting = .idle
  stop : s.stopTask = none
  preparation : s.preparationTask.owner = none
  uncertain : s.session = none → l.uncertain = false

/-- A message with the token of the session comes when the preparation is through: the page has
the token from its last step. -/
theorem Inv.heeded (h : Inv l s) (hd : s.draining = .idle) (hc : s.sessionCancellation ≠ none)
    (htold : s.told = true) : Heeded l s := by
  have hidle := h.starting_idle (by rw [hd]; exact fun hx => (by cases hx))
  refine ⟨hc, hidle, ?_, ?_, fun hsession => h.calm hc hsession (fun hf => ?_) ?_⟩
  · by_contra hstop
    exact hc (h.stopping hstop)
  · cases ho : s.preparationTask.owner with
    | none => rfl
    | some owner =>
      have hnot := (h.preparation owner ho).2.1
      rw [htold] at hnot
      cases hnot
  · rcases hf.2 with hx | hx
    · rw [hidle] at hx
      cases hx
    · rw [hidle] at hx
      cases hx
  · intro owner canceled ht
    have hnot := (h.thrown owner canceled ht).2
    rw [htold] at hnot
    cases hnot

/-- A start that is begun, or fails at once. -/
theorem Inv.startBegins {log : List Event} {x : Starting} (h : Inv l s) (hh : Heeded l s)
    (hsession : s.session = none) (hbooks : ledger.run ledger.start log = some l)
    (hx : x = .ended .failed ∨ x = .ended .canceled ∨
      ∃ owner, x = .calling owner ∧ s.sessionCancellation = some owner) :
    Inv l { s with log := log, startTask := true, draining := .starting, starting := x } := by
  have hcleaning : ∀ y, x ≠ .cleaning y := by
    rintro y rfl
    rcases hx with hx | hx | ⟨owner, hx, -⟩
    · cases hx
    · cases hx
    · cases hx
  have hopen : s.openSession = State.openSession
      { s with log := log, startTask := true, draining := .starting, starting := x } := by
    rw [openSession_eq (fun y hy => (by rw [hh.idle] at hy; cases hy))]
    exact (openSession_eq (s := { s with starting := x }) hcleaning).symm
  exact { h with
    books := hbooks
    session := h.session.trans hopen
    preparation := fun owner ho => (by rw [hh.preparation] at ho; cases ho)
    starts := fun _ => ⟨rfl, hsession, fun pc hpc => (by rw [hh.stop] at hpc; cases hpc)⟩
    draining := fun _ => rfl
    calling := fun other hother => by
      rcases hx with rfl | rfl | ⟨owner, rfl, howner⟩
      · cases hother
      · cases hother
      · obtain rfl := Starting.calling.inj hother
        exact .inr howner
    cleaning := fun y hy => absurd hy (hcleaning y)
    startTask := fun _ => .inl hh.owner
    calm := fun _ _ _ _ => hh.uncertain hsession
    settled := fun hs => absurd (h.settled hs).owner hh.owner }

/-- **A session is started** with the streams that are held. -/
theorem Inv.startSession {owner : ℕ} (h : Inv l s) (hh : Heeded l s)
    (howner : s.sessionCancellation = some owner) (hsession : s.session = none) :
    Inv l (s.startSession owner) := by
  have hopen : l.session = none := by
    rw [h.session, openSession_eq (fun y hy => (by rw [hh.idle] at hy; cases hy)), hsession,
      hh.stop]
    rfl
  have hvideo : ∀ x ∈ l.video, x = ⟨s.selectedEndpoint, s.selectedStream, false⟩ := by
    intro x hx
    rw [h.video] at hx
    obtain ⟨stream, hstream, rfl⟩ := Option.map_eq_some_iff.mp hx
    obtain ⟨hsame, hendpoint, hheld⟩ := h.videoLent hh.owner stream hstream
    rw [hsame, hendpoint, hheld]
  unfold State.startSession
  dsimp only
  split
  · exact h.startBegins hh hsession h.books (.inr (.inl rfl))
  · split
    · split
      · rename_i audio haudio
        have hlent : l.audio = some ⟨s.selectedEndpoint, audio, false⟩ := by
          rw [h.audio, State.audio, haudio,
            h.audioLent hh.owner (by rw [haudio]; exact Option.some_ne_none audio)]
          rfl
        have hlends : l.lends s.selectedEndpoint s.selectedStream (some audio) := by
          refine ⟨hvideo, fun stream hstream => ?_⟩
          rw [← Option.some.inj hstream]
          exact hlent
        exact h.startBegins hh hsession
          (run_note h.books (if_pos ⟨hh.uncertain hsession, hopen, hlends⟩))
          (.inr (.inr ⟨owner, rfl, howner⟩))
      · exact h.startBegins hh hsession h.books (.inl rfl)
    · have hlends : l.lends s.selectedEndpoint s.selectedStream none :=
        ⟨hvideo, fun stream hstream => (by cases hstream)⟩
      exact h.startBegins hh hsession
        (run_note h.books (if_pos ⟨hh.uncertain hsession, hopen, hlends⟩))
        (.inr (.inr ⟨owner, rfl, howner⟩))

/-- **A message keeps the invariant**: an offer starts the session, and no other asks the camera
for anything that is owned. -/
theorem Inv.received {owner : ℕ} (h : Inv l s) (hh : Heeded l s)
    (howner : s.sessionCancellation = some owner) (report : Option Receiver.Report) :
    Inv l (received s owner report) := by
  have hfail := h.fail hh.idle
  unfold CameraReceiverWindow.received
  split
  · split
    · exact hfail
    · rename_i hno
      exact h.startSession hh howner (not_not.mp (not_or.mp hno).1)
  · split
    · exact hfail
    · exact h.drains hh.idle _
  · exact h
  · exact hfail
  · exact hfail
  · split
    · exact hfail
    · split
      · exact h.arms false
      · exact h
  · split
    · exact hfail
    · exact h.drains hh.idle _
  · exact h.arms false
  · split
    · exact hfail
    · exact h
  · exact hfail
  · exact hfail
  · exact hfail

/-! ### The stages of a stop -/

/-- What a stop has waited for, or seen to, when it has come further than a stage. -/
def State.done (s : State) : ℕ → Prop
  | 0 => s.preparationTask.owner = none ∧ s.session = none
  | 1 => s.allocationTask.runs = false
  | 2 => s.startTask = false
  | 3 => s.signalTask ≠ .runs
  | 4 => s.privacyTask ≠ .runs
  | 6 => s.ownedAudio ≠ none → s.audioReleaseAttempted = true
  | _ => True

/-- A stop that has come further than a stage is not within it. -/
theorem Inv.not_within {pc : Stopping} (h : Inv l s) (hpc : s.stopTask = some pc) {n : ℕ}
    (hn : n < pc.rank) : ¬ s.within n := by
  rintro (hc | ⟨pc', hpc', hle⟩)
  · exact hc (h.owner_none hpc)
  · obtain rfl := Option.some.inj (hpc.symm.trans hpc')
    exact absurd hle (Nat.not_le.mpr hn)

/-- **What a stop has passed is done.** -/
theorem Inv.done {pc : Stopping} (h : Inv l s) (hpc : s.stopTask = some pc) :
    ∀ n, n < pc.rank → s.done n := by
  intro n hn
  have hno := h.not_within hpc hn
  -- One case for each stage that waits; the others have nothing to pass.
  match n with
  | 0 =>
    refine ⟨?_, not_not.mp fun hs => hno (h.opened hs)⟩
    cases ho : s.preparationTask.owner with
    | none => rfl
    | some owner =>
      obtain ⟨-, -, -, -, -, hcurrent⟩ := h.preparation owner ho
      rcases hcurrent with hsome | ⟨-, hfirst⟩
      · exact absurd (.inl (by rw [hsome]; exact Option.some_ne_none owner)) hno
      · exact absurd (.inr ⟨_, hfirst, Nat.le_refl 0⟩) hno
  | 1 =>
    refine Bool.eq_false_iff.mpr fun hr => hno (.inr ⟨pc, hpc, (h.allocation hr).2.2 pc hpc⟩)
  | 2 => exact Bool.eq_false_iff.mpr fun ht => hno (h.startTask ht)
  | 3 => exact fun hr => hno (h.signals hr)
  | 4 => exact fun hr => hno (h.privacy hr).1
  | 5 => trivial
  | 6 => exact fun ho => Bool.not_eq_false _ |>.mp fun ha => hno (h.audioHeld ho ha)
  | n + 7 => trivial

/-- What the invariant says of the tasks a stop waits for. -/
structure Waits (s : State) : Prop where
  allocation : s.allocationTask.runs = true → ∀ pc, s.stopTask = some pc → pc.rank ≤ 1
  preparation : s.preparationTask.owner ≠ none → s.stopTask = some .preparation
  startTask : s.startTask = true → s.within 2
  opened : s.session ≠ none → s.within 0
  signals : s.signalTask = .runs → s.within 3
  privacy : s.privacyTask = .runs → s.within 4
  audioHeld : s.ownedAudio ≠ none → s.audioReleaseAttempted = false → s.within 6

/-- What is not done, a stop has not passed. -/
theorem within_of_not_done {pc : Stopping} (hpc : s.stopTask = some pc)
    (hdone : ∀ n, n < pc.rank → s.done n) {n : ℕ} (hn : ¬ s.done n) : s.within n :=
  .inr ⟨pc, hpc, Nat.not_lt.mp fun hlt => hn (hdone n hlt)⟩

/-- **A stop may go on** when what it waits for is done. -/
theorem waits_of_done {pc : Stopping} (hpc : s.stopTask = some pc)
    (hdone : ∀ n, n < pc.rank → s.done n) : Waits s where
  allocation := fun hr pc' hpc' => by
    obtain rfl := Option.some.inj (hpc.symm.trans hpc')
    refine Nat.not_lt.mp fun hlt => ?_
    have hnot : s.allocationTask.runs = false := hdone 1 hlt
    rw [hnot] at hr
    cases hr
  preparation := fun ho => by
    have hfirst : pc.rank ≤ 0 := Nat.not_lt.mp fun hlt => ho (hdone 0 hlt).1
    rw [hpc]
    cases pc with
    | preparation => rfl
    | _ => exact absurd hfirst (Nat.not_succ_le_zero _)
  startTask := fun ht => within_of_not_done hpc hdone fun hd => by
    have hnot : s.startTask = false := hd
    rw [hnot] at ht
    cases ht
  opened := fun hs => within_of_not_done hpc hdone fun hd => hs hd.2
  signals := fun hr => within_of_not_done hpc hdone fun hd => hd hr
  privacy := fun hr => within_of_not_done hpc hdone fun hd => hd hr
  audioHeld := fun ho ha => within_of_not_done hpc hdone fun hd => by
    rw [hd ho] at ha
    cases ha

/-- What is done between two stages. -/
theorem done_of_stage {pc : Stopping} {n : ℕ} (hdone : ∀ m, m < pc.rank → s.done m)
    (hstage : ∀ m, pc.rank ≤ m → m < n → s.done m) : ∀ m, m < n → s.done m := by
  intro m hm
  by_cases hlt : m < pc.rank
  · exact hdone m hlt
  · exact hstage m (Nat.not_lt.mp hlt) hm

/-- A stop that has waited for the start has no session coming. -/
theorem Inv.starting_done {pc : Stopping} (h : Inv l s) (hpc : s.stopTask = some pc)
    (hrank : 2 < pc.rank) : s.starting.runs = false := by
  refine Bool.eq_false_iff.mpr fun hr => ?_
  have hnot : s.startTask = false := h.done hpc 2 hrank
  rw [(h.starts hr).1] at hnot
  cases hnot

/-- A start that does not run cleans up no session. -/
theorem not_cleaning (hr : s.starting.runs = false) (x : UInt64) : s.starting ≠ .cleaning x := by
  intro hx
  rw [hx] at hr
  cases hr

/-- The numbers stay while a stop goes on. -/
theorem Inv.numbers_moved {pc pc' : Stopping} (h : Inv l s) (hpc : s.stopTask = some pc)
    (hne : pc ≠ .ended) (hne' : pc' ≠ .ended) :
    s.stopsOver ≤ s.stops ∧ s.stops ≤ s.stopsOver + 1 ∧
      (s.stops = s.stopsOver ↔ some pc' = none ∨ some pc' = some .ended) := by
  obtain ⟨hle, hge, hiff⟩ := h.numbers
  refine ⟨hle, hge, ⟨fun heq => ?_, fun hx => ?_⟩⟩
  · rcases hiff.mp heq with hx | hx
    · rw [hpc] at hx
      cases hx
    · rw [hpc] at hx
      exact absurd (Option.some.inj hx) hne
  · rcases hx with hx | hx
    · cases hx
    · exact absurd (Option.some.inj hx) hne'

/-- **A stop goes on**, and asks for nothing. -/
theorem Inv.advances {pc pc' : Stopping} (h : Inv l s) (hpc : s.stopTask = some pc)
    (hpc' : pc ≠ .ended ∧ pc ≠ .audioRelease ∧ pc ≠ .videoRelease)
    (hrank : pc'.rank ≤ 8 ∧ pc'.rank ≠ 7)
    (hopen : pc'.openSession = pc.openSession)
    (hstage : ∀ n, pc.rank ≤ n → n < pc'.rank → s.done n) :
    Inv l { s with stopTask := some pc' } := by
  have hwaits : Waits { s with stopTask := some pc' } :=
    waits_of_done rfl (done_of_stage (h.done hpc) hstage)
  have hnone : s.sessionCancellation = none := h.owner_none hpc
  have hsession : s.openSession = State.openSession { s with stopTask := some pc' } := by
    unfold State.openSession
    rw [hpc]
    show (match s.starting with | .cleaning session => some (session, true) | _ => _) = _
    rw [show (some pc).bind Stopping.openSession = (some pc').bind Stopping.openSession from
      hopen.symm]
  have haudio : pc' ≠ .audioRelease := by
    rintro rfl
    exact hrank.2 rfl
  have hvideo : pc' ≠ .videoRelease := by
    rintro rfl
    exact absurd hrank.1 (by decide)
  have hended : pc' ≠ .ended := by
    rintro rfl
    exact absurd hrank.1 (by decide)
  exact { h with
    session := h.session.trans hsession
    videoAsked := fun ho ha => .inl ((h.videoAsked ho ha).resolve_right fun hx =>
      hpc'.2.2 (Option.some.inj (hpc.symm.trans hx)))
    audioAsked := fun ho ha => .inl ((h.audioAsked ho ha).resolve_right fun hx =>
      hpc'.2.1 (Option.some.inj (hpc.symm.trans hx)))
    videoHeld := fun pc'' hx hlate => by
      obtain rfl := Option.some.inj hx
      exact absurd (hlate.trans hrank.1) (by decide)
    audioHeld := hwaits.audioHeld
    videoReleasing := fun hx => absurd (Option.some.inj hx) hvideo
    audioReleasing := fun hx => absurd (Option.some.inj hx) haudio
    stopping := fun _ => hnone
    allocation := fun hr => ⟨hnone, (h.allocation hr).2.1, hwaits.allocation hr⟩
    preparation := fun owner ho => by
      obtain ⟨hown, htold, hready, hstart, hsession, hcurrent⟩ := h.preparation owner ho
      refine ⟨hown, htold, hready, hstart, hsession, hcurrent.imp_right fun hx => ⟨hx.1, ?_⟩⟩
      exact hwaits.preparation (by rw [show _ = some owner from ho]; exact Option.some_ne_none _)
    starts := fun hr => by
      obtain ⟨htask, hnone, hstop⟩ := h.starts hr
      refine ⟨htask, hnone, fun pc'' hx => ?_⟩
      obtain rfl := Option.some.inj hx
      exact hopen.trans (hstop pc hpc)
    startTask := hwaits.startTask
    opened := hwaits.opened
    signals := hwaits.signals
    privacy := fun hr => ⟨hwaits.privacy hr, (h.privacy hr).2⟩
    allocating := fun endpoint _ hx => (by cases hx)
    numbers := h.numbers_moved hpc hpc'.1 hended
    settled := fun hs => { h.settled hs with
      session := hsession.symm.trans (h.settled hs).session
      release := ⟨fun hx => haudio (Option.some.inj hx), fun hx => hvideo (Option.some.inj hx)⟩ } }

/-- **A stop takes the session over**, when the preparation is complete. -/
theorem Inv.takesOver (h : Inv l s) (hpc : s.stopTask = some .preparation)
    (ho : s.preparationTask.owner = none) (ready : Bool) :
    Inv l { s with
      stopTask := some (.allocation s.session)
      session := none
      ready := ready } := by
  have hnone : s.sessionCancellation = none := h.owner_none hpc
  have hdone : ∀ n, n < 1 → State.done { s with session := none } n := by
    intro n hn
    obtain rfl := Nat.lt_one_iff.mp hn
    exact ⟨ho, rfl⟩
  have hwaits : Waits { s with stopTask := some (.allocation s.session), session := none } :=
    waits_of_done rfl hdone
  have hsession : s.openSession = State.openSession
      { s with stopTask := some (.allocation s.session), session := none } := by
    unfold State.openSession
    rw [hpc]
    cases s.starting with
    | cleaning x => rfl
    | idle | calling owner | ended ending =>
      cases s.session with
      | none => rfl
      | some x => rfl
  exact { h with
    session := h.session.trans hsession
    videoAsked := fun hs ha => .inl ((h.videoAsked hs ha).resolve_right fun hx =>
      (by rw [hpc] at hx; cases hx))
    audioAsked := fun hs ha => .inl ((h.audioAsked hs ha).resolve_right fun hx =>
      (by rw [hpc] at hx; cases hx))
    videoHeld := fun pc hx hlate => by
      obtain rfl := Option.some.inj hx
      exact absurd hlate (show ¬ 9 ≤ 1 by decide)
    audioHeld := hwaits.audioHeld
    videoReleasing := fun hx => (by cases hx)
    audioReleasing := fun hx => (by cases hx)
    stopping := fun _ => hnone
    allocation := fun hr => ⟨hnone, (h.allocation hr).2.1, hwaits.allocation hr⟩
    preparation := fun owner hx => (by rw [ho] at hx; cases hx)
    starts := fun hr => by
      obtain ⟨htask, hs, -⟩ := h.starts hr
      refine ⟨htask, rfl, fun pc hx => ?_⟩
      obtain rfl := Option.some.inj hx
      rw [hs]
      rfl
    startTask := hwaits.startTask
    opened := fun hx => absurd rfl hx
    signals := hwaits.signals
    privacy := fun hr => ⟨hwaits.privacy hr, fun hc => absurd hnone hc⟩
    calm := fun hc => absurd hnone hc
    allocating := fun endpoint _ hx => (by cases hx)
    numbers := h.numbers_moved hpc (fun hx => (by cases hx)) (fun hx => (by cases hx))
    settled := fun hs => { h.settled hs with
      session := hsession.symm.trans (h.settled hs).session
      release := ⟨fun hx => (by cases hx), fun hx => (by cases hx)⟩ } }

/-- The start has been waited for. -/
theorem Inv.startAwaited (h : Inv l s) (hnone : s.sessionCancellation = none)
    (hr : s.starting.runs = false) : Inv l { s with startTask := false } :=
  { h with
    preparation := fun owner ho => by
      obtain ⟨hown, htold, hready, -, hsession, hcurrent⟩ := h.preparation owner ho
      exact ⟨hown, htold, hready, rfl, hsession, hcurrent⟩
    starts := fun hx => (by rw [show s.starting.runs = _ from hx] at hr; cases hr)
    startTask := fun hx => (by cases hx)
    calm := fun hc => absurd hnone hc
    settled := fun hs => { h.settled hs with } }

/-- The signals have been waited for. -/
theorem Inv.signalsAwaited (h : Inv l s) : Inv l { s with signalTask := .idle } :=
  { h with
    signals := fun hx => (by cases hx)
    settled := fun hs => { h.settled hs with } }

/-- The privacy monitor has been waited for. -/
theorem Inv.privacyAwaited (h : Inv l s) : Inv l { s with privacyTask := .idle } :=
  { h with
    privacy := fun hx => (by cases hx)
    settled := fun hs => { h.settled hs with } }

/-- **The half of the invariant that is about what is owned**, while a stop gives it back. -/
structure Owns (l : Ledger) (s : State) (pc : Stopping) : Prop where
  books : ledger.run ledger.start s.log = some l
  video : l.video = s.video
  audio : l.audio = s.audio
  session : l.session = pc.openSession
  uncertain : l.uncertain = true → s.ownershipUncertain = true
  videoAsked : s.ownedStream ≠ none → s.deallocationAttempted = true →
    l.uncertain = true ∨ pc = .videoRelease
  audioAsked : s.ownedAudio ≠ none → s.audioReleaseAttempted = true →
    l.uncertain = true ∨ pc = .audioRelease
  videoHeld : 9 ≤ pc.rank → s.ownedStream ≠ none → s.deallocationAttempted = true
  audioHeld : 6 < pc.rank → s.ownedAudio ≠ none → s.audioReleaseAttempted = true
  videoReleasing : pc = .videoRelease → s.ownedStream ≠ none ∧ s.deallocationAttempted = true
  audioReleasing : pc = .audioRelease → s.ownedAudio ≠ none ∧ s.audioReleaseAttempted = true

/-- What is owned while a stop gives it back. -/
theorem Inv.owns {pc : Stopping} (h : Inv l s) (hpc : s.stopTask = some pc)
    (hrank : 4 ≤ pc.rank) : Owns l s pc where
  books := h.books
  video := h.video
  audio := h.audio
  session := by
    have hstarting := h.starting_done hpc (Nat.lt_of_lt_of_le (by decide) hrank)
    rw [h.session, openSession_eq (not_cleaning hstarting),
      (h.done hpc 0 (Nat.lt_of_lt_of_le (by decide) hrank)).2, hpc]
    rfl
  uncertain := h.uncertain
  videoAsked := fun ho ha => (h.videoAsked ho ha).imp_right fun hx =>
    Option.some.inj (hpc.symm.trans hx)
  audioAsked := fun ho ha => (h.audioAsked ho ha).imp_right fun hx =>
    Option.some.inj (hpc.symm.trans hx)
  videoHeld := h.videoHeld pc hpc
  audioHeld := h.done hpc 6
  videoReleasing := fun hx => h.videoReleasing (by rw [hpc, hx])
  audioReleasing := fun hx => h.audioReleasing (by rw [hpc, hx])

/-- **A stop that has waited for everything** changes nothing but what is owned. -/
theorem Inv.late {l' : Ledger} {pc pc' : Stopping} (h : Inv l s) (hpc : s.stopTask = some pc)
    (hrank : 4 ≤ pc.rank) (hprivacy : t.privacyTask ≠ .runs) (hpc' : t.stopTask = some pc')
    (howns : Owns l' t pc')
    (ht : t = { s with
      privacyTask := t.privacyTask
      stopTask := t.stopTask
      stopsOver := t.stopsOver
      ownedStream := t.ownedStream
      deallocationAttempted := t.deallocationAttempted
      ownershipUncertain := t.ownershipUncertain
      ownedAudio := t.ownedAudio
      audioReleaseAttempted := t.audioReleaseAttempted
      log := t.log })
    (hnumbers : t.stopsOver ≤ t.stops ∧ t.stops ≤ t.stopsOver + 1 ∧
      (t.stops = t.stopsOver ↔ t.stopTask = none ∨ t.stopTask = some .ended))
    (hsettled : t.stopped → l'.session = none ∧
      (t.ownedStream ≠ none → t.deallocationAttempted = true) ∧
      (t.ownedAudio ≠ none → t.audioReleaseAttempted = true) ∧
      pc' ≠ .audioRelease ∧ pc' ≠ .videoRelease) : Inv l' t := by
  have hnone : s.sessionCancellation = none := h.owner_none hpc
  -- All the tasks that the fields below speak of have been waited for.
  have hpast : ∀ n, n < 4 → s.done n := fun n hn => h.done hpc n (hn.trans_le hrank)
  obtain ⟨hprep, hsession⟩ := hpast 0 (by decide)
  have hallocation : s.allocationTask.runs = false := hpast 1 (by decide)
  have htask : s.startTask = false := hpast 2 (by decide)
  have hsignals : s.signalTask ≠ .runs := hpast 3 (by decide)
  have hstarting := h.starting_done hpc (Nat.lt_of_lt_of_le (by decide) hrank)
  have hopen : l'.session = t.openSession := by
    have hstarting' : t.starting.runs = false := by rw [ht]; exact hstarting
    have hsession' : t.session = none := by rw [ht]; exact hsession
    rw [howns.session, openSession_eq (not_cleaning hstarting'), hsession', hpc']
    rfl
  rw [ht]
  rw [ht] at hopen
  exact { h with
    books := howns.books
    video := howns.video.trans (by rw [ht])
    audio := howns.audio.trans (by rw [ht])
    session := hopen
    uncertain := howns.uncertain
    videoAsked := fun ho ha =>
      (howns.videoAsked ho ha).imp_right fun hx => (by rw [← hx]; exact hpc')
    audioAsked := fun ho ha =>
      (howns.audioAsked ho ha).imp_right fun hx => (by rw [← hx]; exact hpc')
    videoHeld := fun pc hx => by
      obtain rfl := Option.some.inj (hpc'.symm.trans hx)
      exact howns.videoHeld
    audioHeld := fun ho ha => by
      refine .inr ⟨pc', hpc', Nat.not_lt.mp fun hlt => ?_⟩
      rw [howns.audioHeld hlt ho] at ha
      cases ha
    videoReleasing := fun hx => howns.videoReleasing (Option.some.inj (hpc'.symm.trans hx))
    audioReleasing := fun hx => howns.audioReleasing (Option.some.inj (hpc'.symm.trans hx))
    videoLent := fun hc => absurd hnone hc
    audioLent := fun hc => absurd hnone hc
    stopping := fun _ => hnone
    allocation := fun hr => (by rw [show _ = true from hr] at hallocation; cases hallocation)
    preparation := fun owner ho => (by rw [show _ = some owner from ho] at hprep; cases hprep)
    preparing := fun owner ho => (by rw [show _ = some owner from ho] at hprep; cases hprep)
    starts := fun hr => (by rw [show _ = true from hr] at hstarting; cases hstarting)
    startTask := fun hx => (by rw [show _ = true from hx] at htask; cases htask)
    opened := fun hx => absurd hsession hx
    signals := fun hx => absurd hx hsignals
    privacy := fun hx => absurd hx hprivacy
    calm := fun hc => absurd hnone hc
    allocating := fun endpoint ha => (by rw [show _ = _ from ha] at hallocation; cases hallocation)
    numbers := (by rw [ht] at hnumbers; exact hnumbers)
    settled := fun hs => by
      obtain ⟨hclosed, hvideo, haudio, ha, hv⟩ := hsettled (by rw [ht]; exact hs)
      exact {
        owner := hnone
        allocation := hallocation
        preparation := hprep
        starting := hstarting
        session := hopen.symm.trans hclosed
        video := hvideo
        audio := haudio
        release := ⟨fun hx => ha (Option.some.inj (hpc'.symm.trans hx)),
          fun hx => hv (Option.some.inj (hpc'.symm.trans hx))⟩ } }

/-- The end of the session is asked for. -/
theorem Inv.closes {x : UInt64} (h : Inv l s) (hpc : s.stopTask = some (.privacy (some x))) :
    Inv { l with session := some (x, true) } { s.note (.close x) with
      stopTask := some (.session x)
      privacyTask := .idle } := by
  have howns := h.owns hpc (Nat.le_refl 4)
  refine h.late hpc (Nat.le_refl 4) (fun hx => (by cases hx)) rfl { howns with
    books := run_note howns.books (if_pos howns.session)
    session := rfl
    videoAsked := fun ho ha => .inl ((howns.videoAsked ho ha).resolve_right fun hx => (by cases hx))
    audioAsked := fun ho ha => .inl ((howns.audioAsked ho ha).resolve_right fun hx => (by cases hx))
    videoHeld := fun hx => absurd hx (show ¬ 9 ≤ 5 by decide)
    audioHeld := fun hx => absurd hx (show ¬ 6 < 5 by decide)
    videoReleasing := fun hx => (by cases hx)
    audioReleasing := fun hx => (by cases hx) } rfl
    (h.numbers_moved hpc (fun hx => (by cases hx)) (fun hx => (by cases hx))) fun hs => ?_
  have hclosed : l.session = none := h.session.trans (h.settled hs).session
  rw [howns.session] at hclosed
  cases hclosed

/-- The session is closed, or nothing is known of its end. -/
theorem Inv.closed_session {x : UInt64} (h : Inv l s) (hpc : s.stopTask = some (.session x))
    (b : Bool) :
    ∃ l', Inv l' (State.markIf { s.note (.closed x) with stopTask := some .audio } b) := by
  have hrank : 4 ≤ (Stopping.session x).rank := show 4 ≤ 5 by decide
  have howns := h.owns hpc hrank
  have hnone : s.sessionCancellation = none := h.owner_none hpc
  have hinv : Inv { l with session := none }
      { s.note (.closed x) with stopTask := some .audio } := by
    refine h.late hpc hrank (h.done hpc 4 (Nat.le_refl 5)) rfl { howns with
      books := run_note howns.books (if_pos howns.session)
      session := rfl
      videoAsked := fun ho ha => .inl ((howns.videoAsked ho ha).resolve_right
        fun hx => (by cases hx))
      audioAsked := fun ho ha => .inl ((howns.audioAsked ho ha).resolve_right
        fun hx => (by cases hx))
      videoHeld := fun hx => absurd hx (show ¬ 9 ≤ 6 by decide)
      audioHeld := fun hx => absurd hx (show ¬ 6 < 6 by decide)
      videoReleasing := fun hx => (by cases hx)
      audioReleasing := fun hx => (by cases hx) } rfl
      (h.numbers_moved hpc (fun hx => (by cases hx)) (fun hx => (by cases hx))) fun hs => ?_
    have hclosed : l.session = none := h.session.trans (h.settled hs).session
    rw [howns.session] at hclosed
    cases hclosed
  exact hinv.markIf b (fun hc => absurd hnone hc) fun _ _ hx => (by cases hx)

/-- **The audio stream is released**, if that was not tried. -/
theorem Inv.releasesAudio {stream : UInt16} (h : Inv l s) (hpc : s.stopTask = some .audio)
    (haudio : s.ownedAudio = some stream) (hheld : s.audioReleaseAttempted = false) :
    Inv (l.hold (some ⟨s.selectedEndpoint, stream, true⟩) .audio)
      { s.note (.release .audio s.selectedEndpoint stream) with
        stopTask := some .audioRelease
        audioReleaseAttempted := true } := by
  have hrank : 4 ≤ Stopping.audio.rank := by decide
  have howns := h.owns hpc hrank
  have hsome : s.ownedAudio ≠ none := by
    rw [haudio]
    exact Option.some_ne_none stream
  have hlent : l.held .audio = some ⟨s.selectedEndpoint, stream, false⟩ := by
    show l.audio = _
    rw [howns.audio, State.audio, haudio, hheld]
    rfl
  refine h.late hpc hrank (h.done hpc 4 (by decide)) rfl { howns with
    books := run_note howns.books (if_pos ⟨hlent, howns.session, fun hx => (by cases hx)⟩)
    audio := by
      show _ = s.ownedAudio.map _
      rw [haudio]
      rfl
    videoAsked := fun ho ha => .inl ((howns.videoAsked ho ha).resolve_right fun hx => (by cases hx))
    audioAsked := fun _ _ => .inr rfl
    videoHeld := fun hx => absurd hx (show ¬ 9 ≤ 7 by decide)
    audioHeld := fun _ _ => rfl
    videoReleasing := fun hx => (by cases hx)
    audioReleasing := fun _ => ⟨hsome, rfl⟩ } rfl
    (h.numbers_moved hpc (fun hx => (by cases hx)) (fun hx => (by cases hx))) fun hs => ?_
  have htried := (h.settled hs).audio hsome
  rw [hheld] at htried
  cases htried

/-- The release that is under way was asked for. -/
theorem Inv.asked_audio (h : Inv l s) (hpc : s.stopTask = some .audioRelease) :
    ∃ x ∈ l.held .audio, x.asked = true := by
  obtain ⟨hsome, htried⟩ := h.audioReleasing hpc
  obtain ⟨stream, hstream⟩ := Option.ne_none_iff_exists'.mp hsome
  refine ⟨⟨s.selectedEndpoint, stream, true⟩, ?_, rfl⟩
  show l.audio = _
  rw [h.audio, State.audio, hstream, htried]
  rfl

theorem Inv.asked_video (h : Inv l s) (hpc : s.stopTask = some .videoRelease) :
    ∃ x ∈ l.held .video, x.asked = true := by
  obtain ⟨hsome, htried⟩ := h.videoReleasing hpc
  obtain ⟨stream, hstream⟩ := Option.ne_none_iff_exists'.mp hsome
  refine ⟨⟨s.ownedStreamEndpoint, stream, true⟩, ?_, rfl⟩
  show l.video = _
  rw [h.video, State.video, hstream, htried]
  rfl

/-- What a stop leaves of the audio stream, once its release was answered. -/
theorem Inv.audioReleased (h : Inv l s) (hpc : s.stopTask = some .audioRelease) :
    Inv (l.hold none .audio) { s.note (.released .audio true) with
      stopTask := some .video
      ownedAudio := none } := by
  have hrank : 4 ≤ Stopping.audioRelease.rank := by decide
  have howns := h.owns hpc hrank
  have hasked : ∃ x ∈ l.held .audio, x.asked = true := h.asked_audio hpc
  refine h.late hpc hrank (h.done hpc 4 (by decide)) rfl { howns with
    books := run_note howns.books (if_pos hasked)
    audio := rfl
    videoAsked := fun ho ha => .inl ((howns.videoAsked ho ha).resolve_right fun hx => (by cases hx))
    audioAsked := fun ho => absurd rfl ho
    videoHeld := fun hx => absurd hx (show ¬ 9 ≤ 8 by decide)
    audioHeld := fun _ ho => absurd rfl ho
    videoReleasing := fun hx => (by cases hx)
    audioReleasing := fun hx => (by cases hx) } rfl
    (h.numbers_moved hpc (fun hx => (by cases hx)) (fun hx => (by cases hx))) fun hs => ?_
  exact absurd hpc (h.settled hs).release.1

/-- **Its release failed**: it stays as it is, and the outcome is uncertain. -/
theorem Inv.audioKept (h : Inv l s) (hpc : s.stopTask = some .audioRelease) :
    Inv { l with uncertain := true } (State.mark { s.note (.released .audio false) with
      stopTask := some .video }) := by
  have hrank : 4 ≤ Stopping.audioRelease.rank := by decide
  have howns := h.owns hpc hrank
  have hasked : ∃ x ∈ l.held .audio, x.asked = true := h.asked_audio hpc
  refine h.late hpc hrank (h.done hpc 4 (by decide)) rfl { howns with
    books := run_note (run_note howns.books (if_pos hasked)) rfl
    uncertain := fun _ => rfl
    videoAsked := fun _ _ => .inl rfl
    audioAsked := fun _ _ => .inl rfl
    videoHeld := fun hx => absurd hx (show ¬ 9 ≤ 8 by decide)
    audioHeld := fun _ _ => (howns.audioReleasing rfl).2
    videoReleasing := fun hx => (by cases hx)
    audioReleasing := fun hx => (by cases hx) } rfl
    (h.numbers_moved hpc (fun hx => (by cases hx)) (fun hx => (by cases hx))) fun hs => ?_
  exact absurd hpc (h.settled hs).release.1

/-- **The video stream is released**, if that was not tried. -/
theorem Inv.releasesVideo {stream : UInt16} (h : Inv l s) (hpc : s.stopTask = some .video)
    (hvideo : s.ownedStream = some stream) (hheld : s.deallocationAttempted = false) :
    Inv (l.hold (some ⟨s.ownedStreamEndpoint, stream, true⟩) .video)
      { s.note (.release .video s.ownedStreamEndpoint stream) with
        stopTask := some .videoRelease
        deallocationAttempted := true } := by
  have hrank : 4 ≤ Stopping.video.rank := by decide
  have howns := h.owns hpc hrank
  have hsome : s.ownedStream ≠ none := by
    rw [hvideo]
    exact Option.some_ne_none stream
  have hlent : l.held .video = some ⟨s.ownedStreamEndpoint, stream, false⟩ := by
    show l.video = _
    rw [howns.video, State.video, hvideo, hheld]
    rfl
  -- The ledger wants the audio stream to be released before.
  have haudio : ∀ x ∈ l.audio, x.asked = true := by
    intro x hx
    rw [howns.audio] at hx
    obtain ⟨audio, haudio, rfl⟩ := Option.map_eq_some_iff.mp hx
    exact howns.audioHeld (by decide) (by rw [haudio]; exact Option.some_ne_none audio)
  refine h.late hpc hrank (h.done hpc 4 (by decide)) rfl { howns with
    books := run_note howns.books (if_pos ⟨hlent, howns.session, fun _ => haudio⟩)
    video := by
      show _ = s.ownedStream.map _
      rw [hvideo]
      rfl
    videoAsked := fun _ _ => .inr rfl
    audioAsked := fun ho ha => .inl ((howns.audioAsked ho ha).resolve_right fun hx => (by cases hx))
    videoHeld := fun _ _ => rfl
    audioHeld := fun _ => howns.audioHeld (by decide)
    videoReleasing := fun _ => ⟨hsome, rfl⟩
    audioReleasing := fun hx => (by cases hx) } rfl
    (h.numbers_moved hpc (fun hx => (by cases hx)) (fun hx => (by cases hx))) fun hs => ?_
  have htried := (h.settled hs).video hsome
  rw [hheld] at htried
  cases htried

/-- The numbers when a stop is over. -/
theorem Inv.numbers_over {pc : Stopping} (h : Inv l s) (hpc : s.stopTask = some pc)
    (hne : pc ≠ .ended) : s.stopsOver + 1 ≤ s.stops ∧ s.stops ≤ s.stopsOver + 1 + 1 ∧
      (s.stops = s.stopsOver + 1 ↔
        some Stopping.ended = none ∨ some Stopping.ended = some .ended) := by
  obtain ⟨hle, hge, hiff⟩ := h.numbers
  have hlt : s.stops ≠ s.stopsOver := by
    intro heq
    rcases hiff.mp heq with hx | hx
    · rw [hpc] at hx
      cases hx
    · rw [hpc] at hx
      exact hne (Option.some.inj hx)
  exact ⟨by omega, by omega, ⟨fun _ => .inr rfl, fun _ => by omega⟩⟩

/-- **A stop is over** when nothing is left to release. -/
theorem Inv.overs (h : Inv l s) (hpc : s.stopTask = some .video)
    (htried : s.ownedStream ≠ none → s.deallocationAttempted = true) :
    Inv l { s with stopTask := some .ended, stopsOver := s.stopsOver + 1 } := by
  have hrank : 4 ≤ Stopping.video.rank := by decide
  have howns := h.owns hpc hrank
  refine h.late hpc hrank (h.done hpc 4 (by decide)) rfl { howns with
    videoAsked := fun ho ha => .inl ((howns.videoAsked ho ha).resolve_right fun hx => (by cases hx))
    audioAsked := fun ho ha => .inl ((howns.audioAsked ho ha).resolve_right fun hx => (by cases hx))
    videoHeld := fun _ => htried
    audioHeld := fun _ => howns.audioHeld (by decide)
    videoReleasing := fun hx => (by cases hx)
    audioReleasing := fun hx => (by cases hx) } rfl
    (h.numbers_over hpc (fun hx => (by cases hx))) fun _ => ?_
  exact ⟨howns.session, htried, howns.audioHeld (by decide), fun hx => (by cases hx),
    fun hx => (by cases hx)⟩

/-- The video stream is released, and the stop over. -/
theorem Inv.videoReleased (h : Inv l s) (hpc : s.stopTask = some .videoRelease) :
    Inv (l.hold none .video) { s.note (.released .video true) with
      stopTask := some .ended
      stopsOver := s.stopsOver + 1
      ownedStream := none } := by
  have hrank : 4 ≤ Stopping.videoRelease.rank := by decide
  have howns := h.owns hpc hrank
  have haudio := howns.audioHeld (by decide)
  have hasked : ∃ x ∈ l.held .video, x.asked = true := h.asked_video hpc
  refine h.late hpc hrank (h.done hpc 4 (by decide)) rfl { howns with
    books := run_note howns.books (if_pos hasked)
    video := rfl
    videoAsked := fun ho => absurd rfl ho
    audioAsked := fun ho ha => .inl ((howns.audioAsked ho ha).resolve_right fun hx => (by cases hx))
    videoHeld := fun _ ho => absurd rfl ho
    audioHeld := fun _ => haudio
    videoReleasing := fun hx => (by cases hx)
    audioReleasing := fun hx => (by cases hx) } rfl
    (h.numbers_over hpc (fun hx => (by cases hx))) fun _ => ?_
  exact ⟨howns.session, fun ho => absurd rfl ho, haudio, fun hx => (by cases hx),
    fun hx => (by cases hx)⟩

/-- Its release failed, and the stop is over. -/
theorem Inv.videoKept (h : Inv l s) (hpc : s.stopTask = some .videoRelease) :
    Inv { l with uncertain := true } (State.mark { s.note (.released .video false) with
      stopTask := some .ended
      stopsOver := s.stopsOver + 1 }) := by
  have hrank : 4 ≤ Stopping.videoRelease.rank := by decide
  have howns := h.owns hpc hrank
  have haudio := howns.audioHeld (by decide)
  have hasked : ∃ x ∈ l.held .video, x.asked = true := h.asked_video hpc
  refine h.late hpc hrank (h.done hpc 4 (by decide)) rfl { howns with
    books := run_note (run_note howns.books (if_pos hasked)) rfl
    uncertain := fun _ => rfl
    videoAsked := fun _ _ => .inl rfl
    audioAsked := fun _ _ => .inl rfl
    videoHeld := fun _ _ => (howns.videoReleasing rfl).2
    audioHeld := fun _ => haudio
    videoReleasing := fun hx => (by cases hx)
    audioReleasing := fun hx => (by cases hx) } rfl
    (h.numbers_over hpc (fun hx => (by cases hx))) fun _ => ?_
  exact ⟨howns.session, fun _ => (howns.videoReleasing rfl).2, haudio, fun hx => (by cases hx),
    fun hx => (by cases hx)⟩

/-- `FinishStopAsync`: there is no stop any more. -/
theorem Inv.finishes (h : Inv l s) (hpc : s.stopTask = some .ended) :
    Inv l { s with stopTask := none } := by
  have hnone : s.sessionCancellation = none := h.owner_none hpc
  have hpast : ∀ n, n < 10 → s.done n := h.done hpc
  obtain ⟨hprep, hsession⟩ := hpast 0 (by decide)
  have hallocation : s.allocationTask.runs = false := hpast 1 (by decide)
  have htask : s.startTask = false := hpast 2 (by decide)
  have hopen : s.openSession = State.openSession { s with stopTask := none } := by
    unfold State.openSession
    rw [hpc]
    rfl
  exact { h with
    session := h.session.trans hopen
    videoAsked := fun ho ha => .inl ((h.videoAsked ho ha).resolve_right fun hx =>
      (by rw [hpc] at hx; cases hx))
    audioAsked := fun ho ha => .inl ((h.audioAsked ho ha).resolve_right fun hx =>
      (by rw [hpc] at hx; cases hx))
    videoHeld := fun pc hx => (by cases hx)
    audioHeld := fun ho ha => by
      have htried : s.ownedAudio ≠ none → s.audioReleaseAttempted = true := hpast 6 (by decide)
      rw [show _ = false from ha] at htried
      exact absurd (htried ho) Bool.false_ne_true
    videoReleasing := fun hx => (by cases hx)
    audioReleasing := fun hx => (by cases hx)
    stopping := fun hx => absurd rfl hx
    allocation := fun hr => (by rw [show _ = true from hr] at hallocation; cases hallocation)
    preparation := fun owner ho => (by rw [show _ = some owner from ho] at hprep; cases hprep)
    starts := fun hr => by
      have hno := h.starting_done hpc (by decide)
      rw [show _ = true from hr] at hno
      cases hno
    startTask := fun hx => (by rw [show _ = true from hx] at htask; cases htask)
    opened := fun hx => absurd hsession hx
    signals := fun hx => absurd hx (hpast 3 (by decide))
    privacy := fun hx => absurd hx (hpast 4 (by decide))
    allocating := fun endpoint ha _ => by
      rw [show _ = Allocating.capabilities endpoint from ha] at hallocation
      cases hallocation
    numbers := by
      obtain ⟨hle, hge, hiff⟩ := h.numbers
      exact ⟨hle, hge, ⟨fun _ => .inl rfl, fun _ => hiff.mpr (.inr hpc)⟩⟩
    settled := fun hs => { h.settled hs with
      session := hopen.symm.trans (h.settled hs).session
      release := ⟨fun hx => (by cases hx), fun hx => (by cases hx)⟩ } }

/-- A stop keeps the invariant. -/
theorem Inv.stoppingStep (h : Inv l s) {a : Answer} (hst : stoppingStep s a = some t) :
    ∃ l', Inv l' t := by
  cases stoppingStep_spec hst with
  | takesOver ready hpc ho => exact ⟨l, h.takesOver hpc ho ready⟩
  | allocationAwaited x hpc hr =>
    refine ⟨l, h.advances hpc ⟨fun hx => (by cases hx), fun hx => (by cases hx),
      fun hx => (by cases hx)⟩ ⟨show 2 ≤ 8 by decide, show 2 ≠ 7 by decide⟩ rfl
      fun n hlow hhigh => ?_⟩
    obtain rfl : n = 1 := Nat.le_antisymm (Nat.le_of_lt_succ hhigh) hlow
    exact hr
  | startAwaited x hpc hr =>
    have hstarting : s.starting.runs = false :=
      Bool.eq_false_iff.mpr fun hruns => hr ⟨(h.starts hruns).1, hruns⟩
    refine ⟨l, (h.startAwaited (h.owner_none hpc) hstarting).advances hpc
      ⟨fun hx => (by cases hx), fun hx => (by cases hx), fun hx => (by cases hx)⟩
      ⟨show 3 ≤ 8 by decide, show 3 ≠ 7 by decide⟩ rfl fun n hlow hhigh => ?_⟩
    obtain rfl : n = 2 := Nat.le_antisymm (Nat.le_of_lt_succ hhigh) hlow
    rfl
  | signalsAwaited x hpc =>
    refine ⟨l, h.signalsAwaited.advances hpc ⟨fun hx => (by cases hx), fun hx => (by cases hx),
      fun hx => (by cases hx)⟩ ⟨show 4 ≤ 8 by decide, show 4 ≠ 7 by decide⟩ rfl
      fun n hlow hhigh => ?_⟩
    obtain rfl : n = 3 := Nat.le_antisymm (Nat.le_of_lt_succ hhigh) hlow
    exact fun hx => (by cases hx)
  | privacyAwaited hpc =>
    refine ⟨l, h.privacyAwaited.advances hpc ⟨fun hx => (by cases hx),
      fun hx => (by cases hx), fun hx => (by cases hx)⟩
      ⟨show 6 ≤ 8 by decide, show 6 ≠ 7 by decide⟩ rfl fun n hlow hhigh => ?_⟩
    have hcases : n = 4 ∨ n = 5 := by
      have hlow : 4 ≤ n := hlow
      have hhigh : n < 6 := hhigh
      omega
    rcases hcases with rfl | rfl
    · exact fun hx => (by cases hx)
    · trivial
  | closes session hpc => exact ⟨_, h.closes hpc⟩
  | closed session uncertain hpc => exact h.closed_session hpc uncertain
  | releasesAudio stream hpc howned huntried => exact ⟨_, h.releasesAudio hpc howned huntried⟩
  | keepsAudio hpc htried =>
    refine ⟨l, h.advances hpc ⟨fun hx => (by cases hx), fun hx => (by cases hx),
      fun hx => (by cases hx)⟩ ⟨show 8 ≤ 8 by decide, show 8 ≠ 7 by decide⟩ rfl
      fun n hlow hhigh => ?_⟩
    have hcases : n = 6 ∨ n = 7 := by
      have hlow : 6 ≤ n := hlow
      have hhigh : n < 8 := hhigh
      omega
    rcases hcases with rfl | rfl
    · exact htried
    · trivial
  | audioReleased hpc => exact ⟨_, h.audioReleased hpc⟩
  | audioKept hpc => exact ⟨_, h.audioKept hpc⟩
  | releasesVideo stream hpc howned huntried => exact ⟨_, h.releasesVideo hpc howned huntried⟩
  | keepsVideo hpc htried => exact ⟨l, h.overs hpc htried⟩
  | videoReleased hpc => exact ⟨_, h.videoReleased hpc⟩
  | videoKept hpc => exact ⟨_, h.videoKept hpc⟩
  | finished hpc => exact ⟨l, h.finishes hpc⟩

/-! ### The events -/

/-- The page is not lost while a preparation is under way. -/
def Steady (s : State) (a : Action) : Prop :=
  a = .navigated false → s.preparationTask.owner = none

/-- The page is there, or is lost when no preparation needs it. -/
theorem Inv.navigated (h : Inv l s) {success : Bool}
    (hsteady : success = false → s.preparationTask.owner = none) :
    Inv l { s with ready := success } :=
  { h with
    preparation := fun owner ho => by
      obtain ⟨hown, htold, -, hstart, hsession, hcurrent⟩ := h.preparation owner ho
      refine ⟨hown, htold, Bool.not_eq_false _ |>.mp fun hlost => ?_, hstart, hsession, hcurrent⟩
      rw [show s.preparationTask.owner = _ from ho] at hsteady
      cases hsteady hlost
    settled := fun hs => { h.settled hs with } }

/-- Leaving the window may stop it, and owns or gives back nothing else. -/
theorem Inv.activates (h : Inv l s) (active sends : Bool) : Inv l (s.activate active sends) := by
  have hwindow : ∀ w m : Bool, Inv l { s with activeWindow := w, microphoneArmed := m } :=
    fun w m => { h with settled := fun hs => { h.settled hs with } }
  unfold State.activate
  split
  · exact hwindow true s.microphoneArmed
  · dsimp only
    split
    · exact (hwindow false false).stop
    · exact hwindow false false

theorem Inv.marked (h : Inv l s) : Inv l { s with ownershipUncertain := true } :=
  { h with
    uncertain := fun _ => rfl
    settled := fun hs => { h.settled hs with } }

/-- The books are certain where the node is. -/
theorem Inv.certain (h : Inv l s) (hnode : s.ownershipUncertain = false) :
    l.uncertain = false := by
  refine Bool.eq_false_iff.mpr fun hl => ?_
  rw [h.uncertain hl] at hnode
  cases hnode

/-- While the window is not being closed, no stop has been waited for. -/
theorem Inv.not_stopped (h : Inv l s) (hclosing : s.closing = false) : ¬ s.stopped := by
  rintro ⟨pc, hpc, -⟩
  rw [h.closing (by rw [hpc]; exact Option.some_ne_none pc)] at hclosing
  cases hclosing

/-- **A click that allocates** finds nothing held and nothing uncertain. -/
theorem Inv.allocates (h : Inv l s) {endpoint : UInt16} (hst : s.allocate endpoint = some t) :
    Inv l t := by
  unfold State.allocate at hst
  split at hst
  · cases hst
  · rename_i hguard
    simp only [not_or, not_not, Bool.not_eq_true] at hguard
    obtain ⟨hnone, htask, hstop, hstream, hnode, hclosing⟩ := hguard
    obtain rfl := Option.some.inj hst
    exact { h with
      allocation := fun _ => ⟨hnone, hstream, fun pc hpc => (by rw [hstop] at hpc; cases hpc)⟩
      allocating := fun _ _ _ => h.certain hnode
      settled := fun hs => absurd hs (h.not_stopped hclosing) }

/-- Without a session and without a stop nothing is under way. -/
theorem Inv.nothing_within (hnone : s.sessionCancellation = none) (hstop : s.stopTask = none)
    (n : ℕ) : ¬ s.within n := by
  rintro (hc | ⟨pc, hpc, -⟩)
  · exact hc hnone
  · rw [hstop] at hpc
    cases hpc

/-- **A session begins** where nothing is left of the last one: its audio stream was released,
since the node would be an uncertain one otherwise. -/
theorem Inv.starts_session (h : Inv l s) {endpoint stream : UInt16} {listening talk : Bool}
    (hst : s.start endpoint stream listening talk = some t) : Inv l t := by
  unfold State.start at hst
  split at hst
  · cases hst
  · rename_i hguard
    split at hst
    · cases hst
    · rename_i hchosen
      simp only [not_or, not_not, Bool.not_eq_true, Bool.not_eq_false] at hguard
      obtain ⟨hready, hclosing, hstop, htask, -, hnode, hnone⟩ := hguard
      obtain rfl := Option.some.inj hst
      have hidle := Inv.nothing_within hnone hstop
      have hcertain := h.certain hnode
      have hsession : s.session = none := not_not.mp fun hs => hidle 0 (h.opened hs)
      have hstart : s.startTask = false := Bool.eq_false_iff.mpr fun ht => hidle 2 (h.startTask ht)
      have hstarting : s.starting.runs = false := by
        refine Bool.eq_false_iff.mpr fun hr => ?_
        rw [(h.starts hr).1] at hstart
        cases hstart
      have hallocation : s.allocationTask.runs = false := by rw [htask]; rfl
      have hsome : some s.owners ≠ none := Option.some_ne_none _
      -- The audio stream of the last session was released, or the node is an uncertain one.
      have haudio : s.ownedAudio = none := by
        by_contra ho
        cases ha : s.audioReleaseAttempted with
        | false => exact hidle 6 (h.audioHeld ho ha)
        | true =>
          rcases h.audioAsked ho ha with hl | hpc
          · rw [hcertain] at hl
            cases hl
          · rw [hstop] at hpc
            cases hpc
      have hvideo : s.ownedStream ≠ none → s.deallocationAttempted = false := by
        intro ho
        refine Bool.eq_false_iff.mpr fun ha => ?_
        rcases h.videoAsked ho ha with hl | hpc
        · rw [hcertain] at hl
          cases hl
        · rw [hstop] at hpc
          cases hpc
      exact { h with
        audio := by
          rw [h.audio]
          show s.ownedAudio.map _ = s.ownedAudio.map _
          rw [haudio]
          rfl
        videoLent := fun _ owned hx => by
          have ho : s.ownedStream ≠ none := by
            rw [show s.ownedStream = _ from hx]
            exact Option.some_ne_none owned
          have hsame := not_or.mp fun hor => hchosen ⟨ho, hor⟩
          have hstream := (show s.ownedStream = some owned from hx).symm.trans
            (not_not.mp hsame.1)
          exact ⟨Option.some.inj hstream, (not_not.mp hsame.2).symm, hvideo ho⟩
        audioLent := fun _ ho => absurd haudio ho
        stopping := fun hx => absurd hstop hx
        live := fun owner ho => by
          obtain rfl := Option.some.inj ho
          exact ⟨h.fresh _ (Nat.le_refl _), rfl⟩
        fresh := fun owner ho => h.fresh owner (Nat.le_of_succ_le ho)
        allocation := fun hr => by
          rw [show _ = true from hr] at hallocation
          cases hallocation
        preparation := fun owner ho => by
          obtain rfl := Option.some.inj ho
          exact ⟨rfl, rfl, hready, hstart, hsession, .inl rfl⟩
        preparing := fun _ _ _ => haudio
        thrown := fun owner canceled hx => (by cases hx)
        calling := fun owner hx => by
          rw [show s.starting = _ from hx] at hstarting
          cases hstarting
        cleaning := fun x hx => absurd hx (not_cleaning hstarting x)
        audioHeld := fun _ _ => .inl hsome
        startTask := fun _ => .inl hsome
        opened := fun _ => .inl hsome
        signals := fun _ => .inl hsome
        privacy := fun hx => absurd (h.privacy hx).1 (hidle 4)
        calm := fun _ _ _ _ => hcertain
        settled := fun hs => absurd hs (h.not_stopped hclosing) }

/-- **When a stop is over nothing is left to be done.** -/
theorem Inv.settled_of_ended (h : Inv l s) (hpc : s.stopTask = some .ended) : s.Settled where
  owner := h.owner_none hpc
  allocation := h.done hpc 1 (by decide)
  preparation := (h.done hpc 0 (by decide)).1
  starting := h.starting_done hpc (by decide)
  session := h.session.symm.trans (h.owns hpc (by decide)).session
  video := h.videoHeld _ hpc (by decide)
  audio := h.done hpc 6 (by decide)
  release := ⟨fun hx => (by rw [hpc] at hx; cases hx), fun hx => (by rw [hpc] at hx; cases hx)⟩

theorem stop_ne_none (s : State) : s.stop.stopTask ≠ none := by
  cases hs : s.stopTask with
  | none =>
    rw [stop_of_none hs]
    exact Option.some_ne_none _
  | some pc =>
    rw [stop_of_some hs, hs]
    exact Option.some_ne_none pc

theorem stop_closing (s : State) : s.stop.closing = s.closing := by
  cases hs : s.stopTask with
  | none => rw [stop_of_none hs]
  | some pc => rw [stop_of_some hs]

theorem stop_closed (s : State) : s.stop.closed = s.closed := by
  cases hs : s.stopTask with
  | none => rw [stop_of_none hs]
  | some pc => rw [stop_of_some hs]

/-- **The end of the window** begins, or finds, a stop and waits for it. -/
theorem Inv.closes_window (h : Inv l s) (hst : s.close = some t) : Inv l t := by
  unfold State.close at hst
  split at hst
  · cases hst
  · rename_i hopen
    obtain rfl := Option.some.inj hst
    have hclosing : Inv l { s with closing := true } :=
      { h with
        closing := fun _ => rfl
        settled := fun hs => { h.settled hs with } }
    have hstop := hclosing.stop
    have hclosed : s.closed = false :=
      Bool.eq_false_iff.mpr fun hx => hopen (by rw [h.closed hx]; exact Option.some_ne_none _)
    exact { hstop with
      closing := fun _ => stop_closing { s with closing := true }
      closed := fun hx => by
        rw [show State.closed _ = _ from stop_closed { s with closing := true }] at hx
        rw [show s.closed = true from hx] at hclosed
        cases hclosed
      settled := fun ⟨pc, hpc, hover⟩ => by
        -- The stop it waits for may be one that is over, and has not been forgotten.
        have hle := hover _ (Option.some.inj hpc).symm
        obtain ⟨hover', -, hiff⟩ := hstop.numbers
        have hended := (hiff.mp (Nat.le_antisymm hle hover')).resolve_left (stop_ne_none _)
        exact { hstop.settled_of_ended hended with } }

/-- The window is closed when the stop it waits for is over, and then nothing is left to
be done. -/
theorem Inv.closed_window (h : Inv l s) {number : ℕ}
    (hclose : s.closeTask = some (.stopping number)) (hover : number ≤ s.stopsOver) :
    Inv l { s with closeTask := some .ended, closed := true } := by
  have hsettled : s.Settled := h.settled ⟨_, hclose, fun other hx => by
    rw [← Closing.stopping.inj hx]
    exact hover⟩
  exact { h with
    closing := fun _ => h.closing (by rw [hclose]; exact Option.some_ne_none _)
    closed := fun _ => rfl
    settled := fun _ => { hsettled with } }

theorem Inv.signalsEnd (h : Inv l s) : Inv l { s with signalTask := .ended } :=
  { h with
    signals := fun hx => (by cases hx)
    settled := fun hs => { h.settled hs with } }

/-- The end of the monitor may leave the outcome uncertain: it runs with a session, or before a
stop has come to it. -/
theorem Inv.privacyEnds (h : Inv l s) (hr : s.privacyTask = .runs) (cleanup : Bool) :
    ∃ l', Inv l' { s.markIf (!cleanup) with privacyTask := .ended } := by
  obtain ⟨hwithin, hsession⟩ := h.privacy hr
  obtain ⟨l', hmarked⟩ := h.markIf (!cleanup) (fun hc hnone => absurd hnone (hsession hc))
    fun endpoint ha hstop => by
      have hnone := (h.allocation (by rw [ha]; rfl)).1
      exact Inv.nothing_within hnone hstop 4 hwithin
  exact ⟨l', { hmarked with
    privacy := fun hx => (by cases hx)
    settled := fun hs => { hmarked.settled hs with } }⟩

/-- **Every step keeps the invariant**, where the page is not lost during a preparation. -/
theorem Inv.step (h : Inv l s) {a : Action} (hsteady : Steady s a) (hst : step s a = some t) :
    ∃ l', Inv l' t := by
  cases a with
  | navigated success =>
    obtain rfl := Option.some.inj hst
    exact ⟨l, h.navigated fun hlost => hsteady (by rw [hlost])⟩
  | activated active sends =>
    obtain rfl := Option.some.inj hst
    exact ⟨l, h.activates active sends⟩
  | markedElsewhere =>
    obtain rfl := Option.some.inj hst
    exact ⟨l, h.marked⟩
  | allocate endpoint => exact ⟨l, h.allocates hst⟩
  | start endpoint stream listening talk => exact ⟨l, h.starts_session hst⟩
  | stop =>
    obtain rfl := Option.some.inj hst
    exact ⟨l, h.stop⟩
  | close => exact ⟨l, h.closes_window hst⟩
  | message token report =>
    unfold CameraReceiverWindow.step at hst
    dsimp only at hst
    split at hst
    · rename_i owner hd howner
      split at hst
      · obtain rfl := Option.some.inj hst
        exact ⟨l, h⟩
      · split at hst
        · rename_i htold
          obtain rfl := Option.some.inj hst
          have hheeded := h.heeded hd (by rw [howner]; exact Option.some_ne_none owner) htold
          exact ⟨l, h.received hheeded howner report⟩
        · cases hst
    · obtain rfl := Option.some.inj hst
      exact ⟨l, h⟩
    · cases hst
  | allocation answer => exact h.allocationStep hst
  | preparation answer => exact h.preparationStep hst
  | starting answer => exact h.startingStep hst
  | draining answer => exact ⟨l, h.drainingStep hst⟩
  | signalsEnd =>
    unfold CameraReceiverWindow.step at hst
    dsimp only at hst
    split at hst
    · obtain rfl := Option.some.inj hst
      exact ⟨l, h.signalsEnd⟩
    · cases hst
  | privacyEnds cleanup =>
    unfold CameraReceiverWindow.step at hst
    dsimp only at hst
    split at hst
    · rename_i hr
      obtain rfl := Option.some.inj hst
      exact h.privacyEnds hr cleanup
    · cases hst
  | stopping answer => exact h.stoppingStep hst
  | closing =>
    unfold CameraReceiverWindow.step at hst
    dsimp only at hst
    split at hst
    · rename_i number hclose
      split at hst
      · rename_i hover
        obtain rfl := Option.some.inj hst
        exact ⟨l, h.closed_window hclose hover⟩
      · cases hst
    · cases hst

/-- **The invariant holds in every run** in which the page is not lost during a preparation. -/
theorem inv_of_reachable {uncertain : Bool}
    (h : (machine uncertain).ReachableWithin Steady s) : ∃ l, Inv l s :=
  h.invariant (P := fun s => ∃ l, Inv l s) ⟨{}, inv_start uncertain⟩
    (fun _ _ _ _ ⟨_, hs⟩ hok hst => hs.step hok hst)

/-- **Settled books**: there is no session, and what is still held is what failed to be
released, so that the outcome is uncertain. -/
def Ledger.Settled (l : Ledger) : Prop :=
  l.session = none ∧ ∀ kind, ∀ x ∈ l.held kind, x.asked = true ∧ l.uncertain = true

/-- Where nothing is left to be done the books are settled. -/
theorem Inv.settled_books (h : Inv l s) (hs : s.Settled) : l.Settled := by
  refine ⟨h.session.trans hs.session, fun kind x hx => ?_⟩
  cases kind with
  | video =>
    obtain ⟨stream, hstream, rfl⟩ := Option.map_eq_some_iff.mp (h.video.symm.trans hx)
    have ho : s.ownedStream ≠ none := by
      rw [hstream]
      exact Option.some_ne_none stream
    have htried := hs.video ho
    exact ⟨htried, (h.videoAsked ho htried).resolve_right hs.release.2⟩
  | audio =>
    obtain ⟨stream, hstream, rfl⟩ := Option.map_eq_some_iff.mp (h.audio.symm.trans hx)
    have ho : s.ownedAudio ≠ none := by
      rw [hstream]
      exact Option.some_ne_none stream
    have htried := hs.audio ho
    exact ⟨htried, (h.audioAsked ho htried).resolve_right hs.release.1⟩

/-- **What the window asks of the camera follows the rules**, in every run in which the page
is not lost during a preparation, and its fields say what it holds. A session uses the video
stream it holds, if it holds one, and no audio stream but the one it holds. When a stop is over,
and when the window is closed, there is no session and nothing is held but what failed to be
released. -/
theorem calls_accounted {uncertain : Bool} (h : (machine uncertain).ReachableWithin Steady s) :
    ∃ l, ledger.run ledger.start s.log = some l ∧ l.video = s.video ∧ l.audio = s.audio ∧
      (l.uncertain = true → s.ownershipUncertain = true) ∧
      (s.stopTask = some .ended ∨ s.closed = true → l.Settled) := by
  obtain ⟨l, hinv⟩ := inv_of_reachable h
  refine ⟨l, hinv.books, hinv.video, hinv.audio, hinv.uncertain, fun hover => ?_⟩
  refine hinv.settled_books ?_
  rcases hover with hended | hclosed
  · exact hinv.settled_of_ended hended
  · exact hinv.settled ⟨_, hinv.closed hclosed, fun number hx => (by cases hx)⟩

end

/-- `Steady`, as a test. -/
def steady (s : State) : Action → Bool
  | .navigated false => s.preparationTask.owner.isNone
  | _ => true

theorem steady_of_test (s : State) (a : Action) (h : steady s a = true) : Steady s a := by
  rintro rfl
  exact Option.isNone_iff_eq_none.mp h

/-- A video stream is allocated, and a session that listens prepared up to its audio stream. -/
def prepared : List Action :=
  [.navigated true, .allocate 1, .allocation .returns, .allocation (.stream 5),
    .allocation .returns, .start 1 5 true false, .preparation .returns, .preparation .returns,
    .preparation .returns, .preparation (.profiles 1)]

/-- All the stages of a stop, where everything succeeds. -/
def stopsWholly (n : ℕ) : List Action := List.replicate n (.stopping .returns)

/-- The session is started, and the window closed. -/
def wholly : List Action :=
  prepared ++ [.preparation (.stream 9), .preparation .returns, .preparation .returns,
    .message 0 (some (.offer [])), .starting (.session 7), .draining .returns, .close,
    .signalsEnd, .privacyEnds true] ++ stopsWholly 10 ++ [.closing]

/-- Everything is asked for and given back once. -/
theorem calls_accounted_wholly :
    ∃ s, (machine false).ReachableWithin Steady s ∧ s.closed = true ∧
      s.log = [.allocate .video, .allocated .video 1 5, .allocate .audio, .allocated .audio 1 9,
        .start 1 5 (some 9), .started 7, .close 7, .closed 7, .release .audio 1 9,
        .released .audio true, .release .video 1 5, .released .video true] ∧
      ∃ l, ledger.run ledger.start s.log = some l ∧ l.Settled := by
  have hrun : ((machine false).runWithin steady (machine false).start wholly).map
      (fun s => (s.closed, s.log)) = some (true, [.allocate .video, .allocated .video 1 5,
        .allocate .audio, .allocated .audio 1 9, .start 1 5 (some 9), .started 7, .close 7,
        .closed 7, .release .audio 1 9, .released .audio true, .release .video 1 5,
        .released .video true]) := by decide
  obtain ⟨s, hs, heq⟩ := Option.map_eq_some_iff.mp hrun
  obtain ⟨hclosed, hlog⟩ := Prod.mk.inj heq
  obtain ⟨l, hbooks, -, -, -, hsettled⟩ :=
    calls_accounted (Machine.ReachableWithin.start.run steady_of_test hs)
  exact ⟨s, Machine.ReachableWithin.start.run steady_of_test hs, hclosed, hlog, l, hbooks,
    hsettled (.inr hclosed)⟩

/-- Where the page is lost while the camera allocates the audio stream, the end of the window
does not wait for it. -/
def forgotten : List Action :=
  prepared ++ [.navigated false, .close] ++ stopsWholly 7 ++ [.closing, .preparation (.stream 9)]

/-- **Then the stream is forgotten**: the window is closed, and has it. -/
theorem audio_forgotten : ∃ s, (machine false).Reachable s ∧ s.closed = true ∧
    s.audio = some ⟨1, 9, false⟩ := by
  have hrun : ((machine false).run (machine false).start forgotten).map
      (fun s => (s.closed, s.audio)) = some (true, some ⟨1, 9, false⟩) := by decide
  obtain ⟨s, hs, heq⟩ := Option.map_eq_some_iff.mp hrun
  obtain ⟨hclosed, haudio⟩ := Prod.mk.inj heq
  exact ⟨s, (machine false).reachable_start.run hs, hclosed, haudio⟩

end CameraReceiverWindow
