import MatterController.Locks
import MatterController.Receiver

/-!
# The microphone is captured only while the button is held

The sample's page captures the local microphone on a press of its talk button,
after the host has authorised that press, and gives it back when the button is
released. In between there are four waits – for the host, for the statistics of
the connection, for the permission of the browser and for the sender –, each of
which can be overtaken by a release, by the end of the session, by the page
being hidden and by further presses. `capture_held` says that none of this lets
a microphone run on: every live track is the one the open session's engine has
captured, for a press that the host has authorised in this session and that
nothing has released since.

The engine is guarded by its generation. A capture that was wanted in an older
generation than the engine's is not active, whatever it was waiting for, and
stops what it gets; so what the invariant has to say of the calls of
`startCapture` concerns the call of the present generation alone (`Guarded`). The
page is guarded by the number of the press, which an authorisation repeats.
-/

namespace Receiver

variable {s t : Page} {e g : ℕ}

/-! ## The invariant -/

/-- **A capture is authorised**: the engine is the open session's, its page is shown,
and the press it was started for was authorised by the host, in this session, and has
not been released. -/
def Authorized (s : Page) (e : ℕ) : Prop :=
  s.peer = some e ∧ s.audioEngine = some e ∧ (s.engines e).closed = false ∧
    (s.engines e).talk = true ∧ s.hidden = false ∧
    s.released < (s.engines e).press ∧ (s.engines e).press ≤ s.captureIntent ∧
    ∃ token, sameToken s.token token = true ∧
      Message.command token (.captureAuthorized (.value (s.engines e).press)) ∈ s.received

/-- **What holds of an engine.** A capture it wants is authorised; a track it has is one
it wants; no call is of a later generation than its own; and the call of its own
generation, while it acquires a track, has nobody else to leave it to. -/
structure Guarded (s : Page) (e : ℕ) : Prop where
  wanted : (s.engines e).captureWanted = true → Authorized s e
  captured : ∀ t, (s.engines e).capture = some t →
    (s.engines e).captureWanted = true ∧ (s.engines e).captureEnabled = true
  fresh : ∀ g, (s.engines e).generation < g → s.calls e g = {}
  acquiring : (s.engines e).captureWanted = true →
    (s.calls e (s.engines e).generation).acquisition ≠ .settled →
      (s.calls e (s.engines e).generation).main = .acquiring ∧ (s.engines e).capture = none

/-- **What holds of the page around the engines**: every live track is captured, the
engine is the peer's, and the intent is a press since the last release. -/
structure Attended (s : Page) : Prop where
  live : ∀ t ∈ s.live, ∃ e, (s.engines e).capture = some t
  audioEngine : ∀ e, s.audioEngine = some e → s.peer = some e
  intent : s.captureIntent ≤ s.captureSequence
  held : s.captureIntent ≠ 0 → s.released < s.captureIntent
  released : s.released ≤ s.captureSequence
  delivered : ∀ m ∈ s.delivery, m ∈ s.received

/-- **The invariant of the microphone.** -/
structure Safe (s : Page) : Prop where
  guarded : ∀ e, Guarded s e
  attended : Attended s

/-- What is left of it while an engine is about to stop its capture. -/
structure Stoppable (s : Page) (e : ℕ) : Prop where
  others : ∀ e', e' ≠ e → Guarded s e'
  fresh : ∀ g, (s.engines e).generation < g → s.calls e g = {}
  attended : Attended s

/-- Whichever engine is about to stop. -/
theorem Safe.stoppable (h : Safe s) (e : ℕ) : Stoppable s e :=
  ⟨fun e' _ => h.guarded e', (h.guarded e).fresh, h.attended⟩

/-- Nothing is captured when the page is loaded. -/
theorem safe_start (b : Browser) : Safe (machine b).start where
  guarded := fun e => ⟨fun h => (by cases h), fun t h => (by cases h), fun g _ => rfl,
    fun h => (by cases h)⟩
  attended := ⟨fun t h => absurd h (Finset.notMem_empty t), fun e h => (by cases h), Nat.le_refl _,
    fun h => absurd rfl h, Nat.le_refl _, fun m h => (by cases h)⟩

/-! ## What changes nothing it depends on -/

/-- What the invariant depends on in an engine. -/
def Engine.core (x : Engine) : Engine :=
  { x with
    pendingCapture := none
    captureAttached := false
    sender := false
    senderTrack := none
    senderUpdates := []
    receiveTrack := false
    inspecting := none }

/-- An authorization depends on the page around the engines, and on the core of its own. -/
theorem Authorized.of_still (h : Authorized s e) (hst : Still s t)
    (hcore : (t.engines e).core = (s.engines e).core) : Authorized t e := by
  have hclosed : (t.engines e).closed = (s.engines e).closed := (congrArg Engine.closed hcore :)
  have htalk : (t.engines e).talk = (s.engines e).talk := (congrArg Engine.talk hcore :)
  have hpress : (t.engines e).press = (s.engines e).press := (congrArg Engine.press hcore :)
  unfold Authorized
  rw [hst.peer, hst.audioEngine, hst.hidden, hst.released, hst.captureIntent, hst.token,
    hst.received, hclosed, htalk, hpress]
  exact h

/-- So does what holds of an engine, and on its calls. -/
theorem Guarded.of_still (h : Guarded s e) (hst : Still s t)
    (hcore : (t.engines e).core = (s.engines e).core) (hcalls : t.calls e = s.calls e) :
    Guarded t e := by
  have hwanted : (t.engines e).captureWanted = (s.engines e).captureWanted :=
    (congrArg Engine.captureWanted hcore :)
  have hcapture : (t.engines e).capture = (s.engines e).capture := (congrArg Engine.capture hcore :)
  have henabled : (t.engines e).captureEnabled = (s.engines e).captureEnabled :=
    (congrArg Engine.captureEnabled hcore :)
  have hgeneration : (t.engines e).generation = (s.engines e).generation :=
    (congrArg Engine.generation hcore :)
  refine ⟨fun hw => ?_, fun x hx => ?_, fun g hg => ?_, fun hw => ?_⟩
  · exact (h.wanted (by rw [← hwanted, hw])).of_still hst hcore
  · rw [hwanted, henabled]
    exact h.captured x (by rw [← hcapture, hx])
  · rw [hcalls]
    exact h.fresh g (by rw [← hgeneration]; exact hg)
  · rw [hcalls, hgeneration, hcapture]
    exact h.acquiring (by rw [← hwanted, hw])

/-- And what holds around the engines, on the tracks that are live. -/
theorem Attended.of_still (h : Attended s) (hst : Still s t)
    (hlive : ∀ x ∈ t.live, ∃ e, (t.engines e).capture = some x) : Attended t := by
  refine ⟨hlive, fun e he => ?_, ?_, ?_, ?_, ?_⟩
  · rw [hst.peer]
    exact h.audioEngine e (by rw [← hst.audioEngine, he])
  · rw [hst.captureIntent, hst.captureSequence]
    exact h.intent
  · rw [hst.captureIntent, hst.released]
    exact h.held
  · rw [hst.released, hst.captureSequence]
    exact h.released
  · rw [hst.delivery, hst.received]
    exact h.delivered

/-- **A change of one engine**, and of its calls: what remains to be shown concerns it,
and the tracks that are live. -/
theorem Stoppable.safe (h : Stoppable s e) (hst : Still s t)
    (hothers : ∀ e', e' ≠ e → (t.engines e').core = (s.engines e').core ∧ t.calls e' = s.calls e')
    (hself : Guarded t e)
    (hlive : ∀ x ∈ t.live,
      (t.engines e).capture = some x ∨ x ∈ s.live ∧ (s.engines e).capture ≠ some x) :
    Safe t := by
  refine ⟨fun e' => ?_, h.attended.of_still hst fun x hx => ?_⟩
  · by_cases he : e' = e
    · rw [he]
      exact hself
    · exact (h.others e' he).of_still hst (hothers e' he).1 (hothers e' he).2
  · rcases hlive x hx with hx | ⟨hx, hne⟩
    · exact ⟨e, hx⟩
    · obtain ⟨e', he'⟩ := h.attended.live x hx
      refine ⟨e', ?_⟩
      have hee : e' ≠ e := by
        rintro rfl
        exact hne he'
      have hcapture : (t.engines e').capture = (s.engines e').capture :=
        (congrArg Engine.capture (hothers e' hee).1 :)
      rw [hcapture, he']

/-- A change that no engine's core sees. -/
theorem Safe.of_core (h : Safe s) (hst : Still s t)
    (hcore : ∀ e, (t.engines e).core = (s.engines e).core) (hcalls : t.calls = s.calls)
    (hlive : ∀ x ∈ t.live, x ∈ s.live) : Safe t := by
  refine ⟨fun e => (h.guarded e).of_still hst (hcore e) (by rw [hcalls]),
    h.attended.of_still hst fun x hx => ?_⟩
  obtain ⟨e, he⟩ := h.attended.live x (hlive x hx)
  have hcapture : (t.engines e).capture = (s.engines e).capture :=
    (congrArg Engine.capture (hcore e) :)
  exact ⟨e, by rw [hcapture, he]⟩

/-- What the invariant does not mention. -/
theorem Safe.aside (h : Safe s) {n : Negotiation} {posted : List Posted}
    {connection : ℕ → Connection} {talkDisabled : Bool} {rejected : List (ℕ × ℕ)} {tracks : ℕ} :
    Safe { s with
      toNegotiation := n
      posted := posted
      connection := connection
      talkDisabled := talkDisabled
      rejected := rejected
      tracks := tracks } :=
  ⟨fun e => ⟨(h.guarded e).wanted, (h.guarded e).captured, (h.guarded e).fresh,
      (h.guarded e).acquiring⟩,
    ⟨h.attended.live, h.attended.audioEngine, h.attended.intent, h.attended.held,
      h.attended.released, h.attended.delivered⟩⟩

/-- Nothing that is told releases, or captures, anything. -/
theorem Safe.publish (h : Safe s) (r : Report) : Safe (publish s r) := h.aside

/-- Nor does a report of an engine. -/
theorem Safe.reportAudio (h : Safe s) (e : ℕ) (state : AudioState) :
    Safe (reportAudio s e state) := by
  unfold Receiver.reportAudio
  split
  · exact h.publish _
  · exact h

theorem setEngine_core {x : Engine} (hx : x.core = (s.engines e).core) (i : ℕ) :
    ((setEngine s e x).engines i).core = (s.engines i).core := update_congr Engine.core hx i

/-- **An engine may change but for its core.** -/
theorem Safe.setEngine (h : Safe s) {x : Engine} (hx : x.core = (s.engines e).core) :
    Safe (setEngine s e x) :=
  h.of_core (still_setEngine s e x) (setEngine_core hx) rfl (fun _ h => h)

/-- Tracks may be stopped, whoever has them. -/
theorem Safe.stopTracks (h : Safe s) (ts : List ℕ) : Safe (stopTracks s ts) :=
  h.of_core (still_stopTracks s ts) (fun _ => rfl) rfl (fun _ hx => (Finset.mem_filter.mp hx).1)

/-- What the sender sends is not in the core. -/
theorem Safe.replaceTrack (h : Safe s) {u : SenderUpdate} (ht : replaceTrack s e u = some t) :
    Safe t := by
  rw [replaceTrack_some ht]
  exact h.setEngine rfl

theorem Safe.clearSender (h : Safe s) (e : ℕ) : Safe (clearSender s e) := by
  unfold Receiver.clearSender
  dsimp only
  cases hu : Receiver.replaceTrack s e ⟨none, (s.engines e).generation⟩ with
  | none => exact h.aside
  | some t => exact h.replaceTrack hu

/-! ## Stopping -/

/-- **An engine that stops its capture** is guarded again, and its track is no longer
live. -/
theorem Stoppable.stop (h : Stoppable s e) :
    Safe (stopTracks (setEngine s e (s.engines e).stopped) (s.engines e).capture.toList) := by
  refine h.safe ((still_setEngine s e _).trans (still_stopTracks _ _))
    (fun i hi => ⟨congrArg Engine.core (setEngine_of_ne s _ hi), rfl⟩) ?_ (fun x hx => ?_)
  · refine ⟨fun hw => ?_, fun x hx => ?_, fun g hg => ?_, fun hw => ?_⟩
    · rw [stopTracks_engines, setEngine_self] at hw
      cases hw
    · rw [stopTracks_engines, setEngine_self] at hx
      cases hx
    · rw [stopTracks_engines, setEngine_self] at hg
      exact h.fresh g (Nat.lt_of_succ_lt hg)
    · rw [stopTracks_engines, setEngine_self] at hw
      cases hw
  · obtain ⟨hlive, hne⟩ := Finset.mem_filter.mp hx
    refine Or.inr ⟨hlive, fun hcapture => hne ?_⟩
    rw [hcapture]
    exact List.mem_singleton_self x

/-- `stopCapture` clears the sender as well, and reports. -/
theorem Stoppable.stopCapture (h : Stoppable s e) : Safe (stopCapture s e) := by
  have hstop := h.stop
  unfold Receiver.stopCapture
  dsimp only
  have hclear : Safe (if (s.engines e).sender = true then
      clearSender (stopTracks (setEngine s e (s.engines e).stopped) (s.engines e).capture.toList) e
      else stopTracks (setEngine s e (s.engines e).stopped) (s.engines e).capture.toList) := by
    split
    · exact hstop.clearSender e
    · exact hstop
  split
  · exact hclear
  · exact hclear.reportAudio e .captureOff

/-- A capture may be stopped at any time. -/
theorem Safe.stopCapture (h : Safe s) (e : ℕ) : Safe (stopCapture s e) :=
  (h.stoppable e).stopCapture

/-! ## The calls of `startCapture` -/

/-- A call of an engine that is not active is not of the generation it captures in. -/
theorem Guarded.generation_ne (h : Guarded s e) (ha : active s e g = false)
    (hw : (s.engines e).captureWanted = true) : (s.engines e).generation ≠ g := by
  obtain ⟨-, -, hopen, -⟩ := h.wanted hw
  rintro rfl
  rw [active, hopen, hw] at ha
  simp at ha

/-- A call is active while its generation is captured for. -/
theorem active_iff : active s e g = true ↔
    (s.engines e).closed = false ∧ (s.engines e).captureWanted = true ∧
      (s.engines e).generation = g := by
  simp [active, and_assoc]

/-- A call has nothing to do with the page around the engines. -/
theorem Attended.setCall (h : Attended s) (e g : ℕ) (c : Call) : Attended (setCall s e g c) :=
  h.of_still (still_setCall s e g c) h.live

/-- A call that does not exist yet stays so. -/
theorem setCall_fresh {c : Call} (hfresh : ∀ i, (s.engines e).generation < i → s.calls e i = {})
    (hc : (s.engines e).generation < g → c = {}) (i : ℕ) (hi : (s.engines e).generation < i) :
    (setCall s e g c).calls e i = {} := by
  rw [setCall_calls]
  by_cases hig : i = g
  · rw [hig, Function.update_self]
    exact hc (hig ▸ hi)
  · rw [Function.update_of_ne hig]
    exact hfresh i hi

/-- A call that has begun may become anything before its engine stops. -/
theorem Stoppable.setCall (h : Stoppable s e) {c : Call}
    (hc : (s.engines e).generation < g → c = {}) : Stoppable (setCall s e g c) e :=
  ⟨fun i hi => (h.others i hi).of_still (still_setCall s e g c) rfl (setCall_of_ne s g c hi),
    setCall_fresh h.fresh hc, h.attended.setCall e g c⟩

/-- **A call moves**: as long as it acquires a track for the capture that is wanted, there
is nobody else to leave the track to. -/
theorem Safe.setCall (h : Safe s) {c : Call} (hc : (s.engines e).generation < g → c = {})
    (hacquiring : (s.engines e).captureWanted = true → (s.engines e).generation = g →
      c.acquisition ≠ .settled → c.main = .acquiring ∧ (s.engines e).capture = none) :
    Safe (setCall s e g c) := by
  have he := h.guarded e
  refine ⟨fun i => ?_, h.attended.setCall e g c⟩
  by_cases hi : i = e
  · rw [hi]
    refine ⟨fun hw => (he.wanted hw).of_still (still_setCall s e g c) rfl, he.captured,
      setCall_fresh he.fresh hc, fun hw hsettled => ?_⟩
    have hw' : (s.engines e).captureWanted = true := hw
    change ((Receiver.setCall s e g c).calls e (s.engines e).generation).acquisition ≠ _
      at hsettled
    show ((Receiver.setCall s e g c).calls e (s.engines e).generation).main = _ ∧ _
    rw [setCall_calls] at hsettled ⊢
    by_cases hg : (s.engines e).generation = g
    · rw [hg, Function.update_self] at hsettled ⊢
      exact hacquiring hw' hg hsettled
    · rw [Function.update_of_ne hg] at hsettled ⊢
      exact he.acquiring hw' hsettled
  · exact (h.guarded i).of_still (still_setCall s e g c) rfl (setCall_of_ne s g c hi)

/-- A call that is given up has not begun, or is. -/
theorem Guarded.over_fresh (hfresh : ∀ i, (s.engines e).generation < i → s.calls e i = {})
    (hg : (s.engines e).generation < g) : { s.calls e g with main := .over } = ({} : Call) := by
  rw [hfresh g hg]

/-- The `catch` of a call stops the capture, unless it was stopped before. -/
theorem Stoppable.catchCapture (h : Stoppable s e) (hsafe : active s e g = false → Safe s)
    (state : AudioState) : Safe (catchCapture s e g state) := by
  unfold Receiver.catchCapture
  dsimp only
  split
  · exact ((h.setCall (Guarded.over_fresh h.fresh)).stopCapture).reportAudio e state
  · rename_i ha
    have ha : active s e g = false := Bool.eq_false_iff.mpr ha
    refine (hsafe ha).setCall (Guarded.over_fresh h.fresh) (fun hw hg => ?_)
    exact absurd hg (((hsafe ha).guarded e).generation_ne ha hw)

/-- A call may fail wherever it is. -/
theorem Safe.catchCapture (h : Safe s) (e g : ℕ) (state : AudioState) :
    Safe (catchCapture s e g state) :=
  (h.stoppable e).catchCapture (fun _ => h) state

/-- An acquisition is over: nothing more is asked of the call. -/
theorem Safe.finish (h : Safe s) (e g : ℕ) : Safe (finish s e g) := by
  have hset : Safe (Receiver.setCall s e g { s.calls e g with acquisition := .settled }) := by
    refine h.setCall (fun hg => ?_) (fun _ _ hsettled => absurd rfl hsettled)
    rw [(h.guarded e).fresh g hg]
  exact hset.setEngine rfl

/-- **A call that is not active stops what it got.** -/
theorem Safe.abandon (h : Safe s) (ha : active s e g = false) (t : ℕ) :
    Safe (abandon s e g t) := by
  refine (h.stopTracks [t]).setCall (Guarded.over_fresh (h.guarded e).fresh) (fun hw hg => ?_)
  exact absurd hg ((h.guarded e).generation_ne ha hw)

/-! ## Releasing and closing -/

/-- Whatever captures is the page's engine. -/
theorem Safe.audioEngine_of_wanted (h : Safe s) (hw : (s.engines e).captureWanted = true) :
    s.audioEngine = some e := ((h.guarded e).wanted hw).2.1

/-- **Without an intent nothing is captured.** -/
theorem Safe.not_wanted (h : Safe s) (hintent : s.captureIntent = 0) (e : ℕ) :
    (s.engines e).captureWanted = false := by
  rw [Bool.eq_false_iff]
  intro hw
  obtain ⟨-, -, -, -, -, hpress, hle, -⟩ := (h.guarded e).wanted hw
  omega

/-- An engine that wants no capture does not depend on the page. -/
theorem Guarded.of_not_wanted (h : Guarded s e) (hw : (s.engines e).captureWanted = false)
    (hengines : t.engines e = s.engines e) (hcalls : t.calls e = s.calls e) : Guarded t e := by
  refine ⟨fun hw' => ?_, fun x hx => ?_, fun g hg => ?_, fun hw' => ?_⟩
  · rw [hengines, hw] at hw'
    cases hw'
  · rw [hengines] at hx ⊢
    exact h.captured x hx
  · rw [hcalls]
    exact h.fresh g (by rw [← hengines]; exact hg)
  · rw [hengines, hw] at hw'
    cases hw'

/-- What a release needs: that whatever captures is the page's engine. -/
structure Releasable (s : Page) : Prop where
  wanted : ∀ e, (s.engines e).captureWanted = true → s.audioEngine = some e
  captured : ∀ e t, (s.engines e).capture = some t →
    (s.engines e).captureWanted = true ∧ (s.engines e).captureEnabled = true
  fresh : ∀ e g, (s.engines e).generation < g → s.calls e g = {}
  attended : Attended s

theorem Safe.releasable (h : Safe s) : Releasable s :=
  ⟨fun _ => h.audioEngine_of_wanted, fun e => (h.guarded e).captured,
    fun e => (h.guarded e).fresh, h.attended⟩

/-- **A release stops the capture.** -/
theorem Releasable.releaseCapture (h : Releasable s) : Safe (releaseCapture s) := by
  -- the engines but the page's capture nothing, so they do not see the intent go
  have hothers : ∀ i, s.audioEngine ≠ some i → Guarded (withdraw s) i := fun i hi =>
    ⟨fun hw => absurd (h.wanted i hw) hi, h.captured i, h.fresh i,
      fun hw => absurd (h.wanted i hw) hi⟩
  have hattended : Attended (withdraw s) :=
    ⟨h.attended.live, h.attended.audioEngine, Nat.zero_le _, fun h0 => absurd rfl h0,
      Nat.le_refl _, h.attended.delivered⟩
  unfold Receiver.releaseCapture
  dsimp only
  split
  · rename_i he
    have he : s.audioEngine = none := he
    exact ⟨fun i => hothers i (by rw [he]; simp), hattended⟩
  · rename_i e he
    have he : s.audioEngine = some e := he
    have hstop : Safe (Receiver.stopCapture (withdraw s) e) := by
      refine Stoppable.stopCapture ⟨fun i hi => hothers i ?_, h.fresh e, hattended⟩
      rw [he]
      exact fun heq => hi (Option.some.inj heq).symm
    split
    · exact hstop.publish _
    · exact hstop

/-- The button may be released at any time. -/
theorem Safe.releaseCapture (h : Safe s) : Safe (releaseCapture s) :=
  h.releasable.releaseCapture

/-- After a release there is no intent. -/
theorem releaseCapture_intent (s : Page) : (releaseCapture s).captureIntent = 0 := by
  unfold releaseCapture
  dsimp only
  split
  · rfl
  · split <;> exact (still_stopCapture (withdraw s) _).captureIntent

/-- **Closing the receiver**, in a state without an intent: nobody sees the engine and the
peer go. -/
theorem Safe.closeEngine (h : Safe s) (hintent : s.captureIntent = 0) (e : ℕ) :
    Safe (closeEngine s e) := by
  have hstop := h.stopCapture e
  have hwanted := hstop.not_wanted ((still_stopCapture s e).captureIntent.trans hintent) e
  unfold Receiver.closeEngine
  dsimp only
  refine (hstop.stoppable e).safe (still_setEngine _ e _)
    (fun i hi => ⟨congrArg Engine.core (setEngine_of_ne _ _ hi), rfl⟩) ?_ (fun x hx => ?_)
  · refine ⟨fun hw => ?_, fun x hx => ?_, fun g hg => ?_, fun hw => ?_⟩
    · rw [setEngine_self] at hw
      exact absurd hw (by rw [hwanted]; simp)
    · rw [setEngine_self] at hx ⊢
      exact (hstop.guarded e).captured x hx
    · rw [setEngine_self] at hg
      exact (hstop.guarded e).fresh g hg
    · rw [setEngine_self] at hw
      exact absurd hw (by rw [hwanted]; simp)
  · by_cases hcapture : ((Receiver.stopCapture s e).engines e).capture = some x
    · rw [setEngine_self]
      exact Or.inl hcapture
    · exact Or.inr ⟨hx, hcapture⟩

/-- **The receiver is closed** without an intent, so that no capture is wanted when the engine
goes. -/
theorem Safe.closeReceiver (h : Safe s) : Safe (closeReceiver s) := by
  have hrelease := h.releaseCapture
  have hintent := releaseCapture_intent s
  have hclose : ∃ u, Safe u ∧ u.captureIntent = 0 ∧ Receiver.closeReceiver s = { u with
      audioEngine := none
      peer := none
      pendingRemoteCandidates := []
      pendingLocalCandidates := []
      offerPublished := false
      remoteDescriptionSet := false } := by
    unfold Receiver.closeReceiver
    dsimp only
    cases (Receiver.releaseCapture s).audioEngine with
    | none => exact ⟨_, hrelease, hintent, rfl⟩
    | some e =>
      exact ⟨_, hrelease.closeEngine hintent e,
        (still_closeEngine _ e).captureIntent.trans hintent, rfl⟩
  obtain ⟨u, hu, hu0, heq⟩ := hclose
  rw [heq]
  refine ⟨fun e => (hu.guarded e).of_not_wanted (hu.not_wanted hu0 e) rfl rfl,
    hu.attended.live, fun e he => (by cases he), hu.attended.intent, hu.attended.held,
    hu.attended.released, hu.attended.delivered⟩

/-- A failure closes it. -/
theorem Safe.fail (h : Safe s) (text : String) : Safe (fail s text) :=
  (h.publish _).closeReceiver

/-- So does an error of the engine of the page's peer. -/
theorem Safe.reportError (h : Safe s) (e : ℕ) (text : String) : Safe (reportError s e text) := by
  unfold Receiver.reportError
  split
  · exact h.fail text
  · exact h

/-! ## Events -/

/-- **A press** has the next number, so it is one that nothing has released. -/
theorem Safe.press (h : Safe s) : Safe (press s) := by
  unfold Receiver.press
  split
  · exact h
  · dsimp only
    refine Safe.publish ?_ _
    refine ⟨fun e => ⟨fun hw => ?_, (h.guarded e).captured, (h.guarded e).fresh,
      (h.guarded e).acquiring⟩, ?_⟩
    · obtain ⟨hpeer, hengine, hopen, htalk, hshown, hpress, hle, hauth⟩ := (h.guarded e).wanted hw
      exact ⟨hpeer, hengine, hopen, htalk, hshown, hpress,
        Nat.le_succ_of_le (Nat.le_trans hle h.attended.intent), hauth⟩
    · exact ⟨h.attended.live, h.attended.audioEngine, Nat.le_refl _,
        fun _ => Nat.lt_succ_of_le h.attended.released,
        Nat.le_succ_of_le h.attended.released, h.attended.delivered⟩

/-- A page that is hidden releases the capture. -/
theorem Safe.visibility (h : Safe s) (hidden : Bool) : Safe (visibility s hidden) := by
  unfold Receiver.visibility
  split
  · have hrel := h.releasable
    exact Releasable.releaseCapture ⟨hrel.wanted, hrel.captured, hrel.fresh,
      h.attended.live, h.attended.audioEngine, h.attended.intent, h.attended.held,
      h.attended.released, h.attended.delivered⟩
  · refine ⟨fun e => ⟨fun hw => ?_, (h.guarded e).captured, (h.guarded e).fresh,
      (h.guarded e).acquiring⟩, ⟨h.attended.live, h.attended.audioEngine, h.attended.intent,
      h.attended.held, h.attended.released, h.attended.delivered⟩⟩
    obtain ⟨hpeer, hengine, hopen, htalk, -, hrest⟩ := (h.guarded e).wanted hw
    exact ⟨hpeer, hengine, hopen, htalk, rfl, hrest⟩

/-- Candidates have nothing to do with the microphone, unless there are too many. -/
theorem Safe.localCandidate (h : Safe s) (p : ℕ) (c : Candidate) :
    Safe (localCandidate s p c) := by
  unfold Receiver.localCandidate
  split
  · exact h
  · dsimp only
    split
    · exact Safe.publish h.aside _
    · split
      · exact h.aside
      · exact Safe.fail h.aside _

/-- Nor has a track that is received, unless it is one too many. -/
theorem Safe.audioTrack (h : Safe s) (p : ℕ) : Safe (audioTrack s p) := by
  unfold Receiver.audioTrack
  split
  · exact h
  · split
    · exact h.fail _
    · split
      · exact h.fail _
      · exact h.setEngine rfl

/-- A connection that is lost releases the capture. -/
theorem Safe.connectionChanged (h : Safe s) (p : ℕ) (c : Connection) :
    Safe (connectionChanged s p c) := by
  unfold Receiver.connectionChanged
  dsimp only
  split
  · exact h.aside
  · split
    · exact Safe.publish (Safe.releaseCapture h.aside) _
    · exact h.aside

/-! ## What the engine waits for -/

/-- The statistics are there, and the browser is asked for permission, if the call is still
wanted. -/
theorem Safe.statistics (h : Safe s) (hacq : (s.calls e g).acquisition = .statistics) (ok : Bool) :
    Safe (statistics s e g ok) := by
  unfold Receiver.statistics
  split
  · refine h.setCall (fun hg => ?_) (fun hw hg _ => ?_)
    · rw [(h.guarded e).fresh g hg] at hacq
      cases hacq
    · have hcall := (h.guarded e).acquiring hw
      rw [hg, hacq] at hcall
      exact hcall (by simp)
  · dsimp only
    split
    · exact (h.finish e g).catchCapture e g _
    · exact h.finish e g

/-- Whatever is reported, one state after the other. -/
theorem Safe.reports (h : Safe s) (e : ℕ) (states : List AudioState) :
    Safe (states.foldl (fun s state => Receiver.reportAudio s e state) s) := by
  induction states generalizing s with
  | nil => exact h
  | cons state states ih => exact ih (h.reportAudio e state)

theorem Safe.reportCaptureEvidence (h : Safe s) (e : ℕ) : Safe (reportCaptureEvidence s e) := by
  unfold Receiver.reportCaptureEvidence
  dsimp only
  split
  · exact h.publish _
  · exact h

/-- An inspection finds a capture that should not be, or reports what it finds. -/
theorem Safe.inspected (h : Safe s) (found : Inspection) : Safe (inspected s e g found) := by
  unfold Receiver.inspected
  dsimp only
  have hset := h.setEngine (x := { s.engines e with inspecting := none }) rfl
  split
  · exact hset
  · split
    · exact ((hset.stopTracks _).stopCapture e).reportError e _
    · split
      · exact (hset.stopCapture e).reportError e _
      · split
        · exact ((hset.reports e _).reports e _).reportCaptureEvidence e
        · exact hset.reports e _

/-- The audio fails in one of its ways, and the capture is stopped if it has to do with it. -/
theorem Safe.audioFailed (h : Safe s) (e : ℕ) (fault : AudioFault) :
    Safe (audioFailed s e fault) := by
  unfold Receiver.audioFailed
  split
  · exact h.reportError e _
  · exact h.reportError e _
  · split
    · exact (h.stopCapture e).reportError e _
    · exact h
  · split
    · exact h.reportError e _
    · exact h

/-- A call that has a track does not acquire one. -/
theorem Safe.settled_of_main (h : Safe s) (hmain : (s.calls e g).main ≠ .acquiring)
    (hw : (s.engines e).captureWanted = true) (hg : (s.engines e).generation = g) :
    (s.calls e g).acquisition = .settled := by
  by_contra hsettled
  have hcall := (h.guarded e).acquiring hw
  rw [hg] at hcall
  exact hmain (hcall hsettled).1

/-- **A call captures a track** that nobody else has. -/
theorem Safe.captured (h : Safe s) {x : ℕ} (ha : active s e g = true)
    (hsettled : (s.calls e g).acquisition = .settled) (hnone : (s.engines e).capture = none)
    (encodings : Bool) :
    Safe (captured { s with live := s.live ∪ {x} } e g x encodings) := by
  obtain ⟨-, hw, hg⟩ := active_iff.mp ha
  have hset : Safe (Receiver.setEngine { s with live := s.live ∪ {x} } e { s.engines e with
      capture := some x
      captureEnabled := true
      captureAttached := false }) := by
    refine (h.stoppable e).safe (.of_rfl rfl rfl rfl rfl rfl)
      (fun i hi => ⟨congrArg Engine.core (setEngine_of_ne _ _ hi), rfl⟩)
      ⟨fun _ => ?_, fun y _ => ?_, fun i hi => ?_, fun _ hacq => ?_⟩ (fun y hy => ?_)
    · obtain hauth := (h.guarded e).wanted hw
      unfold Authorized at hauth ⊢
      rw [setEngine_self]
      exact hauth
    · rw [setEngine_self]
      exact ⟨hw, rfl⟩
    · rw [setEngine_self] at hi
      exact (h.guarded e).fresh i hi
    · rw [setEngine_self] at hacq
      exact absurd (show (s.calls e (s.engines e).generation).acquisition = .settled by
        rw [hg, hsettled]) hacq
    · rw [setEngine_self]
      rcases Finset.mem_union.mp hy with hy | hy
      · exact Or.inr ⟨hy, by rw [hnone]; simp⟩
      · exact Or.inl (by rw [Finset.mem_singleton.mp hy])
  have hreport := hset.reportAudio e .captureOn
  unfold Receiver.captured
  dsimp only
  split
  · refine hreport.setCall (fun hlt => ?_) (fun _ _ hacq => ?_)
    · rw [reportAudio_engines, setEngine_self] at hlt
      exact absurd hlt (by rw [hg]; exact Nat.lt_irrefl g)
    · -- the acquisition is settled, so nothing is asked of the call
      rw [reportAudio_calls] at hacq
      exact absurd hsettled hacq
  · exact hreport.catchCapture e g _

/-- Settling an acquisition is not seen by the capture. -/
theorem finish_engine (s : Page) (e g : ℕ) :
    ((finish s e g).engines e).capture = (s.engines e).capture ∧
      active (finish s e g) e g = active s e g := by
  unfold active finish
  dsimp only
  rw [setEngine_self]
  exact ⟨rfl, rfl⟩

theorem finish_call (s : Page) (e g : ℕ) :
    (finish s e g).calls e g = { s.calls e g with acquisition := .settled } :=
  setCall_self s e g _

theorem finish_grant (s : Page) (n e g : ℕ) :
    finish (grant s n) e g = grant (finish s e g) n := rfl

/-- Tracks that are stopped as soon as they are there were never live. -/
theorem Safe.stopGranted (h : Safe s) (n : ℕ) :
    Safe (Receiver.stopTracks (grant s n) (List.range' s.tracks n)) := by
  refine h.of_core (.of_rfl rfl rfl rfl rfl rfl) (fun _ => rfl) rfl (fun x hx => ?_)
  obtain ⟨hx, hnot⟩ := Finset.mem_filter.mp hx
  rcases Finset.mem_union.mp hx with hx | hx
  · exact hx
  · exact absurd (List.mem_toFinset.mp hx) hnot

/-- **The microphone is granted, or not**: a call that is still wanted captures the track,
any other stops it. -/
theorem Safe.permission (h : Safe s) (hacq : (s.calls e g).acquisition = .permission)
    (answer : Permission) : Safe (permission s e g answer) := by
  have hfinish := h.finish e g
  cases answer with
  | denied =>
    unfold Receiver.permission
    dsimp only
    split
    · exact hfinish.catchCapture e g _
    · exact hfinish
  | failed =>
    unfold Receiver.permission
    dsimp only
    split
    · exact hfinish.catchCapture e g _
    · exact hfinish
  | stream audio encodings =>
    have hstopped : Safe (Receiver.stopTracks (grant (Receiver.finish s e g) audio.length)
        (List.range' s.tracks audio.length)) := hfinish.stopGranted audio.length
    have hcall : (grant (Receiver.finish s e g) audio.length).calls e g
        = { s.calls e g with acquisition := .settled } := finish_call s e g
    have hactive : active (grant (Receiver.finish s e g) audio.length) e g = active s e g :=
      (finish_engine s e g).2
    unfold Receiver.permission
    dsimp only
    rw [finish_grant, hactive, hcall]
    by_cases ha : active s e g = true
    · -- it is wanted, so nobody but the call has been waiting for it
      obtain ⟨-, hw, hg⟩ := active_iff.mp ha
      have hacquiring := (h.guarded e).acquiring hw
      rw [hg, hacq] at hacquiring
      obtain ⟨hmain, hnone⟩ := hacquiring (by simp)
      rw [if_neg (by simp [ha]), if_pos hmain]
      split
      · rename_i haudio
        have hgrant : grant (Receiver.finish s e g) audio.length
            = { Receiver.finish s e g with
              live := (Receiver.finish s e g).live ∪ {s.tracks}
              tracks := (Receiver.finish s e g).tracks + 1 } := by
          rw [haudio]
          rfl
        rw [hgrant]
        refine Safe.captured (s := { Receiver.finish s e g with
          tracks := (Receiver.finish s e g).tracks + 1 }) hfinish.aside ?_ ?_ ?_ encodings
        · exact (finish_engine s e g).2.trans ha
        · exact congrArg Call.acquisition (finish_call s e g)
        · exact (finish_engine s e g).1.trans hnone
      · exact hstopped.catchCapture e g _
    · rw [if_pos (by simpa using ha)]
      split
      · exact hstopped.setCall (fun _ => rfl) (fun _ _ hsettled => absurd rfl hsettled)
      · exact hstopped

/-- A call that takes too long fails. -/
theorem Safe.deadline (h : Safe s) (e g : ℕ) : Safe (deadline s e g) := by
  unfold Receiver.deadline
  split <;> exact h.catchCapture e g _

/-- A call that has a track goes on with it. -/
theorem Safe.setMain (h : Safe s) (ha : active s e g = true)
    (hmain : (s.calls e g).main ≠ .acquiring) (m : Main) :
    Safe (Receiver.setCall s e g { s.calls e g with main := m }) := by
  obtain ⟨-, -, hg⟩ := active_iff.mp ha
  refine h.setCall (fun hlt => ?_) (fun hw hg hsettled => ?_)
  · exact absurd hg (Nat.ne_of_lt hlt)
  · exact absurd (h.settled_of_main hmain hw hg) hsettled

/-- **The parameters of the sender are set**, and the track handed to it, if the call is still
wanted. -/
theorem Safe.parameters (h : Safe s) {x : ℕ} (hmain : (s.calls e g).main = .parameters x)
    (ok : Bool) : Safe (parameters s e g x ok) := by
  unfold Receiver.parameters
  split
  · exact h.catchCapture e g _
  · split
    · rename_i ha
      exact h.abandon (by simpa using ha) x
    · rename_i ha
      have ha : active s e g = true := by simpa using ha
      split
      · exact h.catchCapture e g _
      · rename_i t ht
        have hqueued := h.replaceTrack ht
        obtain rfl := replaceTrack_some ht
        refine hqueued.setMain ?_ ?_ (.replacing x)
        · rw [← ha]
          unfold active
          rw [setEngine_self]
        · rw [show (Receiver.setEngine s e _).calls = s.calls from rfl, hmain]
          simp

theorem Safe.popUpdate (h : Safe s) (e : ℕ) (u : SenderUpdate) (rest : List SenderUpdate)
    (ok : Bool) : Safe (popUpdate s e u rest ok) := h.setEngine rfl

/-- **The sender has the track**, or has lost it: a call that is still wanted has captured. -/
theorem Safe.senderUpdated (h : Safe s) (u : SenderUpdate) (rest : List SenderUpdate)
    (ok : Bool) : Safe (senderUpdated s e u rest ok) := by
  have hpop := h.popUpdate e u rest ok
  unfold Receiver.senderUpdated
  dsimp only
  split
  · split
    · exact hpop.reportError e _
    · exact hpop
  · rename_i x _
    by_cases hmain : ((Receiver.popUpdate s e u rest ok).calls e u.generation).main = .replacing x
    · rw [if_neg (not_not_intro hmain)]
      split
      · exact hpop.catchCapture e _ _
      · split
        · rename_i ha
          exact hpop.abandon (by simpa using ha) x
        · rename_i ha
          have hmove := hpop.setMain (by simpa using ha) (by rw [hmain]; simp) .over
          refine Safe.reportCaptureEvidence (hmove.setEngine ?_) e
          rfl
    · rw [if_pos hmain]
      exact hpop

/-! ## Receiving messages -/

/-- **A capture is started** for the intent there is, once the host has authorised it. -/
theorem Safe.startCapture (h : Safe s) (answers : Answers) (hengine : s.audioEngine = some e)
    (hintent : s.captureIntent ≠ 0) (hshown : s.hidden = false)
    (hauth : ∃ token, sameToken s.token token = true ∧
      Message.command token (.captureAuthorized (.value s.captureIntent)) ∈ s.received) :
    Safe (startCapture s e answers s.captureIntent) := by
  unfold Receiver.startCapture
  dsimp only
  split
  · exact h.reportAudio e _
  rename_i hready
  simp only [Bool.or_eq_true, not_or, Bool.not_eq_true, Bool.not_eq_false'] at hready
  obtain ⟨⟨⟨hopen, htalk⟩, -⟩, -⟩ := hready
  split
  · exact h.reportAudio e _
  rename_i hfree
  simp only [Bool.or_eq_true, not_or, Bool.not_eq_true] at hfree
  have hnone : ∀ x, (s.engines e).capture ≠ some x := by
    intro x hx
    have hw := ((h.guarded e).captured x hx).1
    rw [hfree.2] at hw
    cases hw
  split
  · exact h.fail _
  refine (h.stoppable e).safe ((still_setEngine s e _).trans (still_setCall _ e _ _))
    (fun i hi => ⟨congrArg Engine.core (setEngine_of_ne s _ hi), setCall_of_ne _ _ _ hi⟩)
    ⟨fun _ => ?_, fun x hx => ?_, fun i hi => ?_, fun _ _ => ?_⟩ (fun x hx => Or.inr ⟨hx, hnone x⟩)
  · unfold Authorized
    rw [setCall_engines, setEngine_self]
    exact ⟨h.attended.audioEngine e hengine, hengine, hopen, htalk, hshown,
      h.attended.held hintent, Nat.le_refl _, hauth⟩
  · rw [setCall_engines, setEngine_self] at hx
    exact absurd hx (hnone x)
  · rw [setCall_engines, setEngine_self] at hi
    have hi : (s.engines e).generation + 1 < i := hi
    rw [setCall_calls, Function.update_of_ne (by omega)]
    exact (h.guarded e).fresh i (by omega)
  · rw [setCall_engines, setEngine_self]
    refine ⟨congrArg Call.main (setCall_self _ e _ _), ?_⟩
    rw [Option.eq_none_iff_forall_ne_some]
    exact hnone

/-- **An authorization starts a capture** only if it repeats the number of the press
that is held. -/
theorem Safe.captureAuthorized (h : Safe s) (answers : Answers) {token : Field HString}
    {press : Field ℕ} (htoken : sameToken s.token token = true)
    (hreceived : Message.command token (.captureAuthorized press) ∈ s.received) :
    Safe (captureAuthorized answers s press) := by
  unfold Receiver.captureAuthorized
  split
  · exact h.releaseCapture
  · rename_i e he
    split
    · rename_i hauth
      obtain ⟨hintent, rfl, hshown⟩ := hauth
      exact h.startCapture answers he hintent hshown ⟨token, htoken, hreceived⟩
    · exact h.releaseCapture

/-- A message becomes of a safe page what is safe. -/
def Outcome.Safe : Outcome → Prop
  | .returns s | .throws s | .awaits s _ => Receiver.Safe s

/-- However it returns, the page is safe. -/
theorem Outcome.Safe.page {o : Outcome} (h : o.Safe) : Receiver.Safe o.page := by
  cases o with
  | returns s => exact Receiver.Safe.aside h
  | throws s => exact Receiver.Safe.fail (Receiver.Safe.aside h) _
  | awaits s r => exact Receiver.Safe.aside h

theorem Safe.flush (h : Safe s) (p : ℕ) (cs : List Candidate) : (flush s p cs).Safe := by
  cases cs <;> exact h.aside

/-- The loop over a batch leaves the microphone alone. -/
theorem Safe.ingest (h : Safe s) (p : ℕ) (cs : List RemoteCandidate) :
    (ingest s p cs).Safe := by
  induction cs generalizing s with
  | nil => exact h
  | cons raw cs ih =>
    unfold Receiver.ingest
    split
    · exact h
    · split
      · exact h.aside
      · split
        · exact h
        · exact ih h.aside

theorem Safe.resume (h : Safe s) (r : Receiving) (ok : Bool) (sdp : HString) :
    (resume s r ok sdp).Safe := by
  have hoffers : ∀ (cs : List Candidate) (s : Page), Safe s →
      Safe (cs.foldl (fun s c => Receiver.publish s (.ice c)) s) := by
    intro cs
    induction cs with
    | nil => exact fun s h => h
    | cons c cs ih => exact fun s h => ih _ (h.publish _)
  unfold Receiver.resume
  split
  · exact h
  · split
    · exact h
    · split
      · exact h
      · exact Safe.aside (hoffers _ _ (Safe.aside (h.publish _)))
      · exact Safe.flush h.aside _ _
      · exact h.flush _ _
      · exact h.ingest _ _

/-- Without a peer nothing is captured. -/
theorem Safe.not_wanted_of_closed (h : Safe s) (hpeer : s.peer = none) (e : ℕ) :
    (s.engines e).captureWanted = false := by
  rw [Bool.eq_false_iff]
  intro hw
  have hopen := ((h.guarded e).wanted hw).1
  rw [hpeer] at hopen
  cases hopen

/-- So what a capture is authorised by may change. -/
theorem Safe.reopen (h : Safe s) (hpeer : s.peer = none) {token : Option HString}
    {peer audioEngine : Option ℕ} {peers : ℕ} {talkDisabled : Bool}
    (hengine : ∀ e, audioEngine = some e → peer = some e) :
    Safe { s with
      token := token
      peer := peer
      peers := peers
      talkDisabled := talkDisabled
      audioEngine := audioEngine } :=
  ⟨fun e => (h.guarded e).of_not_wanted (h.not_wanted_of_closed hpeer e) rfl rfl,
    h.attended.live, hengine, h.attended.intent, h.attended.held, h.attended.released,
    h.attended.delivered⟩

/-- A session has an engine that wants nothing yet. -/
theorem Safe.startAudio (h : Safe s) {b : Browser} {o : StartOptions}
    (hw : (s.engines e).captureWanted = false) (ht : startAudio b s e o = some t) : Safe t := by
  unfold Receiver.startAudio at ht
  split at ht
  · obtain rfl := Option.some.inj ht
    exact h
  · split at ht
    · obtain rfl := Option.some.inj ht
      have hnone : ∀ x, (s.engines e).capture ≠ some x := by
        intro x hx
        have hw' := ((h.guarded e).captured x hx).1
        rw [hw] at hw'
        cases hw'
      refine (h.stoppable e).safe (still_setEngine s e _)
        (fun i hi => ⟨congrArg Engine.core (setEngine_of_ne s _ hi), rfl⟩)
        ⟨fun hw' => ?_, fun x hx => ?_, fun i hi => ?_, fun hw' => ?_⟩
        (fun x hx => Or.inr ⟨hx, hnone x⟩)
      · rw [setEngine_self] at hw'
        exact absurd hw' (by rw [hw]; simp)
      · rw [setEngine_self] at hx
        exact absurd hx (hnone x)
      · rw [setEngine_self] at hi
        exact (h.guarded e).fresh i (Nat.lt_of_succ_lt hi)
      · rw [setEngine_self] at hw'
        exact absurd hw' (by rw [hw]; simp)
    · cases ht

/-- **A session starts** on a page that has none, where nothing is captured. -/
theorem Safe.start (h : Safe s) (b : Browser) (answers : Answers) (token : Field HString)
    (o : StartOptions) : (start b answers s token o).Safe := by
  unfold Receiver.start
  split
  · split
    · exact h
    · rename_i text hfree
      obtain ⟨-, hpeer⟩ := not_or.mp hfree
      have hpeer : s.peer = none := by simpa using hpeer
      have htoken : Safe { s with token := some text } := h.reopen hpeer h.attended.audioEngine
      dsimp only
      split
      · exact htoken
      · have hopen : Safe { s with
            token := some text
            peer := some s.peers
            peers := s.peers + 1
            talkDisabled := true
            audioEngine := if o.listen then some s.peers else s.audioEngine } := by
          refine h.reopen hpeer (fun e he => ?_)
          split at he
          · exact he
          · have hnone := h.attended.audioEngine e he
            rw [hpeer] at hnone
            cases hnone
        split
        · exact hopen
        · rename_i t ht
          have ht := hopen.startAudio (h.not_wanted_of_closed hpeer s.peers) ht
          split
          · exact ht
          · exact ht
  · exact h

/-- **A message is received**, of those that have come. -/
theorem Safe.receive (h : Safe s) (b : Browser) (answers : Answers) {m : Message}
    (hm : m ∈ s.received) : (receive b answers s m).Safe := by
  unfold Receiver.receive
  split
  · exact h
  · exact h.start b answers _ _
  · rename_i token body _
    by_cases htoken : sameToken s.token token = true
    · rw [if_neg (by simp [htoken])]
      split
      · exact h.closeReceiver
      · exact h.releaseCapture
      · exact h
      · unfold receivePeer
        split
        · exact h.captureAuthorized answers htoken hm
        · split
          · exact h
          · exact h
        · split
          · exact h
          · exact h.ingest _ _
        · exact h
    · rw [if_pos (by simp [htoken])]
      exact h

/-- **A message arrives.** -/
theorem Safe.message (h : Safe s) (m : Message) : Safe (message s m) := by
  have harrive : Safe { s with received := s.received ++ [m] } := by
    refine ⟨fun e => ⟨fun hw => ?_, (h.guarded e).captured, (h.guarded e).fresh,
      (h.guarded e).acquiring⟩, ⟨h.attended.live, h.attended.audioEngine, h.attended.intent,
      h.attended.held, h.attended.released, fun x hx => ?_⟩⟩
    · obtain ⟨hpeer, hengine, hopen, htalk, hshown, hpress, hle, token, htoken, hm⟩ :=
        (h.guarded e).wanted hw
      exact ⟨hpeer, hengine, hopen, htalk, hshown, hpress, hle, token, htoken,
        List.mem_append_left _ hm⟩
    · exact List.mem_append_left _ (h.attended.delivered x hx)
  have henqueue : Safe { s with received := s.received ++ [m], delivery := s.delivery ++ [m] } := by
    refine ⟨fun e => ⟨(harrive.guarded e).wanted, (h.guarded e).captured, (h.guarded e).fresh,
      (h.guarded e).acquiring⟩, ⟨h.attended.live, h.attended.audioEngine, h.attended.intent,
      h.attended.held, h.attended.released, fun x hx => ?_⟩⟩
    rcases List.mem_append.mp hx with hx | hx
    · exact List.mem_append_left _ (h.attended.delivered x hx)
    · exact List.mem_append_right _ hx
  unfold Receiver.message
  dsimp only
  split
  · split
    · exact harrive.closeReceiver
    · exact henqueue
  · split
    · exact harrive.releaseCapture
    · exact henqueue
  · exact henqueue

/-! ## Every run -/

/-- The next message is taken from those that wait. -/
theorem Safe.deliver (h : Safe s) {m : Message} {rest : List Message}
    (hd : s.delivery = m :: rest) : Safe { s with delivery := rest } ∧ m ∈ s.received := by
  have hall := h.attended.delivered
  rw [hd] at hall
  exact ⟨⟨fun e => ⟨(h.guarded e).wanted, (h.guarded e).captured, (h.guarded e).fresh,
      (h.guarded e).acquiring⟩, ⟨h.attended.live, h.attended.audioEngine, h.attended.intent,
      h.attended.held, h.attended.released, fun x hx => hall x (List.mem_cons_of_mem m hx)⟩⟩,
    hall m List.mem_cons_self⟩

/-- **Every task of the browser keeps the invariant.** -/
theorem Safe.step (h : Safe s) {b : Browser} {a : Action} (hst : step b s a = some t) :
    Safe t := by
  cases a with
  | message m =>
    obtain rfl := Option.some.inj hst
    exact h.message m
  | deliver answers =>
    unfold Receiver.step at hst
    dsimp only at hst
    split at hst
    · rename_i m rest _ hd
      obtain rfl := Option.some.inj hst
      obtain ⟨hdeliver, hm⟩ := h.deliver hd
      exact (hdeliver.receive b answers hm).page
    · cases hst
  | settled ok sdp =>
    obtain ⟨r, -, rfl⟩ := Option.map_eq_some_iff.mp hst
    exact (h.resume r ok sdp).page
  | localCandidate p c =>
    obtain rfl := Option.some.inj hst
    exact h.localCandidate p c
  | audioTrack p =>
    obtain rfl := Option.some.inj hst
    exact h.audioTrack p
  | otherTrack p | videoFailed p fault =>
    obtain rfl := Option.some.inj hst
    split
    · exact h.fail _
    · exact h
  | connectionChanged p c =>
    obtain rfl := Option.some.inj hst
    exact h.connectionChanged p c
  | videoError p | videoPlaying p =>
    obtain rfl := Option.some.inj hst
    split
    · exact h.publish _
    · exact h
  | press =>
    obtain rfl := Option.some.inj hst
    exact h.press
  | release =>
    obtain rfl := Option.some.inj hst
    exact h.releaseCapture
  | visibility hidden =>
    obtain rfl := Option.some.inj hst
    exact h.visibility hidden
  | statistics e g ok =>
    unfold Receiver.step at hst
    dsimp only at hst
    split at hst
    · rename_i hacq
      obtain rfl := Option.some.inj hst
      exact h.statistics hacq ok
    · cases hst
  | permission e g answer =>
    unfold Receiver.step at hst
    dsimp only at hst
    split at hst
    · rename_i hacq
      obtain rfl := Option.some.inj hst
      exact h.permission hacq answer
    · cases hst
  | deadline e g =>
    unfold Receiver.step at hst
    dsimp only at hst
    split at hst
    · obtain rfl := Option.some.inj hst
      exact h.deadline e g
    · cases hst
  | parameters e g ok =>
    unfold Receiver.step at hst
    dsimp only at hst
    split at hst
    · rename_i x hmain
      obtain rfl := Option.some.inj hst
      exact h.parameters hmain ok
    · cases hst
  | senderUpdated e ok =>
    unfold Receiver.step at hst
    dsimp only at hst
    split at hst
    · obtain rfl := Option.some.inj hst
      exact h.senderUpdated _ _ ok
    · cases hst
  | senderRejected e g =>
    unfold Receiver.step at hst
    dsimp only at hst
    split at hst
    · obtain rfl := Option.some.inj hst
      split
      · exact Safe.reportError h.aside e _
      · exact h.aside
    · cases hst
  | captureEnded e =>
    unfold Receiver.step at hst
    dsimp only at hst
    split at hst
    · obtain rfl := Option.some.inj hst
      exact h.stopCapture e
    · cases hst
  | inspect e =>
    unfold Receiver.step at hst
    dsimp only at hst
    split at hst
    · cases hst
    · obtain rfl := Option.some.inj hst
      exact h.setEngine rfl
  | inspected e found =>
    obtain ⟨g, -, rfl⟩ := Option.map_eq_some_iff.mp hst
    exact h.inspected found
  | audioFailed e fault =>
    unfold Receiver.step at hst
    dsimp only at hst
    split at hst
    · cases hst
    · obtain rfl := Option.some.inj hst
      exact h.audioFailed e fault

/-- **The invariant holds in every run.** -/
theorem safe_of_reachable {b : Browser} (h : (machine b).Reachable s) : Safe s :=
  h.invariant (safe_start b) (fun _ _ _ _ hs hst => hs.step hst)

theorem closeReceiver_intent (s : Page) : (closeReceiver s).captureIntent = 0 := by
  have hintent := releaseCapture_intent s
  unfold closeReceiver
  dsimp only
  split
  · exact hintent
  · exact (still_closeEngine _ _).captureIntent.trans hintent

/-- **What takes the microphone back**: the button is released, the page is hidden, the
host stops the session or the capture, or the connection is lost. -/
def Revokes (s : Page) : Action → Prop
  | .release => True
  | .visibility hidden => hidden = true
  | .message (.command token .stop) => sameToken s.token token = true
  | .message (.command token .captureStop) => sameToken s.token token = true
  | .connectionChanged p c => s.peer = some p ∧ (c = .failed ∨ c = .disconnected)
  | _ => False

/-- Then there is no intent any more. -/
theorem intent_of_revokes {b : Browser} {a : Action} (hst : step b s a = some t)
    (ha : Revokes s a) : t.captureIntent = 0 := by
  cases a with
  | release =>
    obtain rfl := Option.some.inj hst
    exact releaseCapture_intent s
  | visibility hidden =>
    obtain rfl : hidden = true := ha
    obtain rfl := Option.some.inj hst
    exact releaseCapture_intent _
  | connectionChanged p c =>
    obtain ⟨hpeer, hc⟩ := ha
    obtain rfl := Option.some.inj hst
    unfold connectionChanged
    dsimp only
    rw [if_neg (not_not_intro hpeer), if_pos hc]
    exact releaseCapture_intent _
  | message m =>
    obtain rfl := Option.some.inj hst
    cases m with
    | invalid => cases ha
    | command token body =>
      cases body with
      | stop =>
        have htoken : sameToken s.token token = true := ha
        unfold message
        dsimp only
        rw [if_pos htoken]
        exact closeReceiver_intent _
      | captureStop =>
        have htoken : sameToken s.token token = true := ha
        unfold message
        dsimp only
        rw [if_pos htoken]
        exact releaseCapture_intent _
      | _ => cases ha
  | _ => cases ha

/-- Without an intent no track is live. -/
theorem Safe.live_eq_empty (h : Safe s) (hintent : s.captureIntent = 0) : s.live = ∅ := by
  rw [Finset.eq_empty_iff_forall_notMem]
  intro x hx
  obtain ⟨e, he⟩ := h.attended.live x hx
  have hw := ((h.guarded e).captured x he).1
  rw [h.not_wanted hintent e] at hw
  cases hw

/-- **The microphone is captured only while the button is held.** Whatever the host sends
and the browser answers, and in whatever order: a capture that is wanted, and every live
track of the microphone, is the open session's engine's, for a press that the host has
authorised and that nothing has released since; and what takes the microphone back leaves
no track live, at once. -/
theorem capture_held (b : Browser) : ∀ s, (machine b).Reachable s →
    (∀ e, (s.engines e).captureWanted = true → Authorized s e) ∧
    (∀ x ∈ s.live, ∃ e, (s.engines e).capture = some x ∧
      (s.engines e).captureEnabled = true ∧ Authorized s e) ∧
    ∀ a t, step b s a = some t → Revokes s a → t.live = ∅ := by
  intro s hs
  have h := safe_of_reachable hs
  refine ⟨fun e => (h.guarded e).wanted, fun x hx => ?_, fun a t hst ha => ?_⟩
  · obtain ⟨e, he⟩ := h.attended.live x hx
    obtain ⟨hw, henabled⟩ := (h.guarded e).captured x he
    exact ⟨e, he, henabled, (h.guarded e).wanted hw⟩
  · exact (h.step hst).live_eq_empty (intent_of_revokes hst ha)

/-- A browser that has the first codec and Opus. -/
def opusBrowser : Browser := ⟨[literal "video/h264"], true, true⟩

/-- A session with talkback, and its token. -/
def talkOptions : StartOptions :=
  ⟨true, true, .value 0, .value 640, .value 640, .value 480, .value 480,
    some ⟨.value (literal "audio/opus"), .value 48000, .value 16, .value 1, .value 32000⟩⟩

def talkToken : HString := List.replicate 32 97

/-- The session is started and connected, the button is pressed, and the capture is
authorised, by the host and the browser. -/
def talking : List Action :=
  [.message (.command (.value talkToken) (.start talkOptions)), .deliver ⟨true, true, true⟩,
    .settled true [], .settled true [], .connectionChanged 0 .connected, .press,
    .message (.command (.value talkToken) (.captureAuthorized (.value 1))),
    .deliver ⟨true, true, true⟩, .statistics 0 2 true, .permission 0 2 (.stream [true] true)]

/-- There a track is live, for the first press. -/
theorem capture_held_talking : ∃ s, (machine opusBrowser).run (machine opusBrowser).start talking
      = some s ∧ s.live = {0} ∧ s.captureIntent = 1 ∧
      ∃ e, (s.engines e).capture = some 0 ∧ Authorized s e := by
  have hrun : ((machine opusBrowser).run (machine opusBrowser).start talking).map
      (fun s => (s.live, s.captureIntent)) = some ({0}, 1) := by decide
  obtain ⟨s, hs, heq⟩ := Option.map_eq_some_iff.mp hrun
  obtain ⟨hlive, hintent⟩ := Prod.mk.inj heq
  obtain ⟨e, he, -, hauth⟩ := (capture_held opusBrowser s
    ((machine opusBrowser).reachable_start.run hs)).2.1 0 (by rw [hlive]; simp)
  exact ⟨s, hs, hlive, hintent, e, he, hauth⟩

end Receiver
