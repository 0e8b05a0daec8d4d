import MatterController.CameraCalls

/-!
# The camera operations as runs

`CloseCamera` is modelled twice: step by step in `CameraSessions`, where other
operations come between, and as the function `Camera.closeCamera`, for those who
see it whole. `closeCamera_run` connects the two. A call alone on the controller
(`solo`) passes the lifetime and the gates, and is out with the camera the function
computes, whatever it is answered on the way.
-/

namespace CameraSessions

/-- **One call alone**: the controller with the first call at a place, holding what it
holds there, and no other call. -/
def solo (c : Camera) (p : Pc) : State where
  camera := c
  lifetime := if p.shared then { readers := {0} } else .free
  gate := if p.gated then ⟨some 0⟩ else {}
  calls := fun i => if i = 0 then p else .idle

/-- Moving the call moves it. -/
theorem setCall_solo (c : Camera) (p q : Pc) :
    ((solo c p).setCall 0 q).calls = (solo c q).calls := by
  funext i
  by_cases hi : i = 0
  · rw [hi, State.setCall_self]
    rfl
  · rw [State.setCall_of_ne _ _ hi]
    show (if i = 0 then p else Pc.idle) = if i = 0 then q else Pc.idle
    rw [if_neg hi, if_neg hi]

/-- A call alone that moves on stays alone. -/
theorem follow_move {c c' : Camera} {p q : Pc} (hsame : p.Same q) :
    { solo c p with camera := c' }.follow 0 (.move q) = solo c' q := by
  have hcalls := setCall_solo c p q
  unfold State.follow State.setCall at *
  dsimp only at hcalls ⊢
  rw [hcalls]
  unfold solo
  rw [hsame.shared, hsame.gated]

/-- A step of a call alone is what it performs. -/
theorem step_perform {c c' : Camera} {p : Pc} {a : Answer} {n : Next}
    (h : perform c p a = some (c', n)) :
    CameraSessions.step (solo c p) (.advance 0 a)
      = some ({ solo c p with camera := c' }.follow 0 n) := by
  show advance (solo c p) 0 a = _
  unfold advance
  split
  · rename_i op hp
    rw [show p = .lifetime op from hp] at h
    cases op <;> cases h
  · rename_i op hp
    rw [show p = .gate op from hp] at h
    cases op <;> cases h
  · rw [show perform (solo c p).camera ((solo c p).calls 0) _ = some (c', n) from h]
    rfl

/-- A call alone that moves on leads on. -/
theorem leads_move {enabled : Bool} {c d : Camera} {p q : Pc} {a : Answer} {s : State}
    (h : perform c p a = some (d, .move q)) (hsame : p.Same q)
    (hrest : (machine enabled).Leads (solo d q) s) : (machine enabled).Leads (solo c p) s := by
  refine .head (a := .advance 0 a) ?_ hrest
  rw [← follow_move hsame]
  exact step_perform h

/-- A call alone that leaves gives back what it holds, the gate before the lifetime. -/
theorem leave_solo {c c' : Camera} {p : Pc} (hexclusive : p.exclusive = false) :
    { solo c p with camera := c' }.leave 0
      = solo c' (if p.gated then .leaving else .idle) := by
  have hcalls : ∀ q, Function.update (solo c p).calls 0 q = (solo c' q).calls :=
    fun q => setCall_solo c p q
  have hp : ({ solo c p with camera := c' } : State).calls 0 = p := rfl
  unfold State.leave State.setCall
  rw [hp]
  dsimp only
  by_cases hg : p.gated = true
  · rw [if_pos hg, if_pos hg, hcalls]
    unfold solo
    rw [if_pos (Pc.shared_of_gated hg).1]
    rfl
  rw [if_neg hg, if_neg hg, hexclusive, hcalls]
  by_cases hshared : p.shared = true
  · rw [if_pos hshared]
    unfold solo
    rw [if_pos hshared, if_neg hg]
    rfl
  · rw [if_neg hshared, if_neg Bool.false_ne_true]
    unfold solo
    rw [if_neg hshared, if_neg hg]
    rfl

/-- A call alone that is out leads out. -/
theorem leads_out {enabled : Bool} {c c' : Camera} {p : Pc} {a : Answer}
    (h : perform c p a = some (c', .out)) (hexclusive : p.exclusive = false) :
    (machine enabled).Leads (solo c p) (solo c' .idle) := by
  refine .head (a := .advance 0 a) (step_perform h) ?_
  rw [State.follow, leave_solo hexclusive]
  by_cases hg : p.gated = true
  · rw [if_pos hg]
    have hout : perform c' .leaving .go = some (c', .out) := rfl
    refine .head (a := .advance 0 .go) (step_perform hout) ?_
    rw [State.follow, leave_solo rfl]
    exact .refl _ _
  · rw [if_neg hg]
    exact .refl _ _

/-- **`Send` is a run**, which goes on to the local close. -/
theorem leads_send {enabled : Bool} {c : Camera} {h : CameraHost} (hh : c.host = some h)
    {handle : UInt64} (a : SendAnswers) {s : State}
    (hrest : (machine enabled).Leads
      (solo (c.send .endSession handle a).2 (.closeLocal (.closeCamera handle) handle)) s) :
    (machine enabled).Leads (solo c (.send (.closeCamera handle) .endSession handle)) s := by
  unfold Camera.send at hrest
  rw [hh] at hrest
  dsimp only at hrest
  cases hstart : h.sendStart .endSession handle a.info with
  | returns error =>
    rw [hstart] at hrest
    refine leads_move (a := .info a.info) ?_ (.of_inside rfl rfl) hrest
    unfold perform
    dsimp only
    rw [hh]
    dsimp only
    rw [hstart]
    rfl
  | runs node =>
    rw [hstart] at hrest
    refine leads_move (a := .info a.info)
      (q := .run (.closeCamera handle) .endSession handle ⟨h.endpoint, node⟩) (d := c) ?_
      (.of_inside rfl rfl) ?_
    · unfold perform
      dsimp only
      rw [hh]
      dsimp only
      rw [hstart]
    · dsimp only at hrest
      by_cases hdispatched : a.dispatched = true
      · rw [if_pos hdispatched] at hrest
        refine leads_move (a := .dispatch) rfl ⟨rfl, rfl, rfl⟩ ?_
        exact leads_move (a := .returns a.result) rfl (.of_inside rfl rfl) hrest
      · rw [if_neg hdispatched] at hrest
        exact leads_move (a := .returns a.result) rfl (.of_inside rfl rfl) hrest

/-- A call alone that is called waits for the lifetime, -/
theorem step_call (c : Camera) (op : Op) :
    CameraSessions.step (solo c .idle) (.call 0 op) = some (solo c (.lifetime op)) := by
  have hcalls := setCall_solo c .idle (.lifetime op)
  show some ((solo c .idle).setCall 0 (.lifetime op)) = _
  unfold State.setCall at hcalls ⊢
  dsimp only at hcalls
  rw [hcalls]
  rfl

/-- gets it, -/
theorem step_lifetime (c : Camera) (op : Op) (hop : op.exclusive = false) :
    CameraSessions.step (solo c (.lifetime op)) (.advance 0 .go) = some (solo c (.lookup op)) := by
  have hcalls := setCall_solo c (.lifetime op) (.lookup op)
  have hshared : (Pc.lookup op).shared = true := by
    show (!op.exclusive) = true
    rw [hop]
    rfl
  unfold State.setCall at hcalls
  dsimp only at hcalls
  show advance (solo c (.lifetime op)) 0 .go = _
  unfold advance State.setCall
  show (if op.exclusive = true then _ else _) = _
  rw [if_neg (by rw [hop]; exact Bool.false_ne_true), hcalls]
  unfold solo
  rw [if_pos hshared]
  rfl

/-- and gets the gate of the camera. -/
theorem step_gate (c : Camera) (op : Op) (hop : op.exclusive = false) :
    CameraSessions.step (solo c (.gate op)) (.advance 0 .go) = some (solo c (.body op)) := by
  have hcalls := setCall_solo c (.gate op) (.body op)
  have hsame : (Pc.body op).shared = (Pc.gate op).shared ∧ (Pc.body op).gated = true := by
    refine ⟨rfl, ?_⟩
    show (!op.exclusive) = true
    rw [hop]
    rfl
  unfold State.setCall at hcalls
  dsimp only at hcalls
  show advance (solo c (.gate op)) 0 .go = _
  unfold advance State.setCall
  show (if op.exclusive = true then _ else _) = _
  rw [if_neg (by rw [hop]; exact Bool.false_ne_true), hcalls]
  unfold solo
  rw [hsame.1, if_pos hsame.2]
  rfl

/-- **`closeCamera` is a run of the machine**: an operation `CloseCamera`, alone on the
controller, leads to the camera that the function computes. -/
theorem closeCamera_run (enabled : Bool) (c : Camera) (handle : UInt64) (a : CloseAnswers) :
    (machine enabled).Leads (solo c .idle) (solo (c.closeCamera handle a).2 .idle) := by
  refine .head (a := .call 0 (.closeCamera handle)) (step_call c _) ?_
  by_cases hcleanup : a.cleanup = true
  swap
  · rw [Camera.closeCamera_left fun h => hcleanup h.1.cleanup]
    exact leads_out (a := .throws) rfl rfl
  refine .head (a := .advance 0 .go) (step_lifetime c (.closeCamera handle) rfl) ?_
  -- the first look
  by_cases hfound : c.closed = false ∧ c.Valid handle
  swap
  · rw [Camera.closeCamera_left fun h => hfound h.2]
    refine leads_out (a := .go) (congrArg some (congrArg (Prod.mk c) ?_)) rfl
    unfold Camera.lookup
    cases hu : c.usable with
    | none => rfl
    | some h =>
      have hinvalid : h.validate handle ≠ .noError := fun hv =>
        hfound ⟨Camera.closed_of_usable hu, h, Camera.host_of_usable hu, hv⟩
      dsimp only
      rw [show h.getPeerNode handle = .error (h.validate handle) from if_pos hinvalid]
  obtain ⟨hopen, h, hh, hvalid⟩ := hfound
  refine leads_move (a := .go) (q := .node (.closeCamera handle)) (d := c)
    (congrArg some (congrArg (Prod.mk c) ?_)) ⟨rfl, rfl, rfl⟩ ?_
  · unfold Camera.lookup
    rw [Camera.usable_of_host hopen hh]
    dsimp only
    rw [show h.getPeerNode handle = .ok h.peerNode from if_neg (not_not_intro hvalid)]
  -- the gates
  by_cases hnode : a.node = none
  swap
  · rw [Camera.closeCamera_left fun h => hnode h.1.node]
    exact leads_out (a := .throws) rfl rfl
  refine leads_move (a := .go) rfl ⟨rfl, rfl, rfl⟩ ?_
  by_cases hgate : a.gate = none
  swap
  · rw [Camera.closeCamera_left fun h => hgate h.1.gate]
    exact leads_out (a := .throws) rfl rfl
  refine .head (a := .advance 0 .go) (step_gate c (.closeCamera handle) rfl) ?_
  -- the second look, the end and the local close
  rw [Camera.closeCamera_admitted ⟨hcleanup, hnode, hgate⟩ hopen ⟨h, hh, hvalid⟩]
  refine leads_move (a := .go) (q := .send (.closeCamera handle) .endSession handle) (d := c)
    ?_ (.of_inside rfl rfl) ?_
  · unfold perform
    dsimp only
    rw [hh]
    dsimp only
    rw [if_neg (not_not_intro hvalid)]
  · exact leads_send hh a.ending (leads_out (a := .native a.closeSession a.unregister) rfl rfl)

end CameraSessions
