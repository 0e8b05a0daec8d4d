import MatterController.Machine
import Mathlib.Data.List.Infix

/-!
# Calls that wait for callbacks

A call makes a state, has another thread call back into it, and waits until the state is
complete. Then it looks at the state once, and what it finds is its outcome. Callbacks go on
arriving after that, and also where the call has stopped to wait: until it takes its state
back, so that nothing calls into it any more. Only then may the call return, for the state is
gone with it.

A `CallbackCall` is what is particular to one such call – the state, what a callback does to
it, when it is complete, and what the call makes of it – and `machine` is all its runs. What
holds of them is said here once, of any call (`Reachable.accounted`): what a call returns is
decided by the callbacks that had been delivered when it looked, a call that never saw its
state complete returns no value, and no callback reaches a call that has returned.
-/

/-- **A call that waits for callbacks**: its state, what a callback does to it, when it is
complete, what the call makes of a complete state, and what becomes of the state when the
call takes it back; and what the call throws when it stops to wait, because it was canceled
– where it asks – or because it has waited long enough. -/
structure CallbackCall (σ κ ε α : Type) where
  initial : σ
  deliver : κ → σ → σ
  complete : σ → Bool
  verdict : σ → Except ε α
  close : σ → σ
  interrupted : Option ε
  timedOut : ε

namespace CallbackCall

variable {σ κ ε α : Type}

/-- **Where a call stands**: before its state is known to anyone, waiting, on its way out
with an outcome, or gone. -/
inductive Phase (ε α : Type)
  | starting
  | waiting
  | leaving (r : Except ε α)
  | returned (r : Except ε α)

/-- What the call has decided to return or to throw. -/
def Phase.outcome : Phase ε α → Option (Except ε α)
  | .leaving r | .returned r => some r
  | _ => none

/-- **A run of a call**: its state, where it stands, whether its callbacks are registered and
whether it was canceled; and – to speak about it – the callbacks delivered so far, those that
had been delivered when the call looked and found its state complete, and what kept the call
from waiting at all. -/
structure Run (σ κ ε α : Type) where
  state : σ
  phase : Phase ε α := .starting
  registered : Bool := false
  canceled : Bool := false
  delivered : List κ := []
  seen : Option (List κ) := none
  refused : Option ε := none

/-- **A step**: the call is refused before it has begun, or registers its callbacks, which
may fail with the callbacks registered; a callback is delivered; the call is canceled; it
looks at its complete state, or stops to wait for it; it takes its state back. -/
inductive Action (κ ε : Type)
  | refuse (e : ε)
  | register (failure : Option ε)
  | deliver (k : κ)
  | cancel
  | look
  | interrupt
  | timeOut
  | release

/-- The call stops to wait, where it has not yet what it waits for. -/
def giveUp (c : CallbackCall σ κ ε α) (s : Run σ κ ε α) (e : ε) : Option (Run σ κ ε α) :=
  match s.phase with
  | .waiting => if c.complete s.state then none else some { s with phase := .leaving (.error e) }
  | _ => none

/-- **The step of a call.** -/
def step (c : CallbackCall σ κ ε α) (s : Run σ κ ε α) : Action κ ε → Option (Run σ κ ε α)
  | .refuse e =>
    match s.phase with
    | .starting => some { s with phase := .leaving (.error e), refused := some e }
    | _ => none
  | .register failure =>
    match s.phase, failure with
    | .starting, none => some { s with registered := true, phase := .waiting }
    | .starting, some e =>
      some { s with registered := true, phase := .leaving (.error e), refused := some e }
    | _, _ => none
  | .deliver k =>
    if s.registered then
      some { s with state := c.deliver k s.state, delivered := s.delivered ++ [k] }
    else none
  | .cancel => some { s with canceled := true }
  | .look =>
    match s.phase with
    | .waiting =>
      if c.complete s.state then
        some { s with phase := .leaving (c.verdict s.state), seen := some s.delivered }
      else none
    | _ => none
  | .interrupt => if s.canceled then c.interrupted.bind (giveUp c s) else none
  | .timeOut => giveUp c s c.timedOut
  | .release =>
    match s.phase with
    | .leaving r =>
      some { s with state := c.close s.state, phase := .returned r, registered := false }
    | _ => none

/-- **All runs of a call.** -/
def machine (c : CallbackCall σ κ ε α) : Machine (Run σ κ ε α) (Action κ ε) :=
  ⟨{ state := c.initial }, step c⟩

theorem machine_step (c : CallbackCall σ κ ε α) : c.machine.step = c.step := rfl

/-- The state after some callbacks. -/
def after (c : CallbackCall σ κ ε α) (ks : List κ) : σ :=
  ks.foldl (fun s k => c.deliver k s) c.initial

@[simp] theorem after_concat (c : CallbackCall σ κ ε α) (ks : List κ) (k : κ) :
    c.after (ks ++ [k]) = c.deliver k (c.after ks) := by
  rw [after, List.foldl_append]
  rfl

section After

variable {β : Type} (c : CallbackCall σ κ ε α) (P : σ → Prop)

/-- What every callback keeps holds after any. -/
theorem after_keeps (hstart : P c.initial) (hkeep : ∀ k s, P s → P (c.deliver k s))
    (ks : List κ) : P (c.after ks) := by
  induction ks using List.reverseRecOn with
  | nil => exact hstart
  | append_singleton ks k ih =>
    rw [after_concat]
    exact hkeep k _ ih

/-- **A field that callbacks store to** holds what they have stored, in their order. -/
theorem after_fold {γ : Type} (store : β → γ → γ) (hP : ∀ ks, P (c.after ks)) {get : σ → γ}
    {stored : κ → Option β}
    (hget : ∀ k s, P s → get (c.deliver k s) = (stored k).elim (get s) fun b => store b (get s))
    (ks : List κ) :
    get (c.after ks) = (ks.filterMap stored).foldl (fun g b => store b g) (get c.initial) := by
  induction ks using List.reverseRecOn with
  | nil => rfl
  | append_singleton ks k ih =>
    rw [after_concat, hget k _ (hP ks), ih, List.filterMap_append, List.foldl_append]
    cases hk : stored k <;> simp [hk]

/-- Of what is overwritten, the last is left. -/
theorem foldl_overwrite (g : β) (bs : List β) :
    bs.foldl (fun _ b => b) g = bs.getLast?.getD g := by
  induction bs using List.reverseRecOn with
  | nil => rfl
  | append_singleton bs b _ => simp

/-- So it is where nothing was there before. -/
theorem foldl_overwrite_none (bs : List β) :
    bs.foldl (fun _ b => some b) none = bs.getLast? := by
  induction bs using List.reverseRecOn with
  | nil => rfl
  | append_singleton bs b _ => simp

/-- **A field that callbacks overwrite** holds what was written last. -/
theorem after_last (hP : ∀ ks, P (c.after ks)) {get : σ → β} {written : κ → Option β}
    (hget : ∀ k s, P s → get (c.deliver k s) = (written k).getD (get s)) (ks : List κ) :
    get (c.after ks) = ((ks.filterMap written).getLast?).getD (get c.initial) := by
  rw [← foldl_overwrite]
  refine c.after_fold P (fun b _ => b) hP (fun k s hs => ?_) ks
  rw [hget k s hs]
  cases written k <;> rfl

end After

/-! ## What is known of a run -/

/-- **What an exception of a call tells** where the call has not seen its state complete: it
was kept from waiting, or has waited long enough, or was canceled. -/
def Unanswered (c : CallbackCall σ κ ε α) (s : Run σ κ ε α) (e : ε) : Prop :=
  s.refused = some e ∨ e = c.timedOut ∨ (s.canceled = true ∧ c.interrupted = some e)

/-- What has happened where a call stands. The state is what the callbacks made of it until
the call takes it back; the outcome of a call that has seen its state complete is what the
call made of that state, and that of a call that has not is no value. -/
structure Inv (c : CallbackCall σ κ ε α) (s : Run σ κ ε α) : Prop where
  state : (∀ r, s.phase ≠ .returned r) → s.state = c.after s.delivered
  starting : s.phase = .starting → s.registered = false ∧ s.seen = none
  waiting : s.phase = .waiting → s.seen = none
  returned : ∀ r, s.phase = .returned r → s.registered = false
  seen : ∀ ks, s.seen = some ks → ks <+: s.delivered ∧ c.complete (c.after ks) = true ∧
    s.phase.outcome = some (c.verdict (c.after ks))
  unseen : s.seen = none → ∀ r, s.phase.outcome = some r →
    ∃ e, r = .error e ∧ c.Unanswered s e

theorem inv_start (c : CallbackCall σ κ ε α) : Inv c { state := c.initial } where
  state := fun _ => rfl
  starting := fun _ => ⟨rfl, rfl⟩
  waiting := fun _ => rfl
  returned := fun _ h => by cases h
  seen := fun _ h => by cases h
  unseen := fun _ _ h => by cases h

variable {c : CallbackCall σ κ ε α} {s t : Run σ κ ε α}

/-- A call that leaves with an exception before it has seen anything. -/
theorem Inv.leave (h : Inv c s) {e : ε} {registered : Bool} {refused : Option ε}
    (hphase : s.phase = .starting ∨ s.phase = .waiting)
    (he : refused = some e ∨ e = c.timedOut ∨ (s.canceled = true ∧ c.interrupted = some e)) :
    Inv c { s with
      registered := registered, phase := .leaving (.error e), refused := refused } where
  state := fun _ => h.state fun r => by
    rcases hphase with hp | hp <;> rw [hp] <;> nofun
  starting := fun hp => by cases hp
  waiting := fun hp => by cases hp
  returned := fun _ hp => by cases hp
  seen := fun ks hks => by
    have hnone : s.seen = none := hphase.elim (fun hp => (h.starting hp).2) h.waiting
    rw [show s.seen = some ks from hks] at hnone
    cases hnone
  unseen := fun _ _ hr => by
    cases hr
    exact ⟨e, rfl, he⟩

/-- So does one that stops to wait. -/
theorem Inv.giveUp (h : Inv c s) {e : ε} (hst : c.giveUp s e = some t)
    (he : e = c.timedOut ∨ (s.canceled = true ∧ c.interrupted = some e)) : Inv c t := by
  unfold CallbackCall.giveUp at hst
  split at hst
  · rename_i hp
    split at hst
    · cases hst
    · cases hst
      exact h.leave (Or.inr hp) (Or.inr he)
  · cases hst

/-- **A callback changes the state, and what has been delivered**, and nothing that the call
has seen or decided. -/
theorem Inv.deliver (h : Inv c s) (k : κ) (hreg : s.registered = true) :
    Inv c { s with state := c.deliver k s.state, delivered := s.delivered ++ [k] } where
  state := fun hr => by
    rw [after_concat, h.state hr]
  starting := fun hp => by
    rw [(h.starting hp).1] at hreg
    cases hreg
  waiting := h.waiting
  returned := h.returned
  seen := fun ks hks => by
    obtain ⟨hpre, hrest⟩ := h.seen ks hks
    exact ⟨hpre.trans (List.prefix_append _ _), hrest⟩
  unseen := h.unseen

/-- **The call looks**: its outcome is what it makes of the callbacks delivered so far. -/
theorem Inv.look (h : Inv c s) (hp : s.phase = .waiting)
    (hcomplete : c.complete s.state = true) :
    Inv c { s with phase := .leaving (c.verdict s.state), seen := some s.delivered } := by
  have hstate : s.state = c.after s.delivered := h.state fun r => by rw [hp]; nofun
  exact
    { state := fun _ => hstate
      starting := fun hq => by cases hq
      waiting := fun hq => by cases hq
      returned := fun _ hq => by cases hq
      seen := fun ks hks => by
        cases hks
        exact ⟨List.prefix_rfl, hstate ▸ hcomplete, by rw [← hstate]; rfl⟩
      unseen := fun hnone => by cases hnone }

/-- The call takes its state back. -/
theorem Inv.release (h : Inv c s) {r : Except ε α} (hp : s.phase = .leaving r) :
    Inv c { s with state := c.close s.state, phase := .returned r, registered := false } where
  state := fun hr => absurd rfl (hr r)
  starting := fun hq => by cases hq
  waiting := fun hq => by cases hq
  returned := fun _ _ => rfl
  seen := fun ks hks => by
    obtain ⟨hpre, hcomplete, houtcome⟩ := h.seen ks hks
    rw [hp] at houtcome
    exact ⟨hpre, hcomplete, houtcome⟩
  unseen := fun hnone r' hr => h.unseen hnone r' (by rw [hp]; exact hr)

/-- The call waits. -/
theorem Inv.wait (h : Inv c s) (hp : s.phase = .starting) :
    Inv c { s with registered := true, phase := .waiting } where
  state := fun _ => h.state fun r => by rw [hp]; nofun
  starting := fun hq => by cases hq
  waiting := fun _ => (h.starting hp).2
  returned := fun _ hq => by cases hq
  seen := fun ks hks => by
    have hnone := (h.starting hp).2
    rw [show s.seen = some ks from hks] at hnone
    cases hnone
  unseen := fun _ _ hr => by cases hr

/-- **Every step keeps what is known.** -/
theorem Inv.step (h : Inv c s) {a : Action κ ε} (hst : c.step s a = some t) : Inv c t := by
  cases a with
  | refuse e =>
    simp only [CallbackCall.step] at hst
    split at hst
    · rename_i hp
      cases hst
      exact h.leave (Or.inl hp) (Or.inl rfl)
    · cases hst
  | register failure =>
    simp only [CallbackCall.step] at hst
    split at hst
    · rename_i hp
      cases hst
      exact h.wait hp
    · rename_i e hp
      cases hst
      exact h.leave (Or.inl hp) (Or.inl rfl)
    · cases hst
  | deliver k =>
    simp only [CallbackCall.step] at hst
    split at hst
    · rename_i hreg
      cases hst
      exact h.deliver k hreg
    · cases hst
  | cancel =>
    cases hst
    refine ⟨h.state, h.starting, h.waiting, h.returned, h.seen, fun hnone r hr => ?_⟩
    obtain ⟨e, he, hwhy⟩ := h.unseen hnone r hr
    exact ⟨e, he, hwhy.imp_right (Or.imp_right fun hc => ⟨rfl, hc.2⟩)⟩
  | look =>
    simp only [CallbackCall.step] at hst
    split at hst
    · rename_i hp
      split at hst
      · rename_i hcomplete
        cases hst
        exact h.look hp hcomplete
      · cases hst
    · cases hst
  | interrupt =>
    simp only [CallbackCall.step] at hst
    split at hst
    · rename_i hcanceled
      obtain ⟨e, he, hst⟩ := Option.bind_eq_some_iff.mp hst
      exact h.giveUp hst (Or.inr ⟨hcanceled, he⟩)
    · cases hst
  | timeOut => exact h.giveUp hst (Or.inl rfl)
  | release =>
    simp only [CallbackCall.step] at hst
    split at hst
    · rename_i r hp
      cases hst
      exact h.release hp
    · cases hst

/-- What is known of every run. -/
theorem inv_of_reachable (h : c.machine.Reachable s) : Inv c s :=
  h.invariant (inv_start c) fun _ _ _ _ hs hst => hs.step hst

/-! ## The steps a call has left -/

/-- The steps of its own that a call has left, at most. -/
def Phase.weight : Phase ε α → ℕ
  | .starting => 3
  | .waiting => 2
  | .leaving _ => 1
  | .returned _ => 0

/-- A call that stops to wait is on its way out. -/
theorem weight_giveUp_lt {e : ε} (hst : c.giveUp s e = some t) :
    t.phase.weight < s.phase.weight := by
  unfold giveUp at hst
  split at hst
  · rename_i hp
    split at hst
    · cases hst
    · cases hst
      rw [hp]
      exact Nat.lt_succ_self 1
  · cases hst

/-- **A step of a call is one fewer**, but for a callback or its cancellation, which leave it
where it stands. -/
theorem weight_step {a : Action κ ε} (hst : c.step s a = some t) :
    t.phase.weight < s.phase.weight ∨
      t.phase = s.phase ∧ (a = .cancel ∨ ∃ k, a = .deliver k) := by
  cases a with
  | deliver k =>
    simp only [CallbackCall.step] at hst
    split at hst
    · cases hst
      exact Or.inr ⟨rfl, Or.inr ⟨k, rfl⟩⟩
    · cases hst
  | cancel =>
    cases hst
    exact Or.inr ⟨rfl, Or.inl rfl⟩
  | interrupt =>
    simp only [CallbackCall.step] at hst
    split at hst
    · obtain ⟨e, -, hst⟩ := Option.bind_eq_some_iff.mp hst
      exact Or.inl (weight_giveUp_lt hst)
    · cases hst
  | timeOut => exact Or.inl (weight_giveUp_lt hst)
  | look =>
    simp only [CallbackCall.step] at hst
    split at hst
    · rename_i hp
      split at hst
      · cases hst
        exact Or.inl (by rw [hp]; exact Nat.lt_succ_self 1)
      · cases hst
    · cases hst
  | register failure =>
    simp only [CallbackCall.step] at hst
    split at hst
    · rename_i hp
      cases hst
      exact Or.inl (by rw [hp]; exact Nat.lt_succ_self 2)
    · rename_i hp
      cases hst
      exact Or.inl (by rw [hp]; exact (by decide : 1 < 3))
    · cases hst
  | refuse e =>
    simp only [CallbackCall.step] at hst
    split at hst
    · rename_i hp
      cases hst
      exact Or.inl (by rw [hp]; exact (by decide : 1 < 3))
    · cases hst
  | release =>
    simp only [CallbackCall.step] at hst
    split at hst
    · rename_i hp
      cases hst
      exact Or.inl (by rw [hp]; exact Nat.lt_succ_self 0)
    · cases hst

/-- **A call that has not returned can go on by itself**: it registers, it looks or has waited
long enough, it takes its state back. -/
theorem exists_step (c : CallbackCall σ κ ε α) (h : ∀ r, s.phase ≠ .returned r) :
    ∃ a, (a = .register none ∨ a = .look ∨ a = .timeOut ∨ a = .release) ∧
      (c.step s a).isSome = true := by
  cases hp : s.phase with
  | starting => exact ⟨.register none, Or.inl rfl, by simp [CallbackCall.step, hp]⟩
  | waiting =>
    cases hcomplete : c.complete s.state with
    | true => exact ⟨.look, by simp, by simp [CallbackCall.step, hp, hcomplete]⟩
    | false =>
      exact ⟨.timeOut, by simp, by simp [CallbackCall.step, giveUp, hp, hcomplete]⟩
  | leaving r => exact ⟨.release, by simp, by simp [CallbackCall.step, hp]⟩
  | returned r => exact absurd hp (h r)

/-! ## What a call returns -/

/-- **A call always comes to its end by itself.** Whatever has been delivered, and if nothing
is delivered any more, the call can go on until it has returned. -/
theorem leads_to_return (c : CallbackCall σ κ ε α) (s : Run σ κ ε α) :
    ∃ t r, c.machine.Leads s t ∧ t.phase = .returned r := by
  have leaving : ∀ (u : Run σ κ ε α) r, u.phase = .leaving r →
      ∃ t r, c.machine.Leads u t ∧ t.phase = .returned r := by
    intro u r hu
    have hst : c.machine.step u .release = some
        { u with state := c.close u.state, phase := .returned r, registered := false } := by
      simp only [machine_step, CallbackCall.step, hu]
    exact ⟨_, r, Machine.Leads.head hst (Machine.Leads.refl _ _), rfl⟩
  have step : ∀ (u v : Run σ κ ε α) a r, c.machine.step u a = some v → v.phase = .leaving r →
      ∃ t r, c.machine.Leads u t ∧ t.phase = .returned r := by
    intro u v a r hst hv
    obtain ⟨t, r', hlead, ht⟩ := leaving v r hv
    exact ⟨t, r', hlead.head hst, ht⟩
  cases hp : s.phase with
  | starting =>
    refine step s { s with phase := .leaving (.error c.timedOut), refused := some c.timedOut }
      (.refuse c.timedOut) _ ?_ rfl
    simp only [machine_step, CallbackCall.step, hp]
  | waiting =>
    cases hcomplete : c.complete s.state with
    | true =>
      refine step s { s with phase := .leaving (c.verdict s.state), seen := some s.delivered }
        .look _ ?_ rfl
      simp only [machine_step, CallbackCall.step, hp, hcomplete, if_true]
    | false =>
      refine step s { s with phase := .leaving (.error c.timedOut) } .timeOut _ ?_ rfl
      simp [machine_step, CallbackCall.step, CallbackCall.giveUp, hp, hcomplete]
  | leaving r => exact leaving s r hp
  | returned r => exact ⟨s, r, Machine.Leads.refl _ _, hp⟩

/-- **A run is accounted for** by what the callbacks of a list come to: a call that has seen
its state complete has the outcome of the callbacks that had been delivered then, the last
of which may be any that completes; a call that has not returns no value, and throws for a
reason of its own; and no callback reaches a call that has returned, to which every call can
come by itself. -/
structure Accounted (c : CallbackCall σ κ ε α) (outcome : List κ → Except ε α)
    (s : Run σ κ ε α) : Prop where
  seen : ∀ ks, s.seen = some ks → ks <+: s.delivered ∧ c.complete (c.after ks) = true ∧
    s.phase.outcome = some (outcome ks)
  unseen : s.seen = none → ∀ r, s.phase.outcome = some r →
    ∃ e, r = .error e ∧ c.Unanswered s e
  released : ∀ r, s.phase = .returned r → ∀ k, c.machine.step s (.deliver k) = none
  ends : ∃ t r, c.machine.Leads s t ∧ t.phase = .returned r

/-- **Every run is accounted for** by what a call makes of complete states. -/
theorem accounted {outcome : List κ → Except ε α}
    (houtcome : ∀ ks, c.complete (c.after ks) = true → c.verdict (c.after ks) = outcome ks)
    (h : c.machine.Reachable s) : c.Accounted outcome s where
  seen := fun ks hks => by
    obtain ⟨hpre, hcomplete, hr⟩ := (inv_of_reachable h).seen ks hks
    exact ⟨hpre, hcomplete, houtcome ks hcomplete ▸ hr⟩
  unseen := (inv_of_reachable h).unseen
  released := fun r hr k => by
    simp [machine_step, CallbackCall.step, (inv_of_reachable h).returned r hr]
  ends := c.leads_to_return s

end CallbackCall
