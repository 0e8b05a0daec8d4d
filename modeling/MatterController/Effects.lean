import Mathlib.Tactic.Common

/-!
# Programs that throw and keep their state

A program of `EStateM` has a state that an exception does not undo: what was
written before a throw is there in the handler and after it. `Ensures P x Q E`
says what such a program does from a state where `P` holds – where it returns,
`Q` of the value and the state, and where it throws, `E` of the exception and
the state – with one rule for each way to build a program.

The rules are used backwards, `bind` with the assertion between the two parts.
`answer` and `require` are for what does not touch the state, which are most
calls of the outside.
-/

namespace Effects

variable {ε σ α β : Type}

/-- The answer of a call: a value, or an exception. -/
def answer : Except ε α → EStateM ε σ α
  | .ok a => pure a
  | .error e => throw e

/-- Throws unless a test is passed. -/
def require (test : Bool) (e : ε) : EStateM ε σ Unit := if test then pure () else throw e

/-- **What a program does** from the states where `P` holds: `Q` holds where it returns,
and `E` where it throws. -/
def Ensures (P : σ → Prop) (x : EStateM ε σ α) (Q : α → σ → Prop) (E : ε → σ → Prop) : Prop :=
  ∀ s, P s → match x s with
    | .ok a t => Q a t
    | .error e t => E e t

variable {P P' : σ → Prop} {Q Q' : α → σ → Prop} {E E' : ε → σ → Prop}

/-- What is returned at once. -/
theorem ensures_pure {a : α} (h : ∀ s, P s → Q a s) : Ensures P (pure a) Q E :=
  fun s hs => h s hs

/-- What is thrown at once. -/
theorem ensures_throw {e : ε} (h : ∀ s, P s → E e s) :
    Ensures P (throw e : EStateM ε σ α) Q E :=
  fun s hs => h s hs

/-- The state is changed. -/
theorem ensures_modify {f : σ → σ} {R : Unit → σ → Prop} (h : ∀ s, P s → R () (f s)) :
    Ensures P (modify f : EStateM ε σ Unit) R E :=
  fun s hs => h s hs

/-- The state is looked at. -/
theorem ensures_get {R : σ → σ → Prop} (h : ∀ s, P s → R s s) :
    Ensures P (get : EStateM ε σ σ) R E :=
  fun s hs => h s hs

/-- A call of the outside, which leaves the state alone. -/
theorem ensures_answer {r : Except ε α} (hok : ∀ a s, r = .ok a → P s → Q a s)
    (herror : ∀ e s, P s → E e s) : Ensures P (answer r) Q E := by
  cases r with
  | ok a => exact ensures_pure fun s hs => hok a s rfl hs
  | error e => exact ensures_throw (herror e)

/-- After a test it is known to have been passed. -/
theorem ensures_require {test : Bool} {e : ε} {R : Unit → σ → Prop}
    (hok : ∀ s, test = true → P s → R () s) (herror : ∀ s, P s → E e s) :
    Ensures P (require test e) R E := by
  cases test with
  | true => exact ensures_pure fun s hs => hok s rfl hs
  | false => exact ensures_throw herror

/-- **One part after the other**, with what holds between them. -/
theorem Ensures.bind {x : EStateM ε σ β} {f : β → EStateM ε σ α} {R : β → σ → Prop}
    (hx : Ensures P x R E) (hf : ∀ b, Ensures (R b) (f b) Q E) : Ensures P (x >>= f) Q E := by
  intro s hs
  have h := hx s hs
  show match EStateM.bind x f s with
    | .ok a t => Q a t
    | .error e t => E e t
  unfold EStateM.bind
  cases hr : x s with
  | ok b t =>
    rw [hr] at h
    exact hf b t h
  | error e t =>
    rw [hr] at h
    exact h

/-- **A handler** starts from what holds where the part before it threw. -/
theorem Ensures.handle {x : EStateM ε σ α} {f : ε → EStateM ε σ α}
    (hx : Ensures P x Q E') (hf : ∀ e, Ensures (E' e) (f e) Q E) :
    Ensures P (tryCatch x f) Q E := by
  intro s hs
  have h := hx s hs
  show match EStateM.tryCatch x f s with
    | .ok a t => Q a t
    | .error e t => E e t
  unfold EStateM.tryCatch
  cases hr : x s with
  | ok a t =>
    rw [hr] at h
    exact h
  | error e t =>
    rw [hr] at h
    exact hf e t h

/-- Less is assumed, and more is ensured, than is asked. -/
theorem Ensures.mono {x : EStateM ε σ α} (h : Ensures P' x Q' E') (hP : ∀ s, P s → P' s)
    (hQ : ∀ a s, Q' a s → Q a s) (hE : ∀ e s, E' e s → E e s) : Ensures P x Q E := by
  intro s hs
  have hx := h s (hP s hs)
  cases hr : x s with
  | ok a t =>
    rw [hr] at hx
    exact hQ a t hx
  | error e t =>
    rw [hr] at hx
    exact hE e t hx

/-- **What a run that returned ensures.** -/
theorem Ensures.of_ok {x : EStateM ε σ α} (h : Ensures P x Q E) {s t : σ} {a : α} (hs : P s)
    (hr : x s = .ok a t) : Q a t := by
  have hx := h s hs
  rw [hr] at hx
  exact hx

/-! ## Programs known exactly

`Ensures` says what follows of a run. Where a program does not depend on its state, what it
returns can be said exactly, by a condition on values that only one value can meet. -/

/-- **A program yields** the one value that meets `R`; where no value does, it throws an
exception that `A` allows. The states stay within `I`. -/
def Yields (I : σ → Prop) (A : ε → Prop) (x : EStateM ε σ α) (R : α → Prop) : Prop :=
  ∀ s, I s → match x s with
    | .ok a t => (∀ b, R b ↔ b = a) ∧ I t
    | .error e t => (∀ b, ¬ R b) ∧ A e ∧ I t

variable {I : σ → Prop} {A : ε → Prop} {R : β → Prop} {T : β → α → Prop}

theorem yields_pure (a : α) : Yields I A (pure a) (· = a) :=
  fun _ hs => ⟨fun _ => Iff.rfl, hs⟩

/-- The state may change within `I`. -/
theorem yields_modify {f : σ → σ} (h : ∀ s, I s → I (f s)) :
    Yields I A (modify f) (fun _ => True) :=
  fun s hs => ⟨fun _ => ⟨fun _ => rfl, fun _ => trivial⟩, h s hs⟩

/-- A call of the outside yields its answer. -/
theorem yields_answer {r : Except ε α} (h : ∀ e, r = .error e → A e) :
    Yields I A (answer r) (r = .ok ·) := by
  cases r with
  | ok a =>
    exact fun s hs => ⟨fun b => ⟨fun hb => (Except.ok.inj hb).symm, fun hb => by rw [hb]⟩, hs⟩
  | error e => exact fun s hs => ⟨fun b hb => (by cases hb), h e rfl, hs⟩

theorem yields_require {test : Bool} {e : ε} (h : A e) :
    Yields I A (require test e) (fun _ => test = true) := by
  cases test with
  | true => exact fun s hs => ⟨fun _ => ⟨fun _ => rfl, fun _ => rfl⟩, hs⟩
  | false => exact fun s hs => ⟨fun _ => Bool.false_ne_true, h, hs⟩

/-- **One part after the other** yields what the second yields from what the first does. -/
theorem Yields.bind {x : EStateM ε σ β} {f : β → EStateM ε σ α} (hx : Yields I A x R)
    (hf : ∀ b, R b → Yields I A (f b) (T b)) :
    Yields I A (x >>= f) (fun a => ∃ b, R b ∧ T b a) := by
  intro s hs
  have h := hx s hs
  show match EStateM.bind x f s with
    | .ok a t => (∀ b, (∃ c, R c ∧ T c b) ↔ b = a) ∧ I t
    | .error e t => (∀ b, ¬ ∃ c, R c ∧ T c b) ∧ A e ∧ I t
  unfold EStateM.bind
  cases hr : x s with
  | error e t =>
    rw [hr] at h
    exact ⟨fun b ⟨c, hc, _⟩ => h.1 c hc, h.2⟩
  | ok b t =>
    rw [hr] at h
    have hrest := hf b ((h.1 b).mpr rfl) t h.2
    dsimp only
    cases hr' : f b t with
    | error e u =>
      rw [hr'] at hrest
      refine ⟨fun a ⟨c, hc, ha⟩ => ?_, hrest.2⟩
      rw [(h.1 c).mp hc] at ha
      exact hrest.1 a ha
    | ok a u =>
      rw [hr'] at hrest
      refine ⟨fun a' => ⟨fun ⟨c, hc, ha⟩ => ?_, fun ha => ⟨b, (h.1 b).mpr rfl, ?_⟩⟩, hrest.2⟩
      · rw [(h.1 c).mp hc] at ha
        exact (hrest.1 a').mp ha
      · exact (hrest.1 a').mpr ha

/-- The condition may be said in other words. -/
theorem Yields.congr {x : EStateM ε σ β} {R' : β → Prop} (h : Yields I A x R)
    (hR : ∀ b, R b ↔ R' b) : Yields I A x R' := by
  rwa [show R' = R from funext fun b => propext (hR b).symm]

/-! ## Programs that are computations -/

section Computations

variable {ρ : Type} {view : σ → ρ}

/-- The result of a computation, in a state. -/
def resultAt : Except ε α → σ → EStateM.Result ε σ α
  | .ok a, s => .ok a s
  | .error e, s => .error e s

/-- **A program computes** a result, whatever its state is, and keeps what is seen of the
state. -/
def Computes (view : σ → ρ) (x : EStateM ε σ α) (r : Except ε α) : Prop :=
  ∀ s, ∃ t, view t = view s ∧ x s = resultAt r t

theorem computes_pure (a : α) : Computes view (pure a : EStateM ε σ α) (.ok a) :=
  fun s => ⟨s, rfl, rfl⟩

/-- What is seen of the state must not change. -/
theorem computes_modify {f : σ → σ} (h : ∀ s, view (f s) = view s) :
    Computes view (modify f : EStateM ε σ Unit) (.ok ()) :=
  fun s => ⟨f s, h s, rfl⟩

/-- A call of the outside computes its answer. -/
theorem computes_answer (r : Except ε α) : Computes view (answer r : EStateM ε σ α) r := by
  cases r with
  | ok a => exact computes_pure a
  | error e => exact fun s => ⟨s, rfl, rfl⟩

/-- **One part after the other** computes what their computations do. -/
theorem Computes.bind {x : EStateM ε σ β} {f : β → EStateM ε σ α} {r : Except ε β}
    {g : β → Except ε α} (hx : Computes view x r) (hf : ∀ b, Computes view (f b) (g b)) :
    Computes view (x >>= f) (r >>= g) := by
  intro s
  obtain ⟨t, hview, ht⟩ := hx s
  show ∃ u, view u = view s ∧ EStateM.bind x f s = _
  unfold EStateM.bind
  rw [ht]
  cases r with
  | error e => exact ⟨t, hview, rfl⟩
  | ok b =>
    obtain ⟨u, hview', hu⟩ := hf b t
    exact ⟨u, hview'.trans hview, hu⟩

/-- A value that it returns is its result. -/
theorem Computes.of_ok {x : EStateM ε σ α} {r : Except ε α} (h : Computes view x r) {s t : σ}
    {a : α} (hr : x s = .ok a t) : r = .ok a := by
  obtain ⟨u, -, hu⟩ := h s
  rw [hr] at hu
  cases r with
  | error e => cases hu
  | ok b =>
    cases hu
    rfl

end Computations

/-! ## Programs beside each other -/

/-- **A program follows another**: where the other returns a value, it returns the image of
that value, and leaves the same state. -/
def Follows (x : EStateM ε σ α) (y : EStateM ε σ β) (f : α → β) : Prop :=
  ∀ ⦃s a t⦄, x s = .ok a t → y s = .ok (f a) t

theorem follows_refl (x : EStateM ε σ α) : Follows x x id := fun _ _ _ h => h

/-- **One part after the other** follows where the parts do. -/
theorem Follows.bind {γ δ : Type} {x : EStateM ε σ α} {y : EStateM ε σ β} {f : α → β}
    {k : α → EStateM ε σ γ} {l : β → EStateM ε σ δ} {g : γ → δ} (h : Follows x y f)
    (hk : ∀ a, Follows (k a) (l (f a)) g) : Follows (x >>= k) (y >>= l) g := by
  intro s c t hrun
  change EStateM.bind x k s = _ at hrun
  show EStateM.bind y l s = _
  unfold EStateM.bind at hrun ⊢
  cases hx : x s with
  | error e u =>
    rw [hx] at hrun
    cases hrun
  | ok a u =>
    rw [hx] at hrun
    rw [h hx]
    exact hk a hrun

/-- A part that is the same in both. -/
theorem follows_bind_same {γ δ : Type} {x : EStateM ε σ α} {k : α → EStateM ε σ γ}
    {l : α → EStateM ε σ δ} {g : γ → δ} (hk : ∀ a, Follows (k a) (l a) g) :
    Follows (x >>= k) (x >>= l) g :=
  (follows_refl x).bind hk

/-- What is returned in the end. -/
theorem follows_pure {f : α → β} {a : α} {b : β} (hb : b = f a) :
    Follows (pure a : EStateM ε σ α) (pure b : EStateM ε σ β) f := by
  subst hb
  intro s c t h
  cases h
  rfl

/-! ## Programs that mirror others

The two programs may have different states and exceptions. -/

section Mirrors

variable {ε' τ γ δ : Type} {R : σ → τ → Prop} {g : ε → ε'} {f : β → α}

/-- **A program mirrors another**, from states that `R` relates: where the other returns a
value, it returns the image of that value, and where the other throws the image of an exception,
it throws that exception. `R` relates the states that are left. -/
def Mirrors (R : σ → τ → Prop) (g : ε → ε') (f : β → α) (x : EStateM ε σ α)
    (y : EStateM ε' τ β) : Prop :=
  ∀ s t, R s t → match y t with
    | .ok b t' => ∃ s', x s = .ok (f b) s' ∧ R s' t'
    | .error e' t' => ∀ e, g e = e' → ∃ s', x s = .error e s' ∧ R s' t'

/-- The value must be the image of the other. -/
theorem mirrors_pure {a : α} {b : β} (h : a = f b) :
    Mirrors R g f (pure a : EStateM ε σ α) (pure b) := by
  subst h
  exact fun s _ hs => ⟨s, rfl, hs⟩

/-- The states must stay related. -/
theorem mirrors_modify {p : σ → σ} {q : τ → τ} (h : ∀ s t, R s t → R (p s) (q t)) :
    Mirrors R g id (modify p : EStateM ε σ Unit) (modify q) :=
  fun s t hs => ⟨p s, rfl, h s t hs⟩

/-- The same test, with two exceptions that belong together. -/
theorem mirrors_require (hg : Function.Injective g) (test : Bool) (e : ε) :
    Mirrors R g id (require test e : EStateM ε σ Unit) (require test (g e)) := by
  cases test with
  | true => exact mirrors_pure rfl
  | false =>
    intro s t hs e' he
    cases hg he
    exact ⟨s, rfl, hs⟩

/-- **An answer mirrors a computation** that has the same result, if the states stay related
as long as what is seen of them is the same. -/
theorem mirrors_answer {ρ : Type} {view : τ → ρ} {r : Except ε α} {r' : Except ε' β}
    {y : EStateM ε' τ β} (hy : Computes view y r')
    (hR : ∀ s t t', view t' = view t → R s t → R s t') (hok : ∀ b, r' = .ok b → r = .ok (f b))
    (herror : ∀ e, r' = .error (g e) → r = .error e) : Mirrors R g f (answer r) y := by
  intro s t hs
  obtain ⟨t', hview, ht'⟩ := hy t
  rw [ht']
  cases r' with
  | ok b =>
    rw [hok b rfl]
    exact ⟨s, rfl, hR s t t' hview hs⟩
  | error e' =>
    rintro e rfl
    rw [herror e rfl]
    exact ⟨s, rfl, hR s t t' hview hs⟩

/-- **One part after the other** mirrors where the parts do; the second may use that the first
has returned a value. -/
theorem Mirrors.bind {f' : δ → γ} {x : EStateM ε σ α} {y : EStateM ε' τ β}
    {k : α → EStateM ε σ γ} {l : β → EStateM ε' τ δ} (h : Mirrors R g f x y)
    (hk : ∀ b, (∃ t t', y t = .ok b t') → Mirrors R g f' (k (f b)) (l b)) :
    Mirrors R g f' (x >>= k) (y >>= l) := by
  show Mirrors R g f' (EStateM.bind x k) (EStateM.bind y l)
  intro s t hs
  have hx := h s t hs
  unfold EStateM.bind
  cases hy : y t with
  | error e' t' =>
    rw [hy] at hx
    intro e he
    obtain ⟨s', hs', hR⟩ := hx e he
    exact ⟨s', by rw [hs'], hR⟩
  | ok b t' =>
    rw [hy] at hx
    obtain ⟨s', hs', hR⟩ := hx
    rw [hs']
    exact hk b ⟨t, t', hy⟩ s' t' hR

end Mirrors

end Effects
