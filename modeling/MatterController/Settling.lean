import MatterController.Effects

/-!
# Programs that may fail badly

Of the ways a program can throw, some are as they should be and some are not. `Settles` says
of a program whether it returns and whether it throws in a bad way, by two propositions that
do not speak of the program. There is one rule for each way to build a program: one part
after the other returns where both do, and fails badly where the first does, or where the
first returns and the second does.

A program that looks at one thing after another is described by the list of what it looks
at. It goes on where a thing is sound, so it fails badly where the first that is not sound
is wrong (`FirstWrong`). `Scans` says so of a program, and its rule puts two lists together.
-/

namespace Effects

variable {ε σ α β : Type}

/-- **A program settles**, from the states where `P` holds. Where it returns, `S` holds and
`B` does not, `R` holds of the value and `M` of the state; where it throws, `S` does not hold,
and `B` just where the failure is bad – where `E` holds of it. -/
def Settles (E : ε → σ → Prop) (P : σ → Prop) (x : EStateM ε σ α) (S B : Prop) (R : α → Prop)
    (M : σ → Prop) : Prop :=
  ∀ s, P s → match x s with
    | .ok a t => S ∧ ¬ B ∧ R a ∧ M t
    | .error e t => ¬ S ∧ (E e t ↔ B)

section Rules

variable {E : ε → σ → Prop} {P M N : σ → Prop} {R : β → Prop} {T : α → Prop}
  {S S' B B' : Prop}

/-- A program that returns at once. -/
theorem settles_pure {a : α} (h : T a) : Settles E P (pure a) True False T P :=
  fun _ hs => ⟨trivial, not_false, h, hs⟩

/-- A change of the state returns. -/
theorem settles_modify {f : σ → σ} (h : ∀ s, P s → M (f s)) :
    Settles E P (modify f) True False (fun _ => True) M :=
  fun s hs => ⟨trivial, not_false, trivial, h s hs⟩

/-- A test that throws what is not bad. -/
theorem settles_require {test : Bool} {e : ε} (h : ∀ s, P s → test = false → ¬ E e s) :
    Settles E P (require test e) (test = true) False (fun _ => test = true) P := by
  cases test with
  | true => exact fun s hs => ⟨rfl, not_false, rfl, hs⟩
  | false => exact fun s hs => ⟨Bool.false_ne_true, iff_false_intro (h s hs rfl)⟩

/-- A call of the outside settles as its answer does. -/
theorem settles_answer {r : Except ε α} (hok : ∀ a s, r = .ok a → P s → S ∧ ¬ B ∧ T a ∧ M s)
    (herror : ∀ e s, r = .error e → P s → ¬ S ∧ (E e s ↔ B)) :
    Settles E P (answer r) S B T M := by
  cases r with
  | ok a => exact fun s hs => hok a s rfl hs
  | error e => exact fun s hs => herror e s rfl hs

/-- **One part after the other** returns where both do, and fails badly where the first
does, or where the first returns and the second does. -/
theorem Settles.bind {x : EStateM ε σ β} {f : β → EStateM ε σ α} (hx : Settles E P x S B R M)
    (hf : ∀ b, R b → Settles E M (f b) S' B' T N) :
    Settles E P (x >>= f) (S ∧ S') (B ∨ S ∧ B') T N := by
  intro s hs
  have h := hx s hs
  show match EStateM.bind x f s with
    | .ok a t => (S ∧ S') ∧ ¬ (B ∨ S ∧ B') ∧ T a ∧ N t
    | .error e t => ¬ (S ∧ S') ∧ (E e t ↔ B ∨ S ∧ B')
  unfold EStateM.bind
  cases hr : x s with
  | error e t =>
    rw [hr] at h
    exact ⟨fun hS => h.1 hS.1, h.2.trans ⟨Or.inl, fun hB => hB.resolve_right fun hS => h.1 hS.1⟩⟩
  | ok b t =>
    rw [hr] at h
    obtain ⟨hS, hB, hb, ht⟩ := h
    -- the first part has returned, so all depends on the second
    have hB' : (B ∨ S ∧ B') ↔ B' :=
      ⟨fun h => (h.resolve_left hB).2, fun h => Or.inr ⟨hS, h⟩⟩
    have hrest := hf b hb t ht
    rw [hB']
    dsimp only
    cases hr' : f b t with
    | ok a u =>
      rw [hr'] at hrest
      exact ⟨⟨hS, hrest.1⟩, hrest.2⟩
    | error e u =>
      rw [hr'] at hrest
      exact ⟨fun h => hrest.1 h.2, hrest.2⟩

/-- **A program that yields a value settles**: it returns where some value meets the condition,
and does not fail badly. -/
theorem Yields.settles {A : ε → Prop} {x : EStateM ε σ β} (h : Yields P A x R)
    (hE : ∀ e t, A e → P t → ¬ E e t) : Settles E P x (∃ b, R b) False R P := by
  intro s hs
  have hx := h s hs
  cases hr : x s with
  | ok b t =>
    rw [hr] at hx
    have hb : R b := (hx.1 b).mpr rfl
    exact ⟨⟨b, hb⟩, not_false, hb, hx.2⟩
  | error e t =>
    rw [hr] at hx
    exact ⟨fun ⟨b, hb⟩ => hx.1 b hb, iff_false_intro (hE e t hx.2.1 hx.2.2)⟩

/-- The value it yields is one. -/
theorem Yields.unique {A : ε → Prop} {x : EStateM ε σ β} (h : Yields P A x R) {s : σ} (hs : P s)
    {b b' : β} (hb : R b) (hb' : R b') : b = b' := by
  have hx := h s hs
  cases hr : x s with
  | ok c t =>
    rw [hr] at hx
    rw [(hx.1 b).mp hb, (hx.1 b').mp hb']
  | error e t =>
    rw [hr] at hx
    exact absurd hb (hx.1 b)

/-- **The second part may use that the first has returned.** -/
theorem Settles.bindKnown {x : EStateM ε σ β} {f : β → EStateM ε σ α}
    (hx : Settles E P x S B R M) (hf : ∀ b, S → R b → Settles E M (f b) S' B' T N) :
    Settles E P (x >>= f) (S ∧ S') (B ∨ S ∧ B') T N := by
  by_cases hS : S
  · exact hx.bind fun b => hf b hS
  · -- the first part throws, whatever comes after it
    intro s hs
    have h := hx s hs
    show match EStateM.bind x f s with
      | .ok a t => (S ∧ S') ∧ ¬ (B ∨ S ∧ B') ∧ T a ∧ N t
      | .error e t => ¬ (S ∧ S') ∧ (E e t ↔ B ∨ S ∧ B')
    unfold EStateM.bind
    cases hr : x s with
    | ok b t =>
      rw [hr] at h
      exact absurd h.1 hS
    | error e t =>
      rw [hr] at h
      exact ⟨fun hS' => hS hS'.1, h.2.trans ⟨Or.inl, fun hB => hB.resolve_right fun h => hS h.1⟩⟩

/-- The conditions may be said in other words. -/
theorem Settles.congr {x : EStateM ε σ β} (h : Settles E P x S B R M) (hS : S ↔ S')
    (hB : B ↔ B') : Settles E P x S' B' R M := by
  rwa [show S' = S from propext hS.symm, show B' = B from propext hB.symm]

/-- More is assumed, and less is kept, than is asked. -/
theorem Settles.mono {x : EStateM ε σ β} {P' M' : σ → Prop} {R' : β → Prop}
    (h : Settles E P x S B R M) (hP : ∀ s, P' s → P s) (hR : ∀ b, R b → R' b)
    (hM : ∀ s, M s → M' s) : Settles E P' x S B R' M' := by
  intro s hs
  have hx := h s (hP s hs)
  cases hr : x s with
  | ok b t =>
    rw [hr] at hx
    exact ⟨hx.1, hx.2.1, hR b hx.2.2.1, hM t hx.2.2.2⟩
  | error e t =>
    rw [hr] at hx
    exact hx

/-- **What follows may depend on a value** that only one value can be: the condition is then
on this value. -/
theorem Settles.bindValue {x : EStateM ε σ β} {f : β → EStateM ε σ α} {C D : β → Prop}
    (hx : Settles E P x (∃ b, R b) B R M) (unique : ∀ b b', R b → R b' → b = b')
    (hf : ∀ b, R b → Settles E M (f b) (C b) (D b) T N) :
    Settles E P (x >>= f) (∃ b, R b ∧ C b) (B ∨ ∃ b, R b ∧ D b) T N := by
  have hvalue : ∀ {C : β → Prop} (b), R b → (C b ↔ ∃ b, R b ∧ C b) := fun b hb =>
    ⟨fun h => ⟨b, hb, h⟩, fun ⟨b', hb', h⟩ => unique b' b hb' hb ▸ h⟩
  refine (hx.bind fun b hb => (hf b hb).congr (hvalue b hb) (hvalue b hb)).congr ?_ ?_
  · exact and_iff_right_of_imp fun ⟨b, hb, _⟩ => ⟨b, hb⟩
  · exact or_congr_right (and_iff_right_of_imp fun ⟨b, hb, _⟩ => ⟨b, hb⟩)

/-- **What follows a value that is yielded** settles as the whole does. -/
theorem Yields.bindSettles {A : ε → Prop} {x : EStateM ε σ β} {f : β → EStateM ε σ α}
    {C D : β → Prop} (hx : Yields P A x R) (hE : ∀ e t, A e → P t → ¬ E e t)
    (hf : ∀ b, R b → Settles E P (f b) (C b) (D b) T N) :
    Settles E P (x >>= f) (∃ b, R b ∧ C b) (∃ b, R b ∧ D b) T N := by
  intro s hs
  exact (((hx.settles hE).bindValue (fun _ _ => hx.unique hs) hf).congr Iff.rfl
    (or_iff_right not_false)) s hs

/-- **A bad failure** is a run to one. -/
theorem Settles.fails_iff {x : EStateM ε σ β} (h : Settles E P x S B R M) {s : σ} (hs : P s) :
    (∃ e t, x s = .error e t ∧ E e t) ↔ B := by
  have hx := h s hs
  cases hr : x s with
  | ok b t =>
    rw [hr] at hx
    exact ⟨fun ⟨_, _, h, _⟩ => (by cases h), fun hB => absurd hB hx.2.1⟩
  | error e t =>
    rw [hr] at hx
    refine ⟨?_, fun hB => ⟨e, t, rfl, hx.2.mpr hB⟩⟩
    rintro ⟨_, _, h, hE⟩
    cases h
    exact hx.2.mp hE

end Rules

/-! ## One thing after another -/

section Scans

variable {ι : Type} {sound wrong : ι → Prop}

/-- **The first thing that is not sound is wrong.** -/
def FirstWrong (sound wrong : ι → Prop) (l : List ι) : Prop :=
  ∃ before a after, l = before ++ a :: after ∧ (∀ b ∈ before, sound b) ∧ wrong a

theorem firstWrong_nil : ¬ FirstWrong sound wrong [] := by
  rintro ⟨before, a, after, h, -⟩
  cases before <;> cases h

theorem firstWrong_singleton {a : ι} : FirstWrong sound wrong [a] ↔ wrong a := by
  constructor
  · rintro ⟨before, b, after, h, -, hb⟩
    cases before with
    | nil =>
      cases h
      exact hb
    | cons c before =>
      cases before <;> cases h
  · exact fun h => ⟨[], a, [], rfl, fun b hb => absurd hb List.not_mem_nil, h⟩

/-- Of two lists it is the first of the one, or the one is sound and it is the first of the
other. -/
theorem firstWrong_append {l l' : List ι} :
    FirstWrong sound wrong (l ++ l') ↔
      FirstWrong sound wrong l ∨ (∀ b ∈ l, sound b) ∧ FirstWrong sound wrong l' := by
  constructor
  · rintro ⟨before, a, after, h, hbefore, ha⟩
    rcases List.append_eq_append_iff.mp h with ⟨m, rfl, hl'⟩ | ⟨m, rfl, hrest⟩
    · refine Or.inr ⟨fun b hb => hbefore b (List.mem_append_left m hb), m, a, after, hl', ?_, ha⟩
      exact fun b hb => hbefore b (List.mem_append_right l hb)
    · cases m with
      | nil =>
        refine Or.inr ⟨fun b hb => hbefore b (by simpa using hb), [], a, after, hrest.symm, ?_,
          ha⟩
        exact fun b hb => absurd hb List.not_mem_nil
      | cons c m =>
        cases hrest
        exact Or.inl ⟨before, a, m, rfl, hbefore, ha⟩
  · rintro (⟨before, a, after, rfl, hbefore, ha⟩ | ⟨hl, before, a, after, rfl, hbefore, ha⟩)
    · exact ⟨before, a, after ++ l', by simp, hbefore, ha⟩
    · refine ⟨l ++ before, a, after, by simp, fun b hb => ?_, ha⟩
      rcases List.mem_append.mp hb with hb | hb
      · exact hl b hb
      · exact hbefore b hb

/-- Of a list it is the head, or the head is sound and it is in the rest. -/
theorem firstWrong_cons {a : ι} {l : List ι} :
    FirstWrong sound wrong (a :: l) ↔ wrong a ∨ sound a ∧ FirstWrong sound wrong l := by
  rw [← List.singleton_append, firstWrong_append, firstWrong_singleton, List.forall_mem_singleton]

variable {E : ε → σ → Prop} {M : σ → Prop} {R : β → Prop} {T : α → Prop}

/-- **A program scans a list**: it returns where all of the list is sound, and fails badly
where the first that is not is wrong. -/
def Scans (sound wrong : ι → Prop) (E : ε → σ → Prop) (M : σ → Prop) (x : EStateM ε σ α)
    (l : List ι) (T : α → Prop) : Prop :=
  Settles E M x (∀ b ∈ l, sound b) (FirstWrong sound wrong l) T M

theorem scans_pure {a : α} (h : T a) : Scans sound wrong E M (pure a) [] T :=
  (settles_pure h).congr (iff_of_true trivial fun _ hb => absurd hb List.not_mem_nil)
    (iff_of_false not_false firstWrong_nil)

/-- A program that looks at one thing. -/
theorem scans_singleton {x : EStateM ε σ α} {a : ι} (h : Settles E M x (sound a) (wrong a) T M) :
    Scans sound wrong E M x [a] T :=
  h.congr List.forall_mem_singleton.symm firstWrong_singleton.symm

/-- **One scan after the other.** -/
theorem Scans.bind {x : EStateM ε σ β} {f : β → EStateM ε σ α} {l l' : List ι}
    (hx : Scans sound wrong E M x l R)
    (hf : ∀ b, R b → Scans sound wrong E M (f b) l' T) :
    Scans sound wrong E M (x >>= f) (l ++ l') T :=
  (Settles.bind hx hf).congr List.forall_mem_append.symm firstWrong_append.symm

/-- What comes after a scan may ask for something else, too. -/
theorem Scans.bindSettles {x : EStateM ε σ β} {f : β → EStateM ε σ α} {l l' : List ι}
    {C : Prop} (hx : Scans sound wrong E M x l R)
    (hf : ∀ b, R b →
      Settles E M (f b) (C ∧ ∀ b ∈ l', sound b) (FirstWrong sound wrong l') T M) :
    Settles E M (x >>= f) (C ∧ ∀ b ∈ l ++ l', sound b) (FirstWrong sound wrong (l ++ l')) T M := by
  refine (Settles.bind hx hf).congr ?_ firstWrong_append.symm
  rw [List.forall_mem_append]
  exact and_left_comm

end Scans

end Effects
