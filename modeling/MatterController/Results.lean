import Mathlib.Data.List.Forall2
import Mathlib.Tactic.Common

/-!
# Computations that may fail

Where a computation in `Except` is made of others – one after the other, or one for each
element of a list – it returns exactly when all of them do, and it fails as the first that
fails does. `bind_ok_iff` and `bind_error_iff` say so of two computations, `mapM_ok_iff`
and `mapM_error_iff` of a traversal, and `foldlM_error_iff` of a loop with a state.
`Throws` bounds what a computation can throw by what its steps can.
-/

namespace Except

variable {ε α β : Type}

/-- A computation that returns has returned at each of its steps. -/
theorem bind_ok_iff {x : Except ε α} {f : α → Except ε β} {b : β} :
    (x >>= f) = .ok b ↔ ∃ a, x = .ok a ∧ f a = .ok b := by
  cases x with
  | error e =>
    refine ⟨fun h => ?_, ?_⟩
    · cases h
    · rintro ⟨a, h, -⟩
      cases h
  | ok a =>
    refine ⟨fun h => ⟨a, rfl, h⟩, ?_⟩
    rintro ⟨a', h, hb⟩
    cases h
    exact hb

/-- **A computation that fails has failed at one of its steps**, after the others
returned. -/
theorem bind_error_iff {x : Except ε α} {f : α → Except ε β} {e : ε} :
    (x >>= f) = .error e ↔ x = .error e ∨ ∃ a, x = .ok a ∧ f a = .error e := by
  cases x with
  | error e' =>
    refine ⟨fun h => Or.inl ?_, ?_⟩
    · cases h
      rfl
    · rintro (h | ⟨a, h, -⟩)
      · cases h
        rfl
      · cases h
  | ok a =>
    refine ⟨fun h => Or.inr ⟨a, rfl, h⟩, ?_⟩
    rintro (h | ⟨a', h, he⟩)
    · cases h
    · cases h
      exact he

/-- **A traversal returns** where the computation of each element does, with what they
return. -/
theorem mapM_ok_iff {f : α → Except ε β} {xs : List α} {ys : List β} :
    xs.mapM f = .ok ys ↔ List.Forall₂ (fun x y => f x = .ok y) xs ys := by
  induction xs generalizing ys with
  | nil =>
    rw [List.mapM_nil]
    refine ⟨fun h => ?_, fun h => ?_⟩
    · cases h
      exact .nil
    · cases h
      rfl
  | cons x xs ih =>
    rw [List.mapM_cons, bind_ok_iff]
    constructor
    · rintro ⟨y, hy, h⟩
      obtain ⟨ys', hys, h⟩ := bind_ok_iff.mp h
      cases h
      exact .cons hy (ih.mp hys)
    · intro h
      cases h with
      | cons hy hys => exact ⟨_, hy, bind_ok_iff.mpr ⟨_, ih.mpr hys, rfl⟩⟩

/-- **A loop fails** where one of its steps does, after the steps before returned. -/
theorem foldlM_error_iff {f : β → α → Except ε β} {xs : List α} {b : β} {e : ε} :
    xs.foldlM f b = .error e ↔
      ∃ pre x post c, xs = pre ++ x :: post ∧ pre.foldlM f b = .ok c ∧ f c x = .error e := by
  induction xs generalizing b with
  | nil =>
    refine ⟨(by rintro ⟨⟩), ?_⟩
    rintro ⟨pre, x, post, c, h, -⟩
    exact absurd h (by simp)
  | cons x xs ih =>
    rw [List.foldlM_cons, bind_error_iff]
    constructor
    · rintro (h | ⟨c, hc, h⟩)
      · exact ⟨[], x, xs, b, rfl, rfl, h⟩
      · obtain ⟨pre, x', post, d, rfl, hd, he⟩ := ih.mp h
        refine ⟨x :: pre, x', post, d, rfl, ?_, he⟩
        rw [List.foldlM_cons]
        exact bind_ok_iff.mpr ⟨c, hc, hd⟩
    · rintro ⟨pre, x', post, d, h, hd, he⟩
      cases pre with
      | nil =>
        cases h
        cases hd
        exact Or.inl he
      | cons x'' pre =>
        cases h
        rw [List.foldlM_cons] at hd
        obtain ⟨c, hc, hd⟩ := bind_ok_iff.mp hd
        exact Or.inr ⟨c, hc, ih.mpr ⟨pre, x', post, d, rfl, hd, he⟩⟩

/-- **A traversal fails** where the computation of an element does, after those of the
elements before returned. -/
theorem mapM_error_iff {f : α → Except ε β} {xs : List α} {e : ε} :
    xs.mapM f = .error e ↔
      ∃ pre x post, xs = pre ++ x :: post ∧ (∀ a ∈ pre, ∃ b, f a = .ok b) ∧
        f x = .error e := by
  induction xs with
  | nil =>
    refine ⟨(by rintro ⟨⟩), ?_⟩
    rintro ⟨pre, x, post, h, -⟩
    exact absurd h (by simp)
  | cons x xs ih =>
    rw [List.mapM_cons, bind_error_iff]
    constructor
    · rintro (h | ⟨y, hy, h⟩)
      · exact ⟨[], x, xs, rfl, fun a ha => absurd ha List.not_mem_nil, h⟩
      · rcases bind_error_iff.mp h with h | ⟨ys, -, h⟩
        · obtain ⟨pre, x', post, rfl, hpre, he⟩ := ih.mp h
          refine ⟨x :: pre, x', post, rfl, fun a ha => ?_, he⟩
          rcases List.mem_cons.mp ha with rfl | ha
          · exact ⟨y, hy⟩
          · exact hpre a ha
        · cases h
    · rintro ⟨pre, x', post, h, hpre, he⟩
      cases pre with
      | nil =>
        cases h
        exact Or.inl he
      | cons x'' pre =>
        cases h
        obtain ⟨y, hy⟩ := hpre x List.mem_cons_self
        refine Or.inr ⟨y, hy, bind_error_iff.mpr (Or.inl (ih.mpr ?_))⟩
        exact ⟨pre, x', post, rfl, fun a ha => hpre a (List.mem_cons_of_mem x ha), he⟩

/-! ## What is thrown -/

variable {A : ε → Prop}

/-- **What a computation throws** meets a condition. -/
def Throws (A : ε → Prop) (x : Except ε α) : Prop := ∀ e, x = .error e → A e

theorem throws_ok (a : α) : Throws A (.ok a : Except ε α) := by
  rintro e ⟨⟩

theorem throws_error {e : ε} (h : A e) : Throws A (.error e : Except ε α) := by
  rintro _ ⟨⟩
  exact h

theorem Throws.bind {x : Except ε α} {f : α → Except ε β} (hx : Throws A x)
    (hf : ∀ a, x = .ok a → Throws A (f a)) : Throws A (x >>= f) := by
  intro e he
  rcases bind_error_iff.mp he with he | ⟨a, ha, he⟩
  · exact hx e he
  · exact hf a ha e he

theorem throws_mapM {f : α → Except ε β} {xs : List α} (h : ∀ a ∈ xs, Throws A (f a)) :
    Throws A (xs.mapM f) := by
  intro e he
  obtain ⟨pre, x, post, rfl, -, he⟩ := mapM_error_iff.mp he
  exact h x (List.mem_append_right pre List.mem_cons_self) e he

end Except
