import Mathlib.Data.List.Induction
import Mathlib.Data.Set.Card

/-!
# Breadth-first search

A search keeps one list: what it has discovered, in the order of discovery. It goes
through that list while the list grows at its end, and appends of each node's
successors those that are new. `Search` is the invariant of this loop, with the
number of nodes that were expanded, and `IsOrder` is what it comes to when all were:
the list has every node that can be reached, once, each behind the ones that can be
reached in fewer steps, and in the order in which the successors name them.

Distance is not computed by the search, so it is no number here: `Within n x` says
that `x` can be reached in at most `n` steps, and a node comes before another in the
order only where it is within every `n` that the other is within.
-/

namespace BreadthFirst

variable {α : Type} (next : α → List α) (root : α)

/-- **A node within so many steps of the root.** -/
inductive Within : ℕ → α → Prop
  | root (n : ℕ) : Within n root
  | step {n : ℕ} {x y : α} (h : Within n x) (hy : y ∈ next x) : Within (n + 1) y

/-- A node that can be reached. -/
def Reachable (x : α) : Prop := ∃ n, Within next root n x

variable {next root}

/-- What is near is so at any greater distance. -/
theorem Within.succ {n : ℕ} {x : α} (h : Within next root n x) :
    Within next root (n + 1) x := by
  induction h with
  | root n => exact .root (n + 1)
  | step _ hy ih => exact ih.step hy

theorem reachable_root : Reachable next root root := ⟨0, .root 0⟩

/-- And so is what it leads to. -/
theorem Reachable.step {x y : α} (h : Reachable next root x) (hy : y ∈ next x) :
    Reachable next root y := by
  obtain ⟨n, hn⟩ := h
  exact ⟨n + 1, hn.step hy⟩

/-- A node that is not the root is reached in one step more than another. -/
theorem Within.cases_ne {n : ℕ} {y : α} (h : Within next root n y) (hne : y ≠ root) :
    ∃ m x, n = m + 1 ∧ Within next root m x ∧ y ∈ next x := by
  cases h with
  | root n => exact absurd rfl hne
  | step h hy => exact ⟨_, _, rfl, h, hy⟩

/-- Distinct nodes that can be reached are no more than there are of them. -/
theorem length_le_ncard [Finite α] {xs : List α} (hnodup : xs.Nodup)
    (hreach : ∀ x ∈ xs, Reachable next root x) :
    xs.length ≤ {x | Reachable next root x}.ncard := by
  classical
  rw [← List.toFinset_card_of_nodup hnodup, ← Set.ncard_coe_finset]
  refine Set.ncard_le_ncard (fun x hx => ?_) (Set.toFinite _)
  exact hreach x (List.mem_toFinset.mp (Finset.mem_coe.mp hx))

variable [DecidableEq α]

/-! ## Noting what is new -/

/-- A node is appended where it is new. -/
def note (known : List α) (x : α) : List α := if x ∈ known then known else known ++ [x]

/-- Nodes are noted one after the other. -/
def noteAll (known xs : List α) : List α := xs.foldl note known

@[simp] theorem noteAll_nil (known : List α) : noteAll known [] = known := rfl

@[simp] theorem noteAll_cons (known : List α) (x : α) (xs : List α) :
    noteAll known (x :: xs) = noteAll (note known x) xs := rfl

/-- One list after the other. -/
theorem noteAll_append (known xs ys : List α) :
    noteAll known (xs ++ ys) = noteAll (noteAll known xs) ys := List.foldl_append

/-- What is known is not noted again. -/
theorem note_of_mem {known : List α} {x : α} (h : x ∈ known) : note known x = known :=
  if_pos h

/-- What is not known is noted last. -/
theorem note_of_not_mem {known : List α} {x : α} (h : x ∉ known) :
    note known x = known ++ [x] :=
  if_neg h

@[simp] theorem mem_note {known : List α} {x y : α} : y ∈ note known x ↔ y ∈ known ∨ y = x := by
  by_cases h : x ∈ known
  · rw [note_of_mem h]
    exact ⟨Or.inl, fun hy => hy.elim id fun he => he ▸ h⟩
  · rw [note_of_not_mem h, List.mem_append, List.mem_singleton]

@[simp] theorem mem_noteAll {known xs : List α} {y : α} :
    y ∈ noteAll known xs ↔ y ∈ known ∨ y ∈ xs := by
  induction xs generalizing known with
  | nil => simp
  | cons x xs ih => rw [noteAll_cons, ih, mem_note, List.mem_cons, or_assoc]

/-- What was noted first stays first. -/
theorem prefix_note (known : List α) (x : α) : known <+: note known x := by
  by_cases h : x ∈ known
  · rw [note_of_mem h]
  · rw [note_of_not_mem h]
    exact List.prefix_append known [x]

/-- What was known stays where it was. -/
theorem prefix_noteAll (known xs : List α) : known <+: noteAll known xs := by
  induction xs generalizing known with
  | nil => exact List.prefix_rfl
  | cons x xs ih => exact (prefix_note known x).trans (ih (note known x))

theorem length_le_noteAll (known xs : List α) : known.length ≤ (noteAll known xs).length :=
  (prefix_noteAll known xs).length_le

/-- Nothing is noted twice. -/
theorem nodup_noteAll {known : List α} (h : known.Nodup) (xs : List α) :
    (noteAll known xs).Nodup := by
  induction xs generalizing known with
  | nil => exact h
  | cons x xs ih =>
    refine ih ?_
    by_cases hx : x ∈ known
    · rwa [note_of_mem hx]
    · rw [note_of_not_mem hx]
      exact List.nodup_append.mpr ⟨h, List.nodup_singleton x, fun a ha b hb hab =>
        hx (List.mem_singleton.mp hb ▸ hab ▸ ha)⟩

/-- **What holds of each new node and all before it** holds along the list. -/
theorem pairwise_noteAll {R : α → α → Prop} {known xs : List α} (h : known.Pairwise R)
    (hnew : ∀ x ∈ xs, x ∉ known → ∀ y, y ∈ known ∨ y ∈ xs → R y x) :
    (noteAll known xs).Pairwise R := by
  induction xs generalizing known with
  | nil => exact h
  | cons x xs ih =>
    rw [noteAll_cons]
    have hlater : ∀ y, y ∈ note known x ∨ y ∈ xs → y ∈ known ∨ y ∈ x :: xs := by
      intro y hy
      rw [mem_note] at hy
      rw [List.mem_cons]
      tauto
    refine ih ?_ fun z hz hzn y hy => hnew z (List.mem_cons_of_mem x hz)
      (fun hk => hzn (mem_note.mpr (Or.inl hk))) y (hlater y hy)
    by_cases hx : x ∈ known
    · rwa [note_of_mem hx]
    · rw [note_of_not_mem hx, List.pairwise_append]
      refine ⟨h, List.pairwise_singleton R x, fun y hy z hz => ?_⟩
      rw [List.mem_singleton.mp hz]
      exact hnew x List.mem_cons_self hx y (Or.inl hy)

/-! ## The order of discovery -/

variable (next root)

/-- **The breadth-first order**: every node that can be reached, once; as the successors
of the list name them, from the first on; and never behind one that takes more
steps. -/
structure IsOrder (order : List α) : Prop where
  nodup : order.Nodup
  mem_iff : ∀ x, x ∈ order ↔ Reachable next root x
  discovered : order = noteAll [root] (order.flatMap next)
  sorted : order.Pairwise fun x y => ∀ n, Within next root n y → Within next root n x

/-- **The search, with so many nodes expanded.** -/
structure Search (known : List α) (i : ℕ) : Prop where
  le : i ≤ known.length
  known_eq : known = noteAll [root] ((known.take i).flatMap next)
  reachable : ∀ x ∈ known, Reachable next root x
  sorted : known.Pairwise fun x y => ∀ n, Within next root n y → Within next root n x

variable {next root}

/-- At first the root is known, and nothing is expanded. -/
theorem Search.init : Search next root [root] 0 where
  le := Nat.zero_le _
  known_eq := rfl
  reachable := fun _ hx => List.mem_singleton.mp hx ▸ reachable_root
  sorted := List.pairwise_singleton _ root

namespace Search

variable {known : List α} {i : ℕ} (h : Search next root known i)
include h

theorem nodup : known.Nodup := by
  rw [h.known_eq]
  exact nodup_noteAll (List.nodup_singleton root) _

theorem root_mem : root ∈ known := by
  rw [h.known_eq]
  exact mem_noteAll.mpr (Or.inl List.mem_cons_self)

/-- The root, and the successors of the expanded nodes, are what is known. -/
theorem mem_iff {x : α} : x ∈ known ↔ x = root ∨ ∃ p ∈ known.take i, x ∈ next p := by
  constructor
  · intro hx
    rw [h.known_eq] at hx
    simpa using hx
  · intro hx
    rw [h.known_eq]
    simpa using hx

/-- **The frontier**: who is not yet expanded is not closer to the root than the next one
to be. -/
theorem within_of_not_mem {p : α} (hp : known[i]? = some p) {n : ℕ} {z : α}
    (hz : Within next root n z) (hnot : z ∉ known.take i) : Within next root n p := by
  have hmem : ∀ z ∈ known, z ∉ known.take i → ∀ n, Within next root n z →
      Within next root n p := by
    intro z hz hnot n hn
    -- an unexpanded node is the next one, or behind it
    rw [← List.take_append_drop i known, List.mem_append] at hz
    have hdrop : known.drop i = p :: known.drop (i + 1) :=
      List.drop_eq_getElem?_toList_append.trans (by rw [hp]; rfl)
    have hsorted := h.sorted.sublist (List.drop_sublist i known)
    rw [hdrop] at hsorted
    rcases hz with hz | hz
    · exact absurd hz hnot
    · rw [hdrop] at hz
      rcases List.mem_cons.mp hz with rfl | hz
      · exact hn
      · exact (List.pairwise_cons.mp hsorted).1 z hz n hn
  induction hz with
  | root n => exact hmem root h.root_mem hnot n (.root n)
  | @step n x y hx hy ih =>
    by_cases hxi : x ∈ known.take i
    · exact hmem y (h.mem_iff.mpr (Or.inr ⟨x, hxi, hy⟩)) hnot (n + 1) (hx.step hy)
    · exact (ih hxi).succ

/-- A successor that is new takes no fewer steps than what is known, or is found with
it. -/
theorem sorted_new {p : α} (hp : known[i]? = some p) {x y : α} (hnew : x ∉ known)
    (hy : y ∈ known ∨ y ∈ next p) {n : ℕ} (hn : Within next root n x) :
    Within next root n y := by
  have hne : x ≠ root := fun he => hnew (he ▸ h.root_mem)
  obtain ⟨m, q, rfl, hq, hxq⟩ := hn.cases_ne hne
  have hpm : Within next root m p := by
    refine h.within_of_not_mem hp hq fun hqi => hnew (h.mem_iff.mpr (Or.inr ⟨q, hqi, hxq⟩))
  rcases hy with hy | hy
  · rcases h.mem_iff.mp hy with rfl | ⟨p', hp', hy⟩
    · exact .root _
    · -- its parent was expanded before, so it is not farther
      have hpi : p ∈ known.drop i :=
        List.mem_of_getElem? (i := 0) (by rw [List.getElem?_drop]; exact hp)
      have hsorted := h.sorted
      rw [← List.take_append_drop i known, List.pairwise_append] at hsorted
      exact (hsorted.2.2 p' hp' p hpi m hpm).step hy
  · exact hpm.step hy

/-- **One node is expanded**: its successors that are new come to the end. -/
theorem step {p : α} (hp : known[i]? = some p) :
    Search next root (noteAll known (next p)) (i + 1) := by
  obtain ⟨hi, hget⟩ := List.getElem?_eq_some_iff.mp hp
  have hlength := length_le_noteAll known (next p)
  have htake : (noteAll known (next p)).take (i + 1) = known.take i ++ [p] := by
    obtain ⟨tail, htail⟩ := prefix_noteAll known (next p)
    rw [← htail, List.take_append_of_le_length hi, List.take_add_one, hp]
    rfl
  have hpreach : Reachable next root p := h.reachable p (hget ▸ List.getElem_mem hi)
  refine ⟨by omega, ?_, fun x hx => ?_, ?_⟩
  · rw [htake, List.flatMap_append, noteAll_append, ← h.known_eq, List.flatMap_singleton]
  · rcases mem_noteAll.mp hx with hx | hx
    · exact h.reachable x hx
    · exact hpreach.step hx
  · exact pairwise_noteAll h.sorted fun x _ hnew y hy n hn => h.sorted_new hp hnew hy hn

/-- **The search is over** where every known node is expanded. -/
theorem isOrder (hdone : known.length ≤ i) : IsOrder next root known := by
  have htake : known.take i = known := List.take_of_length_le hdone
  have hclosed : ∀ n x, Within next root n x → x ∈ known := by
    intro n x hx
    induction hx with
    | root n => exact h.root_mem
    | @step n x y _ hy ih => exact h.mem_iff.mpr (Or.inr ⟨x, htake.symm ▸ ih, hy⟩)
  refine ⟨h.nodup, fun x => ⟨h.reachable x, fun hx => ?_⟩, ?_, h.sorted⟩
  · obtain ⟨n, hn⟩ := hx
    exact hclosed n x hn
  · have heq := h.known_eq
    rwa [htake] at heq

end Search

end BreadthFirst
