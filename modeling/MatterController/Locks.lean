import Mathlib.Data.Finset.Basic
import Mathlib.Logic.Function.Basic

/-!
# Locks and their owners

A mutex with one owner and a readers–writer lock, whose attempts to lock are
partial: `none` where the lock is not to be had. Who owns a lock is state of
the lock here and a matter of the program counters in the machine that uses it;
`OwnedBy` says that the two agree, and one rule for each operation says how the
agreement survives it. Mutual exclusion is then a fact about program counters:
`Mutex.OwnedBy.unique`, `RwLock.OwnedBy.not_shared`.
-/

/-- A function of a family's members does not see a member move between places it
does not tell apart. -/
theorem update_congr {ι α β : Type} [DecidableEq ι] (f : α → β) {g : ι → α} {i : ι} {a : α}
    (h : f a = f (g i)) (j : ι) : f (Function.update g i a j) = f (g j) := by
  by_cases hj : j = i
  · rw [hj, Function.update_self, h]
  · rw [Function.update_of_ne hj]

/-- A mutex: its owner, if it is locked. -/
structure Mutex (ι : Type) where
  owner : Option ι := none
  deriving DecidableEq, Repr

namespace Mutex

variable {ι : Type} [DecidableEq ι]

/-- Locks, where nobody has. -/
def lock (i : ι) (m : Mutex ι) : Option (Mutex ι) :=
  if m.owner = none then some ⟨some i⟩ else none

/-- Unlocks. -/
def unlock (_ : Mutex ι) : Mutex ι := ⟨none⟩

/-- **The owners are those the predicate says.** -/
def OwnedBy (m : Mutex ι) (O : ι → Prop) : Prop := ∀ i, m.owner = some i ↔ O i

variable {m n : Mutex ι} {O O' : ι → Prop} {i : ι}

omit [DecidableEq ι]

/-- **Mutual exclusion.** -/
theorem OwnedBy.unique (h : m.OwnedBy O) {i j : ι} (hi : O i) (hj : O j) : i = j :=
  Option.some.inj (((h i).mpr hi).symm.trans ((h j).mpr hj))

theorem OwnedBy.congr (h : m.OwnedBy O) (hO : ∀ j, O' j ↔ O j) : m.OwnedBy O' :=
  fun j => (h j).trans (hO j).symm

/-- Whoever locks becomes the owner. -/
theorem OwnedBy.lock (h : m.OwnedBy O) (hl : m.lock i = some n) (hi : O' i)
    (hO : ∀ j, j ≠ i → (O' j ↔ O j)) : n.OwnedBy O' := by
  unfold Mutex.lock at hl
  split at hl
  · rename_i hnone
    obtain rfl := Option.some.inj hl
    intro j
    by_cases hj : j = i
    · rw [hj]
      simpa using hi
    · rw [hO j hj, ← h j, hnone]
      simpa using Ne.symm hj
  · cases hl

/-- Whoever unlocks is the owner no longer. -/
theorem OwnedBy.unlock (h : m.OwnedBy O) (hi : O i) (hi' : ¬ O' i)
    (hO : ∀ j, j ≠ i → (O' j ↔ O j)) : m.unlock.OwnedBy O' := by
  intro j
  have hno : ¬ O' j := by
    by_cases hj : j = i
    · rw [hj]
      exact hi'
    · rw [hO j hj]
      exact fun hOj => hj (h.unique hOj hi)
  simpa [Mutex.unlock] using hno

end Mutex

/-- **A readers–writer lock**: a writer, or readers. -/
structure RwLock (ι : Type) where
  writer : Option ι := none
  readers : Finset ι := ∅
  exclusive : writer.isSome = true → readers = ∅ := by simp

namespace RwLock

variable {ι : Type}

/-- The lock that nobody has. -/
def free : RwLock ι := {}

@[simp] theorem readers_free : (free : RwLock ι).readers = ∅ := rfl

@[simp] theorem writer_free : (free : RwLock ι).writer = none := rfl

variable [DecidableEq ι]

/-- Locks for reading, where nobody writes. -/
def lockShared (i : ι) (l : RwLock ι) : Option (RwLock ι) :=
  if l.writer = none then some { readers := insert i l.readers } else none

/-- Unlocks for reading. -/
def unlockShared (i : ι) (l : RwLock ι) : RwLock ι :=
  { l with
    readers := l.readers.erase i
    exclusive := fun h => by rw [l.exclusive h, Finset.erase_empty] }

/-- Locks for writing, where nobody reads or writes. -/
def lock (i : ι) (l : RwLock ι) : Option (RwLock ι) :=
  if l.writer = none ∧ l.readers = ∅ then some { writer := some i } else none

/-- Unlocks for writing. -/
def unlock (_ : RwLock ι) : RwLock ι := free

/-- **The readers and the writer are those the predicates say.** -/
structure OwnedBy (l : RwLock ι) (S X : ι → Prop) : Prop where
  shared : ∀ i, i ∈ l.readers ↔ S i
  writer : ∀ i, l.writer = some i ↔ X i

variable {l k : RwLock ι} {S S' X X' : ι → Prop} {i : ι}

omit [DecidableEq ι]

/-- **A writer excludes readers.** -/
theorem OwnedBy.not_shared (h : l.OwnedBy S X) {i : ι} (hi : X i) (j : ι) : ¬ S j := by
  intro hj
  have hmem := (h.shared j).mpr hj
  rw [l.exclusive (by rw [(h.writer i).mpr hi]; rfl)] at hmem
  exact absurd hmem (Finset.notMem_empty j)

/-- **A writer excludes writers.** -/
theorem OwnedBy.unique (h : l.OwnedBy S X) {i j : ι} (hi : X i) (hj : X j) : i = j :=
  Option.some.inj (((h.writer i).mpr hi).symm.trans ((h.writer j).mpr hj))

theorem OwnedBy.congr (h : l.OwnedBy S X) (hS : ∀ j, S' j ↔ S j)
    (hX : ∀ j, X' j ↔ X j) : l.OwnedBy S' X' :=
  ⟨fun j => (h.shared j).trans (hS j).symm, fun j => (h.writer j).trans (hX j).symm⟩

variable [DecidableEq ι]

/-- Whoever locks for reading becomes a reader. -/
theorem OwnedBy.lockShared (h : l.OwnedBy S X) (hl : l.lockShared i = some k)
    (hi : S' i) (hS : ∀ j, j ≠ i → (S' j ↔ S j)) (hX : ∀ j, X' j ↔ X j) :
    k.OwnedBy S' X' := by
  unfold RwLock.lockShared at hl
  split at hl
  · rename_i hnone
    obtain rfl := Option.some.inj hl
    refine ⟨fun j => ?_, fun j => ?_⟩
    · rw [Finset.mem_insert, h.shared j]
      by_cases hj : j = i
      · simp [hj, hi]
      · simp [hj, hS j hj]
    · rw [hX j, ← h.writer j, hnone]
  · cases hl

/-- Whoever unlocks for reading is a reader no longer. -/
theorem OwnedBy.unlockShared (h : l.OwnedBy S X) (hi : ¬ S' i)
    (hS : ∀ j, j ≠ i → (S' j ↔ S j)) (hX : ∀ j, X' j ↔ X j) :
    (l.unlockShared i).OwnedBy S' X' := by
  refine ⟨fun j => ?_, fun j => (h.writer j).trans (hX j).symm⟩
  rw [RwLock.unlockShared, Finset.mem_erase, h.shared j]
  by_cases hj : j = i
  · simp [hj, hi]
  · simp [hj, hS j hj]

/-- Whoever locks for writing becomes the writer; there was nobody else. -/
theorem OwnedBy.lock (h : l.OwnedBy S X) (hl : l.lock i = some k) (hi : X' i)
    (hX : ∀ j, j ≠ i → (X' j ↔ X j)) (hS : ∀ j, S' j ↔ S j) : k.OwnedBy S' X' := by
  unfold RwLock.lock at hl
  split at hl
  · rename_i hfree
    obtain rfl := Option.some.inj hl
    refine ⟨fun j => ?_, fun j => ?_⟩
    · rw [hS j, ← h.shared j, hfree.2]
    · by_cases hj : j = i
      · simp [hj, hi]
      · rw [hX j hj, ← h.writer j, hfree.1]
        simp [Ne.symm hj]
  · cases hl

/-- A lock taken for writing was free. -/
theorem OwnedBy.free_of_lock (h : l.OwnedBy S X) (hl : l.lock i = some k) (j : ι) :
    ¬ S j ∧ ¬ X j := by
  unfold RwLock.lock at hl
  split at hl
  · rename_i hfree
    rw [← h.shared j, ← h.writer j, hfree.1, hfree.2]
    simp
  · cases hl

/-- Whoever unlocks for writing is the writer no longer. -/
theorem OwnedBy.unlock (h : l.OwnedBy S X) (hi : X i) (hi' : ¬ X' i)
    (hX : ∀ j, j ≠ i → (X' j ↔ X j)) (hS : ∀ j, S' j ↔ S j) :
    l.unlock.OwnedBy S' X' := by
  refine ⟨fun j => ?_, fun j => ?_⟩
  · rw [hS j]
    simpa [RwLock.unlock] using h.not_shared hi j
  · have hno : ¬ X' j := by
      by_cases hj : j = i
      · rw [hj]
        exact hi'
      · rw [hX j hj]
        exact fun hXj => hj (h.unique hXj hi)
    simpa [RwLock.unlock] using hno

end RwLock
