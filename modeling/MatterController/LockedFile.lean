import MatterController.Locks
import MatterController.Machine

/-!
# A file that is replaced under a lock

Callers of several processes read a file, and write one, under a mutex they share: a
caller locks, reads, writes what it makes of the contents to a temporary file, moves
that to the place of the file, and unlocks. Anything may go wrong on the way. A caller
gives up waiting for the mutex, what it does with the contents throws, a read or a write
or the move fails; and a process may die, wherever its callers are. The system then gives
up a mutex they had.

What callers do is a parameter (`Accesses`). `Linear` says that the file is as good as a
variable of which every caller has its turn in one go. There is one order of the accesses
that replaced the contents, `State.log`, and the contents are what these make of the
first ones, one after the other; every call that returned answers as if its turn was at
some point of the order, between its start and its end; and a call that threw had none.
`linear_of_reachable` proves it of every run.

The temporary file is not in the state, since nobody reads it.
-/

namespace LockedFile

variable {ω γ ρ ε : Type}

/-- **What callers do**: a check before they lock, and what they make of the contents of
the file: an exception, or an answer, with new contents if there are any to write. -/
structure Accesses (ω γ ρ ε : Type) where
  check : ω → Except ε Unit
  access : ω → γ → Except ε (ρ × Option γ)

/-- What an access leaves of the contents. -/
def Accesses.effect (a : Accesses ω γ ρ ε) (op : ω) (g : γ) : γ :=
  match a.access op g with
  | .ok (_, some new) => new
  | _ => g

/-- **The contents a list of accesses leaves**, one after the other. -/
def Accesses.contents (a : Accesses ω γ ρ ε) (first : γ) (log : List (ℕ × ω)) : γ :=
  log.foldl (fun g x => a.effect x.2 g) first

/-- **Where a call stands.** From its read on it has the number of accesses that were in
the order before it, and at its end those that were then. -/
inductive Pc (γ ρ ε : Type)
  | waiting
  | locked
  | writing (answer : ρ) (new : γ) (point : ℕ)
  | written (answer : ρ) (new : γ) (point : ℕ)
  | leaving (result : Except ε ρ) (point : ℕ)
  | finished (result : Except ε ρ) (point ended : ℕ)
  | died

/-- Whether it has the mutex. -/
def Pc.holds : Pc γ ρ ε → Bool
  | .locked | .writing _ _ _ | .written _ _ _ | .leaving _ _ => true
  | .waiting | .finished _ _ _ | .died => false

/-- Whether it still runs. -/
def Pc.runs : Pc γ ρ ε → Bool
  | .finished _ _ _ | .died => false
  | _ => true

/-- **A call**, with the number of accesses in the order when it started. -/
structure Call (ω γ ρ ε : Type) where
  op : ω
  begun : ℕ
  pc : Pc γ ρ ε

/-- **The state**: the mutex, the file, the calls, by their numbers, and – to speak about
it – the order of the accesses that replaced the contents. -/
structure State (ω γ ρ ε : Type) where
  mutex : Mutex ℕ := {}
  file : γ
  calls : ℕ → Option (Call ω γ ρ ε) := fun _ => none
  log : List (ℕ × ω) := []

/-- What a step of a call is answered: it goes on, or something fails. -/
inductive Answer (ε : Type)
  | go
  | fails (e : ε)

/-- **A step**: a call starts, takes its next step, or dies with its process. -/
inductive Action (ω ε : Type)
  | call (i : ℕ) (op : ω)
  | advance (i : ℕ) (answer : Answer ε)
  | die (i : ℕ)

/-- A call moves. -/
def State.setPc (s : State ω γ ρ ε) (i : ℕ) (c : Call ω γ ρ ε) (pc : Pc γ ρ ε) :
    State ω γ ρ ε :=
  { s with calls := Function.update s.calls i (some { c with pc := pc }) }

/-- Where a call is after it has read the file. -/
def afterRead (n : ℕ) : Except ε (ρ × Option γ) → Pc γ ρ ε
  | .error e => .leaving (.error e) n
  | .ok (answer, none) => .leaving (.ok answer) n
  | .ok (answer, some new) => .writing answer new n

/-- **The next step of a call.** -/
def advance (a : Accesses ω γ ρ ε) (s : State ω γ ρ ε) (i : ℕ) (c : Call ω γ ρ ε) :
    Answer ε → Option (State ω γ ρ ε)
  | .go =>
    match c.pc with
    | .waiting => (s.mutex.lock i).map fun m => { s.setPc i c .locked with mutex := m }
    | .locked => some (s.setPc i c (afterRead s.log.length (a.access c.op s.file)))
    | .writing answer new n => some (s.setPc i c (.written answer new n))
    | .written answer new n => some { s.setPc i c (.leaving (.ok answer) n) with
        file := new
        log := s.log ++ [(i, c.op)] }
    | .leaving result n => some { s.setPc i c (.finished result n s.log.length) with
        mutex := s.mutex.unlock }
    | .finished _ _ _ | .died => none
  | .fails e =>
    match c.pc with
    | .waiting => some (s.setPc i c (.finished (.error e) s.log.length s.log.length))
    | .locked => some (s.setPc i c (.leaving (.error e) s.log.length))
    | .writing _ _ n | .written _ _ n => some (s.setPc i c (.leaving (.error e) n))
    | .leaving _ _ | .finished _ _ _ | .died => none

/-- Where a call starts: with its check. -/
def Accesses.entry (a : Accesses ω γ ρ ε) (op : ω) (n : ℕ) : Pc γ ρ ε :=
  match a.check op with
  | .ok () => .waiting
  | .error e => .finished (.error e) n n

/-- **The step of the file and its callers.** -/
def step (a : Accesses ω γ ρ ε) (s : State ω γ ρ ε) : Action ω ε → Option (State ω γ ρ ε)
  | .call i op =>
    match s.calls i with
    | none =>
      some (s.setPc i ⟨op, s.log.length, .waiting⟩ (a.entry op s.log.length))
    | some _ => none
  | .advance i answer => (s.calls i).bind fun c => advance a s i c answer
  | .die i => (s.calls i).bind fun c =>
    if c.pc.runs then
      some { s.setPc i c .died with mutex := if c.pc.holds then s.mutex.unlock else s.mutex }
    else none

/-- **The machine**, on a file with some contents. -/
def machine (a : Accesses ω γ ρ ε) (first : γ) : Machine (State ω γ ρ ε) (Action ω ε) :=
  ⟨{ file := first }, step a⟩

/-- **A call that returned answers as if it had its turn** after the first `n` accesses of
the order, none of which came before it started; where it replaces the contents, its turn
is in the order, and else it has none there. -/
structure Answered (a : Accesses ω γ ρ ε) (first : γ) (log : List (ℕ × ω)) (i : ℕ)
    (op : ω) (begun : ℕ) (answer : ρ) (n : ℕ) : Prop where
  begun : begun ≤ n
  bound : n ≤ log.length
  turn : ∃ new, a.access op (a.contents first (log.take n)) = .ok (answer, new) ∧
    (new.isSome = true → log[n]? = some (i, op)) ∧ (new = none → i ∉ log.map Prod.fst)

/-- **What is known of a call**, by where it stands: it enters the order once, when it
moves the temporary file, and until then what it has read is still there. -/
def CallInv (a : Accesses ω γ ρ ε) (first file : γ) (log : List (ℕ × ω)) (i : ℕ)
    (c : Call ω γ ρ ε) : Prop :=
  match c.pc with
  | .waiting | .locked => c.begun ≤ log.length ∧ i ∉ log.map Prod.fst
  | .writing answer new n | .written answer new n =>
    c.begun ≤ n ∧ n = log.length ∧ i ∉ log.map Prod.fst ∧
      a.access c.op file = .ok (answer, some new)
  | .leaving (.ok answer) n => Answered a first log i c.op c.begun answer n ∧
    (i ∈ log.map Prod.fst → n < log.length)
  | .finished (.ok answer) n m => Answered a first log i c.op c.begun answer n ∧ n ≤ m ∧
    (i ∈ log.map Prod.fst → n < m)
  | .leaving (.error _) _ | .finished (.error _) _ _ => i ∉ log.map Prod.fst
  | .died => True

/-- A call has the mutex. -/
def Holds (calls : ℕ → Option (Call ω γ ρ ε)) (i : ℕ) : Prop :=
  ∃ c, calls i = some c ∧ c.pc.holds = true

/-- **The invariant.** -/
structure Inv (a : Accesses ω γ ρ ε) (first : γ) (s : State ω γ ρ ε) : Prop where
  owned : s.mutex.OwnedBy (Holds s.calls)
  file : s.file = a.contents first s.log
  once : (s.log.map Prod.fst).Nodup
  entered : ∀ x ∈ s.log, ∃ c, s.calls x.1 = some c ∧ c.op = x.2
  calls : ∀ i c, s.calls i = some c → CallInv a first s.file s.log i c

theorem inv_start (a : Accesses ω γ ρ ε) (first : γ) : Inv a first (machine a first).start where
  owned := fun i => ⟨fun h => (by cases h), fun ⟨c, hc, _⟩ => (by cases hc)⟩
  file := rfl
  once := List.nodup_nil
  entered := fun x hx => (by cases hx)
  calls := fun i c hc => (by cases hc)

section
variable {a : Accesses ω γ ρ ε} {first : γ} {s t : State ω γ ρ ε} {i j : ℕ}
  {c d : Call ω γ ρ ε}

/-! ### Who has the mutex -/

theorem holds_update_self (calls : ℕ → Option (Call ω γ ρ ε)) (i : ℕ) (c : Call ω γ ρ ε) :
    Holds (Function.update calls i (some c)) i ↔ c.pc.holds = true := by
  unfold Holds
  rw [Function.update_self]
  constructor
  · rintro ⟨d, hd, hold⟩
    rw [Option.some.inj hd]
    exact hold
  · exact fun h => ⟨c, rfl, h⟩

theorem holds_update_of_ne (calls : ℕ → Option (Call ω γ ρ ε)) (c : Call ω γ ρ ε)
    (h : j ≠ i) : Holds (Function.update calls i (some c)) j ↔ Holds calls j := by
  unfold Holds
  rw [Function.update_of_ne h]

theorem holds_iff (hc : s.calls i = some c) : Holds s.calls i ↔ c.pc.holds = true := by
  constructor
  · rintro ⟨d, hd, hold⟩
    obtain rfl := Option.some.inj (hc.symm.trans hd)
    exact hold
  · exact fun h => ⟨c, hc, h⟩

theorem op_of_calls (hc : s.calls i = some c) (d : Call ω γ ρ ε) (hd : s.calls i = some d) :
    c.op = d.op := by
  rw [Option.some.inj (hc.symm.trans hd)]

/-- A call that moves and has the mutex as before. -/
theorem Inv.owned_keep (h : Inv a first s) (hd : Holds s.calls i ↔ d.pc.holds = true) :
    s.mutex.OwnedBy (Holds (Function.update s.calls i (some d))) := by
  refine h.owned.congr fun j => ?_
  by_cases hj : j = i
  · rw [hj, holds_update_self, hd]
  · exact holds_update_of_ne s.calls d hj

theorem Inv.owned_same (h : Inv a first s) (hc : s.calls i = some c)
    (hd : d.pc.holds = c.pc.holds) :
    s.mutex.OwnedBy (Holds (Function.update s.calls i (some d))) :=
  h.owned_keep (by rw [holds_iff hc, hd])

/-- A call that gives the mutex back. -/
theorem Inv.owned_unlock (h : Inv a first s) (hi : Holds s.calls i) (hd : d.pc.holds = false) :
    s.mutex.unlock.OwnedBy (Holds (Function.update s.calls i (some d))) := by
  refine h.owned.unlock hi ?_ fun j hj => holds_update_of_ne s.calls d hj
  rw [holds_update_self, hd]
  simp

/-! ### What a step does to the others -/

/-- **A call moves**, and the file and the order stay. -/
theorem Inv.move (h : Inv a first s) {m : Mutex ℕ} (hop : ∀ c, s.calls i = some c → d.op = c.op)
    (hi : CallInv a first s.file s.log i d)
    (howned : m.OwnedBy (Holds (Function.update s.calls i (some d)))) :
    Inv a first { s with mutex := m, calls := Function.update s.calls i (some d) } := by
  refine ⟨howned, h.file, h.once, fun x hx => ?_, fun j e hj => ?_⟩
  · obtain ⟨c, hc, hcop⟩ := h.entered x hx
    by_cases hxi : x.1 = i
    · rw [hxi] at hc ⊢
      exact ⟨d, Function.update_self i _ _, (hop c hc).trans hcop⟩
    · exact ⟨c, (Function.update_of_ne hxi _ _).trans hc, hcop⟩
  · by_cases hji : j = i
    · rw [hji] at hj ⊢
      obtain rfl := Option.some.inj ((Function.update_self i _ _).symm.trans hj)
      exact hi
    · exact h.calls j e ((Function.update_of_ne hji _ _).symm.trans hj)

/-- An answer stays one when another call enters the order. -/
theorem Answered.append {log : List (ℕ × ω)} {op : ω} {begun : ℕ} {answer : ρ} {n : ℕ}
    (h : Answered a first log i op begun answer n) (hij : i ≠ j) (other : ω) :
    Answered a first (log ++ [(j, other)]) i op begun answer n := by
  obtain ⟨new, haccess, hwrote, hno⟩ := h.turn
  refine ⟨h.begun, ?_, new, ?_, fun hnew => ?_, fun hnew hmem => ?_⟩
  · rw [List.length_append]
    exact Nat.le_add_right_of_le h.bound
  · rw [List.take_append_of_le_length h.bound]
    exact haccess
  · rw [List.getElem?_append_left (List.getElem?_eq_some_iff.mp (hwrote hnew)).1]
    exact hwrote hnew
  · rw [List.map_append, List.mem_append] at hmem
    rcases hmem with hmem | hmem
    · exact hno hnew hmem
    · exact hij (List.mem_singleton.mp hmem)

/-- **Another call enters the order.** A call without the mutex does not see it. -/
theorem CallInv.append {file new : γ} {log : List (ℕ × ω)} (h : CallInv a first file log i c)
    (hi : c.pc.holds = false) (hij : i ≠ j) (op : ω) :
    CallInv a first new (log ++ [(j, op)]) i c := by
  have hmem : i ∈ (log ++ [(j, op)]).map Prod.fst → i ∈ log.map Prod.fst := by
    rw [List.map_append, List.mem_append]
    rintro (hmem | hmem)
    · exact hmem
    · exact absurd (List.mem_singleton.mp hmem) hij
  obtain ⟨cop, begun, pc⟩ := c
  cases pc with
  | waiting =>
    obtain ⟨hbegun, hno⟩ := h
    refine ⟨?_, fun hm => hno (hmem hm)⟩
    rw [List.length_append]
    exact Nat.le_add_right_of_le hbegun
  | finished result n m =>
    cases result with
    | ok answer => exact ⟨h.1.append hij op, h.2.1, fun hm => h.2.2 (hmem hm)⟩
    | error e => exact fun hm => h (hmem hm)
  | died => trivial
  -- The others have the mutex.
  | locked => cases hi
  | writing answer new n => cases hi
  | written answer new n => cases hi
  | leaving result n => cases hi

/-- **What a call knows of what it has read is its turn**, when it enters the order. -/
theorem Answered.enter {log : List (ℕ × ω)} {op : ω} {begun : ℕ} {answer : ρ} {new : γ}
    (hbegun : begun ≤ log.length)
    (haccess : a.access op (a.contents first log) = .ok (answer, some new)) :
    Answered a first (log ++ [(i, op)]) i op begun answer log.length := by
  refine ⟨hbegun, by simp, some new, ?_, fun _ => by simp, fun h => (by cases h)⟩
  rw [List.take_left]
  exact haccess

/-- The contents after one more access. -/
theorem contents_append (a : Accesses ω γ ρ ε) (first : γ) (log : List (ℕ × ω)) (x : ℕ × ω) :
    a.contents first (log ++ [x]) = a.effect x.2 (a.contents first log) := by
  unfold Accesses.contents
  rw [List.foldl_append]
  rfl

theorem effect_of_access {op : ω} {g new : γ} {answer : ρ}
    (h : a.access op g = .ok (answer, some new)) : a.effect op g = new := by
  unfold Accesses.effect
  rw [h]

/-! ### Every step -/

/-- **A call enters the order** and replaces the contents. -/
theorem Inv.enter (h : Inv a first s) (hc : s.calls i = some c) {answer : ρ} {new : γ} {n : ℕ}
    (hpc : c.pc = .written answer new n) :
    Inv a first { s with
      file := new
      log := s.log ++ [(i, c.op)]
      calls := Function.update s.calls i (some { c with pc := .leaving (.ok answer) n }) } := by
  have hinv := h.calls i c hc
  unfold CallInv at hinv
  rw [hpc] at hinv
  obtain ⟨hbegun, rfl, hnew, haccess⟩ := hinv
  have hholds : Holds s.calls i := (holds_iff hc).mpr (by rw [hpc]; rfl)
  refine ⟨h.owned_same hc (by rw [hpc]; rfl), ?_, ?_, fun x hx => ?_, fun j d hd => ?_⟩
  -- What the call has read is still there, since no other has had the mutex.
  · rw [contents_append, ← h.file]
    exact (effect_of_access haccess).symm
  · rw [List.map_append, List.nodup_append]
    refine ⟨h.once, List.nodup_singleton _, fun x hx y hy hxy => hnew ?_⟩
    rw [← (List.mem_singleton.mp hy : y = i), ← hxy]
    exact hx
  · rcases List.mem_append.mp hx with hx | hx
    · obtain ⟨d, hd, hdop⟩ := h.entered x hx
      have hxi : x.1 ≠ i := fun hxi => hnew (hxi ▸ List.mem_map_of_mem hx)
      exact ⟨d, (Function.update_of_ne hxi _ _).trans hd, hdop⟩
    · rw [List.mem_singleton.mp hx]
      exact ⟨_, Function.update_self i _ _, rfl⟩
  · by_cases hji : j = i
    · rw [hji] at hd ⊢
      obtain rfl := Option.some.inj ((Function.update_self i _ _).symm.trans hd)
      rw [h.file] at haccess
      refine ⟨Answered.enter hbegun haccess, fun _ => ?_⟩
      rw [List.length_append]
      exact Nat.lt_succ_self _
    -- Of the others none has the mutex, so none has read what is replaced.
    · have hd : s.calls j = some d := (Function.update_of_ne hji _ _).symm.trans hd
      refine (h.calls j d hd).append ?_ hji c.op
      rw [Bool.eq_false_iff]
      exact fun hold => hji (h.owned.unique ((holds_iff hd).mpr hold) hholds)

theorem Inv.read (h : Inv a first s) (hc : s.calls i = some c) (hpc : c.pc = .locked) :
    CallInv a first s.file s.log i
      { c with pc := afterRead s.log.length (a.access c.op s.file) } := by
  have hinv := h.calls i c hc
  unfold CallInv at hinv
  rw [hpc] at hinv
  obtain ⟨hbegun, hnew⟩ := hinv
  match haccess : a.access c.op s.file with
  | .error e => exact hnew
  -- A call that writes nothing has its turn when it reads.
  | .ok (answer, none) =>
    refine ⟨⟨hbegun, Nat.le_refl _, none, ?_, fun h => (by cases h), fun _ => hnew⟩,
      fun hmem => absurd hmem hnew⟩
    rw [List.take_length, ← h.file]
    exact haccess
  | .ok (answer, some new) => exact ⟨hbegun, rfl, hnew, haccess⟩

theorem holds_afterRead (n : ℕ) (x : Except ε (ρ × Option γ)) :
    (afterRead n x).holds = true := by
  match x with
  | .error e => rfl
  | .ok (answer, none) => rfl
  | .ok (answer, some new) => rfl

theorem Inv.advance (h : Inv a first s) (hc : s.calls i = some c) {x : Answer ε}
    (hst : advance a s i c x = some t) : Inv a first t := by
  have hinv := h.calls i c hc
  have hop := op_of_calls hc
  obtain ⟨op, begun, pc⟩ := c
  unfold LockedFile.advance at hst
  cases x with
  | go =>
    cases pc with
    | waiting =>
      obtain ⟨m, hm, rfl⟩ := Option.map_eq_some_iff.mp hst
      refine h.move hop hinv (h.owned.lock hm ?_ fun j hj => holds_update_of_ne s.calls _ hj)
      exact (holds_update_self s.calls i _).mpr rfl
    | locked =>
      obtain rfl := Option.some.inj hst
      exact h.move hop (h.read hc rfl) (h.owned_same hc (holds_afterRead _ _))
    | writing answer new n =>
      obtain rfl := Option.some.inj hst
      exact h.move hop hinv (h.owned_same hc rfl)
    | written answer new n =>
      obtain rfl := Option.some.inj hst
      exact h.enter hc rfl
    | leaving result n =>
      obtain rfl := Option.some.inj hst
      refine h.move hop ?_ (h.owned_unlock ((holds_iff hc).mpr rfl) rfl)
      cases result with
      | ok answer => exact ⟨hinv.1, hinv.1.bound, hinv.2⟩
      | error e => exact hinv
    | finished result n m => cases hst
    | died => cases hst
  | fails e =>
    cases pc with
    | waiting =>
      obtain rfl := Option.some.inj hst
      exact h.move hop hinv.2 (h.owned_same hc rfl)
    | locked =>
      obtain rfl := Option.some.inj hst
      exact h.move hop hinv.2 (h.owned_same hc rfl)
    | writing answer new n | written answer new n =>
      obtain rfl := Option.some.inj hst
      exact h.move hop hinv.2.2.1 (h.owned_same hc rfl)
    | leaving result n => cases hst
    | finished result n m => cases hst
    | died => cases hst

/-- **Every step keeps the invariant.** -/
theorem Inv.step (h : Inv a first s) {x : Action ω ε} (hst : step a s x = some t) :
    Inv a first t := by
  cases x with
  | call i op =>
    unfold LockedFile.step at hst
    dsimp only at hst
    split at hst
    · rename_i hnone
      obtain rfl := Option.some.inj hst
      have hno : ∀ c : Call ω γ ρ ε, s.calls i ≠ some c := by
        intro c hc
        rw [hnone] at hc
        cases hc
      have hnew : i ∉ s.log.map Prod.fst := by
        intro hmem
        obtain ⟨x, hx, rfl⟩ := List.mem_map.mp hmem
        obtain ⟨c, hc, -⟩ := h.entered x hx
        exact hno c hc
      have hentry : CallInv a first s.file s.log i ⟨op, s.log.length, a.entry op s.log.length⟩ ∧
          (a.entry op s.log.length : Pc γ ρ ε).holds = false := by
        unfold Accesses.entry
        split
        · exact ⟨⟨Nat.le_refl _, hnew⟩, rfl⟩
        · exact ⟨hnew, rfl⟩
      refine h.move (fun c hc => absurd hc (hno c)) hentry.1 (h.owned_keep ?_)
      rw [hentry.2]
      exact ⟨fun ⟨c, hc, _⟩ => absurd hc (hno c), fun hf => (by cases hf)⟩
    · cases hst
  | advance i answer =>
    obtain ⟨c, hc, hst⟩ := Option.bind_eq_some_iff.mp hst
    exact h.advance hc hst
  | die i =>
    obtain ⟨c, hc, hst⟩ := Option.bind_eq_some_iff.mp hst
    split at hst
    · obtain rfl := Option.some.inj hst
      have hop := op_of_calls hc
      refine h.move (d := { c with pc := .died }) hop trivial ?_
      -- The system gives back the mutex of a process that dies.
      split
      · rename_i hold
        exact h.owned_unlock ((holds_iff hc).mpr hold) rfl
      · rename_i hold
        exact h.owned_same hc (Bool.eq_false_iff.mpr hold).symm
    · cases hst

theorem inv_of_reachable (h : (machine a first).Reachable s) : Inv a first s :=
  h.invariant (inv_start a first) (fun _ _ _ _ hs hst => hs.step hst)

end

end LockedFile
