import MatterController.Machine
import MatterController.NodeIndexLoad
import Mathlib.Data.List.Nodup
import Mathlib.Data.List.Perm.Subperm

/-!
# The index of commissioned nodes, over one controller after another

The storage outlives the controllers that are created over it, and their memory does not. A
controller writes its list whole, and only where it has changed it – a removal writes it in any
case – so a write that fails leaves memory ahead of storage until the next one that succeeds;
and what was ahead is lost when the controller is closed, or its process ends.

`Lives` runs all of this: controllers that are created, called and closed, with storage that
may refuse any read and any write. What a list in storage is worth is said against `settled`,
the list that the last call that returned and had something to write left in memory. Storage
always has that list, and can always be loaded (`lives_durable`). An app that takes the node
identifiers it commissions from `AllocateNodeId` never has one twice
(`addDevice_fresh`).
-/

namespace NodeIndex

/-! ## A controller is created -/

/-- What a storage that may refuse the read has under the key. -/
def StoredValue.answered (stored : StoredValue) : Option ReadFailure → StoredValue
  | none => stored
  | some failure => .unreadable failure

/-- **A controller is created** over the storage: it has no nodes in memory, and loads. -/
def create (s : NodeIndex) (failure : Option ReadFailure) : Option (Except Exn NodeIndex) :=
  (loadCommissionedNodes (s.storedValue.answered failure)).map fun r =>
    r.map fun nodes => { s with nodes := nodes.getD [] }

/-- A storage that refuses the read lets no controller be created. -/
theorem create_of_failure (s : NodeIndex) (failure : ReadFailure) :
    s.create (some failure) = some (.error (.chip failure.error)) := by
  rw [create, loadCommissionedNodes_eq]
  rfl

/-- The value in storage for a list of nodes. -/
def storedOf (ns : List UInt64) : Option (List UInt8) :=
  if ns = [] then none else some (nodeBytes ns)

/-- **A list that could be written can be loaded.** -/
theorem create_of_stored {s : NodeIndex} {ns : List UInt64} (hs : s.stored = storedOf ns)
    (hlength : ns.length ≤ 8191) : s.create none = some (.ok { s with nodes := ns }) := by
  rw [create, loadCommissionedNodes_eq, StoredValue.answered, storedValue, hs, storedOf]
  by_cases hnil : ns = []
  · rw [if_pos hnil, hnil]
    rfl
  · have hpos : 0 < ns.length := List.length_pos_iff.mpr hnil
    have hbytes : (nodeBytes ns).length = ns.length * 8 := length_nodeBytes ns
    have hmaximum : maximumNodeCount = 8191 := rfl
    rw [if_neg hnil, StoredValue.loaded, if_neg (by omega), if_neg (by omega),
      bytesNodes_nodeBytes]
    rfl

/-! ## Lives of controllers -/

/-- Whether a call that reaches the index writes: a removal does in any case, another call only
where it has a node to add. -/
def Call.writes (c : Call) (ns : List UInt64) : Bool :=
  match c with
  | .removeNode .. => true
  | c => decide (c.next ns ≠ ns)

/-- **One controller after another over a storage.** While none is running, the list in memory
is empty. To speak about it, `settled` is the list in memory as the last call left it that
returned and had something to write, and `thrown` says whether a call of the running controller
has thrown from its write since. -/
structure Lives where
  index : NodeIndex := {}
  running : Bool := false
  settled : List UInt64 := []
  thrown : Bool := false

/-- What happens: a controller is created, is called, or goes. -/
inductive Lives.Event
  | create (failure : Option ReadFailure)
  | call (c : Call)
  | close

namespace Lives

/-- A call is made, and its outcome recorded. -/
def call (s : Lives) (c : Call) : Lives :=
  match s.index.call c with
  | (.ok (), index) =>
    if c.reaches && c.writes s.index.nodes then
      { s with index := index, settled := index.nodes, thrown := false }
    else { s with index := index }
  | (.error _, index) => { s with index := index, thrown := s.thrown || c.reaches }

/-- **One event.** A controller that cannot load its nodes is not created. -/
def step (s : Lives) : Event → Option Lives
  | .create failure =>
    if s.running then none
    else match s.index.create failure with
      | some (.ok index) => some { s with index := index, running := true }
      | _ => some s
  | .call c => if s.running then some (s.call c) else none
  | .close =>
    if s.running then
      some { s with index := { s.index with nodes := [] }, running := false, thrown := false }
    else none

/-- All lives over a storage that was empty. -/
def machine : Machine Lives Event := ⟨{}, step⟩

/-- **What holds between calls.** Storage has the settled list; memory has it too unless a call
has thrown from its write; and neither has a node twice. -/
structure Inv (s : Lives) : Prop where
  stored : s.index.stored = storedOf s.settled
  length : s.settled.length ≤ 8191
  nodup : s.settled.Nodup
  nodes : s.index.nodes.Nodup
  memory : s.running = true → s.thrown = false → s.index.nodes = s.settled
  stopped : s.running = false → s.index.nodes = [] ∧ s.thrown = false

theorem inv_start : Inv {} where
  stored := rfl
  length := Nat.zero_le _
  nodup := List.nodup_nil
  nodes := List.nodup_nil
  memory := fun h => by cases h
  stopped := fun _ => ⟨rfl, rfl⟩

end Lives

/-- A call adds no node twice. -/
theorem Call.nodup_next (c : Call) {ns : List UInt64} (h : ns.Nodup) : (c.next ns).Nodup := by
  have hadd : ∀ n : UInt64, (if n ∈ ns then ns else ns ++ [n]).Nodup := by
    intro n
    split
    · exact h
    · rename_i hn
      exact List.nodup_append.mpr ⟨h, List.pairwise_singleton _ n, fun a ha b hb => by
        rw [List.mem_singleton.mp hb]
        exact fun he => hn (he ▸ ha)⟩
  cases c with
  | commission n => exact hadd n
  | recoverNode n => exact hadd n
  | removeNode n => exact h.filter _

/-- A call that does not write leaves the list. -/
theorem Call.next_of_not_writes {c : Call} {ns : List UInt64} (h : c.writes ns = false) :
    c.next ns = ns := by
  cases c with
  | removeNode => cases h
  | commission => simpa [Call.writes] using h
  | recoverNode => simpa [Call.writes] using h

/-- What is stored by a write that succeeds. -/
theorem stored_of_persist {s : NodeIndex} {failure : Option WriteFailure}
    (hok : (s.persistCommissionedNodes failure).1 = .ok ()) :
    (s.persistCommissionedNodes failure).2.stored = storedOf s.nodes ∧
      s.nodes.length ≤ 8191 := by
  rcases stored_persist hok with ⟨hnil, hs⟩ | ⟨hne, hlength, hs⟩
  · rw [hs, storedOf, if_pos hnil, hnil]
    exact ⟨rfl, Nat.zero_le _⟩
  · rw [hs, storedOf, if_neg hne]
    exact ⟨rfl, by omega⟩

/-- **A call that reaches the index** writes the list it makes, or has nothing to write. -/
theorem call_of_reaches {s : NodeIndex} {c : Call} (hr : c.reaches = true) :
    s.call c = if c.writes s.nodes then
        persistCommissionedNodes { s with nodes := c.next s.nodes } c.failure
      else (.ok (), s) := by
  have hadd : ∀ (n : UInt64) failure, s.addNode n failure =
      if decide ((if n ∈ s.nodes then s.nodes else s.nodes ++ [n]) ≠ s.nodes) then
        persistCommissionedNodes
          { s with nodes := if n ∈ s.nodes then s.nodes else s.nodes ++ [n] } failure
      else (.ok (), s) := by
    intro n failure
    unfold addNode
    by_cases hn : n ∈ s.nodes <;> simp [hn]
  cases c with
  | commission n pairing failure =>
    cases pairing with
    | error exn => cases hr
    | ok u => exact hadd n failure
  | recoverNode n read admission failure =>
    simp only [Call.reaches, Bool.and_eq_true] at hr
    obtain ⟨⟨hn, hread⟩, hadmission⟩ := hr
    cases read with
    | error exn => cases hread
    | ok u =>
      cases admission with
      | error exn => cases hadmission
      | ok u =>
        have hc : s.call (.recoverNode n (.ok ()) (.ok ()) failure) = s.addNode n failure := by
          simp [call, recoverNode, hn]
        rw [hc]
        exact hadd n failure
  | removeNode n admission unpairDevice failure =>
    simp only [Call.reaches, Bool.and_eq_true, beq_iff_eq] at hr
    obtain ⟨hadmission, rfl⟩ := hr
    cases admission with
    | error exn => cases hadmission
    | ok u => rfl

/-- **What a call does to memory and storage**, by where it ends: it does not reach the index;
it has nothing to write; its write succeeds; its write fails. -/
theorem call_cases (s : NodeIndex) (c : Call) :
    (c.reaches = false ∧ ∃ exn, s.call c = (.error exn, s)) ∨
    (c.reaches = true ∧ c.writes s.nodes = false ∧ s.call c = (.ok (), s)) ∨
    (c.reaches = true ∧ c.writes s.nodes = true ∧ (c.next s.nodes).length ≤ 8191 ∧
      s.call c = (.ok (), { nodes := c.next s.nodes, stored := storedOf (c.next s.nodes) })) ∨
    (c.reaches = true ∧ c.writes s.nodes = true ∧
      ∃ exn, s.call c = (.error exn, { s with nodes := c.next s.nodes })) := by
  cases hr : c.reaches with
  | false =>
    rcases s.call_spec c with ⟨-, hthrown⟩ | ⟨hr', -⟩ | ⟨hr', -⟩
    · exact Or.inl ⟨rfl, hthrown⟩
    · exact absurd (hr.symm.trans hr') (by decide)
    · exact absurd (hr.symm.trans hr') (by decide)
  | true =>
    rw [call_of_reaches hr]
    cases hw : c.writes s.nodes with
    | false => exact Or.inr (Or.inl ⟨rfl, rfl, rfl⟩)
    | true =>
      rw [if_pos rfl]
      obtain ⟨hnodes, ⟨-, hok, -⟩ | ⟨-, ⟨exn, hexn⟩, hsame⟩⟩ :=
        persist_spec { s with nodes := c.next s.nodes } c.failure
      · obtain ⟨hstored, hlength⟩ := stored_of_persist hok
        have hfields : ∀ t : NodeIndex, t.nodes = c.next s.nodes →
            t.stored = storedOf (c.next s.nodes) →
            t = { nodes := c.next s.nodes, stored := storedOf (c.next s.nodes) } := by
          rintro ⟨nodes, stored⟩ rfl rfl
          rfl
        exact Or.inr (Or.inr (Or.inl
          ⟨rfl, rfl, hlength, Prod.ext hok (hfields _ hnodes hstored)⟩))
      · exact Or.inr (Or.inr (Or.inr ⟨rfl, rfl, exn, Prod.ext hexn hsame⟩))

namespace Lives

/-- A controller that has loaded has the settled list in memory. -/
theorem Inv.create {s t : Lives} (h : Inv s) (hs : s.running = false)
    {failure : Option ReadFailure} (hst : s.step (.create failure) = some t) :
    (failure = none ∧ t = { s with
        index := { s.index with nodes := s.settled }, running := true }) ∨
      (failure ≠ none ∧ t = s) := by
  rw [step, hs, if_neg (by decide)] at hst
  cases failure with
  | some failure =>
    rw [create_of_failure] at hst
    cases hst
    exact Or.inr ⟨by simp, rfl⟩
  | none =>
    rw [create_of_stored h.stored h.length] at hst
    cases hst
    exact Or.inl ⟨rfl, rfl⟩

/-- **A call keeps what holds between calls.** -/
theorem Inv.call {s : Lives} (h : Inv s) (hs : s.running = true) (c : Call) :
    Inv (s.call c) := by
  have hrunning : ∀ P : Prop, s.running = false → P := fun P hn => by rw [hs] at hn; cases hn
  rw [Lives.call]
  rcases call_cases s.index c with ⟨hr, exn, hc⟩ | ⟨hr, hw, hc⟩ | ⟨hr, hw, hlength, hc⟩ |
      ⟨hr, hw, exn, hc⟩
  · rw [hc, hr]
    simp only [Bool.or_false]
    exact h
  · rw [hc, hr, hw]
    exact h
  · rw [hc, hr, hw]
    exact
      { stored := rfl
        length := hlength
        nodup := c.nodup_next h.nodes
        nodes := c.nodup_next h.nodes
        memory := fun _ _ => rfl
        stopped := fun hn => hrunning _ hn }
  · rw [hc, hr]
    exact
      { stored := h.stored
        length := h.length
        nodup := h.nodup
        nodes := c.nodup_next h.nodes
        memory := fun _ ht => by simp at ht
        stopped := fun hn => hrunning _ hn }

/-- **Every event keeps what holds between calls.** -/
theorem Inv.step {s t : Lives} (h : Inv s) {e : Event} (hst : s.step e = some t) : Inv t := by
  cases e with
  | create failure =>
    cases hs : s.running with
    | true => simp [Lives.step, hs] at hst
    | false =>
      rcases h.create hs hst with ⟨-, rfl⟩ | ⟨-, rfl⟩
      · exact
          { stored := h.stored
            length := h.length
            nodup := h.nodup
            nodes := h.nodup
            memory := fun _ _ => rfl
            stopped := fun hn => by cases hn }
      · exact h
  | call c =>
    cases hs : s.running with
    | false => simp [Lives.step, hs] at hst
    | true =>
      rw [Lives.step, hs, if_pos rfl] at hst
      cases hst
      exact h.call hs c
  | close =>
    rw [Lives.step] at hst
    split at hst
    · cases hst
      exact
        { stored := h.stored
          length := h.length
          nodup := h.nodup
          nodes := List.nodup_nil
          memory := fun hr => by cases hr
          stopped := fun _ => ⟨rfl, rfl⟩ }
    · cases hst

theorem inv_of_reachable {s : Lives} (h : machine.Reachable s) : Inv s :=
  h.invariant inv_start fun _ _ _ _ hs hst => hs.step hst

/-- What takes a controller's place: it is closed, if there is one, and another is created. -/
def restart (s : Lives) : List Event :=
  if s.running then [.close, .create none] else [.create none]

/-- **What is worth relying on.** No node is in memory or in storage twice. Storage has the
settled list, and so has memory as long as no call has thrown from its write. A call that
returns has left what it promises in the settled list, unless it had nothing to write and an
earlier call has thrown from its write; a call that throws leaves that list. A new controller
can always be created, and has it in memory. -/
structure Durable (s : Lives) : Prop where
  nodup : s.index.nodes.Nodup ∧ s.index.persisted.Nodup
  persisted : s.index.persisted = s.settled
  memory : s.running = true → s.thrown = false → s.index.nodes = s.settled
  returned : ∀ c, s.running = true → (s.index.call c).1 = .ok () →
    c.Wants (s.call c).index.nodes ∧
      (s.thrown = false ∨ c.writes s.index.nodes = true → c.Wants (s.call c).settled)
  threw : ∀ c exn, (s.index.call c).1 = .error exn → (s.call c).settled = s.settled
  restarted : ∃ t, machine.run s s.restart = some t ∧ t.running = true ∧ t.thrown = false ∧
    t.index.nodes = s.settled ∧ t.settled = s.settled

end Lives

/-- The list in storage, by its value. -/
theorem persisted_of_storedOf {s : NodeIndex} {ns : List UInt64} (h : s.stored = storedOf ns) :
    s.persisted = ns := by
  unfold storedOf at h
  split at h
  · rename_i hnil
    rw [persisted_of_none h, hnil]
  · exact persisted_of_some h

namespace Lives

/-- A call that returns leaves what it promises. -/
theorem Inv.returned {s : Lives} (h : Inv s) (hs : s.running = true) {c : Call}
    (hok : (s.index.call c).1 = .ok ()) :
    c.Wants (s.call c).index.nodes ∧
      (s.thrown = false ∨ c.writes s.index.nodes = true → c.Wants (s.call c).settled) := by
  rw [Lives.call]
  rcases call_cases s.index c with ⟨hr, exn, hc⟩ | ⟨hr, hw, hc⟩ | ⟨hr, hw, hlength, hc⟩ |
      ⟨hr, hw, exn, hc⟩
  · rw [hc] at hok
    cases hok
  · have hwants : c.Wants s.index.nodes := by
      have := c.wants_next s.index.nodes
      rwa [Call.next_of_not_writes hw] at this
    rw [hc, hr, hw]
    refine ⟨hwants, fun hthrown => ?_⟩
    rcases hthrown with ht | hw'
    · exact h.memory hs ht ▸ hwants
    · cases hw'
  · rw [hc, hr, hw]
    exact ⟨c.wants_next _, fun _ => c.wants_next _⟩
  · rw [hc] at hok
    cases hok

/-- A controller can take the place of any. -/
theorem Inv.restarted {s : Lives} (h : Inv s) :
    ∃ t, machine.run s s.restart = some t ∧ t.running = true ∧ t.thrown = false ∧
      t.index.nodes = s.settled ∧ t.settled = s.settled := by
  have created : ∀ u : Lives, Inv u → u.running = false → u.settled = s.settled →
      ∃ t, machine.run u [.create none] = some t ∧ t.running = true ∧ t.thrown = false ∧
        t.index.nodes = s.settled ∧ t.settled = s.settled := by
    intro u hu hr hsettled
    refine ⟨{ u with index := { u.index with nodes := u.settled }, running := true }, ?_, rfl,
      (hu.stopped hr).2, hsettled, hsettled⟩
    show (u.step (.create none)).bind some = _
    rw [Lives.step, hr, if_neg (by decide), create_of_stored hu.stored hu.length]
    rfl
  cases hr : s.running with
  | false =>
    rw [restart, hr, if_neg (by decide)]
    exact created s h hr rfl
  | true =>
    have hclose : s.step .close = some
        { s with index := { s.index with nodes := [] }, running := false, thrown := false } := by
      rw [Lives.step, hr, if_pos rfl]
    obtain ⟨t, ht, hrest⟩ := created _ (h.step hclose) rfl rfl
    refine ⟨t, ?_, hrest⟩
    rw [restart, hr, if_pos rfl, Machine.run_cons]
    show (s.step .close).bind _ = _
    rw [hclose, Option.bind_some]
    exact ht

/-- **The index is durable over one controller after another.** In every run of creations,
calls and closings over a storage that may refuse any read and any write, storage has what the
last call that returned with something to write left in memory, and nothing else can make a new
controller start from other nodes, or not at all. -/
theorem lives_durable {s : Lives} (h : machine.Reachable s) : Durable s where
  nodup := by
    have hs := inv_of_reachable h
    rw [persisted_of_storedOf hs.stored]
    exact ⟨hs.nodes, hs.nodup⟩
  persisted := persisted_of_storedOf (inv_of_reachable h).stored
  memory := (inv_of_reachable h).memory
  returned := fun _ hr hok => (inv_of_reachable h).returned hr hok
  threw := fun c exn hc => by
    rw [Lives.call, show s.index.call c = (.error exn, (s.index.call c).2) from Prod.ext hc rfl]
  restarted := (inv_of_reachable h).restarted

/-- A node is commissioned, and the storage refuses the write; a second node is commissioned,
and both are in storage. -/
theorem lives_durable_two :
    ∃ s, machine.Reachable s ∧ s.thrown = false ∧ s.index.persisted = [5, 6] := by
  have hreach : machine.Reachable
      { index := { nodes := [5, 6], stored := some (nodeBytes [5, 6]) }
        running := true
        settled := [5, 6] } :=
    Machine.reachable_iff_run.mpr ⟨[.create none,
      .call (.commission 5 (.ok ()) (some ⟨.other 1, by decide, by decide⟩)),
      .call (.commission 6 (.ok ()) none)], rfl⟩
  exact ⟨_, hreach, rfl, (lives_durable hreach).persisted⟩

end Lives

/-! ## Identifiers an app allocates -/

/-- The loop of `AllocateNodeId`, which ends where the candidate has wrapped around. -/
def allocateFrom (existing : List UInt64) : ℕ → UInt64 → Option UInt64
  | 0, _ => none
  | fuel + 1, candidate =>
    if candidate = 0 then none
    else if candidate ∈ existing then allocateFrom existing fuel (candidate + 1)
    else some candidate

/-- `AllocateNodeId`: `none` is for its exception, that no identifier is available. -/
def allocateNodeId (existing : List UInt64) : Option UInt64 := allocateFrom existing (2 ^ 64) 1

/-- What the loop comes to: the first candidate that is not there. The fuel is what is left of
the identifiers, and one more for the candidate that ends the loop. -/
theorem allocateFrom_spec (existing : List UInt64) (fuel : ℕ) (candidate : UInt64)
    (hpos : candidate ≠ 0) (hfuel : candidate.toNat + fuel = 2 ^ 64 + 1) :
    (allocateFrom existing fuel candidate).elim
      (∀ m : UInt64, candidate.toNat ≤ m.toNat → m ∈ existing) fun n =>
      n ∉ existing ∧ candidate.toNat ≤ n.toNat ∧
        ∀ m : UInt64, candidate.toNat ≤ m.toNat → m.toNat < n.toNat → m ∈ existing := by
  induction fuel generalizing candidate with
  | zero =>
    have := candidate.toNat_lt
    omega
  | succ fuel ih =>
    rw [allocateFrom, if_neg hpos]
    by_cases hmem : candidate ∈ existing
    · rw [if_pos hmem]
      have hlt := candidate.toNat_lt
      by_cases hlast : candidate.toNat = 2 ^ 64 - 1
      · -- the last identifier there is: the next candidate ends the loop
        have hwrap : candidate + 1 = 0 := by
          apply UInt64.toNat_inj.mp
          rw [UInt64.toNat_add, hlast]
          rfl
        have hone : fuel = 1 := by omega
        rw [hwrap, hone]
        intro m hm
        have hm' := m.toNat_lt
        rwa [show m = candidate from UInt64.toNat_inj.mp (by omega)]
      · have hnext : (candidate + 1).toNat = candidate.toNat + 1 := by
          rw [UInt64.toNat_add, show (1 : UInt64).toNat = 1 from rfl]
          exact Nat.mod_eq_of_lt (by omega)
        have hstep := ih (candidate + 1)
          (fun h => by rw [h] at hnext; simp at hnext) (by omega)
        rw [hnext] at hstep
        have hfirst : ∀ m : UInt64, candidate.toNat ≤ m.toNat →
            m = candidate ∨ candidate.toNat + 1 ≤ m.toNat := by
          intro m hm
          rcases Nat.lt_or_eq_of_le hm with h | h
          · exact Or.inr h
          · exact Or.inl (UInt64.toNat_inj.mp h.symm)
        cases hr : allocateFrom existing fuel (candidate + 1) with
        | none =>
          rw [hr] at hstep
          intro m hm
          rcases hfirst m hm with rfl | h
          · exact hmem
          · exact hstep m h
        | some n =>
          rw [hr] at hstep
          obtain ⟨hn, hle, hbelow⟩ := hstep
          refine ⟨hn, by omega, fun m hm hlt' => ?_⟩
          rcases hfirst m hm with rfl | h
          · exact hmem
          · exact hbelow m h hlt'
    · rw [if_neg hmem]
      exact ⟨hmem, Nat.le_refl _, fun m hm hlt => absurd hlt (by omega)⟩

/-- **`AllocateNodeId` returns the least identifier that is not in use**, and throws only where
all are. -/
theorem allocateNodeId_eq_some {existing : List UInt64} {n : UInt64}
    (h : allocateNodeId existing = some n) :
    n ∉ existing ∧ n ≠ 0 ∧ ∀ m : UInt64, m ≠ 0 → m.toNat < n.toNat → m ∈ existing := by
  have hspec := allocateFrom_spec existing (2 ^ 64) 1 (by decide) rfl
  rw [show allocateFrom existing (2 ^ 64) 1 = some n from h] at hspec
  obtain ⟨hn, hle, hbelow⟩ := hspec
  have hone : (1 : UInt64).toNat = 1 := rfl
  have hpos : ∀ m : UInt64, m ≠ 0 → 1 ≤ m.toNat := fun m hm =>
    Nat.one_le_iff_ne_zero.mpr fun h0 => hm (UInt64.toNat_inj.mp h0)
  refine ⟨hn, ?_, fun m hm => hbelow m (hone ▸ hpos m hm)⟩
  rintro rfl
  exact absurd hle (by decide)

/-- So it is at most one more than the nodes in use. -/
theorem allocateNodeId_le {existing : List UInt64} {n : UInt64}
    (h : allocateNodeId existing = some n) : n.toNat ≤ existing.length + 1 := by
  obtain ⟨-, -, hbelow⟩ := allocateNodeId_eq_some h
  have hn := n.toNat_lt
  have htoNat : ∀ k, k < n.toNat → (UInt64.ofNat k).toNat = k := fun k hk => by
    rw [UInt64.toNat_ofNat']
    exact Nat.mod_eq_of_lt (by omega)
  have hnodup : ((List.range' 1 (n.toNat - 1)).map UInt64.ofNat).Nodup := by
    refine List.Nodup.map_on (fun a ha b hb hab => ?_) List.nodup_range'
    rw [List.mem_range'_1] at ha hb
    rw [← htoNat a (by omega), ← htoNat b (by omega), hab]
  have hsubset : (List.range' 1 (n.toNat - 1)).map UInt64.ofNat ⊆ existing := by
    intro m hm
    obtain ⟨k, hk, rfl⟩ := List.mem_map.mp hm
    rw [List.mem_range'_1] at hk
    refine hbelow _ (fun h0 => ?_) (by rw [htoNat k (by omega)]; omega)
    have := htoNat k (by omega)
    rw [h0] at this
    simp at this
    omega
  have := (hnodup.subperm hsubset).length_le
  rw [List.length_map, List.length_range'] at this
  omega

/-- **What adding a device meets**: what came before the index is updated, in the commissioning
and in the recovery it may fall back on, and the answers of the storage; and which exceptions
say that the device already exists. -/
structure Adding where
  pairing : Except Exn Unit
  failure : Option WriteFailure
  alreadyExists : Exn → Bool
  read : Except Exn Unit
  admission : Except Exn Unit
  recoveryFailure : Option WriteFailure

/-- What adding a device throws. -/
inductive AddingError
  | noIdentifier
  | commissioning (exn : Exn)
  | recovery (commissioningException recoveryException : Exn)

/-- The calls that adding a device makes, for an identifier. -/
def Adding.calls (a : Adding) (nodeId : UInt64) : Call × Call :=
  (.commission nodeId a.pairing a.failure,
    .recoverNode nodeId a.read a.admission a.recoveryFailure)

/-- **A device is added** (`CommissionOnNetworkAsync` and `CommissionBleAsync` of the app's
session): under an identifier that is allocated for it, and, where the device is already on the
fabric, by recovering that node. -/
def Lives.addDevice (s : Lives) (a : Adding) : Except AddingError UInt64 × Lives :=
  match allocateNodeId s.index.nodes with
  | none => (.error .noIdentifier, s)
  | some nodeId =>
    let calls := a.calls nodeId
    match (s.index.call calls.1).1 with
    | .ok () => (.ok nodeId, s.call calls.1)
    | .error exn =>
      let t := s.call calls.1
      if a.alreadyExists exn then
        match (t.index.call calls.2).1 with
        | .ok () => (.ok nodeId, t.call calls.2)
        | .error exn' => (.error (.recovery exn exn'), t.call calls.2)
      else (.error (.commissioning exn), t)

/-- The node a call adds. -/
def Call.adds : Call → Option UInt64
  | .commission nodeId _ _ => some nodeId
  | .recoverNode nodeId _ _ _ => some nodeId
  | .removeNode .. => none

/-- What it makes of a list to add a node, what is wanted of it, and when it writes. -/
theorem Call.of_adds {c : Call} {n : UInt64} (h : c.adds = some n) (ns : List UInt64) :
    (c.next ns = if n ∈ ns then ns else ns ++ [n]) ∧ (c.Wants ns ↔ n ∈ ns) ∧
      c.writes ns = decide (n ∉ ns) := by
  cases c with
  | removeNode => cases h
  | commission =>
    cases h
    refine ⟨rfl, Iff.rfl, ?_⟩
    by_cases hn : n ∈ ns <;> simp [Call.writes, Call.next, hn]
  | recoverNode =>
    cases h
    refine ⟨rfl, Iff.rfl, ?_⟩
    by_cases hn : n ∈ ns <;> simp [Call.writes, Call.next, hn]

/-- A call that adds a node keeps the others in their order; and it changes nothing where the
node is there already, or where it does not reach the index. -/
theorem call_adds {s : NodeIndex} {c : Call} {n : UInt64} (h : c.adds = some n) :
    (s.call c).2.nodes = s.nodes ∨
      (c.reaches = true ∧ n ∉ s.nodes ∧ (s.call c).2.nodes = s.nodes ++ [n]) := by
  have hnext := (c.of_adds h s.nodes).1
  have hchanged : c.next s.nodes = s.nodes ∨ (n ∉ s.nodes ∧ c.next s.nodes = s.nodes ++ [n]) := by
    rw [hnext]
    by_cases hn : n ∈ s.nodes <;> simp [hn]
  rcases call_cases s c with ⟨-, exn, hc⟩ | ⟨-, -, hc⟩ | ⟨hr, -, -, hc⟩ | ⟨hr, -, exn, hc⟩
  · exact Or.inl (by rw [hc])
  · exact Or.inl (by rw [hc])
  · rw [hc]
    exact hchanged.imp_right fun h => ⟨hr, h⟩
  · rw [hc]
    exact hchanged.imp_right fun h => ⟨hr, h⟩

namespace Lives

/-- What a call leaves in memory. -/
theorem call_index (s : Lives) (c : Call) : (s.call c).index = (s.index.call c).2 := by
  rw [Lives.call]
  rcases hc : s.index.call c with ⟨_ | ⟨⟨⟩⟩, index⟩
  · rfl
  · dsimp only
    split <;> rfl

/-- A call leaves the controller running. -/
theorem call_running (s : Lives) (c : Call) : (s.call c).running = s.running := by
  rw [Lives.call]
  rcases hc : s.index.call c with ⟨_ | ⟨⟨⟩⟩, index⟩
  · rfl
  · dsimp only
    split <;> rfl

/-- A call of a running controller is one of its events. -/
theorem reachable_call {s : Lives} (h : machine.Reachable s) (hs : s.running = true) (c : Call) :
    machine.Reachable (s.call c) :=
  Machine.Reachable.step h (a := .call c)
    (show s.step (.call c) = some (s.call c) by rw [step, if_pos hs])

/-- **A node that was not there and is added** is the last in memory, and in storage. -/
theorem added {s : Lives} (h : machine.Reachable s) (hs : s.running = true) {c : Call}
    {n : UInt64} (hc : c.adds = some n) (hnew : n ∉ s.index.nodes)
    (hok : (s.index.call c).1 = .ok ()) :
    (s.call c).index.nodes = s.index.nodes ++ [n] ∧ n ∈ (s.call c).index.persisted := by
  obtain ⟨hmemory, hsettled⟩ := (lives_durable h).returned c hs hok
  rw [(c.of_adds hc _).2.1] at hmemory hsettled
  refine ⟨?_, ?_⟩
  · rw [call_index] at hmemory ⊢
    rcases call_adds hc with hsame | ⟨-, -, happend⟩
    · exact absurd (hsame ▸ hmemory) hnew
    · exact happend
  · rw [(lives_durable (reachable_call h hs c)).persisted]
    exact hsettled (Or.inr (by rw [(c.of_adds hc _).2.2, decide_eq_true hnew]))

end Lives

/-- **Devices are added under identifiers of their own.** In every state of every run, adding a
device ends in a state of the run, and leaves the nodes in memory as they are, in their order,
with at most one more behind them. Where it returns an identifier, that is the node: it is the
least that was not in use, so that it is operational as long as there are such identifiers, and
storage has it, unless an exception of the write was taken to say that the device exists. -/
theorem addDevice_fresh {s : Lives} (h : Lives.machine.Reachable s) (hs : s.running = true)
    (a : Adding) :
    Lives.machine.Reachable (s.addDevice a).2 ∧
    ((s.addDevice a).2.index.nodes = s.index.nodes ∨
      ∃ n, allocateNodeId s.index.nodes = some n ∧
        (s.addDevice a).2.index.nodes = s.index.nodes ++ [n]) ∧
    ∀ n, (s.addDevice a).1 = .ok n →
      (n ∉ s.index.nodes ∧ n ≠ 0 ∧ ∀ m : UInt64, m ≠ 0 → m.toNat < n.toNat → m ∈ s.index.nodes) ∧
      (s.index.nodes.length < 0xFFFFFFEFFFFFFFFF → isOperationalNodeId n = true) ∧
      (s.addDevice a).2.index.nodes = s.index.nodes ++ [n] ∧
      (n ∈ (s.addDevice a).2.index.persisted ∨ (a.pairing = .ok () ∧
        ∃ exn, (s.index.call (a.calls n).1).1 = .error exn ∧ a.alreadyExists exn = true)) := by
  have hsame : ∀ (t : Lives) c n, c.adds = some n → t.index.nodes = s.index.nodes ∨
      t.index.nodes = s.index.nodes ++ [n] → (t.call c).index.nodes = s.index.nodes ∨
      (t.call c).index.nodes = s.index.nodes ++ [n] := by
    intro t c n hc ht
    rw [Lives.call_index]
    rcases call_adds hc with hkeep | ⟨-, hnew, happend⟩
    · rwa [hkeep]
    · rcases ht with ht | ht
      · exact Or.inr (happend.trans (by rw [ht]))
      · exact absurd (by simp [ht]) hnew
  rw [Lives.addDevice]
  cases hid : allocateNodeId s.index.nodes with
  | none => exact ⟨h, Or.inl rfl, fun n hn => by cases hn⟩
  | some nodeId =>
    obtain ⟨hnew, hpos, hleast⟩ := allocateNodeId_eq_some hid
    have hfirst := hsame s (a.calls nodeId).1 nodeId rfl (Or.inl rfl)
    have hreach := Lives.reachable_call h hs (a.calls nodeId).1
    have hrun := (Lives.call_running s (a.calls nodeId).1).trans hs
    have hoperational : s.index.nodes.length < 0xFFFFFFEFFFFFFFFF →
        isOperationalNodeId nodeId = true := by
      intro hlength
      have hle := allocateNodeId_le hid
      simp only [isOperationalNodeId, Bool.and_eq_true, decide_eq_true_eq, UInt64.lt_iff_toNat_lt,
        UInt64.le_iff_toNat_le]
      refine ⟨Nat.pos_of_ne_zero fun h0 => hpos (UInt64.toNat_inj.mp h0), ?_⟩
      show nodeId.toNat ≤ 0xFFFFFFEFFFFFFFFF
      omega
    dsimp only
    cases hcommission : (s.index.call (a.calls nodeId).1).1 with
    | ok u =>
      refine ⟨hreach, hfirst.imp_right fun ht => ⟨nodeId, rfl, ht⟩, fun n hn => ?_⟩
      cases hn
      obtain ⟨hnodes, hpersisted⟩ := Lives.added h hs rfl hnew hcommission
      exact ⟨⟨hnew, hpos, hleast⟩, hoperational, hnodes, Or.inl hpersisted⟩
    | error exn =>
      dsimp only
      split
      · rename_i hexists
        have hsecond := hsame (s.call (a.calls nodeId).1) (a.calls nodeId).2 nodeId rfl hfirst
        have hreach' := Lives.reachable_call hreach hrun (a.calls nodeId).2
        cases hrecovery : ((s.call (a.calls nodeId).1).index.call (a.calls nodeId).2).1 with
        | error exn' =>
          exact ⟨hreach', hsecond.imp_right fun ht => ⟨nodeId, rfl, ht⟩, fun n hn => by cases hn⟩
        | ok u =>
          refine ⟨hreach', hsecond.imp_right fun ht => ⟨nodeId, rfl, ht⟩, fun n hn => ?_⟩
          cases hn
          refine ⟨⟨hnew, hpos, hleast⟩, hoperational, ?_⟩
          rw [Lives.call_index] at hfirst
          rcases call_adds (s := s.index) (c := (a.calls nodeId).1) rfl
            with hkeep | ⟨hr, -, happend⟩
          · -- the commissioning left memory, so the recovery adds the node
            have hkept : (s.call (a.calls nodeId).1).index.nodes = s.index.nodes := by
              rw [Lives.call_index, hkeep]
            obtain ⟨hnodes, hpersisted⟩ :=
              Lives.added hreach hrun (c := (a.calls nodeId).2) rfl (hkept ▸ hnew) hrecovery
            exact ⟨hkept ▸ hnodes, Or.inl hpersisted⟩
          · -- its write has failed, and the recovery finds the node in memory
            refine ⟨?_, Or.inr ⟨?_, exn, hcommission, hexists⟩⟩
            · rcases hsecond with hsecond | hsecond
              · rw [Lives.call_index] at hsecond
                rcases call_adds (s := (s.call (a.calls nodeId).1).index)
                  (c := (a.calls nodeId).2) rfl with hkeep | ⟨-, hnew', -⟩
                · rw [hkeep, Lives.call_index, happend] at hsecond
                  simp at hsecond
                · exact absurd (by rw [Lives.call_index, happend]; simp) hnew'
              · exact hsecond
            · revert hr
              cases hpairing : a.pairing <;> simp [Adding.calls, Call.reaches, hpairing,
                Except.isOk, Except.toBool]
      · exact ⟨hreach, hfirst.imp_right fun ht => ⟨nodeId, rfl, ht⟩, fun n hn => by cases hn⟩

/-- A controller that has two nodes. -/
def twoNodes : Lives where
  index := { nodes := [1, 3], stored := some (nodeBytes [1, 3]) }
  running := true
  settled := [1, 3]

/-- A device that exists on the fabric is recovered under the identifier between two others. -/
theorem addDevice_fresh_between :
    ∃ a, (twoNodes.addDevice a).1 = .ok 2 ∧
      (twoNodes.addDevice a).2.index.nodes = [1, 3, 2] := by
  have hreach : Lives.machine.Reachable twoNodes :=
    Machine.reachable_iff_run.mpr ⟨[.create none, .call (.commission 1 (.ok ()) none),
      .call (.commission 3 (.ok ()) none)], rfl⟩
  have hok : (twoNodes.addDevice
      ⟨.error (.chip (.other 1)), none, fun _ => true, .ok (), .ok (), none⟩).1 = .ok 2 := rfl
  exact ⟨_, hok, ((addDevice_fresh hreach rfl _).2.2 2 hok).2.2.1⟩

end NodeIndex
