import MatterController.Receiver

/-!
# No candidate is lost

Candidates come before they can be used. Those the browser finds for the page's
offer come while the offer is still being made, and the host may not have them
before the offer; those of the camera come before its answer has been applied,
and the browser may not have them before that. So the page keeps both, each in a
list of its own, and hands them on – the local ones in one go, the remote ones
one after the other, waiting for each – when it can; from then on it hands on
what comes at once.

`candidates_relayed` says that this loses nothing, repeats nothing and keeps the
order, however the waiting falls together with further candidates, messages and
the end of the session: of the open peer every candidate is either handed on or
kept, in the order in which they came, and of a closed one what was handed on is
a first part of what came.

`Relayed s r` is the invariant where `r` is received: the page's own field says so
only between two tasks.
-/

namespace Receiver

variable {s t u : Page} {p q : ℕ} {r : Option Receiving}

/-! ## What was told of a peer -/

/-- The reports of a peer's negotiation. -/
def told (s : Page) (p : ℕ) : List Report :=
  (s.posted.filter fun x => x.peer == some p && x.report.signals).map Posted.report

/-- What the negotiation does not see tells nothing of a peer. -/
theorem Quiet.told (h : Quiet s t) (p : ℕ) : told t p = told s p := by
  obtain ⟨l, hl, hquiet⟩ := h.posted
  have hnil : l.filter (fun x => x.peer == some p && x.report.signals) = [] := by
    rw [List.filter_eq_nil_iff]
    intro x hx
    simp [hquiet x hx]
  unfold Receiver.told
  rw [hl, List.filter_append, hnil, List.append_nil]

/-- A report of the negotiation is told of the page's peer. -/
theorem told_publish (hpeer : s.peer = some p) {report : Report} (hr : report.signals = true) :
    told (publish s report) p = told s p ++ [report] := by
  unfold told publish
  simp [List.filter_append, hpeer, hr]

/-- **Only the negotiation of the page's peer goes on**: what is told of a negotiation is
told of it, and candidates are found, accepted and added for no other. -/
structure Belongs (s t : Page) : Prop where
  posted : ∃ l, t.posted = s.posted ++ l ∧
    ∀ x ∈ l, x.report.signals = true → x.peer = s.peer ∧ s.peer.isSome = true
  others : ∀ q, s.peer ≠ some q → t.heard q = s.heard q ∧ t.accepted q = s.accepted q ∧
    t.given q = s.given q ∧ t.described q = s.described q

namespace Belongs

/-- Nothing goes on where nothing happens. -/
theorem refl (s : Page) : Belongs s s :=
  ⟨⟨[], (List.append_nil _).symm, fun _ hx => by cases hx⟩, fun _ _ => ⟨rfl, rfl, rfl, rfl⟩⟩

/-- Of another peer nothing is told. -/
theorem told (h : Belongs s t) (hq : s.peer ≠ some q) : told t q = told s q := by
  obtain ⟨l, hl, hsignals⟩ := h.posted
  have hnil : l.filter (fun x => x.peer == some q && x.report.signals) = [] := by
    rw [List.filter_eq_nil_iff]
    intro x hx hx'
    obtain ⟨hxq, hsignal⟩ := Bool.and_eq_true_iff.mp hx'
    exact hq ((hsignals x hx hsignal).1.symm.trans (by simpa using hxq))
  unfold Receiver.told
  rw [hl, List.filter_append, hnil, List.append_nil]

/-- One step after the other, of the same peer. -/
theorem trans (h : Belongs s t) (hpeer : t.peer = s.peer) (k : Belongs t u) : Belongs s u := by
  obtain ⟨l, hl, hls⟩ := h.posted
  obtain ⟨m, hm, hms⟩ := k.posted
  rw [hpeer] at hms
  refine ⟨⟨l ++ m, by rw [hm, hl, List.append_assoc], fun x hx => ?_⟩, fun q hq => ?_⟩
  · rcases List.mem_append.mp hx with hx | hx
    · exact hls x hx
    · exact hms x hx
  · obtain ⟨hheard, haccepted, hgiven, hdescribed⟩ := h.others q hq
    obtain ⟨kheard, kaccepted, kgiven, kdescribed⟩ := k.others q (hpeer ▸ hq)
    exact ⟨kheard.trans hheard, kaccepted.trans haccepted, kgiven.trans hgiven,
      kdescribed.trans hdescribed⟩

/-- A change the negotiation does not see may follow, whichever peer there is by then. -/
theorem quiet (h : Belongs s t) (k : Quiet t u) : Belongs s u := by
  obtain ⟨l, hl, hls⟩ := h.posted
  obtain ⟨m, hm, hmq⟩ := k.posted
  refine ⟨⟨l ++ m, by rw [hm, hl, List.append_assoc], fun x hx hxs => ?_⟩, fun q hq => ?_⟩
  · rcases List.mem_append.mp hx with hx | hx
    · exact hls x hx hxs
    · rw [hmq x hx] at hxs
      cases hxs
  · rw [k.negotiation]
    exact h.others q hq

end Belongs

/-- A change of the negotiation of the page's peer. -/
theorem belongs_negotiation (hpeer : s.peer = some p) {n : Negotiation}
    (hn : ∀ q, q ≠ p → n.heard q = s.heard q ∧ n.accepted q = s.accepted q ∧
      n.given q = s.given q ∧ n.described q = s.described q) :
    Belongs s { s with toNegotiation := n } :=
  ⟨(Belongs.refl s).posted, fun q hq => hn q (fun hqp => hq (hqp ▸ hpeer))⟩

/-- A report is of the page's peer. -/
theorem belongs_publish (hpeer : s.peer = some p) (report : Report) :
    Belongs s (publish s report) := by
  refine ⟨⟨[⟨s.token, s.peer, report⟩], rfl, fun x hx _ => ?_⟩, fun q _ => ⟨rfl, rfl, rfl, rfl⟩⟩
  rw [List.mem_singleton.mp hx, hpeer]
  exact ⟨rfl, rfl⟩

/-! ## The invariant -/

/-- Whether a message makes the offer. -/
def Receiving.offers : Receiving → Bool
  | .createOffer _ | .setLocalDescription _ _ => true
  | _ => false

/-- Whether it adds candidates. -/
def Receiving.adds : Receiving → Bool
  | .flushing _ _ | .adding _ _ => true
  | _ => false

/-- The candidates that are kept although there is a remote description: those the answer
has not come to. -/
def unadded : Option Receiving → List Candidate
  | some (.flushing _ rest) => rest
  | _ => []

/-- Whether it is an answer that is through its wait for the description. -/
def flushes : Option Receiving → Bool
  | some (.flushing _ _) => true
  | _ => false

/-- **What holds of every peer**: an offer was told before its candidates, what was told
of them is a first part of what the browser found, and what was added of the remote ones
is a first part of what was accepted, after the description was set. -/
structure InOrder (s : Page) (p : ℕ) : Prop where
  told : told s p = [] ∨ ∃ sdp cs, told s p = .offer sdp :: cs.map .ice ∧ cs <+: s.heard p
  given : s.given p <+: s.accepted p
  described : s.given p ≠ [] → s.described p = true

/-- **What holds of the page's peer** while `r` is received: before the offer its
candidates are kept, after it they are told; before the description the remote ones are
kept, after it they are added, but for those the answer has not come to. -/
structure Negotiating (s : Page) (p : ℕ) (r : Option Receiving) : Prop where
  unpublished : s.offerPublished = false →
    told s p = [] ∧ s.pendingLocalCandidates = s.heard p
  published : s.offerPublished = true → s.pendingLocalCandidates = [] ∧
    ∃ sdp, told s p = .offer sdp :: (s.heard p).map .ice
  undescribed : s.remoteDescriptionSet = false →
    s.given p = [] ∧ s.pendingRemoteCandidates = s.accepted p
  described : s.remoteDescriptionSet = true →
    s.described p = true ∧ s.given p ++ unadded r = s.accepted p ∧
      (flushes r = false → s.pendingRemoteCandidates = [])
  receiving : ∀ r', r = some r' → r'.peer = p ∧
    (r'.offers = true → s.offerPublished = false) ∧
    (r'.adds = true → s.remoteDescriptionSet = true)
  bounded : s.pendingLocalCandidates.length ≤ 32 ∧ s.pendingRemoteCandidates.length ≤ 32

/-- A peer that has not been made yet. -/
structure Unborn (s : Page) (p : ℕ) : Prop where
  told : told s p = []
  heard : s.heard p = []
  accepted : s.accepted p = []
  given : s.given p = []

/-- **The invariant of the negotiation** while `r` is received. -/
structure Relayed (s : Page) (r : Option Receiving) : Prop where
  inOrder : ∀ p, InOrder s p
  unborn : ∀ p, s.peers ≤ p → Unborn s p
  born : ∀ p, s.peer = some p → p < s.peers
  negotiating : ∀ p, s.peer = some p → Negotiating s p r
  closed : s.peer = none → s.pendingLocalCandidates = [] ∧ s.pendingRemoteCandidates = [] ∧
    s.offerPublished = false ∧ s.remoteDescriptionSet = false

/-- What is left of it when the receiver is closed. -/
structure Broken (s : Page) : Prop where
  inOrder : ∀ p, InOrder s p
  unborn : ∀ p, s.peers ≤ p → Unborn s p

/-- The order does not depend on what is received. -/
theorem Relayed.broken (h : Relayed s r) : Broken s := ⟨h.inOrder, h.unborn⟩

/-- When the page is loaded there is no peer, and none was told of. -/
theorem relayed_start (b : Browser) : Relayed (machine b).start none where
  inOrder := fun p => ⟨Or.inl rfl, List.prefix_rfl, fun h => absurd rfl h⟩
  unborn := fun p _ => ⟨rfl, rfl, rfl, rfl⟩
  born := fun p h => by cases h
  negotiating := fun p h => by cases h
  closed := fun _ => ⟨rfl, rfl, rfl, rfl⟩

/-! ## What the negotiation does not see -/

/-- Only what was told, found, accepted and added of the peer matters. -/
theorem InOrder.congr (h : InOrder s p) (htold : Receiver.told t p = Receiver.told s p)
    (hn : t.heard p = s.heard p ∧ t.accepted p = s.accepted p ∧ t.given p = s.given p ∧
      t.described p = s.described p) : InOrder t p := by
  obtain ⟨hheard, haccepted, hgiven, hdescribed⟩ := hn
  refine ⟨?_, ?_, ?_⟩
  · rw [htold, hheard]
    exact h.told
  · rw [hgiven, haccepted]
    exact h.given
  · rw [hgiven, hdescribed]
    exact h.described

/-- The same for a peer that has not been made yet. -/
theorem Unborn.congr (h : Unborn s p) (htold : Receiver.told t p = Receiver.told s p)
    (hheard : t.heard p = s.heard p) (haccepted : t.accepted p = s.accepted p)
    (hgiven : t.given p = s.given p) : Unborn t p :=
  ⟨htold.trans h.told, hheard.trans h.heard, haccepted.trans h.accepted, hgiven.trans h.given⟩

/-- What the negotiation does not see leaves the order as it is. -/
theorem Broken.quiet (h : Broken s) (hq : Quiet s t) : Broken t := by
  have hn := hq.negotiation
  refine ⟨fun p => (h.inOrder p).congr (hq.told p) ?_, fun p hp => (h.unborn p ?_).congr
    (hq.told p) ?_ ?_ ?_⟩
  · rw [hn]
    exact ⟨rfl, rfl, rfl, rfl⟩
  · rw [← hq.peers]
    exact hp
  all_goals rw [hn]

/-- It leaves the negotiation where it is. -/
theorem Negotiating.quiet (h : Negotiating s p r) (hq : Quiet s t) : Negotiating t p r := by
  have hn := hq.negotiation
  refine ⟨?_, ?_, ?_, ?_, ?_, ?_⟩
  · rw [hn, hq.told p]
    exact h.unpublished
  · rw [hn, hq.told p]
    exact h.published
  · rw [hn]
    exact h.undescribed
  · rw [hn]
    exact h.described
  · rw [hn]
    exact h.receiving
  · rw [hn]
    exact h.bounded

/-- **A change the negotiation does not see** keeps its invariant. -/
theorem Relayed.quiet (h : Relayed s r) (hq : Quiet s t) : Relayed t r := by
  have hbroken := h.broken.quiet hq
  refine ⟨hbroken.inOrder, hbroken.unborn, fun p hp => ?_, fun p hp => ?_, fun hp => ?_⟩
  · rw [hq.peers]
    exact h.born p (hq.peer.symm.trans hp)
  · exact (h.negotiating p (hq.peer.symm.trans hp)).quiet hq
  · rw [hq.negotiation]
    exact h.closed (hq.peer.symm.trans hp)

/-! ## Closing -/

/-- Closing forgets the peer and its negotiation, after what the negotiation does not see. -/
theorem closeReceiver_eq (s : Page) : ∃ u, Quiet s u ∧ closeReceiver s = { u with
    audioEngine := none
    peer := none
    pendingRemoteCandidates := []
    pendingLocalCandidates := []
    offerPublished := false
    remoteDescriptionSet := false } := by
  unfold closeReceiver
  dsimp only
  cases (releaseCapture s).audioEngine with
  | none => exact ⟨_, quiet_releaseCapture s, rfl⟩
  | some e => exact ⟨_, (quiet_releaseCapture s).trans (still_closeEngine _ e).toQuiet, rfl⟩

/-- **A receiver that is closed** has nothing to relay. -/
theorem Broken.closeReceiver (h : Broken s) (r : Option Receiving) :
    Relayed (closeReceiver s) r := by
  obtain ⟨u, hu, heq⟩ := closeReceiver_eq s
  have hbroken := h.quiet hu
  rw [heq]
  exact ⟨fun p => (hbroken.inOrder p).congr rfl ⟨rfl, rfl, rfl, rfl⟩,
    fun p hp => (hbroken.unborn p hp).congr rfl rfl rfl rfl, fun p hp => (by cases hp),
    fun p hp => (by cases hp), fun _ => ⟨rfl, rfl, rfl, rfl⟩⟩

/-- A failure closes the receiver, whatever is received. -/
theorem Broken.fail (h : Broken s) (text : String) (r : Option Receiving) :
    Relayed (fail s text) r :=
  (h.quiet (still_publish s rfl).toQuiet).closeReceiver r

/-- Closing the receiver does not cut short what is received. -/
theorem closeReceiver_running (s : Page) : (closeReceiver s).running = s.running := by
  obtain ⟨u, hu, heq⟩ := closeReceiver_eq s
  rw [heq]
  show u.running = s.running
  exact congrArg Negotiation.running hu.negotiation

/-- **The negotiation does not see the change**, or the receiver is closed after it. -/
inductive QuietOrClosed (s t : Page) : Prop
  | quiet (h : Quiet s t)
  | closed (u : Page) (h : Quiet s u) (ht : t = closeReceiver u)

theorem Quiet.trans_or (h : Quiet s t) (k : QuietOrClosed t u) : QuietOrClosed s u := by
  cases k with
  | quiet k => exact .quiet (h.trans k)
  | closed v k hv => exact .closed v (h.trans k) hv

/-- A failure is told, and closes the receiver. -/
theorem quietOrClosed_fail (s : Page) (text : String) : QuietOrClosed s (fail s text) :=
  .closed _ (still_publish s rfl).toQuiet rfl

/-- So does an error of the engine of the page's peer; of another nothing is heard. -/
theorem quietOrClosed_reportError (s : Page) (e : ℕ) (text : String) :
    QuietOrClosed s (reportError s e text) := by
  unfold reportError
  split
  · exact quietOrClosed_fail s text
  · exact .quiet (.refl s)

theorem QuietOrClosed.running (h : QuietOrClosed s t) : t.running = s.running := by
  cases h with
  | quiet h => exact congrArg Negotiation.running h.negotiation
  | closed u h ht =>
    rw [ht, closeReceiver_running]
    exact congrArg Negotiation.running h.negotiation

theorem Belongs.quietOrClosed (h : Belongs s t) (hq : QuietOrClosed t u) : Belongs s u := by
  cases hq with
  | quiet hq => exact h.quiet hq
  | closed v hq hu =>
    obtain ⟨w, hw, heq⟩ := closeReceiver_eq v
    have hbelongs := (h.quiet hq).quiet hw
    rw [hu, heq]
    exact ⟨hbelongs.posted, hbelongs.others⟩

/-- **What is relayed stays so** where a step is quiet, or closes the receiver. -/
theorem Relayed.quietOrClosed (h : Relayed s r) (hq : QuietOrClosed s t) : Relayed t r := by
  cases hq with
  | quiet hq => exact h.quiet hq
  | closed u hq ht =>
    rw [ht]
    exact (h.broken.quiet hq).closeReceiver r

/-! ## The page's peer -/

/-- What holds of the page's peer is more than what holds of every peer. -/
theorem Negotiating.inOrder (h : Negotiating s p r) : InOrder s p := by
  refine ⟨?_, ?_, fun hgiven => ?_⟩
  · cases ho : s.offerPublished with
    | false => exact Or.inl (h.unpublished ho).1
    | true =>
      obtain ⟨-, sdp, htold⟩ := h.published ho
      exact Or.inr ⟨sdp, s.heard p, htold, List.prefix_rfl⟩
  · cases hd : s.remoteDescriptionSet with
    | false =>
      rw [(h.undescribed hd).1]
      exact List.nil_prefix
    | true => exact ⟨_, (h.described hd).2.1⟩
  · cases hd : s.remoteDescriptionSet with
    | false => exact absurd (h.undescribed hd).1 hgiven
    | true => exact (h.described hd).1

/-- **A change of the page's peer alone**: what remains to be shown concerns it. -/
theorem Relayed.update {r' : Option Receiving} (h : Relayed s r) (hpeer : s.peer = some p)
    (htpeer : t.peer = some p) (htpeers : t.peers = s.peers)
    (hbelongs : Belongs s t) (hself : Negotiating t p r') : Relayed t r' := by
  have hother : ∀ q, q ≠ p → s.peer ≠ some q := fun q hq hsq =>
    hq (Option.some.inj (hsq.symm.trans hpeer))
  refine ⟨fun q => ?_, fun q hq => ?_, fun q hq => ?_, fun q hq => ?_, fun hnone => ?_⟩
  · by_cases hqp : q = p
    · rw [hqp]
      exact hself.inOrder
    · exact (h.inOrder q).congr (hbelongs.told (hother q hqp)) (hbelongs.others q (hother q hqp))
  · rw [htpeers] at hq
    have hqp : q ≠ p := by
      rintro rfl
      exact absurd (h.born q hpeer) (Nat.not_lt.mpr hq)
    obtain ⟨hheard, haccepted, hgiven, -⟩ := hbelongs.others q (hother q hqp)
    exact (h.unborn q hq).congr (hbelongs.told (hother q hqp)) hheard haccepted hgiven
  · rw [htpeers]
    exact h.born q (by rw [hpeer, ← htpeer, hq])
  · obtain rfl := Option.some.inj (htpeer.symm.trans hq)
    exact hself
  · rw [htpeer] at hnone
    cases hnone

/-- What is received is not what the invariant is about. -/
theorem Relayed.setRunning (h : Relayed s r) (x : Option Receiving) :
    Relayed { s with running := x } r :=
  ⟨fun p => ⟨(h.inOrder p).told, (h.inOrder p).given, (h.inOrder p).described⟩,
    fun p hp => ⟨(h.unborn p hp).told, (h.unborn p hp).heard, (h.unborn p hp).accepted,
      (h.unborn p hp).given⟩, h.born,
    fun p hp => ⟨(h.negotiating p hp).unpublished, (h.negotiating p hp).published,
      (h.negotiating p hp).undescribed, (h.negotiating p hp).described,
      (h.negotiating p hp).receiving, (h.negotiating p hp).bounded⟩, h.closed⟩

/-- A message that is no longer received, but for an answer that adds candidates. -/
theorem Negotiating.settle (h : Negotiating s p r) (hf : flushes r = false) :
    Negotiating s p none := by
  refine ⟨h.unpublished, h.published, h.undescribed, fun hd => ?_, fun r' hr' => (by cases hr'),
    h.bounded⟩
  obtain ⟨hdescribed, hgiven, hpending⟩ := h.described hd
  have hunadded : unadded r = [] := by
    cases r with
    | none => rfl
    | some r => cases r <;> first | rfl | cases hf
  rw [hunadded] at hgiven
  exact ⟨hdescribed, hgiven, fun _ => hpending hf⟩

/-- What is received may be let go of, unless it is an answer that has candidates to add. -/
theorem Relayed.settle (h : Relayed s r) (hf : flushes r = false) : Relayed s none :=
  ⟨h.inOrder, h.unborn, h.born, fun p hp => (h.negotiating p hp).settle hf, h.closed⟩

/-- Without a peer it does not matter what is received. -/
theorem Relayed.of_closed {r' : Option Receiving} (h : Relayed s r) (hpeer : s.peer = none) :
    Relayed s r' :=
  ⟨h.inOrder, h.unborn, h.born, fun p hp => (by rw [hpeer] at hp; cases hp), h.closed⟩

/-! ## Receiving -/

/-- What becomes of a message keeps the invariant, and belongs to the page's peer. -/
def Outcome.Relayed (s : Page) : Outcome → Prop
  | .returns t => Belongs s t ∧ Receiver.Relayed t none
  | .throws t => Belongs s t ∧ Broken t
  | .awaits t r => Belongs s t ∧ Receiver.Relayed t (some r)

theorem Outcome.Relayed.page {o : Outcome} (h : o.Relayed s) :
    Belongs s o.page ∧ Receiver.Relayed o.page o.page.running := by
  have hrun : ∀ (t : Page) (x : Option Receiving), Belongs s t →
      Belongs s { t with running := x } := fun t x h => ⟨h.posted, h.others⟩
  cases o with
  | returns t => exact ⟨hrun t none h.1, h.2.setRunning none⟩
  | throws t =>
    have hbroken : Broken { t with running := none } :=
      ⟨fun p => ⟨(h.2.inOrder p).told, (h.2.inOrder p).given, (h.2.inOrder p).described⟩,
        fun p hp => ⟨(h.2.unborn p hp).told, (h.2.unborn p hp).heard, (h.2.unborn p hp).accepted,
          (h.2.unborn p hp).given⟩⟩
    exact ⟨(hrun t none h.1).quietOrClosed (quietOrClosed_fail _ _), hbroken.fail _ _⟩
  | awaits t r => exact ⟨hrun t (some r) h.1, h.2.setRunning (some r)⟩

/-- What a message does after what belongs to the page's peer. -/
theorem Outcome.Relayed.of_belongs {o : Outcome} (h : o.Relayed t) (hpeer : t.peer = s.peer)
    (hs : Belongs s t) : o.Relayed s := by
  cases o with
  | returns u => exact ⟨hs.trans hpeer h.1, h.2⟩
  | throws u => exact ⟨hs.trans hpeer h.1, h.2⟩
  | awaits u r => exact ⟨hs.trans hpeer h.1, h.2⟩

/-- **The loop over a batch of candidates.** -/
theorem Relayed.ingest (h : Relayed s none) (hpeer : s.peer = some p)
    (cs : List RemoteCandidate) : (ingest s p cs).Relayed s := by
  induction cs generalizing s with
  | nil => exact ⟨.refl s, h⟩
  | cons raw cs ih =>
    have hn := h.negotiating p hpeer
    unfold Receiver.ingest
    cases hc : raw.check with
    | none => exact ⟨.refl s, h.broken⟩
    | some c =>
      dsimp only
      have haccept : ∀ q, q ≠ p →
          Function.update s.accepted p (s.accepted p ++ [c]) q = s.accepted q :=
        fun q hq => Function.update_of_ne hq _ _
      split
      · -- added at once: everything accepted before has been
        rename_i hd
        obtain ⟨hdescribed, hgiven, hpending⟩ := hn.described hd
        have hbelongs : Belongs s (give (accept s p c) p c) :=
          belongs_negotiation hpeer fun q hq =>
            ⟨rfl, haccept q hq, Function.update_of_ne hq _ _, rfl⟩
        refine ⟨hbelongs, h.update hpeer hpeer rfl hbelongs ⟨hn.unpublished, hn.published,
          fun hnd => ?_, fun _ => ⟨hdescribed, ?_, fun _ => hpending rfl⟩,
          fun r' hr' => ?_, hn.bounded⟩⟩
        · rw [show s.remoteDescriptionSet = false from hnd] at hd
          cases hd
        · have hall : s.given p = s.accepted p := by simpa [unadded] using hgiven
          show Function.update s.given p (s.given p ++ [c]) p ++ []
            = Function.update s.accepted p (s.accepted p ++ [c]) p
          rw [Function.update_self, Function.update_self, List.append_nil, hall]
        · obtain rfl := Option.some.inj hr'
          exact ⟨rfl, fun ho => (by cases ho), fun _ => hd⟩
      · rename_i hd
        have hd : s.remoteDescriptionSet = false := Bool.eq_false_iff.mpr hd
        split
        · exact ⟨.refl s, h.broken⟩
        · -- kept: everything accepted before has been
          rename_i hroom
          obtain ⟨hgiven, hpending⟩ := hn.undescribed hd
          have hbelongs : Belongs s { accept s p c with
              pendingRemoteCandidates := s.pendingRemoteCandidates ++ [c] } :=
            belongs_negotiation hpeer fun q hq => ⟨rfl, haccept q hq, rfl, rfl⟩
          suffices hkept : Relayed { accept s p c with
              pendingRemoteCandidates := s.pendingRemoteCandidates ++ [c] } none from
            (ih hkept hpeer).of_belongs rfl hbelongs
          refine h.update hpeer hpeer rfl hbelongs ⟨hn.unpublished, hn.published,
            fun _ => ⟨hgiven, ?_⟩, fun hnd => ?_, fun r' hr' => (by cases hr'), hn.bounded.1, ?_⟩
          · show s.pendingRemoteCandidates ++ [c]
              = Function.update s.accepted p (s.accepted p ++ [c]) p
            rw [Function.update_self, hpending]
          · rw [show s.remoteDescriptionSet = true from hnd] at hd
            cases hd
          · have hlength := hn.bounded.2
            show (s.pendingRemoteCandidates ++ [c]).length ≤ 32
            rw [List.length_append, List.length_singleton]
            omega

/-- **The loop of an answer**: the rest of the candidates that came before it is still to
be added. -/
theorem Relayed.flush {rest : List Candidate} (h : Relayed s (some (.flushing p rest)))
    (hpeer : s.peer = some p) : (flush s p rest).Relayed s := by
  have hn := h.negotiating p hpeer
  have hd : s.remoteDescriptionSet = true := (hn.receiving _ rfl).2.2 rfl
  obtain ⟨hdescribed, hgiven, -⟩ := hn.described hd
  have hnd : ∀ {P : Prop}, s.remoteDescriptionSet = false → P := by
    intro P hfalse
    rw [hd] at hfalse
    cases hfalse
  cases rest with
  | nil =>
    have hbelongs : Belongs s { s with pendingRemoteCandidates := [] } :=
      belongs_negotiation hpeer fun _ _ => ⟨rfl, rfl, rfl, rfl⟩
    exact ⟨hbelongs, h.update hpeer hpeer rfl hbelongs ⟨hn.unpublished,
      hn.published, fun hfalse => hnd hfalse, fun _ => ⟨hdescribed, hgiven, fun _ => rfl⟩,
      fun r' hr' => (by cases hr'), hn.bounded.1, Nat.zero_le _⟩⟩
  | cons c rest =>
    have hbelongs : Belongs s (give s p c) :=
      belongs_negotiation hpeer fun q hq => ⟨rfl, rfl, Function.update_of_ne hq _ _, rfl⟩
    refine ⟨hbelongs, h.update hpeer hpeer rfl hbelongs ⟨hn.unpublished, hn.published,
      fun hfalse => hnd hfalse, fun _ => ⟨hdescribed, ?_, fun hf => (by cases hf)⟩,
      fun r' hr' => ?_, hn.bounded⟩⟩
    · show Function.update s.given p (s.given p ++ [c]) p ++ rest = s.accepted p
      rw [Function.update_self, List.append_assoc]
      exact hgiven
    · obtain rfl := Option.some.inj hr'
      exact ⟨rfl, fun ho => (by cases ho), fun _ => hd⟩

/-- The candidates that are kept are told, in one go. -/
theorem told_foldl (hpeer : s.peer = some p) (cs : List Candidate) :
    told (cs.foldl (fun s c => publish s (.ice c)) s) p = told s p ++ cs.map .ice ∧
      Belongs s (cs.foldl (fun s c => publish s (.ice c)) s) := by
  induction cs generalizing s with
  | nil => exact ⟨by simp, .refl s⟩
  | cons c cs ih =>
    obtain ⟨htold, hbelongs⟩ := ih (s := publish s (.ice c)) hpeer
    refine ⟨?_, (belongs_publish hpeer _).trans rfl hbelongs⟩
    rw [List.foldl_cons, htold, told_publish hpeer rfl, List.append_assoc]
    rfl

/-- Telling changes nothing else. -/
theorem foldl_publish (s : Page) (cs : List Candidate) :
    (cs.foldl (fun s c => publish s (.ice c)) s).toNegotiation = s.toNegotiation ∧
      (cs.foldl (fun s c => publish s (.ice c)) s).peer = s.peer ∧
      (cs.foldl (fun s c => publish s (.ice c)) s).peers = s.peers := by
  induction cs generalizing s with
  | nil => exact ⟨rfl, rfl, rfl⟩
  | cons c cs ih => exact ih (publish s (.ice c))

/-- **The offer**, and the candidates that were kept for it. -/
theorem Relayed.offer {offer : HString} {r' : Receiving} (h : Relayed s (some r'))
    (ho : r'.offers = true) (hpeer : s.peer = some p) :
    (Outcome.returns { s.pendingLocalCandidates.foldl (fun s c => publish s (.ice c))
        { publish s (.offer offer) with offerPublished := true } with
      pendingLocalCandidates := [] }).Relayed s := by
  have hn := h.negotiating p hpeer
  obtain ⟨htold, hpending⟩ := hn.unpublished ((hn.receiving _ rfl).2.1 ho)
  have hoffer :
      told { publish s (.offer offer) with offerPublished := true } p = [.offer offer] := by
    rw [show told { publish s (.offer offer) with offerPublished := true } p = _ from
      told_publish hpeer rfl, htold, List.nil_append]
  have hpublished : Belongs s { publish s (.offer offer) with offerPublished := true } :=
    (belongs_publish hpeer _).trans rfl
      (belongs_negotiation (s := publish s (.offer offer)) hpeer fun _ _ => ⟨rfl, rfl, rfl, rfl⟩)
  obtain ⟨hnegotiation, htpeer, htpeers⟩ := foldl_publish
    { publish s (.offer offer) with offerPublished := true } s.pendingLocalCandidates
  obtain ⟨hself, hkept⟩ := told_foldl
    (s := { publish s (.offer offer) with offerPublished := true }) hpeer s.pendingLocalCandidates
  rw [hoffer] at hself
  generalize s.pendingLocalCandidates.foldl (fun s c => publish s (.ice c))
    { publish s (.offer offer) with offerPublished := true } = u at *
  have hsettled := hn.settle (by cases r' <;> first | rfl | cases ho)
  have hbelongs : Belongs s { u with pendingLocalCandidates := [] } :=
    (hpublished.trans rfl hkept).trans htpeer
      (belongs_negotiation (htpeer.trans hpeer) fun _ _ => ⟨rfl, rfl, rfl, rfl⟩)
  -- the page after the candidates, with the negotiation it has
  obtain ⟨n, m, _, _, _, _, _, _, posted, _⟩ := u
  obtain rfl : n = _ := hnegotiation
  exact ⟨hbelongs, h.update hpeer (htpeer.trans hpeer) htpeers hbelongs
    ⟨fun hu => (by cases hu), fun _ => ⟨rfl, offer, hself.trans (by rw [hpending]; rfl)⟩,
      hsettled.undescribed, hsettled.described, fun r' hr' => (by cases hr'), Nat.zero_le _,
      hsettled.bounded.2⟩⟩

/-- **A message comes to wait** for something other than a candidate. -/
theorem Relayed.await {r' : Receiving} (h : Relayed s none) (hf : flushes (some r') = false)
    (hr : ∀ p, s.peer = some p → r'.peer = p ∧ (r'.offers = true → s.offerPublished = false) ∧
      (r'.adds = true → s.remoteDescriptionSet = true)) : Relayed s (some r') := by
  refine ⟨h.inOrder, h.unborn, h.born, fun p hp => ?_, h.closed⟩
  have hn := h.negotiating p hp
  refine ⟨hn.unpublished, hn.published, hn.undescribed, fun hd => ?_, fun r'' hr'' => ?_,
    hn.bounded⟩
  · obtain ⟨hdescribed, hgiven, hpending⟩ := hn.described hd
    have hunadded : unadded (some r') = [] := by
      cases r' <;> first | rfl | cases hf
    rw [hunadded]
    exact ⟨hdescribed, hgiven, fun _ => hpending rfl⟩
  · obtain rfl := Option.some.inj hr''
    exact hr p hp

/-- **The answer is applied**: all that is kept is to be added now. -/
theorem Relayed.answer (h : Relayed s (some (.setRemoteDescription p))) (hpeer : s.peer = some p) :
    (Outcome.awaits { s with
      remoteDescriptionSet := true
      described := Function.update s.described p true }
      (.flushing p s.pendingRemoteCandidates)).Relayed s := by
  have hn := h.negotiating p hpeer
  have hkept : s.given p ++ s.pendingRemoteCandidates = s.accepted p := by
    cases hd : s.remoteDescriptionSet with
    | false =>
      obtain ⟨hgiven, hpending⟩ := hn.undescribed hd
      rw [hgiven, hpending, List.nil_append]
    | true =>
      obtain ⟨-, hgiven, hpending⟩ := hn.described hd
      rw [hpending rfl]
      exact hgiven
  have hbelongs : Belongs s { s with
      remoteDescriptionSet := true
      described := Function.update s.described p true } :=
    belongs_negotiation hpeer fun q hq => ⟨rfl, rfl, rfl, Function.update_of_ne hq _ _⟩
  refine ⟨hbelongs, h.update hpeer hpeer rfl hbelongs
    ⟨hn.unpublished, hn.published, fun hd => (by cases hd),
      fun _ => ⟨Function.update_self p true s.described, hkept, fun hf => (by cases hf)⟩,
      fun r' hr' => ?_, hn.bounded⟩⟩
  obtain rfl := Option.some.inj hr'
  exact ⟨rfl, fun ho => (by cases ho), fun _ => rfl⟩

/-- **What is received goes on** when the browser answers, to the next candidate or to its end. -/
theorem Relayed.resume {r' : Receiving} (h : Relayed s (some r')) (ok : Bool) (sdp : HString) :
    (resume s r' ok sdp).Relayed s := by
  unfold Receiver.resume
  split
  · exact ⟨.refl s, h.broken⟩
  · by_cases hpeer : s.peer = some r'.peer
    · rw [if_neg (not_not_intro hpeer)]
      have hreceiving := ((h.negotiating _ hpeer).receiving _ rfl).2
      cases r' with
      | createOffer p =>
        refine ⟨.refl s, (h.settle rfl).await rfl (fun q hq => ⟨?_, hreceiving⟩)⟩
        exact Option.some.inj (hpeer.symm.trans hq)
      | setLocalDescription p offer => exact h.offer rfl hpeer
      | setRemoteDescription p =>
        obtain ⟨hbelongs, hanswer⟩ := h.answer hpeer
        exact (hanswer.flush hpeer).of_belongs rfl hbelongs
      | flushing p rest => exact h.flush hpeer
      | adding p rest => exact (h.settle rfl).ingest hpeer rest
    · rw [if_pos hpeer]
      -- the peer is gone, so there is no other
      have hclosed : s.peer = none := by
        rw [Option.eq_none_iff_forall_ne_some]
        intro p hp
        refine hpeer ?_
        rw [((h.negotiating p hp).receiving _ rfl).1, hp]
      exact ⟨.refl s, h.of_closed hclosed⟩

/-- **A peer is made**, on a page that has none. -/
theorem Relayed.open (h : Relayed s none) (hpeer : s.peer = none) (token : Option HString)
    (audioEngine : Option ℕ) : Relayed { s with
      token := token
      peer := some s.peers
      peers := s.peers + 1
      talkDisabled := true
      audioEngine := audioEngine } none := by
  obtain ⟨hlocal, hremote, hoffer, hdescription⟩ := h.closed hpeer
  obtain ⟨htold, hheard, haccepted, hgiven⟩ := h.unborn s.peers (Nat.le_refl _)
  refine ⟨fun q => ⟨(h.inOrder q).told, (h.inOrder q).given, (h.inOrder q).described⟩,
    fun q hq => ?_, fun q hq => ?_, fun q hq => ?_, fun hq => (by cases hq)⟩
  · obtain ⟨htold, hheard, haccepted, hgiven⟩ := h.unborn q (Nat.le_of_succ_le hq)
    exact ⟨htold, hheard, haccepted, hgiven⟩
  · obtain rfl := Option.some.inj hq
    exact Nat.lt_succ_self s.peers
  · obtain rfl := Option.some.inj hq
    refine ⟨fun _ => ⟨htold, hlocal.trans hheard.symm⟩, fun ho => ?_,
      fun _ => ⟨hgiven, hremote.trans haccepted.symm⟩, fun hd => ?_,
      fun r' hr' => (by cases hr'), ?_⟩
    · exact absurd (hoffer.symm.trans ho) (by simp)
    · exact absurd (hdescription.symm.trans hd) (by simp)
    · show s.pendingLocalCandidates.length ≤ 32 ∧ s.pendingRemoteCandidates.length ≤ 32
      rw [hlocal, hremote]
      exact ⟨Nat.zero_le _, Nat.zero_le _⟩

/-- The audio of a session has nothing to do with its candidates. -/
theorem quiet_startAudio {b : Browser} {o : StartOptions} {e : ℕ}
    (h : startAudio b s e o = some t) : Quiet s t := by
  unfold startAudio at h
  split at h
  · obtain rfl := Option.some.inj h
    exact .refl s
  · split at h
    · obtain rfl := Option.some.inj h
      exact (still_setEngine s e _).toQuiet
    · cases h

/-- **A session that starts** has a peer of its own, with empty lists. -/
theorem Relayed.start (h : Relayed s none) (b : Browser) (answers : Answers)
    (token : Field HString) (o : StartOptions) : (start b answers s token o).Relayed s := by
  unfold Receiver.start
  split
  · split
    · exact ⟨.refl s, h.broken⟩
    · rename_i text hfree
      obtain ⟨-, hpeer⟩ := not_or.mp hfree
      have hpeer : s.peer = none := by simpa using hpeer
      have hopen := h.open hpeer (some text)
      have hbelongs : ∀ peer peers talkDisabled m, Belongs s { s with
          toMicrophone := m
          token := some text
          peer := peer
          peers := peers
          talkDisabled := talkDisabled } :=
        fun _ _ _ _ => ⟨(Belongs.refl s).posted, (Belongs.refl s).others⟩
      dsimp only
      split
      · have htoken : Relayed { s with token := some text } none :=
          h.quiet ⟨rfl, rfl, rfl, (Quiet.refl s).posted⟩
        exact ⟨hbelongs _ _ _ _, htoken.broken⟩
      · split
        · exact ⟨hbelongs _ _ _ _, (hopen _).broken⟩
        · rename_i t ht
          have hquiet := quiet_startAudio ht
          have hstarted := (hopen _).quiet hquiet
          have hbelongs : Belongs s t := (hbelongs _ _ _ _).quiet hquiet
          split
          · refine ⟨hbelongs, hstarted.await rfl
              (fun q hq => ⟨?_, fun _ => ?_, fun ha => (by cases ha)⟩)⟩
            · exact Option.some.inj (hquiet.peer.symm.trans hq)
            · rw [hquiet.negotiation]
              exact (h.closed hpeer).2.2.1
          · exact ⟨hbelongs, hstarted.broken⟩
  · exact ⟨.refl s, h.broken⟩

/-- An authorization begins a capture, or closes the receiver. -/
theorem quietOrClosed_captureAuthorized (s : Page) (answers : Answers) (press : Field ℕ) :
    QuietOrClosed s (captureAuthorized answers s press) := by
  unfold captureAuthorized
  split
  · exact .quiet (quiet_releaseCapture s)
  · rename_i e _
    split
    · unfold startCapture
      dsimp only
      split
      · exact .quiet (still_reportAudio s e _).toQuiet
      · split
        · exact .quiet (still_reportAudio s e _).toQuiet
        · split
          · exact quietOrClosed_fail s _
          · exact .quiet ((still_setEngine s e _).trans (still_setCall _ e _ _)).toQuiet
    · exact .quiet (quiet_releaseCapture s)

/-- **A message for the page's peer**: an answer, a candidate, which is added or kept, or what has
to do with the capture. -/
theorem Relayed.receivePeer (h : Relayed s none) (hpeer : s.peer = some p) (answers : Answers)
    (body : Body) : (receivePeer answers s p body).Relayed s := by
  unfold Receiver.receivePeer
  split
  · have hq := quietOrClosed_captureAuthorized s answers
    exact ⟨(Belongs.refl s).quietOrClosed (hq _), h.quietOrClosed (hq _)⟩
  · split
    · exact ⟨.refl s, h.broken⟩
    · refine ⟨.refl s, h.await rfl
        (fun q hq => ⟨?_, fun ho => (by cases ho), fun ha => (by cases ha)⟩)⟩
      exact Option.some.inj (hpeer.symm.trans hq)
  · split
    · exact ⟨.refl s, h.broken⟩
    · exact h.ingest hpeer _
  · exact ⟨.refl s, h.broken⟩

/-- **A message is received** until it first waits. -/
theorem Relayed.receive (h : Relayed s none) (b : Browser) (answers : Answers) (m : Message) :
    (receive b answers s m).Relayed s := by
  unfold Receiver.receive
  split
  · exact ⟨.refl s, h.broken⟩
  · exact h.start b answers _ _
  · split
    · exact ⟨.refl s, h.broken⟩
    · split
      · have hq : QuietOrClosed s (Receiver.closeReceiver s) := .closed s (.refl s) rfl
        exact ⟨(Belongs.refl s).quietOrClosed hq, h.quietOrClosed hq⟩
      · have hq := quiet_releaseCapture s
        exact ⟨(Belongs.refl s).quiet hq, h.quiet hq⟩
      · exact ⟨.refl s, h.broken⟩
      · rename_i hpeer _
        exact h.receivePeer hpeer answers _

/-! ## Events -/

/-- **The browser finds a candidate** of the page's peer. -/
theorem Relayed.localCandidate (h : Relayed s r) (p : ℕ) (c : Candidate) :
    Belongs s (localCandidate s p c) ∧ Relayed (localCandidate s p c) r := by
  unfold Receiver.localCandidate
  split
  · exact ⟨.refl s, h⟩
  · rename_i hpeer
    have hpeer : s.peer = some p := not_not.mp hpeer
    have hn := h.negotiating p hpeer
    have hothers : ∀ q, q ≠ p → Function.update s.heard p (s.heard p ++ [c]) q = s.heard q :=
      fun q hq => Function.update_of_ne hq _ _
    have hheard : Function.update s.heard p (s.heard p ++ [c]) p = s.heard p ++ [c] :=
      Function.update_self p _ _
    have hfound : ∀ pending, Belongs s { s with
        heard := Function.update s.heard p (s.heard p ++ [c])
        pendingLocalCandidates := pending } := fun _ =>
      belongs_negotiation hpeer fun q hq => ⟨hothers q hq, rfl, rfl, rfl⟩
    dsimp only
    split
    · -- told at once: everything heard before has been
      rename_i ho
      obtain ⟨hpending, sdp, htold⟩ := hn.published ho
      have hbelongs : Belongs s (publish
          { s with heard := Function.update s.heard p (s.heard p ++ [c]) } (.ice c)) :=
        (hfound s.pendingLocalCandidates).trans rfl (belongs_publish
          (s := { s with heard := Function.update s.heard p (s.heard p ++ [c]) }) hpeer _)
      refine ⟨hbelongs, h.update hpeer hpeer rfl hbelongs ⟨fun hu => ?_,
        fun _ => ⟨hpending, sdp, ?_⟩, hn.undescribed, hn.described, hn.receiving, hn.bounded⟩⟩
      · exact absurd (ho.symm.trans hu) (by simp)
      · calc told (publish { s with heard := _ } (.ice c)) p
            = told s p ++ [.ice c] := told_publish (s := { s with heard := _ }) hpeer rfl
          _ = .offer sdp :: (s.heard p ++ [c]).map .ice := by
            rw [htold, List.map_append]
            rfl
          _ = .offer sdp :: (Function.update s.heard p (s.heard p ++ [c]) p).map .ice := by
            rw [hheard]
    · rename_i ho
      have ho : s.offerPublished = false := Bool.eq_false_iff.mpr ho
      obtain ⟨htold, hpending⟩ := hn.unpublished ho
      split
      · -- kept: everything heard before has been
        rename_i hroom
        refine ⟨hfound _, h.update hpeer hpeer rfl (hfound _) ⟨fun _ => ⟨htold, ?_⟩,
          fun hp => ?_, hn.undescribed, hn.described, hn.receiving, ?_, hn.bounded.2⟩⟩
        · show s.pendingLocalCandidates ++ [c]
            = Function.update s.heard p (s.heard p ++ [c]) p
          rw [hheard, hpending]
        · exact absurd (ho.symm.trans hp) (by simp)
        · show (s.pendingLocalCandidates ++ [c]).length ≤ 32
          rw [List.length_append, List.length_singleton]
          exact hroom
      · -- no room: nothing has been told of this peer, and nothing will be
        refine ⟨(hfound s.pendingLocalCandidates).quietOrClosed (quietOrClosed_fail _ _),
          Broken.fail ⟨fun q => ?_, fun q hq => ?_⟩ _ r⟩
        · by_cases hqp : q = p
          · obtain rfl := hqp
            exact ⟨Or.inl htold, (h.inOrder q).given, (h.inOrder q).described⟩
          · exact (h.inOrder q).congr rfl ⟨hothers q hqp, rfl, rfl, rfl⟩
        · have hqp : q ≠ p := by
            rintro rfl
            exact absurd (h.born q hpeer) (Nat.not_lt.mpr hq)
          exact (h.unborn q hq).congr rfl (hothers q hqp) rfl rfl

/-- A change of the connection is reported, and may release the capture. -/
theorem quiet_connectionChanged (s : Page) (p : ℕ) (c : Connection) :
    Quiet s (connectionChanged s p c) := by
  unfold connectionChanged
  dsimp only
  have hsee : ∀ (connection : ℕ → Connection) (talkDisabled : Bool),
      Quiet s { s with connection := connection, talkDisabled := talkDisabled } :=
    fun _ _ => (Still.of_rfl rfl rfl rfl rfl rfl).toQuiet
  split
  · exact hsee _ _
  · split
    · exact ((hsee _ _).trans (quiet_releaseCapture _)).trans (still_publish _ rfl).toQuiet
    · exact hsee _ _

/-- A button that is pressed asks for a capture. -/
theorem quiet_press (s : Page) : Quiet s (press s) := by
  unfold press
  dsimp only
  split
  · exact .refl s
  · have hintend : Quiet s { s with
        captureSequence := s.captureSequence + 1
        captureIntent := s.captureSequence + 1 } := ⟨rfl, rfl, rfl, (Quiet.refl s).posted⟩
    exact hintend.trans (still_publish _ rfl).toQuiet

/-- A page that is hidden releases it. -/
theorem quiet_visibility (s : Page) (hidden : Bool) : Quiet s (visibility s hidden) := by
  have hsee : ∀ x, Quiet s { s with hidden := x } :=
    fun _ => ⟨rfl, rfl, rfl, (Quiet.refl s).posted⟩
  unfold visibility
  split
  · exact (hsee true).trans (quiet_releaseCapture _)
  · exact hsee false

/-- A track is played, or is one too many and closes the receiver. -/
theorem quietOrClosed_audioTrack (s : Page) (p : ℕ) : QuietOrClosed s (audioTrack s p) := by
  unfold audioTrack
  split
  · exact .quiet (.refl s)
  · split
    · exact quietOrClosed_fail s _
    · split
      · exact quietOrClosed_fail s _
      · exact .quiet (still_setEngine s _ _).toQuiet

/-- A message is kept until it is received, but for those that stop something at once. -/
theorem quietOrClosed_message (s : Page) (m : Message) : QuietOrClosed s (message s m) := by
  have harrive : ∀ (ms received : List Message),
      Quiet s { s with delivery := ms, received := received } :=
    fun _ _ => ⟨rfl, rfl, rfl, (Quiet.refl s).posted⟩
  unfold message
  dsimp only
  split
  · split
    · exact .closed _ (harrive s.delivery _) rfl
    · exact .quiet (harrive _ _)
  · split
    · exact .quiet ((harrive s.delivery _).trans (quiet_releaseCapture _))
    · exact .quiet (harrive _ _)
  · exact .quiet (harrive _ _)

/-! ## The audio engine -/

/-- The steps of a capture change nothing else of the page. -/
theorem still_statistics (s : Page) (e g : ℕ) (ok : Bool) : Still s (statistics s e g ok) := by
  unfold statistics
  dsimp only
  exact Still.ite (still_setCall s e g _)
    (Still.ite ((still_finish s e g).trans (still_catchCapture _ e g _)) (still_finish s e g))

theorem still_captured (s : Page) (e g t : ℕ) (encodings : Bool) :
    Still s (captured s e g t encodings) := by
  unfold captured
  dsimp only
  have hon := (still_setEngine s e { s.engines e with
    capture := some t
    captureEnabled := true
    captureAttached := false }).trans (still_reportAudio _ e .captureOn)
  exact Still.ite (hon.trans (still_setCall _ e g _)) (hon.trans (still_catchCapture _ e g _))

theorem still_permission (s : Page) (e g : ℕ) (answer : Permission) :
    Still s (permission s e g answer) := by
  cases answer with
  | denied | failed =>
    exact Still.ite ((still_finish s e g).trans (still_catchCapture _ e g _)) (still_finish s e g)
  | stream audio encodings =>
    have hgrant : Still s (grant s audio.length) := .of_rfl rfl rfl rfl rfl rfl
    have hfinish := hgrant.trans (still_finish _ e g)
    have hstop := hfinish.trans (still_stopTracks _ (List.range' s.tracks audio.length))
    unfold permission
    dsimp only
    refine Still.ite (Still.ite (hstop.trans (still_setCall _ e g _)) hstop)
      (Still.ite (Still.ite ?_ ?_) hfinish)
    · exact hfinish.trans (still_captured _ e g _ _)
    · exact hstop.trans (still_catchCapture _ e g _)

theorem still_parameters (s : Page) (e g t : ℕ) (ok : Bool) :
    Still s (parameters s e g t ok) := by
  unfold parameters
  refine Still.ite (still_catchCapture s e g _) (Still.ite (still_abandon s e g t) ?_)
  split
  · exact still_catchCapture s e g _
  · rename_i u hu
    exact (still_replaceTrack hu).trans (still_setCall u e g _)

theorem quietOrClosed_senderUpdated (s : Page) (e : ℕ) (u : SenderUpdate)
    (rest : List SenderUpdate) (ok : Bool) :
    QuietOrClosed s (senderUpdated s e u rest ok) := by
  have hpop : Still s (popUpdate s e u rest ok) := still_setEngine s e _
  unfold senderUpdated
  dsimp only
  split
  · split
    · exact hpop.toQuiet.trans_or (quietOrClosed_reportError _ e _)
    · exact .quiet hpop.toQuiet
  · refine .quiet (hpop.trans ?_).toQuiet
    refine Still.ite (.refl _) (Still.ite (still_catchCapture _ e _ _)
      (Still.ite (still_abandon _ e _ _) ?_))
    exact ((still_setCall _ e _ _).trans (still_setEngine _ e _)).trans
      (still_reportCaptureEvidence _ e)

theorem quietOrClosed_catchInspect (s : Page) (e : ℕ) (text : String) :
    QuietOrClosed s (catchInspect s e text) :=
  (still_stopCapture s e).toQuiet.trans_or (quietOrClosed_reportError _ e text)

/-- An inspection reports what it has found, or closes the receiver. -/
theorem quietOrClosed_inspected (s : Page) (e g : ℕ) (found : Inspection) :
    QuietOrClosed s (inspected s e g found) := by
  have hdone := still_setEngine s e { s.engines e with inspecting := none }
  unfold inspected
  dsimp only
  split
  · exact .quiet hdone.toQuiet
  · split
    · exact (hdone.trans (still_stopTracks _ _)).toQuiet.trans_or
        (quietOrClosed_catchInspect _ e _)
    · split
      · exact hdone.toQuiet.trans_or (quietOrClosed_catchInspect _ e _)
      · rename_i states sending
        have hreports := hdone.trans (still_reports _ e states)
        refine .quiet (Still.ite ?_ hreports).toQuiet
        exact (hreports.trans (still_reports _ e sending)).trans (still_reportCaptureEvidence _ e)

theorem quietOrClosed_audioFailed (s : Page) (e : ℕ) (fault : AudioFault) :
    QuietOrClosed s (audioFailed s e fault) := by
  cases fault with
  | undecoded | stalled => exact quietOrClosed_reportError s e _
  | ended =>
    unfold audioFailed
    dsimp only
    split
    · exact (still_stopCapture s e).toQuiet.trans_or (quietOrClosed_reportError _ e _)
    · exact .quiet (.refl s)
  | playback =>
    unfold audioFailed
    dsimp only
    split
    · exact quietOrClosed_reportError s e _
    · exact .quiet (.refl s)

/-! ## Every run -/

/-- Neither a message that is taken up nor a promise that is settled nor a candidate. -/
def Action.aside : Action → Bool
  | .deliver _ | .settled _ _ | .localCandidate _ _ => false
  | _ => true

/-- **All else** is not seen by the negotiation, or closes the receiver. -/
theorem quietOrClosed_step {b : Browser} {a : Action} (ha : a.aside = true)
    (hst : step b s a = some t) : QuietOrClosed s t := by
  cases a with
  | deliver _ | settled _ _ | localCandidate _ _ => cases ha
  | message m =>
    obtain rfl := Option.some.inj hst
    exact quietOrClosed_message s m
  | audioTrack p =>
    obtain rfl := Option.some.inj hst
    exact quietOrClosed_audioTrack s p
  | otherTrack p | videoFailed p fault =>
    obtain rfl := Option.some.inj hst
    split
    · exact quietOrClosed_fail s _
    · exact .quiet (.refl s)
  | connectionChanged p c =>
    obtain rfl := Option.some.inj hst
    exact .quiet (quiet_connectionChanged s p c)
  | videoError p | videoPlaying p =>
    obtain rfl := Option.some.inj hst
    split
    · exact .quiet (still_publish s rfl).toQuiet
    · exact .quiet (.refl s)
  | press =>
    obtain rfl := Option.some.inj hst
    exact .quiet (quiet_press s)
  | release =>
    obtain rfl := Option.some.inj hst
    exact .quiet (quiet_releaseCapture s)
  | visibility hidden =>
    obtain rfl := Option.some.inj hst
    exact .quiet (quiet_visibility s hidden)
  | statistics e g ok =>
    unfold step at hst
    dsimp only at hst
    split at hst
    · obtain rfl := Option.some.inj hst
      exact .quiet (still_statistics s e g ok).toQuiet
    · cases hst
  | permission e g answer =>
    unfold step at hst
    dsimp only at hst
    split at hst
    · obtain rfl := Option.some.inj hst
      exact .quiet (still_permission s e g answer).toQuiet
    · cases hst
  | deadline e g =>
    unfold step at hst
    dsimp only at hst
    split at hst
    · obtain rfl := Option.some.inj hst
      exact .quiet (Still.ite (still_catchCapture s e g _) (still_catchCapture s e g _)).toQuiet
    · cases hst
  | parameters e g ok =>
    unfold step at hst
    dsimp only at hst
    split at hst
    · obtain rfl := Option.some.inj hst
      exact .quiet (still_parameters s e g _ ok).toQuiet
    · cases hst
  | senderUpdated e ok =>
    unfold step at hst
    dsimp only at hst
    split at hst
    · obtain rfl := Option.some.inj hst
      exact quietOrClosed_senderUpdated s e _ _ ok
    · cases hst
  | senderRejected e g =>
    have herase : Quiet s { s with rejected := s.rejected.erase (e, g) } :=
      ⟨rfl, rfl, rfl, (Quiet.refl s).posted⟩
    unfold step at hst
    dsimp only at hst
    split at hst
    · obtain rfl := Option.some.inj hst
      split
      · exact herase.trans_or (quietOrClosed_reportError _ e _)
      · exact .quiet herase
    · cases hst
  | captureEnded e =>
    unfold step at hst
    dsimp only at hst
    split at hst
    · obtain rfl := Option.some.inj hst
      exact .quiet (still_stopCapture s e).toQuiet
    · cases hst
  | inspect e =>
    unfold step at hst
    dsimp only at hst
    split at hst
    · cases hst
    · obtain rfl := Option.some.inj hst
      exact .quiet (still_setEngine s e _).toQuiet
  | inspected e found =>
    obtain ⟨g, -, rfl⟩ := Option.map_eq_some_iff.mp hst
    exact quietOrClosed_inspected s e g found
  | audioFailed e fault =>
    unfold step at hst
    dsimp only at hst
    split at hst
    · cases hst
    · obtain rfl := Option.some.inj hst
      exact quietOrClosed_audioFailed s e fault

/-- Nor does a candidate the browser finds. -/
theorem localCandidate_running (s : Page) (p : ℕ) (c : Candidate) :
    (localCandidate s p c).running = s.running := by
  unfold localCandidate
  dsimp only
  split
  · rfl
  · split
    · rfl
    · split
      · rfl
      · exact (quietOrClosed_fail _ _).running

/-- **Every task of the browser keeps the invariant** of what is received after it, and
goes on with the negotiation of the page's peer alone. -/
theorem Relayed.step {b : Browser} {a : Action} (h : Relayed s s.running)
    (hst : step b s a = some t) : Belongs s t ∧ Relayed t t.running := by
  cases ha : a.aside with
  | true =>
    have hq := quietOrClosed_step ha hst
    rw [hq.running]
    exact ⟨(Belongs.refl s).quietOrClosed hq, h.quietOrClosed hq⟩
  | false =>
    cases a with
    | deliver answers =>
      unfold Receiver.step at hst
      dsimp only at hst
      split at hst
      · rename_i m rest hrunning hdelivery
        obtain rfl := Option.some.inj hst
        rw [hrunning] at h
        have hdeliver : Quiet s { s with delivery := rest } :=
          ⟨rfl, rfl, rfl, (Quiet.refl s).posted⟩
        have hreceive : (Receiver.receive b answers { s with delivery := rest } m).Relayed s :=
          ((h.quiet hdeliver).receive b answers m).of_belongs rfl
            ((Belongs.refl s).quiet hdeliver)
        exact hreceive.page
      · cases hst
    | settled ok sdp =>
      obtain ⟨r, hr, rfl⟩ := Option.map_eq_some_iff.mp hst
      rw [hr] at h
      exact (h.resume ok sdp).page
    | localCandidate p c =>
      obtain rfl := Option.some.inj hst
      rw [localCandidate_running]
      exact h.localCandidate p c
    | _ => cases ha

/-- **The invariant holds in every run.** -/
theorem relayed_of_reachable {b : Browser} (h : (machine b).Reachable s) : Relayed s s.running :=
  h.invariant (P := fun s => Relayed s s.running) (relayed_start b)
    (fun _ _ _ _ hs hst => (hs.step hst).2)

/-- **No candidate is lost**, repeated or handed on too early. However the waiting falls
together with what the host sends and what the browser finds: of every peer an offer is
told before its candidates, and what was handed on, either way, is a first part of what
came, with the remote candidates after the description; of the open peer the rest is kept,
in two lists that stay small; and a step hands on nothing of any other peer. -/
theorem candidates_relayed (b : Browser) : ∀ s, (machine b).Reachable s →
    (∀ p, InOrder s p) ∧
    (∀ p, s.peer = some p →
      (if s.offerPublished then ∃ sdp, told s p = .offer sdp :: (s.heard p).map .ice
        else told s p = [] ∧ s.pendingLocalCandidates = s.heard p) ∧
      (if s.remoteDescriptionSet then s.given p ++ unadded s.running = s.accepted p
        else s.given p = [] ∧ s.pendingRemoteCandidates = s.accepted p) ∧
      s.pendingLocalCandidates.length ≤ 32 ∧ s.pendingRemoteCandidates.length ≤ 32) ∧
    ∀ a t, step b s a = some t → Belongs s t := by
  intro s hs
  have h := relayed_of_reachable hs
  refine ⟨h.inOrder, fun p hp => ?_, fun a t hst => (h.step hst).1⟩
  have hn := h.negotiating p hp
  refine ⟨?_, ?_, hn.bounded⟩
  · split
    · rename_i ho
      exact (hn.published ho).2
    · rename_i ho
      exact hn.unpublished (Bool.eq_false_iff.mpr ho)
  · split
    · rename_i hd
      exact (hn.described hd).2.1
    · rename_i hd
      exact hn.undescribed (Bool.eq_false_iff.mpr hd)

/-- A candidate without a media line. -/
def hostCandidate (unit : UInt16) : Candidate := ⟨[unit], none, none⟩

/-- A session without sound, as it is asked for. -/
def videoStart : Message :=
  .command (.value (List.replicate 32 97)) (.start ⟨false, false, .value 0, .value 640, .value 640,
    .value 480, .value 480, none⟩)

/-- A session of two candidates each way: one before, and one after, the offer and the
answer. -/
def negotiated : List Action :=
  [.message videoStart, .deliver ⟨true, true, true⟩, .localCandidate 0 (hostCandidate 1),
    .message (.command (.value (List.replicate 32 97)) (.ice (some [⟨.value [3], .null, .null⟩]))),
    .message (.command (.value (List.replicate 32 97)) (.answer (.value []))),
    .settled true [7], .settled true [], .localCandidate 0 (hostCandidate 2),
    .deliver ⟨true, true, true⟩, .deliver ⟨true, true, true⟩, .settled true [],
    .message (.command (.value (List.replicate 32 97)) (.ice (some [⟨.value [4], .null, .null⟩]))),
    .settled true [], .deliver ⟨true, true, true⟩]

/-- There the offer and both candidates are told, and both of the camera's added. -/
theorem candidates_relayed_negotiated : ∃ s,
    (machine ⟨[literal "video/h264"], true, true⟩).run
      (machine ⟨[literal "video/h264"], true, true⟩).start negotiated = some s ∧
      s.heard 0 = [hostCandidate 1, hostCandidate 2] ∧
      told s 0 = [.offer [7], .ice (hostCandidate 1), .ice (hostCandidate 2)] ∧
      s.given 0 = [hostCandidate 3, hostCandidate 4] ∧ InOrder s 0 := by
  have hrun : ((machine ⟨[literal "video/h264"], true, true⟩).run
      (machine ⟨[literal "video/h264"], true, true⟩).start negotiated).map
      (fun s => (s.heard 0, told s 0, s.given 0)) =
      some ([hostCandidate 1, hostCandidate 2],
        [.offer [7], .ice (hostCandidate 1), .ice (hostCandidate 2)],
        [hostCandidate 3, hostCandidate 4]) := by decide
  obtain ⟨s, hs, heq⟩ := Option.map_eq_some_iff.mp hrun
  obtain ⟨hheard, heq⟩ := Prod.mk.inj heq
  obtain ⟨htold, hgiven⟩ := Prod.mk.inj heq
  exact ⟨s, hs, hheard, htold, hgiven, (candidates_relayed _ s
    ((machine _).reachable_start.run hs)).1 0⟩

end Receiver
