import MatterController.BreadthFirst
import MatterController.Descriptors

/-!
# Finding the cameras of a node

`DiscoverCameraEndpoints` reads the descriptor of the root endpoint, of its parts, of
their parts, and so on, and keeps the descriptors with both camera clusters. The parts
are what the device says they are: an endpoint may be a part of several others, or of
one of its own parts, and a device may have more endpoints than are read.

The loop goes through the vector it appends to. It is the search of `BreadthFirst`, with
two ways to fail: a part list that names the endpoint itself or no endpoint, and a new
endpoint beyond the limit. `discoverCameraEndpoints_spec` says that it fails in no other
case, and what it returns.
-/

/-- `kRootEndpointId`. -/
abbrev rootEndpointId : UInt16 := 0

/-- `kMaximumDiscoveredEndpoints`. -/
abbrev maximumDiscoveredEndpoints : ℕ := 128

/-- There are finitely many endpoints. -/
instance UInt16.finite : Finite UInt16 :=
  Finite.of_injective UInt16.toFin fun _ _ => UInt16.toFin_inj.mp

/-- `CameraAvStreamManagement::Id`. -/
abbrev cameraAvStreamManagementId : UInt32 := 0x0551

/-- `WebRTCTransportProvider::Id`. -/
abbrev webRtcTransportProviderId : UInt32 := 0x0553

/-- `HasCameraClusters`. -/
def MatterEndpointDescriptor.hasCameraClusters (d : MatterEndpointDescriptor) : Bool :=
  d.serverList.contains cameraAvStreamManagementId &&
    d.serverList.contains webRtcTransportProviderId

namespace CameraDiscovery

open BreadthFirst

/-- **What a discovery did**: the endpoints whose descriptors it read, in order, and what
it returned. -/
structure Discovery where
  reads : List UInt16
  result : Except Failure (List MatterEndpointDescriptor)

/-- One endpoint of the part list of another, in the loop of
`DiscoverCameraEndpoints`. -/
def addPart (self : UInt16) (endpoints : List UInt16) (endpoint : UInt16) :
    Except Failure (List UInt16) :=
  if endpoint = invalidEndpointId ∨ endpoint = self then .error (.code .bounds)
  else if endpoint ∈ endpoints then .ok endpoints
  else if endpoints.length = maximumDiscoveredEndpoints then .error (.code .bounds)
  else .ok (endpoints ++ [endpoint])

/-- The loop of `DiscoverCameraEndpoints`, from an index on, where `read` is
`ReadEndpointDescriptor` of the node; `none` is for running out of fuel. -/
def discoverFrom (read : UInt16 → Except Failure MatterEndpointDescriptor) :
    ℕ → List UInt16 → ℕ → List MatterEndpointDescriptor → List UInt16 → Option Discovery
  | 0, _, _, _, _ => none
  | fuel + 1, endpoints, i, cameras, reads =>
    match endpoints[i]? with
    | none => some ⟨reads, .ok cameras⟩
    | some self =>
      match read self with
      | .error failure => some ⟨reads ++ [self], .error failure⟩
      | .ok descriptor =>
        match descriptor.partsList.foldlM (addPart self) endpoints with
        | .error failure => some ⟨reads ++ [self], .error failure⟩
        | .ok endpoints =>
          discoverFrom read fuel endpoints (i + 1)
            (if descriptor.hasCameraClusters then cameras ++ [descriptor] else cameras)
            (reads ++ [self])

/-- **`DiscoverCameraEndpoints`**. -/
def discoverCameraEndpoints (read : UInt16 → Except Failure MatterEndpointDescriptor)
    (nodeId : UInt64) (canceled : Bool) : Option Discovery :=
  if canceled then some ⟨[], .error (.throws .canceled)⟩
  else if !isOperationalNodeId nodeId then some ⟨[], .error (.code .invalidArgument)⟩
  else discoverFrom read (maximumDiscoveredEndpoints + 1) [rootEndpointId] 0 [] []

/-- **A topology**: the descriptor of every endpoint, each of the endpoint it is read
of. -/
structure Topology where
  descriptor : UInt16 → MatterEndpointDescriptor
  endpointId_descriptor : ∀ e, (descriptor e).endpointId = e

namespace Topology

variable (t : Topology)

/-- `ReadEndpointDescriptor`, of a device that answers with the topology. -/
def read (e : UInt16) : Except Failure MatterEndpointDescriptor := .ok (t.descriptor e)

/-- The parts of an endpoint. -/
def parts (e : UInt16) : List UInt16 := (t.descriptor e).partsList

/-- The endpoints that can be reached from the root endpoint through part lists. -/
def Reachable (e : UInt16) : Prop := BreadthFirst.Reachable t.parts rootEndpointId e

/-- The part list of an endpoint names other endpoints only. -/
def WellFormed (e : UInt16) : Prop := invalidEndpointId ∉ t.parts e ∧ e ∉ t.parts e

/-- The cameras among some endpoints. -/
def cameras (endpoints : List UInt16) : List MatterEndpointDescriptor :=
  (endpoints.map t.descriptor).filter MatterEndpointDescriptor.hasCameraClusters

theorem cameras_concat (endpoints : List UInt16) (e : UInt16) :
    t.cameras (endpoints ++ [e]) = if (t.descriptor e).hasCameraClusters
      then t.cameras endpoints ++ [t.descriptor e] else t.cameras endpoints := by
  rw [cameras, cameras, List.map_append, List.filter_append, List.map_singleton,
    List.filter_singleton]
  split <;> rename_i h <;> simp [h]

end Topology

/-! ## One part list -/

/-- One endpoint of a part list is noted where it is another one and there is room. -/
theorem addPart_ok_iff {self part : UInt16} {endpoints endpoints' : List UInt16}
    (hlength : endpoints.length ≤ maximumDiscoveredEndpoints) :
    addPart self endpoints part = .ok endpoints' ↔
      part ≠ invalidEndpointId ∧ part ≠ self ∧
        (note endpoints part).length ≤ maximumDiscoveredEndpoints ∧
        endpoints' = note endpoints part := by
  unfold addPart
  by_cases hbad : part = invalidEndpointId ∨ part = self
  · rw [if_pos hbad]
    exact ⟨(by rintro ⟨⟩), fun h => absurd hbad (not_or.mpr ⟨h.1, h.2.1⟩)⟩
  rw [if_neg hbad]
  obtain ⟨hinvalid, hself⟩ := not_or.mp hbad
  by_cases hmem : part ∈ endpoints
  · rw [if_pos hmem, note_of_mem hmem]
    exact ⟨fun h => ⟨hinvalid, hself, hlength, (Except.ok.inj h).symm⟩,
      fun h => congrArg Except.ok h.2.2.2.symm⟩
  rw [if_neg hmem, note_of_not_mem hmem, List.length_append, List.length_singleton]
  by_cases hfull : endpoints.length = maximumDiscoveredEndpoints
  · rw [if_pos hfull, hfull]
    exact ⟨(by rintro ⟨⟩), fun h => absurd h.2.2.1 (Nat.not_succ_le_self _)⟩
  · rw [if_neg hfull]
    exact ⟨fun h => ⟨hinvalid, hself, by omega, (Except.ok.inj h).symm⟩,
      fun h => congrArg Except.ok h.2.2.2.symm⟩

/-- **A part list is taken over** where it names other endpoints only and there is room for
those that are new; the search then knows them. -/
theorem addParts_ok_iff {self : UInt16} {endpoints endpoints' parts : List UInt16}
    (hlength : endpoints.length ≤ maximumDiscoveredEndpoints) :
    parts.foldlM (addPart self) endpoints = .ok endpoints' ↔
      invalidEndpointId ∉ parts ∧ self ∉ parts ∧
        (noteAll endpoints parts).length ≤ maximumDiscoveredEndpoints ∧
        endpoints' = noteAll endpoints parts := by
  induction parts generalizing endpoints with
  | nil =>
    rw [List.foldlM_nil]
    constructor
    · rintro ⟨⟩
      exact ⟨List.not_mem_nil, List.not_mem_nil, hlength, rfl⟩
    · rintro ⟨-, -, -, rfl⟩
      rfl
  | cons part parts ih =>
    rw [List.foldlM_cons, Except.bind_ok_iff]
    simp only [List.mem_cons, not_or, noteAll_cons]
    constructor
    · rintro ⟨_, hpart, hparts⟩
      obtain ⟨hinvalid, hself, hroom, rfl⟩ := (addPart_ok_iff hlength).mp hpart
      obtain ⟨h1, h2, h3, h4⟩ := (ih hroom).mp hparts
      exact ⟨⟨Ne.symm hinvalid, h1⟩, ⟨Ne.symm hself, h2⟩, h3, h4⟩
    · rintro ⟨⟨hinvalid, h1⟩, ⟨hself, h2⟩, h3, h4⟩
      have hroom := (length_le_noteAll (note endpoints part) parts).trans h3
      exact ⟨_, (addPart_ok_iff hlength).mpr ⟨Ne.symm hinvalid, Ne.symm hself, hroom, rfl⟩,
        (ih hroom).mpr ⟨h1, h2, h3, h4⟩⟩

/-- **A part list that is refused** names what it must not, or has an endpoint too many. -/
theorem addParts_error {self : UInt16} {endpoints parts : List UInt16} {failure : Failure}
    (hlength : endpoints.length ≤ maximumDiscoveredEndpoints)
    (h : parts.foldlM (addPart self) endpoints = .error failure) :
    ¬ (invalidEndpointId ∉ parts ∧ self ∉ parts) ∨
      maximumDiscoveredEndpoints < (noteAll endpoints parts).length := by
  by_contra hnot
  obtain ⟨hwell, hshort⟩ := not_or.mp hnot
  have hok := (addParts_ok_iff hlength).mpr
    ⟨(not_not.mp hwell).1, (not_not.mp hwell).2, Nat.le_of_not_lt hshort, rfl⟩
  rw [hok] at h
  cases h

/-! ## The loop -/

/-- **What a discovery comes to.** It read no endpoint twice, and not too many; it
returned the cameras of all endpoints, in breadth-first order, or it read a part list
that is not well-formed, or there are too many endpoints. -/
structure Outcome (t : Topology) (d : Discovery) : Prop where
  length : d.reads.length ≤ maximumDiscoveredEndpoints
  nodup : d.reads.Nodup
  result : (d.result = .ok (t.cameras d.reads) ∧ IsOrder t.parts rootEndpointId d.reads ∧
      ∀ e ∈ d.reads, t.WellFormed e) ∨
    ((∃ failure, d.result = .error failure) ∧
      ((∃ e ∈ d.reads, ¬ t.WellFormed e) ∨
        maximumDiscoveredEndpoints < {e | t.Reachable e}.ncard))

/-- **The loop ends**, from every state it can be in. -/
theorem discoverFrom_outcome (t : Topology) {fuel i : ℕ} {endpoints : List UInt16}
    (h : Search t.parts rootEndpointId endpoints i)
    (hlength : endpoints.length ≤ maximumDiscoveredEndpoints)
    (hfuel : maximumDiscoveredEndpoints < fuel + i)
    (hgood : ∀ e ∈ endpoints.take i, t.WellFormed e) :
    ∃ d, discoverFrom t.read fuel endpoints i (t.cameras (endpoints.take i))
      (endpoints.take i) = some d ∧ Outcome t d := by
  induction fuel generalizing endpoints i with
  | zero =>
    have := h.le
    omega
  | succ fuel ih =>
    rw [discoverFrom]
    cases hself : endpoints[i]? with
    | none =>
      -- every endpoint was read
      have hdone : endpoints.length ≤ i := List.getElem?_eq_none_iff.mp hself
      have htake : endpoints.take i = endpoints := List.take_of_length_le hdone
      rw [htake] at hgood ⊢
      exact ⟨_, rfl, hlength, h.nodup, Or.inl ⟨rfl, h.isOrder hdone, hgood⟩⟩
    | some self =>
      obtain ⟨hi, -⟩ := List.getElem?_eq_some_iff.mp hself
      have htake : endpoints.take i ++ [self] = endpoints.take (i + 1) := by
        rw [List.take_add_one, hself]
        rfl
      have hstep := h.step hself
      have hreads : (endpoints.take (i + 1)).length ≤ maximumDiscoveredEndpoints ∧
          (endpoints.take (i + 1)).Nodup :=
        ⟨(List.length_take_le _ _).trans (by omega), h.nodup.sublist (List.take_sublist _ _)⟩
      dsimp only [Topology.read]
      rw [htake]
      cases hparts : (t.descriptor self).partsList.foldlM (addPart self) endpoints with
      | error failure =>
        refine ⟨_, rfl, hreads.1, hreads.2, Or.inr ⟨⟨failure, rfl⟩, ?_⟩⟩
        rcases addParts_error hlength hparts with hbad | hlong
        · exact Or.inl ⟨self, htake ▸ List.mem_append_right _ List.mem_cons_self, hbad⟩
        · exact Or.inr (lt_of_lt_of_le hlong (length_le_ncard hstep.nodup hstep.reachable))
      | ok endpoints' =>
        obtain ⟨hinvalid, hnself, hshort, rfl⟩ := (addParts_ok_iff hlength).mp hparts
        have htake' : (noteAll endpoints (t.parts self)).take (i + 1)
            = endpoints.take (i + 1) := by
          obtain ⟨tail, htail⟩ := prefix_noteAll endpoints (t.parts self)
          rw [← htail, List.take_append_of_le_length hi]
        have hnext := ih hstep hshort (by omega) (by
          rw [htake', ← htake]
          intro e he
          rcases List.mem_append.mp he with he | he
          · exact hgood e he
          · rw [List.mem_singleton.mp he]
            exact ⟨hinvalid, hnself⟩)
        rw [htake', ← htake, t.cameras_concat, htake] at hnext
        exact hnext

/-! ## The discovery -/

/-- **Discovery is breadth-first search with a limit.** Of any topology it reads at most
128 descriptors, each endpoint's once. It succeeds exactly where no endpoint it reads
lists itself or the invalid endpoint as a part and at most 128 endpoints can be
reached, and then returns the descriptors of those with both camera clusters, in
breadth-first order. -/
theorem discoverCameraEndpoints_spec (t : Topology) (nodeId : UInt64)
    (hnode : isOperationalNodeId nodeId = true) :
    ∃ d, discoverCameraEndpoints t.read nodeId false = some d ∧
      d.reads.length ≤ 128 ∧ d.reads.Nodup ∧
      ((∃ cameras, d.result = .ok cameras) ↔
        (∀ e ∈ d.reads, 65535 ∉ t.parts e ∧ e ∉ t.parts e) ∧
          {e | t.Reachable e}.ncard ≤ 128) ∧
      ∀ cameras, d.result = .ok cameras →
        ∃ order, IsOrder t.parts rootEndpointId order ∧
          cameras = (order.map t.descriptor).filter
            MatterEndpointDescriptor.hasCameraClusters := by
  obtain ⟨d, hd, hout⟩ := discoverFrom_outcome t Search.init (by decide)
    (show maximumDiscoveredEndpoints < maximumDiscoveredEndpoints + 1 + 0 by decide) (by simp)
  refine ⟨d, ?_, hout.length, hout.nodup, ?_, fun cameras hok => ?_⟩
  · rw [discoverCameraEndpoints, if_neg Bool.false_ne_true, hnode]
    exact hd
  · constructor
    · rintro ⟨cameras, hok⟩
      rcases hout.result with ⟨-, horder, hgood⟩ | ⟨⟨failure, hfail⟩, -⟩
      · refine ⟨hgood, ?_⟩
        have hset : {e | t.Reachable e} = ↑d.reads.toFinset := by
          ext e
          rw [Finset.mem_coe, List.mem_toFinset, horder.mem_iff]
          rfl
        rw [hset, Set.ncard_coe_finset, List.toFinset_card_of_nodup hout.nodup]
        exact hout.length
      · rw [hfail] at hok
        cases hok
    · rintro ⟨hgood, hcount⟩
      rcases hout.result with ⟨hok, -, -⟩ | ⟨-, ⟨e, he, hbad⟩ | hmany⟩
      · exact ⟨_, hok⟩
      · exact absurd (hgood e he) hbad
      · exact absurd hcount (Nat.not_le_of_lt hmany)
  · rcases hout.result with ⟨hresult, horder, -⟩ | ⟨⟨failure, hfail⟩, -⟩
    · rw [hresult] at hok
      cases hok
      exact ⟨d.reads, horder, rfl⟩
    · rw [hfail] at hok
      cases hok

/-- A node whose two endpoints are parts of each other, one of them a camera. -/
def mutualParts : Topology where
  descriptor e :=
    if e = 0 then ⟨e, [1, 2], [], [], []⟩
    else if e = 1 then ⟨e, [2, 0], [0x0551, 0x0553], [], []⟩
    else ⟨e, [1], [0x0551], [], []⟩
  endpointId_descriptor e := by
    split
    · rfl
    · split <;> rfl

/-- Its discovery returns, so it has no more endpoints than are read. -/
theorem discover_mutualParts :
    discoverCameraEndpoints mutualParts.read 1 false
        = some ⟨[0, 1, 2], .ok [⟨1, [2, 0], [0x0551, 0x0553], [], []⟩]⟩ ∧
      {e | mutualParts.Reachable e}.ncard ≤ 128 := by
  obtain ⟨d, hd, -, -, hok, -⟩ := discoverCameraEndpoints_spec mutualParts 1 (by decide)
  have hrun : discoverCameraEndpoints mutualParts.read 1 false
      = some ⟨[0, 1, 2], .ok [⟨1, [2, 0], [0x0551, 0x0553], [], []⟩]⟩ := rfl
  rw [hrun, Option.some.injEq] at hd
  subst hd
  exact ⟨hrun, (hok.mp ⟨_, rfl⟩).2⟩

end CameraDiscovery
