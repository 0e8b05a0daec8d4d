import MatterController.AttributeValues
import MatterController.Settling

/-!
# Malformed attributes of a camera

An attribute of a camera may have any value. Where `ReadCameraAudioCapabilities` or
`CameraPrivacyEnabled` fails of one, the failure is to be reported as malformed data: an
invalid input is what the caller has given, and the caller has not given this (`Reports`). A
value that is well-formed and says that the camera lacks something is no such value.

The category is found of the result code, so all depends on what the helper of the attribute
throws. Two values are not reported as they should be: a flag of another kind is an invalid
argument, and a null among the device types is called, which nobody reports. Whether one of
them is reached depends on all that is read before it. The state in which nothing malformed
has been read (`Device.Clean`) is kept by every part of the function, and each part is said to
settle or to scan its attributes (`Settles`, `Scans`). From this `reports_iff` says that there
are no other values to be reported wrongly, and when these two are reached.
-/

namespace CameraAudioReads

open Effects Except

/-! ## Reports -/

/-- **Malformed values are reported as malformed data**, in every run of an operation from a
state: where all reads are answered and a malformed value is among the answers, a failure is
reported, and as malformed data; and where all reads are answered, no failure is reported as
an invalid input unless the arguments are invalid. -/
def Reports {α : Type} (native : NativeErrors) (d : Device) (valid : Prop) (x : Op α)
    (s : Progress) : Prop :=
  (∀ report t, runCameraOperation native Progress.stage x s = .ok (some report) t →
    (∀ p ∈ t.reads, d.Returns p) →
      ((∃ p ∈ t.reads, d.Malformed p) → report.category = .malformedData) ∧
      (report.category = .invalidInput → ¬ valid)) ∧
  ∀ e t, runCameraOperation native Progress.stage x s = .error e t →
    (∀ p ∈ t.reads, d.Returns p) → ¬ ∃ p ∈ t.reads, d.Malformed p

/-- **A failure that is misreported.** -/
def Misreported (native : NativeErrors) (d : Device) (valid : Prop) (e : Failure)
    (t : Progress) : Prop :=
  (∀ p ∈ t.reads, d.Returns p) ∧
    ¬ (((∃ p ∈ t.reads, d.Malformed p) →
        ∃ report, e.report native t.stage = some report ∧ report.category = .malformedData) ∧
      ∀ report, e.report native t.stage = some report → report.category = .invalidInput →
        ¬ valid)

/-- An operation reports where it does not fail with a failure that is misreported. -/
theorem reports_iff_not {α : Type} {native : NativeErrors} {d : Device} {valid : Prop}
    {x : Op α} {s : Progress} :
    Reports native d valid x s ↔
      ¬ ∃ e t, x s = .error e t ∧ Misreported native d valid e t := by
  constructor
  · rintro ⟨hreport, hthrow⟩ ⟨e, t, hrun, hreturns, hmis⟩
    refine hmis ⟨fun hmalformed => ?_, fun report he hinvalid => ?_⟩
    · cases he : e.report native t.stage with
      | some report =>
        have hrun' := runCameraOperation_report_iff.mpr ⟨e, hrun, he⟩
        exact ⟨report, rfl, (hreport report t hrun' hreturns).1 hmalformed⟩
      | none =>
        have hrun' := runCameraOperation_error_iff.mpr ⟨hrun, he⟩
        exact absurd hmalformed (hthrow e t hrun' hreturns)
    · have hrun' := runCameraOperation_report_iff.mpr ⟨e, hrun, he⟩
      exact (hreport report t hrun' hreturns).2 hinvalid
  · intro hnot
    refine ⟨fun report t hrun hreturns => ?_, fun e t hrun hreturns hmalformed => ?_⟩
    · obtain ⟨e, hrun, he⟩ := runCameraOperation_report_iff.mp hrun
      by_contra hbad
      refine hnot ⟨e, t, hrun, hreturns, fun ⟨hdata, hinput⟩ => hbad ⟨fun hmalformed => ?_, ?_⟩⟩
      · obtain ⟨report', he', hcategory⟩ := hdata hmalformed
        rw [he] at he'
        cases he'
        exact hcategory
      · exact hinput report he
    · obtain ⟨hrun, he⟩ := runCameraOperation_error_iff.mp hrun
      refine hnot ⟨e, t, hrun, hreturns, fun ⟨hdata, _⟩ => ?_⟩
      obtain ⟨report, he', -⟩ := hdata hmalformed
      rw [he] at he'
      cases he'

/-! ## Failures that are misreported -/

/-- **All reads were answered**, and by well-formed values but for some that are still to be
projected. -/
def Device.Clean (d : Device) (pending : List Path) (s : Progress) : Prop :=
  ∀ p ∈ s.reads, ∃ v, d.read p = .ok v ∧ (p.WellFormed v ∨ p ∈ pending)

section Misreported

variable {native : NativeErrors} {d : Device} {valid : Prop} {e : Failure} {t : Progress}

/-- **Both codes are reported as malformed data**, whatever was read. -/
theorem not_misreported_of_malformedCode (h : MalformedCode e) :
    ¬ Misreported native d valid e t := by
  rintro ⟨-, hmis⟩
  refine hmis ?_
  rcases h with rfl | rfl
  all_goals
    refine ⟨fun _ => ⟨_, rfl, rfl⟩, ?_⟩
    rintro _ ⟨⟩ ⟨⟩

/-- **An invalid argument and a fault are not**, where a value was malformed. -/
theorem misreported_of_malformed (hreturns : ∀ p ∈ t.reads, d.Returns p) {p : Path}
    (hp : p ∈ t.reads) (hmalformed : d.Malformed p)
    (h : e = .code .invalidArgument ∨ e = .fault) : Misreported native d valid e t := by
  refine ⟨hreturns, fun ⟨hdata, _⟩ => ?_⟩
  obtain ⟨report, hreport, hcategory⟩ := hdata ⟨p, hp, hmalformed⟩
  rcases h with rfl | rfl
  · cases hreport
    cases hcategory
  · cases hreport

/-- A read that was not answered is no matter of a value. -/
theorem not_misreported_of_unread {p : Path} (hp : p ∈ t.reads) (h : ¬ d.Returns p) :
    ¬ Misreported native d valid e t :=
  fun ⟨hreturns, _⟩ => h (hreturns p hp)

/-- Where nothing malformed was read, only an invalid input is misreported. -/
theorem not_misreported_of_clean (hclean : d.Clean [] t)
    (h : ∀ report, e.report native t.stage = some report → report.category = .invalidInput →
      ¬ valid) : ¬ Misreported native d valid e t := by
  rintro ⟨-, hmis⟩
  refine hmis ⟨?_, h⟩
  rintro ⟨p, hp, v, hv, hmalformed⟩
  obtain ⟨v', hv', hwell | hpending⟩ := hclean p hp
  · rw [hv] at hv'
    cases hv'
    exact absurd hwell hmalformed
  · exact absurd hpending List.not_mem_nil

theorem not_misreported_notImplemented (hclean : d.Clean [] t) :
    ¬ Misreported native d valid (.code .notImplemented) t := by
  refine not_misreported_of_clean hclean ?_
  rintro _ ⟨⟩ ⟨⟩

end Misreported

/-! ## Reads -/

section Read

variable {native : NativeErrors} {d : Device} {valid : Prop} {p : Path} {pending : List Path}

theorem Device.Clean.returns {s : Progress} (h : d.Clean pending s) :
    ∀ p ∈ s.reads, d.Returns p :=
  fun p hp => (h p hp).imp fun _ hv => hv.1

/-- **A read** is answered or not, and its value is pending. -/
theorem settles_readAttribute :
    Settles (Misreported native d valid) (d.Clean pending) (readAttribute d p) (d.Returns p) False
      (fun q => ∃ v, d.read p = .ok v ∧ q = decodedRoot v)
      (fun s => d.Clean (p :: pending) s ∧ p ∈ s.reads) := by
  intro s hs
  have hmem : p ∈ s.reads ++ [p] := List.mem_append_right _ List.mem_cons_self
  cases hread : d.read p with
  | error e =>
    have hnot : ¬ d.Returns p := fun ⟨v, hv⟩ => by
      rw [hread] at hv
      cases hv
    have hrun : readAttribute d p s =
        .error (.throws e) { s with reads := s.reads ++ [p] } := by
      unfold readAttribute
      rw [hread]
      rfl
    rw [hrun]
    exact ⟨hnot, iff_false_intro (not_misreported_of_unread hmem hnot)⟩
  | ok v =>
    have hrun : readAttribute d p s =
        .ok (decodedRoot v) { s with reads := s.reads ++ [p] } := by
      unfold readAttribute
      rw [hread]
      rfl
    rw [hrun]
    refine ⟨⟨v, hread⟩, not_false, ⟨v, rfl, rfl⟩, fun q hq => ?_, hmem⟩
    rcases List.mem_append.mp hq with hq | hq
    · obtain ⟨w, hw, hwell⟩ := hs q hq
      exact ⟨w, hw, hwell.imp_right (List.mem_cons_of_mem p)⟩
    · rw [List.mem_singleton.mp hq]
      exact ⟨v, hread, Or.inr List.mem_cons_self⟩

/-- What is well-formed is no longer pending. -/
theorem Device.Clean.settle {s : Progress} (h : d.Clean (p :: pending) s) (hp : d.Sound p) :
    d.Clean pending s := by
  intro q hq
  obtain ⟨v, hv, hwell | hmem⟩ := h q hq
  · exact ⟨v, hv, Or.inl hwell⟩
  · rcases List.mem_cons.mp hmem with rfl | hmem
    · exact hp.imp fun w hw => ⟨hw.1, Or.inl hw.2⟩
    · exact ⟨v, hv, Or.inr hmem⟩

/-- **A read and its projection**, of a helper that returns what a well-formed value says and
throws one of two codes of a malformed one, but for a condition. -/
theorem settles_readAs {α : Type} {project : Option PropertySet → Except Failure α}
    {R : α → Prop} {B : Prop} (hB : B → d.Malformed p)
    (hok : ∀ v a, d.read p = .ok v → project (some (decodedRoot v)) = .ok a →
      p.WellFormed v ∧ R a)
    (herror : ∀ v e, d.read p = .ok v → project (some (decodedRoot v)) = .error e →
      ¬ p.WellFormed v ∧
        ((MalformedCode e ∧ ¬ B) ∨ ((e = .code .invalidArgument ∨ e = .fault) ∧ B))) :
    Settles (Misreported native d valid) (d.Clean pending) (readAs d p project) (d.Sound p) B R
      (d.Clean pending) := by
  have hreturns : d.Sound p → d.Returns p := fun ⟨v, hv, _⟩ => ⟨v, hv⟩
  refine Settles.congr (S := d.Returns p ∧ d.Sound p) (B := False ∨ d.Returns p ∧ B)
    (settles_readAttribute.bind ?_) (and_iff_right_of_imp hreturns)
    ⟨fun h => (h.resolve_left not_false).2, fun h => Or.inr ⟨(hB h).imp fun _ hv => hv.1, h⟩⟩
  rintro _ ⟨v, hv, rfl⟩
  have hvalue : ∀ {w}, d.read p = .ok w → w = v := fun hw => Except.ok.inj (hw.symm.trans hv)
  refine settles_answer (fun a s ha hs => ?_) (fun e s he hs => ?_)
  · obtain ⟨hwell, hR⟩ := hok v a hv ha
    refine ⟨⟨v, hv, hwell⟩, fun h => ?_, hR, hs.1.settle ⟨v, hv, hwell⟩⟩
    obtain ⟨w, hw, hmalformed⟩ := hB h
    exact hmalformed (hvalue hw ▸ hwell)
  · obtain ⟨hmalformed, hcode⟩ := herror v e hv he
    refine ⟨fun ⟨w, hw, hwell⟩ => hmalformed (hvalue hw ▸ hwell), ?_⟩
    rcases hcode with ⟨hcode, hnot⟩ | ⟨hcode, h⟩
    · exact iff_of_false (not_misreported_of_malformedCode hcode) hnot
    · exact iff_of_true (misreported_of_malformed hs.1.returns hs.2 ⟨v, hv, hmalformed⟩ hcode) h

/-- **A read and its projection**, of a helper that throws nothing but the two codes. -/
theorem settles_readAs_throws {α : Type} {project : Option PropertySet → Except Failure α}
    {R : Inspectable → α → Prop}
    (hok : ∀ v a, Decoded v → (project (some (decodedRoot v)) = .ok a ↔ R v a))
    (hwell : ∀ v, (∃ a, R v a) ↔ p.WellFormed v)
    (hthrows : ∀ q, Throws MalformedCode (project (some q))) :
    Settles (Misreported native d valid) (d.Clean pending) (readAs d p project) (d.Sound p) False
      (fun a => ∃ v, d.read p = .ok v ∧ R v a) (d.Clean pending) := by
  refine settles_readAs False.elim (fun v a hv ha => ?_) (fun v e hv he => ?_)
  · have hR := (hok v a (d.decoded p v hv)).mp ha
    exact ⟨(hwell v).mp ⟨a, hR⟩, v, hv, hR⟩
  · refine ⟨fun h => ?_, Or.inl ⟨hthrows _ e he, not_false⟩⟩
    obtain ⟨a, ha⟩ := (hwell v).mpr h
    rw [(hok v a (d.decoded p v hv)).mpr ha] at he
    cases he

/-- A stage is set, and nothing is read. -/
theorem settles_setStage (stage : CameraStage) :
    Settles (Misreported native d valid) (d.Clean []) (setStage stage) True False (fun _ => True)
      (d.Clean []) :=
  settles_modify fun _ h => h

theorem settles_demand (test : Bool) :
    Settles (Misreported native d valid) (d.Clean []) (demand test .notImplemented)
      (test = true) False (fun _ => test = true) (d.Clean []) :=
  settles_require fun _ hs _ => not_misreported_notImplemented hs

end Read

/-! ## The descriptor and the clusters -/

section Camera

variable {native : NativeErrors} {d : Device} {valid : Prop} {pending : List Path}

/-- **The device has this descriptor.** -/
def IsDescriptor (d : Device) (endpointId : UInt16) (descriptor : MatterEndpointDescriptor) :
    Prop :=
  ∃ values, (∀ a, d.read (.descriptor a) = .ok (values a)) ∧
    Describes values endpointId descriptor

/-- **A null device type is reached** in the reads of the descriptor. -/
def ReachesNullType (d : Device) : Prop :=
  ∃ values, (∀ a, d.read (.descriptor a) = .ok (values a)) ∧ NullTypeReached values

/-- **The cluster has these capabilities.** -/
structure IsCluster (d : Device) (cluster : CameraCluster) (c : ClusterCapabilities) : Prop where
  revision : ∃ v, d.read (.global cluster .clusterRevision) = .ok v ∧
    Reads v c.revision ∧ c.revision ≠ 0
  featureMap : ∃ v, d.read (.global cluster .featureMap) = .ok v ∧ Reads v c.featureMap
  attributes : ∃ v, d.read (.global cluster .attributeList) = .ok v ∧ Lists v c.attributes
  acceptedCommands : ∃ v, d.read (.global cluster .acceptedCommandList) = .ok v ∧
    Lists v c.acceptedCommands
  generatedCommands : ∃ v, d.read (.global cluster .generatedCommandList) = .ok v ∧
    Lists v c.generatedCommands

/-- A list of numbers is read as it is. -/
theorem settles_readList {α : Type} [ProjectedUnsigned α] {p : Path}
    (hwell : ∀ v, (∃ ns : List α, Lists v ns) ↔ p.WellFormed v) :
    Settles (Misreported native d valid) (d.Clean pending) (readAs d p descriptorNumericList)
      (d.Sound p) False (fun ns : List α => ∃ v, d.read p = .ok v ∧ Lists v ns)
      (d.Clean pending) :=
  settles_readAs_throws (fun _ _ h => descriptorNumericList_ok_iff h) hwell
    fun _ => descriptorNumericList_throws _

/-- A list with a null is no list of device types. -/
theorem malformed_of_nullTypeIn {v : Inspectable} (h : NullTypeIn v) :
    ¬ Path.WellFormed v (.descriptor .deviceTypeList) := by
  rintro ⟨items, types, hlist, htypes⟩
  obtain ⟨before, after, hlist', -⟩ := h
  have hitems : items = before ++ .null :: after := by
    have heq := hlist.vector.symm.trans hlist'.vector
    injection heq
  -- a device type is never null
  have hnull := (List.forall₂_and_left (p := fun v => v ≠ Inspectable.null) items types).mp
    (htypes.imp fun v t ht => ⟨(by rintro rfl; obtain ⟨_, _, _, ⟨⟩, _⟩ := ht), ht⟩)
  exact hnull.1 .null (hitems ▸ List.mem_append_right _ List.mem_cons_self) rfl

/-- The list of device types is read, and badly where a null is among them. -/
theorem settles_readTypes :
    Settles (Misreported native d valid) (d.Clean pending)
      (readAs d (.descriptor .deviceTypeList) fun data => do
        let list ← descriptorList data
        list.mapM readDeviceType)
      (d.Sound (.descriptor .deviceTypeList))
      (∃ v, d.read (.descriptor .deviceTypeList) = .ok v ∧ NullTypeIn v)
      (fun types => ∃ v, d.read (.descriptor .deviceTypeList) = .ok v ∧
        ∃ items, ListOf v items ∧ List.Forall₂ DescribesType items types)
      (d.Clean pending) := by
  refine settles_readAs ?_ (fun v types hv htypes => ?_) (fun v e hv he => ?_)
  · rintro ⟨v, hv, hnull⟩
    exact ⟨v, hv, malformed_of_nullTypeIn hnull⟩
  · obtain ⟨items, h⟩ := (deviceTypes_ok_iff (d.decoded _ v hv)).mp htypes
    exact ⟨⟨items, types, h⟩, v, hv, items, h⟩
  · constructor
    · rintro ⟨items, types, h⟩
      cases he.symm.trans ((deviceTypes_ok_iff (d.decoded _ v hv)).mpr ⟨items, h⟩)
    · rcases deviceTypes_throws (d.decoded _ v hv) e he with ⟨hcode, hnot⟩ | ⟨hfault, hnull⟩
      · refine Or.inl ⟨hcode, ?_⟩
        rintro ⟨w, hw, hnull⟩
        cases hw.symm.trans hv
        exact hnot hnull
      · exact Or.inr ⟨Or.inr hfault, v, hv, hnull⟩

/-- The values of the four attributes. -/
def descriptorValues (parts servers clients types : Inspectable) :
    DescriptorAttribute → Inspectable
  | .partsList => parts
  | .serverList => servers
  | .clientList => clients
  | .deviceTypeList => types

theorem read_descriptorValues {parts servers clients types : Inspectable}
    (hparts : d.read (.descriptor .partsList) = .ok parts)
    (hservers : d.read (.descriptor .serverList) = .ok servers)
    (hclients : d.read (.descriptor .clientList) = .ok clients)
    (htypes : d.read (.descriptor .deviceTypeList) = .ok types) (a : DescriptorAttribute) :
    d.read (.descriptor a) = .ok (descriptorValues parts servers clients types a) := by
  cases a <;> assumption

/-- **The descriptor is read** where there is one, and badly where a null device type is
reached. -/
theorem settles_readDescriptor (endpointId : UInt16) :
    Settles (Misreported native d valid) (d.Clean []) (readDescriptor d endpointId)
      (∃ descriptor, IsDescriptor d endpointId descriptor) (ReachesNullType d)
      (IsDescriptor d endpointId) (d.Clean []) := by
  unfold readDescriptor
  refine (((settles_readList fun v => Iff.rfl).bind fun parts hparts =>
    (settles_readList fun v => Iff.rfl).bind fun servers hservers =>
    (settles_readList fun v => Iff.rfl).bind fun clients hclients =>
    settles_readTypes.bind fun types htypes =>
    settles_pure (T := IsDescriptor d endpointId) ?_)).congr ?_ ?_
  · obtain ⟨_, hp, parts⟩ := hparts
    obtain ⟨_, hs, servers⟩ := hservers
    obtain ⟨_, hc, clients⟩ := hclients
    obtain ⟨_, ht, types⟩ := htypes
    exact ⟨_, read_descriptorValues hp hs hc ht, rfl, parts, servers, clients, types⟩
  · constructor
    · rintro ⟨⟨_, hp, ps, parts⟩, ⟨_, hs, ss, servers⟩, ⟨_, hc, cs, clients⟩,
        ⟨_, ht, items, ts, types⟩, -⟩
      exact ⟨⟨endpointId, ps, ss, cs, ts⟩, _, read_descriptorValues hp hs hc ht, rfl, parts,
        servers, clients, items, types⟩
    · rintro ⟨descriptor, values, hread, h⟩
      obtain ⟨items, types⟩ := h.types
      exact ⟨⟨_, hread _, _, h.parts⟩, ⟨_, hread _, _, h.servers⟩, ⟨_, hread _, _, h.clients⟩,
        ⟨_, hread _, items, _, types⟩, trivial⟩
  · -- a null is reached where the three lists before it are read
    simp only [false_or, and_false, or_false]
    constructor
    · rintro ⟨⟨_, hp, ps, pitems, parts⟩, ⟨_, hs, ss, sitems, servers⟩,
        ⟨_, hc, cs, citems, clients⟩, _, ht, types⟩
      exact ⟨_, read_descriptorValues hp hs hc ht, ⟨pitems, ps, parts⟩, ⟨sitems, ss, servers⟩,
        ⟨citems, cs, clients⟩, types⟩
    · rintro ⟨values, hread, ⟨pitems, ps, parts⟩, ⟨sitems, ss, servers⟩, ⟨citems, cs, clients⟩,
        types⟩
      exact ⟨⟨_, hread _, ps, pitems, parts⟩, ⟨_, hread _, ss, sitems, servers⟩,
        ⟨_, hread _, cs, citems, clients⟩, _, hread _, types⟩

/-- **The two values that are left are projected** where both are well-formed, and then
nothing is pending. -/
theorem settles_clusterCapabilities {cluster : CameraCluster} {revision features : Inspectable}
    (hrevision : d.read (.global cluster .clusterRevision) = .ok revision)
    (hfeatures : d.read (.global cluster .featureMap) = .ok features)
    (attributes accepted generated : List UInt32) :
    Settles (Misreported native d valid)
      (d.Clean [.global cluster .featureMap, .global cluster .clusterRevision])
      (answer (clusterCapabilities (decodedRoot revision) (decodedRoot features) attributes accepted
        generated))
      (d.Sound (.global cluster .clusterRevision) ∧ d.Sound (.global cluster .featureMap)) False
      (fun c => (Reads revision c.revision ∧ c.revision ≠ 0) ∧ Reads features c.featureMap ∧
        c.attributes = attributes ∧ c.acceptedCommands = accepted ∧
        c.generatedCommands = generated) (d.Clean []) := by
  have hok : ∀ c, clusterCapabilities (decodedRoot revision) (decodedRoot features) attributes
      accepted generated = .ok c ↔ _ := fun c =>
    clusterCapabilities_ok_iff (d.decoded _ _ hrevision) (d.decoded _ _ hfeatures)
  refine settles_answer (fun c s hc hs => ?_) (fun e s he _ => ?_)
  · obtain ⟨hr, hf, hlists⟩ := (hok c).mp hc
    have hsound : d.Sound (.global cluster .clusterRevision) ∧
        d.Sound (.global cluster .featureMap) :=
      ⟨⟨_, hrevision, _, hr⟩, ⟨_, hfeatures, _, hf⟩⟩
    exact ⟨hsound, not_false, ⟨hr, hf, hlists⟩, (hs.settle hsound.2).settle hsound.1⟩
  · refine ⟨?_, iff_false_intro (not_misreported_of_malformedCode
      (clusterCapabilities_throws _ _ _ _ _ e he))⟩
    rintro ⟨⟨v, hv, r, hr⟩, w, hw, f, hf⟩
    cases hv.symm.trans hrevision
    cases hw.symm.trans hfeatures
    have hreturn := (hok ⟨r, f, attributes, accepted, generated⟩).mpr ⟨hr, hf, rfl, rfl, rfl⟩
    cases he.symm.trans hreturn

/-- **A cluster is read** where it has capabilities, and never badly: whatever is malformed
in it is refused with one of the two codes, if not by itself then by another attribute. -/
theorem settles_readCameraClusterCapabilities (cluster : CameraCluster) :
    Settles (Misreported native d valid) (d.Clean []) (readCameraClusterCapabilities d cluster)
      (∃ c, IsCluster d cluster c) False (IsCluster d cluster) (d.Clean []) := by
  unfold readCameraClusterCapabilities
  have hread : ∀ {p : Path} {pending : List Path},
      Settles (Misreported native d valid) (d.Clean pending) (readAttribute d p) (d.Returns p)
        False (fun q => ∃ v, d.read p = .ok v ∧ q = decodedRoot v) (d.Clean (p :: pending)) :=
    settles_readAttribute.mono (fun _ h => h) (fun _ h => h) fun _ h => h.1
  refine (hread.bind fun revision hrevision => hread.bind fun features hfeatures =>
    (settles_readList fun v => Iff.rfl).bind fun attributes hattributes =>
    (settles_readList fun v => Iff.rfl).bind fun accepted haccepted =>
    (settles_readList fun v => Iff.rfl).bind fun generated hgenerated =>
    show Settles _ _ _ (d.Sound (.global cluster .clusterRevision) ∧
      d.Sound (.global cluster .featureMap)) False _ (d.Clean []) from ?_).congr ?_ ?_
  · obtain ⟨rv, hrv, rfl⟩ := hrevision
    obtain ⟨fv, hfv, rfl⟩ := hfeatures
    refine (settles_clusterCapabilities hrv hfv _ _ _).mono (fun _ h => h) (fun c hc => ?_)
      fun _ h => h
    obtain ⟨hr, hf, rfl, rfl, rfl⟩ := hc
    exact ⟨⟨rv, hrv, hr⟩, ⟨fv, hfv, hf⟩, hattributes, haccepted, hgenerated⟩
  · constructor
    · rintro ⟨-, -, ⟨av, ha, as, attributes⟩, ⟨cv, hc, cs, accepted⟩, ⟨gv, hg, gs, generated⟩,
        ⟨rv, hr, r, revision⟩, ⟨fv, hf, f, features⟩⟩
      exact ⟨⟨r, f, as, cs, gs⟩, ⟨rv, hr, revision⟩, ⟨fv, hf, features⟩, ⟨av, ha, attributes⟩,
        ⟨cv, hc, accepted⟩, ⟨gv, hg, generated⟩⟩
    · rintro ⟨c, ⟨rv, hr, revision⟩, ⟨fv, hf, features⟩, ⟨av, ha, attributes⟩, ⟨cv, hc, accepted⟩,
        ⟨gv, hg, generated⟩⟩
      exact ⟨⟨rv, hr⟩, ⟨fv, hf⟩, ⟨av, ha, _, attributes⟩, ⟨cv, hc, _, accepted⟩,
        ⟨gv, hg, _, generated⟩, ⟨rv, hr, _, revision⟩, ⟨fv, hf, _, features⟩⟩
  · simp only [or_false, and_false]

/-- What is read of a path is read of one value. -/
theorem read_unique {α : Type} {p : Path} {R : Inspectable → α → Prop} {a b : α}
    (unique : ∀ v, R v a → R v b → a = b) (ha : ∃ v, d.read p = .ok v ∧ R v a)
    (hb : ∃ v, d.read p = .ok v ∧ R v b) : a = b := by
  obtain ⟨v, hv, ha⟩ := ha
  obtain ⟨w, hw, hb⟩ := hb
  cases hv.symm.trans hw
  exact unique v ha hb

/-- A cluster has its capabilities only. -/
theorem IsCluster.unique {cluster : CameraCluster} {c c' : ClusterCapabilities}
    (h : IsCluster d cluster c) (h' : IsCluster d cluster c') : c = c' := by
  have hrevision : c.revision = c'.revision := by
    refine read_unique (R := fun v r => Reads v r ∧ r ≠ 0) ?_ h.revision h'.revision
    exact fun v hr hr' => Reads.unique hr.1 hr'.1
  have hfeatures : c.featureMap = c'.featureMap :=
    read_unique (fun _ => Reads.unique) h.featureMap h'.featureMap
  have hattributes : c.attributes = c'.attributes :=
    read_unique (fun _ => Lists.unique) h.attributes h'.attributes
  have haccepted : c.acceptedCommands = c'.acceptedCommands :=
    read_unique (fun _ => Lists.unique) h.acceptedCommands h'.acceptedCommands
  have hgenerated : c.generatedCommands = c'.generatedCommands :=
    read_unique (fun _ => Lists.unique) h.generatedCommands h'.generatedCommands
  cases c
  cases c'
  subst hrevision hfeatures hattributes haccepted hgenerated
  rfl

/-- An endpoint has its descriptor only. -/
theorem IsDescriptor.unique {endpointId : UInt16} {a b : MatterEndpointDescriptor}
    (ha : IsDescriptor d endpointId a) (hb : IsDescriptor d endpointId b) : a = b := by
  obtain ⟨values, hvalues, ha⟩ := ha
  obtain ⟨values', hvalues', hb⟩ := hb
  obtain rfl : values = values' :=
    funext fun a => Except.ok.inj ((hvalues a).symm.trans (hvalues' a))
  have hdecoded : ∀ a, Decoded (values a) := fun a => d.decoded _ _ (hvalues a)
  exact Except.ok.inj (((readEndpointDescriptor_ok_iff hdecoded).mpr ha).symm.trans
    ((readEndpointDescriptor_ok_iff hdecoded).mpr hb))

/-- **The device is a camera** with this descriptor and these capabilities of its
clusters. -/
structure IsCamera (d : Device) (endpointId : UInt16) (c : Capabilities) : Prop where
  descriptor : IsDescriptor d endpointId c.descriptor
  streamManagement : IsCluster d .streamManagement c.streamManagement
  transportProvider : IsCluster d .transportProvider c.transportProvider

theorem IsCamera.unique {endpointId : UInt16} {c c' : Capabilities}
    (h : IsCamera d endpointId c) (h' : IsCamera d endpointId c') : c = c' := by
  cases c
  cases c'
  rw [Capabilities.mk.injEq]
  exact ⟨h.descriptor.unique h'.descriptor, h.streamManagement.unique h'.streamManagement,
    h.transportProvider.unique h'.transportProvider⟩

/-- **What a descriptor is of a camera is read**, where there are the two clusters. -/
theorem settles_readCameraCapabilities {endpointId : UInt16}
    {descriptor : MatterEndpointDescriptor} (h : IsDescriptor d endpointId descriptor) :
    Settles (Misreported native d valid) (d.Clean []) (readCameraCapabilities d descriptor)
      (∃ c : Capabilities, c.descriptor = descriptor ∧ descriptor.hasCameraClusters = true ∧
        IsCamera d endpointId c) False
      (fun c => c.descriptor = descriptor ∧ descriptor.hasCameraClusters = true ∧
        IsCamera d endpointId c) (d.Clean []) := by
  unfold readCameraCapabilities
  refine ((settles_demand _).bind fun _ hclusters =>
    (settles_readCameraClusterCapabilities _).bind fun stream hstream =>
    (settles_readCameraClusterCapabilities _).bind fun transport htransport =>
    settles_pure ?_).congr ?_ ?_
  · exact ⟨rfl, hclusters, h, hstream, htransport⟩
  · constructor
    · rintro ⟨hclusters, ⟨stream, hstream⟩, ⟨transport, htransport⟩, -⟩
      exact ⟨⟨descriptor, stream, transport⟩, rfl, hclusters, h, hstream, htransport⟩
    · rintro ⟨c, -, hclusters, hc⟩
      exact ⟨hclusters, ⟨_, hc.streamManagement⟩, ⟨_, hc.transportProvider⟩, trivial⟩
  · simp only [or_false, and_false]

end Camera

/-! ## The attributes of the stream management -/

/-- Whether the device answers the read of a flag with a flag that is set. -/
def Device.isSet (d : Device) (a : StreamAttribute) : Bool :=
  match d.read (.stream a) with
  | .ok (.value (.boolean b)) => b
  | _ => false

section Plan

variable (d : Device) (sdk : StreamManagement) (attributes : List UInt32)

/-- The attributes among some that are advertised. -/
def advertised (l : List StreamAttribute) : List StreamAttribute :=
  l.filter fun a => cameraAdvertises attributes (sdk.id a)

/-- **The flags that are read for the privacy**, of some: those that are advertised, up to
the first that is set. -/
def privacyPlan : List StreamAttribute → List StreamAttribute
  | [] => []
  | a :: rest =>
    if cameraAdvertises attributes (sdk.id a) then
      a :: if d.isSet a then [] else privacyPlan rest
    else privacyPlan rest

/-- The bandwidth, where it is advertised, and the flags after it. -/
def bandwidthPlan : List StreamAttribute :=
  if cameraAdvertises attributes (sdk.id .maxNetworkBandwidth) then
    .maxNetworkBandwidth ::
      privacyPlan d sdk attributes [.hardPrivacyModeOn, .softLivestreamPrivacyModeEnabled]
  else []

/-- **The attributes that are read of a camera** after its capabilities, in order, as long as
each of them is well-formed. -/
def audioPlan (c : ClusterCapabilities) : List StreamAttribute :=
  let microphone := c.offers sdk.audio (sdk.id .microphoneCapabilities)
  let speaker := c.offers sdk.speaker (sdk.id .speakerCapabilities)
  (if microphone then [.microphoneCapabilities] else []) ++
    ((if speaker then [.speakerCapabilities] else []) ++
    ((if microphone then advertised sdk c.attributes
      [.microphoneMuted, .microphoneVolumeLevel, .microphoneMinLevel, .microphoneMaxLevel]
      else []) ++
    ((if speaker then advertised sdk c.attributes
      [.twoWayTalkSupport, .speakerMuted, .speakerVolumeLevel, .speakerMinLevel, .speakerMaxLevel]
      else []) ++
    bandwidthPlan d sdk c.attributes)))

end Plan

section Attributes

variable {native : NativeErrors} {d : Device} {valid : Prop} {sdk : StreamManagement}
  {attributes : List UInt32} {α : Type}

/-- A part of the function that reads these attributes. -/
abbrev ScansAttributes (native : NativeErrors) (d : Device) (valid : Prop) (x : Op α)
    (l : List StreamAttribute) (T : α → Prop) : Prop :=
  Scans d.SoundAttribute d.Mistyped (Misreported native d valid) (d.Clean []) x l T

/-- What is read where it is advertised. -/
theorem scans_whenAdvertised {x : Op α} {l : List StreamAttribute} {T : α → Prop}
    (b : Bool) (hx : ScansAttributes native d valid x l T) :
    ScansAttributes native d valid (whenAdvertised b x) (if b then l else [])
      fun o => o.isSome = b := by
  cases b with
  | false => exact scans_pure rfl
  | true =>
    have h : ScansAttributes native d valid (whenAdvertised true x) (l ++ [])
        fun o => o.isSome = true := hx.bind fun _ _ => scans_pure rfl
    rwa [List.append_nil] at h

/-- An attribute that is no flag is never of the wrong kind. -/
theorem scans_readAs {a : StreamAttribute} (h : a.kind ≠ .flag)
    {project : Option PropertySet → Except Failure α} {R : Inspectable → α → Prop}
    (hok : ∀ v b, Decoded v → (project (some (decodedRoot v)) = .ok b ↔ R v b))
    (hwell : ∀ v, (∃ b, R v b) ↔ a.kind.WellFormed v)
    (hthrows : ∀ q, Throws MalformedCode (project (some q))) :
    ScansAttributes native d valid (readAs d (.stream a) project) [a] fun _ => True := by
  have hread : Settles (Misreported native d valid) (d.Clean []) _ (d.Sound (.stream a)) _ _ _ :=
    settles_readAs_throws hok hwell hthrows
  refine scans_singleton ((hread.congr Iff.rfl ?_).mono (fun _ h => h) (fun _ _ => trivial)
    fun _ h => h)
  exact iff_of_false not_false fun hflag => h hflag.1

theorem scans_formats {a : StreamAttribute} (h : a.kind = .formats) :
    ScansAttributes native d valid (readAs d (.stream a) audioFormatCapabilities) [a]
      fun _ => True := by
  refine scans_readAs (by rw [h]; rintro ⟨⟩) (fun v f hv => audioFormatCapabilities_ok_iff hv)
    (fun v => ?_) audioFormatCapabilities_throws
  rw [h]
  rfl

theorem scans_level {a : StreamAttribute} (h : a.kind = .level) :
    ScansAttributes native d valid
      (readAs d (.stream a) fun data => (cameraStreamField data valueKey : Except Failure UInt8))
      [a] fun _ => True := by
  refine scans_readAs (by rw [h]; rintro ⟨⟩) (fun v n hv => readNumber_ok_iff hv) (fun v => ?_)
    fun q => cameraStreamField_throws (some q) _
  rw [h]
  rfl

/-- **A flag is read, and badly where it is of another kind.** -/
theorem scans_flag {a : StreamAttribute} (h : a.kind = .flag) :
    ScansAttributes native d valid (readAs d (.stream a) propertySetBoolean) [a]
      fun b => b = d.isSet a := by
  have hwell : ∀ v, Path.WellFormed v (.stream a) ↔ ∃ b, v = .value (.boolean b) := by
    intro v
    show a.kind.WellFormed v ↔ _
    rw [h]
    rfl
  refine scans_singleton (settles_readAs ?_ (fun v b hv hb => ?_) (fun v e hv he => ?_))
  · rintro ⟨-, v, hv, hother⟩
    refine ⟨v, hv, fun hflag => ?_⟩
    obtain ⟨b, hb⟩ := (hwell v).mp hflag
    exact hother.2.1 b hb
  · rw [propertySetBoolean_ok_iff (d.decoded _ v hv)] at hb
    refine ⟨(hwell v).mpr ⟨b, hb⟩, ?_⟩
    unfold Device.isSet
    rw [hv, hb]
  · constructor
    · intro hflag
      obtain ⟨b, hb⟩ := (hwell v).mp hflag
      cases he.symm.trans ((propertySetBoolean_ok_iff (d.decoded _ v hv)).mpr hb)
    · rcases propertySetBoolean_throws (d.decoded _ v hv) e he with ⟨hcode, hnot⟩ | ⟨hcode, hother⟩
      · refine Or.inl ⟨hcode, ?_⟩
        rintro ⟨-, w, hw, hother⟩
        cases hw.symm.trans hv
        exact hnot hother
      · exact Or.inr ⟨Or.inl hcode, h, v, hv, hother⟩

/-! ## The parts of the function -/

theorem scans_readNumber {a : StreamAttribute} (h : a.kind = .level) :
    ScansAttributes native d valid (readNumber d sdk attributes a)
      (if cameraAdvertises attributes (sdk.id a) then [a] else []) fun _ => True :=
  (scans_whenAdvertised _ (scans_level h)).mono (fun _ h => h) (fun _ _ => trivial) fun _ h => h

theorem scans_readBoolean {a : StreamAttribute} (h : a.kind = .flag) :
    ScansAttributes native d valid (readBoolean d sdk attributes a)
      (if cameraAdvertises attributes (sdk.id a) then [a] else []) fun _ => True :=
  (scans_whenAdvertised _ (scans_flag h)).mono (fun _ h => h) (fun _ _ => trivial) fun _ h => h

/-- One attribute more is advertised or not. -/
theorem advertised_cons (a : StreamAttribute) (l : List StreamAttribute) :
    advertised sdk attributes (a :: l) =
      (if cameraAdvertises attributes (sdk.id a) then [a] else []) ++
        advertised sdk attributes l := by
  unfold advertised
  rw [List.filter_cons]
  split <;> rfl

/-- The controls are read in order. -/
theorem scans_readControls {muted volume minimum maximum : StreamAttribute}
    (hmuted : muted.kind = .flag) (hvolume : volume.kind = .level)
    (hminimum : minimum.kind = .level) (hmaximum : maximum.kind = .level) :
    ScansAttributes native d valid (readControls d sdk attributes muted volume minimum maximum)
      (advertised sdk attributes [muted, volume, minimum, maximum]) fun _ => True := by
  simp only [advertised_cons]
  unfold readControls
  exact (scans_readBoolean hmuted).bind fun _ _ => (scans_readNumber hvolume).bind fun _ _ =>
    (scans_readNumber hminimum).bind fun _ _ => (scans_readNumber hmaximum).bind fun _ _ =>
    scans_pure trivial

/-- **The loop over the privacy flags reads up to the first that is set.** -/
theorem scans_privacyEnabledIn {l : List StreamAttribute} (h : ∀ a ∈ l, a.kind = .flag) :
    ScansAttributes native d valid (privacyEnabledIn d sdk attributes l)
      (privacyPlan d sdk attributes l) fun _ => True := by
  induction l with
  | nil => exact scans_pure trivial
  | cons a rest ih =>
    have hrest := ih fun b hb => h b (List.mem_cons_of_mem a hb)
    unfold privacyEnabledIn privacyPlan
    split
    · show ScansAttributes native d valid _
        ([a] ++ if d.isSet a then [] else privacyPlan d sdk attributes rest) _
      refine (scans_flag (h a List.mem_cons_self)).bind fun enabled henabled => ?_
      rw [← henabled]
      cases enabled with
      | true => exact scans_pure trivial
      | false => exact hrest
    · exact hrest

theorem scans_bandwidth :
    ScansAttributes native d valid
      (readAs d (.stream .maxNetworkBandwidth) fun data => do
        let bandwidth ← cameraStreamField data valueKey
        if bandwidth = 0 then .error (.code .bounds) else .ok (bandwidth : UInt32))
      [.maxNetworkBandwidth] fun _ => True := by
  refine scans_readAs (by rintro ⟨⟩) (fun v n hv => bandwidth_ok_iff hv) (fun v => Iff.rfl)
    fun q => (cameraStreamField_throws (some q) _).bind fun n _ => ?_
  split
  · exact throws_error malformedCode_bounds
  · exact throws_ok n

/-- **The bandwidth is required, and then the flags are read.** -/
theorem settles_readBandwidthAndPrivacy :
    Settles (Misreported native d valid) (d.Clean [])
      (readBandwidthAndPrivacy d sdk attributes)
      (cameraAdvertises attributes (sdk.id .maxNetworkBandwidth) = true ∧
        ∀ a ∈ bandwidthPlan d sdk attributes, d.SoundAttribute a)
      (FirstWrong d.SoundAttribute d.Mistyped (bandwidthPlan d sdk attributes)) (fun _ => True)
      (d.Clean []) := by
  have hflags : ∀ a ∈ [StreamAttribute.hardPrivacyModeOn, .softLivestreamPrivacyModeEnabled],
      a.kind = .flag := by
    decide
  have hread : Settles (Misreported native d valid) (d.Clean [])
      (readBandwidthAndPrivacy d sdk attributes) _ _ (fun _ => True) (d.Clean []) :=
    ((settles_demand _).bind fun _ _ => scans_bandwidth).bind fun _ _ =>
      (settles_setStage _).bind fun _ _ =>
      Settles.bind (scans_privacyEnabledIn hflags) fun _ _ => settles_pure trivial
  refine hread.congr ?_ ?_
  all_goals
    unfold bandwidthPlan
    split
    · rename_i hadvertised
      simp [hadvertised, firstWrong_cons, firstWrong_nil]
    · rename_i hnot
      simp [hnot, firstWrong_nil]

/-- What is read where there are formats. -/
theorem scans_whenPresent {formats : Option MatterCameraAudioFormatCapabilities} {x : Op α}
    {absent : α} {l : List StreamAttribute} {b : Bool} (hformats : formats.isSome = b)
    (hx : ScansAttributes native d valid x l fun _ => True) :
    ScansAttributes native d valid (whenPresent formats x absent) (if b then l else [])
      fun _ => True := by
  unfold whenPresent
  rw [hformats]
  cases b with
  | true => exact hx
  | false => exact scans_pure trivial

theorem scans_readSpeakerControls :
    ScansAttributes native d valid (readSpeakerControls d sdk attributes)
      (advertised sdk attributes
        [.twoWayTalkSupport, .speakerMuted, .speakerVolumeLevel, .speakerMinLevel,
          .speakerMaxLevel]) fun _ => True := by
  rw [advertised_cons]
  refine (scans_readNumber rfl).bind fun talk _ => ?_
  have hcontrols : ScansAttributes native d valid (readControls d sdk attributes .speakerMuted
      .speakerVolumeLevel .speakerMinLevel .speakerMaxLevel) _ _ :=
    scans_readControls rfl rfl rfl rfl
  rw [← List.append_nil (advertised _ _ _)]
  exact hcontrols.bind fun _ _ => scans_pure trivial

/-- **The attributes are read as they are planned**, where the bandwidth is advertised. -/
theorem settles_readAudioAttributes (camera : Capabilities) :
    Settles (Misreported native d valid) (d.Clean []) (readAudioAttributes d sdk camera)
      (cameraAdvertises camera.streamManagement.attributes (sdk.id .maxNetworkBandwidth) = true ∧
        ∀ a ∈ audioPlan d sdk camera.streamManagement, d.SoundAttribute a)
      (FirstWrong d.SoundAttribute d.Mistyped (audioPlan d sdk camera.streamManagement))
      (fun _ => True) (d.Clean []) := by
  unfold readAudioAttributes audioPlan
  refine Scans.bindSettles (scans_whenAdvertised _ (scans_formats rfl)) fun microphone hm => ?_
  refine Scans.bindSettles (scans_whenAdvertised _ (scans_formats rfl)) fun speaker hs => ?_
  refine Scans.bindSettles (scans_whenPresent hm (scans_readControls rfl rfl rfl rfl)) fun _ _ => ?_
  refine Scans.bindSettles (scans_whenPresent hs scans_readSpeakerControls) fun _ _ => ?_
  refine (settles_readBandwidthAndPrivacy.bind fun _ _ => settles_pure trivial).congr ?_ ?_
  · rw [and_true]
  · rw [and_false, or_false]

end Attributes

/-! ## The function -/

/-- The caller's own arguments are valid. -/
def ValidArguments (node : UInt64) (endpoint : UInt16) : Prop :=
  isOperationalNodeId node = true ∧ endpoint ≠ invalidEndpointId

/-- **A value that is not reported as malformed is reached.** It is a device type that is
null, in a descriptor whose other lists and whose entries before it are well-formed; or it is
a flag of another kind, of a camera that is an audio adapter, where whatever is read before it
is well-formed. -/
inductive ReachesMisread (d : Device) (sdk : StreamManagement) (endpoint : UInt16) : Prop
  | nullType (h : ReachesNullType d)
  | flag {c : Capabilities} (camera : IsCamera d endpoint c)
      (adapter : c.isCameraAudioAdapter = true)
      (h : FirstWrong d.SoundAttribute d.Mistyped (audioPlan d sdk c.streamManagement))

section Function

variable (native : NativeErrors) (d : Device) (sdk : StreamManagement) (node : UInt64)
  (endpoint : UInt16)

/-- The test of the arguments. -/
theorem arguments_iff {node : UInt64} {endpoint : UInt16} :
    (isOperationalNodeId node && endpoint != invalidEndpointId) = true ↔
      ValidArguments node endpoint := by
  rw [Bool.and_eq_true, bne_iff_ne]
  rfl

/-- An audio adapter has the two clusters. -/
theorem hasCameraClusters_of_adapter {c : Capabilities} (h : c.isCameraAudioAdapter = true) :
    c.descriptor.hasCameraClusters = true := by
  unfold Capabilities.isCameraAudioAdapter at h
  simp only [Bool.and_eq_true] at h
  exact h.1.1.1.2

/-- **The function fails badly** where its arguments are valid and a value that is not
reported as malformed is reached. -/
theorem settles_readCameraAudioCapabilities :
    ∃ S, Settles (Misreported native d (ValidArguments node endpoint)) (d.Clean [])
      (readCameraAudioCapabilities d sdk node endpoint) S
      (ValidArguments node endpoint ∧ ReachesMisread d sdk endpoint) (fun _ => True)
      (d.Clean []) := by
  have harguments : Settles (Misreported native d (ValidArguments node endpoint)) (d.Clean [])
      (demand (isOperationalNodeId node && endpoint != invalidEndpointId) .invalidArgument)
      _ _ _ (d.Clean []) :=
    settles_require fun s hs hinvalid => not_misreported_of_clean hs fun _ _ _ hvalid => by
      rw [← arguments_iff, hinvalid] at hvalid
      cases hvalid
  have hrun : Settles (Misreported native d (ValidArguments node endpoint)) (d.Clean [])
      (readCameraAudioCapabilities d sdk node endpoint) _ _ (fun _ => True) (d.Clean []) :=
    (settles_setStage .validation).bind fun _ _ => harguments.bind fun _ _ =>
    (settles_setStage .descriptor).bind fun _ _ =>
    (settles_readDescriptor endpoint).bindValue (fun _ _ => IsDescriptor.unique)
      fun descriptor hdescriptor =>
    (settles_setStage .capabilities).bind fun _ _ =>
    (settles_readCameraCapabilities hdescriptor).bindValue
      (fun _ _ h h' => h.2.2.unique h'.2.2) fun camera _ =>
    (settles_demand camera.isCameraAudioAdapter).bind fun _ _ => settles_readAudioAttributes camera
  refine ⟨_, hrun.congr Iff.rfl ?_⟩
  simp only [false_or, true_and, arguments_iff]
  refine and_congr_right fun _ => ?_
  constructor
  · rintro (hnull | ⟨descriptor, -, camera, ⟨rfl, -, hcamera⟩, hadapter, hflag⟩)
    · exact .nullType hnull
    · exact .flag hcamera hadapter hflag
  · rintro (hnull | ⟨hcamera, hadapter, hflag⟩)
    · exact Or.inl hnull
    · exact Or.inr ⟨_, hcamera.descriptor, _, ⟨rfl, hasCameraClusters_of_adapter hadapter, hcamera⟩,
        hadapter, hflag⟩

/-- **Malformed attributes are reported as malformed data**, for every device and every call,
exactly where no value is reached that is not: no null among device types, and no flag of
another kind. So do `ReadCameraAudioCapabilities`, for every node and endpoint, and
`CameraPrivacyEnabled`, for whatever attributes are advertised. -/
theorem reports_iff (attributes : List UInt32) (stage : CameraStage) :
    (Reports native d (ValidArguments node endpoint)
        (readCameraAudioCapabilities d sdk node endpoint) ⟨stage, []⟩ ↔
      ¬ (ValidArguments node endpoint ∧ ReachesMisread d sdk endpoint)) ∧
    (Reports native d True (cameraPrivacyEnabled d sdk attributes) ⟨stage, []⟩ ↔
      ¬ FirstWrong d.SoundAttribute d.Mistyped (privacyPlan d sdk attributes
        [.hardPrivacyModeOn, .softLivestreamPrivacyModeEnabled])) := by
  have hclean : d.Clean [] ⟨stage, []⟩ := fun p hp => absurd hp List.not_mem_nil
  rw [reports_iff_not, reports_iff_not]
  constructor
  · obtain ⟨S, hrun⟩ := settles_readCameraAudioCapabilities native d sdk node endpoint
    rw [hrun.fails_iff hclean]
  · have hrun : ScansAttributes native d True (cameraPrivacyEnabled d sdk attributes) _ _ :=
      scans_privacyEnabledIn (by decide)
    rw [Settles.fails_iff hrun hclean]

end Function

/-! ## A flag that is a number -/

/-- A list of numbers. -/
def numbers (ns : List UInt64) : Inspectable := .vector (ns.map fun n => .value (.uint64 n))

theorem decoded_numbers (ns : List UInt64) : Decoded (numbers ns) := by
  refine .vector fun i hi => ?_
  obtain ⟨n, -, rfl⟩ := List.mem_map.mp hi
  exact .uint64 n

/-- What a camera answers that has no microphone and no speaker, and reports its hard privacy
mode as the number one. -/
def numberedPrivacyValues : Path → Inspectable
  | .descriptor .serverList => numbers [0x0551, 0x0553]
  | .descriptor .clientList => numbers [0x0554]
  | .descriptor .deviceTypeList =>
    .vector [.propertySet
      [(fieldKey 0, .value (.uint64 0x0142)), (fieldKey 1, .value (.uint64 2))]]
  | .global _ .clusterRevision => .value (.uint64 2)
  | .global _ .featureMap => .value (.uint64 0)
  | .global _ .attributeList => numbers [11, 12]
  | .stream .maxNetworkBandwidth => .value (.uint64 1000000)
  | .stream _ => .value (.uint64 1)
  | _ => numbers []

theorem decoded_numberedPrivacyValues (p : Path) : Decoded (numberedPrivacyValues p) := by
  cases p with
  | descriptor a =>
    cases a with
    | deviceTypeList =>
      refine .vector fun i hi => ?_
      rw [List.mem_singleton.mp hi]
      refine @Decoded.numbered [(0, .value (.uint64 0x0142)), (1, .value (.uint64 2))]
        (show List.Nodup [fieldKey 0, fieldKey 1] by decide) fun e he => ?_
      simp only [List.mem_cons, List.not_mem_nil, or_false] at he
      rcases he with rfl | rfl <;> exact .uint64 _
    | _ => exact decoded_numbers _
  | global cluster a =>
    cases a with
    | clusterRevision => exact .uint64 2
    | featureMap => exact .uint64 0
    | _ => exact decoded_numbers _
  | stream a => cases a <;> exact .uint64 _

/-- This camera. -/
def numberedPrivacy : Device where
  read p := .ok (numberedPrivacyValues p)
  decoded p _ h := Except.ok.inj h ▸ decoded_numberedPrivacyValues p

/-- Numbers for the attributes and the features. -/
def streamNumbers : StreamManagement where
  id a := UInt32.ofNat a.ctorIdx
  audio := 1
  speaker := 16

/-- Numbers for the native errors. -/
def nativeNumbers : NativeErrors where
  noMemory := .other 11
  accessDenied := .other 165
  unsupportedChipFeature := .other 45
  notConnected := .other 2
  connectionAborted := .other 3
  connectionClosedUnexpectedly := .other 33
  dynamicConstraintError := 0xCF
  constraintError := 0x87
  resourceExhausted := 0x89
  unsupportedAccess := 0x7E
  unsupportedCluster := 0xC3
  unsupportedCommand := 0x81
  unsupportedAttribute := 0x86
  invalidInState := 0xCB

/-- The clusters' attributes, in the order in which they are read. -/
def clusterReads (cluster : CameraCluster) : List Path :=
  [.global cluster .clusterRevision, .global cluster .featureMap, .global cluster .attributeList,
    .global cluster .acceptedCommandList, .global cluster .generatedCommandList]

/-- What is read of the camera. -/
def numberedPrivacyReads : List Path :=
  [.descriptor .partsList, .descriptor .serverList, .descriptor .clientList,
    .descriptor .deviceTypeList] ++ clusterReads .streamManagement ++
    clusterReads .transportProvider ++ [.stream .maxNetworkBandwidth, .stream .hardPrivacyModeOn]

/-- **The number is reported as an invalid input** of the caller, whose arguments are valid,
and all of whose reads are answered. So it is where the privacy flags are read by
themselves. -/
theorem numberedPrivacy_invalidInput :
    runCameraOperation nativeNumbers Progress.stage
        (readCameraAudioCapabilities numberedPrivacy streamNumbers 1 1) ⟨.validation, []⟩
        = .ok (some ⟨.privacy, .invalidInput, none⟩) ⟨.privacy, numberedPrivacyReads⟩ ∧
      numberedPrivacy.Malformed (.stream .hardPrivacyModeOn) ∧
      ¬ Reports nativeNumbers numberedPrivacy (ValidArguments 1 1)
        (readCameraAudioCapabilities numberedPrivacy streamNumbers 1 1) ⟨.validation, []⟩ ∧
      ¬ Reports nativeNumbers numberedPrivacy True
        (cameraPrivacyEnabled numberedPrivacy streamNumbers [11, 12]) ⟨.privacy, []⟩ := by
  have hreturns : ∀ p, numberedPrivacy.Returns p := fun p => ⟨numberedPrivacyValues p, rfl⟩
  have hrun : runCameraOperation nativeNumbers Progress.stage
      (readCameraAudioCapabilities numberedPrivacy streamNumbers 1 1) ⟨.validation, []⟩
      = .ok (some ⟨.privacy, .invalidInput, none⟩) ⟨.privacy, numberedPrivacyReads⟩ := rfl
  have hflags : runCameraOperation nativeNumbers Progress.stage
      (cameraPrivacyEnabled numberedPrivacy streamNumbers [11, 12]) ⟨.privacy, []⟩
      = .ok (some ⟨.privacy, .invalidInput, none⟩)
        ⟨.privacy, [.stream .hardPrivacyModeOn]⟩ := rfl
  refine ⟨hrun, ⟨_, rfl, (by rintro ⟨b, ⟨⟩⟩)⟩, fun h => ?_, fun h => ?_⟩
  · exact (h.1 _ _ hrun fun p _ => hreturns p).2 rfl ⟨by decide, by decide⟩
  · exact (h.1 _ _ hflags fun p _ => hreturns p).2 rfl trivial

end CameraAudioReads
