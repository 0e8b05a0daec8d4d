import MatterController.Machine
import MatterController.NodeIndexLoad

/-!
# The lives of controllers

A process has one native stack, and a controller starts it: memory, an event
loop, and the services that `InitializeController` sets up under the stack lock.
`Create` refuses a second controller while one is open; `Close` stops what was
started.

Whatever can fail, fails in one of two ways here. An error code that
`InitializeController` returns is met with `Close`. Everything else is an
exception that nothing in `Initialize` is prepared for: one from a service
started after the memory leaves the memory behind, and one from inside
`InitializeController` – the index of commissioned nodes does not load, for
instance – leaves the event loop and the memory running and the stack lock
locked, so that the next `Create` never returns.

`creates_contained` says that this is all: in every run whose failing calls of
`Create` fail before the memory is initialized or by a returned error, a call
that throws leaves the native stack as it was, one stack runs at most, and the
next `Create` returns.
-/

namespace ControllerLifecycle

/-! ## The native stack -/

/-- **What runs in the process**: how often each service was started and not shut down,
and whether the stack is locked between two calls. -/
structure Native where
  memory : ℕ := 0
  eventLoops : ℕ := 0
  stackLocked : Bool := false
  factories : ℕ := 0
  commissioners : ℕ := 0
  deriving DecidableEq, Repr

/-- `LockChipStack`, which does not return while the stack is locked. -/
def Native.lockChipStack (n : Native) : Option Native :=
  if n.stackLocked then none else some { n with stackLocked := true }

/-- `UnlockChipStack`. -/
def Native.unlockChipStack (n : Native) : Native := { n with stackLocked := false }

/-- The factory is initialized. -/
def Native.startFactory (n : Native) : Native := { n with factories := n.factories + 1 }

/-- The commissioner is set up. -/
def Native.startCommissioner (n : Native) : Native :=
  { n with commissioners := n.commissioners + 1 }

/-- **A controller.** -/
structure ControllerRuntime where
  closed : Bool := false
  factoryInitialized : Bool := false
  commissionerInitialized : Bool := false
  commissionedNodes : List UInt64 := []
  deriving DecidableEq, Repr

/-- `Close`: the event loop is stopped before the stack is locked. -/
def ControllerRuntime.close (r : ControllerRuntime) (n : Native) :
    Option (ControllerRuntime × Native) :=
  if r.closed then some (r, n)
  else
    let n := { n with eventLoops := n.eventLoops - 1 }
    n.lockChipStack.map fun n =>
      let n := if r.commissionerInitialized then { n with commissioners := n.commissioners - 1 }
        else n
      let n := if r.factoryInitialized then { n with factories := n.factories - 1 } else n
      let n := n.unlockChipStack
      ({ r with closed := true, factoryInitialized := false, commissionerInitialized := false },
        { n with memory := n.memory - 1 })

/-! ## What a controller meets when it is created -/

/-- The first error of some calls that are made one after the other. -/
def firstError : List ChipError → ChipError
  | [] => .noError
  | error :: errors => if error = .noError then firstError errors else error

/-- **What `InitializeController` meets**: the answers of the native stack, an exception
from the construction of the camera host, and the stored index. -/
structure ControllerInit where
  storageInit : ChipError := .noError
  enableCameraSignaling : Bool := false
  cameraHost : Option Exn := none
  cameraHostInit : ChipError := .noError
  stored : NodeIndex.StoredValue := .absent
  operationalKeystoreInit : ChipError := .noError
  opCertStoreInit : ChipError := .noError
  groupDataProviderInit : ChipError := .noError
  factoryInit : ChipError := .noError
  credentialsIssuerInitialize : ChipError := .noError
  /-- Whether there is a fabric table. -/
  fabrics : Bool := true
  /-- Whether the first fabric, if there is one, has its operational key. -/
  operationalKey : Option Bool := none
  fabricDelete : ChipError := .noError
  allocatePendingOperationalKey : ChipError := .noError
  verifyCertificateSigningRequest : ChipError := .noError
  generateNOCChain : ChipError := .noError
  setupCommissioner : ChipError := .noError
  compressedFabricId : ChipError := .noError
  setSingleIpkEpochKey : ChipError := .noError

namespace ControllerInit

variable (i : ControllerInit)

/-- The camera host, constructed and initialized where it is asked for. -/
def startCameraHost : Except Exn ChipError :=
  if i.enableCameraSignaling then
    match i.cameraHost with
    | some exn => .error exn
    | none => .ok i.cameraHostInit
  else .ok .noError

/-- The credentials of the commissioner: those of the first fabric, or new ones. -/
def credentials : ChipError :=
  if !i.fabrics then .incorrectState
  else match i.operationalKey with
    | some true => .noError
    | some false => firstError [i.fabricDelete, i.allocatePendingOperationalKey,
        i.verifyCertificateSigningRequest, i.generateNOCChain]
    | none => firstError [i.allocatePendingOperationalKey, i.verifyCertificateSigningRequest,
        i.generateNOCChain]

/-- `InitializeController`, after the index is loaded. -/
def setUp (r : ControllerRuntime) (n : Native) : ChipError × ControllerRuntime × Native :=
  let error := firstError [i.operationalKeystoreInit, i.opCertStoreInit, i.groupDataProviderInit,
    i.factoryInit]
  if error ≠ .noError then (error, r, n)
  else
    let r := { r with factoryInitialized := true }
    let n := n.startFactory
    let error := firstError [i.credentialsIssuerInitialize, i.credentials, i.setupCommissioner]
    if error ≠ .noError then (error, r, n)
    else
      let r := { r with commissionerInitialized := true }
      let n := n.startCommissioner
      (firstError [i.compressedFabricId, i.setSingleIpkEpochKey], r, n)

/-- `InitializeController`, from `LoadCommissionedNodes` on. -/
def loadAndSetUp (r : ControllerRuntime) (n : Native) :
    Option (Except Exn ChipError × ControllerRuntime × Native) :=
  (NodeIndex.loadCommissionedNodes i.stored).map fun
    | .error exn => (.error exn, r, n)
    | .ok nodes =>
      let (error, r, n) := i.setUp { r with commissionedNodes := nodes.getD r.commissionedNodes } n
      (.ok error, r, n)

/-- `InitializeController`: it returns an error code, or an exception passes through
it. -/
def initializeController (r : ControllerRuntime) (n : Native) :
    Option (Except Exn ChipError × ControllerRuntime × Native) :=
  if i.storageInit ≠ .noError then some (.ok i.storageInit, r, n)
  else match i.startCameraHost with
    | .error exn => some (.error exn, r, n)
    | .ok error =>
      if error ≠ .noError then some (.ok error, r, n)
      else i.loadAndSetUp r n

end ControllerInit

/-- **What `Create` meets.** -/
structure Initialization where
  /-- Whether there are options with a storage path. -/
  storagePath : Bool := true
  absolute : Bool := true
  createDirectories : Option Exn := none
  memoryInit : ChipError := .noError
  configureBle : ChipError := .noError
  configureStorageRoot : ChipError := .noError
  initChipStack : ChipError := .noError
  startEventLoopTask : ChipError := .noError
  controller : ControllerInit := {}

/-- The services that are started after the memory. -/
def Initialization.startServices (i : Initialization) : ChipError :=
  firstError [i.configureBle, i.configureStorageRoot, i.initChipStack, i.startEventLoopTask]

/-- `Initialize`: it returns the controller, or throws. An exception from inside
`InitializeController` passes the unlocking by. -/
def Initialization.initialize (i : Initialization) (n : Native) :
    Option (Except Exn ControllerRuntime × Native) :=
  if !i.absolute then some (.error (.hresult .invalidArgument), n)
  else match i.createDirectories with
    | some exn => some (.error exn, n)
    | none =>
      match checkChipError i.memoryInit with
      | .error exn => some (.error exn, n)
      | .ok () =>
        let n := { n with memory := n.memory + 1 }
        match checkChipError i.startServices with
        | .error exn => some (.error exn, n)
        | .ok () =>
          let n := { n with eventLoops := n.eventLoops + 1 }
          n.lockChipStack.bind fun n =>
            (i.controller.initializeController {} n).bind fun
              | (.error exn, _, n) => some (.error exn, n)
              | (.ok error, r, n) =>
                let n := n.unlockChipStack
                match checkChipError error with
                | .ok () => some (.ok r, n)
                | .error exn => (r.close n).map fun (_, n) => (.error exn, n)

/-! ## The process -/

/-- A call of `Create` that is over. -/
structure CreateRecord where
  result : Except Exn Unit
  before : Native
  after : Native

/-- **The process**: what runs, the controller `sInstance` leads to, and the calls of
`Create` so far. -/
structure Process where
  native : Native := {}
  sInstance : Option ControllerRuntime := none
  creates : List CreateRecord := []

namespace Process

/-- Whether there is a controller that is open. -/
def isOpen (p : Process) : Bool :=
  match p.sInstance with
  | some r => !r.closed
  | none => false

/-- `Create`. -/
def create (i : Initialization) (p : Process) : Option Process :=
  if !i.storagePath then
    some { p with
      creates := p.creates ++ [⟨.error (.hresult .invalidArgument), p.native, p.native⟩] }
  else if p.isOpen then
    some { p with
      creates := p.creates ++ [⟨.error (.hresult .illegalMethodCall), p.native, p.native⟩] }
  else i.initialize p.native |>.map fun
    | (.error exn, n) =>
      { p with native := n, creates := p.creates ++ [⟨.error exn, p.native, n⟩] }
    | (.ok r, n) => {
        native := n
        sInstance := some r
        creates := p.creates ++ [⟨.ok (), p.native, n⟩] }

/-- `Close` of the controller. -/
def close (p : Process) : Option Process :=
  p.sInstance.bind fun r =>
    (r.close p.native).map fun (r, n) => { p with native := n, sInstance := some r }

/-- The last reference to the controller goes. Nothing is shut down by that. -/
def release (p : Process) : Option Process :=
  p.sInstance.map fun _ => { p with sInstance := none }

end Process

/-- What is done with controllers. -/
inductive Action
  | create (i : Initialization)
  | close
  | release

/-- **Controllers that are created, closed and released.** -/
def machine : Machine Process Action where
  start := {}
  step p
    | .create i => p.create i
    | .close => p.close
    | .release => p.release

/-- A controller is closed before it is released. -/
def ClosedFirst (p : Process) (a : Action) : Prop := a = .release → p.isOpen = false

/-- **What a process can rely on**: a call of `Create` that threw left the native stack as
it was, with the lock free; one stack is running at most; and `Create` returns. -/
structure Contained (p : Process) : Prop where
  thrown : ∀ c ∈ p.creates, ∀ exn, c.result = .error exn →
    c.after = c.before ∧ c.after.stackLocked = false
  one : p.native.memory ≤ 1 ∧ p.native.eventLoops ≤ 1
  returns : ∀ i, ∃ t, p.create i = some t

/-! ## When a failure is contained -/

/-- Whether no exception passes through `InitializeController`. -/
def ControllerInit.returns (i : ControllerInit) : Bool :=
  i.storageInit ≠ .noError ||
    if i.enableCameraSignaling then
      i.cameraHost.isNone && (i.cameraHostInit ≠ .noError || i.stored.loads)
    else i.stored.loads

/-- **Whether `Initialize` leaves nothing behind when it throws**: it throws before the
memory is initialized, or with an error `InitializeController` returns. -/
def Initialization.leavesNothing (i : Initialization) : Bool :=
  !i.absolute || i.createDirectories.isSome || i.memoryInit ≠ .noError ||
    (i.startServices = .noError && i.controller.returns)

/-- **The condition**, on what a call of `Create` meets: it is refused before it starts
anything, or leaves nothing. -/
def LeavesNothing (p : Process) (a : Action) : Prop :=
  ∀ i, a = .create i → i.storagePath = false ∨ p.isOpen = true ∨ i.leavesNothing = true

/-! ## What the functions do -/

theorem checkChipError_eq_ok {error : ChipError} :
    checkChipError error = .ok () ↔ error = .noError := by
  unfold checkChipError
  split
  · rename_i h
    exact ⟨fun _ => h, fun _ => rfl⟩
  · rename_i h
    exact ⟨fun h' => (by cases h'), fun h' => absurd h' h⟩

/-- The native stack of a controller that is open, as far as it got. -/
def running (r : ControllerRuntime) : Native where
  memory := 1
  eventLoops := 1
  factories := r.factoryInitialized.toNat
  commissioners := r.commissionerInitialized.toNat

/-- The native stack while `InitializeController` runs. -/
def locked (r : ControllerRuntime) : Native := { running r with stackLocked := true }

@[simp] theorem unlockChipStack_locked (r : ControllerRuntime) :
    (locked r).unlockChipStack = running r := rfl

/-- **`Close` stops what runs.** -/
theorem close_running {r : ControllerRuntime} (h : r.closed = false) :
    r.close (running r)
      = some ({ closed := true, commissionedNodes := r.commissionedNodes }, {}) := by
  unfold ControllerRuntime.close
  rw [if_neg (by rw [h]; decide)]
  cases hf : r.factoryInitialized <;> cases hc : r.commissionerInitialized <;>
    simp [running, Native.lockChipStack, Native.unlockChipStack, hf, hc]

theorem startFactory_locked {r : ControllerRuntime} (h : r.factoryInitialized = false) :
    (locked r).startFactory = locked { r with factoryInitialized := true } := by
  simp [locked, running, Native.startFactory, h]

theorem startCommissioner_locked {r : ControllerRuntime} (h : r.commissionerInitialized = false) :
    (locked r).startCommissioner = locked { r with commissionerInitialized := true } := by
  simp [locked, running, Native.startCommissioner, h]

/-- `setUp` starts what its flags say. -/
theorem setUp_spec (i : ControllerInit) {r : ControllerRuntime}
    (hfactory : r.factoryInitialized = false) (hcommissioner : r.commissionerInitialized = false) :
    ∃ error r', i.setUp r (locked r) = (error, r', locked r') ∧ r'.closed = r.closed := by
  unfold ControllerInit.setUp
  dsimp only
  split
  · exact ⟨_, r, rfl, rfl⟩
  · rw [startFactory_locked hfactory]
    split
    · exact ⟨_, _, rfl, rfl⟩
    · rw [startCommissioner_locked (by exact hcommissioner)]
      exact ⟨_, _, rfl, rfl⟩

/-- **What comes of the index**: it is loaded and the services are set up, or an exception
passes through. -/
theorem loadAndSetUp_spec (i : ControllerInit) :
    (i.stored.loads = true ∧ ∃ error r, i.loadAndSetUp {} (locked {})
        = some (.ok error, r, locked r) ∧ r.closed = false) ∨
      (i.stored.loads = false ∧ ∃ exn, i.loadAndSetUp {} (locked {})
        = some (.error exn, {}, locked {})) := by
  unfold ControllerInit.loadAndSetUp
  rw [NodeIndex.loadCommissionedNodes_eq, Option.map_some]
  cases hloaded : i.stored.loaded with
  | error exn =>
    refine Or.inr ⟨Bool.eq_false_iff.mpr fun h => ?_, exn, rfl⟩
    obtain ⟨nodes, hnodes⟩ := i.stored.loads_iff.mp h
    rw [hloaded] at hnodes
    cases hnodes
  | ok nodes =>
    obtain ⟨error, r, hsetUp, hclosed⟩ :=
      setUp_spec i (r := { commissionedNodes := nodes.getD [] }) rfl rfl
    refine Or.inl ⟨i.stored.loads_iff.mpr ⟨nodes, hloaded⟩, error, r, ?_, hclosed⟩
    have hsame : locked { commissionedNodes := nodes.getD [] } = locked {} := rfl
    rw [hsame] at hsetUp
    dsimp only
    rw [hsetUp]

/-- **`InitializeController` returns an error code, or an exception passes through it** and
nothing is unlocked. -/
theorem initializeController_spec (i : ControllerInit) :
    (i.returns = true ∧ ∃ error r, i.initializeController {} (locked {})
        = some (.ok error, r, locked r) ∧ r.closed = false) ∨
      (i.returns = false ∧ ∃ exn, i.initializeController {} (locked {})
        = some (.error exn, {}, locked {})) := by
  have hload := loadAndSetUp_spec i
  unfold ControllerInit.initializeController ControllerInit.returns ControllerInit.startCameraHost
  by_cases hstorage : i.storageInit = .noError
  · rw [if_neg (not_not_intro hstorage), decide_eq_false (not_not_intro hstorage), Bool.false_or]
    cases i.enableCameraSignaling with
    | false => exact hload
    | true =>
      rw [if_pos rfl, if_pos rfl]
      cases i.cameraHost with
      | some exn => exact Or.inr ⟨rfl, exn, rfl⟩
      | none =>
        dsimp only
        by_cases hinit : i.cameraHostInit = .noError
        · rw [if_neg (not_not_intro hinit), decide_eq_false (not_not_intro hinit), Bool.false_or]
          exact hload
        · rw [if_pos hinit, decide_eq_true hinit]
          exact Or.inl ⟨rfl, _, {}, rfl, rfl⟩
  · rw [if_pos hstorage, decide_eq_true hstorage]
    exact Or.inl ⟨rfl, _, {}, rfl, rfl⟩

/-- **What `Initialize` does on a stack that is down**: it starts a controller, or throws
and leaves nothing, or throws and leaves something. -/
theorem initialize_spec (i : Initialization) :
    (i.leavesNothing = true ∧
      ((∃ r, i.initialize {} = some (.ok r, running r) ∧ r.closed = false) ∨
        ∃ exn, i.initialize {} = some (.error exn, {}))) ∨
      (i.leavesNothing = false ∧ ∃ exn n, i.initialize {} = some (.error exn, n) ∧ n ≠ {}) := by
  unfold Initialization.initialize Initialization.leavesNothing
  cases i.absolute with
  | false => exact Or.inl ⟨rfl, Or.inr ⟨_, rfl⟩⟩
  | true =>
    cases i.createDirectories with
    | some exn => exact Or.inl ⟨rfl, Or.inr ⟨exn, rfl⟩⟩
    | none =>
      by_cases hmemory : i.memoryInit = .noError
      · rw [decide_eq_false (not_not_intro hmemory), checkChipError_eq_ok.mpr hmemory]
        by_cases hservices : i.startServices = .noError
        · rw [decide_eq_true hservices, checkChipError_eq_ok.mpr hservices]
          rcases initializeController_spec i.controller with
            ⟨hreturns, error, r, hrun, hclosed⟩ | ⟨hreturns, exn, hrun⟩
          · -- an error code is met with `Close`
            refine Or.inl ⟨by rw [hreturns]; rfl, ?_⟩
            by_cases herror : error = .noError
            · refine Or.inl ⟨r, ?_, hclosed⟩
              show (i.controller.initializeController {} (locked {})).bind _ = _
              rw [hrun, Option.bind_some]
              dsimp only
              rw [checkChipError_eq_ok.mpr herror, unlockChipStack_locked]
            · refine Or.inr ⟨.chip error, ?_⟩
              show (i.controller.initializeController {} (locked {})).bind _ = _
              rw [hrun, Option.bind_some]
              dsimp only
              rw [checkChipError, if_neg herror, unlockChipStack_locked]
              dsimp only
              rw [close_running hclosed]
              rfl
          · -- an exception passes the unlocking by
            refine Or.inr ⟨by rw [hreturns]; rfl, exn, locked {}, ?_, by decide⟩
            show (i.controller.initializeController {} (locked {})).bind _ = _
            rw [hrun]
            rfl
        · rw [decide_eq_false hservices, checkChipError, if_neg hservices]
          exact Or.inr ⟨rfl, _, _, rfl, by decide⟩
      · rw [decide_eq_true hmemory, checkChipError, if_neg hmemory]
        exact Or.inl ⟨rfl, Or.inr ⟨_, rfl⟩⟩

/-! ## Runs -/

/-- **The invariant**: the stack is that of the controller that is open, or is down. -/
structure Invariant (p : Process) : Prop where
  up : ∀ r, p.sInstance = some r → r.closed = false → p.native = running r
  down : p.isOpen = false → p.native = {}
  thrown : ∀ c ∈ p.creates, ∀ exn, c.result = .error exn →
    c.after = c.before ∧ c.after.stackLocked = false

theorem invariant_start : Invariant machine.start where
  up _ h := by cases h
  down _ := rfl
  thrown _ h := absurd h List.not_mem_nil

/-- The stack is down, or is that of a controller. -/
theorem Invariant.native {p : Process} (h : Invariant p) :
    p.native = {} ∨ ∃ r, p.native = running r := by
  cases hopen : p.isOpen with
  | false => exact Or.inl (h.down hopen)
  | true =>
    unfold Process.isOpen at hopen
    cases hr : p.sInstance with
    | none => rw [hr] at hopen; cases hopen
    | some r =>
      rw [hr] at hopen
      exact Or.inr ⟨r, h.up r hr (by simpa using hopen)⟩

/-- Another record of a call that threw and left nothing. -/
theorem Invariant.record {p : Process} (h : Invariant p) (exn : Exn) :
    Invariant { p with creates := p.creates ++ [⟨.error exn, p.native, p.native⟩] } where
  up := h.up
  down := h.down
  thrown c hc e he := by
    rcases List.mem_append.mp hc with hc | hc
    · exact h.thrown c hc e he
    · rw [List.mem_singleton.mp hc]
      refine ⟨rfl, ?_⟩
      rcases h.native with hn | ⟨r, hn⟩
      · rw [hn]
      · rw [hn]
        rfl

/-- **What `Create` can do** where the invariant holds: it is refused, it starts a
controller, or it throws, having left something or not. -/
theorem create_cases {p : Process} (h : Invariant p) (i : Initialization) :
    ((i.storagePath = false ∨ p.isOpen = true) ∧ ∃ exn, p.create i
        = some { p with creates := p.creates ++ [⟨.error exn, p.native, p.native⟩] }) ∨
    (i.storagePath = true ∧ p.isOpen = false ∧ p.native = {} ∧
      ((i.leavesNothing = true ∧
        ((∃ r, r.closed = false ∧ p.create i = some {
            native := running r
            sInstance := some r
            creates := p.creates ++ [⟨.ok (), {}, running r⟩] }) ∨
          ∃ exn, p.create i
            = some { p with creates := p.creates ++ [⟨.error exn, p.native, p.native⟩] })) ∨
      (i.leavesNothing = false ∧ ∃ exn n, n ≠ {} ∧ p.create i
        = some { p with native := n, creates := p.creates ++ [⟨.error exn, {}, n⟩] }))) := by
  unfold Process.create
  cases hpath : i.storagePath with
  | false => exact Or.inl ⟨Or.inl rfl, _, rfl⟩
  | true =>
    cases hopen : p.isOpen with
    | true => exact Or.inl ⟨Or.inr rfl, _, rfl⟩
    | false =>
      have hdown := h.down hopen
      refine Or.inr ⟨rfl, rfl, hdown, ?_⟩
      rw [hdown]
      rcases initialize_spec i with ⟨hleaves, ⟨r, hrun, hclosed⟩ | ⟨exn, hrun⟩⟩ |
        ⟨hleaves, exn, n, hrun, hn⟩
      · exact Or.inl ⟨hleaves, Or.inl ⟨r, hclosed, by rw [hrun]; rfl⟩⟩
      · refine Or.inl ⟨hleaves, Or.inr ⟨exn, ?_⟩⟩
        rw [hrun]
        simp [← hdown]
      · exact Or.inr ⟨hleaves, exn, n, hn, by rw [hrun]; rfl⟩

theorem Invariant.create {p t : Process} (h : Invariant p) {i : Initialization}
    (hok : i.storagePath = false ∨ p.isOpen = true ∨ i.leavesNothing = true)
    (ht : p.create i = some t) : Invariant t := by
  rcases create_cases h i with ⟨-, exn, hrun⟩ | ⟨hpath, hopen, hdown, hcreate⟩
  · rw [hrun] at ht
    cases ht
    exact h.record exn
  · rcases hcreate with ⟨-, ⟨r, hclosed, hrun⟩ | ⟨exn, hrun⟩⟩ | ⟨hleaves, -⟩
    · rw [hrun] at ht
      cases ht
      refine ⟨fun r' hr' _ => ?_, fun hno => ?_, fun c hc e he => ?_⟩
      · obtain rfl := Option.some.inj hr'
        rfl
      · have hyes : (!r.closed) = false := hno
        rw [hclosed] at hyes
        cases hyes
      · rcases List.mem_append.mp hc with hc | hc
        · exact h.thrown c hc e he
        · rw [List.mem_singleton.mp hc] at he
          cases he
    · rw [hrun] at ht
      cases ht
      exact h.record exn
    · rw [hpath, hopen, hleaves] at hok
      simp at hok

theorem Invariant.close {p t : Process} (h : Invariant p) (ht : p.close = some t) :
    Invariant t := by
  obtain ⟨r, hr, hclose⟩ := Option.bind_eq_some_iff.mp ht
  cases hclosed : r.closed with
  | true =>
    have hnoop : r.close p.native = some (r, p.native) := if_pos hclosed
    rw [hnoop] at hclose
    cases hclose
    refine ⟨fun r' hr' hopen => ?_, fun _ => h.down ?_, h.thrown⟩
    · obtain rfl := Option.some.inj hr'
      rw [hclosed] at hopen
      cases hopen
    · rw [Process.isOpen, hr]
      simp [hclosed]
  | false =>
    rw [h.up r hr hclosed, close_running hclosed] at hclose
    cases hclose
    refine ⟨fun r' hr' hopen => ?_, fun _ => rfl, h.thrown⟩
    obtain rfl := Option.some.inj hr'
    cases hopen

theorem Invariant.release {p t : Process} (h : Invariant p) (hclosed : p.isOpen = false)
    (ht : p.release = some t) : Invariant t := by
  obtain ⟨r, -, rfl⟩ := Option.map_eq_some_iff.mp ht
  exact ⟨fun _ hr => (by cases hr), fun _ => h.down hclosed, h.thrown⟩

/-- **The invariant contains every failure.** -/
theorem Invariant.contained {p : Process} (h : Invariant p) : Contained p := by
  refine ⟨h.thrown, ?_, fun i => ?_⟩
  · rcases h.native with hn | ⟨r, hn⟩
    · rw [hn]
      exact ⟨Nat.zero_le 1, Nat.zero_le 1⟩
    · rw [hn]
      exact ⟨Nat.le_refl 1, Nat.le_refl 1⟩
  · rcases create_cases h i with ⟨-, exn, hrun⟩ | ⟨-, -, -, ⟨-, ⟨r, -, hrun⟩ | ⟨exn, hrun⟩⟩ |
      ⟨-, exn, n, -, hrun⟩⟩ <;> exact ⟨_, hrun⟩

/-- The invariant holds wherever such a run leads. -/
theorem Invariant.reached {p : Process}
    (hp : machine.ReachableWithin (fun p a => ClosedFirst p a ∧ LeavesNothing p a) p) :
    Invariant p := by
  refine hp.invariant (P := Invariant) invariant_start fun s a t _ hs hok ht => ?_
  cases a with
  | create i => exact hs.create (hok.2 i rfl) ht
  | close => exact hs.close ht
  | release => exact hs.release (hok.1 rfl) ht

/-- **Failing calls of `Create` are contained** in every run in which each of them leaves
nothing and each controller is closed before it is released; and a call that does not
leave nothing is not. -/
theorem creates_contained {p : Process}
    (hp : machine.ReachableWithin (fun p a => ClosedFirst p a ∧ LeavesNothing p a) p) :
    Contained p ∧ ∀ i t, machine.step p (.create i) = some t →
      (Contained t ↔ LeavesNothing p (.create i)) := by
  have hinv := Invariant.reached hp
  refine ⟨hinv.contained, fun i t ht => ⟨fun hcontained j hj => ?_,
    fun hok => (hinv.create (hok i rfl) ht).contained⟩⟩
  cases hj
  rcases create_cases hinv i with ⟨hrefused, -⟩ | ⟨-, -, -, ⟨hleaves, -⟩ |
    ⟨-, exn, n, hn, hrun⟩⟩
  · rcases hrefused with hpath | hopen
    · exact Or.inl hpath
    · exact Or.inr (Or.inl hopen)
  · exact Or.inr (Or.inr hleaves)
  · -- what was left behind is on record
    rw [show machine.step p (.create i) = p.create i from rfl, hrun] at ht
    cases ht
    have hrecord := hcontained.thrown ⟨.error exn, {}, n⟩
      (List.mem_append_right _ List.mem_cons_self) exn rfl
    exact absurd hrecord.1 hn

/-- A controller is created after two calls that failed, the one for a path and the other
for a service; it is closed, released, and followed by another. -/
theorem creates_contained_again :
    ∃ p, machine.run machine.start
        [.create { absolute := false }, .create { controller := { opCertStoreInit := .busy } },
          .create { controller := { stored := .value [1, 2, 3, 4, 5, 6, 7, 8] } }, .close, .release,
          .create {}] = some p ∧ p.isOpen = true ∧ p.creates.length = 4 ∧ Contained p := by
  refine ⟨_, rfl, rfl, rfl, (creates_contained ?_).1⟩
  refine .step (a := .create {}) (.step (a := .release) (.step (a := .close)
    (.step (a := .create { controller := { stored := .value [1, 2, 3, 4, 5, 6, 7, 8] } })
    (.step (a := .create { controller := { opCertStoreInit := .busy } })
    (.step (a := .create { absolute := false }) .start ?_ rfl) ?_ rfl) ?_ rfl) ?_ rfl) ?_ rfl)
      ?_ rfl
  all_goals
    refine ⟨fun h => ?_, fun i h => ?_⟩
  all_goals
    cases h
  all_goals
    first | rfl | exact Or.inr (Or.inr rfl)

/-- **An index of three bytes**: the call that meets it throws, the event loop and the
memory stay, the stack stays locked, and the next call never returns. -/
theorem index_of_three_bytes :
    ¬ ∀ p, machine.ReachableWithin ClosedFirst p → Contained p := by
  intro h
  have hrun : ((machine.run machine.start
      [.create { controller := { stored := .value [1, 2, 3] } }]).map fun p =>
        (p.native, (p.create {}).isSome)) = some (locked {}, false) := rfl
  obtain ⟨p, hp, hlocked⟩ := Option.map_eq_some_iff.mp hrun
  have hreach : machine.ReachableWithin ClosedFirst p := by
    refine .step (a := .create { controller := { stored := .value [1, 2, 3] } }) .start
      (fun h => by cases h) ?_
    obtain ⟨t, ht, hnil⟩ := Option.bind_eq_some_iff.mp hp
    rw [ht, ← Option.some.inj hnil]
  obtain ⟨t, ht⟩ := (h p hreach).returns {}
  have hnone := (Prod.mk.inj hlocked).2
  rw [ht] at hnone
  cases hnone

end ControllerLifecycle
