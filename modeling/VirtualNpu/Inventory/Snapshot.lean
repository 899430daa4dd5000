import VirtualNpu.Config.Family
import VirtualNpu.Inventory.Provider
import VirtualNpu.Text.Quoted

/-!
The last known devices of a node.  A refresh replaces the whole snapshot or, if
any device cannot be asked, leaves it as it was.
-/

namespace VirtualNpu
namespace Inventory

/-- One accelerator as last reported, memory in MiB. -/
structure PhysicalDevice where
  uuid : String
  logicIndex : UInt32
  physicalIndex : UInt32
  cardIndex : UInt32
  deviceIndex : UInt32
  memory : UInt64
  cores : UInt32
  numa : Int32
  healthy : Bool
  deriving DecidableEq

def virtualIds (uuid : String) (count : UInt32) : List String :=
  (List.range count.toNat).map fun slot => uuid ++ "-" ++ toString slot

def PhysicalDevice.ofRaw (family : Config.ChipFamily) (logicId : UInt32)
    (raw : RawDevice) : PhysicalDevice :=
  { uuid := raw.uuid
    logicIndex := logicId
    physicalIndex := raw.physicalId
    cardIndex := raw.cardId
    deviceIndex := raw.deviceId
    memory := family.memoryAllocatable
    cores := family.aiCore
    numa := raw.numa
    healthy := raw.healthy }

abbrev Snapshot := List PhysicalDevice

def Snapshot.lookup (snapshot : Snapshot) (uuid : String) : Option PhysicalDevice :=
  snapshot.find? fun device => device.uuid = uuid

def Snapshot.unhealthy (snapshot : Snapshot) : List UInt32 :=
  (snapshot.filter fun device => !device.healthy).map PhysicalDevice.logicIndex

end Inventory

structure Inventory where
  family : Config.ChipFamily
  snapshot : Inventory.Snapshot

namespace Inventory

def empty (family : Config.ChipFamily) : Inventory := ⟨family, []⟩

def replace (inventory : Inventory) (devices : List (UInt32 × RawDevice)) : Inventory :=
  { inventory with
    snapshot := devices.map fun device =>
      PhysicalDevice.ofRaw inventory.family device.1 device.2 }

def refresh {σ : Type} (inventory : Inventory) (provider : Provider σ) (state : σ) :
    Except (Report Error) Inventory × σ :=
  match provider.devices state with
  | (.error report, after) => (.error report, after)
  | (.ok devices, after) => (.ok (inventory.replace devices), after)

def slotsPerDevice (inventory : Inventory) : UInt32 :=
  inventory.family.virtualSlots

def describe (inventory : Inventory) : String :=
  "Inventory \x7b chip: " ++ Text.quoted inventory.family.chipName ++ ", devices: "
    ++ toString inventory.snapshot.length ++ " \x7d"

def pollUnhealthy {σ : Type} (provider : Provider σ) (state : σ) :
    Answer σ (List UInt32) :=
  match provider.devices state with
  | (.error report, after) => (.error report, after)
  | (.ok devices, after) =>
      (.ok ((devices.filter fun device => !device.2.healthy).map Prod.fst), after)

end Inventory
end VirtualNpu
