import VirtualNpu.Inventory.Snapshot

/-!
The devices that the kubelet sees: one for each virtual slot of every device in
the snapshot.
-/

namespace VirtualNpu
namespace Kubelet

def apiVersion : String := "v1beta1"

structure Options where
  preStartRequired : Bool
  preferredAllocationAvailable : Bool
  deriving DecidableEq

/-- The options given at registration and on request: nothing is asked for. -/
def pluginOptions : Options := ⟨false, false⟩

/-- A device of the kubelet; `numaNode` is its NUMA node where that is known. -/
structure Device where
  id : String
  healthy : Bool
  numaNode : Option Int
  deriving DecidableEq

def Device.health (device : Device) : String :=
  if device.healthy then "Healthy" else "Unhealthy"

def numaNode? (numa : Int32) : Option Int :=
  if 0 ≤ numa.toInt then some numa.toInt else none

def expand (slots : UInt32) (device : Inventory.PhysicalDevice) : List Device :=
  (Inventory.virtualIds device.uuid slots).map fun id =>
    ⟨id, device.healthy, numaNode? device.numa⟩

def deviceList (inventory : Inventory) : List Device :=
  inventory.snapshot.flatMap (expand inventory.slotsPerDevice)

end Kubelet
end VirtualNpu
