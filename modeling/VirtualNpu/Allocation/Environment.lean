import VirtualNpu.Allocation.Grant
import VirtualNpu.Inventory.Snapshot

/-!
The environment variables that hand granted devices to a container.
-/

namespace VirtualNpu
namespace Allocation

abbrev Environment := List (String × String)

def visibleDevices : String := "VISIBLE_DEVICES"

def virtualSpecs : String := "VNPU_SPECS"

def resolve (grants : List Grant) (devices : Inventory.Snapshot) :
    List Inventory.PhysicalDevice :=
  grants.filterMap fun grant => devices.lookup grant.uuid

def firstTemplate? (grants : List Grant) : Option String :=
  (grants.map Grant.template).find? fun template => template ≠ ""

/-- The environment of the grants.  Unknown devices are passed over, and only a
list that leaves none fails. -/
def containerEnvironment (grants : List Grant) (devices : Inventory.Snapshot) :
    Except Error Environment :=
  match resolve grants devices with
  | [] => .error (.noDevices grants)
  | resolved =>
      let indices := resolved.map fun device => toString device.physicalIndex.toNat
      let visible := (visibleDevices, ",".intercalate indices)
      match firstTemplate? grants with
      | some template => .ok [visible, (virtualSpecs, template)]
      | none => .ok [visible]

end Allocation
end VirtualNpu
