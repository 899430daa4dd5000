/-!
Chip families: what the device config says about one kind of chip, and the
virtual slots that one chip of the family offers.
-/

namespace VirtualNpu
namespace Config

/-- One granularity in which the memory of a chip may be granted, in MiB. -/
structure CapacityTemplate where
  name : String
  memory : UInt64
  aiCore : UInt32
  deriving DecidableEq

/-- One chip family.  Memory is in MiB; `commonWord` names the socket and the
annotation keys, `resourceName` is what the kubelet schedules by. -/
structure ChipFamily where
  chipName : String
  commonWord : String
  resourceName : String
  memoryAllocatable : UInt64
  memoryCapacity : UInt64
  aiCore : UInt32
  maxVirtualDevices : Option UInt32
  templates : List CapacityTemplate
  deriving DecidableEq

/-- How many virtual slots a chip may have at most: the configured limit, else
its cores, and never less than one. -/
def ChipFamily.virtualDeviceLimit (family : ChipFamily) : UInt32 :=
  max (family.maxVirtualDevices.getD family.aiCore) 1

/-- The slots of a chip whose smallest template comes first: as many of that
template as its memory holds, up to `limit`.  A chip without templates, or whose
first template takes no memory, is granted whole. -/
def virtualSlots (memory : UInt64) (templates : List CapacityTemplate)
    (limit : UInt32) : UInt32 :=
  match templates with
  | [] => 1
  | smallest :: _ =>
      if smallest.memory = 0 then 1
      else
        let slots := (memory / smallest.memory).toNat
        if slots < UInt32.size then min (UInt32.ofNat slots) limit else limit

def ChipFamily.virtualSlots (family : ChipFamily) : UInt32 :=
  Config.virtualSlots family.memoryAllocatable family.templates family.virtualDeviceLimit

end Config
end VirtualNpu
