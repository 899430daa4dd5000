import VirtualNpu.Inventory.Snapshot
import VirtualNpu.Json.Field
import VirtualNpu.Json.Reader
import VirtualNpu.Json.Writer

/-!
The registration of a node's devices with the scheduler: one entry per device,
written as JSON into a node annotation.
-/

namespace VirtualNpu
namespace Registration

/-- One registered device; `count` is the number of its virtual slots and
`kind` the word of its chip family. -/
structure Entry where
  index : UInt32
  id : String
  count : UInt32
  memory : UInt64
  cores : UInt32
  kind : String
  numa : Int32
  health : Bool
  deriving DecidableEq

namespace Entry

def ofDevice (kind : String) (count : UInt32) (device : Inventory.PhysicalDevice) : Entry :=
  { index := device.physicalIndex
    id := device.uuid
    count
    memory := device.memory
    cores := device.cores
    kind
    numa := device.numa
    health := device.healthy }

def fieldNames : List String :=
  ["index", "id", "count", "memory", "cores", "type", "numa", "health"]

def toJson (entry : Entry) : Json.Value :=
  .record
    [("index", .nat entry.index.toNat), ("id", .text entry.id),
      ("count", .nat entry.count.toNat), ("memory", .nat entry.memory.toNat),
      ("cores", .nat entry.cores.toNat), ("type", .text entry.kind),
      ("numa", .int entry.numa.toInt), ("health", .bool entry.health)]

def ofJson? (value : Json.Value) : Option Entry :=
  match value.fields? fieldNames with
  | some [some index, some id, some count, some memory, some cores, some kind,
      some numa, some health] => do
      some
        { index := .ofNat (← index.asNat? 0xFFFFFFFF)
          id := ← id.asText?
          count := .ofNat (← count.asNat? 0xFFFFFFFF)
          memory := .ofNat (← memory.asNat? 0xFFFFFFFFFFFFFFFF)
          cores := .ofNat (← cores.asNat? 0xFFFFFFFF)
          kind := ← kind.asText?
          numa := .ofInt (← numa.asInt32?)
          health := ← health.asBool? }
  | _ => none

end Entry

def encode (entries : List Entry) : String :=
  (Json.Value.array (entries.map Entry.toJson)).render

def decode? (text : String) : Option (List Entry) :=
  match Json.Value.parse? text with
  | some (.array items) => items.mapM Entry.ofJson?
  | _ => none

def entries (inventory : Inventory) : List Entry :=
  inventory.snapshot.map
    (Entry.ofDevice inventory.family.commonWord inventory.slotsPerDevice)

end Registration
end VirtualNpu
