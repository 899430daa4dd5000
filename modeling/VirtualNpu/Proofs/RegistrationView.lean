import VirtualNpu.Kubelet.Device
import VirtualNpu.Proofs.AnnotationKeys
import VirtualNpu.Proofs.JsonRecords
import VirtualNpu.Proofs.JsonWriting
import VirtualNpu.Registration.Reporter

/-!
What the scheduler is told of a node, and what the kubelet is told.  The registration is read
back from its annotation entry by entry, and the slots that its entries announce are the
devices of the kubelet's list.
-/

namespace VirtualNpu
namespace Registration

/-! ### The annotation -/

theorem fields_toJson (entry : Entry) :
    entry.toJson.fields? Entry.fieldNames =
      some [some (.nat entry.index.toNat), some (.text entry.id), some (.nat entry.count.toNat),
        some (.nat entry.memory.toNat), some (.nat entry.cores.toNat), some (.text entry.kind),
        some (.int entry.numa.toInt), some (.bool entry.health)] := by
  have distinct : Entry.fieldNames.Nodup := by decide
  refine (Json.fieldsOfMembers_eq_some_iff distinct _ _).mpr ⟨⟨by simp, ?_⟩, ?_⟩
  · simp [Entry.fieldNames, Json.valuesNamed]
  · simp [Entry.fieldNames, Json.valuesNamed]

theorem ofJson?_of_fields {value : Json.Value} {entry : Entry}
    (fields : value.fields? Entry.fieldNames = entry.toJson.fields? Entry.fieldNames) :
    Entry.ofJson? value = some entry := by
  have index := Json.asNat?_nat (Nat.le_of_lt_succ entry.index.toNat_lt)
  have count := Json.asNat?_nat (Nat.le_of_lt_succ entry.count.toNat_lt)
  have memory := Json.asNat?_nat (Nat.le_of_lt_succ entry.memory.toNat_lt)
  have cores := Json.asNat?_nat (Nat.le_of_lt_succ entry.cores.toNat_lt)
  have numa := Json.asInt32?_int entry.numa.le_toInt (Int.le_of_lt_add_one entry.numa.toInt_lt)
  have id : (Json.Value.text entry.id).asText? = some entry.id := rfl
  have kind : (Json.Value.text entry.kind).asText? = some entry.kind := rfl
  have health : (Json.Value.bool entry.health).asBool? = some entry.health := rfl
  simp only [Entry.ofJson?, fields, fields_toJson, index, id, count, memory, cores, kind, numa,
    health, Option.bind_eq_bind, Option.bind_some, UInt32.ofNat_toNat, UInt64.ofNat_toNat,
    Int32.ofInt_toInt]

theorem ofJson?_toJson (entry : Entry) : Entry.ofJson? entry.toJson = some entry :=
  ofJson?_of_fields rfl

theorem writable_toJson (entry : Entry) : Json.Writable entry.toJson := by
  apply Json.Writable.record
  intro member inside
  simp only [List.mem_cons, List.not_mem_nil, or_false] at inside
  rcases inside with rfl | rfl | rfl | rfl | rfl | rfl | rfl | rfl
  · exact Json.writable_nat _
  · exact .text
  · exact Json.writable_nat _
  · exact Json.writable_nat _
  · exact Json.writable_nat _
  · exact .text
  · exact Json.writable_int _
  · exact .bool

theorem decode?_encode (entries : List Entry) : decode? (encode entries) = some entries := by
  have read : (entries.map Entry.toJson).mapM Entry.ofJson? = some entries := by
    rw [Json.mapM_eq_some_iff, List.forall₂_map_left_iff]
    exact List.forall₂_same.mpr fun entry _ => ofJson?_toJson entry
  rw [decode?, encode, Json.parse?_render (Json.writable_map writable_toJson entries)]
  exact read

/-- The annotations of a family in the order of their keys. -/
theorem nodeAnnotations_eq (inventory : Inventory) (handshake : String) :
    nodeAnnotations inventory handshake =
      [(Cluster.nodeHandshake inventory.family.commonWord, handshake),
        (Cluster.nodeRegister inventory.family.commonWord, encode (entries inventory))] := by
  have first := Cluster.nodeHandshake_lt_nodeRegister inventory.family.commonWord
  simp only [nodeAnnotations, Cluster.Annotations.ofList, List.foldl, Cluster.Annotations.insert,
    if_pos first]

theorem find?_nodeRegister (inventory : Inventory) (handshake : String) :
    (nodeAnnotations inventory handshake).find?
        (Cluster.nodeRegister inventory.family.commonWord) =
      some (encode (entries inventory)) := by
  rw [nodeAnnotations_eq,
    Cluster.Annotations.find?_cons_ne (Cluster.nodeRegister_ne_nodeHandshake _ _),
    Cluster.Annotations.find?_cons_self]

/-! ### The slots -/

structure Entry.Describes (inventory : Inventory) (device : Inventory.PhysicalDevice)
    (entry : Entry) : Prop where
  index : entry.index = device.physicalIndex
  id : entry.id = device.uuid
  count : entry.count = inventory.slotsPerDevice
  memory : entry.memory = device.memory
  cores : entry.cores = device.cores
  kind : entry.kind = inventory.family.commonWord
  numa : entry.numa = device.numa
  health : entry.health = device.healthy

theorem describes_entries (inventory : Inventory) :
    List.Forall₂ (Entry.Describes inventory) inventory.snapshot (entries inventory) := by
  unfold entries
  rw [List.forall₂_map_right_iff]
  apply List.forall₂_same.mpr
  intro device _
  constructor <;> rfl

def Entry.slots (entry : Entry) : List (String × String × Option Int) :=
  (List.range entry.count.toNat).map fun slot =>
    (entry.id ++ "-" ++ toString slot, if entry.health then "Healthy" else "Unhealthy",
      if 0 ≤ entry.numa.toInt then some entry.numa.toInt else none)

def told (device : Kubelet.Device) : String × String × Option Int :=
  (device.id, device.health, device.numaNode)

theorem told_expand (kind : String) (count : UInt32) (device : Inventory.PhysicalDevice) :
    (Kubelet.expand count device).map told = (Entry.ofDevice kind count device).slots := by
  unfold Kubelet.expand Inventory.virtualIds Entry.slots
  rw [List.map_map, List.map_map]
  rfl

theorem told_deviceList (inventory : Inventory) :
    (Kubelet.deviceList inventory).map told = (entries inventory).flatMap Entry.slots := by
  unfold Kubelet.deviceList entries
  rw [List.map_flatMap, List.flatMap_map]
  apply List.flatMap_congr
  intro device _
  exact told_expand inventory.family.commonWord inventory.slotsPerDevice device

theorem length_deviceList (inventory : Inventory) :
    (Kubelet.deviceList inventory).length =
      inventory.snapshot.length * inventory.slotsPerDevice.toNat := by
  have each : ∀ device, (Kubelet.expand inventory.slotsPerDevice device).length =
      inventory.slotsPerDevice.toNat := by
    intro device
    simp [Kubelet.expand, Inventory.virtualIds]
  unfold Kubelet.deviceList
  rw [List.length_flatMap, List.map_congr_left fun device _ => each device]
  simp

/-- The registration and the kubelet's list are two views of one snapshot. -/
theorem views_agree (inventory : Inventory) (handshake : String) :
    ∃ text read,
      (nodeAnnotations inventory handshake).find?
        (Cluster.nodeRegister inventory.family.commonWord) = some text ∧
      decode? text = some read ∧
      List.Forall₂ (Entry.Describes inventory) inventory.snapshot read ∧
      (Kubelet.deviceList inventory).map told = read.flatMap Entry.slots ∧
      (Kubelet.deviceList inventory).length =
        inventory.snapshot.length * inventory.slotsPerDevice.toNat := by
  exact ⟨_, _, find?_nodeRegister inventory handshake, decode?_encode _,
    describes_entries inventory, told_deviceList inventory, length_deviceList inventory⟩

end Registration
end VirtualNpu
