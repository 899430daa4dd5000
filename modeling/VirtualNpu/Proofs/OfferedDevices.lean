import VirtualNpu.Proofs.RegistrationView
import VirtualNpu.Proofs.SlotCounts

/-!
Which devices are offered at all.  A chip of a configured family has a slot exactly if it can hold
one of its templates or there are none.  A family whose templates are all too large is taken as any
other is: its devices are then registered with no slots, and the kubelet is told of none.
-/

namespace VirtualNpu
namespace Config

/-- Whether a chip of the family can be granted: there are no templates, or it holds one of them. -/
def ChipFamily.HoldsTemplate (family : ChipFamily) : Prop :=
  family.templates = [] ∨
    ∃ template ∈ family.templates, template.memory ≤ family.memoryAllocatable

theorem one_le_virtualDeviceLimit (family : ChipFamily) : 1 ≤ family.virtualDeviceLimit.toNat := by
  rw [ChipFamily.virtualDeviceLimit, UInt32.toNat_max]
  exact Nat.le_max_right _ _

theorem DividesBy.one_le_iff {given family : ChipFamily} {unit : Nat}
    (divides : DividesBy given family unit) :
    1 ≤ family.virtualSlots ↔
      ∃ template ∈ given.templates, template.memory ≤ given.memoryAllocatable := by
  have held : 1 ≤ given.memoryAllocatable.toNat / unit ↔ unit ≤ given.memoryAllocatable.toNat := by
    rw [Nat.le_div_iff_mul_le divides.positive, Nat.one_mul]
  rw [UInt32.le_iff_toNat_le, divides.counted, UInt32.toNat_one, Nat.le_min,
    and_iff_left (one_le_virtualDeviceLimit given), held]
  constructor
  · intro fits
    obtain ⟨template, listed, rfl⟩ := divides.least.1
    exact ⟨template, listed, UInt64.le_iff_toNat_le.mpr fits⟩
  · rintro ⟨template, listed, fits⟩
    exact Nat.le_trans (divides.least.2 ⟨template, listed, rfl⟩) (UInt64.le_iff_toNat_le.mp fits)

theorem DeviceConfig.IsSettled.one_le_virtualSlots_iff {config : DeviceConfig}
    (settled : config.IsSettled) {family : ChipFamily} (member : family ∈ config.families) :
    1 ≤ family.virtualSlots ↔ family.HoldsTemplate := by
  have sorted := settled.sorted family member
  by_cases none : family.templates = []
  · have whole := virtualSlots_sorted_whole none
    rw [sorted] at whole
    rw [whole]
    exact ⟨fun _ => Or.inl none, fun _ => UInt32.le_refl 1⟩
  · obtain ⟨unit, divides⟩ := dividesBy_sorted (settled.proper.sound family member) none
    rw [sorted] at divides
    rw [divides.one_le_iff, ChipFamily.HoldsTemplate, or_iff_right none]

end Config

namespace Kubelet

def firstSlot (device : Inventory.PhysicalDevice) : Device :=
  ⟨device.uuid ++ "-" ++ toString 0, device.healthy, numaNode? device.numa⟩

theorem firstSlot_mem_deviceList {inventory : Inventory} (slots : 1 ≤ inventory.slotsPerDevice)
    {device : Inventory.PhysicalDevice} (member : device ∈ inventory.snapshot) :
    firstSlot device ∈ deviceList inventory := by
  have first : 0 ∈ List.range inventory.slotsPerDevice.toNat :=
    List.mem_range.mpr (UInt32.le_iff_toNat_le.mp slots)
  refine List.mem_flatMap.mpr ⟨device, member, ?_⟩
  exact List.mem_map_of_mem (List.mem_map_of_mem first)

theorem deviceList_eq_nil {inventory : Inventory} (none : inventory.slotsPerDevice = 0) :
    deviceList inventory = [] := by
  have length := Registration.length_deviceList inventory
  rw [none, UInt32.toNat_zero, Nat.mul_zero] at length
  exact List.length_eq_zero_iff.mp length

end Kubelet

namespace Registration

open Config (ChipFamily DeviceConfig mixedFamily)

theorem count_of_mem_entries {inventory : Inventory} {entry : Entry}
    (member : entry ∈ entries inventory) : entry.count = inventory.slotsPerDevice := by
  obtain ⟨device, -, rfl⟩ := List.mem_map.mp member
  rfl

/-- The devices of a configured family are offered exactly if a chip of the family can be granted:
the kubelet is then told of each of them and each is registered with its slots.  Otherwise the
kubelet is told of none, and they are registered without slots. -/
theorem devices_offered_iff {text origin : String} {config : DeviceConfig}
    (taken : DeviceConfig.parse text origin = .ok config) {family : ChipFamily}
    (member : family ∈ config.families) :
    (1 ≤ family.virtualSlots ↔ family.HoldsTemplate) ∧
      ∀ (snapshot : Inventory.Snapshot) (handshake : String), ∃ annotation registered,
        (nodeAnnotations ⟨family, snapshot⟩ handshake).find?
          (Cluster.nodeRegister family.commonWord) = some annotation ∧
        decode? annotation = some registered ∧
        List.Forall₂ (Entry.Describes ⟨family, snapshot⟩) snapshot registered ∧
        (family.HoldsTemplate →
          (∀ device ∈ snapshot,
            Kubelet.firstSlot device ∈ Kubelet.deviceList ⟨family, snapshot⟩) ∧
          ∀ entry ∈ registered, entry.count ≠ 0) ∧
        (¬ family.HoldsTemplate →
          Kubelet.deviceList ⟨family, snapshot⟩ = [] ∧ ∀ entry ∈ registered, entry.count = 0) := by
  have offers := (Config.isSettled_of_parse taken).one_le_virtualSlots_iff member
  refine ⟨offers, fun snapshot handshake => ?_⟩
  have count : ∀ entry ∈ entries ⟨family, snapshot⟩, entry.count = family.virtualSlots :=
    fun entry listed => count_of_mem_entries listed
  refine ⟨_, _, find?_nodeRegister ⟨family, snapshot⟩ handshake, decode?_encode _,
    describes_entries ⟨family, snapshot⟩, fun holds => ?_, fun lacks => ?_⟩
  · have some : 1 ≤ Inventory.slotsPerDevice ⟨family, snapshot⟩ := offers.mpr holds
    refine ⟨fun device present => Kubelet.firstSlot_mem_deviceList some present, ?_⟩
    intro entry listed zero
    have none : Inventory.slotsPerDevice ⟨family, snapshot⟩ = 0 :=
      (count entry listed).symm.trans zero
    rw [none] at some
    exact absurd some (by decide)
  · have few : family.virtualSlots.toNat < 1 :=
      Nat.lt_of_not_le fun some => lacks (offers.mp (UInt32.le_iff_toNat_le.mpr some))
    have none : family.virtualSlots = 0 := UInt32.toNat_inj.mp (Nat.lt_one_iff.mp few)
    exact ⟨Kubelet.deviceList_eq_nil none, fun entry listed => (count entry listed).trans none⟩

def loneDevice : Inventory.PhysicalDevice := ⟨"npu-0", 0, 0, 0, 0, 1, 1, 0, true⟩

/-- A family whose only template is larger than a chip. -/
def oversizedFamily : ChipFamily := ⟨"b", "B", "x/b", 1, 0, 1, none, [⟨"large", 2, 0⟩]⟩

theorem isSound_oversizedFamily : oversizedFamily.IsSound :=
  ⟨by decide, by decide, by decide, by decide⟩

theorem sorted_oversizedFamily : oversizedFamily.sorted = oversizedFamily := by
  simp [ChipFamily.sorted, oversizedFamily]

theorem one_family_of_two_offered :
    let config := DeviceConfig.mk [mixedFamily.sorted, oversizedFamily]
    DeviceConfig.parse (DeviceConfig.mk [mixedFamily, oversizedFamily]).render "two.yaml" =
        .ok config ∧
      mixedFamily.sorted.HoldsTemplate ∧
      Kubelet.firstSlot loneDevice ∈ Kubelet.deviceList ⟨mixedFamily.sorted, [loneDevice]⟩ ∧
      ¬ oversizedFamily.HoldsTemplate ∧
      Kubelet.deviceList ⟨oversizedFamily, [loneDevice]⟩ = [] := by
  intro config
  have proper : Config.AreProper ([mixedFamily] ++ [oversizedFamily]) :=
    (Config.areProper_concat_iff _ _).mpr
      ⟨Config.areProper_mixedFamily, by decide, isSound_oversizedFamily⟩
  have taken : DeviceConfig.parse (DeviceConfig.mk [mixedFamily, oversizedFamily]).render
      "two.yaml" = .ok config := by
    rw [Config.parse_decoded (Config.readDocument?_render (List.cons_ne_nil _ _)),
      Config.ofFamilies_eq_ok_iff]
    refine ⟨⟨List.cons_ne_nil _ _, proper⟩, ?_⟩
    rw [List.map_cons, List.map_singleton, sorted_oversizedFamily]
  have small : (⟨"small", 2, 0⟩ : Config.CapacityTemplate) ∈ mixedFamily.sorted.templates :=
    (Config.templates_sorted mixedFamily).same.mem_iff.mpr (by decide)
  have holds : mixedFamily.sorted.HoldsTemplate := Or.inr ⟨_, small, by decide⟩
  have lacks : ¬ oversizedFamily.HoldsTemplate := by
    rintro (none | ⟨template, listed, fits⟩)
    · cases none
    · rw [List.mem_singleton.mp listed] at fits
      exact absurd fits (by decide)
  obtain ⟨-, mixed⟩ := devices_offered_iff taken List.mem_cons_self
  obtain ⟨-, oversized⟩ := devices_offered_iff taken (List.mem_cons_of_mem _ List.mem_cons_self)
  obtain ⟨_, _, _, _, _, offered, -⟩ := mixed [loneDevice] "Reported"
  obtain ⟨_, _, _, _, _, -, unoffered⟩ := oversized [loneDevice] "Reported"
  exact ⟨taken, holds, (offered holds).1 loneDevice List.mem_cons_self, lacks,
    (unoffered lacks).1⟩

def oversizedText : String :=
  "vnpus:\n- chipName: b\n  commonWord: B\n  resourceName: x/b\n  memoryAllocatable: 1\n"
    ++ "  memoryCapacity: 0\n  aiCore: 1\n  maxVirtualDevices: null\n"
    ++ "  templates:\n  - name: large\n    memory: 2\n    aiCore: 0\n"

theorem parse_oversizedText :
    DeviceConfig.parse oversizedText "large.yaml" = .ok ⟨[oversizedFamily]⟩ := by
  have written : (DeviceConfig.mk [oversizedFamily]).render = oversizedText := by decide +kernel
  rw [← written]
  exact (Config.isSettled_single isSound_oversizedFamily sorted_oversizedFamily).parse_render _

/-- A config is taken although a chip of its family holds none of its templates: the chip is healthy
and in the snapshot, and nobody is told of it. -/
theorem oversized_template_offers_nothing :
    DeviceConfig.parse oversizedText "large.yaml" = .ok ⟨[oversizedFamily]⟩ ∧
      oversizedFamily.virtualSlots = 0 ∧
      loneDevice.healthy = true ∧
      Kubelet.deviceList ⟨oversizedFamily, [loneDevice]⟩ = [] ∧
      (entries ⟨oversizedFamily, [loneDevice]⟩).map Entry.count = [0] :=
  ⟨parse_oversizedText, by decide, rfl, by decide, by decide⟩

end Registration
end VirtualNpu
