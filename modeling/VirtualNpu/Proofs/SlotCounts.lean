import Mathlib.Order.Bounds.Basic
import VirtualNpu.Proofs.ConfigRules

/-!
How many slots a chip offers.  A config puts the smallest template of a family first and takes none
without memory, so chips are divided by the smallest template: they offer as many of it as their
memory holds and the limit allows, in whatever order the templates were given.
-/

namespace VirtualNpu
namespace Config

/-! ### Division by one size -/

/-- Nothing is lost on the way to 32 bits: a count that does not fit is above the limit as well. -/
theorem toNat_virtualSlots {smallest : CapacityTemplate} (sized : smallest.memory ≠ 0)
    (memory : UInt64) (rest : List CapacityTemplate) (limit : UInt32) :
    (virtualSlots memory (smallest :: rest) limit).toNat =
      min (memory.toNat / smallest.memory.toNat) limit.toNat := by
  rw [virtualSlots, if_neg sized]
  dsimp only
  rw [UInt64.toNat_div]
  split
  · rename_i fits
    rw [UInt32.toNat_min, UInt32.toNat_ofNat_of_lt' fits]
  · rename_i exceeds
    have above := Nat.le_trans (Nat.le_of_lt limit.toNat_lt) (Nat.le_of_not_lt exceeds)
    rw [Nat.min_eq_right above]

theorem isGreatest_min_div {unit : Nat} (positive : 0 < unit) (memory limit : Nat) :
    IsGreatest {count | count ≤ limit ∧ count * unit ≤ memory} (min (memory / unit) limit) := by
  constructor
  · exact ⟨Nat.min_le_right _ _,
      (Nat.le_div_iff_mul_le positive).mp (Nat.min_le_left _ _)⟩
  · rintro count ⟨allowed, held⟩
    exact Nat.le_min.mpr ⟨(Nat.le_div_iff_mul_le positive).mpr held, allowed⟩

/-! ### Families of a config -/

def ChipFamily.templateSizes (family : ChipFamily) : Set Nat :=
  {size | ∃ template ∈ family.templates, template.memory.toNat = size}

/-- The numbers of slots of one size for which a chip of the family has room. -/
def ChipFamily.slotCounts (family : ChipFamily) (unit : Nat) : Set Nat :=
  {count | count ≤ family.virtualDeviceLimit.toNat ∧
    count * unit ≤ family.memoryAllocatable.toNat}

/-- How slots are counted for the family `given` when a config holds it as `family`: the template in
front is the smallest and divides the memory, and the limit cuts the quotient. -/
structure DividesBy (given family : ChipFamily) (unit : Nat) : Prop where
  least : IsLeast given.templateSizes unit
  front : ∃ smallest rest, family.templates = smallest :: rest ∧ smallest.memory.toNat = unit
  positive : 0 < unit
  counted : family.virtualSlots.toNat =
    min (given.memoryAllocatable.toNat / unit) given.virtualDeviceLimit.toNat
  most : IsGreatest (given.slotCounts unit) family.virtualSlots.toNat

theorem dividesBy_sorted {given : ChipFamily} (sound : given.IsSound)
    (some : given.templates ≠ []) : ∃ unit, DividesBy given given.sorted unit := by
  have order := templates_sorted given
  cases listed : given.sorted.templates with
  | nil => exact absurd (List.nil_perm.mp (listed ▸ order.same)) some
  | cons smallest rest =>
      have inside : smallest ∈ given.templates :=
        order.same.mem_iff.mp (listed ▸ List.mem_cons_self)
      have sized := sound.templates smallest inside
      have positive : 0 < smallest.memory.toNat :=
        Nat.pos_of_ne_zero fun zero => sized (UInt64.toNat_inj.mp zero)
      have counted : given.sorted.virtualSlots.toNat =
          min (given.memoryAllocatable.toNat / smallest.memory.toNat)
            given.virtualDeviceLimit.toNat := by
        rw [ChipFamily.virtualSlots, listed]
        exact toNat_virtualSlots sized _ rest _
      refine ⟨smallest.memory.toNat, ⟨⟨smallest, inside, rfl⟩, ?_⟩, ⟨smallest, rest, listed, rfl⟩,
        positive, counted, counted ▸ isGreatest_min_div positive _ _⟩
      rintro size ⟨template, member, rfl⟩
      have behind := order.same.mem_iff.mpr member
      rw [listed] at behind
      rcases List.mem_cons.mp behind with rfl | later
      · exact Nat.le_refl _
      · exact (List.pairwise_cons.mp (listed ▸ order.ascending)).1 template later

theorem virtualSlots_sorted_whole {given : ChipFamily} (none : given.templates = []) :
    given.sorted.virtualSlots = 1 := by
  have empty : given.sorted.templates = [] := List.perm_nil.mp (none ▸ (templates_sorted given).same)
  rw [ChipFamily.virtualSlots, empty, virtualSlots]

/-! ### Templates in another order -/

structure ChipFamily.Reorders (given family : ChipFamily) : Prop where
  others : family = { given with templates := family.templates }
  templates : family.templates.Perm given.templates

theorem ChipFamily.Reorders.sound {given family : ChipFamily} (reorders : given.Reorders family)
    (sound : given.IsSound) : family.IsSound := by
  rw [reorders.others]
  exact ⟨sound.commonWord, sound.resourceName, sound.memory, fun template inside =>
    sound.templates template (reorders.templates.mem_iff.mp inside)⟩

theorem ChipFamily.Reorders.templateSizes {given family : ChipFamily}
    (reorders : given.Reorders family) : family.templateSizes = given.templateSizes := by
  ext size
  exact exists_congr fun template => and_congr_left fun _ => reorders.templates.mem_iff

theorem ChipFamily.Reorders.slotCounts {given family : ChipFamily}
    (reorders : given.Reorders family) (unit : Nat) :
    family.slotCounts unit = given.slotCounts unit := by
  rw [reorders.others]
  rfl

theorem ChipFamily.Reorders.virtualSlots {given family : ChipFamily}
    (reorders : given.Reorders family) (sound : given.IsSound) :
    family.sorted.virtualSlots = given.sorted.virtualSlots := by
  by_cases none : given.templates = []
  · have none' : family.templates = [] := List.perm_nil.mp (none ▸ reorders.templates)
    rw [virtualSlots_sorted_whole none, virtualSlots_sorted_whole none']
  · have some : family.templates ≠ [] :=
      fun empty => none (List.nil_perm.mp (empty ▸ reorders.templates))
    obtain ⟨unit, divides⟩ := dividesBy_sorted sound none
    obtain ⟨unit', divides'⟩ := dividesBy_sorted (reorders.sound sound) some
    have least := divides'.least
    have most := divides'.most
    rw [reorders.templateSizes] at least
    rw [reorders.slotCounts, least.unique divides.least] at most
    exact UInt32.toNat_inj.mp (most.unique divides.most)

section
variable {given families : List ChipFamily}
  (reordered : List.Forall₂ ChipFamily.Reorders given families)
include reordered

theorem chipNames_reordered :
    families.map ChipFamily.chipName = given.map ChipFamily.chipName := by
  induction reordered with
  | nil => rfl
  | cons reorders _ ih =>
      rw [List.map_cons, List.map_cons, ih, reorders.others]

theorem areProper_reordered (proper : AreProper given) : AreProper families := by
  obtain ⟨distinct, sound⟩ := proper
  refine ⟨chipNames_reordered reordered ▸ distinct, ?_⟩
  clear distinct
  induction reordered with
  | nil => exact sound
  | cons reorders _ ih =>
      rw [List.forall_mem_cons] at sound ⊢
      exact ⟨reorders.sound sound.1, ih sound.2⟩

theorem virtualSlots_reordered (sound : ∀ family ∈ given, family.IsSound) :
    (families.map ChipFamily.sorted).map ChipFamily.virtualSlots =
      (given.map ChipFamily.sorted).map ChipFamily.virtualSlots := by
  induction reordered with
  | nil => rfl
  | cons reorders _ ih =>
      rw [List.forall_mem_cons] at sound
      simp only [List.map_cons, ih sound.2, reorders.virtualSlots sound.1]

end

/-- For every family of a document that is taken, a chip is offered whole if there are no templates,
and divided by the smallest of them otherwise.  A document that lists the templates in another order
is taken as well, and its chips offer the same slots. -/
theorem slots_fill_chip {text origin : String} {families : List ChipFamily} {config : DeviceConfig}
    (decoded : Yaml.readDocument? text readFamilies = some families)
    (taken : DeviceConfig.parse text origin = .ok config) :
    List.Forall₂ (fun given family =>
        (given.templates = [] → family.virtualSlots = 1) ∧
        (given.templates ≠ [] → ∃ unit, DividesBy given family unit)) families config.families ∧
      ∀ text' origin' families',
        Yaml.readDocument? text' readFamilies = some families' →
        List.Forall₂ ChipFamily.Reorders families families' →
        ∃ config', DeviceConfig.parse text' origin' = .ok config' ∧
          config'.families.map ChipFamily.virtualSlots =
            config.families.map ChipFamily.virtualSlots := by
  rw [parse_decoded decoded, ofFamilies_eq_ok_iff] at taken
  obtain ⟨⟨filled, proper⟩, same⟩ := taken
  constructor
  · rw [same, List.forall₂_map_right_iff]
    exact List.forall₂_same.mpr fun family inside =>
      ⟨virtualSlots_sorted_whole, dividesBy_sorted (proper.sound family inside)⟩
  · intro text' origin' families' decoded' reordered
    have filled' : families' ≠ [] := by
      rintro rfl
      exact filled (List.forall₂_nil_right_iff.mp reordered)
    refine ⟨⟨families'.map ChipFamily.sorted⟩, ?_, ?_⟩
    · rw [parse_decoded decoded', ofFamilies_eq_ok_iff]
      exact ⟨⟨filled', areProper_reordered reordered proper⟩, rfl⟩
    · rw [same]
      exact virtualSlots_reordered reordered proper.sound

theorem least_mixedFamily : IsLeast mixedFamily.templateSizes 2 := by
  refine ⟨⟨⟨"small", 2, 0⟩, by decide, rfl⟩, ?_⟩
  rintro size ⟨template, listed, rfl⟩
  simp only [mixedFamily, List.mem_cons, List.not_mem_nil, or_false] at listed
  rcases listed with rfl | rfl | rfl <;> decide

def turnedFamily : ChipFamily :=
  { mixedFamily with templates := mixedFamily.templates.reverse }

/-- The smallest of three templates goes four times into the memory, whichever comes first. -/
theorem four_slots_in_any_order :
    ∃ config turned,
      DeviceConfig.parse (DeviceConfig.mk [mixedFamily]).render "one.yaml" = .ok config ∧
      DeviceConfig.parse (DeviceConfig.mk [turnedFamily]).render "turned.yaml" = .ok turned ∧
      config.families.map ChipFamily.virtualSlots = [4] ∧
      turned.families.map ChipFamily.virtualSlots = [4] := by
  have decoded := readDocument?_render (List.cons_ne_nil mixedFamily [])
  have taken : DeviceConfig.parse (DeviceConfig.mk [mixedFamily]).render "one.yaml" =
      .ok ⟨[mixedFamily.sorted]⟩ := by
    rw [parse_decoded decoded, ofFamilies_eq_ok_iff]
    exact ⟨⟨List.cons_ne_nil _ _, areProper_mixedFamily⟩, rfl⟩
  obtain ⟨filled, reordered⟩ := slots_fill_chip decoded taken
  have reorders : mixedFamily.Reorders turnedFamily := ⟨rfl, List.reverse_perm _⟩
  obtain ⟨turned, taken', same⟩ := reordered _ "turned.yaml" _
    (readDocument?_render (List.cons_ne_nil turnedFamily [])) (.cons reorders .nil)
  obtain ⟨⟨-, divided⟩, -⟩ := List.forall₂_cons.mp filled
  obtain ⟨unit, divides⟩ := divided (List.cons_ne_nil _ _)
  have counted := divides.counted
  rw [divides.least.unique least_mixedFamily] at counted
  have four : mixedFamily.sorted.virtualSlots = 4 := UInt32.toNat_inj.mp (counted.trans rfl)
  refine ⟨_, turned, taken, taken', ?_, ?_⟩
  · rw [List.map_singleton, four]
  · rw [same, List.map_singleton, four]

end Config
end VirtualNpu
