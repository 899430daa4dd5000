import Mathlib.Data.List.Nodup
import VirtualNpu.Kubelet.Device
import VirtualNpu.Proofs.Decimals

/-!
The ids under which devices are published.  An id ends in the number of its slot, and a number has
no hyphen, so the last hyphen of an id divides it into the uuid of its device and that number,
whatever the uuid looks like.
-/

namespace VirtualNpu

namespace Text

def splitAtLast? (mark : Char) (text : String) : Option (String × String) :=
  let letters := text.toList.reverse
  match letters.dropWhile (· ≠ mark) with
  | [] => none
  | _ :: front =>
      some (String.ofList front.reverse, String.ofList (letters.takeWhile (· ≠ mark)).reverse)

theorem splitAtLast?_eq_some_iff (mark : Char) (text front behind : String) :
    splitAtLast? mark text = some (front, behind) ↔
      text.toList = front.toList ++ mark :: behind.toList ∧ mark ∉ behind.toList := by
  constructor
  · intro split
    have parts := List.takeWhile_append_dropWhile (p := (· ≠ mark)) (l := text.toList.reverse)
    have apart := List.all_takeWhile (p := (· ≠ mark)) (l := text.toList.reverse)
    have head := List.head?_dropWhile_not (· ≠ mark) text.toList.reverse
    unfold splitAtLast? at split
    dsimp only at split
    generalize text.toList.reverse.takeWhile (· ≠ mark) = taken at *
    cases dropped : text.toList.reverse.dropWhile (· ≠ mark) with
    | nil =>
        rw [dropped] at split
        cases split
    | cons first rest =>
        rw [dropped] at split parts head
        obtain ⟨rfl, rfl⟩ := Prod.mk.inj (Option.some.inj split)
        have here : first = mark := by simpa using head
        have letters := congrArg List.reverse parts
        rw [List.reverse_reverse, here] at letters
        refine ⟨?_, ?_⟩
        · rw [← letters]
          simp
        · intro member
          rw [String.toList_ofList, List.mem_reverse] at member
          exact of_decide_eq_true (List.all_eq_true.mp apart mark member) rfl
  · rintro ⟨letters, absent⟩
    have backwards : text.toList.reverse =
        behind.toList.reverse ++ mark :: front.toList.reverse := by
      rw [letters]
      simp
    have apart : ∀ letter ∈ behind.toList.reverse, decide (letter ≠ mark) = true := by
      intro letter member
      refine decide_eq_true fun same => absent ?_
      rw [← same]
      exact List.mem_reverse.mp member
    unfold splitAtLast?
    dsimp only
    rw [backwards, List.dropWhile_append_of_pos apart, List.takeWhile_append_of_pos apart]
    simp

theorem natural?_toString (n : Nat) : natural? 10 (toString n).toList = some n := by
  rw [Nat.toString_eq_repr, Nat.toList_repr]
  exact natural?_toDigits n

theorem hyphen_not_mem_toString (n : Nat) : '-' ∉ (toString n).toList := by
  rw [Nat.toString_eq_repr, Nat.toList_repr]
  intro member
  have digit := isDigit_of_mem_toDigits n '-' member
  revert digit
  decide

end Text

namespace Inventory

open Text (splitAtLast?)

/-! ### One id -/

theorem splitAtLast?_virtualId (uuid : String) (slot : Nat) :
    splitAtLast? '-' (uuid ++ "-" ++ toString slot) = some (uuid, toString slot) := by
  refine (Text.splitAtLast?_eq_some_iff _ _ _ _).mpr ⟨?_, Text.hyphen_not_mem_toString slot⟩
  simp [String.toList_append]

theorem virtualId_inj {uuid other : String} {slot another : Nat}
    (same : uuid ++ "-" ++ toString slot = other ++ "-" ++ toString another) :
    uuid = other ∧ slot = another := by
  have parts := congrArg (splitAtLast? '-') same
  rw [splitAtLast?_virtualId, splitAtLast?_virtualId] at parts
  obtain ⟨uuids, numerals⟩ := Prod.mk.inj (Option.some.inj parts)
  have numbers := congrArg (fun numeral => Text.natural? 10 numeral.toList) numerals
  simp only [Text.natural?_toString, Option.some.injEq] at numbers
  exact ⟨uuids, numbers⟩

/-! ### The ids of devices -/

theorem nodup_virtualIds (uuid : String) (count : UInt32) : (virtualIds uuid count).Nodup :=
  List.nodup_range.map fun _ _ same => (virtualId_inj same).2

/-- The ids of two devices have nothing in common, unless it is one device or there are none. -/
theorem disjoint_virtualIds_iff (uuid other : String) (count : UInt32) :
    (virtualIds uuid count).Disjoint (virtualIds other count) ↔ count = 0 ∨ uuid ≠ other := by
  constructor
  · intro apart
    by_contra both
    obtain ⟨slots, rfl⟩ := not_or.mp both |>.imp_right not_not.mp
    have first : 0 ∈ List.range count.toNat := by
      rw [List.mem_range, Nat.pos_iff_ne_zero]
      exact fun none => slots (UInt32.toNat_inj.mp none)
    exact apart (List.mem_map_of_mem first) (List.mem_map_of_mem first)
  · rintro (rfl | differ) id here there
    · cases here
    · obtain ⟨slot, _, rfl⟩ := List.mem_map.mp here
      obtain ⟨another, _, same⟩ := List.mem_map.mp there
      exact differ (virtualId_inj same).1.symm

theorem nodup_flatMap_virtualIds_iff (uuids : List String) (count : UInt32) :
    (uuids.flatMap fun uuid => virtualIds uuid count).Nodup ↔ count = 0 ∨ uuids.Nodup := by
  simp only [List.nodup_flatMap, nodup_virtualIds, implies_true, true_and]
  by_cases none : count = 0
  · simp only [none, true_or, iff_true]
    exact List.pairwise_of_forall fun uuid other =>
      (disjoint_virtualIds_iff uuid other 0).mpr (Or.inl rfl)
  · rw [or_iff_right none]
    exact List.Pairwise.iff fun uuid other =>
      (disjoint_virtualIds_iff uuid other count).trans (or_iff_right none)

end Inventory

namespace Kubelet

def published (slots : UInt32) (snapshot : Inventory.Snapshot) : List Device :=
  snapshot.flatMap (expand slots)

theorem id_published (slots : UInt32) (snapshot : Inventory.Snapshot) :
    (published slots snapshot).map Device.id =
      snapshot.flatMap fun device => Inventory.virtualIds device.uuid slots := by
  rw [published, List.map_flatMap]
  apply List.flatMap_congr
  intro device _
  rw [expand, List.map_map]
  exact List.map_id _

/-- What stands in front of the last hyphen of a published id is the uuid of its device, and behind
it stands the number of its slot in decimal.  So the ids are distinct exactly when the uuids are, or
when there are none. -/
theorem published_ids_name_devices (slots : UInt32) (snapshot : Inventory.Snapshot) :
    (published slots snapshot).map (fun device => Text.splitAtLast? '-' device.id) =
      (snapshot.flatMap fun device =>
        (List.range slots.toNat).map fun slot => some (device.uuid, toString slot)) ∧
    (∀ slot, Text.natural? 10 (toString slot).toList = some slot) ∧
    (((published slots snapshot).map Device.id).Nodup ↔
      slots = 0 ∨ (snapshot.map Inventory.PhysicalDevice.uuid).Nodup) ∧
    ∀ family, deviceList ⟨family, snapshot⟩ = published family.virtualSlots snapshot := by
  refine ⟨?_, Text.natural?_toString, ?_, fun family => rfl⟩
  · have ids := congrArg (List.map (Text.splitAtLast? '-')) (id_published slots snapshot)
    rw [List.map_map, List.map_flatMap] at ids
    refine ids.trans (List.flatMap_congr fun device _ => ?_)
    rw [Inventory.virtualIds, List.map_map]
    exact List.map_congr_left fun slot _ => Inventory.splitAtLast?_virtualId device.uuid slot
  · rw [id_published, ← Inventory.nodup_flatMap_virtualIds_iff, List.flatMap_map]

end Kubelet
end VirtualNpu
