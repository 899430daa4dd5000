import VirtualNpu.Proofs.AllocationAnswers

/-!
What a container is told of its grants: the physical indices of the granted devices that the node
has, grant by grant, and the first template of all grants.  The indices are read back from the text
that lists them.
-/

namespace VirtualNpu

namespace Inventory

def Snapshot.IsFirstWith (devices : Snapshot) (uuid : String) (device : PhysicalDevice) : Prop :=
  ∃ front behind, devices = front ++ device :: behind ∧ device.uuid = uuid ∧
    ∀ earlier ∈ front, earlier.uuid ≠ uuid

theorem lookup_eq_some_iff (devices : Snapshot) (uuid : String) (device : PhysicalDevice) :
    devices.lookup uuid = some device ↔ devices.IsFirstWith uuid device := by
  simp only [Snapshot.lookup, Snapshot.IsFirstWith, List.find?_eq_some_iff_append,
    decide_eq_true_eq, Bool.not_eq_true', decide_eq_false_iff_not]
  constructor
  · rintro ⟨same, front, behind, parts, others⟩
    exact ⟨front, behind, parts, same, others⟩
  · rintro ⟨front, behind, parts, same, others⟩
    exact ⟨same, front, behind, parts, others⟩

end Inventory

namespace Allocation

open Inventory (PhysicalDevice Snapshot)

/-! ### Devices -/

/-- The devices that grants stand for, in the order of the grants: the first with the uuid of each,
and none for a uuid that no device has. -/
inductive StandFor (devices : Snapshot) : List Grant → List PhysicalDevice → Prop
  | nil : StandFor devices [] []
  | known {grant : Grant} {device : PhysicalDevice} {grants : List Grant}
      {resolved : List PhysicalDevice} (first : devices.IsFirstWith grant.uuid device)
      (others : StandFor devices grants resolved) :
      StandFor devices (grant :: grants) (device :: resolved)
  | unknown {grant : Grant} {grants : List Grant} {resolved : List PhysicalDevice}
      (unknown : ¬ grant.IsKnown devices) (others : StandFor devices grants resolved) :
      StandFor devices (grant :: grants) resolved

section
variable {devices : Snapshot} {grant : Grant}

theorem resolve_cons_known {device : PhysicalDevice}
    (first : devices.IsFirstWith grant.uuid device) (grants : List Grant) :
    resolve (grant :: grants) devices = device :: resolve grants devices :=
  List.filterMap_cons_some ((Inventory.lookup_eq_some_iff _ _ _).mpr first)

theorem resolve_cons_unknown (unknown : ¬ grant.IsKnown devices) (grants : List Grant) :
    resolve (grant :: grants) devices = resolve grants devices :=
  List.filterMap_cons_none ((lookup_eq_none_iff _ _).mpr unknown)

end

theorem standFor_resolve (grants : List Grant) (devices : Snapshot) :
    StandFor devices grants (resolve grants devices) := by
  induction grants with
  | nil => exact .nil
  | cons grant grants ih =>
      cases found : devices.lookup grant.uuid with
      | none =>
          have unknown := (lookup_eq_none_iff devices grant).mp found
          rw [resolve_cons_unknown unknown]
          exact .unknown unknown ih
      | some device =>
          have first := (Inventory.lookup_eq_some_iff devices grant.uuid device).mp found
          rw [resolve_cons_known first]
          exact .known first ih

theorem StandFor.eq_resolve {devices : Snapshot} {grants : List Grant}
    {resolved : List PhysicalDevice} (standFor : StandFor devices grants resolved) :
    resolved = resolve grants devices := by
  induction standFor with
  | nil => rfl
  | known first _ ih => rw [resolve_cons_known first, ih]
  | unknown unknown _ ih => rw [resolve_cons_unknown unknown, ih]

/-! ### The text of the indices -/

/-- The numbers that a text lists between commas, if all between them are decimal numbers. -/
def listedNumbers? (text : String) : Option (List Nat) :=
  (text.toList.splitOn ',').mapM (Text.natural? 10)

theorem comma_not_mem_toDigits (n : Nat) : ',' ∉ Nat.toDigits 10 n := by
  intro member
  have digit := Text.isDigit_of_mem_toDigits n ',' member
  revert digit
  decide

theorem listedNumbers?_visibleIndices {devices : List PhysicalDevice} (nonempty : devices ≠ []) :
    listedNumbers? (visibleIndices devices) =
      some (devices.map fun device => device.physicalIndex.toNat) := by
  have pieces : (visibleIndices devices).toList.splitOn ',' =
      devices.map fun device => Nat.toDigits 10 device.physicalIndex.toNat := by
    have letters : (visibleIndices devices).toList =
        [','].intercalate
          (devices.map fun device => Nat.toDigits 10 device.physicalIndex.toNat) := by
      rw [visibleIndices, String.toList_intercalate, List.map_map]
      exact congrArg _ (List.map_congr_left fun device _ => Nat.toList_repr)
    rw [letters]
    refine List.splitOn_intercalate ',' ?_ (by simpa using nonempty)
    intro piece member
    obtain ⟨device, _, rfl⟩ := List.mem_map.mp member
    exact comma_not_mem_toDigits _
  rw [listedNumbers?, pieces, Json.mapM_eq_some_iff, List.forall₂_map_left_iff,
    List.forall₂_map_right_iff]
  exact List.forall₂_same.mpr fun device _ => Text.natural?_toDigits _

/-! ### The template -/

def IsFirstTemplate (grants : List Grant) (template : String) : Prop :=
  ∃ front grant behind, grants = front ++ grant :: behind ∧
    (∀ earlier ∈ front, earlier.template = "") ∧ grant.template = template ∧ template ≠ ""

theorem firstTemplate?_eq_some_iff (grants : List Grant) (template : String) :
    firstTemplate? grants = some template ↔ IsFirstTemplate grants template := by
  rw [firstTemplate?, List.find?_map, Option.map_eq_some_iff]
  simp only [List.find?_eq_some_iff_append, Function.comp_apply, decide_eq_true_eq,
    Bool.not_eq_true', decide_eq_false_iff_not, not_not]
  constructor
  · rintro ⟨grant, ⟨given, front, behind, parts, others⟩, rfl⟩
    exact ⟨front, grant, behind, parts, others, rfl, given⟩
  · rintro ⟨front, grant, behind, parts, others, rfl, given⟩
    exact ⟨grant, ⟨given, front, behind, parts, others⟩, rfl⟩

theorem firstTemplate?_isSome_iff (grants : List Grant) :
    (firstTemplate? grants).isSome = true ↔ ∃ grant ∈ grants, grant.template ≠ "" := by
  rw [firstTemplate?, List.find?_isSome]
  simp

/-! ### The variables -/

def environmentOf (resolved : List PhysicalDevice) (template : Option String) : Environment :=
  (visibleDevices, visibleIndices resolved) :: template.toList.map (Prod.mk virtualSpecs)

theorem toOption_containerEnvironment (grants : List Grant) (devices : Snapshot) :
    (containerEnvironment grants devices).toOption =
      if resolve grants devices = [] then none
      else some (environmentOf (resolve grants devices) (firstTemplate? grants)) := by
  unfold containerEnvironment
  cases resolve grants devices with
  | nil => rfl
  | cons device rest => cases firstTemplate? grants <;> rfl

theorem lookup_virtualSpecs (resolved : List PhysicalDevice) (template : Option String) :
    (environmentOf resolved template).lookup virtualSpecs = template := by
  cases template <;> rfl

structure Tells (devices : Snapshot) (grants : List Grant) (environment : Environment) :
    Prop where
  indices : ∃ resolved text, StandFor devices grants resolved ∧
    environment.lookup visibleDevices = some text ∧
    listedNumbers? text = some (resolved.map fun device => device.physicalIndex.toNat)
  specified : (environment.lookup virtualSpecs).isSome = true ↔
    ∃ grant ∈ grants, grant.template ≠ ""
  template : ∀ template, environment.lookup virtualSpecs = some template ↔
    IsFirstTemplate grants template
  nothingElse : ∀ entry ∈ environment, entry.1 = visibleDevices ∨ entry.1 = virtualSpecs
  once : (environment.map Prod.fst).Nodup

theorem tells_environmentOf {grants : List Grant} {devices : Snapshot}
    (known : resolve grants devices ≠ []) :
    Tells devices grants (environmentOf (resolve grants devices) (firstTemplate? grants)) where
  indices := ⟨_, _, standFor_resolve grants devices, List.lookup_cons_self,
    listedNumbers?_visibleIndices known⟩
  specified := by
    rw [lookup_virtualSpecs]
    exact firstTemplate?_isSome_iff grants
  template template := by
    rw [lookup_virtualSpecs]
    exact firstTemplate?_eq_some_iff grants template
  nothingElse := by
    intro entry member
    rcases List.mem_cons.mp member with rfl | specs
    · exact Or.inl rfl
    · obtain ⟨template, _, rfl⟩ := List.mem_map.mp specs
      exact Or.inr rfl
  once := by
    cases firstTemplate? grants with
    | none => exact List.pairwise_singleton _ _
    | some template =>
        change [visibleDevices, virtualSpecs].Nodup
        decide

/-! ### Grants that add nothing -/

/-- Grants with others put anywhere among them, of uuids that no device has and without a
template. -/
inductive AddsIdle (devices : Snapshot) : List Grant → List Grant → Prop
  | nil : AddsIdle devices [] []
  | keep (grant : Grant) {grants more : List Grant} (others : AddsIdle devices grants more) :
      AddsIdle devices (grant :: grants) (grant :: more)
  | add {idle : Grant} (unknown : ¬ idle.IsKnown devices) (whole : idle.template = "")
      {grants more : List Grant} (others : AddsIdle devices grants more) :
      AddsIdle devices grants (idle :: more)

theorem AddsIdle.resolve {devices : Snapshot} {grants more : List Grant}
    (adds : AddsIdle devices grants more) : resolve more devices = resolve grants devices := by
  induction adds with
  | nil => rfl
  | keep grant _ ih =>
      rw [Allocation.resolve, List.filterMap_cons, ← Allocation.resolve, ih]
      rfl
  | add unknown _ _ ih => rw [resolve_cons_unknown unknown, ih]

theorem AddsIdle.firstTemplate {devices : Snapshot} {grants more : List Grant}
    (adds : AddsIdle devices grants more) : firstTemplate? more = firstTemplate? grants := by
  induction adds with
  | nil => rfl
  | keep grant _ ih =>
      simp only [firstTemplate?, List.map_cons, List.find?_cons] at ih ⊢
      rw [ih]
  | add _ whole _ ih =>
      simp only [firstTemplate?, List.map_cons, List.find?_cons, whole] at ih ⊢
      exact ih

/-- An allocation without any device that the node has is refused.  Every other one gives a
container the physical indices of the granted devices, grant by grant, and the first template of
all grants, and nothing else; unknown grants without a template change nothing of it. -/
theorem environment_tells_grants (grants : List Grant) (devices : Snapshot) :
    (containerEnvironment grants devices = .error (.noDevices grants) ↔
      ∀ grant ∈ grants, ¬ grant.IsKnown devices) ∧
    ((∃ grant ∈ grants, grant.IsKnown devices) → ∃ environment,
      containerEnvironment grants devices = .ok environment ∧
        Tells devices grants environment) ∧
    (∀ uuid device, devices.lookup uuid = some device ↔ devices.IsFirstWith uuid device) ∧
    ∀ more, AddsIdle devices grants more →
      (containerEnvironment more devices).toOption =
        (containerEnvironment grants devices).toOption := by
  have told := toOption_containerEnvironment grants devices
  refine ⟨⟨?_, containerEnvironment_unknown⟩, ?_, Inventory.lookup_eq_some_iff devices, ?_⟩
  · intro refused
    rw [refused] at told
    by_contra some
    rw [← resolve_eq_nil_iff] at some
    rw [if_neg some] at told
    cases told
  · rintro ⟨grant, member, known⟩
    have resolved : resolve grants devices ≠ [] := fun none =>
      (resolve_eq_nil_iff grants devices).mp none grant member known
    obtain ⟨environment, given, _⟩ := containerEnvironment_known ⟨grant, member, known⟩
    rw [given, if_neg resolved] at told
    refine ⟨environment, given, ?_⟩
    rw [Option.some.inj told]
    exact tells_environmentOf resolved
  · intro more adds
    rw [told, toOption_containerEnvironment, adds.resolve, adds.firstTemplate]

private def chip (uuid : String) (physicalIndex : UInt32) : PhysicalDevice :=
  ⟨uuid, 0, physicalIndex, 0, 0, 32768, 20, -1, true⟩

/-- Two chips have one uuid; the grants repeat it, and one of a lost chip has the template. -/
theorem repeated_uuids_told :
    let devices := [chip "npu-1" 12, chip "npu-0" 3, chip "npu-1" 7]
    let grants : List Grant := [⟨"npu-1", ""⟩, ⟨"lost", "vir04"⟩, ⟨"npu-0", "vir02"⟩, ⟨"npu-1", ""⟩]
    ∃ environment text, containerEnvironment grants devices = .ok environment ∧
      environment.lookup visibleDevices = some text ∧ listedNumbers? text = some [12, 3, 12] ∧
      environment.lookup virtualSpecs = some "vir04" ∧
      (containerEnvironment (⟨"spare", ""⟩ :: grants) devices).toOption = some environment := by
  intro devices grants
  obtain ⟨_, given, first, idle⟩ := environment_tells_grants grants devices
  have known : (⟨"npu-0", "vir02"⟩ : Grant).IsKnown devices := ⟨chip "npu-0" 3, by decide, rfl⟩
  obtain ⟨environment, made, told⟩ := given ⟨_, by decide, known⟩
  obtain ⟨resolved, text, standFor, visible, listed⟩ := told.indices
  have adds : AddsIdle devices grants (⟨"spare", ""⟩ :: grants) :=
    .add (by simp [Grant.IsKnown, devices, chip]) rfl
      (.keep _ (.keep _ (.keep _ (.keep _ .nil))))
  refine ⟨environment, text, made, visible, ?_, ?_, ?_⟩
  · rw [listed, standFor.eq_resolve]
    rfl
  · exact (told.template "vir04").mpr ⟨[⟨"npu-1", ""⟩], _, _, rfl, by simp, rfl, by decide⟩
  · rw [idle _ adds, made]
    rfl

end Allocation
end VirtualNpu
