import Mathlib.Data.List.Nodup
import VirtualNpu.Proofs.ConfigDocuments
import VirtualNpu.Proofs.TemplateOrder

/-!
The rules of a device config.  Families are taken exactly if there are some, their chips are named
apart and each of them is sound; they are taken as they are, except that the templates of a family
are put in order.  Otherwise the first family that breaks a rule is named, with the first rule that
it breaks.
-/

namespace VirtualNpu
namespace Config

/-! ### One family -/

/-- What is asked of a family, whatever other families there are. -/
structure ChipFamily.IsSound (family : ChipFamily) : Prop where
  commonWord : family.commonWord ≠ ""
  resourceName : family.resourceName ≠ ""
  memory : family.memoryAllocatable ≠ 0
  templates : ∀ template ∈ family.templates, template.memory ≠ 0

inductive ChipFamily.BreaksFirst (family : ChipFamily) : Fault → Prop
  | words (empty : family.commonWord = "" ∨ family.resourceName = "") :
      family.BreaksFirst (.missingWords family.chipName)
  | memory (commonWord : family.commonWord ≠ "") (resourceName : family.resourceName ≠ "")
      (zero : family.memoryAllocatable = 0) : family.BreaksFirst (.zeroMemory family.chipName)
  | template {front back : List CapacityTemplate} {template : CapacityTemplate}
      (commonWord : family.commonWord ≠ "") (resourceName : family.resourceName ≠ "")
      (memory : family.memoryAllocatable ≠ 0)
      (listed : family.templates = front ++ template :: back)
      (sized : ∀ earlier ∈ front, earlier.memory ≠ 0) (zero : template.memory = 0) :
      family.BreaksFirst (.zeroTemplate template.name family.chipName)

theorem fault?_spec (family : ChipFamily) :
    match family.fault? with
    | none => family.IsSound
    | some fault => family.BreaksFirst fault := by
  unfold ChipFamily.fault?
  by_cases empty : family.commonWord = "" ∨ family.resourceName = ""
  · rw [if_pos empty]
    exact .words empty
  · obtain ⟨commonWord, resourceName⟩ := not_or.mp empty
    rw [if_neg empty]
    by_cases zero : family.memoryAllocatable = 0
    · rw [if_pos zero]
      exact .memory commonWord resourceName zero
    · rw [if_neg zero]
      cases found : family.templates.find? fun template => template.memory = 0 with
      | none =>
          rw [List.find?_eq_none] at found
          refine ⟨commonWord, resourceName, zero, fun template inside empty => ?_⟩
          exact found template inside (decide_eq_true empty)
      | some template =>
          obtain ⟨none, front, back, listed, sized⟩ := List.find?_eq_some_iff_append.mp found
          refine .template commonWord resourceName zero listed ?_ (of_decide_eq_true none)
          intro earlier inside
          simpa using sized earlier inside

theorem ChipFamily.BreaksFirst.not_sound {family : ChipFamily} {fault : Fault}
    (breaks : family.BreaksFirst fault) : ¬ family.IsSound := by
  intro sound
  cases breaks with
  | words empty => exact empty.elim sound.commonWord sound.resourceName
  | memory _ _ zero => exact sound.memory zero
  | template _ _ _ listed _ zero => exact sound.templates _ (by simp [listed]) zero

theorem ChipFamily.BreaksFirst.fault?_eq {family : ChipFamily} {fault : Fault}
    (breaks : family.BreaksFirst fault) : family.fault? = some fault := by
  unfold ChipFamily.fault?
  cases breaks with
  | words empty => rw [if_pos empty]
  | memory commonWord resourceName zero =>
      rw [if_neg (not_or.mpr ⟨commonWord, resourceName⟩), if_pos zero]
  | @template front back template commonWord resourceName memory listed sized zero =>
      have found : (family.templates.find? fun template => template.memory = 0) = some template :=
        List.find?_eq_some_iff_append.mpr ⟨decide_eq_true zero, front, back, listed,
          fun earlier inside => by simpa using sized earlier inside⟩
      rw [if_neg (not_or.mpr ⟨commonWord, resourceName⟩), if_neg memory, found]
      rfl

/-! ### Families one after the other -/

structure AreProper (families : List ChipFamily) : Prop where
  distinct : (families.map ChipFamily.chipName).Nodup
  sound : ∀ family ∈ families, family.IsSound

/-- The first rule that a family breaks behind others: its name is looked at before all else. -/
inductive FirstBroken (earlier : List ChipFamily) (family : ChipFamily) : Fault → Prop
  | name (taken : ∃ other ∈ earlier, other.chipName = family.chipName) :
      FirstBroken earlier family (.declaredTwice family.chipName)
  | own {fault : Fault} (fresh : ∀ other ∈ earlier, other.chipName ≠ family.chipName)
      (breaks : family.BreaksFirst fault) : FirstBroken earlier family fault

/-- What is reported of families that are not taken: the first one with a fault, and that fault. -/
inductive FirstFault (origin : String) : List ChipFamily → Fault → Prop
  | none : FirstFault origin [] (.noFamilies origin)
  | family {earlier later : List ChipFamily} {family : ChipFamily} {fault : Fault}
      (proper : AreProper earlier) (broken : FirstBroken earlier family fault) :
      FirstFault origin (earlier ++ family :: later) fault

theorem areProper_nil : AreProper [] :=
  ⟨List.nodup_nil, by simp⟩

theorem areProper_concat_iff (families : List ChipFamily) (family : ChipFamily) :
    AreProper (families ++ [family]) ↔
      AreProper families ∧ (∀ other ∈ families, other.chipName ≠ family.chipName) ∧
        family.IsSound := by
  constructor
  · rintro ⟨distinct, sound⟩
    rw [List.map_append, List.nodup_append] at distinct
    refine ⟨⟨distinct.1, fun other inside => sound other (by simp [inside])⟩, ?_,
      sound family (by simp)⟩
    intro other inside
    exact distinct.2.2 _ (List.mem_map_of_mem inside) _ (by simp)
  · rintro ⟨⟨distinct, sound⟩, fresh, own⟩
    refine ⟨?_, ?_⟩
    · rw [List.map_append, List.nodup_append]
      refine ⟨distinct, by simp, ?_⟩
      intro name inside other last
      obtain ⟨before, listed, rfl⟩ := List.mem_map.mp inside
      rw [List.map_singleton, List.mem_singleton] at last
      exact last ▸ fresh before listed
    · intro other inside
      rcases List.mem_append.mp inside with before | last
      · exact sound other before
      · exact List.mem_singleton.mp last ▸ own

theorem AreProper.of_append {earlier later : List ChipFamily}
    (proper : AreProper (earlier ++ later)) : AreProper earlier := by
  obtain ⟨distinct, sound⟩ := proper
  rw [List.map_append] at distinct
  exact ⟨distinct.of_append_left, fun family inside => sound family (by simp [inside])⟩

theorem FirstBroken.not_proper {earlier : List ChipFamily} {family : ChipFamily} {fault : Fault}
    (broken : FirstBroken earlier family fault) (later : List ChipFamily) :
    ¬ AreProper (earlier ++ family :: later) := by
  intro proper
  have front : AreProper (earlier ++ [family] ++ later) := by simpa using proper
  obtain ⟨-, fresh, sound⟩ := (areProper_concat_iff earlier family).mp front.of_append
  cases broken with
  | name taken =>
      obtain ⟨other, inside, same⟩ := taken
      exact fresh other inside same
  | own _ breaks => exact breaks.not_sound sound

theorem FirstBroken.unique {earlier : List ChipFamily} {family : ChipFamily} {first second : Fault}
    (one : FirstBroken earlier family first) (other : FirstBroken earlier family second) :
    first = second := by
  cases one with
  | name taken =>
      cases other with
      | name _ => rfl
      | own fresh _ =>
          obtain ⟨before, inside, same⟩ := taken
          exact absurd same (fresh before inside)
  | own fresh breaks =>
      cases other with
      | name taken =>
          obtain ⟨before, inside, same⟩ := taken
          exact absurd same (fresh before inside)
      | own _ breaks' => exact Option.some.inj (breaks.fault?_eq.symm.trans breaks'.fault?_eq)

theorem FirstBroken.length_le {earlier later front rest : List ChipFamily} {family : ChipFamily}
    {fault : Fault} (broken : FirstBroken earlier family fault)
    (same : earlier ++ family :: later = front ++ rest) (proper : AreProper front) :
    front.length ≤ earlier.length := by
  rcases List.append_eq_append_iff.mp same with ⟨behind, rfl, others⟩ | ⟨behind, rfl, -⟩
  · cases behind with
    | nil => exact Nat.le_of_eq (congrArg List.length (List.append_nil earlier))
    | cons head behind =>
        obtain ⟨rfl, -⟩ := List.cons.inj others
        exact absurd proper (broken.not_proper behind)
  · rw [List.length_append]
    exact Nat.le_add_right _ _

theorem FirstFault.unique {origin : String} {families : List ChipFamily} {one other : Fault}
    (first : FirstFault origin families one) (second : FirstFault origin families other) :
    one = other := by
  cases first with
  | none =>
      generalize listed : ([] : List ChipFamily) = families at second
      cases second with
      | none => rfl
      | family => simp at listed
  | @family earlier later family _ proper broken =>
      generalize listed : earlier ++ family :: later = families at second
      cases second with
      | none => simp at listed
      | @family earlier' later' family' _ proper' broken' =>
          have length := Nat.le_antisymm (broken'.length_le listed.symm proper)
            (broken.length_le listed proper')
          obtain ⟨rfl, behind⟩ := List.append_inj listed length
          obtain ⟨rfl, -⟩ := List.cons.inj behind
          exact broken.unique broken'

theorem FirstFault.not_taken {origin : String} {families : List ChipFamily} {fault : Fault}
    (first : FirstFault origin families fault) : ¬ (families ≠ [] ∧ AreProper families) := by
  rintro ⟨filled, proper⟩
  cases first with
  | none => exact filled rfl
  | family _ broken => exact broken.not_proper _ proper

theorem checkFamilies_spec {passed : List ChipFamily} {named : List String}
    (names : ∀ name, name ∈ named ↔ ∃ other ∈ passed, other.chipName = name)
    (proper : AreProper passed) (families : List ChipFamily) :
    match checkFamilies named families with
    | .ok checked => AreProper (passed ++ families) ∧ checked = families.map ChipFamily.sorted
    | .error fault => ∃ earlier family later, families = earlier ++ family :: later ∧
        AreProper (passed ++ earlier) ∧ FirstBroken (passed ++ earlier) family fault := by
  induction families generalizing passed named with
  | nil => exact ⟨by simpa using proper, rfl⟩
  | cons family rest ih =>
      rw [checkFamilies]
      by_cases taken : family.chipName ∈ named
      · rw [if_pos taken]
        refine ⟨[], family, rest, rfl, by simpa using proper, ?_⟩
        rw [List.append_nil]
        exact .name ((names _).mp taken)
      · rw [if_neg taken]
        have fresh : ∀ other ∈ passed, other.chipName ≠ family.chipName :=
          fun other inside same => taken ((names _).mpr ⟨other, inside, same⟩)
        have own := fault?_spec family
        cases found : family.fault? with
        | some fault =>
            rw [found] at own
            refine ⟨[], family, rest, rfl, by simpa using proper, ?_⟩
            rw [List.append_nil]
            exact .own fresh own
        | none =>
            rw [found] at own
            have names' : ∀ name, name ∈ family.chipName :: named ↔
                ∃ other ∈ passed ++ [family], other.chipName = name := by
              intro name
              rw [List.mem_cons, names]
              simp only [List.mem_append, List.mem_singleton, or_and_right, exists_or,
                exists_eq_left]
              rw [or_comm, eq_comm]
            have others := ih names' ((areProper_concat_iff passed family).mpr ⟨proper, fresh, own⟩)
            cases checked : checkFamilies (family.chipName :: named) rest with
            | ok checked' =>
                rw [checked, List.append_assoc, List.singleton_append] at others
                exact ⟨others.1, by rw [others.2, List.map_cons]⟩
            | error fault =>
                rw [checked] at others
                obtain ⟨earlier, offender, later, rfl, proper', broken⟩ := others
                rw [List.append_assoc, List.singleton_append] at proper' broken
                exact ⟨family :: earlier, offender, later, rfl, proper', broken⟩

/-- A config is made of families that keep the rules; otherwise their first fault is reported. -/
theorem ofFamilies_spec (origin : String) (families : List ChipFamily) :
    match DeviceConfig.ofFamilies origin families with
    | .ok config => (families ≠ [] ∧ AreProper families) ∧
        config.families = families.map ChipFamily.sorted
    | .error error => ∃ fault, error = .invalid fault ∧ FirstFault origin families fault := by
  cases families with
  | nil => exact ⟨_, rfl, .none⟩
  | cons first others =>
      have names : ∀ name, name ∈ ([] : List String) ↔
          ∃ other ∈ ([] : List ChipFamily), other.chipName = name := by simp
      have spec := checkFamilies_spec names areProper_nil (first :: others)
      rw [DeviceConfig.ofFamilies]
      · cases checked : checkFamilies [] (first :: others) with
        | ok families =>
            rw [checked] at spec
            exact ⟨⟨List.cons_ne_nil _ _, spec.1⟩, spec.2⟩
        | error fault =>
            rw [checked] at spec
            obtain ⟨earlier, family, later, listed, proper, broken⟩ := spec
            exact ⟨fault, rfl, listed ▸ .family proper broken⟩
      · exact List.cons_ne_nil _ _

theorem ofFamilies_eq_ok_iff (origin : String) (families : List ChipFamily)
    (config : DeviceConfig) :
    DeviceConfig.ofFamilies origin families = .ok config ↔
      (families ≠ [] ∧ AreProper families) ∧
        config.families = families.map ChipFamily.sorted := by
  have spec := ofFamilies_spec origin families
  constructor
  · intro made
    rwa [made] at spec
  · rintro ⟨taken, same⟩
    cases made : DeviceConfig.ofFamilies origin families with
    | ok other =>
        rw [made] at spec
        exact congrArg Except.ok (congrArg DeviceConfig.mk (spec.2.trans same.symm))
    | error error =>
        rw [made] at spec
        obtain ⟨fault, -, first⟩ := spec
        exact absurd taken first.not_taken

theorem ofFamilies_eq_error_iff (origin : String) (families : List ChipFamily) (error : Error) :
    DeviceConfig.ofFamilies origin families = .error error ↔
      ∃ fault, error = .invalid fault ∧ FirstFault origin families fault := by
  have spec := ofFamilies_spec origin families
  constructor
  · intro made
    rwa [made] at spec
  · rintro ⟨fault, rfl, first⟩
    cases made : DeviceConfig.ofFamilies origin families with
    | ok config =>
        rw [made] at spec
        exact absurd spec.1 first.not_taken
    | error error =>
        rw [made] at spec
        obtain ⟨other, rfl, second⟩ := spec
        rw [first.unique second]

/-- What holds of every config, whatever it was made of: to put it in order again would change
nothing. -/
structure DeviceConfig.IsSettled (config : DeviceConfig) : Prop where
  filled : config.families ≠ []
  proper : AreProper config.families
  sorted : ∀ family ∈ config.families, family.sorted = family

theorem AreProper.sorted {families : List ChipFamily} (proper : AreProper families) :
    AreProper (families.map ChipFamily.sorted) := by
  obtain ⟨distinct, sound⟩ := proper
  refine ⟨?_, ?_⟩
  · rw [List.map_map]
    exact distinct
  · intro family inside
    obtain ⟨given, listed, rfl⟩ := List.mem_map.mp inside
    obtain ⟨commonWord, resourceName, memory, templates⟩ := sound given listed
    exact ⟨commonWord, resourceName, memory, fun template member =>
      templates template ((templates_sorted given).same.mem_iff.mp member)⟩

theorem isSettled_of_made {origin : String} {families : List ChipFamily} {config : DeviceConfig}
    (made : DeviceConfig.ofFamilies origin families = .ok config) : config.IsSettled := by
  obtain ⟨⟨filled, proper⟩, same⟩ := (ofFamilies_eq_ok_iff origin families config).mp made
  refine ⟨?_, same ▸ proper.sorted, ?_⟩
  · rw [same]
    exact fun none => filled (List.map_eq_nil_iff.mp none)
  · rw [same, List.forall_mem_map]
    exact fun family _ => sorted_sorted family

theorem DeviceConfig.IsSettled.made {config : DeviceConfig} (settled : config.IsSettled)
    (origin : String) : DeviceConfig.ofFamilies origin config.families = .ok config := by
  have same := (List.map_congr_left settled.sorted).trans (List.map_id' config.families)
  exact (ofFamilies_eq_ok_iff origin _ config).mpr ⟨⟨settled.filled, settled.proper⟩, same.symm⟩

/-! ### Families by name -/

theorem family_eq_ok_iff {config : DeviceConfig}
    (distinct : (config.families.map ChipFamily.chipName).Nodup) (chip : String)
    (family : ChipFamily) :
    config.family chip = .ok family ↔ family ∈ config.families ∧ family.chipName = chip := by
  unfold DeviceConfig.family
  cases found : config.families.find? fun family => family.chipName = chip with
  | none =>
      have unnamed := List.find?_eq_none.mp found
      refine ⟨nofun, fun named => ?_⟩
      exact absurd (decide_eq_true named.2) (unnamed family named.1)
  | some first =>
      have inside := List.mem_of_find?_eq_some found
      have name : first.chipName = chip := by simpa using List.find?_some found
      constructor
      · rintro ⟨⟩
        exact ⟨inside, name⟩
      · rintro ⟨inside', name'⟩
        exact congrArg Except.ok
          (List.inj_on_of_nodup_map distinct inside inside' (name.trans name'.symm))

theorem family_eq_error_iff (config : DeviceConfig) (chip : String) (error : Error) :
    config.family chip = .error error ↔
      error = .unknownChip chip ∧ ∀ family ∈ config.families, family.chipName ≠ chip := by
  unfold DeviceConfig.family
  cases found : config.families.find? fun family => family.chipName = chip with
  | none =>
      have unnamed : ∀ family ∈ config.families, family.chipName ≠ chip :=
        fun family inside same =>
          List.find?_eq_none.mp found family inside (decide_eq_true same)
      constructor
      · rintro ⟨⟩
        exact ⟨rfl, unnamed⟩
      · rintro ⟨rfl, -⟩
        rfl
  | some first =>
      have name : first.chipName = chip := by simpa using List.find?_some found
      exact ⟨nofun, fun unnamed =>
        absurd name (unnamed.2 first (List.mem_of_find?_eq_some found))⟩

/-! ### Documents -/

theorem parse_decoded {text : String} {families : List ChipFamily}
    (decoded : Yaml.readDocument? text readFamilies = some families) (origin : String) :
    DeviceConfig.parse text origin = DeviceConfig.ofFamilies origin families := by
  rw [DeviceConfig.parse, decoded]

theorem isSettled_of_parse {text origin : String} {config : DeviceConfig}
    (taken : DeviceConfig.parse text origin = .ok config) : config.IsSettled := by
  cases decoded : Yaml.readDocument? text readFamilies with
  | none =>
      rw [DeviceConfig.parse, decoded] at taken
      cases taken
  | some families =>
      rw [parse_decoded decoded] at taken
      exact isSettled_of_made taken

theorem DeviceConfig.IsSettled.parse_render {config : DeviceConfig} (settled : config.IsSettled)
    (origin : String) : DeviceConfig.parse config.render origin = .ok config :=
  (parse_decoded (readDocument?_render settled.filled) origin).trans (settled.made origin)

theorem isSettled_single {family : ChipFamily} (sound : family.IsSound)
    (sorted : family.sorted = family) : (DeviceConfig.mk [family]).IsSettled where
  filled := List.cons_ne_nil _ _
  proper := (areProper_concat_iff [] family).mpr ⟨areProper_nil, by simp, sound⟩
  sorted := List.forall_mem_singleton.mpr sorted

/-- A document whose families are read is taken exactly if the families keep the rules.  It is then
the config of the same families with their templates in order, in which each is found by its chip.
Otherwise the first fault is reported. -/
theorem config_taken_exactly {text : String} {families : List ChipFamily}
    (decoded : Yaml.readDocument? text readFamilies = some families) (origin : String) :
    ((∃ config, DeviceConfig.parse text origin = .ok config) ↔
        families ≠ [] ∧ AreProper families) ∧
      (∀ config, DeviceConfig.parse text origin = .ok config →
        List.Forall₂ ChipFamily.Sorts families config.families ∧
        ∀ chip,
          (∀ family, config.family chip = .ok family ↔
            family ∈ config.families ∧ family.chipName = chip) ∧
          ∀ error, config.family chip = .error error ↔
            error = .unknownChip chip ∧ ∀ family ∈ config.families, family.chipName ≠ chip) ∧
      ∀ error, DeviceConfig.parse text origin = .error error ↔
        ∃ fault, error = .invalid fault ∧ FirstFault origin families fault := by
  rw [parse_decoded decoded]
  refine ⟨?_, ?_, ofFamilies_eq_error_iff origin families⟩
  · constructor
    · rintro ⟨config, made⟩
      exact ((ofFamilies_eq_ok_iff origin families config).mp made).1
    · intro taken
      exact ⟨⟨families.map ChipFamily.sorted⟩,
        (ofFamilies_eq_ok_iff origin families _).mpr ⟨taken, rfl⟩⟩
  · intro config made
    obtain ⟨-, same⟩ := (ofFamilies_eq_ok_iff origin families config).mp made
    refine ⟨(forall₂_sorts_iff families config.families).mpr same, fun chip => ?_⟩
    have distinct := (isSettled_of_made made).proper.distinct
    exact ⟨family_eq_ok_iff distinct chip, family_eq_error_iff config chip⟩

/-- A sound family with its templates out of order, two of them of one memory. -/
def mixedFamily : ChipFamily :=
  ⟨"a", "A", "x/a", 9, 0, 20, none, [⟨"left", 4, 0⟩, ⟨"small", 2, 0⟩, ⟨"right", 4, 0⟩]⟩

def voidFamily : ChipFamily := ⟨"b", "B", "x/b", 0, 0, 4, none, [⟨"none", 0, 0⟩]⟩

/-- Families of which the second breaks two rules and the third is named like the first. -/
def faultyFamilies : List ChipFamily := [mixedFamily, voidFamily, mixedFamily]

theorem areProper_mixedFamily : AreProper [mixedFamily] := by
  refine ⟨by decide, fun family inside => ?_⟩
  cases List.mem_singleton.mp inside
  exact ⟨by decide, by decide, by decide, by decide⟩

theorem mixed_family_taken_faulty_refused :
    (∃ config, DeviceConfig.parse (DeviceConfig.mk [mixedFamily]).render "one.yaml" = .ok config ∧
      config.family "a" = .ok { mixedFamily with
        templates := [⟨"small", 2, 0⟩, ⟨"left", 4, 0⟩, ⟨"right", 4, 0⟩] } ∧
      config.family "b" = .error (.unknownChip "b")) ∧
    DeviceConfig.parse (DeviceConfig.mk faultyFamilies).render "three.yaml" =
      .error (.invalid (.zeroMemory "b")) ∧
    (Error.invalid (.zeroMemory "b")).message =
      "Invalid device config: chip b has zero memoryAllocatable" := by
  have one := config_taken_exactly (readDocument?_render (List.cons_ne_nil mixedFamily []))
    "one.yaml"
  have filled : faultyFamilies ≠ [] := List.cons_ne_nil _ _
  have three := config_taken_exactly (readDocument?_render filled) "three.yaml"
  refine ⟨?_, ?_, rfl⟩
  · obtain ⟨config, made⟩ := one.1.mpr ⟨List.cons_ne_nil _ _, areProper_mixedFamily⟩
    obtain ⟨sorts, named⟩ := one.2.1 config made
    have families := (forall₂_sorts_iff _ _).mp sorts
    have sorted : mixedFamily.sorted.templates =
        [⟨"small", 2, 0⟩, ⟨"left", 4, 0⟩, ⟨"right", 4, 0⟩] := by
      simp [ChipFamily.sorted, mixedFamily, List.mergeSort]
    rw [List.map_singleton] at families
    refine ⟨config, made, ((named "a").1 _).mpr ⟨?_, rfl⟩, ((named "b").2 _).mpr ⟨rfl, ?_⟩⟩
    · rw [families, List.mem_singleton, ← sorted]
      rfl
    · rw [families, List.forall_mem_singleton]
      exact (by decide : mixedFamily.chipName ≠ "b")
  · have broken : FirstBroken [mixedFamily] voidFamily (.zeroMemory "b") :=
      .own (by decide) (.memory (by decide) (by decide) rfl)
    have first : FirstFault "three.yaml" faultyFamilies (.zeroMemory "b") :=
      .family areProper_mixedFamily broken
    exact (three.2.2 _).mpr ⟨_, rfl, first⟩

end Config
end VirtualNpu
