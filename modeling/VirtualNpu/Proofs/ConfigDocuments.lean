import VirtualNpu.Config.Document
import VirtualNpu.Proofs.YamlRecords

/-!
The families of a device config as records of a YAML document: what is written for them is the
text of these records, and they are read back from the nodes of the records.
-/

namespace VirtualNpu
namespace Config

open Yaml (Field IsKey recordText recordNode)

/-! ### Records -/

def textField (column : Nat) (name value : String) : Field :=
  ⟨name.toList, Yaml.Written.value (column + 2) value,
    .scalar none (Yaml.Written.styleOf value) value⟩

def numberNode (value : Nat) : Yaml.Node :=
  .scalar none .plain (String.ofList (Nat.toDigits 10 value))

def numberField (name : String) (value : Nat) : Field :=
  ⟨name.toList, ' ' :: (Nat.toDigits 10 value ++ ['\n']), numberNode value⟩

def limitField : Option UInt32 → Field
  | some limit => numberField "maxVirtualDevices" limit.toNat
  | none => ⟨"maxVirtualDevices".toList, " null\n".toList, .scalar none .plain "null"⟩

def CapacityTemplate.record (template : CapacityTemplate) : List Field :=
  [textField 4 "name" template.name, numberField "memory" template.memory.toNat,
    numberField "aiCore" template.aiCore.toNat]

def templatesField : List CapacityTemplate → Field
  | [] => ⟨"templates".toList, " []\n".toList, .sequence none []⟩
  | templates =>
      ⟨"templates".toList, '\n' :: (templates.map CapacityTemplate.record).flatMap (recordText 2),
        .sequence none ((templates.map CapacityTemplate.record).map recordNode)⟩

def ChipFamily.record (family : ChipFamily) : List Field :=
  [textField 2 "chipName" family.chipName, textField 2 "commonWord" family.commonWord,
    textField 2 "resourceName" family.resourceName,
    numberField "memoryAllocatable" family.memoryAllocatable.toNat,
    numberField "memoryCapacity" family.memoryCapacity.toNat,
    numberField "aiCore" family.aiCore.toNat, limitField family.maxVirtualDevices,
    templatesField family.templates]

def familiesField (families : List ChipFamily) : Field :=
  ⟨"vnpus".toList, '\n' :: (families.map ChipFamily.record).flatMap (recordText 0),
    .sequence none ((families.map ChipFamily.record).map recordNode)⟩

/-! ### What is written -/

theorem flatMap_recordText {α : Type} {column : Nat} {record : α → List Field}
    {write : α → List Char} (same : ∀ item, recordText column (record item) = write item)
    (items : List α) : (items.map record).flatMap (recordText column) = items.flatMap write := by
  rw [List.flatMap_map]
  simp only [same]

theorem recordText_template (template : CapacityTemplate) :
    recordText 2 template.record = template.write := rfl

theorem text_templatesField (templates : List CapacityTemplate) :
    (templatesField templates).text = templatesLine templates := by
  cases templates with
  | nil => rfl
  | cons first others =>
      change "templates".toList ++ ':' :: '\n' :: _ = _
      rw [flatMap_recordText recordText_template]
      rfl

theorem recordText_family (family : ChipFamily) : recordText 0 family.record = family.write := by
  have templates := text_templatesField family.templates
  unfold ChipFamily.write ChipFamily.record
  rw [← templates]
  cases family.maxVirtualDevices with
  | none => rfl
  | some limit => rfl

theorem render_families {families : List ChipFamily} (some : families ≠ []) :
    (DeviceConfig.mk families).render = String.ofList (familiesField families).text := by
  cases families with
  | nil => exact absurd rfl some
  | cons first others =>
      have written := flatMap_recordText recordText_family (first :: others)
      change String.ofList ("vnpus:\n".toList ++ (first :: others).flatMap ChipFamily.write) = _
      rw [← written]
      rfl

theorem isKey_of_known {name : String}
    (known : name ∈ "vnpus" :: (templateFields ++ familyFields)) : IsKey name.toList := by
  have listed : (("vnpus" :: (templateFields ++ familyFields)).all fun name =>
      !name.toList.isEmpty && name.toList.length ≤ 1024 &&
        name.toList.all fun c => Yaml.isNameChar c && c != '-') = true := by decide
  have own := List.all_eq_true.mp listed name known
  simp only [Bool.and_eq_true, Bool.not_eq_true', List.isEmpty_eq_false_iff, decide_eq_true_eq,
    List.all_eq_true, bne_iff_ne] at own
  exact ⟨own.1.1, own.1.2, own.2⟩

theorem isWritten_textField (column : Nat) {name : String} (value : String)
    (known : name ∈ "vnpus" :: (templateFields ++ familyFields)) :
    (textField column name value).IsWritten column :=
  ⟨isKey_of_known known, Yaml.writesValue_text column value⟩

theorem isWritten_numberField (column : Nat) {name : String} (value : Nat)
    (known : name ∈ "vnpus" :: (templateFields ++ familyFields)) :
    (numberField name value).IsWritten column :=
  ⟨isKey_of_known known, Yaml.writesValue_number column value⟩

theorem isWritten_limitField (column : Nat) (limit : Option UInt32) :
    (limitField limit).IsWritten column := by
  cases limit with
  | none => exact ⟨isKey_of_known (by decide), Yaml.writesValue_null column⟩
  | some limit => exact isWritten_numberField column limit.toNat (by decide)

theorem areRecord_template (template : CapacityTemplate) :
    Yaml.AreRecord 2 template.record where
  filled := List.cons_ne_nil _ _
  written := by
    intro field inside
    simp only [CapacityTemplate.record, List.mem_cons, List.not_mem_nil, or_false] at inside
    rcases inside with rfl | rfl | rfl
    · exact isWritten_textField 4 template.name (by decide)
    · exact isWritten_numberField 4 template.memory.toNat (by decide)
    · exact isWritten_numberField 4 template.aiCore.toNat (by decide)

theorem isWritten_templatesField (templates : List CapacityTemplate) :
    (templatesField templates).IsWritten 2 := by
  have key : IsKey "templates".toList := isKey_of_known (by decide)
  cases templates with
  | nil => exact ⟨key, Yaml.writesValue_emptySequence 2⟩
  | cons first others =>
      refine ⟨key, Yaml.writesValue_records (List.cons_ne_nil _ _) ?_⟩
      intro fields inside
      obtain ⟨template, _, rfl⟩ := List.mem_map.mp inside
      exact areRecord_template template

theorem areRecord_family (family : ChipFamily) : Yaml.AreRecord 0 family.record where
  filled := List.cons_ne_nil _ _
  written := by
    intro field inside
    simp only [ChipFamily.record, List.mem_cons, List.not_mem_nil, or_false] at inside
    rcases inside with rfl | rfl | rfl | rfl | rfl | rfl | rfl | rfl
    · exact isWritten_textField 2 family.chipName (by decide)
    · exact isWritten_textField 2 family.commonWord (by decide)
    · exact isWritten_textField 2 family.resourceName (by decide)
    · exact isWritten_numberField 2 family.memoryAllocatable.toNat (by decide)
    · exact isWritten_numberField 2 family.memoryCapacity.toNat (by decide)
    · exact isWritten_numberField 2 family.aiCore.toNat (by decide)
    · exact isWritten_limitField 2 family.maxVirtualDevices
    · exact isWritten_templatesField family.templates

theorem isWritten_familiesField {families : List ChipFamily} (some : families ≠ []) :
    (familiesField families).IsWritten 0 := by
  refine ⟨isKey_of_known (by decide), Yaml.writesValue_records ?_ ?_⟩
  · exact fun none => some (List.map_eq_nil_iff.mp none)
  · intro fields inside
    obtain ⟨family, _, rfl⟩ := List.mem_map.mp inside
    exact areRecord_family family

/-! ### What is read -/

theorem isDigit_lead {n : Nat} {lead : Char} {rest : List Char}
    (digits : Nat.toDigits 10 n = lead :: rest) : lead ≠ '+' ∧ lead ≠ '-' := by
  have digit := Text.isDigit_of_mem_toDigits n lead (digits ▸ List.mem_cons_self)
  constructor
  · rintro rfl
    cases digit
  · rintro rfl
    cases digit

theorem natural?_numeral (n : Nat) : Yaml.natural? (Nat.toDigits 10 n) = some n := by
  have read := Text.natural?_toDigits n
  by_cases zero : n = 0
  · subst zero
    rfl
  · obtain ⟨lead, rest, digits, nonzero⟩ := Text.toDigits_lead (Nat.pos_of_ne_zero zero)
    obtain ⟨noPlus, noMinus⟩ := isDigit_lead digits
    rw [digits] at read ⊢
    simp [Yaml.natural?, Yaml.plainNatural?, Yaml.radixNatural?, Yaml.isPaddedDigits,
      Yaml.dropSign, noPlus, noMinus, nonzero, read]

section
variable (document : Yaml.Document)

theorem readNat_number {limit n : Nat} (bounded : n ≤ limit) :
    document.readNat limit (numberNode n) = pure n := by
  have resolved : document.resolve (numberNode n) = pure (numberNode n) := rfl
  have number : Yaml.natural? (String.ofList (Nat.toDigits 10 n)).toList = some n := by
    rw [String.toList_ofList, natural?_numeral]
  have plain : Yaml.Document.mayBeNumber none .plain = true := rfl
  rw [Yaml.Document.readNat, resolved, pure_bind, numberNode]
  dsimp only
  rw [if_pos plain, number]
  exact if_pos bounded

theorem readUInt32_number (n : UInt32) :
    readUInt32 document (numberNode n.toNat) = pure n := by
  rw [readUInt32, readNat_number document (Nat.le_of_lt_succ n.toNat_lt), pure_bind,
    UInt32.ofNat_toNat]

theorem readUInt64_number (n : UInt64) :
    readUInt64 document (numberNode n.toNat) = pure n := by
  rw [readUInt64, readNat_number document (Nat.le_of_lt_succ n.toNat_lt), pure_bind,
    UInt64.ofNat_toNat]

theorem numeral_ne (n : Nat) {word : String} {c : Char} (inside : c ∈ word.toList)
    (other : Text.isDigit c = false) : String.ofList (Nat.toDigits 10 n) ≠ word := by
  rintro rfl
  rw [String.toList_ofList] at inside
  rw [Text.isDigit_of_mem_toDigits n c inside] at other
  cases other

theorem isPresent_number (n : Nat) : Yaml.Document.isPresent (numberNode n) = some true := by
  have filled : (String.ofList (Nat.toDigits 10 n)).isEmpty = false := by
    apply Bool.eq_false_iff.mpr
    intro empty
    have none := String.toList_eq_nil_iff.mpr (String.isEmpty_iff.mp empty)
    rw [String.toList_ofList] at none
    exact Nat.toDigits_ne_nil none
  have word : Yaml.isNullWord (String.ofList (Nat.toDigits 10 n)) = false := by
    simp only [Yaml.isNullWord, Bool.or_eq_false_iff, beq_eq_false_iff_ne]
    refine ⟨⟨⟨?_, ?_⟩, ?_⟩, ?_⟩
    · exact numeral_ne n (c := 'n') (by decide) rfl
    · exact numeral_ne n (c := 'N') (by decide) rfl
    · exact numeral_ne n (c := 'N') (by decide) rfl
    · exact numeral_ne n (c := '~') (by decide) rfl
  rw [numberNode, Yaml.Document.isPresent, filled, word]
  rfl

theorem readOptional_limit (limit : Option UInt32) :
    document.readOptional (readUInt32 document) (limitField limit).node = pure limit := by
  cases limit with
  | none => rfl
  | some limit =>
      have resolved : document.resolve (numberNode limit.toNat) = pure (numberNode limit.toNat) :=
        rfl
      change document.readOptional (readUInt32 document) (numberNode limit.toNat) = _
      rw [Yaml.Document.readOptional, resolved, pure_bind, isPresent_number]
      dsimp only
      rw [readUInt32_number, pure_bind]

theorem mapM_map_pure {α : Type} {decode : Yaml.Node → Yaml.Reading α} {encode : α → Yaml.Node}
    (decodes : ∀ a, decode (encode a) = pure a) (items : List α) :
    (items.map encode).mapM decode = pure items := by
  induction items with
  | nil => rfl
  | cons item items ih => rw [List.map_cons, List.mapM_cons, decodes, pure_bind, ih, pure_bind]

theorem readTemplate_record (template : CapacityTemplate) :
    readTemplate document (recordNode template.record) = pure template := by
  have labels : template.record.map Field.label = templateFields := rfl
  rw [readTemplate, Yaml.readFields_record document labels (by decide), pure_bind]
  simp only [CapacityTemplate.record, List.map_cons, List.map_nil, Field.found, textField,
    numberField, Yaml.Document.required, Yaml.Document.orDefault, Yaml.readText_scalar,
    readUInt64_number, readUInt32_number, pure_bind]

theorem readTemplates_field (templates : List CapacityTemplate) :
    readTemplates document (templatesField templates).node = pure templates := by
  cases templates with
  | nil => rfl
  | cons first others =>
      have items : document.readItems (templatesField (first :: others)).node =
          pure (((first :: others).map CapacityTemplate.record).map recordNode) := rfl
      rw [readTemplates, items, pure_bind, List.map_map]
      exact mapM_map_pure (fun template => readTemplate_record document template) _

theorem labels_family (family : ChipFamily) : family.record.map Field.label = familyFields := by
  have limit : (limitField family.maxVirtualDevices).label = "maxVirtualDevices" := by
    cases family.maxVirtualDevices with
    | none => rfl
    | some limit => rfl
  have templates : (templatesField family.templates).label = "templates" := by
    cases family.templates with
    | nil => rfl
    | cons first others => rfl
  simp only [ChipFamily.record, List.map_cons, List.map_nil, limit, templates]
  rfl

theorem readFamily_record (family : ChipFamily) :
    readFamily document (recordNode family.record) = pure family := by
  rw [readFamily, Yaml.readFields_record document (labels_family family) (by decide), pure_bind]
  simp only [ChipFamily.record, List.map_cons, List.map_nil, Field.found, textField,
    numberField, Yaml.Document.required, Yaml.Document.orDefault, Yaml.readText_scalar,
    readUInt64_number, readUInt32_number, readOptional_limit, readTemplates_field, pure_bind]

theorem readFamilies_field (families : List ChipFamily) :
    readFamilies document (recordNode [familiesField families]) = pure families := by
  have items : document.readItems (familiesField families).node =
      pure ((families.map ChipFamily.record).map recordNode) := rfl
  have labels : [familiesField families].map Field.label = ["vnpus"] := rfl
  rw [readFamilies, Yaml.readFields_record document labels (by decide), pure_bind]
  change (do (← document.readItems (familiesField families).node).mapM (readFamily document)) = _
  rw [items, pure_bind, List.map_map]
  exact mapM_map_pure (readFamily_record document) families

end

/-- The families of a config that has some are read back from what is written for it. -/
theorem readDocument?_render {families : List ChipFamily} (some : families ≠ []) :
    Yaml.readDocument? (DeviceConfig.mk families).render readFamilies = .some families := by
  obtain ⟨document, root, parsed⟩ := Yaml.parse?_field (isWritten_familiesField some)
  rw [render_families some, Yaml.readDocument?, parsed, Option.bind_some,
    Yaml.Document.readRoot, root, Option.getD_some, readFamilies_field]
  rfl

end Config
end VirtualNpu
