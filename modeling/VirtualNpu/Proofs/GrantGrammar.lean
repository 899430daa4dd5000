import VirtualNpu.Allocation.Grant
import VirtualNpu.Proofs.Blanks
import VirtualNpu.Proofs.JsonRecords
import VirtualNpu.Proofs.JsonTexts

/-!
Which annotations grant devices.  An annotation that is more than white space is an array of
entries, each with a device and perhaps a template, and is decoded whole or not at all.
-/

namespace VirtualNpu
namespace Allocation

/-- The values given for a template: none, which leaves it empty, or its text. -/
inductive TemplateValues : List Json.Value → String → Prop
  | absent : TemplateValues [] ""
  | given (template : String) : TemplateValues [.text template] template

/-- The entries of a grant.  An object names its device and its template in any order, beside
members of other names and any value; an array has them in order. -/
inductive Grants : Json.Value → Grant → Prop
  | object {members : List (Option String × Json.Value)} {uuid template : String}
      (named : ∀ member ∈ members, member.1 ≠ none)
      (device : Json.valuesNamed "uuid" members = [.text uuid])
      (share : TemplateValues (Json.valuesNamed "temp" members) template) :
      Grants (.object members) ⟨uuid, template⟩
  | array {uuid template : String} {rest : List Json.Value}
      (share : TemplateValues rest template) :
      Grants (.array (.text uuid :: rest)) ⟨uuid, template⟩

/-- The texts of grants: JSON arrays with one entry for each grant, in order. -/
def IsGrantText (grants : List Grant) (text : String) : Prop :=
  ∃ items, Json.IsText (.array items) text ∧ List.Forall₂ Grants items grants

/-! ### Entries -/

theorem templateValues_iff (values : List Json.Value) (template : String) :
    TemplateValues values template ↔
      values = [] ∧ template = "" ∨ values = [.text template] := by
  constructor
  · intro given
    cases given with
    | absent => exact Or.inl ⟨rfl, rfl⟩
    | given => exact Or.inr rfl
  · intro given
    rcases given with ⟨rfl, rfl⟩ | rfl
    · exact .absent
    · exact .given template

private theorem ofJson?_of_fields {value : Json.Value} {device template : Option Json.Value}
    (read : value.fields? Grant.fieldNames = some [device, template]) (grant : Grant) :
    Grant.ofJson? value = some grant ↔
      device = some (.text grant.uuid) ∧
        (template = none ∧ grant.template = "" ∨ template = some (.text grant.template)) := by
  obtain ⟨uuid, held⟩ := grant
  cases device with
  | none => simp [Grant.ofJson?, read]
  | some device =>
      cases template with
      | none =>
          simp only [Grant.ofJson?, read, Option.map_eq_some_iff, Json.asText?_eq_some_iff]
          simp [eq_comm]
      | some template =>
          simp only [Grant.ofJson?, read, Option.bind_eq_bind, Option.bind_eq_some_iff,
            Json.asText?_eq_some_iff]
          simp

private theorem ofJson?_object (members : List (Option String × Json.Value)) (grant : Grant) :
    Grant.ofJson? (.object members) = some grant ↔ Grants (.object members) grant := by
  have distinct : Grant.fieldNames.Nodup := by decide
  have read := Json.fieldsOfMembers_eq_some_iff distinct members
  constructor
  · intro accepted
    cases fields : (Json.Value.object members).fields? Grant.fieldNames with
    | none => simp [Grant.ofJson?, fields] at accepted
    | some found =>
        obtain ⟨record, rfl⟩ := (read found).mp fields
        rw [ofJson?_of_fields fields] at accepted
        have devices := Json.head?_eq_iff (record.once "uuid" (by decide))
        have templates := Json.head?_eq_iff (record.once "temp" (by decide))
        obtain ⟨device, template⟩ := accepted
        rw [templates.1, templates.2] at template
        exact .object record.named ((devices.1 _).mp device)
          ((templateValues_iff _ _).mpr template)
  · intro entry
    cases entry with
    | object named device share =>
        have given := (templateValues_iff _ _).mp share
        have few : (Json.valuesNamed "temp" members).length ≤ 1 := by
          rcases given with ⟨none, _⟩ | one
          · simp [none]
          · simp [one]
        have record : Json.IsRecord Grant.fieldNames members := by
          refine ⟨named, ?_⟩
          intro name listed
          rcases List.mem_pair.mp listed with rfl | rfl
          · rw [device]
            exact Nat.le_refl 1
          · exact few
        have templates := Json.head?_eq_iff few
        have fields : (Json.Value.object members).fields? Grant.fieldNames =
            some [(Json.valuesNamed "uuid" members).head?,
              (Json.valuesNamed "temp" members).head?] := (read _).mpr ⟨record, rfl⟩
        rw [ofJson?_of_fields fields, device, templates.1, templates.2]
        exact ⟨rfl, given⟩

private theorem ofJson?_array (items : List Json.Value) (grant : Grant) :
    Grant.ofJson? (.array items) = some grant ↔ Grants (.array items) grant := by
  match items with
  | [] =>
      constructor
      · intro accepted
        cases accepted
      · intro entry
        cases entry
  | [device] =>
      have read : (Json.Value.array [device]).fields? Grant.fieldNames = some [some device, none] :=
        rfl
      rw [ofJson?_of_fields read]
      constructor
      · intro ⟨named, template⟩
        cases named
        refine .array ((templateValues_iff _ _).mpr (Or.inl ⟨rfl, ?_⟩))
        simpa using template
      · intro entry
        cases entry with
        | array share =>
            cases share
            exact ⟨rfl, Or.inl ⟨rfl, rfl⟩⟩
  | [device, template] =>
      have read : (Json.Value.array [device, template]).fields? Grant.fieldNames =
          some [some device, some template] := rfl
      rw [ofJson?_of_fields read]
      constructor
      · intro ⟨named, held⟩
        cases named
        refine .array ((templateValues_iff _ _).mpr (Or.inr ?_))
        simpa using held
      · intro entry
        cases entry with
        | array share =>
            cases share
            exact ⟨rfl, Or.inr rfl⟩
  | _ :: _ :: _ :: rest =>
      constructor
      · intro accepted
        simp [Grant.ofJson?, Json.Value.fields?, Grant.fieldNames] at accepted
      · intro entry
        cases entry with
        | array share => cases share

theorem ofJson?_eq_some_iff (value : Json.Value) (grant : Grant) :
    Grant.ofJson? value = some grant ↔ Grants value grant := by
  cases value with
  | object members => exact ofJson?_object members grant
  | array items => exact ofJson?_array items grant
  | null | bool | number | string =>
      constructor
      · intro accepted
        cases accepted
      · intro entry
        cases entry

/-! ### Texts -/

theorem mapM_ofJson?_eq_some_iff (items : List Json.Value) (grants : List Grant) :
    items.mapM Grant.ofJson? = some grants ↔ List.Forall₂ Grants items grants := by
  simp only [Json.mapM_eq_some_iff, ofJson?_eq_some_iff]

theorem parseGrants?_eq_some_iff (text : String) (grants : List Grant) :
    parseGrants? text = some grants ↔ IsGrantText grants text := by
  constructor
  · intro accepted
    cases parsed : Json.Value.parse? text with
    | none => simp [parseGrants?, parsed] at accepted
    | some value =>
        cases value with
        | array items =>
            rw [parseGrants?, parsed] at accepted
            exact ⟨items, (Json.parse?_eq_some_iff _ _).mp parsed,
              (mapM_ofJson?_eq_some_iff items grants).mp accepted⟩
        | null | bool | number | string | object => simp [parseGrants?, parsed] at accepted
  · intro ⟨items, spelled, entries⟩
    rw [parseGrants?, (Json.parse?_eq_some_iff _ _).mpr spelled]
    exact (mapM_ofJson?_eq_some_iff items grants).mpr entries

/-! ### Annotations -/

theorem decode_blank (key : String) {value : Option String}
    (blank : ∀ text, value = some text → ∀ c ∈ text.toList, Text.isBlank c = true) :
    decode key value = .error (.unannotated key) := by
  cases value with
  | none => rfl
  | some text =>
      have empty := (Text.trim_eq_empty_iff text).mpr (blank text rfl)
      simp [decode, empty]

theorem decode_written (key : String) {text : String}
    (written : ∃ c ∈ text.toList, Text.isBlank c = false) :
    decode key (some text) =
      (parseGrants? (Text.trim text)).elim (.error (.malformed key (Text.trim text))) .ok := by
  have left : Text.trim text ≠ "" := by
    intro empty
    obtain ⟨c, inside, isNot⟩ := written
    have is := (Text.trim_eq_empty_iff text).mp empty c inside
    rw [isNot] at is
    cases is
  cases read : parseGrants? (Text.trim text) with
  | none => simp only [decode, Option.map_some, if_neg left, read, Option.elim_none]
  | some grants => simp only [decode, Option.map_some, if_neg left, read, Option.elim_some]

/-- An annotation that is absent or blank counts as missing.  Any other one is decoded to
the grants that its trimmed text is a text of, and is malformed where there are none. -/
theorem decode_follows_grammar (key : String) (value : Option String) :
    ((∀ text, value = some text → ∀ c ∈ text.toList, Text.isBlank c = true) →
      decode key value = .error (.unannotated key)) ∧
    ∀ text, value = some text → (∃ c ∈ text.toList, Text.isBlank c = false) →
      (∀ grants, decode key value = .ok grants ↔ IsGrantText grants (Text.trim text)) ∧
      ((¬ ∃ grants, IsGrantText grants (Text.trim text)) →
        decode key value = .error (.malformed key (Text.trim text))) := by
  refine ⟨fun blank => decode_blank key blank, ?_⟩
  rintro text rfl written
  rw [decode_written key written]
  constructor
  · intro grants
    rw [← parseGrants?_eq_some_iff]
    cases parseGrants? (Text.trim text) with
    | none => simp
    | some read => simp
  · intro none
    cases read : parseGrants? (Text.trim text) with
    | none => rfl
    | some grants =>
        exact absurd ⟨grants, (parseGrants?_eq_some_iff _ grants).mp read⟩ none

/-- Blanks alone, an entry with an escaped key beside a nested unknown one and an entry that
is an array, and an entry without a device. -/
theorem decode_three_annotations :
    decode "granted" (some "\t\u00a0") = .error (.unannotated "granted") ∧
    IsGrantText [⟨"A", ""⟩, ⟨"B", "vir04"⟩]
      (Text.trim "\u00a0[\x7b\"x\":[[1e9]],\"\\u0075uid\":\"A\"\x7d , [\"B\",\"vir04\"]]\n") ∧
    decode "granted" (some "[\x7b\x7d]") = .error (.malformed "granted" "[\x7b\x7d]") := by
  refine ⟨?_, ?_, ?_⟩
  · apply (decode_follows_grammar "granted" (some "\t\u00a0")).1
    rintro text ⟨⟩ c inside
    change c ∈ ['\t', '\u00a0'] at inside
    rcases List.mem_pair.mp inside with rfl | rfl
    · rfl
    · rfl
  · apply ((decode_follows_grammar "granted" _).2 _ rfl ⟨'[', by decide, by decide⟩).1 _ |>.mp
    rfl
  · apply ((decode_follows_grammar "granted" _).2 _ rfl ⟨'[', by decide, by decide⟩).2
    intro ⟨grants, isText⟩
    have read := (parseGrants?_eq_some_iff _ grants).mpr isText
    cases read

end Allocation
end VirtualNpu
