import Mathlib.Data.List.Forall2
import VirtualNpu.Json.Field
import VirtualNpu.Proofs.Decimals

/-!
Records and their fields: which values an object gives to the fields of a record, whatever
the order of its members and whatever members of other names stand between them, and what
is read of a field that was written.
-/

namespace VirtualNpu
namespace Json

/-! ### Values of fields -/

theorem asText?_eq_some_iff (value : Value) (text : String) :
    value.asText? = some text ↔ value = .text text := by
  cases value with
  | string held => simp [Value.asText?, Value.text]
  | null | bool | number | array | object => simp [Value.asText?, Value.text]

theorem asNat?_nat {limit n : Nat} (bound : n ≤ limit) : (Value.nat n).asNat? limit = some n := by
  simp only [Value.nat, Value.asNat?, String.toList_ofList, Text.natural?_toDigits, if_pos bound]

theorem asInt32?_int {n : Int} (lower : -0x80000000 ≤ n) (upper : n ≤ 0x7FFFFFFF) :
    (Value.int n).asInt32? = some n := by
  cases n with
  | ofNat n =>
      have read := Text.natural?_toDigits n
      have bound : n ≤ 0x7FFFFFFF := by
        rw [Int.ofNat_eq_natCast] at upper
        omega
      cases digits : Nat.toDigits 10 n with
      | nil => exact absurd digits Nat.toDigits_ne_nil
      | cons lead rest =>
          have isDigit := Text.isDigit_of_mem_toDigits n lead (by simp [digits])
          have noMinus : lead ≠ '-' := by
            rintro rfl
            cases isDigit
          rw [digits] at read
          simp only [Value.int, Value.nat, Value.asInt32?, String.toList_ofList, digits]
          split
          · rename_i minus
            exact absurd (List.cons.inj minus).1 noMinus
          · simp only [read, if_pos bound]
            rfl
  | negSucc n =>
      have bound : 0 < n + 1 ∧ n + 1 ≤ 0x80000000 := by omega
      simp only [Value.int, Value.asInt32?, String.toList_ofList, Text.natural?_toDigits,
        if_pos bound]
      rfl

/-! ### Members by name -/

def valuesNamed (name : String) (members : List (Option String × Value)) : List Value :=
  (members.filter fun member => member.1 = some name).map Prod.snd

theorem valuesNamed_cons_self (name : String) (value : Value)
    (members : List (Option String × Value)) :
    valuesNamed name ((some name, value) :: members) = value :: valuesNamed name members := by
  simp [valuesNamed]

theorem valuesNamed_cons_ne {name : String} {other : Option String} (differs : other ≠ some name)
    (value : Value) (members : List (Option String × Value)) :
    valuesNamed name ((other, value) :: members) = valuesNamed name members := by
  simp [valuesNamed, differs]

/-- Every member has a name, and none of the fields is named twice. -/
structure IsRecord (names : List String) (members : List (Option String × Value)) : Prop where
  named : ∀ member ∈ members, member.1 ≠ none
  once : ∀ name ∈ names, (valuesNamed name members).length ≤ 1

theorem isRecord_cons_iff {names : List String} {name : String} (value : Value)
    (members : List (Option String × Value)) :
    IsRecord names ((some name, value) :: members) ↔
      IsRecord names members ∧ (name ∈ names → valuesNamed name members = []) := by
  constructor
  · intro record
    refine ⟨⟨?_, ?_⟩, ?_⟩
    · intro other inside
      exact record.named other (List.mem_cons_of_mem _ inside)
    · intro field listed
      have once := record.once field listed
      by_cases same : some name = some field
      · cases same
        rw [valuesNamed_cons_self, List.length_cons] at once
        omega
      · rw [valuesNamed_cons_ne same] at once
        exact once
    · intro listed
      have once := record.once name listed
      rw [valuesNamed_cons_self, List.length_cons] at once
      exact List.eq_nil_of_length_eq_zero (by omega)
  · intro ⟨record, fresh⟩
    constructor
    · intro other inside
      cases inside with
      | head => simp
      | tail _ inside => exact record.named other inside
    · intro field listed
      by_cases same : some name = some field
      · cases same
        rw [valuesNamed_cons_self, fresh listed]
        simp
      · rw [valuesNamed_cons_ne same]
        exact record.once field listed

/-- Setting the field of a name takes in one more member of that name in front. -/
private theorem set_field {names : List String} (distinct : names.Nodup) {index : Nat}
    (bound : index < names.length) (value : Value) (members : List (Option String × Value)) :
    (names.map fun field => (valuesNamed field members).head?).set index (some value) =
      names.map fun field =>
        (valuesNamed field ((some names[index], value) :: members)).head? := by
  apply List.ext_getElem
  · simp
  intro place left right
  have within : place < names.length := by simpa using right
  rw [List.getElem_set, List.getElem_map, List.getElem_map]
  by_cases here : index = place
  · subst here
    simp [valuesNamed_cons_self]
  · have differs : names[index] ≠ names[place] := by
      intro same
      exact here ((List.getElem_inj distinct).mp same)
    rw [if_neg here, valuesNamed_cons_ne (by simpa using differs)]

/-- A member whose name is not among the fields changes none of them. -/
private theorem skip_member {names : List String} {name : String} (unlisted : name ∉ names)
    (value : Value) (members : List (Option String × Value)) :
    (names.map fun field => (valuesNamed field members).head?) =
      names.map fun field => (valuesNamed field ((some name, value) :: members)).head? := by
  apply List.map_congr_left
  intro field listed
  have differs : some name ≠ some field := by
    intro same
    cases same
    exact unlisted listed
  rw [valuesNamed_cons_ne differs]

private theorem fieldsOfMembers_skip {names : List String} {name : String}
    (unlisted : name ∉ names) (value : Value) (members : List (Option String × Value)) :
    fieldsOfMembers names ((some name, value) :: members) = fieldsOfMembers names members := by
  simp only [fieldsOfMembers, List.idxOf?_eq_none_iff.mpr unlisted]
  exact Option.bind_fun_some _

/-- The fields of an object are read exactly where it is a record, and each is then the one
value of its name. -/
theorem fieldsOfMembers_eq_some_iff {names : List String} (distinct : names.Nodup)
    (members : List (Option String × Value)) (fields : List (Option Value)) :
    fieldsOfMembers names members = some fields ↔
      IsRecord names members ∧ fields = names.map fun name => (valuesNamed name members).head? := by
  induction members generalizing fields with
  | nil =>
      have record : IsRecord names [] := ⟨by simp, by simp [valuesNamed]⟩
      simp [fieldsOfMembers, record, valuesNamed, eq_comm]
  | cons member members ih =>
      obtain ⟨name, value⟩ := member
      cases name with
      | none =>
          constructor
          · intro read
            cases read
          · intro ⟨record, _⟩
            exact absurd rfl (record.named (none, value) List.mem_cons_self)
      | some name =>
          rw [isRecord_cons_iff]
          cases found : names.idxOf? name with
          | none =>
              have unlisted : name ∉ names := List.idxOf?_eq_none_iff.mp found
              rw [fieldsOfMembers_skip unlisted, ih, ← skip_member unlisted value members]
              constructor
              · intro ⟨record, same⟩
                exact ⟨⟨record, fun listed => absurd listed unlisted⟩, same⟩
              · intro ⟨⟨record, _⟩, same⟩
                exact ⟨record, same⟩
          | some index =>
              obtain ⟨bound, named, _⟩ := List.idxOf?_eq_some_iff.mp found
              subst named
              have present : names[index] ∈ names := List.getElem_mem bound
              have there : (names.map fun field => (valuesNamed field members).head?)[index]? =
                  some (valuesNamed names[index] members).head? := by
                simp [bound]
              rw [← set_field distinct bound value members]
              simp only [fieldsOfMembers, found, Option.bind_eq_bind, Option.bind_eq_some_iff]
              constructor
              · rintro ⟨rest, read, kept⟩
                obtain ⟨record, rfl⟩ := (ih rest).mp read
                cases values : valuesNamed names[index] members with
                | nil =>
                    simp only [there, values, List.head?_nil] at kept
                    cases kept
                    exact ⟨⟨record, fun _ => rfl⟩, rfl⟩
                | cons first more =>
                    simp only [there, values, List.head?_cons] at kept
                    cases kept
              · rintro ⟨⟨record, fresh⟩, rfl⟩
                refine ⟨_, (ih _).mpr ⟨record, rfl⟩, ?_⟩
                simp only [there, fresh present, List.head?_nil]

theorem head?_eq_iff {values : List Value} (few : values.length ≤ 1) :
    (∀ value, values.head? = some value ↔ values = [value]) ∧
      (values.head? = none ↔ values = []) := by
  match values, few with
  | [], _ => simp
  | [only], _ => simp

/-! ### Items -/

theorem mapM_eq_some_iff {ι α : Type} (read? : ι → Option α) (items : List ι)
    (read : List α) :
    items.mapM read? = some read ↔
      List.Forall₂ (fun item value => read? item = some value) items read := by
  induction items generalizing read with
  | nil => simp [eq_comm]
  | cons item items ih =>
      rw [List.mapM_cons]
      simp only [Option.bind_eq_bind, Option.bind_eq_some_iff, Option.pure_def, Option.some.injEq,
        ih]
      constructor
      · rintro ⟨first, readFirst, others, readOthers, rfl⟩
        exact .cons readFirst readOthers
      · intro all
        cases all with
        | cons readFirst readOthers => exact ⟨_, readFirst, _, readOthers, rfl⟩

end Json
end VirtualNpu
