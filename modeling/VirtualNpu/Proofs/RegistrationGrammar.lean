import VirtualNpu.Proofs.JsonNumerals
import VirtualNpu.Proofs.JsonTexts
import VirtualNpu.Proofs.RegistrationView

/-!
Which texts register devices.  A registration is an array of entries, each with its eight fields
by name or in their declared order, and is read whole or not at all.
-/

namespace VirtualNpu
namespace Registration

def Entry.written (entry : Entry) : List (String × Json.Value) :=
  [("index", .nat entry.index.toNat), ("id", .text entry.id),
    ("count", .nat entry.count.toNat), ("memory", .nat entry.memory.toNat),
    ("cores", .nat entry.cores.toNat), ("type", .text entry.kind),
    ("numa", .int entry.numa.toInt), ("health", .bool entry.health)]

/-- The items that register an entry.  An object names each field once, in any order and beside
members of other names and any value; an array has the fields in order. -/
inductive Registers : Json.Value → Entry → Prop
  | object {members : List (Option String × Json.Value)} {entry : Entry}
      (named : ∀ member ∈ members, member.1 ≠ none)
      (fields : ∀ field ∈ entry.written, Json.valuesNamed field.1 members = [field.2]) :
      Registers (.object members) entry
  | array (entry : Entry) : Registers (.array (entry.written.map Prod.snd)) entry

def IsRegister (entries : List Entry) (text : String) : Prop :=
  ∃ items, Json.IsText (.array items) text ∧ List.Forall₂ Registers items entries

/-! ### Entries -/

theorem fieldNames_eq (entry : Entry) : Entry.fieldNames = entry.written.map Prod.fst := rfl

theorem fields?_eq_written (entry : Entry) :
    entry.toJson.fields? Entry.fieldNames =
      some ((entry.written.map Prod.snd).map some) := fields_toJson entry

theorem fields?_eq_iff (item : Json.Value) (entry : Entry) :
    item.fields? Entry.fieldNames = entry.toJson.fields? Entry.fieldNames ↔
      Registers item entry := by
  have distinct : Entry.fieldNames.Nodup := by decide
  rw [fields?_eq_written]
  cases item with
  | object members =>
      rw [Json.Value.fields?, Json.fieldsOfMembers_eq_some_iff distinct, fieldNames_eq entry,
        List.map_map, List.map_map, List.map_inj_left]
      constructor
      · rintro ⟨record, first⟩
        refine .object record.named fun field written => ?_
        have once := record.once field.1 (List.mem_map_of_mem written)
        exact ((Json.head?_eq_iff once).1 field.2).mp (first field written).symm
      · intro registers
        cases registers with
        | object named fields =>
            refine ⟨⟨named, ?_⟩, ?_⟩
            · intro name listed
              obtain ⟨field, written, rfl⟩ := List.mem_map.mp listed
              rw [fields field written]
              exact Nat.le_refl 1
            · intro field written
              simp only [Function.comp_apply, fields field written, List.head?_cons]
  | array items =>
      rw [Json.fields?_array_eq_some_iff rfl]
      constructor
      · rintro rfl
        exact .array entry
      · intro registers
        cases registers
        rfl
  | null | bool | number | string =>
      constructor
      · intro never
        cases never
      · intro never
        cases never

theorem fields?_of_ofJson? {item : Json.Value} (spelled : item.IsSpelled) {entry : Entry}
    (read : Entry.ofJson? item = some entry) :
    item.fields? Entry.fieldNames = entry.toJson.fields? Entry.fieldNames := by
  have distinct : Entry.fieldNames.Nodup := by decide
  unfold Entry.ofJson? at read
  split at read
  · rename_i index id count memory cores kind numa health fields
    have field : ∀ part : Json.Value, some part ∈ _ → part.IsSpelled :=
      fun _ => spelled.field distinct fields
    simp only [Option.bind_eq_bind, Option.bind_eq_some_iff] at read
    obtain ⟨place, readIndex, name, readId, slots, readCount, size, readMemory, units, readCores,
      word, readKind, node, readNuma, healthy, readHealth, made⟩ := read
    -- every number is the numeral of what it is read as, and fits its field
    obtain ⟨fitsIndex, rfl⟩ := (Json.asNat?_eq_some_iff (field index (by simp)) _ _).mp readIndex
    obtain ⟨fitsCount, rfl⟩ := (Json.asNat?_eq_some_iff (field count (by simp)) _ _).mp readCount
    obtain ⟨fitsMemory, rfl⟩ :=
      (Json.asNat?_eq_some_iff (field memory (by simp)) _ _).mp readMemory
    obtain ⟨fitsCores, rfl⟩ := (Json.asNat?_eq_some_iff (field cores (by simp)) _ _).mp readCores
    obtain ⟨⟨lower, upper⟩, rfl⟩ :=
      (Json.asInt32?_eq_some_iff (field numa (by simp)) _).mp readNuma
    obtain rfl := (Json.asText?_eq_some_iff _ _).mp readId
    obtain rfl := (Json.asText?_eq_some_iff _ _).mp readKind
    obtain rfl := (Json.asBool?_eq_some_iff _ _).mp readHealth
    obtain rfl := Option.some.inj made
    rw [fields, fields_toJson]
    simp only [UInt32.toNat_ofNat_of_lt' (Nat.lt_succ_of_le fitsIndex),
      UInt32.toNat_ofNat_of_lt' (Nat.lt_succ_of_le fitsCount),
      UInt64.toNat_ofNat_of_lt' (Nat.lt_succ_of_le fitsMemory),
      UInt32.toNat_ofNat_of_lt' (Nat.lt_succ_of_le fitsCores),
      Int32.toInt_ofInt_of_le lower (Int.lt_add_one_of_le upper)]
  · cases read

theorem ofJson?_eq_some_iff {item : Json.Value} (spelled : item.IsSpelled) (entry : Entry) :
    Entry.ofJson? item = some entry ↔ Registers item entry := by
  rw [← fields?_eq_iff]
  exact ⟨fields?_of_ofJson? spelled, ofJson?_of_fields⟩

/-! ### Texts -/

theorem mapM_ofJson?_eq_some_iff {items : List Json.Value}
    (spelled : (Json.Value.array items).IsSpelled) (entries : List Entry) :
    items.mapM Entry.ofJson? = some entries ↔ List.Forall₂ Registers items entries := by
  rw [Json.mapM_eq_some_iff, List.forall₂_iff_zip, List.forall₂_iff_zip]
  have each : ∀ {item entry}, (item, entry) ∈ items.zip entries →
      (Entry.ofJson? item = some entry ↔ Registers item entry) :=
    fun paired => ofJson?_eq_some_iff (spelled.item (List.of_mem_zip paired).1) _
  exact and_congr_right fun _ =>
    ⟨fun read _ _ paired => (each paired).mp (read paired),
      fun registered _ _ paired => (each paired).mpr (registered paired)⟩

theorem decode?_eq_some_iff (text : String) (entries : List Entry) :
    decode? text = some entries ↔ IsRegister entries text := by
  constructor
  · intro accepted
    cases parsed : Json.Value.parse? text with
    | none => simp [decode?, parsed] at accepted
    | some value =>
        cases value with
        | array items =>
            have isText := (Json.parse?_eq_some_iff _ _).mp parsed
            rw [decode?, parsed] at accepted
            exact ⟨items, isText,
              (mapM_ofJson?_eq_some_iff (Json.isSpelled_of_isText isText) entries).mp accepted⟩
        | null | bool | number | string | object => simp [decode?, parsed] at accepted
  · rintro ⟨items, isText, registered⟩
    rw [decode?, (Json.parse?_eq_some_iff _ _).mpr isText]
    exact (mapM_ofJson?_eq_some_iff (Json.isSpelled_of_isText isText) entries).mpr registered

/-! ### Faults -/

/-- The values that an item gives to a field: those of the members of its name or, in an array,
the one at its place. -/
def fieldValues (name : String) : Json.Value → List Json.Value
  | .object members => Json.valuesNamed name members
  | .array items => (items[Entry.fieldNames.idxOf name]?).toList
  | _ => []

def numberRanges : List (String × Int × Int) :=
  [("index", 0, 0xFFFFFFFF), ("count", 0, 0xFFFFFFFF), ("memory", 0, 0xFFFFFFFFFFFFFFFF),
    ("cores", 0, 0xFFFFFFFF), ("numa", -0x80000000, 0x7FFFFFFF)]

/-- The items that spoil a registration: they give no value to a field, or two, or a null, or
they give to a number field a number that is not the plain numeral of one in its range. -/
inductive Faulty (item : Json.Value) : Prop
  | missing {name : String} (listed : name ∈ Entry.fieldNames) (none : fieldValues name item = [])
  | repeated {name : String} (listed : name ∈ Entry.fieldNames)
      (again : 2 ≤ (fieldValues name item).length)
  | null {name : String} (listed : name ∈ Entry.fieldNames)
      (given : .null ∈ fieldValues name item)
  | number {name : String} {least greatest : Int} {lexeme : String}
      (ranged : (name, least, greatest) ∈ numberRanges)
      (given : .number lexeme ∈ fieldValues name item)
      (unfit : ∀ n, least ≤ n → n ≤ greatest → Json.Value.number lexeme ≠ .int n)

theorem Registers.fieldValues {item : Json.Value} {entry : Entry} (registers : Registers item entry)
    {field : String × Json.Value} (written : field ∈ entry.written) :
    fieldValues field.1 item = [field.2] := by
  cases registers with
  | object named fields => exact fields field written
  | array =>
      simp only [Entry.written, List.mem_cons, List.not_mem_nil, or_false] at written
      rcases written with rfl | rfl | rfl | rfl | rfl | rfl | rfl | rfl <;> rfl

theorem written_ne_null {entry : Entry} {field : String × Json.Value}
    (written : field ∈ entry.written) : field.2 ≠ .null := by
  simp only [Entry.written, List.mem_cons, List.not_mem_nil, or_false] at written
  intro null
  rcases written with rfl | rfl | rfl | rfl | rfl | rfl | rfl | rfl
  case inr.inr.inr.inr.inr.inr.inl =>
    cases node : entry.numa.toInt with
    | ofNat n =>
        rw [node] at null
        cases null
    | negSucc n =>
        rw [node] at null
        cases null
  all_goals cases null

theorem written_numbers (entry : Entry) {name : String} {least greatest : Int}
    (ranged : (name, least, greatest) ∈ numberRanges) :
    ∃ n, least ≤ n ∧ n ≤ greatest ∧ (name, .int n) ∈ entry.written := by
  have index := entry.index.toNat_lt
  have count := entry.count.toNat_lt
  have memory := entry.memory.toNat_lt
  have cores := entry.cores.toNat_lt
  have lower := entry.numa.le_toInt
  have upper := entry.numa.toInt_lt
  simp only [numberRanges, List.mem_cons, List.not_mem_nil, or_false, Prod.mk.injEq] at ranged
  rcases ranged with ⟨rfl, rfl, rfl⟩ | ⟨rfl, rfl, rfl⟩ | ⟨rfl, rfl, rfl⟩ | ⟨rfl, rfl, rfl⟩ |
    ⟨rfl, rfl, rfl⟩
  · exact ⟨entry.index.toNat, by omega, by omega, by simp [Entry.written, Json.Value.int]⟩
  · exact ⟨entry.count.toNat, by omega, by omega, by simp [Entry.written, Json.Value.int]⟩
  · exact ⟨entry.memory.toNat, by omega, by omega, by simp [Entry.written, Json.Value.int]⟩
  · exact ⟨entry.cores.toNat, by omega, by omega, by simp [Entry.written, Json.Value.int]⟩
  · exact ⟨entry.numa.toInt, by omega, by omega, by simp [Entry.written]⟩

theorem not_faulty {item : Json.Value} {entry : Entry} (registers : Registers item entry) :
    ¬ Faulty item := by
  have single : ∀ name ∈ Entry.fieldNames, ∃ value, value ≠ .null ∧
      Registration.fieldValues name item = [value] := by
    intro name listed
    obtain ⟨field, written, rfl⟩ := List.mem_map.mp (fieldNames_eq entry ▸ listed)
    exact ⟨field.2, written_ne_null written, registers.fieldValues written⟩
  intro faulty
  cases faulty with
  | missing listed none =>
      obtain ⟨value, _, given⟩ := single _ listed
      rw [given] at none
      cases none
  | repeated listed again =>
      obtain ⟨value, _, given⟩ := single _ listed
      rw [given, List.length_singleton] at again
      omega
  | null listed among =>
      obtain ⟨value, some, given⟩ := single _ listed
      rw [given, List.mem_singleton] at among
      exact some among.symm
  | number ranged among unfit =>
      obtain ⟨n, lower, upper, written⟩ := written_numbers entry ranged
      rw [registers.fieldValues written, List.mem_singleton] at among
      exact unfit n lower upper among

/-! ### The codec -/

theorem decode?_faulty {items : List Json.Value} {text : String}
    (isText : Json.IsText (.array items) text) {item : Json.Value} (inside : item ∈ items)
    (faulty : Faulty item) : decode? text = none := by
  cases read : decode? text with
  | none => rfl
  | some entries =>
      obtain ⟨found, isFound, registered⟩ := (decode?_eq_some_iff text entries).mp read
      have same := Option.some.inj
        (((Json.parse?_eq_some_iff text _).mpr isText).symm.trans
          ((Json.parse?_eq_some_iff text _).mpr isFound))
      injection same with same
      subst same
      obtain ⟨place, bound, here⟩ := List.mem_iff_getElem.mp inside
      have registers := registered.get bound (registered.length_eq ▸ bound)
      simp only [List.get_eq_getElem, here] at registers
      exact absurd faulty (not_faulty registers)

/-- Entries are read back from their text as they were, at every limit of their fields.  The texts
that are read are those that the grammar gives to the entries, and reading and writing such a
text leaves nothing of how it was written but what is kept from then on.  One faulty item
refuses the whole text. -/
theorem registration_survives_encoding :
    (∀ entries, decode? (encode entries) = some entries) ∧
    (∀ text entries, decode? text = some entries ↔ IsRegister entries text) ∧
    (∀ text entries, decode? text = some entries →
      decode? (encode entries) = some entries ∧
      (decode? (encode entries)).map encode = some (encode entries)) ∧
    ∀ items text, Json.IsText (.array items) text → (∃ item ∈ items, Faulty item) →
      decode? text = none := by
  refine ⟨decode?_encode, decode?_eq_some_iff, ?_, ?_⟩
  · intro text entries _
    have kept := decode?_encode entries
    exact ⟨kept, by rw [kept, Option.map_some]⟩
  · rintro items text isText ⟨item, inside, faulty⟩
    exact decode?_faulty isText inside faulty

/-- An item that is an array, and one whose node is a step out of range. -/
theorem registered_in_order :
    IsRegister [⟨2, "AB", 8, 9, 0, "", -1, true⟩] " [[2,\"A\\u0042\",8,9,0,\"\",-1,true]]" ∧
    decode? (encode [⟨2, "AB", 8, 9, 0, "", -1, true⟩]) =
      some [⟨2, "AB", 8, 9, 0, "", -1, true⟩] ∧
    decode? "[[0,\"B\",1,0,20,\"\",2147483648,false]]" = none := by
  obtain ⟨_, grammar, kept, refused⟩ := registration_survives_encoding
  have read : decode? " [[2,\"A\\u0042\",8,9,0,\"\",-1,true]]" =
      some [⟨2, "AB", 8, 9, 0, "", -1, true⟩] := rfl
  refine ⟨(grammar _ _).mp read, (kept _ _ read).1, ?_⟩
  let items : List Json.Value :=
    [.number "0", .text "B", .number "1", .number "0", .number "20", .text "",
      .number "2147483648", .bool false]
  have isText : Json.IsText (.array [.array items]) "[[0,\"B\",1,0,20,\"\",2147483648,false]]" :=
    (Json.parse?_eq_some_iff _ _).mp rfl
  refine refused _ _ isText ⟨_, List.mem_singleton_self _, ?_⟩
  have ranged : ("numa", -0x80000000, 0x7FFFFFFF) ∈ numberRanges := by decide
  refine .number ranged (List.mem_singleton_self (Json.Value.number "2147483648")) ?_
  intro n lower upper same
  have fits := Json.asInt32?_int lower upper
  rw [← same] at fits
  cases fits

end Registration
end VirtualNpu
