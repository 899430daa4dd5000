import VirtualNpu.Proofs.YamlNodes
import VirtualNpu.Yaml.Decode

/-!
Records as they are written and read: the text of a record becomes a node, and its fields are
found in the node.
-/

namespace VirtualNpu
namespace Yaml

open Written (spaces)

/-! ### From texts to nodes -/

/-- Whether what is written behind the colon of a key at `column` becomes this node. -/
def WritesValue (column : Nat) (written : List Char) (node : Node) : Prop :=
  ∃ read, IsValue column written read ∧ IsNode read node

theorem writesValue_text (column : Nat) (s : String) :
    WritesValue column (Written.value (column + 2) s) (.scalar none (Written.styleOf s) s) :=
  ⟨_, isValue_text column s, isNode_scalar _ s⟩

theorem writesValue_number (column n : Nat) :
    WritesValue column (' ' :: (Nat.toDigits 10 n ++ ['\n']))
      (.scalar none .plain (String.ofList (Nat.toDigits 10 n))) :=
  ⟨_, isValue_number column n, isNode_scalar _ _⟩

theorem writesValue_null (column : Nat) :
    WritesValue column " null\n".toList (.scalar none .plain "null") :=
  ⟨_, isValue_word column ['n', 'u', 'l', 'l'] (List.cons_ne_nil _ _) (by simp [isNameChar]),
    isNode_scalar _ _⟩

theorem writesValue_emptySequence (column : Nat) :
    WritesValue column " []\n".toList (.sequence none []) :=
  ⟨_, isValue_emptySequence column, isNode_emptySequence⟩

/-- A field of a record: its name, what is written behind the colon, and the node of that. -/
structure Field where
  name : List Char
  written : List Char
  node : Node

namespace Field

def text (field : Field) : List Char := fieldText field.name field.written

def entry (field : Field) : Node × Node := (keyNode field.name, field.node)

def label (field : Field) : String := String.ofList field.name

def found (field : Field) : Option Node := some field.node

structure IsWritten (column : Nat) (field : Field) : Prop where
  key : IsKey field.name
  value : WritesValue column field.written field.node

end Field

theorem writes_fields {column : Nat} {fields : List Field}
    (each : ∀ field ∈ fields, field.IsWritten column) :
    ∃ read, IsLines column (fields.flatMap fun field => spaces column ++ field.text) read ∧
      AreEntries read (fields.map Field.entry) := by
  induction fields with
  | nil => exact ⟨[], isLines_nil column, areEntries_nil⟩
  | cons field fields ih =>
      obtain ⟨key, read, value, node⟩ := each field List.mem_cons_self
      obtain ⟨behind, lines, entries⟩ :=
        ih fun other inside => each other (List.mem_cons_of_mem _ inside)
      exact ⟨_, (isLines_field key value).append lines, areEntries_cons node entries⟩

def recordText (column : Nat) : List Field → List Char
  | [] => []
  | first :: others =>
      itemText column first.text (others.flatMap fun field => spaces (column + 2) ++ field.text)

def recordNode (fields : List Field) : Node := .mapping none (fields.map Field.entry)

structure AreRecord (column : Nat) (fields : List Field) : Prop where
  filled : fields ≠ []
  written : ∀ field ∈ fields, field.IsWritten (column + 2)

theorem writes_record {column : Nat} {fields : List Field} (whole : AreRecord column fields) :
    ∃ read, IsLines column (recordText column fields) (itemTokens read) ∧
      AreEntries read (fields.map Field.entry) := by
  cases fields with
  | nil => exact absurd rfl whole.filled
  | cons first others =>
      obtain ⟨key, read, value, node⟩ := whole.written first List.mem_cons_self
      obtain ⟨behind, lines, entries⟩ :=
        writes_fields fun other inside => whole.written other (List.mem_cons_of_mem _ inside)
      exact ⟨_, isLines_item key value lines, areEntries_cons node entries⟩

theorem writes_records {column : Nat} {records : List (List Field)}
    (each : ∀ fields ∈ records, AreRecord column fields) :
    ∃ read, IsLines column (records.flatMap (recordText column)) read ∧
      AreItems read (records.map recordNode) := by
  induction records with
  | nil => exact ⟨[], isLines_nil column, areItems_nil⟩
  | cons fields records ih =>
      obtain ⟨read, first, entries⟩ := writes_record (each fields List.mem_cons_self)
      obtain ⟨behind, lines, items⟩ :=
        ih fun other inside => each other (List.mem_cons_of_mem _ inside)
      exact ⟨_, first.append lines, areItems_cons entries items⟩

theorem writesValue_records {column : Nat} {records : List (List Field)} (some : records ≠ [])
    (each : ∀ fields ∈ records, AreRecord column fields) :
    WritesValue column ('\n' :: records.flatMap (recordText column))
      (.sequence none (records.map recordNode)) := by
  cases records with
  | nil => exact absurd rfl some
  | cons fields records =>
      obtain ⟨read, first, entries⟩ := writes_record (each fields List.mem_cons_self)
      obtain ⟨behind, lines, items⟩ :=
        writes_records fun other inside => each other (List.mem_cons_of_mem _ inside)
      exact ⟨_, isValue_lines (first.append lines), isNode_items (areItems_cons entries items)⟩

theorem parse?_field {field : Field} (written : field.IsWritten 0) :
    ∃ document : Document, document.root = some (recordNode [field]) ∧
      Document.parse? (String.ofList field.text) = some document := by
  obtain ⟨key, read, value, node⟩ := written
  obtain ⟨document, root, made⟩ := document_of_entries (areEntries_cons node areEntries_nil)
  refine ⟨document, root, ?_⟩
  rw [List.append_nil] at made
  rw [Document.parse?, Field.text, tokens?_field key value]
  exact made

/-! ### From nodes to fields -/

theorem idxOf?_append_cons {name : String} {front behind : List String} (fresh : name ∉ front) :
    (front ++ name :: behind).idxOf? name = some front.length := by
  induction front with
  | nil => rw [List.nil_append, List.idxOf?_cons, beq_self_eq_true, if_pos rfl]; rfl
  | cons other front ih =>
      have differs : (other == name) = false := by
        apply beq_eq_false_iff_ne.mpr
        rintro rfl
        exact fresh List.mem_cons_self
      have later : name ∉ front := fun inside => fresh (List.mem_cons_of_mem _ inside)
      rw [List.cons_append, List.idxOf?_cons, differs, ih later]
      rfl

section
variable (document : Document)

theorem readText_scalar (tag : Option String) (style : Style) (text : String) :
    document.readText (.scalar tag style text) = pure text := rfl

theorem readFieldsFrom_fields (done fields : List Field)
    (apart : ((done ++ fields).map Field.label).Nodup) :
    document.readFieldsFrom ((done ++ fields).map Field.label)
        (done.map Field.found ++ fields.map fun _ => none) (fields.map Field.entry) =
      pure ((done ++ fields).map Field.found) := by
  induction fields generalizing done with
  | nil => simp only [List.append_nil, List.map_nil, Document.readFieldsFrom]
  | cons field fields ih =>
      have fresh : field.label ∉ done.map Field.label := by
        rw [List.map_append, List.map_cons] at apart
        exact fun inside => (List.nodup_append.mp apart).2.2 _ inside _ List.mem_cons_self rfl
      have known : ((done ++ field :: fields).map Field.label).idxOf? field.label =
          some done.length := by
        rw [List.map_append, List.map_cons, idxOf?_append_cons fresh, List.length_map]
      have empty : (done.map Field.found ++ (field :: fields).map fun _ => none)[done.length]? =
          some none := by simp
      have filled : (done.map Field.found ++ (field :: fields).map fun _ => none).set done.length
          field.found = (done ++ [field]).map Field.found ++ fields.map fun _ => none := by simp
      have split : done ++ field :: fields = done ++ [field] ++ fields := List.append_cons _ _ _
      change document.readFieldsFrom _ _
        ((.scalar none .plain field.label, field.node) :: fields.map Field.entry) = _
      rw [Document.readFieldsFrom, readText_scalar, pure_bind, known]
      dsimp only
      rw [empty]
      dsimp only
      rw [← Field.found, filled, split]
      exact ih (done ++ [field]) (split ▸ apart)

/-- Every field of a record is found in its node. -/
theorem readFields_record {names : List String} {fields : List Field}
    (named : fields.map Field.label = names) (apart : names.Nodup) :
    document.readFields names (recordNode fields) = pure (fields.map Field.found) := by
  subst named
  have entries : document.readEntries (recordNode fields) = pure (fields.map Field.entry) := rfl
  rw [Document.readFields, entries, pure_bind, List.map_map]
  exact readFieldsFrom_fields document [] fields apart

end

end Yaml
end VirtualNpu
