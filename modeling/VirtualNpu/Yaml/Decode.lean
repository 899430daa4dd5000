import VirtualNpu.Yaml.Node
import VirtualNpu.Yaml.Scalar

/-!
Reading values out of a YAML document.  Aliases are followed where a value is
wanted, and counted: a document in which they multiply is refused.
-/

namespace VirtualNpu
namespace Yaml

/-- A value read from a document while the aliases followed are counted. -/
abbrev Reading (α : Type) := StateT Nat Option α

namespace Document

def aliasLimit (document : Document) : Nat := 100 * document.events

def follow (document : Document) (anchor : Nat) : Reading Node := fun followed =>
  if document.aliasLimit < followed + 1 then none
  else (List.lookup anchor document.anchors).map fun node => (node, followed + 1)

def resolve (document : Document) : Node → Reading Node
  | .alias anchor => document.follow anchor
  | node => pure node

/-- An empty plain scalar, which stands for a missing value. -/
def isOmitted : Node → Bool
  | .scalar _ .plain text => text.isEmpty
  | _ => false

def readText (document : Document) (node : Node) : Reading String := do
  match ← document.resolve node with
  | .scalar _ _ text => pure text
  | _ => failure

/-- Whether a scalar may be read as a number: it is plain, or literal and
tagged as one. -/
def mayBeNumber (tag : Option String) : Style → Bool
  | .plain => true
  | .literal => tag == some "tag:yaml.org,2002:int"
  | _ => false

def readNat (document : Document) (limit : Nat) (node : Node) : Reading Nat := do
  match ← document.resolve node with
  | .scalar tag style text =>
      if mayBeNumber tag style then
        match natural? text.toList with
        | some n => if n ≤ limit then pure n else failure
        | none => failure
      else failure
  | _ => failure

/-- Whether a node that may be left out is there: any but a plain scalar that is
empty or one of the words for nothing.  The tag for nothing is given to such a
word only. -/
def isPresent : Node → Option Bool
  | .scalar (some tag) .plain text =>
      if tag = "tag:yaml.org,2002:null" then
        if isNullWord text then some false else none
      else some true
  | .scalar none .plain text => some (!(text.isEmpty || isNullWord text))
  | _ => some true

def readOptional {α : Type} (document : Document) (read : Node → Reading α) (node : Node) :
    Reading (Option α) := do
  let resolved ← document.resolve node
  match isPresent resolved with
  | some true => return some (← read resolved)
  | some false => pure none
  | none => failure

/-- The items of a sequence; a value left out is an empty one. -/
def readItems (document : Document) (node : Node) : Reading (List Node) := do
  match ← document.resolve node with
  | .sequence _ items => pure items
  | resolved => if isOmitted resolved then pure [] else failure

def readEntries (document : Document) (node : Node) : Reading (List (Node × Node)) := do
  match ← document.resolve node with
  | .mapping _ entries => pure entries
  | resolved => if isOmitted resolved then pure [] else failure

/-- Distributes entries to the fields named, in the order of `names`.  A field
that is named twice spoils the record; entries of other names are skipped. -/
def readFieldsFrom (document : Document) (names : List String) :
    List (Option Node) → List (Node × Node) → Reading (List (Option Node))
  | fields, [] => pure fields
  | fields, (key, value) :: rest => do
      match names.idxOf? (← document.readText key) with
      | none => document.readFieldsFrom names fields rest
      | some index =>
          match fields[index]? with
          | some none => document.readFieldsFrom names (fields.set index (some value)) rest
          | _ => failure

def readFields (document : Document) (names : List String) (node : Node) :
    Reading (List (Option Node)) := do
  document.readFieldsFrom names (names.map fun _ => none) (← document.readEntries node)

def required {α : Type} (read : Node → Reading α) : Option Node → Reading α
  | some node => read node
  | none => failure

def orDefault {α : Type} (value : α) (read : Node → Reading α) : Option Node → Reading α
  | some node => read node
  | none => pure value

/-- Reads the root of a document; that of an empty text is a value left out. -/
def readRoot {α : Type} (document : Document) (read : Node → Reading α) : Option α :=
  (read (document.root.getD (.scalar none .plain "")) 0).map Prod.fst

end Document

def readDocument? {α : Type} (text : String) (read : Document → Node → Reading α) : Option α :=
  (Document.parse? text).bind fun document => document.readRoot (read document)

end Yaml
end VirtualNpu
