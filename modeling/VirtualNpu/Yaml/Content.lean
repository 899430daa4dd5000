import VirtualNpu.Yaml.Decode

/-!
Values read before it is known what they are wanted for.  Their type comes from
the tag or, for a plain scalar without one, from the text.
-/

namespace VirtualNpu
namespace Yaml

inductive Content where
  | null
  | bool (b : Bool)
  | int (n : Int)
  | float
  | text (s : String)
  | collection
  deriving DecidableEq

namespace Content

def ofInt? (n : Int) : Option Content :=
  if -0x8000000000000000 ≤ n ∧ n ≤ 0xFFFFFFFFFFFFFFFF then some (.int n) else none

def ofPlain? (s : String) : Option Content :=
  match meaning s with
  | .null => some .null
  | .bool b => some (.bool b)
  | .int n => ofInt? n
  | .float => some .float
  | .text => some (.text s)

/-- A scalar with one of the tags of the core schema, which the text has to fit. -/
def ofTagged? (tag s : String) : Option Content :=
  if tag = "tag:yaml.org,2002:bool" then (boolOfWord? s).map .bool
  else if tag = "tag:yaml.org,2002:int" then
    ((integer? s.toList).filter fitsWide).bind ofInt?
  else if tag = "tag:yaml.org,2002:float" then
    if isFloat s.toList then some .float else none
  else if tag = "tag:yaml.org,2002:null" then if isNullWord s then some .null else none
  else some (.text s)

/-- A tag of the document's own, which names no known type. -/
def isLocalTag (tag : String) : Bool := tag.startsWith "!"

def ofScalar? (tag : Option String) (style : Style) (s : String) : Option Content :=
  match tag with
  | some tag => if isLocalTag tag then none else ofTagged? tag s
  | none => if style = .plain then ofPlain? s else some (.text s)

end Content

def Document.readContent (document : Document) : (depth : Nat) → Node → Reading Content
  | depth, node => do
      match ← document.resolve node with
      | .scalar tag style text =>
          match Content.ofScalar? tag style text with
          | some content => pure content
          | none => failure
      | .sequence tag items =>
          match depth with
          | 0 => failure
          | depth + 1 =>
              if tag.any Content.isLocalTag then failure
              for item in items do
                let _ ← document.readContent depth item
              pure .collection
      | .mapping tag entries =>
          match depth with
          | 0 => failure
          | depth + 1 =>
              if tag.any Content.isLocalTag then failure
              for entry in entries do
                let _ ← document.readContent depth entry.1
                let _ ← document.readContent depth entry.2
              pure .collection
      | .alias _ => failure

end Yaml
end VirtualNpu
