import VirtualNpu.Json.Token
import VirtualNpu.Json.Value

/-!
Reading a JSON text into its value.  The open arrays and objects are kept on a
stack of their own, so a value may nest to any depth.
-/

namespace VirtualNpu
namespace Json

/-- An array or object that is still open, its parts last first.  In an object
the value for `name` is being read. -/
inductive Frame where
  | array (items : List Value)
  | object (members : List (Option String × Value)) (name : Option String)

inductive Expected where
  | value
  /-- a value, or the end of an array that is still empty -/
  | firstItem
  /-- a comma, or the end of the array or object that is open -/
  | separator
  /-- the name of a member of an object with these members, last first -/
  | name (members : List (Option String × Value))
  /-- the first name, or the end of an object that is still empty -/
  | firstName
  | colon (members : List (Option String × Value)) (name : Option String)

/-- A text that is read in part: some value is open, or the whole value was read. -/
inductive Progress where
  | reading (stack : List Frame) (expected : Expected)
  | complete (value : Value)

namespace Progress

def place (value : Value) : List Frame → Progress
  | [] => .complete value
  | .array items :: stack => .reading (.array (value :: items) :: stack) .separator
  | .object members name :: stack =>
      .reading (.object ((name, value) :: members) name :: stack) .separator

def openValue (stack : List Frame) : Token → Option Progress
  | .null => some (place .null stack)
  | .bool b => some (place (.bool b) stack)
  | .number lexeme => some (place (.number lexeme) stack)
  | .string text => some (place (.string text) stack)
  | .openArray => some (.reading (.array [] :: stack) .firstItem)
  | .openObject => some (.reading stack .firstName)
  | _ => none

def step : Progress → Token → Option Progress
  | .reading stack .value, token => openValue stack token
  | .reading (.array [] :: stack) .firstItem, .closeArray => some (place (.array []) stack)
  | .reading stack .firstItem, token => openValue stack token
  | .reading (.array items :: stack) .separator, .comma =>
      some (.reading (.array items :: stack) .value)
  | .reading (.array items :: stack) .separator, .closeArray =>
      some (place (.array items.reverse) stack)
  | .reading (.object members _ :: stack) .separator, .comma =>
      some (.reading stack (.name members))
  | .reading (.object members _ :: stack) .separator, .closeObject =>
      some (place (.object members.reverse) stack)
  | .reading stack .firstName, .closeObject => some (place (.object []) stack)
  | .reading stack .firstName, .string name => some (.reading stack (.colon [] name))
  | .reading stack (.name members), .string name =>
      some (.reading stack (.colon members name))
  | .reading stack (.colon members name), .colon =>
      some (.reading (.object members name :: stack) .value)
  | _, _ => none

def run : Progress → List Token → Option Progress
  | progress, [] => some progress
  | progress, token :: rest =>
      match step progress token with
      | some following => run following rest
      | none => none

end Progress

def Value.ofTokens? (tokens : List Token) : Option Value :=
  match Progress.run (.reading [] .value) tokens with
  | some (.complete value) => some value
  | _ => none

def Value.parse? (text : String) : Option Value :=
  (Token.scan text.toList).bind Value.ofTokens?

end Json
end VirtualNpu
