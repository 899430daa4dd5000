/-!
JSON values.  A number keeps its lexeme, so that how it was written still shows;
an object keeps its members in order, repeated names included.
-/

namespace VirtualNpu
namespace Json

/-- A JSON value.  A string with an unpaired surrogate escape is well formed but
denotes no text, which `none` records, also for the name of a member. -/
inductive Value where
  | null
  | bool (b : Bool)
  | number (lexeme : String)
  | string (text : Option String)
  | array (items : List Value)
  | object (members : List (Option String × Value))
  deriving Inhabited

namespace Value

def text (s : String) : Value := .string (some s)

def nat (n : Nat) : Value := .number (String.ofList (Nat.toDigits 10 n))

def int : Int → Value
  | .ofNat n => nat n
  | .negSucc n => .number (String.ofList ('-' :: Nat.toDigits 10 (n + 1)))

def record (members : List (String × Value)) : Value :=
  .object (members.map fun member => (some member.1, member.2))

end Value

end Json
end VirtualNpu
