import VirtualNpu.Json.Value

/-!
Writing a JSON value without white space.  Of the characters of a string only
the quote, the backslash and the controls below the space are escaped.
-/

namespace VirtualNpu
namespace Json

def hexDigit (n : Nat) : Char :=
  Nat.digitChar (n % 16)

def escapedChar (c : Char) : List Char :=
  if c = '\x22' then ['\\', '\x22']
  else if c = '\\' then ['\\', '\\']
  else if c = '\x08' then ['\\', 'b']
  else if c = '\x0c' then ['\\', 'f']
  else if c = '\n' then ['\\', 'n']
  else if c = '\r' then ['\\', 'r']
  else if c = '\t' then ['\\', 't']
  else if c.toNat < 0x20 then
    ['\\', 'u', '0', '0', hexDigit (c.toNat / 16), hexDigit c.toNat]
  else [c]

def writtenString (s : String) : List Char :=
  '\x22' :: (s.toList.flatMap escapedChar ++ ['\x22'])

mutual

/-- A value in its written form.  A string without a text is written as an empty one. -/
def Value.write : Value → List Char
  | .null => ['n', 'u', 'l', 'l']
  | .bool true => ['t', 'r', 'u', 'e']
  | .bool false => ['f', 'a', 'l', 's', 'e']
  | .number lexeme => lexeme.toList
  | .string text => writtenString (text.getD "")
  | .array [] => ['[', ']']
  | .array (item :: items) => '[' :: (item.write ++ writeItems items)
  | .object [] => ['\x7b', '\x7d']
  | .object ((name, value) :: members) =>
      '\x7b' :: (writtenString (name.getD "") ++ ':' :: (value.write ++ writeMembers members))

def writeItems : List Value → List Char
  | [] => [']']
  | item :: items => ',' :: (item.write ++ writeItems items)

def writeMembers : List (Option String × Value) → List Char
  | [] => ['\x7d']
  | (name, value) :: members =>
      ',' :: (writtenString (name.getD "") ++ ':' :: (value.write ++ writeMembers members))

end

def Value.render (value : Value) : String :=
  String.ofList value.write

end Json
end VirtualNpu
