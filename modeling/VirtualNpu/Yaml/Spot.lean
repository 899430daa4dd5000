/-!
The characters of a YAML text with their places.  Every line break is one
character here: CR, LF, the pair of both and NEL become LF, while the line and
paragraph separators stay themselves.
-/

namespace VirtualNpu
namespace Yaml

def isAllowed (c : Char) : Bool :=
  let code := c.toNat
  code == 0x09 || code == 0x0A || code == 0x0D || (0x20 ≤ code && code ≤ 0x7E)
    || code == 0x85 || (0xA0 ≤ code && code ≤ 0xD7FF)
    || (0xE000 ≤ code && code ≤ 0xFFFD) || 0x10000 ≤ code

def byteOrderMark : Char := '\ufeff'

/-- A line break, once breaks are made one character each. -/
def isBreak (c : Char) : Bool :=
  c == '\n' || c == '\u2028' || c == '\u2029'

def isSpaceOrTab (c : Char) : Bool :=
  c == ' ' || c == '\t'

def isNameChar (c : Char) : Bool :=
  ('0' ≤ c && c ≤ '9') || ('A' ≤ c && c ≤ 'Z') || ('a' ≤ c && c ≤ 'z')
    || c == '_' || c == '-'

/-- A character with its place: how many characters lie before it in the text,
the lines above it, and the characters before it in its line. -/
structure Spot where
  char : Char
  index : Nat
  line : Nat
  column : Nat
  deriving DecidableEq

def placeFrom (index line column : Nat) : List Char → List Spot
  | [] => []
  | '\r' :: '\n' :: rest => ⟨'\n', index, line, column⟩ :: placeFrom (index + 2) (line + 1) 0 rest
  | c :: rest =>
      let shown := if c = '\r' ∨ c = '\u0085' then '\n' else c
      ⟨shown, index, line, column⟩ ::
        (if isBreak shown then placeFrom (index + 1) (line + 1) 0 rest
         else placeFrom (index + 1) line (column + 1) rest)

def place (text : List Char) : List Spot := placeFrom 0 0 0 text

def endsWord : List Spot → Bool
  | [] => true
  | spot :: _ => isSpaceOrTab spot.char || isBreak spot.char

def startsWith (c : Char) : List Spot → Bool
  | [] => false
  | spot :: _ => spot.char == c

def startsWithAny (cs : List Char) : List Spot → Bool
  | [] => false
  | spot :: _ => cs.contains spot.char

/-- A document marker: three of this character, which end a word. -/
def startsMarker (mark : Char) : List Spot → Bool
  | a :: b :: c :: rest =>
      a.char == mark && b.char == mark && c.char == mark && endsWord rest
  | _ => false

def atMarker : List Spot → Bool
  | [] => false
  | spot :: rest =>
      spot.column == 0 && (startsMarker '-' (spot :: rest) || startsMarker '.' (spot :: rest))

def dropBlanks (spots : List Spot) : List Spot :=
  spots.dropWhile fun spot => isSpaceOrTab spot.char

/-- Drops the rest of a line, which holds blanks and then at most a comment, and
the break behind it. -/
def dropLineEnd? (spots : List Spot) : Option (List Spot) :=
  let afterBlanks := dropBlanks spots
  let atEnd :=
    if startsWith '#' afterBlanks then afterBlanks.dropWhile fun spot => !isBreak spot.char
    else afterBlanks
  match atEnd with
  | [] => some []
  | spot :: rest => if isBreak spot.char then some rest else none

end Yaml
end VirtualNpu
