import VirtualNpu.Yaml.Scalar
import VirtualNpu.Yaml.Token

/-!
Writing a text as a scalar of a block mapping.  The plain form is taken where it
reads back as the same text; a text with a line feed becomes literal lines, and
quotes are for the rest.
-/

namespace VirtualNpu
namespace Yaml
namespace Written

def isPrintable (c : Char) : Bool :=
  let code := c.toNat
  code == 0x0A || (0x20 ≤ code && code ≤ 0x7E) || (0xA0 ≤ code && code ≤ 0xD7FF)
    || (0xE000 ≤ code && code ≤ 0xFFFD && code != 0xFEFF) || 0x10000 ≤ code

def isLineBreak (c : Char) : Bool :=
  c == '\n' || c == '\r' || c == '\u0085' || c == '\u2028' || c == '\u2029'

def isSeparator (c : Char) : Bool :=
  c == ' ' || c == '\t' || c == '\x00' || isLineBreak c

def indicators : List Char :=
  ['#', ',', '[', ']', '\x7b', '\x7d', '&', '*', '!', '|', '>', '\x27', '\x22', '%', '@', '\x60']

def beginsSpecial : List Char → Bool
  | [] => false
  | c :: rest =>
      let endsWord := rest.head?.all isSeparator
      indicators.contains c || ((c == '?' || c == ':' || c == '-') && endsWord)

def beginsMarker : List Char → Bool
  | '-' :: '-' :: '-' :: _ => true
  | '.' :: '.' :: '.' :: _ => true
  | _ => false

/-- Whether, behind the character `before`, a colon ends a word or a number sign
begins one. -/
def holdsIndicator : (before : Char) → List Char → Bool
  | _, [] => false
  | before, c :: rest =>
      (c == ':' && rest.head?.all isSeparator) || (c == '#' && isSeparator before)
        || holdsIndicator c rest

def hasPair (p q : Char → Bool) : List Char → Bool
  | a :: b :: rest => (p a && q b) || hasPair p q (b :: rest)
  | _ => false

/-- Whether a text may be plain, once it is known to hold no line break. -/
def fitsPlain (cs : List Char) : Bool :=
  !(beginsSpecial cs || beginsMarker cs || holdsIndicator (cs.headD ' ') (cs.drop 1)
    || cs.any isLineBreak || cs.head? == some ' ' || cs.getLast? == some ' ')

/-- Whether every character may stand in a scalar without escapes and no space
lies before a line break. -/
def needsNoEscape (cs : List Char) : Bool :=
  cs.all isPrintable && !hasPair (· == ' ') isLineBreak cs

def fitsSingleQuotes (cs : List Char) : Bool :=
  needsNoEscape cs && !hasPair isLineBreak (· == ' ') cs

def fitsLiteral (cs : List Char) : Bool :=
  needsNoEscape cs && !cs.isEmpty && cs.getLast? != some ' '

/-- Whether a plain scalar with this text would be taken for something else. -/
def looksTyped (s : String) : Bool :=
  meaning s != .text || isPaddedDigits s.toList

def styleOf (s : String) : Style :=
  let cs := s.toList
  if cs.contains '\n' then if fitsLiteral cs then .literal else .doubleQuoted
  else if !looksTyped s && needsNoEscape cs && fitsPlain cs then .plain
  else if fitsSingleQuotes cs then .singleQuoted
  else .doubleQuoted

def spaces (indent : Nat) : List Char := List.replicate indent ' '

/-- The inside of single quotes: a quote is written twice, and a line that
follows a break begins with the indentation. -/
def singleQuotedBody (indent : Nat) : (afterBreak : Bool) → List Char → List Char
  | afterBreak, [] => if afterBreak then spaces indent else []
  | afterBreak, c :: rest =>
      if isLineBreak c then
        (if c == '\n' && !afterBreak then ['\n', '\n'] else [c])
          ++ singleQuotedBody indent true rest
      else if c == ' ' then c :: singleQuotedBody indent afterBreak rest
      else
        (if afterBreak then spaces indent else [])
          ++ (if c == '\x27' then ['\x27', '\x27'] else [c])
          ++ singleQuotedBody indent false rest

def upperHexDigit (n : Nat) : Char := (Nat.digitChar (n % 16)).toUpper

def hexDigits : (width : Nat) → Nat → List Char
  | 0, _ => []
  | width + 1, n => hexDigits width (n / 16) ++ [upperHexDigit n]

def escaped (c : Char) : List Char :=
  let code := c.toNat
  if c = '\x22' then ['\\', '\x22']
  else if c = '\\' then ['\\', '\\']
  else if isPrintable c && !isLineBreak c then [c]
  else if code = 0x00 then ['\\', '0']
  else if code = 0x07 then ['\\', 'a']
  else if code = 0x08 then ['\\', 'b']
  else if code = 0x09 then ['\\', 't']
  else if code = 0x0A then ['\\', 'n']
  else if code = 0x0B then ['\\', 'v']
  else if code = 0x0C then ['\\', 'f']
  else if code = 0x0D then ['\\', 'r']
  else if code = 0x1B then ['\\', 'e']
  else if code = 0x85 then ['\\', 'N']
  else if code = 0x2028 then ['\\', 'L']
  else if code = 0x2029 then ['\\', 'P']
  else if code ≤ 0xFF then '\\' :: 'x' :: hexDigits 2 code
  else '\\' :: 'u' :: hexDigits 4 code

/-- The indicator of the indentation, for a text whose first line does not show it. -/
def indentationHint (cs : List Char) : List Char :=
  if cs.head?.any fun c => c == ' ' || isLineBreak c then ['2'] else []

def chompingHint (cs : List Char) : List Char :=
  match cs.reverse with
  | [] => ['-']
  | [last] => if isLineBreak last then ['+'] else ['-']
  | last :: before :: _ =>
      if !isLineBreak last then ['-'] else if isLineBreak before then ['+'] else []

/-- Literal lines, of which those that are not empty begin with the indentation. -/
def literalLines (indent : Nat) : (lineStart : Bool) → List Char → List Char
  | _, [] => []
  | lineStart, c :: rest =>
      if isLineBreak c then c :: literalLines indent true rest
      else (if lineStart then spaces indent else []) ++ c :: literalLines indent false rest

/-- The break behind a literal text whose last line has none of its own. -/
def closingBreak (cs : List Char) : List Char :=
  if cs.getLast?.any isLineBreak then [] else ['\n']

/-- A text as the value of a key, from behind the colon to the start of the next
line.  `indent` is the column of what the value spreads over further lines. -/
def value (indent : Nat) (s : String) : List Char :=
  let cs := s.toList
  match styleOf s with
  | .plain => ' ' :: (cs ++ ['\n'])
  | .singleQuoted => ' ' :: '\x27' :: (singleQuotedBody indent false cs ++ ['\x27', '\n'])
  | .doubleQuoted => ' ' :: '\x22' :: (cs.flatMap escaped ++ ['\x22', '\n'])
  | _ =>
      ' ' :: '|' :: (indentationHint cs ++ chompingHint cs ++ '\n' :: literalLines indent true cs
        ++ closingBreak cs)

end Written
end Yaml
end VirtualNpu
