import VirtualNpu.Text.Digits

/-!
JSON tokens and the reading of a text into them.  White space between tokens is
the four characters of the JSON grammar.
-/

namespace VirtualNpu
namespace Json

/-- A token.  A string is `none` where its escapes leave a surrogate unpaired. -/
inductive Token where
  | openArray
  | closeArray
  | openObject
  | closeObject
  | comma
  | colon
  | null
  | bool (b : Bool)
  | number (lexeme : String)
  | string (text : Option String)
  deriving DecidableEq

namespace Token

def isSpace (c : Char) : Bool :=
  c == ' ' || c == '\t' || c == '\n' || c == '\r'

def shortEscape? (c : Char) : Option Char :=
  if c = '\x22' then some '\x22'
  else if c = '\\' then some '\\'
  else if c = '/' then some '/'
  else if c = 'b' then some '\x08'
  else if c = 'f' then some '\x0c'
  else if c = 'n' then some '\n'
  else if c = 'r' then some '\r'
  else if c = 't' then some '\t'
  else none

def codeUnit? (a b c d : Char) : Option Nat :=
  Text.natural? 16 [a, b, c, d]

def isHighSurrogate (unit : Nat) : Bool :=
  0xD800 ≤ unit && unit ≤ 0xDBFF

def isLowSurrogate (unit : Nat) : Bool :=
  0xDC00 ≤ unit && unit ≤ 0xDFFF

def pairedChar (high low : Nat) : Char :=
  Char.ofNat (0x10000 + (high - 0xD800) * 0x400 + (low - 0xDC00))

/-- What is read of a string: its characters so far, last first, unless a
surrogate was left unpaired, and the high surrogate that waits for its partner. -/
structure StringState where
  text : Option (List Char)
  pending : Option Nat

namespace StringState

def start : StringState := ⟨some [], none⟩

/-- A waiting surrogate that finds no partner leaves the string without a text. -/
def settle (state : StringState) : StringState :=
  match state.pending with
  | some _ => ⟨none, none⟩
  | none => state

def push (state : StringState) (c : Char) : StringState :=
  { state.settle with text := state.settle.text.map (c :: ·) }

def pushUnit (state : StringState) (unit : Nat) : StringState :=
  if isLowSurrogate unit then
    match state.pending with
    | some high => ⟨state.text.map (pairedChar high unit :: ·), none⟩
    | none => ⟨none, none⟩
  else if isHighSurrogate unit then { state.settle with pending := some unit }
  else state.push (Char.ofNat unit)

def finish (state : StringState) : Option String :=
  state.settle.text.map fun cs => String.ofList cs.reverse

end StringState

def readString : StringState → List Char → Option (Option String × List Char)
  | _, [] => none
  | state, '\\' :: 'u' :: a :: b :: c :: d :: rest =>
      match codeUnit? a b c d with
      | some unit => readString (state.pushUnit unit) rest
      | none => none
  | state, '\\' :: c :: rest =>
      match shortEscape? c with
      | some plain => readString (state.push plain) rest
      | none => none
  | state, c :: rest =>
      if c = '\x22' then some (state.finish, rest)
      else if c = '\\' ∨ c.toNat < 0x20 then none
      else readString (state.push c) rest

def spanDigits : List Char → List Char × List Char
  | [] => ([], [])
  | c :: rest =>
      if Text.isDigit c then (c :: (spanDigits rest).1, (spanDigits rest).2)
      else ([], c :: rest)

/-- The integer part of a number: a zero alone, or digits that do not begin with one. -/
def readWhole : List Char → Option (List Char × List Char)
  | '0' :: rest =>
      match rest with
      | c :: _ => if Text.isDigit c then none else some (['0'], rest)
      | [] => some (['0'], rest)
  | cs =>
      match spanDigits cs with
      | ([], _) => none
      | (digits, rest) => some (digits, rest)

def readFraction : List Char → Option (List Char × List Char)
  | '.' :: cs =>
      match spanDigits cs with
      | ([], _) => none
      | (digits, rest) => some ('.' :: digits, rest)
  | cs => some ([], cs)

def readExponentSign : List Char → List Char × List Char
  | c :: cs => if c = '+' ∨ c = '-' then ([c], cs) else ([], c :: cs)
  | [] => ([], [])

def readExponent : List Char → Option (List Char × List Char)
  | c :: cs =>
      if c = 'e' ∨ c = 'E' then
        let (sign, digitsOn) := readExponentSign cs
        match spanDigits digitsOn with
        | ([], _) => none
        | (digits, rest) => some (c :: (sign ++ digits), rest)
      else some ([], c :: cs)
  | [] => some ([], [])

def readNumber (cs : List Char) : Option (String × List Char) := do
  let (sign, magnitude) :=
    match cs with
    | '-' :: rest => (['-'], rest)
    | cs => ([], cs)
  let (whole, afterWhole) ← readWhole magnitude
  let (fraction, afterFraction) ← readFraction afterWhole
  let (exponent, rest) ← readExponent afterFraction
  some (String.ofList (sign ++ whole ++ fraction ++ exponent), rest)

/-- Reads the token in front of a text that does not begin with white space. -/
def next? : List Char → Option (Token × List Char)
  | '[' :: rest => some (.openArray, rest)
  | ']' :: rest => some (.closeArray, rest)
  | '\x7b' :: rest => some (.openObject, rest)
  | '\x7d' :: rest => some (.closeObject, rest)
  | ',' :: rest => some (.comma, rest)
  | ':' :: rest => some (.colon, rest)
  | 'n' :: 'u' :: 'l' :: 'l' :: rest => some (.null, rest)
  | 't' :: 'r' :: 'u' :: 'e' :: rest => some (.bool true, rest)
  | 'f' :: 'a' :: 'l' :: 's' :: 'e' :: rest => some (.bool false, rest)
  | '\x22' :: rest => (readString .start rest).map fun read => (.string read.1, read.2)
  | cs => (readNumber cs).map fun read => (.number read.1, read.2)

/-- Reads tokens, last first, while `fuel` lasts; every token takes a character. -/
def scanFrom : Nat → List Token → List Char → Option (List Token)
  | 0, _, _ => none
  | fuel + 1, read, cs =>
      match cs.dropWhile isSpace with
      | [] => some read.reverse
      | c :: rest =>
          match next? (c :: rest) with
          | some (token, following) => scanFrom fuel (token :: read) following
          | none => none

def scan (cs : List Char) : Option (List Token) :=
  scanFrom (cs.length + 1) [] cs

end Token
end Json
end VirtualNpu
