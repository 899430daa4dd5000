import VirtualNpu.Json.Token
import VirtualNpu.Json.Value

/-!
The grammar of JSON texts.  A text of a value spells the tokens of the value one after
another, with white space before, between and behind them.  The reader and the writer
are held to this grammar, which knows neither of them.
-/

namespace VirtualNpu
namespace Json

/-! ### Numbers -/

inductive WholePart : List Char → Prop
  | zero : WholePart ['0']
  | digits {lead : Char} {rest : List Char} (digit : Text.isDigit lead = true)
      (nonzero : lead ≠ '0') (others : ∀ c ∈ rest, Text.isDigit c = true) :
      WholePart (lead :: rest)

inductive FractionPart : List Char → Prop
  | absent : FractionPart []
  | point {digits : List Char} (some : digits ≠ [])
      (all : ∀ c ∈ digits, Text.isDigit c = true) : FractionPart ('.' :: digits)

inductive ExponentPart : List Char → Prop
  | absent : ExponentPart []
  | power {mark : Char} {sign digits : List Char} (marked : mark = 'e' ∨ mark = 'E')
      (signed : sign = [] ∨ sign = ['+'] ∨ sign = ['-']) (some : digits ≠ [])
      (all : ∀ c ∈ digits, Text.isDigit c = true) : ExponentPart (mark :: (sign ++ digits))

inductive NumberSpelling : List Char → Prop
  | parts {sign whole fraction exponent : List Char} (signed : sign = [] ∨ sign = ['-'])
      (isWhole : WholePart whole) (isFraction : FractionPart fraction)
      (isExponent : ExponentPart exponent) :
      NumberSpelling (sign ++ (whole ++ (fraction ++ exponent)))

/-! ### Strings -/

/-- A part of a string: a character, or a UTF-16 code unit given by its number. -/
inductive Piece where
  | char (c : Char)
  | unit (value : Nat)

def shortEscapes : List (Char × Char) :=
  [('\x22', '\x22'), ('\\', '\\'), ('/', '/'), ('b', '\x08'), ('f', '\x0c'), ('n', '\n'),
    ('r', '\r'), ('t', '\t')]

def IsHexDigit (c : Char) (value : Nat) : Prop :=
  "0123456789abcdef".toList[value]? = some c ∨ "0123456789ABCDEF".toList[value]? = some c

inductive PieceSpelling : Piece → List Char → Prop
  | plain {c : Char} (printable : 0x20 ≤ c.toNat) (noQuote : c ≠ '\x22')
      (noBackslash : c ≠ '\\') : PieceSpelling (.char c) [c]
  | short {letter c : Char} (listed : (letter, c) ∈ shortEscapes) :
      PieceSpelling (.char c) ['\\', letter]
  | unit {a b c d : Char} {w x y z : Nat} (first : IsHexDigit a w) (second : IsHexDigit b x)
      (third : IsHexDigit c y) (fourth : IsHexDigit d z) :
      PieceSpelling (.unit (((w * 16 + x) * 16 + y) * 16 + z)) ['\\', 'u', a, b, c, d]

inductive BodySpelling : List Piece → List Char → Prop
  | nil : BodySpelling [] []
  | cons {piece : Piece} {pieces : List Piece} {cs rest : List Char}
      (head : PieceSpelling piece cs) (tail : BodySpelling pieces rest) :
      BodySpelling (piece :: pieces) (cs ++ rest)

def IsHighSurrogate (value : Nat) : Prop := 0xD800 ≤ value ∧ value ≤ 0xDBFF

def IsLowSurrogate (value : Nat) : Prop := 0xDC00 ≤ value ∧ value ≤ 0xDFFF

/-- The characters that pieces stand for.  A code unit outside the surrogates stands for
the character of its number, a high surrogate only together with the low one behind it. -/
inductive Denotes : List Piece → List Char → Prop
  | nil : Denotes [] []
  | char {c : Char} {pieces : List Piece} {cs : List Char} (tail : Denotes pieces cs) :
      Denotes (.char c :: pieces) (c :: cs)
  | unit {value : Nat} {pieces : List Piece} {cs : List Char}
      (notHigh : ¬ IsHighSurrogate value) (notLow : ¬ IsLowSurrogate value)
      (tail : Denotes pieces cs) :
      Denotes (.unit value :: pieces) (Char.ofNat value :: cs)
  | pair {high low : Nat} {pieces : List Piece} {cs : List Char}
      (isHigh : IsHighSurrogate high) (isLow : IsLowSurrogate low)
      (tail : Denotes pieces cs) :
      Denotes (.unit high :: .unit low :: pieces)
        (Char.ofNat (0x10000 + (high - 0xD800) * 0x400 + (low - 0xDC00)) :: cs)

/-! ### Tokens and values -/

/-- The spellings of a token.  A string has a text where its pieces denote one. -/
inductive TokenSpelling : Token → List Char → Prop
  | openArray : TokenSpelling .openArray ['[']
  | closeArray : TokenSpelling .closeArray [']']
  | openObject : TokenSpelling .openObject ['\x7b']
  | closeObject : TokenSpelling .closeObject ['\x7d']
  | comma : TokenSpelling .comma [',']
  | colon : TokenSpelling .colon [':']
  | null : TokenSpelling .null ['n', 'u', 'l', 'l']
  | isTrue : TokenSpelling (.bool true) ['t', 'r', 'u', 'e']
  | isFalse : TokenSpelling (.bool false) ['f', 'a', 'l', 's', 'e']
  | number {cs : List Char} (spelled : NumberSpelling cs) :
      TokenSpelling (.number (String.ofList cs)) cs
  | string {text : Option String} {pieces : List Piece} {body : List Char}
      (spelled : BodySpelling pieces body)
      (denoted : ∀ s, text = some s ↔ Denotes pieces s.toList) :
      TokenSpelling (.string text) ('\x22' :: (body ++ ['\x22']))

inductive Spells : List Token → List Char → Prop
  | nil {space : List Char} (blank : ∀ c ∈ space, Token.isSpace c = true) : Spells [] space
  | cons {token : Token} {tokens : List Token} {space cs rest : List Char}
      (blank : ∀ c ∈ space, Token.isSpace c = true) (head : TokenSpelling token cs)
      (tail : Spells tokens rest) : Spells (token :: tokens) (space ++ (cs ++ rest))

mutual

def Value.tokens : Value → List Token
  | .null => [.null]
  | .bool b => [.bool b]
  | .number lexeme => [.number lexeme]
  | .string text => [.string text]
  | .array [] => [.openArray, .closeArray]
  | .array (item :: items) => .openArray :: (item.tokens ++ itemTokens items)
  | .object [] => [.openObject, .closeObject]
  | .object ((name, value) :: members) =>
      .openObject :: .string name :: .colon :: (value.tokens ++ memberTokens members)

def itemTokens : List Value → List Token
  | [] => [.closeArray]
  | item :: items => .comma :: (item.tokens ++ itemTokens items)

def memberTokens : List (Option String × Value) → List Token
  | [] => [.closeObject]
  | (name, value) :: members =>
      .comma :: .string name :: .colon :: (value.tokens ++ memberTokens members)

end

def IsText (value : Value) (text : String) : Prop := Spells value.tokens text.toList

end Json
end VirtualNpu
