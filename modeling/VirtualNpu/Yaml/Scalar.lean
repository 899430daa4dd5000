import VirtualNpu.Text.Digits

/-!
What a plain scalar stands for by its text alone: nothing, a truth value, a
number, or the text itself.
-/

namespace VirtualNpu
namespace Yaml

inductive Meaning where
  | null
  | bool (b : Bool)
  | int (n : Int)
  | float
  | text
  deriving DecidableEq

/-- The words for nothing; an empty text has to be plain to be one. -/
def isNullWord (s : String) : Bool :=
  s == "null" || s == "Null" || s == "NULL" || s == "~"

def boolOfWord? (s : String) : Option Bool :=
  if s = "true" ∨ s = "True" ∨ s = "TRUE" then some true
  else if s = "false" ∨ s = "False" ∨ s = "FALSE" then some false
  else none

def dropSign : List Char → List Char
  | '+' :: rest => rest
  | '-' :: rest => rest
  | cs => cs

/-- Digits with a leading zero, behind at most one sign, are no number. -/
def isPaddedDigits (cs : List Char) : Bool :=
  match dropSign cs with
  | '0' :: c :: rest => (c :: rest).all Text.isDigit
  | _ => false

def radixNatural? : List Char → Option Nat
  | '0' :: 'x' :: digits => Text.natural? 16 digits
  | '0' :: 'o' :: digits => Text.natural? 8 digits
  | '0' :: 'b' :: digits => Text.natural? 2 digits
  | _ => none

def plainNatural? (written : List Char) (digits : List Char) : Option Nat :=
  match radixNatural? digits with
  | some n => some n
  | none => if isPaddedDigits written then none else Text.natural? 10 digits

def natural? (cs : List Char) : Option Nat :=
  match cs with
  | '+' :: digits => plainNatural? cs digits
  | digits => plainNatural? cs digits

def negated? (cs : List Char) : Option Nat :=
  match cs with
  | '-' :: digits => plainNatural? cs digits
  | _ => none

/-- The digits of a decimal fraction: those before and behind the point, and the
exponent of ten. -/
structure Decimal where
  whole : List Char
  fraction : List Char
  exponent : Int

def spanDigits (cs : List Char) : List Char × List Char :=
  (cs.takeWhile Text.isDigit, cs.dropWhile Text.isDigit)

def exponent? : List Char → Option Int
  | [] => some 0
  | c :: rest =>
      if c = 'e' ∨ c = 'E' then
        let magnitude := (Text.natural? 10 (dropSign rest)).map Int.ofNat
        if rest.head? = some '-' then magnitude.map (-·) else magnitude
      else none

/-- Reads a decimal fraction without a sign.  It has a digit on one side of the point. -/
def decimal? (cs : List Char) : Option Decimal :=
  match spanDigits cs with
  | (whole, '.' :: rest) =>
      let (fraction, atExponent) := spanDigits rest
      if whole.isEmpty && fraction.isEmpty then none
      else (exponent? atExponent).map fun e => ⟨whole, fraction, e⟩
  | (whole, rest) =>
      if whole.isEmpty then none else (exponent? rest).map fun e => ⟨whole, [], e⟩

/-- Whether a decimal fraction stays below the point from which on a binary
fraction of 53 digits and exponents up to 1023 rounds to infinity. -/
def Decimal.isFinite (decimal : Decimal) : Bool :=
  let digits := (decimal.whole ++ decimal.fraction).dropWhile (· == '0')
  let scale := decimal.exponent - decimal.fraction.length
  let places := (digits.length : Int) + scale
  if digits.isEmpty || places < 300 then true
  else if 310 < places then false
  else
    let value := (Text.readDigits? 10 0 digits).getD 0
    let bound := Nat.pow 2 1024 - Nat.pow 2 970
    if 0 ≤ scale then value * Nat.pow 10 scale.toNat < bound
    else value < bound * Nat.pow 10 (-scale).toNat

def isInfinityWord (s : String) : Bool :=
  s == ".inf" || s == ".Inf" || s == ".INF"

def isNotANumberWord (s : String) : Bool :=
  s == ".nan" || s == ".NaN" || s == ".NAN"

def isFloat (cs : List Char) : Bool :=
  let finite (digits : List Char) : Bool := (decimal? digits).any Decimal.isFinite
  match cs with
  | '+' :: rest => isInfinityWord (String.ofList rest) || finite rest
  | '-' :: rest => isInfinityWord (String.ofList rest) || finite rest
  | cs => isInfinityWord (String.ofList cs) || isNotANumberWord (String.ofList cs) || finite cs

def integer? (cs : List Char) : Option Int :=
  match natural? cs with
  | some n => some n
  | none => (negated? cs).map fun n => -(n : Int)

/-- Whether a whole number has a machine form of at most 128 bits. -/
def fitsWide (n : Int) : Bool :=
  -0x80000000000000000000000000000000 ≤ n && n ≤ 0xFFFFFFFFFFFFFFFFFFFFFFFFFFFFFFFF

def meaning (s : String) : Meaning :=
  if s = "" ∨ isNullWord s then .null
  else
    match boolOfWord? s with
    | some b => .bool b
    | none =>
        match (integer? s.toList).filter fitsWide with
        | some n => .int n
        | none => if !isPaddedDigits s.toList && isFloat s.toList then .float else .text

end Yaml
end VirtualNpu
