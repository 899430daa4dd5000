/-!
Reading whole numbers from their digits, in a base and within the range of a
fixed width.
-/

namespace VirtualNpu
namespace Text

/-- The value of a digit of `base`; letters of either case count on from ten. -/
def digit? (base : Nat) (c : Char) : Option Nat :=
  let value :=
    if '0' ≤ c ∧ c ≤ '9' then c.toNat - '0'.toNat
    else if 'a' ≤ c ∧ c ≤ 'z' then c.toNat - 'a'.toNat + 10
    else if 'A' ≤ c ∧ c ≤ 'Z' then c.toNat - 'A'.toNat + 10
    else base
  if value < base then some value else none

def isDigit (c : Char) : Bool :=
  '0' ≤ c && c ≤ '9'

/-- Reads digits of `base`, most significant first, after those already worth `value`. -/
def readDigits? (base : Nat) : Nat → List Char → Option Nat
  | value, [] => some value
  | value, c :: rest =>
      match digit? base c with
      | some d => readDigits? base (value * base + d) rest
      | none => none

def natural? (base : Nat) : List Char → Option Nat
  | [] => none
  | digits => readDigits? base 0 digits

inductive NumberError where
  | empty
  | invalidDigit
  | tooLarge
  | tooSmall
  deriving DecidableEq

def NumberError.message : NumberError → String
  | .empty => "cannot parse integer from empty string"
  | .invalidDigit => "invalid digit found in string"
  | .tooLarge => "number too large to fit in target type"
  | .tooSmall => "number too small to fit in target type"

/-- Reads decimal digits up to `limit`.  The first fault from the left is the
one reported, so a value out of range hides a later invalid digit. -/
def readBounded (limit : Nat) (excess : NumberError) :
    Nat → List Char → Except NumberError Nat
  | value, [] => .ok value
  | value, c :: rest =>
      match digit? 10 c with
      | none => .error .invalidDigit
      | some d =>
          if value * 10 + d ≤ limit then readBounded limit excess (value * 10 + d) rest
          else .error excess

def readMagnitude (limit : Nat) (excess : NumberError) :
    List Char → Except NumberError Nat
  | [] => .error .invalidDigit
  | digits => readBounded limit excess 0 digits

/-- Reads a decimal number of 64 bits without a sign: digits, after at most one `+`. -/
def readUnsigned64 : List Char → Except NumberError Nat
  | [] => .error .empty
  | '+' :: digits => readMagnitude 0xFFFFFFFFFFFFFFFF .tooLarge digits
  | digits => readMagnitude 0xFFFFFFFFFFFFFFFF .tooLarge digits

def readSigned64 : List Char → Except NumberError Int
  | [] => .error .empty
  | '-' :: digits => (readMagnitude 0x8000000000000000 .tooSmall digits).map fun n => -(n : Int)
  | '+' :: digits => (readMagnitude 0x7FFFFFFFFFFFFFFF .tooLarge digits).map Int.ofNat
  | digits => (readMagnitude 0x7FFFFFFFFFFFFFFF .tooLarge digits).map Int.ofNat

def padded (width : Nat) (n : Nat) : String :=
  let digits := Nat.toDigits 10 n
  String.ofList (List.replicate (width - digits.length) '0' ++ digits)

end Text
end VirtualNpu
