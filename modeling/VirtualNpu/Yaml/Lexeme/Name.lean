import VirtualNpu.Text.Digits
import VirtualNpu.Yaml.Spot
import VirtualNpu.Yaml.Token

/-!
Anchors, aliases, tags and directives: the lexemes made of names.
-/

namespace VirtualNpu
namespace Yaml

def spanChars (p : Char → Bool) : List Spot → List Char × List Spot
  | [] => ([], [])
  | spot :: rest =>
      if p spot.char then (spot.char :: (spanChars p rest).1, (spanChars p rest).2)
      else ([], spot :: rest)

def endsAnchor (spots : List Spot) : Bool :=
  endsWord spots || startsWithAny ['?', ':', ',', ']', '\x7d', '%', '@', '\x60'] spots

def readAnchor (spots : List Spot) : Option (String × List Spot) :=
  match spanChars isNameChar spots with
  | ([], _) => none
  | (name, rest) => if endsAnchor rest then some (String.ofList name, rest) else none

def isTagChar (c : Char) : Bool :=
  isNameChar c
    || [';', '/', '?', ':', '@', '&', '=', '+', '$', '.', '%', '!', '~', '*', '\x27', '(',
      ')'].contains c

def isVerbatimTagChar (c : Char) : Bool :=
  isTagChar c || [',', '[', ']'].contains c

def octetCount? (octet : Nat) : Option Nat :=
  if octet < 0x80 then some 1
  else if 0xC0 ≤ octet ∧ octet < 0xE0 then some 2
  else if 0xE0 ≤ octet ∧ octet < 0xF0 then some 3
  else if 0xF0 ≤ octet ∧ octet < 0xF8 then some 4
  else none

/-- Reads the characters of a tag that satisfy `p`.  The octets written behind
percent signs make up whole characters; `owed` of them are still to come.  Each
octet is kept as a character of its own. -/
def readTagChars (p : Char → Bool) : Nat → List Spot → Option (List Char × List Spot)
  | owed, percent :: high :: low :: rest =>
      if percent.char = '%' then
        match Text.natural? 16 [high.char, low.char] with
        | some octet =>
            let stillOwed :=
              match owed with
              | 0 => (octetCount? octet).map (· - 1)
              | n + 1 => if 0x80 ≤ octet ∧ octet < 0xC0 then some n else none
            match stillOwed with
            | some owed =>
                (readTagChars p owed rest).map fun (text, last) =>
                  (Char.ofNat octet :: text, last)
            | none => none
        | none => none
      else if owed ≠ 0 then none
      else if p percent.char then
        (readTagChars p 0 (high :: low :: rest)).map fun (text, last) =>
          (percent.char :: text, last)
      else some ([], percent :: high :: low :: rest)
  | owed, spot :: rest =>
      if owed ≠ 0 ∨ spot.char = '%' then none
      else if p spot.char then
        (readTagChars p 0 rest).map fun (text, last) => (spot.char :: text, last)
      else some ([], spot :: rest)
  | owed, [] => if owed = 0 then some ([], []) else none

def endsTag (inFlow : Bool) (spots : List Spot) : Bool :=
  endsWord spots || (inFlow && startsWith ',' spots)

/-- Reads a tag from behind its exclamation mark.  A second mark behind a name
closes a handle; without one the whole is a suffix of the handle `!`, and the
mark alone is a tag in full. -/
def readTag (inFlow : Bool) (spots : List Spot) : Option (Token × List Spot) :=
  let read : Option ((String × String) × List Spot) :=
    if startsWith '<' spots then
      match readTagChars isVerbatimTagChar 0 (spots.drop 1) with
      | some (suffix, close :: rest) =>
          if suffix.isEmpty ∨ close.char ≠ '>' then none
          else some (("", String.ofList suffix), rest)
      | _ => none
    else
      match spanChars isNameChar spots with
      | (name, mark :: rest) =>
          if mark.char = '!' then
            match readTagChars isTagChar 0 rest with
            | some (suffix, last) =>
                if suffix.isEmpty then none
                else some ((String.ofList ('!' :: name ++ ['!']), String.ofList suffix), last)
            | none => none
          else
            (readTagChars isTagChar 0 (mark :: rest)).map fun (more, last) =>
              if (name ++ more).isEmpty then (("", "!"), last)
              else (("!", String.ofList (name ++ more)), last)
      | (name, []) =>
          if name.isEmpty then some (("", "!"), [])
          else some (("!", String.ofList name), [])
  match read with
  | some ((handle, suffix), rest) =>
      if endsTag inFlow rest then some (.tag handle suffix, rest) else none
  | none => none

def readVersionNumber (spots : List Spot) : Option (Nat × List Spot) :=
  match spanChars Text.isDigit spots with
  | (digits, rest) =>
      if digits.length ≤ 9 then (Text.natural? 10 digits).map fun n => (n, rest) else none

def readVersion (spots : List Spot) : Option (Token × List Spot) := do
  let (major, afterMajor) ← readVersionNumber (dropBlanks spots)
  if startsWith '.' afterMajor then
    let (minor, rest) ← readVersionNumber (afterMajor.drop 1)
    some (.versionDirective major minor, rest)
  else none

/-- Reads the handle of a tag directive: exclamation marks around a name, or one alone. -/
def readHandle : List Spot → Option (List Char × List Spot)
  | [] => none
  | mark :: rest =>
      if mark.char ≠ '!' then none
      else
        match spanChars isNameChar rest with
        | (name, close :: last) =>
            if close.char = '!' then some ('!' :: name ++ ['!'], last)
            else if name.isEmpty then some (['!'], close :: last)
            else none
        | (name, []) => if name.isEmpty then some (['!'], []) else none

def readTagStem (spots : List Spot) : Option (Token × List Spot) := do
  let (handle, afterHandle) ← readHandle (dropBlanks spots)
  match afterHandle with
  | [] => none
  | spot :: _ =>
      if isSpaceOrTab spot.char then
        let (stem, rest) ← readTagChars isVerbatimTagChar 0 (dropBlanks afterHandle)
        if stem.isEmpty ∨ !endsWord rest then none
        else some (.tagDirective (String.ofList handle) (String.ofList stem), rest)
      else none

def readDirective (spots : List Spot) : Option (Token × List Spot) := do
  let (name, afterName) := spanChars isNameChar spots
  if !endsWord afterName then none
  let (directive, atEnd) ←
    if name = ['Y', 'A', 'M', 'L'] then readVersion afterName
    else if name = ['T', 'A', 'G'] then readTagStem afterName
    else none
  some (directive, ← dropLineEnd? atEnd)

end Yaml
end VirtualNpu
