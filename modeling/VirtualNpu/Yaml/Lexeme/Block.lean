import VirtualNpu.Text.Digits
import VirtualNpu.Yaml.Spot

/-!
Block scalars: lines below an indicator, kept as they are or folded.
-/

namespace VirtualNpu
namespace Yaml

inductive Chomping where
  | strip
  | clip
  | keep
  deriving DecidableEq

def readChomping : List Spot → Option Chomping × List Spot
  | [] => (none, [])
  | spot :: rest =>
      if spot.char = '+' then (some .keep, rest)
      else if spot.char = '-' then (some .strip, rest)
      else (none, spot :: rest)

/-- Reads an indentation indicator, if there is one; it must not be zero. -/
def readIncrement : List Spot → Option (Option Nat × List Spot)
  | [] => some (none, [])
  | spot :: rest =>
      if Text.isDigit spot.char then
        if spot.char = '0' then none
        else some (some (spot.char.toNat - '0'.toNat), rest)
      else some (none, spot :: rest)

def readBlockHeader (spots : List Spot) : Option (Chomping × Option Nat × List Spot) := do
  match readChomping spots with
  | (some chomping, afterChomping) =>
      let (increment, atEnd) ← readIncrement afterChomping
      some (chomping, increment, ← dropLineEnd? atEnd)
  | (none, _) =>
      let (increment, afterIncrement) ← readIncrement spots
      let (chomping, atEnd) :=
        match increment with
        | some _ => readChomping afterIncrement
        | none => (none, afterIncrement)
      some (chomping.getD .clip, increment, ← dropLineEnd? atEnd)

/-- Drops empty lines and the indentation before the next line that is not.  An
`indent` that is not known yet takes in all spaces.  The answer tells the
deepest column reached and the breaks, last first. -/
def dropIndentation (indent : Option Nat) : (deepest : Nat) → (breaks : List Char) →
    List Spot → Option (Nat × List Char × List Spot)
  | deepest, breaks, [] => some (deepest, breaks, [])
  | deepest, breaks, spot :: rest =>
      let within :=
        match indent with
        | some columns => decide (spot.column < columns)
        | none => true
      if spot.char == ' ' && within then dropIndentation indent deepest breaks rest
      else if spot.char == '\t' && within then none
      else if isBreak spot.char then
        dropIndentation indent (max deepest spot.column) (spot.char :: breaks) rest
      else some (max deepest spot.column, breaks, spot :: rest)

/-- A line in front, last character first, then its break and what follows. -/
def splitLine : List Char → List Spot → List Char × Option Char × List Spot
  | line, [] => (line, none, [])
  | line, spot :: rest =>
      if isBreak spot.char then (line, some spot.char, rest)
      else splitLine (spot.char :: line) rest

/-- What was read of a block scalar, last character first: its text, the break of
its last line, the breaks of the empty lines behind it, and whether its last line
began with a blank. -/
structure BlockText where
  text : List Char
  lastBreak : Option Char
  emptyLines : List Char
  afterIndented : Bool

namespace BlockText

/-- The text with the breaks before a line that begins with a blank or not.  A
folded scalar joins two lines that both begin without one. -/
def joined (read : BlockText) (fold startsBlank : Bool) : List Char :=
  let joins := fold && read.lastBreak == some '\n' && !read.afterIndented && !startsBlank
  let between := if joins then (if read.emptyLines.isEmpty then [' '] else [])
    else read.lastBreak.toList
  read.emptyLines ++ between ++ read.text

def finish (read : BlockText) (chomping : Chomping) : String :=
  String.ofList
    (match chomping with
    | .strip => read.text
    | .clip => read.lastBreak.toList ++ read.text
    | .keep => read.emptyLines ++ read.lastBreak.toList ++ read.text).reverse

end BlockText

/-- Reads the lines of a block scalar that are indented by exactly `indent`,
while `fuel` lasts; every line takes a character. -/
def readBlockLines (fold : Bool) (indent : Nat) : Nat → BlockText → List Spot →
    Option (BlockText × List Spot)
  | 0, _, _ => none
  | _ + 1, read, [] => some (read, [])
  | fuel + 1, read, spot :: rest =>
      if spot.column ≠ indent then some (read, spot :: rest)
      else
        let startsBlank := isSpaceOrTab spot.char
        let (text, lastBreak, afterLine) :=
          splitLine (read.joined fold startsBlank) (spot :: rest)
        match dropIndentation (some indent) 0 [] afterLine with
        | some (_, emptyLines, following) =>
            readBlockLines fold indent fuel ⟨text, lastBreak, emptyLines, startsBlank⟩ following
        | none => none

def readBlock (fold : Bool) (parent : Int) (spots : List Spot) :
    Option (String × List Spot) := do
  let (chomping, increment, lines) ← readBlockHeader spots
  let known := increment.map fun columns => columns + parent.toNat
  let (deepest, emptyLines, content) ← dropIndentation known 0 [] lines
  let indent := known.getD (max deepest (max (parent + 1).toNat 1))
  let (read, rest) ←
    readBlockLines fold indent (content.length + 1) ⟨[], none, emptyLines, false⟩ content
  some (read.finish chomping, rest)

end Yaml
end VirtualNpu
