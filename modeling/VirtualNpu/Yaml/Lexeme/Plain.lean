import VirtualNpu.Yaml.Lexeme.Gap

/-!
Scalars without quotes.  They end before a comment, before a colon that ends a
word, before a document marker, where a line is indented too little, and inside
a flow collection before its punctuation.
-/

namespace VirtualNpu
namespace Yaml

def flowEnds : List Char := [',', '[', ']', '\x7b', '\x7d']

/-- A colon inside a flow collection must not run into other punctuation. -/
def isStrayColon (spots : List Spot) : Bool :=
  startsWith ':' spots && startsWithAny ('?' :: flowEnds) (spots.drop 1)

def endsPlainWord (inFlow : Bool) (spots : List Spot) : Bool :=
  (startsWith ':' spots && endsWord (spots.drop 1))
    || (inFlow && startsWithAny flowEnds spots)

def endsPlainGap (inFlow : Bool) (indent : Int) : List Spot → Bool
  | [] => true
  | spot :: rest =>
      (!inFlow && (spot.column : Int) < indent) || atMarker (spot :: rest) || spot.char == '#'

/-- Reads a plain scalar whose further lines are indented by at least `indent`.
The answer tells its text, whether the scalar was left behind a line break, and
what follows the gap behind it. -/
def readPlain (inFlow : Bool) (indent : Int) : List Char → Gap → List Spot →
    Option (String × Bool × List Spot)
  | text, gap, [] => some (String.ofList text.reverse, gap.spansLines, [])
  | text, gap, spot :: rest =>
      if isSpaceOrTab spot.char then
        if gap.spansLines && (spot.column : Int) < indent && spot.char == '\t' then none
        else readPlain inFlow indent text (gap.blank spot.char) rest
      else if isBreak spot.char then
        readPlain inFlow indent text (gap.newLine spot.char) rest
      else if gap ≠ .none ∧ endsPlainGap inFlow indent (spot :: rest) then
        some (String.ofList text.reverse, gap.spansLines, spot :: rest)
      else if inFlow && isStrayColon (spot :: rest) then none
      else if endsPlainWord inFlow (spot :: rest) then
        some (String.ofList text.reverse, gap.spansLines, spot :: rest)
      else readPlain inFlow indent (spot.char :: (gap.folded ++ text)) .none rest

end Yaml
end VirtualNpu
