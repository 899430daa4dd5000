import VirtualNpu.Yaml.Lexeme.Block
import VirtualNpu.Yaml.Lexeme.Name
import VirtualNpu.Yaml.Lexeme.Plain
import VirtualNpu.Yaml.Lexeme.Quoted

/-!
Turning a YAML text into tokens.  A key without an indicator is recognised only
at the colon behind it, so the scanner remembers where one may have begun and
puts the tokens that announce it there afterwards.
-/

namespace VirtualNpu
namespace Yaml

/-- A place where a key may have begun.  `number` tokens were read before it; a
required key must turn out to be one. -/
structure PossibleKey where
  number : Nat
  required : Bool
  index : Nat
  line : Nat
  column : Nat

/-- Where the scanner stands.  `indent` is the column of the innermost block
collection and -1 outside of all, `outerIndents` those around it.  `key` is the
possible key of the innermost flow collection, `outerKeys` those of what lies
around it; there are as many of these as open flow collections. -/
structure Scanner where
  tokens : Array Token
  indent : Int
  outerIndents : List Int
  keyAllowed : Bool
  key : Option PossibleKey
  outerKeys : List (Option PossibleKey)

namespace Scanner

def start : Scanner := ⟨.empty, -1, [], true, none, []⟩

def inFlow (scanner : Scanner) : Bool := !scanner.outerKeys.isEmpty

def emit (scanner : Scanner) (token : Token) : Scanner :=
  { scanner with tokens := scanner.tokens.push token }

def emitAt (scanner : Scanner) (number : Nat) (token : Token) : Scanner :=
  { scanner with tokens := scanner.tokens.insertIdxIfInBounds number token }

def allowKey (scanner : Scanner) (allowed : Bool) : Scanner :=
  { scanner with keyAllowed := allowed }

def dropKey (scanner : Scanner) : Option Scanner :=
  if scanner.key.any PossibleKey.required then none else some { scanner with key := none }

def saveKey (scanner : Scanner) (spot : Spot) : Option Scanner :=
  if scanner.keyAllowed then
    scanner.dropKey.map fun scanner =>
      { scanner with
        key := some
          { number := scanner.tokens.size
            required := !scanner.inFlow && scanner.indent == (spot.column : Int)
            index := spot.index
            line := spot.line
            column := spot.column } }
  else some scanner

/-- A possible key ends with its line, and is at most 1024 characters long. -/
def isStale (spot : Spot) (key : PossibleKey) : Bool :=
  key.line < spot.line || key.index + 1024 < spot.index

def dropStale (scanner : Scanner) (spot : Spot) : Option Scanner :=
  let stale := fun key : PossibleKey => isStale spot key
  if (scanner.key :: scanner.outerKeys).any fun key =>
      key.any fun key => stale key && key.required then none
  else
    some
      { scanner with
        key := scanner.key.filter fun key => !stale key
        outerKeys := scanner.outerKeys.map fun key => key.filter fun key => !stale key }

def closeBlocks (column : Int) : Int → List Int → Array Token → Int × List Int × Array Token
  | indent, [], tokens => (indent, [], tokens)
  | indent, outer :: rest, tokens =>
      if column < indent then closeBlocks column outer rest (tokens.push .blockEnd)
      else (indent, outer :: rest, tokens)

/-- Closes the block collections that end before `column`; inside a flow
collection indentation has no meaning. -/
def unroll (scanner : Scanner) (column : Int) : Scanner :=
  if scanner.inFlow then scanner
  else
    let (indent, outerIndents, tokens) :=
      closeBlocks column scanner.indent scanner.outerIndents scanner.tokens
    { scanner with indent, outerIndents, tokens }

/-- Opens a block collection at `column` if it is deeper than the innermost one.
Its token goes behind the first `number` ones. -/
def roll (scanner : Scanner) (column number : Nat) (token : Token) : Scanner :=
  if !scanner.inFlow && scanner.indent < (column : Int) then
    { scanner.emitAt number token with
      indent := column
      outerIndents := scanner.indent :: scanner.outerIndents }
  else scanner

def openFlow (scanner : Scanner) (spot : Spot) (token : Token) : Option Scanner :=
  (scanner.saveKey spot).map fun scanner =>
    { scanner.emit token with
      keyAllowed := true
      key := none
      outerKeys := scanner.key :: scanner.outerKeys }

/-- Closes a flow collection, also where none is open. -/
def closeFlow (scanner : Scanner) (token : Token) : Option Scanner :=
  scanner.dropKey.map fun scanner =>
    let closed := { scanner.emit token with keyAllowed := false }
    match closed.outerKeys with
    | [] => closed
    | key :: outerKeys => { closed with key, outerKeys }

def blockEntry (scanner : Scanner) (spot : Spot) : Option Scanner :=
  if !scanner.inFlow && !scanner.keyAllowed then none
  else
    (scanner.roll spot.column scanner.tokens.size .blockSequenceStart).dropKey.map
      fun scanner => (scanner.allowKey true).emit .blockEntry

def explicitKey (scanner : Scanner) (spot : Spot) : Option Scanner :=
  if !scanner.inFlow && !scanner.keyAllowed then none
  else
    (scanner.roll spot.column scanner.tokens.size .blockMappingStart).dropKey.map
      fun scanner => (scanner.allowKey (!scanner.inFlow)).emit .key

/-- Begins a value.  If a key may have begun before it, that was one. -/
def valueMark (scanner : Scanner) (spot : Spot) : Option Scanner :=
  match scanner.key with
  | some key =>
      let announced := (scanner.emitAt key.number .key).roll key.column key.number
        .blockMappingStart
      some ({ announced with key := none, keyAllowed := false }.emit .value)
  | none =>
      if !scanner.inFlow && !scanner.keyAllowed then none
      else
        let rolled := scanner.roll spot.column scanner.tokens.size .blockMappingStart
        some ((rolled.allowKey (!scanner.inFlow)).emit .value)

/-- Begins or ends a document, or a directive line: all blocks are closed. -/
def marker (scanner : Scanner) (token : Token) : Option Scanner :=
  (scanner.unroll (-1)).dropKey.map fun scanner => (scanner.allowKey false).emit token

def lexeme (scanner : Scanner) (spot : Spot) (token : Token) : Option Scanner :=
  (scanner.saveKey spot).map fun scanner => (scanner.allowKey false).emit token

end Scanner

/-- Drops blanks, comments and line breaks before the next token.  A tab is no
indentation, so in block context it is dropped only where no key may begin; a
further line in block context may begin with a key. -/
def toNextToken (inFlow : Bool) : (inComment keyAllowed : Bool) → List Spot → Bool × List Spot
  | _, keyAllowed, [] => (keyAllowed, [])
  | inComment, keyAllowed, spot :: rest =>
      if isBreak spot.char then toNextToken inFlow false (keyAllowed || !inFlow) rest
      else if inComment || spot.char == '#' then toNextToken inFlow true keyAllowed rest
      else if spot.char == ' ' || (spot.char == '\t' && (inFlow || !keyAllowed))
          || (spot.char == byteOrderMark && spot.column == 0) then
        toNextToken inFlow false keyAllowed rest
      else (keyAllowed, spot :: rest)

def plainExclusions : List Char :=
  ['-', '?', ':', ',', '[', ']', '\x7b', '\x7d', '#', '&', '*', '!', '|', '>', '\x27', '\x22',
    '%', '@', '\x60']

def beginsPlain (inFlow : Bool) (spot : Spot) (rest : List Spot) : Bool :=
  !(isSpaceOrTab spot.char || plainExclusions.contains spot.char)
    || (spot.char == '-' && !startsWithAny [' ', '\t'] rest)
    || (!inFlow && (spot.char == '?' || spot.char == ':') && !endsWord rest)

def Scanner.take (scanner : Scanner) (spot : Spot) (rest : List Spot) :
    Option (Scanner × List Spot) :=
  let inFlow := scanner.inFlow
  let c := spot.char
  let plain (scanner : Option Scanner) := scanner.map fun scanner => (scanner, rest)
  if spot.column = 0 ∧ c = '%' then do
    let (token, following) ← readDirective rest
    some (← scanner.marker token, following)
  else if spot.column = 0 ∧ startsMarker '-' (spot :: rest) then
    (scanner.marker .documentStart).map fun scanner => (scanner, rest.drop 2)
  else if spot.column = 0 ∧ startsMarker '.' (spot :: rest) then
    (scanner.marker .documentEnd).map fun scanner => (scanner, rest.drop 2)
  else if c = '[' then plain (scanner.openFlow spot .flowSequenceStart)
  else if c = '\x7b' then plain (scanner.openFlow spot .flowMappingStart)
  else if c = ']' then plain (scanner.closeFlow .flowSequenceEnd)
  else if c = '\x7d' then plain (scanner.closeFlow .flowMappingEnd)
  else if c = ',' then
    plain (scanner.dropKey.map fun scanner => (scanner.allowKey true).emit .flowEntry)
  else if c = '-' ∧ endsWord rest then plain (scanner.blockEntry spot)
  else if c = '?' ∧ (inFlow ∨ endsWord rest) then plain (scanner.explicitKey spot)
  else if c = ':' ∧ (inFlow ∨ endsWord rest) then plain (scanner.valueMark spot)
  else if c = '*' then do
    let (name, following) ← readAnchor rest
    some (← scanner.lexeme spot (.alias name), following)
  else if c = '&' then do
    let (name, following) ← readAnchor rest
    some (← scanner.lexeme spot (.anchor name), following)
  else if c = '!' then do
    let (tag, following) ← readTag inFlow rest
    some (← scanner.lexeme spot tag, following)
  else if (c = '|' ∨ c = '>') ∧ !inFlow then do
    let dropped ← scanner.dropKey
    let (text, following) ← readBlock (c = '>') scanner.indent rest
    let style := if c = '>' then Style.folded else Style.literal
    some ((dropped.allowKey true).emit (.scalar style text), following)
  else if c = '\x27' ∨ c = '\x22' then do
    let (text, following) ← readQuoted c .inside [] .none rest
    let style := if c = '\x27' then Style.singleQuoted else Style.doubleQuoted
    some (← scanner.lexeme spot (.scalar style text), following)
  else if beginsPlain inFlow spot rest then do
    let (text, leftLine, following) ←
      readPlain inFlow (scanner.indent + 1) [] .none (spot :: rest)
    let taken ← scanner.lexeme spot (.scalar .plain text)
    some (taken.allowKey leftLine, following)
  else none

/-- Reads tokens to the end of the text, while `fuel` lasts; every token takes a
character. -/
def Scanner.run : Nat → Scanner → List Spot → Option (Array Token)
  | 0, _, _ => none
  | fuel + 1, scanner, spots =>
      match toNextToken scanner.inFlow false scanner.keyAllowed spots with
      | (_, []) => scanner.dropKey.map fun scanner => (scanner.unroll (-1)).tokens
      | (keyAllowed, spot :: rest) => do
          let current ← (scanner.allowKey keyAllowed).dropStale spot
          let (taken, following) ← (current.unroll spot.column).take spot rest
          Scanner.run fuel taken following

def tokens? (text : String) : Option (List Token) :=
  let cs := text.toList
  if cs.all isAllowed then
    (Scanner.run (cs.length + 1) .start (place cs)).map Array.toList
  else none

end Yaml
end VirtualNpu
