import VirtualNpu.Yaml.Token

/-!
YAML events: the nodes of one document in the order in which they begin and end.
Nodes that are left out appear as empty plain scalars.
-/

namespace VirtualNpu
namespace Yaml

/-- An event.  A tag is given in full; a plain scalar without one is still to be
resolved by its text. -/
inductive Event where
  | alias (name : String)
  | scalar (anchor tag : Option String) (style : Style) (text : String)
  | sequenceStart (anchor tag : Option String)
  | sequenceEnd
  | mappingStart (anchor tag : Option String)
  | mappingEnd
  deriving DecidableEq

namespace Event

def omitted : Event := .scalar none none .plain ""

/-- What is expected next inside a collection that is open. -/
inductive Place where
  | blockItem
  /-- an item of a block sequence that is not indented, or what follows it -/
  | looseItem
  | blockKey
  | blockValue
  | firstFlowItem
  | flowItem
  /-- the key of a pair that is an item of a flow sequence -/
  | pairKey
  | pairValue
  | pairEnd
  | firstFlowKey
  | flowKey
  | flowValue
  /-- the value, which is left out, of a node that stands for a key -/
  | noFlowValue
  deriving DecidableEq

abbrev Handles := List (String × String)

def standardHandles : Handles := [("!", "!"), ("!!", "tag:yaml.org,2002:")]

def resolveTag (handles : Handles) (handle suffix : String) : Option String :=
  if handle = "" then some suffix
  else (List.lookup handle handles).map fun stem => stem ++ suffix

structure Properties where
  anchor : Option String
  tag : Option String

def readProperties (handles : Handles) : List Token → Option (Properties × List Token)
  | .anchor name :: .tag handle suffix :: rest =>
      (resolveTag handles handle suffix).map fun tag => (⟨some name, some tag⟩, rest)
  | .anchor name :: rest => some (⟨some name, none⟩, rest)
  | .tag handle suffix :: .anchor name :: rest =>
      (resolveTag handles handle suffix).map fun tag => (⟨some name, some tag⟩, rest)
  | .tag handle suffix :: rest =>
      (resolveTag handles handle suffix).map fun tag => (⟨none, some tag⟩, rest)
  | tokens => some (⟨none, none⟩, tokens)

/-- One step of reading: the event, the places that are open after it and the
tokens that are left. -/
abbrev Step := Event × List Place × List Token

/-- Reads the start of a node inside `places`.  Block collections are read where
`block` allows them, and a sequence without indentation where `loose` does.  The
tag `!` on a scalar says nothing. -/
def readNode (handles : Handles) (block loose : Bool) (places : List Place) :
    List Token → Option Step
  | .alias name :: rest => some (.alias name, places, rest)
  | tokens =>
      match readProperties handles tokens with
      | none => none
      | some (⟨anchor, tag⟩, content) =>
          let opened (place : Place) (event : Event) (rest : List Token) : Option Step :=
            some (event, place :: places, rest)
          match content with
          | .scalar style text :: rest =>
              some (.scalar anchor (tag.filter (· ≠ "!")) style text, places, rest)
          | .flowSequenceStart :: rest =>
              opened .firstFlowItem (.sequenceStart anchor tag) rest
          | .flowMappingStart :: rest => opened .firstFlowKey (.mappingStart anchor tag) rest
          | following =>
              match block, loose, following with
              | _, true, .blockEntry :: _ =>
                  opened .looseItem (.sequenceStart anchor tag) following
              | true, _, .blockSequenceStart :: rest =>
                  opened .blockItem (.sequenceStart anchor tag) rest
              | true, _, .blockMappingStart :: rest =>
                  opened .blockKey (.mappingStart anchor tag) rest
              | _, _, _ =>
                  if anchor.isSome || tag.isSome then
                    some (.scalar anchor tag .plain "", places, following)
                  else none

def nextIs (tokens : List Token) (expected : List Token) : Bool :=
  match tokens with
  | [] => false
  | token :: _ => expected.contains token

/-- Reads a node inside `places`, which is left out if one of `ends` is next. -/
def nodeUnless (handles : Handles) (block loose : Bool) (ends : List Token)
    (places : List Place) (tokens : List Token) : Option Step :=
  if nextIs tokens ends then some (omitted, places, tokens)
  else readNode handles block loose places tokens

def step (handles : Handles) (outer : List Place) : Place → List Token → Option Step
  | .blockItem, .blockEntry :: rest =>
      nodeUnless handles true false [.blockEntry, .blockEnd] (.blockItem :: outer) rest
  | .blockItem, .blockEnd :: rest => some (.sequenceEnd, outer, rest)
  | .blockItem, _ => none
  | .looseItem, .blockEntry :: rest =>
      nodeUnless handles true false [.blockEntry, .key, .value, .blockEnd]
        (.looseItem :: outer) rest
  | .looseItem, tokens => some (.sequenceEnd, outer, tokens)
  | .blockKey, .key :: rest =>
      nodeUnless handles true true [.key, .value, .blockEnd] (.blockValue :: outer) rest
  | .blockKey, .blockEnd :: rest => some (.mappingEnd, outer, rest)
  | .blockKey, _ => none
  | .blockValue, .value :: rest =>
      nodeUnless handles true true [.key, .value, .blockEnd] (.blockKey :: outer) rest
  | .blockValue, tokens => some (omitted, .blockKey :: outer, tokens)
  | .firstFlowItem, .flowSequenceEnd :: rest => some (.sequenceEnd, outer, rest)
  | .firstFlowItem, .key :: rest =>
      some (.mappingStart none none, .pairKey :: .flowItem :: outer, rest)
  | .firstFlowItem, tokens => readNode handles false false (.flowItem :: outer) tokens
  | .flowItem, .flowSequenceEnd :: rest => some (.sequenceEnd, outer, rest)
  | .flowItem, .flowEntry :: .flowSequenceEnd :: rest => some (.sequenceEnd, outer, rest)
  | .flowItem, .flowEntry :: .key :: rest =>
      some (.mappingStart none none, .pairKey :: .flowItem :: outer, rest)
  | .flowItem, .flowEntry :: rest => readNode handles false false (.flowItem :: outer) rest
  | .flowItem, _ => none
  | .pairKey, tokens =>
      if nextIs tokens [.value, .flowEntry, .flowSequenceEnd] then
        some (omitted, .pairValue :: outer, tokens.drop 1)
      else readNode handles false false (.pairValue :: outer) tokens
  | .pairValue, .value :: rest =>
      nodeUnless handles false false [.flowEntry, .flowSequenceEnd] (.pairEnd :: outer) rest
  | .pairValue, tokens => some (omitted, .pairEnd :: outer, tokens)
  | .pairEnd, tokens => some (.mappingEnd, outer, tokens)
  | .firstFlowKey, .flowMappingEnd :: rest => some (.mappingEnd, outer, rest)
  | .firstFlowKey, .key :: rest =>
      nodeUnless handles false false [.value, .flowEntry, .flowMappingEnd]
        (.flowValue :: outer) rest
  | .firstFlowKey, tokens => readNode handles false false (.noFlowValue :: outer) tokens
  | .flowKey, .flowMappingEnd :: rest => some (.mappingEnd, outer, rest)
  | .flowKey, .flowEntry :: .flowMappingEnd :: rest => some (.mappingEnd, outer, rest)
  | .flowKey, .flowEntry :: .key :: rest =>
      nodeUnless handles false false [.value, .flowEntry, .flowMappingEnd]
        (.flowValue :: outer) rest
  | .flowKey, .flowEntry :: rest => readNode handles false false (.noFlowValue :: outer) rest
  | .flowKey, _ => none
  | .flowValue, .value :: rest =>
      nodeUnless handles false false [.flowEntry, .flowMappingEnd] (.flowKey :: outer) rest
  | .flowValue, tokens => some (omitted, .flowKey :: outer, tokens)
  | .noFlowValue, tokens => some (omitted, .flowKey :: outer, tokens)

/-- Reads events, last first, until no place is open, while `fuel` lasts. -/
def run (handles : Handles) : Nat → List Event → List Place → List Token →
    Option (List Event × List Token)
  | _, read, [], tokens => some (read, tokens)
  | 0, _, _ :: _, _ => none
  | fuel + 1, read, place :: outer, tokens =>
      match step handles outer place tokens with
      | some (event, places, rest) => run handles fuel (event :: read) places rest
      | none => none

/-- The events of the node in front.  A token begins or ends at most four of them. -/
def nodeEvents? (handles : Handles) (tokens : List Token) :
    Option (List Event × List Token) := do
  let (first, places, rest) ← readNode handles true false [] tokens
  let (read, last) ← run handles (5 * tokens.length + 5) [first] places rest
  some (read.reverse, last)

/-- Reads the directives of a document: the handles they add, and whether a
version was named already.  There is one version at most, 1.1 or 1.2, and one
directive for each handle. -/
def readDirectives : (versioned : Bool) → Handles → List Token →
    Option (Handles × List Token)
  | versioned, handles, .versionDirective major minor :: rest =>
      if versioned || major != 1 || (minor != 1 && minor != 2) then none
      else readDirectives true handles rest
  | versioned, handles, .tagDirective handle stem :: rest =>
      if (List.lookup handle handles).isSome then none
      else readDirectives versioned (handles ++ [(handle, stem)]) rest
  | _, handles, tokens => some (handles, tokens)

def endsEmptyDocument : List Token → Bool
  | [] => true
  | .versionDirective _ _ :: _ => true
  | .tagDirective _ _ :: _ => true
  | .documentStart :: _ => true
  | .documentEnd :: _ => true
  | _ => false

def isAnnounced : List Token → Bool
  | .versionDirective _ _ :: _ => true
  | .tagDirective _ _ :: _ => true
  | .documentStart :: _ => true
  | _ => false

def documentEvents? (tokens : List Token) : Option (List Event × List Token) :=
  if isAnnounced tokens then do
    let (handles, afterDirectives) ← readDirectives false [] tokens
    match afterDirectives with
    | .documentStart :: content =>
        if endsEmptyDocument content then some ([omitted], content)
        else nodeEvents? (handles ++ standardHandles) content
    | _ => none
  else nodeEvents? standardHandles tokens

def ofTokens? (tokens : List Token) : Option (List Event) :=
  match tokens with
  | [] => some []
  | tokens =>
      match documentEvents? tokens with
      | some (events, rest) =>
          if rest.all (· == .documentEnd) then some events else none
      | none => none

def announcedDocuments? : (fuel : Nat) → List Token → Option (List (List Event))
  | 0, _ => none
  | fuel + 1, tokens =>
      match tokens.dropWhile (· == .documentEnd) with
      | [] => some []
      | rest =>
          if isAnnounced rest then do
            let (events, after) ← documentEvents? rest
            return events :: (← announcedDocuments? fuel after)
          else none

/-- The events of each document of a text.  Every document has a token at least. -/
def documentsOfTokens? (tokens : List Token) : Option (List (List Event)) :=
  match tokens with
  | [] => some []
  | tokens => do
      let (events, rest) ← documentEvents? tokens
      return events :: (← announcedDocuments? (rest.length + 1) rest)

end Event
end Yaml
end VirtualNpu
