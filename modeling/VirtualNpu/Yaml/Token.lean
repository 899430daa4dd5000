/-!
YAML tokens.  Indentation has become tokens of its own: a block collection opens
with a start token and closes with `blockEnd`.
-/

namespace VirtualNpu
namespace Yaml

inductive Style where
  | plain
  | singleQuoted
  | doubleQuoted
  | literal
  | folded
  deriving DecidableEq

/-- A token.  A tag is a handle, empty for a tag given in full, and a suffix. -/
inductive Token where
  | versionDirective (major minor : Nat)
  | tagDirective (handle stem : String)
  | documentStart
  | documentEnd
  | blockSequenceStart
  | blockMappingStart
  | blockEnd
  | flowSequenceStart
  | flowSequenceEnd
  | flowMappingStart
  | flowMappingEnd
  | blockEntry
  | flowEntry
  | key
  | value
  | alias (name : String)
  | anchor (name : String)
  | tag (handle suffix : String)
  | scalar (style : Style) (text : String)
  deriving DecidableEq

end Yaml
end VirtualNpu
