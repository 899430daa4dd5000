import VirtualNpu.Yaml.Spot

/-!
White space inside a flow scalar.  Blanks within a line stay; a single line break
turns into a space, and of several breaks the first one is dropped.
-/

namespace VirtualNpu
namespace Yaml

/-- The white space behind the last word of a scalar, last character first. -/
inductive Gap where
  | none
  | blanks (text : List Char)
  /-- the first break, unless it was escaped, and the breaks behind it -/
  | breaks (first : Option Char) (more : List Char)
  deriving DecidableEq

namespace Gap

/-- Adds a blank.  Blanks at the start of a further line do not count. -/
def blank (c : Char) : Gap → Gap
  | none => .blanks [c]
  | blanks text => .blanks (c :: text)
  | breaks first more => .breaks first more

/-- Adds a line break, which makes the blanks before it void. -/
def newLine (c : Char) : Gap → Gap
  | none => .breaks (some c) []
  | blanks _ => .breaks (some c) []
  | breaks first more => .breaks first (c :: more)

def spansLines : Gap → Bool
  | breaks _ _ => true
  | _ => false

def folded : Gap → List Char
  | none => []
  | blanks text => text
  | breaks (some '\n') [] => [' ']
  | breaks (some '\n') more => more
  | breaks (some c) more => more ++ [c]
  | breaks Option.none more => more

end Gap
end Yaml
end VirtualNpu
