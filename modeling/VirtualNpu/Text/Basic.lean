/-!
Texts by their parts: white space in the sense of the Unicode property `White_Space` and trimming
by it, the first line of a text, and file paths by their names.
-/

namespace VirtualNpu
namespace Text

/-! ### White space and lines -/

/-- The characters with the Unicode property `White_Space`.  The zero width
no-break space is not one of them. -/
def isBlank (c : Char) : Bool :=
  let code := c.toNat
  (9 ≤ code && code ≤ 13) || code == 0x20 || code == 0x85 || code == 0xA0
    || code == 0x1680 || (0x2000 ≤ code && code ≤ 0x200A)
    || code == 0x2028 || code == 0x2029 || code == 0x202F
    || code == 0x205F || code == 0x3000

def trimBlanks (cs : List Char) : List Char :=
  ((cs.dropWhile isBlank).reverse.dropWhile isBlank).reverse

def trim (s : String) : String :=
  String.ofList (trimBlanks s.toList)

def firstLine (text : String) : String :=
  String.ofList (text.toList.takeWhile (· ≠ '\n'))

/-! ### Paths -/

def splitSlashes : List Char → List (List Char)
  | [] => [[]]
  | c :: rest =>
      match splitSlashes rest with
      | [] => [[c]]
      | piece :: pieces => if c = '/' then [] :: piece :: pieces else (c :: piece) :: pieces

/-- The names of a path from its start.  Empty names and `.` stand for nothing,
except that a relative path may begin with `.`. -/
def pathNames (path : String) : List String :=
  let pieces := (splitSlashes path.toList).map String.ofList
  let named := fun piece => piece ≠ "" ∧ piece ≠ "."
  match pieces with
  | "." :: rest => "." :: rest.filter named
  | pieces => pieces.filter named

/-- The last name of a path.  A path that ends in `.` or `..`, the root and the
empty path have none. -/
def fileName? (path : String) : Option String :=
  match (pathNames path).getLast? with
  | some name => if name = "." ∨ name = ".." then none else some name
  | none => none

/-- The path of `name` seen from `directory`; an absolute `name` stands for itself. -/
def joinPath (directory name : String) : String :=
  if name.startsWith "/" then name
  else if directory = "" ∨ directory.endsWith "/" then directory ++ name
  else directory ++ "/" ++ name

def parentNames (path : String) : List String :=
  (pathNames path).dropLast

end Text
end VirtualNpu
