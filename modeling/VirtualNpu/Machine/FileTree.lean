import VirtualNpu.Text.Basic

/-!
The files of a machine: directories, files and sockets by their places, and the
paths that lead to them.
-/

namespace VirtualNpu
namespace Machine

inductive Listener where
  | kubelet
  | plugin (period : Nat)
  deriving DecidableEq

/-- What stands at a place.  A file may hold bytes that are no text. -/
inductive Entry where
  | directory
  | file (text : Option String)
  | socket (listener : Listener)
  deriving DecidableEq

abbrev Place := List String

structure FileTree where
  workingDirectory : Place
  entries : List (Place × Entry)

/-- The longest name of a file in bytes. -/
def longestName : Nat := 255

/-- The longest path of a socket in bytes. -/
def longestSocketPath : Nat := 107

def namesAlong (path : String) : List String :=
  (Text.pathNames path).filter (· ≠ ".")

namespace FileTree

/-- What stands at a place; the root is a directory. -/
def entry? (tree : FileTree) : Place → Option Entry
  | [] => some .directory
  | place => List.lookup place tree.entries

def put (tree : FileTree) (place : Place) (entry : Entry) : FileTree :=
  { tree with entries := (place, entry) :: tree.entries.filter fun other => other.1 ≠ place }

def erase (tree : FileTree) (place : Place) : FileTree :=
  { tree with entries := tree.entries.filter fun other => other.1 ≠ place }

def origin (tree : FileTree) (path : String) : Place :=
  if path.startsWith "/" then [] else tree.workingDirectory

def step (here : Place) (name : String) : Place :=
  if name = ".." then here.dropLast else here ++ [name]

/-- The place that names lead to.  All before the last are directories. -/
def descend (tree : FileTree) : Place → List String → Option Place
  | here, [] => some here
  | here, name :: rest =>
      if tree.entry? here = some .directory ∧ name.utf8ByteSize ≤ longestName then
        tree.descend (step here name) rest
      else none

/-- The place that a path leads to, where something may stand or not. -/
def locate (tree : FileTree) (path : String) : Option Place :=
  if path = "" ∨ path.contains '\x00' then none
  else tree.descend (tree.origin path) (namesAlong path)

def find? (tree : FileTree) (path : String) : Option Entry :=
  (tree.locate path).bind tree.entry?

def text? (tree : FileTree) (path : String) : Option String :=
  match tree.find? path with
  | some (.file text) => text
  | _ => none

def names (tree : FileTree) (place : Place) : List String :=
  let inside := tree.entries.filterMap fun entry =>
    if entry.1.dropLast = place then entry.1.getLast? else none
  inside.mergeSort fun a b => decide (a ≤ b)

def makeDirectories (tree : FileTree) : Place → List String → Option FileTree
  | _, [] => some tree
  | here, name :: rest =>
      let next := step here name
      match tree.entry? next with
      | some .directory => tree.makeDirectories next rest
      | some _ => none
      | none =>
          if name.utf8ByteSize ≤ longestName then
            (tree.put next .directory).makeDirectories next rest
          else none

/-- Removes a file or socket; `none` if something else stands there. -/
def removeFile (tree : FileTree) (path : String) : Option FileTree :=
  match tree.locate path with
  | none => some tree
  | some place =>
      match tree.entry? place with
      | none => some tree
      | some .directory => none
      | some _ => some (tree.erase place)

/-- Puts a socket where nothing stands; `none` if that cannot be. -/
def bindSocket (tree : FileTree) (path : String) (listener : Listener) : Option FileTree :=
  if longestSocketPath < path.utf8ByteSize then none
  else
    match tree.locate path with
    | none => none
    | some place =>
        match tree.entry? place with
        | some _ => none
        | none => if place = [] then none else some (tree.put place (.socket listener))

end FileTree
end Machine
end VirtualNpu
