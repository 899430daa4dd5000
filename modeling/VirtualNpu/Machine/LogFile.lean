import VirtualNpu.Machine.FileTree

/-!
Log files.  A log path names a file for each day: its last name with the date
behind it, in the directory of the path, which is made if it is missing.
-/

namespace VirtualNpu
namespace Machine

def defaultLogName : String := "npu-device-plugin.log"

def logFileName (path date : String) : String :=
  (Text.fileName? path).getD defaultLogName ++ "." ++ date

namespace FileTree

def logDirectory (tree : FileTree) (path : String) : Place × List String :=
  if Text.pathNames path = [] then (tree.workingDirectory, [])
  else (tree.origin path, (Text.parentNames path).filter (· ≠ "."))

def openFile (tree : FileTree) (place : Place) : Option FileTree :=
  match tree.entry? place with
  | some (.file _) => some tree
  | some _ => none
  | none => some (tree.put place (.file (some "")))

/-- Opens the log file of a date, and says whether that was possible.  Where it is
not, the log goes to standard error. -/
def openLog (tree : FileTree) (path date : String) : Bool × FileTree :=
  let (start, names) := tree.logDirectory path
  let name := logFileName path date
  match tree.makeDirectories start names with
  | none => (false, tree)
  | some made =>
      if longestName < name.utf8ByteSize then (false, made)
      else
        match (made.descend start names).bind fun place => made.openFile (place ++ [name]) with
        | some opened => (true, opened)
        | none => (false, made)

def logNames (tree : FileTree) (path : String) : List String :=
  let (start, names) := tree.logDirectory path
  match tree.descend start names with
  | some place => if tree.entry? place = some .directory then tree.names place else []
  | none => []

end FileTree
end Machine
end VirtualNpu
