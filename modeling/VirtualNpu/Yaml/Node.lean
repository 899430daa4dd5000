import VirtualNpu.Yaml.Event
import VirtualNpu.Yaml.Scanner

/-!
YAML nodes and documents.  An alias refers to the node of an anchor by a number,
so a node may even lie inside itself.
-/

namespace VirtualNpu
namespace Yaml

inductive Node where
  | scalar (tag : Option String) (style : Style) (text : String)
  | sequence (tag : Option String) (items : List Node)
  | mapping (tag : Option String) (entries : List (Node × Node))
  | alias (anchor : Nat)
  deriving Inhabited

structure Document where
  root : Option Node
  events : Nat
  anchors : List (Nat × Node)

/-- The anchors of a document as far as it was read.  A name gets the count of
the names known before it as its number, so a name used again may share the
number of another; the node that began last then has it.  `begun` are the
numbers in the order in which their nodes began, last first, and `complete` the
nodes by their place in that order. -/
structure Anchors where
  names : List (String × Nat)
  begun : List Nat
  complete : List (Nat × Node)

namespace Anchors

def begin (anchors : Anchors) : Option String → Option Nat × Anchors
  | none => (none, anchors)
  | some name =>
      let number := anchors.names.length
      let others := anchors.names.filter fun known => known.1 ≠ name
      (some anchors.begun.length,
        { anchors with
          names := (name, number) :: others
          begun := number :: anchors.begun })

def finish (anchors : Anchors) (place : Option Nat) (node : Node) : Anchors :=
  match place with
  | some place => { anchors with complete := (place, node) :: anchors.complete }
  | none => anchors

def table (anchors : Anchors) : List (Nat × Node) :=
  (anchors.begun.zipIdx).filterMap fun (number, fromLast) =>
    (List.lookup (anchors.begun.length - 1 - fromLast) anchors.complete).map fun node =>
      (number, node)

end Anchors

inductive Frame where
  | sequence (place : Option Nat) (tag : Option String) (items : List Node)
  | mapping (place : Option Nat) (tag : Option String) (entries : List (Node × Node))
      (key : Option Node)

/-- What was read of a document: the open collections, innermost first, or the
root once it is complete. -/
structure Progress where
  frames : List Frame
  root : Option Node
  anchors : Anchors

namespace Progress

def place (node : Node) (progress : Progress) : Progress :=
  match progress.frames with
  | [] => { progress with root := some node }
  | .sequence place tag items :: outer =>
      { progress with frames := .sequence place tag (node :: items) :: outer }
  | .mapping place tag entries none :: outer =>
      { progress with frames := .mapping place tag entries (some node) :: outer }
  | .mapping place tag entries (some key) :: outer =>
      { progress with frames := .mapping place tag ((key, node) :: entries) none :: outer }

def close (place : Option Nat) (node : Node) (outer : List Frame) (progress : Progress) :
    Progress :=
  Progress.place node
    { progress with frames := outer, anchors := progress.anchors.finish place node }

def step (progress : Progress) : Event → Option Progress
  | .alias name =>
      (List.lookup name progress.anchors.names).map fun number =>
        progress.place (.alias number)
  | .scalar anchor tag style text =>
      let (place, anchors) := progress.anchors.begin anchor
      let node := Node.scalar tag style text
      some (Progress.place node { progress with anchors := anchors.finish place node })
  | .sequenceStart anchor tag =>
      let (place, anchors) := progress.anchors.begin anchor
      some { progress with frames := .sequence place tag [] :: progress.frames, anchors }
  | .mappingStart anchor tag =>
      let (place, anchors) := progress.anchors.begin anchor
      some { progress with frames := .mapping place tag [] none :: progress.frames, anchors }
  | .sequenceEnd =>
      match progress.frames with
      | .sequence place tag items :: outer =>
          some (progress.close place (.sequence tag items.reverse) outer)
      | _ => none
  | .mappingEnd =>
      match progress.frames with
      | .mapping place tag entries none :: outer =>
          some (progress.close place (.mapping tag entries.reverse) outer)
      | _ => none

def run : Progress → List Event → Option Progress
  | progress, [] => some progress
  | progress, event :: rest =>
      match progress.step event with
      | some following => run following rest
      | none => none

end Progress

def Document.ofEvents? (events : List Event) : Option Document :=
  (Progress.run ⟨[], none, ⟨[], [], []⟩⟩ events).map fun progress =>
    ⟨progress.root, events.length, progress.anchors.table⟩

def Document.parse? (text : String) : Option Document := do
  Document.ofEvents? (← Event.ofTokens? (← tokens? text))

def Document.parseAll? (text : String) : Option (List Document) := do
  (← Event.documentsOfTokens? (← tokens? text)).mapM Document.ofEvents?

end Yaml
end VirtualNpu
