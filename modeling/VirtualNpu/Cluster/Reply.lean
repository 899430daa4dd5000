import VirtualNpu.Cluster.Client
import VirtualNpu.Json.Reader

/-!
Replies of the cluster and the objects in them.  An object may leave out whatever
it likes, but what it says about itself has to fit.
-/

namespace VirtualNpu
namespace Cluster

structure Reply where
  status : Nat
  text : String
  deriving DecidableEq

def Reply.isRefusal (reply : Reply) : Bool :=
  400 ≤ reply.status && reply.status < 600

def Reply.isBare (reply : Reply) : Bool :=
  reply.status == 204 || reply.status == 304

def Reply.value? (reply : Reply) : Option Json.Value :=
  if reply.isRefusal || reply.isBare then none else Json.Value.parse? reply.text

def members? : Json.Value → Option (List (String × Json.Value))
  | .object members => members.mapM fun member => member.1.map fun name => (name, member.2)
  | _ => none

def valuesOf (name : String) (members : List (String × Json.Value)) : List Json.Value :=
  (members.filter fun member => member.1 = name).map Prod.snd

/-- Reads every value given for a name, and keeps the last. -/
def lastOf? {α : Type} (name : String) (read : Json.Value → Option α)
    (members : List (String × Json.Value)) : Option (Option α) :=
  ((valuesOf name members).mapM read).map List.getLast?

def optionalText? : Json.Value → Option (Option String)
  | .null => some none
  | .string (some text) => some (some text)
  | _ => none

def optionalTexts? : Json.Value → Option Annotations
  | .null => some []
  | value => do
      let members ← members? value
      return .ofList (← members.mapM fun
        | (name, .string (some text)) => some (name, text)
        | _ => none)

def textMembers : List String :=
  ["generateName", "resourceVersion", "selfLink", "uid"]

def metadata? : Json.Value → Option Pod
  | .null => some ⟨none, none, []⟩
  | value => do
      let members ← members? value
      for name in textMembers do
        let _ ← lastOf? name optionalText? members
      let _ ← lastOf? "labels" optionalTexts? members
      return { namespaceName := (← lastOf? "namespace" optionalText? members).join
               name := (← lastOf? "name" optionalText? members).join
               annotations := (← lastOf? "annotations" optionalTexts? members).getD [] }

def Target.kind : Target → String
  | .pod => "Pod"
  | .node => "Node"

def saysOnly (name text : String) (members : List (String × Json.Value)) : Bool :=
  (valuesOf name members).all fun
    | .string said => said == some text
    | _ => false

/-- Whether every value given for a name is an object or nothing. -/
def holdsObject (name : String) (members : List (String × Json.Value)) : Bool :=
  (valuesOf name members).all fun
    | .null => true
    | .object _ => true
    | _ => false

def object? (target : Target) (value : Json.Value) : Option Pod := do
  let members ← members? value
  guard (saysOnly "apiVersion" "v1" members && saysOnly "kind" target.kind members
    && holdsObject "spec" members && holdsObject "status" members)
  return (← lastOf? "metadata" metadata? members).getD ⟨none, none, []⟩

def items? : Json.Value → Option (List Pod)
  | .null => some []
  | .array items => items.mapM (object? .pod)
  | _ => none

/-- Reads a list of pods, which has its items once and its own metadata at most once. -/
def pods? (value : Json.Value) : Option (List Pod) := do
  let members ← members? value
  match valuesOf "metadata" members with
  | [] => pure ()
  | [.object _] => pure ()
  | _ => none
  match valuesOf "items" members with
  | [items] => items? items
  | _ => none

end Cluster
end VirtualNpu
