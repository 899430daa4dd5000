import VirtualNpu.Json.Field
import VirtualNpu.Json.Reader
import VirtualNpu.Json.Writer
import VirtualNpu.Text.Basic
import VirtualNpu.Text.Quoted

/-!
Grants: the devices that the scheduler allots to a pod, as carried by an
annotation of the pod in JSON.
-/

namespace VirtualNpu
namespace Allocation

/-- One granted device.  An empty template grants the device whole. -/
structure Grant where
  uuid : String
  template : String
  deriving DecidableEq

inductive Error where
  | unannotated (key : String)
  | malformed (key value : String)
  | noDevices (requested : List Grant)
  | pendingPodNotFound (node : String)
  | lookup (node : String)
  deriving DecidableEq

def Error.message : Error → String
  | .unannotated key => "Allocation annotation " ++ key ++ " is missing or empty"
  | .malformed key value =>
      "Allocation annotation is malformed: " ++ key ++ "=" ++ value
  | .noDevices _ => "None of the requested devices are known on this node"
  | .pendingPodNotFound node => "No pod is pending allocation on node " ++ node
  | .lookup node => "Failed to look up pending pod: node " ++ node

def Grant.describe (grant : Grant) : String :=
  "DeviceRequest \x7b uuid: " ++ Text.quoted grant.uuid ++ ", temp: "
    ++ Text.quoted grant.template ++ " \x7d"

def Error.notes : Error → List String
  | .noDevices requested =>
      ["requested: [" ++ ", ".intercalate (requested.map Grant.describe) ++ "]"]
  | _ => []

namespace Grant

def fieldNames : List String := ["uuid", "temp"]

/-- Reads a grant; the template may be left out. -/
def ofJson? (value : Json.Value) : Option Grant :=
  match value.fields? fieldNames with
  | some [some uuid, none] => uuid.asText?.map fun uuid => ⟨uuid, ""⟩
  | some [some uuid, some template] => do
      some ⟨← uuid.asText?, ← template.asText?⟩
  | _ => none

def toJson (grant : Grant) : Json.Value :=
  if grant.template = "" then .record [("uuid", .text grant.uuid)]
  else .record [("uuid", .text grant.uuid), ("temp", .text grant.template)]

end Grant

def parseGrants? (text : String) : Option (List Grant) :=
  match Json.Value.parse? text with
  | some (.array items) => items.mapM Grant.ofJson?
  | _ => none

def decode (key : String) (value : Option String) : Except Error (List Grant) :=
  match value.map Text.trim with
  | none => .error (.unannotated key)
  | some text =>
      if text = "" then .error (.unannotated key)
      else
        match parseGrants? text with
        | some grants => .ok grants
        | none => .error (.malformed key text)

def encode (grants : List Grant) : String :=
  (Json.Value.array (grants.map Grant.toJson)).render

end Allocation
end VirtualNpu
