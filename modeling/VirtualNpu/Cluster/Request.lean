import VirtualNpu.Cluster.Client
import VirtualNpu.Json.Value
import VirtualNpu.Text.Uri

/-!
The request that a call to the cluster becomes.  Changes are merge patches which
name only the annotations that they set or remove.
-/

namespace VirtualNpu
namespace Cluster

inductive Method where
  | get
  | patch
  deriving DecidableEq

def Method.text : Method → String
  | .get => "GET"
  | .patch => "PATCH"

structure Request where
  method : Method
  target : String
  body : Option Json.Value

def Request.contentType (request : Request) : Option String :=
  request.body.map fun _ => "application/merge-patch+json"

/-- A merge patch of annotations; one with nothing as its value is removed. -/
def annotationsPatch (changes : List (String × Option String)) : Json.Value :=
  let value := fun text => (text.map Json.Value.text).getD .null
  .record [("metadata", .record [("annotations",
    .record (changes.map fun change => (change.1, value change.2)))])]

def Call.changes : Call → List (String × Option String)
  | .pendingPod _ => []
  | .setBindPhase _ _ phase => [(bindPhase, some phase.text)]
  | .releaseNodeLock _ => [(nodeLock, none)]
  | .patchNodeAnnotations _ annotations => annotations.map fun (key, value) => (key, some value)

def nodePath (node : String) : String := "/api/v1/nodes/" ++ node ++ "?"

def podPath (namespaceName name : String) : String :=
  "/api/v1/namespaces/" ++ namespaceName ++ "/pods/" ++ name ++ "?"

def podListPath (node : String) : String :=
  "/api/v1/pods?&fieldSelector=" ++ Text.formEncoded ("spec.nodeName=" ++ node)

def Call.address : Call → Method × String
  | .pendingPod node => (.get, podListPath node)
  | .setBindPhase namespaceName name _ => (.patch, podPath namespaceName name)
  | .releaseNodeLock node => (.patch, nodePath node)
  | .patchNodeAnnotations node _ => (.patch, nodePath node)

/-- The body of a call; only changes have one. -/
def Call.body (call : Call) : Option Json.Value :=
  match call.address.1 with
  | .get => none
  | .patch => some (annotationsPatch call.changes)

/-- The request of a call, unless names in it make its path unfit to be sent. -/
def Call.request? (call : Call) : Option Request :=
  (Text.requestTarget? call.address.2).map fun target => ⟨call.address.1, target, call.body⟩

end Cluster
end VirtualNpu
