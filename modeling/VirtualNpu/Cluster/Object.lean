import VirtualNpu.Cluster.Request
import VirtualNpu.Json.Merge
import VirtualNpu.Json.Reader
import VirtualNpu.Json.Writer

/-!
Objects as the cluster's server keeps them: their annotations, and what calls make of them on a
server that merges the text of a call's body into its object.
-/

namespace VirtualNpu
namespace Cluster

def metadataOf (object : Json.Value) : Json.Value :=
  (object.at? "metadata").getD .null

def annotationsOf (object : Json.Value) : Json.Members :=
  (((metadataOf object).at? "annotations").getD .null).members

def annotation? (object : Json.Value) (key : String) : Option Json.Value :=
  (annotationsOf object).find? (some key)

def Call.applied (object : Json.Value) (call : Call) : Json.Value :=
  match (call.body.map Json.Value.render).bind Json.Value.parse? with
  | some patch => object.merge patch
  | none => object

/-- Two states of an object between which only annotations with some keys have been touched. -/
structure TouchesOnly (keys : List String) (before after : Json.Value) : Prop where
  members : after.members.besides ["metadata"] = before.members.besides ["metadata"]
  metadata : (metadataOf after).members.besides ["annotations"] =
    (metadataOf before).members.besides ["annotations"]
  annotations : Json.Members.besides (annotationsOf after) keys =
    Json.Members.besides (annotationsOf before) keys

end Cluster
end VirtualNpu
