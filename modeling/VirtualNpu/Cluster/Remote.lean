import VirtualNpu.Cluster.Reply
import VirtualNpu.Cluster.Request

/-!
The client of a cluster that answers requests.
-/

namespace VirtualNpu
namespace Cluster

/-- What sends a request and brings its reply, if there is one, with states in `σ`. -/
abbrev Transport (σ : Type) := Request → σ → Option Reply × σ

def exchange {σ α : Type} (transport : Transport σ) (call : Call)
    (read : Json.Value → Option α) (state : σ) : Answer σ α :=
  match call.request? with
  | none => (.error call.error, state)
  | some request =>
      let (reply, after) := transport request state
      match (reply.bind Reply.value?).bind read with
      | some answer => (.ok answer, after)
      | none => (.error call.error, after)

def change {σ : Type} (transport : Transport σ) (call : Call) (target : Target) (state : σ) :
    Answer σ Unit :=
  exchange transport call (fun value => (object? target value).map fun _ => ()) state

def remote {σ : Type} (transport : Transport σ) : Client σ where
  pendingPod node :=
    exchange transport (.pendingPod node) fun value =>
      (pods? value).map fun pods => selectPending pods node
  setBindPhase pod phase :=
    change transport (.setBindPhase pod.namespaceName pod.name phase) .pod
  releaseNodeLock node := change transport (.releaseNodeLock node) .node
  patchNodeAnnotations node annotations :=
    change transport (.patchNodeAnnotations node annotations) .node

/-- A server that gives every request the same reply and keeps the requests, last first. -/
structure FixedServer where
  reply : Reply
  requests : List Request

def FixedServer.transport : Transport FixedServer := fun request server =>
  (some server.reply, { server with requests := request :: server.requests })

end Cluster
end VirtualNpu
