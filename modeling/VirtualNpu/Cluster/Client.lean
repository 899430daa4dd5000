import VirtualNpu.Cluster.Pod
import VirtualNpu.Text.Quoted

/-!
The calls made to the cluster, and what carries them out.  A client answers from
a state of its own, which each call may change.
-/

namespace VirtualNpu
namespace Cluster

inductive Call where
  | pendingPod (node : String)
  | setBindPhase (namespaceName name : String) (phase : BindPhase)
  | releaseNodeLock (node : String)
  | patchNodeAnnotations (node : String) (annotations : Annotations)
  deriving DecidableEq

inductive Target where
  | pod
  | node
  deriving DecidableEq

def Target.text : Target → String
  | .pod => "pod"
  | .node => "node"

inductive Error where
  | connectionFailed (message : String)
  | listFailed (message : String)
  | patchFailed (target : Target) (name message : String)
  deriving DecidableEq

def Error.message : Error → String
  | .connectionFailed message => "Failed to connect to Kubernetes API: " ++ message
  | .listFailed message => "Failed to list pods: " ++ message
  | .patchFailed target name message =>
      "Failed to patch " ++ target.text ++ " " ++ name ++ ": " ++ message

def Call.error : Call → Error
  | .pendingPod node => .listFailed ("pods on node " ++ node)
  | .setBindPhase namespaceName name phase =>
      .patchFailed .pod (namespaceName ++ "/" ++ name) ("set " ++ bindPhase ++ "=" ++ phase.text)
  | .releaseNodeLock node => .patchFailed .node node ("remove " ++ nodeLock)
  | .patchNodeAnnotations node annotations =>
      .patchFailed .node node ("set " ++ Text.quotedList annotations.keys)

abbrev Answer (σ α : Type) := Except Error α × σ

structure Client (σ : Type) where
  pendingPod : (node : String) → σ → Answer σ (Option PendingPod)
  setBindPhase : PendingPod → BindPhase → σ → Answer σ Unit
  releaseNodeLock : (node : String) → σ → Answer σ Unit
  patchNodeAnnotations : (node : String) → Annotations → σ → Answer σ Unit

inductive Failing where
  | lookup
  | phase
  | release
  | publish
  deriving DecidableEq

/-- A cluster that is played: its pods, the calls that fail, the time, and the
calls made with their times, last first. -/
structure Stage where
  pods : List Pod
  failing : List Failing
  time : Nat
  calls : List (Call × Nat)

namespace Stage

def empty : Stage := ⟨[], [], 0, []⟩

def play {α : Type} (stage : Stage) (kind : Failing) (call : Call) (answer : α) :
    Answer Stage α :=
  let after := { stage with calls := (call, stage.time) :: stage.calls }
  if kind ∈ stage.failing then (.error call.error, after) else (.ok answer, after)

/-- Lets a kind of call fail from now on, or no longer. -/
def fail (stage : Stage) (kind : Failing) (on : Bool) : Stage :=
  let others := stage.failing.filter fun other => other ≠ kind
  { stage with failing := if on then kind :: others else others }

def takeCalls (stage : Stage) : List (Call × Nat) × Stage :=
  (stage.calls.reverse, { stage with calls := [] })

end Stage

/-- The client of a played cluster.  Its pods change only when they are replaced. -/
def staged : Client Stage where
  pendingPod node stage :=
    stage.play .lookup (.pendingPod node) (selectPending stage.pods node)
  setBindPhase pod phase stage :=
    stage.play .phase (.setBindPhase pod.namespaceName pod.name phase) ()
  releaseNodeLock node stage := stage.play .release (.releaseNodeLock node) ()
  patchNodeAnnotations node annotations stage :=
    stage.play .publish (.patchNodeAnnotations node annotations) ()

end Cluster
end VirtualNpu
