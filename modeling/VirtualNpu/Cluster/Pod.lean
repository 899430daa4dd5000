import VirtualNpu.Cluster.Annotation
import VirtualNpu.Text.Digits

/-!
Pods, and the one among them whose devices are to be allocated next.
-/

namespace VirtualNpu
namespace Cluster

structure Pod where
  namespaceName : Option String
  name : Option String
  annotations : Annotations
  deriving DecidableEq

structure PendingPod where
  namespaceName : String
  name : String
  annotations : Annotations
  deriving DecidableEq

/-- A pod is a candidate on the node it is assigned to while it is allocating. -/
def Pod.isCandidate (node : String) (pod : Pod) : Bool :=
  pod.annotations.find? bindPhase == some BindPhase.allocating.text
    && pod.annotations.find? assignedNode == some node

/-- The bind time that orders candidates.  One that cannot be read counts as the
latest of all. -/
def Pod.effectiveBindTime (pod : Pod) : Nat :=
  match pod.annotations.find? bindTime with
  | some text =>
      match Text.readUnsigned64 text.toList with
      | .ok time => time
      | .error _ => 0xFFFFFFFFFFFFFFFF
  | none => 0xFFFFFFFFFFFFFFFF

/-- The pod as one that waits; names that it lacks are empty. -/
def Pod.pending (pod : Pod) : PendingPod :=
  ⟨pod.namespaceName.getD "", pod.name.getD "", pod.annotations⟩

def earliest : List Pod → Option Pod
  | [] => none
  | pod :: rest =>
      match earliest rest with
      | none => some pod
      | some other =>
          if pod.effectiveBindTime ≤ other.effectiveBindTime then some pod else some other

def selectPending (pods : List Pod) (node : String) : Option PendingPod :=
  (earliest (pods.filter (Pod.isCandidate node))).map Pod.pending

end Cluster
end VirtualNpu
