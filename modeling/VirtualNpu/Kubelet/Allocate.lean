import VirtualNpu.Allocation.Environment
import VirtualNpu.Cluster.Client

/-!
Allocation on request of the kubelet.  The devices are those that the scheduler
granted to the pending pod, whatever ids the kubelet names.  The node lock is
released at the end of every allocation.
-/

namespace VirtualNpu
namespace Kubelet

inductive Status where
  | invalidArgument (message : String)
  | notFound (message : String)
  | unavailable (message : String)
  | unimplemented (message : String)
  deriving DecidableEq

def Status.ofError (error : Allocation.Error) : Status :=
  match error with
  | .unannotated _ | .malformed _ _ => .invalidArgument error.message
  | .noDevices _ | .pendingPodNotFound _ => .notFound error.message
  | .lookup _ => .unavailable error.message

/-- Preferred allocations are not offered. -/
def preferredAllocation : Status :=
  .unimplemented "preferred allocation is not supported"

abbrev Containers := List (List String)

abbrev Allocated := List Allocation.Environment

def bindPod (inventory : Inventory) (containers : Containers)
    (pod : Cluster.PendingPod) : Except Allocation.Error Allocated := do
  let key := Cluster.devicesAllocated inventory.family.commonWord
  let grants ← Allocation.decode key (pod.annotations.find? key)
  let environment ← Allocation.containerEnvironment grants inventory.snapshot
  return containers.map fun _ => environment

def phaseOf (outcome : Except Allocation.Error Allocated) : Cluster.BindPhase :=
  match outcome with
  | .ok _ => .success
  | .error _ => .failed

variable {σ : Type}

/-- Looks up the pending pod of a node, and records the outcome with it if there
is one.  That the outcome cannot be recorded changes nothing. -/
def allocatePending (client : Cluster.Client σ) (inventory : Inventory)
    (node : String) (containers : Containers) (state : σ) :
    Except Allocation.Error Allocated × σ :=
  match client.pendingPod node state with
  | (.error _, after) => (.error (.lookup node), after)
  | (.ok none, after) => (.error (.pendingPodNotFound node), after)
  | (.ok (some pod), after) =>
      let outcome := bindPod inventory containers pod
      (outcome, (client.setBindPhase pod (phaseOf outcome) after).2)

/-- Answers a request of the kubelet on a node.  That the lock cannot be released
changes nothing. -/
def allocate (client : Cluster.Client σ) (inventory : Inventory)
    (node : String) (containers : Containers) (state : σ) :
    Except Allocation.Error Allocated × σ :=
  let (outcome, after) := allocatePending client inventory node containers state
  (outcome, (client.releaseNodeLock node after).2)

inductive Progress where
  | lookup (containers : Containers)
  | record (pod : Cluster.PendingPod) (outcome : Except Allocation.Error Allocated)
  | release (outcome : Except Allocation.Error Allocated)
  | done (outcome : Except Allocation.Error Allocated)

/-- Makes the next call of an allocation, so that several allocations may take
turns on one cluster. -/
def Progress.advance (client : Cluster.Client σ) (inventory : Inventory)
    (node : String) : Progress → σ → Progress × σ
  | .lookup containers, state =>
      match client.pendingPod node state with
      | (.error _, after) => (.release (.error (.lookup node)), after)
      | (.ok none, after) => (.release (.error (.pendingPodNotFound node)), after)
      | (.ok (some pod), after) => (.record pod (bindPod inventory containers pod), after)
  | .record pod outcome, state =>
      (.release outcome, (client.setBindPhase pod (phaseOf outcome) state).2)
  | .release outcome, state => (.done outcome, (client.releaseNodeLock node state).2)
  | .done outcome, state => (.done outcome, state)

def Progress.advanceBy (client : Cluster.Client σ) (inventory : Inventory)
    (node : String) : Nat → Progress → σ → Progress × σ
  | 0, progress, state => (progress, state)
  | count + 1, progress, state =>
      let (after, changed) := progress.advance client inventory node state
      after.advanceBy client inventory node count changed

/-- An allocation that is alone on the cluster answers after three calls at most. -/
theorem advanceBy_three_lookup (client : Cluster.Client σ)
    (inventory : Inventory) (node : String) (containers : Containers) (state : σ) :
    (Progress.lookup containers).advanceBy client inventory node 3 state =
      (.done (allocate client inventory node containers state).1,
        (allocate client inventory node containers state).2) := by
  unfold allocate allocatePending
  simp only [Progress.advanceBy, Progress.advance]
  rcases h : client.pendingPod node state with ⟨_ | _ | pod, after⟩ <;> rfl

end Kubelet
end VirtualNpu
