import VirtualNpu.Cluster.Client

/-!
A ledger of the calls made to a cluster.  A client that keeps one answers like the
client it is made from, and enters every call, also one that fails.
-/

namespace VirtualNpu
namespace Cluster

inductive Caller where
  | reporter
  | allocation (number : Nat)
  deriving DecidableEq

structure Entry where
  caller : Caller
  call : Call
  found : Option PendingPod
  deriving DecidableEq

structure Ledger (κ : Type) where
  cluster : κ
  caller : Caller
  entries : List Entry

def foundPod? : Except Error (Option PendingPod) → Option PendingPod
  | .ok pod => pod
  | .error _ => none

variable {κ : Type}

namespace Ledger

def start (cluster : κ) : Ledger κ := ⟨cluster, .reporter, []⟩

def inHandsOf (caller : Caller) (ledger : Ledger κ) : Ledger κ := { ledger with caller }

def mapCluster (change : κ → κ) (ledger : Ledger κ) : Ledger κ :=
  { ledger with cluster := change ledger.cluster }

def enter {α : Type} (ledger : Ledger κ) (call : Call) (found : Option PendingPod)
    (answer : Answer κ α) : Answer (Ledger κ) α :=
  (answer.1,
    { ledger with
      cluster := answer.2
      entries := ledger.entries ++ [⟨ledger.caller, call, found⟩] })

end Ledger

def Client.withLedger (client : Client κ) : Client (Ledger κ) where
  pendingPod node ledger :=
    let answer := client.pendingPod node ledger.cluster
    ledger.enter (.pendingPod node) (foundPod? answer.1) answer
  setBindPhase pod phase ledger :=
    ledger.enter (.setBindPhase pod.namespaceName pod.name phase) none
      (client.setBindPhase pod phase ledger.cluster)
  releaseNodeLock node ledger :=
    ledger.enter (.releaseNodeLock node) none (client.releaseNodeLock node ledger.cluster)
  patchNodeAnnotations node annotations ledger :=
    ledger.enter (.patchNodeAnnotations node annotations) none
      (client.patchNodeAnnotations node annotations ledger.cluster)

end Cluster
end VirtualNpu
