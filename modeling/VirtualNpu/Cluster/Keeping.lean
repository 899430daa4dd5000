import VirtualNpu.Cluster.Client

/-!
Clusters that keep what is recorded with their pods: the bind phase of a pod becomes an
annotation of it, in place of the one it had, and nothing else changes.
-/

namespace VirtualNpu
namespace Cluster

namespace Pod

def names (pod : Pod) : String × String := (pod.pending.namespaceName, pod.pending.name)

def inPhase (phase : BindPhase) (pod : Pod) : Pod :=
  { pod with annotations := pod.annotations.insert bindPhase phase.text }

def recorded (names : String × String) (phase : BindPhase) (pod : Pod) : Pod :=
  if pod.names = names then pod.inPhase phase else pod

theorem names_recorded (names : String × String) (phase : BindPhase) (pod : Pod) :
    (pod.recorded names phase).names = pod.names := by
  unfold recorded
  split <;> rfl

end Pod

/-- Whether all calls of a client succeed, look-ups tell of the pods of its state, and only a
recorded phase changes these: that of the pod it names. -/
structure Client.KeepsPhases {κ : Type} (client : Client κ) (pods : κ → List Pod) : Prop where
  looked : ∀ node state, ∃ after, client.pendingPod node state =
    (.ok (selectPending (pods state) node), after) ∧ pods after = pods state
  recorded : ∀ pod phase state, ∃ after, client.setBindPhase pod phase state = (.ok (), after) ∧
    pods after = (pods state).map (Pod.recorded (pod.namespaceName, pod.name) phase)
  released : ∀ node state, ∃ after, client.releaseNodeLock node state = (.ok (), after) ∧
    pods after = pods state

def keeping : Client (List Pod) where
  pendingPod node pods := (.ok (selectPending pods node), pods)
  setBindPhase pod phase pods :=
    (.ok (), pods.map (Pod.recorded (pod.namespaceName, pod.name) phase))
  releaseNodeLock _ pods := (.ok (), pods)
  patchNodeAnnotations _ _ pods := (.ok (), pods)

theorem keepsPhases_keeping : keeping.KeepsPhases id where
  looked _ pods := ⟨pods, rfl, rfl⟩
  recorded _ _ _ := ⟨_, rfl, rfl⟩
  released _ pods := ⟨pods, rfl, rfl⟩

end Cluster
end VirtualNpu
