import VirtualNpu.Proofs.ObjectPatches
import VirtualNpu.Proofs.RegistrationView

/-!
Whose annotations a call touches.  The phase of a pod, the lock of a node and the publications of
each chip family have keys of their own, so that the updates of a node, in any order, leave of each
family what it has published last.
-/

namespace VirtualNpu

namespace Cluster

structure Patches (call : Call) (path : String) (keys : List String) : Prop where
  address : call.address = (.patch, path)
  touches : ∀ object, TouchesOnly keys object (call.applied object)

theorem patches_setBindPhase (namespaceName name : String) (phase : BindPhase) :
    Patches (.setBindPhase namespaceName name phase) (podPath namespaceName name) [bindPhase] where
  address := rfl
  touches := (Call.setBindPhase namespaceName name phase).touchesOnly_applied

theorem annotation?_setBindPhase (namespaceName name : String) (phase : BindPhase)
    (object : Json.Value) :
    annotation? ((Call.setBindPhase namespaceName name phase).applied object) bindPhase =
      some (.text phase.text) := by
  have change : (Call.setBindPhase namespaceName name phase).change? bindPhase =
      some (some phase.text) := by
    simp [Call.change?, Call.changes, lastChange?]
  rw [Call.annotation?_applied, change]
  rfl

end Cluster

namespace Registration

open Cluster (annotation? lastChange? nodeHandshake nodeKeys nodeLock nodeRegister)

inductive NodeUpdate where
  | publish (inventory : Inventory) (handshake : String)
  | release

namespace NodeUpdate

def call (node : String) : NodeUpdate → Cluster.Call
  | .publish inventory handshake =>
      .patchNodeAnnotations node (nodeAnnotations inventory handshake)
  | .release => .releaseNodeLock node

def keys : NodeUpdate → List String
  | .publish inventory _ => nodeKeys inventory.family.commonWord
  | .release => [nodeLock]

def published? (word : String) : NodeUpdate → Option (Inventory × String)
  | .publish inventory handshake =>
      if inventory.family.commonWord = word then some (inventory, handshake) else none
  | .release => none

def isRelease : NodeUpdate → Bool
  | .publish _ _ => false
  | .release => true

end NodeUpdate

def publications (word : String) (updates : List NodeUpdate) : List (Inventory × String) :=
  updates.filterMap (NodeUpdate.published? word)

def updated (node : String) (updates : List NodeUpdate) (object : Json.Value) : Json.Value :=
  Cluster.appliedAll (updates.map (NodeUpdate.call node)) object

/-! ### What is published of a family -/

/-- The two things that a publication tells of a family, each under a key of its own. -/
inductive Topic where
  | register
  | handshake
  deriving DecidableEq

namespace Topic

def key (word : String) : Topic → String
  | .register => nodeRegister word
  | .handshake => nodeHandshake word

def text (publication : Inventory × String) : Topic → String
  | .register => encode (entries publication.1)
  | .handshake => publication.2

theorem key_inj {word other : String} {topic another : Topic} :
    topic.key word = another.key other ↔ word = other ∧ topic = another := by
  cases topic <;> cases another
  · simp [key, Cluster.nodeRegister_inj]
  · simp [key, Cluster.nodeRegister_ne_nodeHandshake word other]
  · simp [key, (Cluster.nodeRegister_ne_nodeHandshake other word).symm]
  · simp [key, Cluster.nodeHandshake_inj]

theorem key_ne_nodeLock (word : String) (topic : Topic) : topic.key word ≠ nodeLock := by
  cases topic
  · exact Cluster.nodeRegister_ne_nodeLock word
  · exact Cluster.nodeHandshake_ne_nodeLock word

end Topic

/-! ### One update -/

theorem changes_publish (node : String) (inventory : Inventory) (handshake : String) :
    ((NodeUpdate.publish inventory handshake).call node).changes =
      [Topic.handshake, Topic.register].map fun topic =>
        (topic.key inventory.family.commonWord, some (topic.text (inventory, handshake))) := by
  rw [NodeUpdate.call, nodeAnnotations_eq]
  rfl

theorem map_fst_changes (node : String) (update : NodeUpdate) :
    (update.call node).changes.map Prod.fst = update.keys := by
  cases update with
  | publish inventory handshake =>
      rw [changes_publish]
      rfl
  | release => rfl

section
variable (node word : String) (update : NodeUpdate)

theorem change?_key (topic : Topic) :
    (update.call node).change? (topic.key word) =
      (update.published? word).map fun publication => some (topic.text publication) := by
  cases update with
  | publish inventory handshake =>
      rw [Cluster.Call.change?, changes_publish]
      by_cases same : inventory.family.commonWord = word
      · cases topic <;> simp [lastChange?, NodeUpdate.published?, Topic.key_inj, same]
      · simp [lastChange?, NodeUpdate.published?, Topic.key_inj, same]
  | release =>
      simp [Cluster.Call.change?, lastChange?, NodeUpdate.call, Cluster.Call.changes,
        NodeUpdate.published?, (topic.key_ne_nodeLock word).symm]

theorem change?_nodeLock :
    (update.call node).change? nodeLock =
      if update.isRelease then some none else none := by
  cases update with
  | publish inventory handshake =>
      rw [Cluster.Call.change?, changes_publish]
      simp [lastChange?, NodeUpdate.isRelease, Topic.key_ne_nodeLock]
  | release => rfl

end

theorem patches_call (node : String) (update : NodeUpdate) :
    Cluster.Patches (update.call node) (Cluster.nodePath node) update.keys where
  address := by cases update <;> rfl
  touches object := by
    rw [← map_fst_changes node update]
    exact (update.call node).touchesOnly_applied object

theorem annotation?_release (node : String) (object : Json.Value) :
    annotation? ((Cluster.Call.releaseNodeLock node).applied object) nodeLock = none := by
  have change : (Cluster.Call.releaseNodeLock node).change? nodeLock = some none :=
    change?_nodeLock node .release
  rw [Cluster.Call.annotation?_applied, change]
  rfl

theorem annotation?_publish (node : String) (inventory : Inventory) (handshake : String)
    (object : Json.Value) (topic : Topic) :
    annotation? (((NodeUpdate.publish inventory handshake).call node).applied object)
        (topic.key inventory.family.commonWord) =
      some (.text (topic.text (inventory, handshake))) := by
  have own : (NodeUpdate.publish inventory handshake).published? inventory.family.commonWord =
      some (inventory, handshake) := if_pos rfl
  rw [Cluster.Call.annotation?_applied, change?_key, own]
  rfl

/-! ### Updates one after another -/

section
variable (node word : String) (updates : List NodeUpdate) (object : Json.Value)

theorem touchesOnly_updated :
    Cluster.TouchesOnly (updates.flatMap NodeUpdate.keys) object (updated node updates object) := by
  have touches := Cluster.touchesOnly_appliedAll (updates.map (NodeUpdate.call node)) object
  rw [List.flatMap_map] at touches
  simp only [map_fst_changes] at touches
  exact touches

theorem annotation?_updated (key : String) :
    annotation? (updated node updates object) key =
      ((updates.filterMap fun update => (update.call node).change? key).getLast?).elim
        (annotation? object key) (Option.map Json.Value.text) := by
  rw [updated, Cluster.annotation?_appliedAll, List.filterMap_map]
  rfl

theorem annotation?_key (topic : Topic) :
    annotation? (updated node updates object) (topic.key word) =
      ((publications word updates).getLast?).elim (annotation? object (topic.key word))
        fun publication => some (.text (topic.text publication)) := by
  rw [annotation?_updated]
  simp only [change?_key]
  rw [← List.map_filterMap, List.getLast?_map, ← publications]
  cases (publications word updates).getLast? <;> rfl

theorem annotation?_nodeLock :
    annotation? (updated node updates object) nodeLock =
      if updates.any NodeUpdate.isRelease then none else annotation? object nodeLock := by
  induction updates using List.reverseRecOn with
  | nil => rfl
  | append_singleton updates update ih =>
      rw [updated, List.map_append, List.map_singleton, Cluster.appliedAll_concat,
        Cluster.Call.annotation?_applied, change?_nodeLock, ← updated, ih, List.any_append,
        List.any_cons, List.any_nil, Bool.or_false]
      cases update.isRelease with
      | true => rw [Bool.or_true]; rfl
      | false => rw [Bool.or_false]; rfl

end

/-- Updates in another order in which each family is published as before leave the same annotations:
publications of different families and releases of the lock may change places. -/
theorem annotation?_reordered {updates reordered : List NodeUpdate}
    (same : updates.Perm reordered)
    (kept : ∀ word, publications word updates = publications word reordered) (node : String)
    (object : Json.Value) (key : String) :
    annotation? (updated node updates object) key =
      annotation? (updated node reordered object) key := by
  by_cases told : ∃ (topic : Topic) (word : String), key = topic.key word
  · obtain ⟨topic, word, rfl⟩ := told
    rw [annotation?_key, annotation?_key, kept]
  by_cases locks : key = nodeLock
  · subst locks
    rw [annotation?_nodeLock, annotation?_nodeLock, same.any_eq]
  have other : ∀ some : List NodeUpdate, key ∉ some.flatMap NodeUpdate.keys := by
    intro some inside
    obtain ⟨update, _, listed⟩ := List.mem_flatMap.mp inside
    cases update with
    | publish inventory handshake =>
        rcases List.mem_cons.mp listed with shake | register
        · exact told ⟨.handshake, _, shake⟩
        · exact told ⟨.register, _, List.mem_singleton.mp register⟩
    | release => exact locks (List.mem_singleton.mp listed)
  rw [(touchesOnly_updated node updates object).annotation? (other updates),
    (touchesOnly_updated node reordered object).annotation? (other reordered)]

/-- Every change that is made to an object of the cluster touches annotations of its own: the phase
of a pod, the lock of a node, and two keys for each word of a family.  After any updates of a node
each family is as it was published last, in whatever order they come. -/
theorem patches_touch_own_keys :
    (∀ namespaceName name phase,
      let call := Cluster.Call.setBindPhase namespaceName name phase
      Cluster.Patches call (Cluster.podPath namespaceName name) [Cluster.bindPhase] ∧
        ∀ object, annotation? (call.applied object) Cluster.bindPhase = some (.text phase.text)) ∧
    (∀ node,
      let call := Cluster.Call.releaseNodeLock node
      Cluster.Patches call (Cluster.nodePath node) [nodeLock] ∧
        ∀ object, annotation? (call.applied object) nodeLock = none) ∧
    (∀ node inventory handshake,
      let call := Cluster.Call.patchNodeAnnotations node (nodeAnnotations inventory handshake)
      let word := inventory.family.commonWord
      Cluster.Patches call (Cluster.nodePath node) (nodeKeys word) ∧
        ∀ object,
          annotation? (call.applied object) (nodeRegister word) =
            some (.text (encode (entries inventory))) ∧
          annotation? (call.applied object) (nodeHandshake word) = some (.text handshake)) ∧
    (∀ word other, (nodeLock :: nodeKeys word).Nodup ∧
      ((nodeKeys word).Disjoint (nodeKeys other) ↔ word ≠ other)) ∧
    (∀ node updates object,
      let after := updated node updates object
      Cluster.TouchesOnly (updates.flatMap NodeUpdate.keys) object after ∧
      annotation? after nodeLock =
        (if updates.any NodeUpdate.isRelease then none else annotation? object nodeLock) ∧
      ∀ word,
        annotation? after (nodeRegister word) =
          ((publications word updates).getLast?).elim (annotation? object (nodeRegister word))
            (fun publication => some (.text (encode (entries publication.1)))) ∧
        annotation? after (nodeHandshake word) =
          ((publications word updates).getLast?).elim (annotation? object (nodeHandshake word))
            fun publication => some (.text publication.2)) ∧
    ∀ updates reordered : List NodeUpdate, updates.Perm reordered →
      (∀ word, publications word updates = publications word reordered) →
      ∀ node object key, annotation? (updated node updates object) key =
        annotation? (updated node reordered object) key := by
  refine ⟨fun namespaceName name phase => ?_, fun node => ?_, fun node inventory handshake => ?_,
    fun word other => ⟨Cluster.nodup_nodeKeys word, Cluster.disjoint_nodeKeys_iff word other⟩,
    fun node updates object => ?_,
    fun updates reordered same kept => annotation?_reordered same kept⟩
  · exact ⟨Cluster.patches_setBindPhase namespaceName name phase,
      Cluster.annotation?_setBindPhase namespaceName name phase⟩
  · exact ⟨patches_call node .release, annotation?_release node⟩
  · exact ⟨patches_call node (.publish inventory handshake), fun object =>
      ⟨annotation?_publish node inventory handshake object .register,
        annotation?_publish node inventory handshake object .handshake⟩⟩
  · exact ⟨touchesOnly_updated node updates object, annotation?_nodeLock node updates object,
      fun word => ⟨annotation?_key node word updates object .register,
        annotation?_key node word updates object .handshake⟩⟩

def bareInventory (word : String) : Inventory := .empty ⟨word, word, word, 1, 0, 1, none, []⟩

/-- A locked node with an annotation of somebody else. -/
def lockedNode : Json.Value :=
  .record [("kind", .text "Node"), ("metadata", .record [("annotations",
    .record [(nodeLock, .text "held"), ("zone", .text "a")])])]

theorem two_families_published :
    let first := NodeUpdate.publish (bareInventory "B") "one"
    let other := NodeUpdate.publish (bareInventory "C") "two"
    let again := NodeUpdate.publish (bareInventory "B") "three"
    let updates := [first, .release, other, again]
    let reordered := [other, first, again, .release]
    updates.Perm reordered ∧
    (∀ word, publications word updates = publications word reordered) ∧
    (∀ key, annotation? (updated "node-a" updates lockedNode) key =
      annotation? (updated "node-a" reordered lockedNode) key) ∧
    annotation? (updated "node-a" updates lockedNode) nodeLock = none ∧
    annotation? (updated "node-a" updates lockedNode) (nodeHandshake "B") =
      some (.text "three") ∧
    annotation? (updated "node-a" updates lockedNode) (nodeHandshake "C") = some (.text "two") ∧
    annotation? (updated "node-a" updates lockedNode) "zone" = some (.text "a") := by
  intro first other again updates reordered
  obtain ⟨-, -, -, -, after, swapped⟩ := patches_touch_own_keys
  have same : updates.Perm reordered :=
    calc List.Perm [first, .release, other, again] [first, other, .release, again] :=
          .cons _ (.swap _ _ _)
      List.Perm _ [other, first, .release, again] := .swap _ _ _
      List.Perm _ [other, first, again, .release] := .cons _ (.cons _ (.swap _ _ _))
  have kept : ∀ word, publications word updates = publications word reordered := by
    intro word
    by_cases own : word = "B"
    · subst own
      rfl
    · have unpublished : ∀ handshake,
          (NodeUpdate.publish (bareInventory "B") handshake).published? word = none :=
        fun handshake => if_neg (Ne.symm own)
      have released : NodeUpdate.release.published? word = none := rfl
      simp only [publications, updates, reordered, first, again, List.filterMap_cons,
        List.filterMap_nil, unpublished, released]
  obtain ⟨touches, unlocked, families⟩ := after "node-a" updates lockedNode
  refine ⟨same, kept, swapped updates reordered same kept "node-a" lockedNode, unlocked,
    (families "B").2, (families "C").2, ?_⟩
  rw [touches.annotation? (by decide)]
  rfl

end Registration
end VirtualNpu
