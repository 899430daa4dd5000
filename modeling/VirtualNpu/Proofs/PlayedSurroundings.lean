import VirtualNpu.Inventory.Scripted
import VirtualNpu.Node.Likeness

/-!
Played providers and clusters that behave alike: what was asked of them before makes no difference,
as long as no query is told to fail by its number.
-/

namespace VirtualNpu

open Node (Agree)

namespace Inventory

variable {σ : Type} {alike : σ → σ → Prop}

/-! ### Listing by queries -/

theorem agree_queryEach {query : UInt32 → σ → Answer σ RawDevice}
    (queries : ∀ id {one other}, alike one other → Agree alike (query id one) (query id other))
    (ids : List UInt32) {one other : σ} (same : alike one other) :
    Agree alike (queryEach query ids one) (queryEach query ids other) := by
  induction ids generalizing one other with
  | nil => exact ⟨rfl, same⟩
  | cons id rest ih =>
      obtain ⟨answer, left, right, first, second, asked⟩ := (queries id same).split
      unfold queryEach
      rw [first, second]
      cases answer with
      | error report => exact ⟨rfl, asked⟩
      | ok device =>
          obtain ⟨listing, left, right, first, second, listed⟩ := (ih asked).split
          dsimp only
          rw [first, second]
          cases listing <;> exact ⟨rfl, listed⟩

theorem agree_listByQuery {logicIds : σ → Answer σ (List UInt32)}
    {query : UInt32 → σ → Answer σ RawDevice}
    (enumerates : ∀ {one other}, alike one other → Agree alike (logicIds one) (logicIds other))
    (queries : ∀ id {one other}, alike one other → Agree alike (query id one) (query id other))
    {one other : σ} (same : alike one other) :
    Agree alike (listByQuery logicIds query one) (listByQuery logicIds query other) := by
  obtain ⟨answer, left, right, first, second, enumerated⟩ := (enumerates same).split
  unfold listByQuery
  rw [first, second]
  cases answer with
  | error report => exact ⟨rfl, enumerated⟩
  | ok ids => exact agree_queryEach queries ids enumerated

namespace Script

structure Alike (one other : Script) : Prop where
  devices : one.devices = other.devices
  ids : one.ids = other.ids
  failEnumerate : one.failEnumerate = other.failEnumerate
  unfailing : one.failAt = none ∧ other.failAt = none

variable {one other : Script}

theorem Alike.logicIds (same : Alike one other) : Agree Alike one.logicIds other.logicIds := by
  unfold Script.logicIds
  rw [same.failEnumerate, same.ids, same.devices]
  split <;> exact ⟨rfl, same⟩

theorem query_of_unfailing {script : Script} (unfailing : script.failAt = none) (id : UInt32) :
    script.query id =
      (match script.devices.find? fun device => device.1 = id with
        | some device => .ok device.2
        | none => .error (.of (.query id "unknown device")),
        { script with queries := script.queries + 1 }) := by
  unfold Script.query
  rw [if_neg (by simp [unfailing])]
  cases script.devices.find? fun device => device.1 = id <;> rfl

theorem Alike.query (same : Alike one other) (id : UInt32) :
    Agree Alike (one.query id) (other.query id) := by
  rw [query_of_unfailing same.unfailing.1, query_of_unfailing same.unfailing.2]
  constructor
  · dsimp only
    rw [same.devices]
  · exact ⟨same.devices, same.ids, same.failEnumerate, same.unfailing⟩

theorem Alike.devices_scripted (same : Alike one other) :
    Agree Alike (scripted.devices one) (scripted.devices other) :=
  agree_listByQuery (fun same => same.logicIds) (fun id _ _ same => same.query id) same

end Script
end Inventory

namespace Cluster
namespace Stage

structure Alike (one other : Stage) : Prop where
  pods : one.pods = other.pods
  failing : one.failing = other.failing

variable {one other : Stage}

theorem Alike.play {α : Type} (same : Alike one other) (kind : Failing) (call : Call)
    (answer : α) : Agree Alike (one.play kind call answer) (other.play kind call answer) := by
  unfold Stage.play
  rw [same.failing]
  split <;> exact ⟨rfl, same.pods, rfl⟩

theorem Alike.pendingPod (same : Alike one other) (node : String) :
    Agree Alike (staged.pendingPod node one) (staged.pendingPod node other) := by
  change Agree _ (one.play .lookup (.pendingPod node) (selectPending one.pods node))
    (other.play .lookup (.pendingPod node) (selectPending other.pods node))
  rw [same.pods]
  exact same.play .lookup (.pendingPod node) _

theorem Alike.setBindPhase (same : Alike one other) (pod : PendingPod) (phase : BindPhase) :
    Agree Alike (staged.setBindPhase pod phase one) (staged.setBindPhase pod phase other) :=
  same.play .phase (.setBindPhase pod.namespaceName pod.name phase) ()

theorem Alike.releaseNodeLock (same : Alike one other) (node : String) :
    Agree Alike (staged.releaseNodeLock node one) (staged.releaseNodeLock node other) :=
  same.play .release (.releaseNodeLock node) ()

theorem Alike.patchNodeAnnotations (same : Alike one other) (node : String)
    (annotations : Annotations) :
    Agree Alike (staged.patchNodeAnnotations node annotations one)
      (staged.patchNodeAnnotations node annotations other) :=
  same.play .publish (.patchNodeAnnotations node annotations) ()

end Stage
end Cluster

namespace Node

def playedSurroundings (clock : Nat → Cluster.Stage → Cluster.Stage)
    (handshake : Nat → Int → Option String)
    (ages : ∀ time {one other}, Cluster.Stage.Alike one other →
      Cluster.Stage.Alike (clock time one) (clock time other)) :
    Likeness (⟨Inventory.scripted, Cluster.staged, clock, handshake⟩ :
      World Inventory.Script Cluster.Stage) where
  provider := Inventory.Script.Alike
  cluster := Cluster.Stage.Alike
  moment := (· = ·)
  lists same := same.devices_scripted
  looksUp node _ _ same := same.pendingPod node
  records pod phase _ _ same := same.setBindPhase pod phase
  releases node _ _ same := same.releaseNodeLock node
  publishes node annotations _ _ same := same.patchNodeAnnotations node annotations
  passes delay _ _ same := congrArg (Nat.add · delay) same
  ages := by
    rintro time _ _ _ rfl same
    exact ages time same
  speaks _ _ _ same := congrArg (fun time => (handshake time _).isSome) same
  registers := by
    rintro node inventory offset time _ text text' _ _ rfl spoken spoken' same
    cases spoken.symm.trans spoken'
    exact same.patchNodeAnnotations node _

end Node
end VirtualNpu
