import VirtualNpu.Node.Course

/-!
Surroundings of a node that behave alike.  They need not be equal: a provider may count its
queries, and a cluster may keep what was published to it.
-/

namespace VirtualNpu
namespace Node

def Agree {α τ : Type} (alike : τ → τ → Prop) (one other : α × τ) : Prop :=
  one.1 = other.1 ∧ alike one.2 other.2

theorem Agree.split {α τ : Type} {alike : τ → τ → Prop} {one other : α × τ}
    (agree : Agree alike one other) :
    ∃ answer left right, one = (answer, left) ∧ other = (answer, right) ∧ alike left right :=
  ⟨one.1, one.2, other.2, rfl, Prod.ext agree.1.symm rfl, agree.2⟩

theorem agree_refl {α τ : Type} (outcome : α × τ) : Agree (· = ·) outcome outcome := ⟨rfl, rfl⟩

variable {σ κ : Type}

/-- Which states of the provider, of the cluster and of the clock are alike.  Alike states answer
the same, and what is done to both leaves them alike. -/
structure Likeness (world : World σ κ) where
  provider : σ → σ → Prop
  cluster : κ → κ → Prop
  moment : Nat → Nat → Prop
  lists : ∀ {one other}, provider one other →
    Agree provider (world.provider.devices one) (world.provider.devices other)
  looksUp : ∀ node {one other}, cluster one other →
    Agree cluster (world.client.pendingPod node one) (world.client.pendingPod node other)
  records : ∀ pod phase {one other}, cluster one other →
    Agree cluster (world.client.setBindPhase pod phase one)
      (world.client.setBindPhase pod phase other)
  releases : ∀ node {one other}, cluster one other →
    Agree cluster (world.client.releaseNodeLock node one)
      (world.client.releaseNodeLock node other)
  publishes : ∀ node annotations {one other}, cluster one other →
    Agree cluster (world.client.patchNodeAnnotations node annotations one)
      (world.client.patchNodeAnnotations node annotations other)
  passes : ∀ delay {time time'}, moment time time' → moment (time + delay) (time' + delay)
  ages : ∀ {time time' one other}, moment time time' → cluster one other →
    cluster (world.clock time one) (world.clock time' other)
  speaks : ∀ offset {time time'}, moment time time' →
    (world.handshake time offset).isSome = (world.handshake time' offset).isSome
  registers : ∀ node inventory offset {time time' text text' one other}, moment time time' →
    world.handshake time offset = some text → world.handshake time' offset = some text' →
    cluster one other →
    Agree cluster
      (world.client.patchNodeAnnotations node (Registration.nodeAnnotations inventory text) one)
      (world.client.patchNodeAnnotations node (Registration.nodeAnnotations inventory text') other)

variable {world : World σ κ}

def Likeness.same (world : World σ κ) : Likeness world where
  provider := (· = ·)
  cluster := (· = ·)
  moment := (· = ·)
  lists := by rintro _ _ rfl; exact agree_refl _
  looksUp := by rintro _ _ _ rfl; exact agree_refl _
  records := by rintro _ _ _ _ rfl; exact agree_refl _
  releases := by rintro _ _ _ rfl; exact agree_refl _
  publishes := by rintro _ _ _ _ rfl; exact agree_refl _
  passes := by rintro _ _ _ rfl; rfl
  ages := by rintro _ _ _ _ rfl rfl; rfl
  speaks := by rintro _ _ _ rfl; rfl
  registers := by
    rintro _ _ _ _ _ _ _ _ _ rfl text text' rfl
    cases text.symm.trans text'
    exact agree_refl _

instance (world : World σ κ) : Inhabited (Likeness world) := ⟨.same world⟩

def World.withLedger (world : World σ κ) : World σ (Cluster.Ledger κ) where
  provider := world.provider
  client := world.client.withLedger
  clock time := .mapCluster (world.clock time)
  handshake := world.handshake

/-- Ledgers are alike whatever is entered in them. -/
def Likeness.withLedger (likeness : Likeness world) : Likeness world.withLedger where
  provider := likeness.provider
  cluster one other := likeness.cluster one.cluster other.cluster
  moment := likeness.moment
  lists := likeness.lists
  looksUp node _ _ := likeness.looksUp node
  records pod phase _ _ := likeness.records pod phase
  releases node _ _ := likeness.releases node
  publishes node annotations _ _ := likeness.publishes node annotations
  passes := likeness.passes
  ages := likeness.ages
  speaks := likeness.speaks
  registers node inventory offset _ _ _ _ _ _ := likeness.registers node inventory offset

def Likeness.Keeps (likeness : Likeness world) : Move σ κ → Prop
  | .provider change =>
      ∀ one other, likeness.provider one other → likeness.provider (change one) (change other)
  | .cluster change =>
      ∀ one other, likeness.cluster one other → likeness.cluster (change one) (change other)
  | _ => True

end Node
end VirtualNpu
