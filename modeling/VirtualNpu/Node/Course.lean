import VirtualNpu.Cluster.Ledger
import VirtualNpu.Node

/-!
A node whose parts take turns in any order: the service with its watches and any
number of allocations, and the reporter.  A move is what one of them does between two
points at which another may go on; runs are lists of moves.
-/

namespace VirtualNpu
namespace Node

structure World (σ κ : Type) where
  provider : Inventory.Provider σ
  client : Cluster.Client κ
  clock : Nat → κ → κ
  handshake : Nat → Int → Option String

inductive Move (σ κ : Type) where
  | provider (change : σ → σ)
  | cluster (change : κ → κ)
  | refresh
  | notify
  /-- a watch is opened, its task has not run yet -/
  | subscribe
  /-- the task of a watch takes one step, and that branch if it is idle -/
  | runTask (number : Nat) (branch : Kubelet.Branch)
  | read (number : Nat)
  | depart (number : Nat)
  | stop
  | startReporter (intervals : Registration.Intervals) (offset : Int)
  | stopReporter
  /-- the reporter makes its report from the poll to the publication -/
  | tick
  /-- the reporter publishes what it has made up earlier -/
  | publish (annotations : Cluster.Annotations)
  | request (containers : Kubelet.Containers)
  | allocate (number : Nat)

structure Course (σ κ : Type) where
  node : Node σ (Cluster.Ledger κ)
  allocations : List Kubelet.Progress

variable {σ κ : Type}

def runTask (number : Nat) (branch : Kubelet.Branch) (node : Node σ κ) : Node σ κ :=
  { node with
    watches := node.watches.modify number fun watch =>
      (watch.step (Kubelet.Watch.onlyBranch? branch) node.view).getD watch }

def reportMove (world : World σ κ) (node : Node σ (Cluster.Ledger κ)) :
    Node σ (Cluster.Ledger κ) :=
  match node.reporter with
  | none => node
  | some reporter =>
      (node.setCluster (.inHandsOf .reporter)).tick world.provider
        world.client.withLedger (fun time => .mapCluster (world.clock time))
        world.handshake reporter

def publishMove (world : World σ κ) (annotations : Cluster.Annotations)
    (node : Node σ (Cluster.Ledger κ)) : Node σ (Cluster.Ledger κ) :=
  node.setCluster fun ledger =>
    (world.client.withLedger.patchNodeAnnotations node.name annotations
      (ledger.inHandsOf .reporter)).2

namespace Course

/-- A serving period at its start, on an inventory and a health counter that earlier
periods may have used. -/
def start (name : String) (inventory : Inventory) (raised : Nat) (provider : σ)
    (cluster : κ) : Course σ κ :=
  { node :=
      { name
        state := ⟨inventory, raised, provider, .start cluster⟩
        watches := []
        stopped := false
        reporter := none
        time := 0 }
    allocations := [] }

def ledger (course : Course σ κ) : Cluster.Ledger κ := course.node.state.cluster

def callsOf (course : Course σ κ) (number : Nat) : List Cluster.Entry :=
  course.ledger.entries.filter fun entry => entry.caller = .allocation number

def advance (world : World σ κ) (number : Nat) (course : Course σ κ) : Course σ κ :=
  match course.allocations[number]? with
  | none => course
  | some progress =>
      let (after, ledger) :=
        progress.advance world.client.withLedger course.node.state.inventory
          course.node.name (course.ledger.inHandsOf (.allocation number))
      { node := course.node.setCluster fun _ => ledger
        allocations := course.allocations.set number after }

def step (world : World σ κ) (course : Course σ κ) : Move σ κ → Course σ κ
  | .provider change => { course with node := course.node.setProvider change }
  | .cluster change => { course with node := course.node.setCluster (.mapCluster change) }
  | .refresh => { course with node := (course.node.refresh world.provider).2 }
  | .notify => { course with node := course.node.raise 1 }
  | .subscribe => { course with node := course.node.subscribe.2 }
  | .runTask number branch => { course with node := course.node.runTask number branch }
  | .read number =>
      { course with node := ((course.node.read number).map Prod.snd).getD course.node }
  | .depart number => { course with node := (course.node.depart number).getD course.node }
  | .stop => { course with node := course.node.fireStop }
  | .startReporter intervals offset =>
      { course with node := course.node.startReporter intervals offset }
  | .stopReporter => { course with node := course.node.stopReporter }
  | .tick => { course with node := course.node.reportMove world }
  | .publish annotations => { course with node := course.node.publishMove world annotations }
  | .request containers =>
      { course with allocations := course.allocations ++ [.lookup containers] }
  | .allocate number => course.advance world number

def run (world : World σ κ) (moves : List (Move σ κ)) (course : Course σ κ) :
    Course σ κ :=
  moves.foldl (step world) course

end Course
end Node
end VirtualNpu
