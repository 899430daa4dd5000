import VirtualNpu.Kubelet.Allocate
import VirtualNpu.Kubelet.Watch
import VirtualNpu.Registration.Reporter

/-!
A node that serves its devices: the inventory, the watches and the reporter on
one clock.  Whatever can run does so before the next action.
-/

namespace VirtualNpu

structure Node (σ κ : Type) where
  name : String
  state : Registration.State σ κ
  watches : List Kubelet.Watch
  stopped : Bool
  reporter : Option Registration.Reporter
  time : Nat

namespace Node

variable {σ κ : Type}

def start (name : String) (family : Config.ChipFamily) (provider : σ) (cluster : κ) :
    Node σ κ :=
  { name
    state := ⟨.empty family, 0, provider, cluster⟩
    watches := []
    stopped := false
    reporter := none
    time := 0 }

def view (node : Node σ κ) : Kubelet.View :=
  ⟨Kubelet.deviceList node.state.inventory, node.state.raised, node.stopped⟩

def settle (node : Node σ κ) : Node σ κ :=
  { node with watches := node.watches.map (Kubelet.Watch.settle node.view) }

def refresh (provider : Inventory.Provider σ) (node : Node σ κ) :
    Except (Report Inventory.Error) Unit × Node σ κ :=
  match node.state.inventory.refresh provider node.state.provider with
  | (.ok inventory, after) =>
      (.ok (), { node with state := { node.state with inventory, provider := after } })
  | (.error report, after) =>
      (.error report, { node with state := { node.state with provider := after } })

def ask {α : Type} (question : σ → Inventory.Answer σ α) (node : Node σ κ) :
    Except (Report Inventory.Error) α × Node σ κ :=
  let (answer, after) := question node.state.provider
  (answer, { node with state := { node.state with provider := after } })

def setProvider (change : σ → σ) (node : Node σ κ) : Node σ κ :=
  { node with state := { node.state with provider := change node.state.provider } }

def setCluster (change : κ → κ) (node : Node σ κ) : Node σ κ :=
  { node with state := { node.state with cluster := change node.state.cluster } }

def allocate (client : Cluster.Client κ) (containers : Kubelet.Containers) (node : Node σ κ) :
    Except Allocation.Error Kubelet.Allocated × Node σ κ :=
  let (outcome, after) :=
    Kubelet.allocate client node.state.inventory node.name containers node.state.cluster
  (outcome, node.setCluster fun _ => after)

/-! ### Watches and notifications, before any task runs -/

def subscribe (node : Node σ κ) : Nat × Node σ κ :=
  (node.watches.length,
    { node with watches := node.watches ++ [.opened node.state.raised] })

def read (number : Nat) (node : Node σ κ) : Option (Kubelet.Watch.Received × Node σ κ) :=
  (node.watches[number]?).map fun watch =>
    (watch.receive.1, { node with watches := node.watches.set number watch.receive.2 })

def depart (number : Nat) (node : Node σ κ) : Option (Node σ κ) :=
  (node.watches[number]?).map fun watch =>
    { node with watches := node.watches.set number watch.depart }

def raise (times : Nat) (node : Node σ κ) : Node σ κ :=
  { node with state := { node.state with raised := node.state.raised + times } }

def fireStop (node : Node σ κ) : Node σ κ := { node with stopped := true }

/-! ### The same with everything run that can run -/

def openWatch (node : Node σ κ) : Nat × Node σ κ :=
  (node.subscribe.1, node.subscribe.2.settle)

def receive (number : Nat) (node : Node σ κ) :
    Option (Kubelet.Watch.Received × Node σ κ) :=
  (node.read number).map fun (received, after) => (received, after.settle)

def closeWatch (number : Nat) (node : Node σ κ) : Option (Node σ κ) :=
  (node.depart number).map settle

def subscribers (node : Node σ κ) : Nat :=
  node.watches.countP Kubelet.Watch.isLive

/-- Raises health notifications, all before any task runs. -/
def notify (times : Nat) (node : Node σ κ) : Node σ κ := (node.raise times).settle

def stop (node : Node σ κ) : Node σ κ := node.fireStop.settle

/-! ### The reporter -/

def startReporter (intervals : Registration.Intervals) (offset : Int) (node : Node σ κ) :
    Node σ κ :=
  { node with reporter := some (.start intervals offset node.time) }

def stopReporter (node : Node σ κ) : Node σ κ :=
  { node with reporter := none }

/-- Makes the report that is due, at its time.  `handshake` is the text of a
moment in milliseconds with an offset in seconds. -/
def tick (provider : Inventory.Provider σ) (client : Cluster.Client κ)
    (clock : Nat → κ → κ) (handshake : Nat → Int → Option String)
    (reporter : Registration.Reporter) (node : Node σ κ) : Node σ κ :=
  let due := reporter.due
  let timed := node.setCluster (clock due)
  let (outcome, state) :=
    Registration.report provider client node.name (handshake due reporter.offset) timed.state
  let next := (reporter.intervals.after outcome).map fun delay =>
    { reporter with due := due + delay }
  { timed with state, time := due, reporter := next }

def report (provider : Inventory.Provider σ) (client : Cluster.Client κ)
    (clock : Nat → κ → κ) (handshake : Nat → Int → Option String)
    (reporter : Registration.Reporter) (node : Node σ κ) : Node σ κ :=
  (node.tick provider client clock handshake reporter).settle

/-- Makes the reports that are due until `target`, at most `fuel` of them. -/
def runReporter (provider : Inventory.Provider σ) (client : Cluster.Client κ)
    (clock : Nat → κ → κ) (handshake : Nat → Int → Option String) (target : Nat) :
    Nat → Node σ κ → Node σ κ
  | 0, node => node
  | fuel + 1, node =>
      match node.reporter with
      | some reporter =>
          if reporter.due ≤ target then
            runReporter provider client clock handshake target fuel
              (node.report provider client clock handshake reporter)
          else node
      | none => node

/-- Lets time pass, with the reports that come due on the way.  Delays are at
least a millisecond, so there is at most one report in each. -/
def advance (provider : Inventory.Provider σ) (client : Cluster.Client κ)
    (clock : Nat → κ → κ) (handshake : Nat → Int → Option String) (milliseconds : Nat)
    (node : Node σ κ) : Node σ κ :=
  let target := node.time + milliseconds
  let ran := runReporter provider client clock handshake target (milliseconds + 1) node
  { ran.setCluster (clock target) with time := target }

end Node
end VirtualNpu
