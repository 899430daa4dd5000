import VirtualNpu.Node
import VirtualNpu.Plugin.Host
import VirtualNpu.Supervisor.Lifecycle
import VirtualNpu.Text.Basic

/-!
The plugin and its serving periods.  Every start opens a period with a stop token
of its own, and cancels that of the period before.  A start that fails at any of
its stages ends its period at once.
-/

namespace VirtualNpu
namespace Plugin

structure Settings where
  directory : String
  kubeletSocket : String
  intervals : Registration.Intervals
  offset : Int
  deriving DecidableEq

end Plugin

/-- A plugin: its node, whose service and reporter are those of the latest period,
the watches of the periods before, the state of its machine, the number of tokens
ever created, those that are not cancelled, and the one of the running period. -/
structure Plugin (σ κ ω : Type) where
  settings : Plugin.Settings
  node : Node σ κ
  past : List Kubelet.Watch
  machine : ω
  opened : Nat
  live : List Nat
  running : Option Nat

namespace Plugin

variable {σ κ ω : Type}

def new (settings : Settings) (node : Node σ κ) (machine : ω) : Plugin σ κ ω :=
  { settings
    node := node.stop.stopReporter
    past := []
    machine
    opened := 0
    live := []
    running := none }

def endpoint (plugin : Plugin σ κ ω) : String :=
  plugin.node.state.inventory.family.commonWord ++ ".sock"

def socketPath (plugin : Plugin σ κ ω) : String :=
  Text.joinPath plugin.settings.directory plugin.endpoint

def isServing (plugin : Plugin σ κ ω) : Bool := plugin.running.isSome

def request (plugin : Plugin σ κ ω) : Request :=
  { version := Kubelet.apiVersion
    endpoint := plugin.endpoint
    resourceName := plugin.node.state.inventory.family.resourceName
    options := Kubelet.pluginOptions }

/-! ### Periods -/

def cancel (token : Nat) (plugin : Plugin σ κ ω) : Plugin σ κ ω :=
  { plugin with
    live := plugin.live.filter (· ≠ token)
    node := plugin.node.stop.stopReporter }

def cancelRunning (plugin : Plugin σ κ ω) : Plugin σ κ ω :=
  match plugin.running with
  | some token => { plugin.cancel token with running := none }
  | none => plugin

def openPeriod (plugin : Plugin σ κ ω) : Plugin σ κ ω :=
  let before := plugin.cancelRunning
  { before with
    node := { before.node with watches := [], stopped := false, reporter := none }
    past := before.past ++ before.node.watches
    opened := before.opened + 1
    live := before.opened :: before.live
    running := some before.opened }

/-- Ends the running period and takes the socket away.  Without one this does
nothing. -/
def stop (host : Host ω) (plugin : Plugin σ κ ω) :
    Except (Report Error) Unit × Plugin σ κ ω :=
  match plugin.running with
  | none => (.ok (), plugin)
  | some _ =>
      let (cleared, machine) := host.clear plugin.socketPath plugin.machine
      (if cleared then .ok () else .error (.of (.socket plugin.socketPath)),
        { plugin.cancelRunning with machine })

/-! ### Starting -/

abbrev Stage (σ κ ω : Type) :=
  Plugin σ κ ω → Except (Report Error) Unit × Plugin σ κ ω

def inOrder : List (Stage σ κ ω) → Stage σ κ ω
  | [], plugin => (.ok (), plugin)
  | stage :: rest, plugin =>
      match stage plugin with
      | (.ok _, after) => inOrder rest after
      | (.error report, after) => (.error report, after)

def refreshStage (provider : Inventory.Provider σ) : Stage σ κ ω := fun plugin =>
  match plugin.node.refresh provider with
  | (.ok _, node) => (.ok (), { plugin with node })
  | (.error report, node) => (.error (.above .inventory report), { plugin with node })

def machineStage (action : ω → Bool × ω) (error : Error) : Stage σ κ ω := fun plugin =>
  let (succeeded, machine) := action plugin.machine
  (if succeeded then .ok () else .error (.of error), { plugin with machine })

def clearStage (host : Host ω) : Stage σ κ ω := fun plugin =>
  machineStage (host.clear plugin.socketPath) (.socket plugin.socketPath) plugin

def listenStage (host : Host ω) : Stage σ κ ω := fun plugin =>
  machineStage (host.listen plugin.socketPath (plugin.running.getD plugin.opened))
    (.socket plugin.socketPath) plugin

def probeStage (host : Host ω) : Stage σ κ ω := fun plugin =>
  machineStage (host.probe plugin.socketPath) (.liveness plugin.socketPath) plugin

def registerStage (host : Host ω) : Stage σ κ ω := fun plugin =>
  machineStage (host.register plugin.settings.kubeletSocket plugin.request)
    (.registration plugin.settings.kubeletSocket) plugin

def reportStage : Stage σ κ ω := fun plugin =>
  (.ok (),
    { plugin with
      node := plugin.node.startReporter plugin.settings.intervals plugin.settings.offset })

def stages (provider : Inventory.Provider σ) (host : Host ω) : List (Stage σ κ ω) :=
  [refreshStage provider, clearStage host, listenStage host, probeStage host,
    registerStage host, reportStage]

/-- Opens a period and runs the stages.  If one fails the period is stopped, and it
is that failure which is told. -/
def start (provider : Inventory.Provider σ) (host : Host ω) (plugin : Plugin σ κ ω) :
    Except (Report Error) Unit × Plugin σ κ ω :=
  match inOrder (stages provider host) plugin.openPeriod with
  | (.ok _, after) => (.ok (), after)
  | (.error report, after) => (.error report, (after.stop host).2)

def cleanupIdle (provider : Inventory.Provider σ) (plugin : Plugin σ κ ω) :
    Except (Report Inventory.Error) Unit × Plugin σ κ ω :=
  let (answer, node) := plugin.node.ask provider.cleanupIdle
  (answer, { plugin with node })

def lifecycle (provider : Inventory.Provider σ) (host : Host ω) :
    Supervisor.Lifecycle (Plugin σ κ ω) where
  start := start provider host
  stop := stop host
  cleanupIdle := cleanupIdle provider

/-! ### Service -/

def isReachable (host : Host ω) (plugin : Plugin σ κ ω) : Bool :=
  plugin.running.isSome && host.listener? plugin.socketPath plugin.machine == plugin.running

def allocate (client : Cluster.Client κ) (containers : Kubelet.Containers)
    (plugin : Plugin σ κ ω) :
    Except Allocation.Error Kubelet.Allocated × Plugin σ κ ω :=
  let (outcome, node) := plugin.node.allocate client containers
  (outcome, { plugin with node })

/-- Opens a watch in the latest period; the answer is its number among all watches. -/
def openWatch (plugin : Plugin σ κ ω) : Nat × Plugin σ κ ω :=
  let (number, node) := plugin.node.openWatch
  (plugin.past.length + number, { plugin with node })

def receive (number : Nat) (plugin : Plugin σ κ ω) :
    Option (Kubelet.Watch.Received × Plugin σ κ ω) :=
  match plugin.past[number]? with
  | some watch =>
      let (received, after) := watch.receive
      let settled := after.settle { plugin.node.view with stopped := true }
      some (received, { plugin with past := plugin.past.set number settled })
  | none =>
      (plugin.node.receive (number - plugin.past.length)).map fun (received, node) =>
        (received, { plugin with node })

def awaitReport (provider : Inventory.Provider σ) (client : Cluster.Client κ)
    (clock : Nat → κ → κ) (handshake : Nat → Int → Option String) (plugin : Plugin σ κ ω) :
    Plugin σ κ ω :=
  match plugin.node.reporter with
  | some reporter =>
      { plugin with node := plugin.node.report provider client clock handshake reporter }
  | none => plugin

end Plugin
end VirtualNpu
