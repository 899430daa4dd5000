import VirtualNpu.Node.Answers
import VirtualNpu.Node.Likeness
import VirtualNpu.Plugin.Course
import VirtualNpu.Plugin.Trial

/-!
Surroundings of a plugin that behave alike, and what two plugins have in common that have started
in such surroundings.
-/

namespace VirtualNpu
namespace Plugin

variable {σ κ ω : Type} {world : World σ κ ω}

/-- Which states of the surroundings are alike.  It makes no difference to them what period a
server belongs to. -/
structure Likeness (world : World σ κ ω) extends Node.Likeness world.toWorld where
  machine : ω → ω → Prop
  listens : ∀ path period period' {one other}, machine one other →
    Node.Agree machine (world.host.listen path period one) (world.host.listen path period' other)
  probes : ∀ path {one other}, machine one other →
    Node.Agree machine (world.host.probe path one) (world.host.probe path other)
  asks : ∀ path request {one other}, machine one other →
    Node.Agree machine (world.host.register path request one)
      (world.host.register path request other)

/-- The surroundings at the next start of two plugins.  What stands at the path of the socket may
differ, as long as it can be cleared. -/
structure SameSurroundings (likeness : Likeness world) (one other : Plugin σ κ ω) : Prop where
  moment : likeness.moment one.node.time other.node.time
  provider : likeness.provider one.node.state.provider other.node.state.provider
  cluster : likeness.cluster one.node.state.cluster other.node.state.cluster
  usable : (one.clearing world.host).1 = true ∧ (other.clearing world.host).1 = true
  cleared : likeness.machine (one.clearing world.host).2 (other.clearing world.host).2

def service (plugin : Plugin σ κ ω) : Node.Course σ κ :=
  let node := plugin.node
  { node :=
      { name := node.name
        state :=
          { node.state with cluster := .start node.state.cluster }
        watches := node.watches
        stopped := node.stopped
        reporter := node.reporter
        time := node.time }
    allocations := [] }

/-- A host on which the server that was opened last can be reached at a path. -/
structure KeepsServer (host : Host ω) (path : String) : Prop where
  opened : ∀ period machine, (host.listen path period machine).1 = true →
    host.listener? path (host.listen path period machine).2 = some period
  probed : ∀ machine, host.listener? path (host.probe path machine).2 = host.listener? path machine
  registered : ∀ kubelet request machine,
    host.listener? path (host.register kubelet request machine).2 = host.listener? path machine

structure SameService (likeness : Likeness world) (one other : Plugin σ κ (Ledger ω)) : Prop where
  inventory : one.node.state.inventory = other.node.state.inventory
  serving : one.isServing = true ∧ other.isServing = true
  socketPath : one.socketPath = other.socketPath
  reachable : KeepsServer world.host one.socketPath →
    one.isReachable world.host.withLedger = true ∧ other.isReachable world.host.withLedger = true
  registered :
    let registration : Attempt := ⟨.register one.settings.kubeletSocket one.request, true⟩
    one.machine.attempts.getLast? = some registration ∧
      other.machine.attempts.getLast? = some registration
  answers : ∀ moves, (∀ move ∈ moves, likeness.Keeps move) →
    one.service.answers world.toWorld moves = other.service.answers world.toWorld moves

end Plugin
end VirtualNpu
