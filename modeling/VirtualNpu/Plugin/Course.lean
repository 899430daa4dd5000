import VirtualNpu.Node.Course
import VirtualNpu.Plugin.Ledger
import VirtualNpu.Plugin.Serving

/-!
Courses of a plugin: starts and stops one after another, in any order and each with any
outcome, and what the service and the surroundings do between them.
-/

namespace VirtualNpu
namespace Plugin

structure World (σ κ ω : Type) extends Node.World σ κ where
  host : Host ω

inductive Call where
  | start
  | stop
  deriving DecidableEq

inductive Act (σ κ ω : Type) where
  | call (call : Call)
  | cleanupIdle
  | allocate (containers : Kubelet.Containers)
  | openWatch
  | receive (number : Nat)
  | awaitReport
  | provider (change : σ → σ)
  | cluster (change : κ → κ)
  | machine (change : ω → ω)

structure Course (σ κ ω : Type) where
  plugin : Plugin σ κ (Ledger ω)
  calls : List (Call × Except (Report Error) Unit)

variable {σ κ ω : Type}

def withoutLedger (plugin : Plugin σ κ (Ledger ω)) : Plugin σ κ ω :=
  { plugin with machine := plugin.machine.machine }

def Call.perform (provider : Inventory.Provider σ) (host : Host ω) :
    Call → Plugin σ κ ω → Except (Report Error) Unit × Plugin σ κ ω
  | .start => Plugin.start provider host
  | .stop => Plugin.stop host

namespace Course

def start (settings : Settings) (node : Node σ κ) (machine : ω) : Course σ κ ω :=
  ⟨.new settings node ⟨machine, []⟩, []⟩

def step (world : World σ κ ω) (course : Course σ κ ω) : Act σ κ ω → Course σ κ ω
  | .call call =>
      let (result, plugin) := call.perform world.provider world.host.withLedger course.plugin
      ⟨plugin, course.calls ++ [(call, result)]⟩
  | .cleanupIdle => { course with plugin := (course.plugin.cleanupIdle world.provider).2 }
  | .allocate containers =>
      { course with plugin := (course.plugin.allocate world.client containers).2 }
  | .openWatch => { course with plugin := course.plugin.openWatch.2 }
  | .receive number =>
      { course with
        plugin := ((course.plugin.receive number).map Prod.snd).getD course.plugin }
  | .awaitReport =>
      { course with
        plugin :=
          course.plugin.awaitReport world.provider world.client world.clock world.handshake }
  | .provider change =>
      { course with
        plugin := { course.plugin with node := course.plugin.node.setProvider change } }
  | .cluster change =>
      { course with
        plugin := { course.plugin with node := course.plugin.node.setCluster change } }
  | .machine change =>
      { course with
        plugin := { course.plugin with machine := course.plugin.machine.mapMachine change } }

def run (world : World σ κ ω) (acts : List (Act σ κ ω)) (course : Course σ κ ω) :
    Course σ κ ω :=
  acts.foldl (step world) course

end Course
end Plugin
end VirtualNpu
