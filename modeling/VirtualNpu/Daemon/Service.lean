import VirtualNpu.Plugin.Serving
import VirtualNpu.Plugin.ServingLoop
import VirtualNpu.Supervisor.Run

/-!
A plugin under its supervisor with the loops of its serving periods.  The loops take turns with the
supervisor and with each other in any order, on one machine, and what they report waits until the
supervisor takes it.
-/

namespace VirtualNpu
namespace Daemon

open Plugin (ServingLoop)

/-- The loops of all periods in the order in which these were opened, the reports that have not been
taken, and the deeds of all loops, each with the number of its loop. -/
structure Service (σ κ ω : Type) where
  phase : Supervisor.Phase
  plugin : Plugin σ κ ω
  loops : List ServingLoop
  reports : List (Report Plugin.Error)
  log : List (Nat × ServingLoop.Deed)

namespace Service

variable {σ κ ω : Type}

/-- The loop of a period that has been opened and left running.  One whose start fails is stopped
before its loop has a turn. -/
def newLoops (before after : Plugin σ κ ω) : List ServingLoop :=
  match after.running with
  | some period =>
      if before.opened ≤ period then [.start after.socketPath period .default] else []
  | none => []

inductive Move (ω : Type) where
  /-- the supervisor takes an event, or finds that there are to be no more -/
  | take (event : Option Supervisor.Event)
  | takeReport
  | turn (number now : Nat) (turn : ServingLoop.Turn)
  | machine (change : ω → ω)

section
variable (provider : Inventory.Provider σ) (host : Plugin.Host ω)

def settle (service : Service σ κ ω) (outcome : Supervisor.Phase × Plugin σ κ ω) :
    Service σ κ ω :=
  { service with
    phase := outcome.1
    plugin := outcome.2
    loops := service.loops ++ newLoops service.plugin outcome.2 }

def start (plugin : Plugin σ κ ω) : Service σ κ ω :=
  settle ⟨.waiting true, plugin, [], [], []⟩
    (Supervisor.begin (Plugin.lifecycle provider host) plugin)

def take (service : Service σ κ ω) (input : Supervisor.Input) : Service σ κ ω :=
  service.settle
    (Supervisor.take (Plugin.lifecycle provider host) service.phase input service.plugin)

def turn (service : Service σ κ ω) (number : Nat) (loop : ServingLoop) (now : Nat)
    (turn : ServingLoop.Turn) : Service σ κ ω :=
  let stopped := decide (loop.period ∉ service.plugin.live)
  let stepped := loop.step host stopped now service.plugin.machine turn
  { service with
    plugin := { service.plugin with machine := stepped.machine }
    loops := service.loops.set number stepped.loop
    reports := service.reports ++ (stepped.deed.bind ServingLoop.Deed.report?).toList
    log := service.log ++ (stepped.deed.map fun deed => (number, deed)).toList }

def step (service : Service σ κ ω) : Move ω → Service σ κ ω
  | .take (some event) => service.take provider host (.event event)
  | .take none => service.take provider host .eventsClosed
  | .takeReport =>
      match service.phase, service.reports with
      | .waiting _, report :: rest =>
          { service.take provider host (.fatal report) with reports := rest }
      | _, _ => service
  | .turn number now turn =>
      match service.loops[number]? with
      | some loop => service.turn host number loop now turn
      | none => service
  | .machine change =>
      { service with plugin := { service.plugin with machine := change service.plugin.machine } }

def run (moves : List (Move ω)) (service : Service σ κ ω) : Service σ κ ω :=
  moves.foldl (step provider host) service

end

end Service
end Daemon
end VirtualNpu
