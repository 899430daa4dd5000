import VirtualNpu.Plugin.Ledger
import VirtualNpu.Plugin.Serving

/-!
What the surroundings answer to a start: its hurdles in their order, each taken on the machine that
those before it leave.
-/

namespace VirtualNpu
namespace Plugin

inductive Hurdle where
  | refresh
  | bind
  | probe
  | register
  deriving DecidableEq

namespace Hurdle

def inOrder : List Hurdle := [.refresh, .bind, .probe, .register]

def earlier : Hurdle → List Hurdle
  | .refresh => []
  | .bind => [.refresh]
  | .probe => [.refresh, .bind]
  | .register => [.refresh, .bind, .probe]

end Hurdle

variable {σ κ ω : Type}

def errorAt (plugin : Plugin σ κ ω) : Hurdle → Error
  | .refresh => .inventory
  | .bind => .socket plugin.socketPath
  | .probe => .liveness plugin.socketPath
  | .register => .registration plugin.settings.kubeletSocket

def takenOver (plugin : Plugin σ κ ω) (provider : Inventory.Provider σ) :
    Registration.State σ κ :=
  let state := plugin.node.state
  let answer := provider.devices state.provider
  { state with
    inventory :=
      match answer.1 with
      | .ok devices => state.inventory.replace devices
      | .error _ => state.inventory
    provider := answer.2 }

section
variable (host : Host ω) (plugin : Plugin σ κ ω)

def clearing : Bool × ω := host.clear plugin.socketPath plugin.machine

def listening : Bool × ω :=
  host.listen plugin.socketPath plugin.opened (plugin.clearing host).2

def probing : Bool × ω := host.probe plugin.socketPath (plugin.listening host).2

def registering : Bool × ω :=
  host.register plugin.settings.kubeletSocket plugin.request (plugin.probing host).2

def passes (provider : Inventory.Provider σ) : Hurdle → Bool
  | .refresh => (provider.devices plugin.node.state.provider).1.isOk
  | .bind => (plugin.clearing host).1 && (plugin.listening host).1
  | .probe => (plugin.probing host).1
  | .register => (plugin.registering host).1

def stuckAt : Hurdle → ω
  | .refresh => plugin.machine
  | .bind =>
      if (plugin.clearing host).1 then (plugin.listening host).2 else (plugin.clearing host).2
  | .probe => (plugin.probing host).2
  | .register => (plugin.registering host).2

def comesTo (provider : Inventory.Provider σ) (hurdle : Hurdle) : Bool :=
  hurdle.earlier.all (plugin.passes host provider)

/-- What is attempted on the machine at a hurdle.  A path that cannot be cleared is not listened
on. -/
def attemptsAt : Hurdle → List Attempt
  | .refresh => []
  | .bind =>
      ⟨.clear plugin.socketPath, (plugin.clearing host).1⟩ ::
        if (plugin.clearing host).1 then
          [⟨.listen plugin.socketPath plugin.opened, (plugin.listening host).1⟩]
        else []
  | .probe => [⟨.probe plugin.socketPath, (plugin.probing host).1⟩]
  | .register =>
      [⟨.register plugin.settings.kubeletSocket plugin.request, (plugin.registering host).1⟩]

def attemptsAlong (provider : Inventory.Provider σ) : List Attempt :=
  (Hurdle.inOrder.filter (plugin.comesTo host provider)).flatMap (plugin.attemptsAt host)

/-- The machine on which a start asks the kubelet, if it comes to that. -/
def askingKubelet? (provider : Inventory.Provider σ) : Option ω :=
  if plugin.comesTo host provider .register then some (plugin.probing host).2 else none

end

section
variable {host : Host ω} {plugin : Plugin σ κ ω}

theorem stuckAt_bind_uncleared (failed : (plugin.clearing host).1 = false) :
    plugin.stuckAt host .bind = (plugin.clearing host).2 :=
  if_neg (Bool.eq_false_iff.mp failed)

theorem stuckAt_bind_cleared (succeeded : (plugin.clearing host).1 = true) :
    plugin.stuckAt host .bind = (plugin.listening host).2 :=
  if_pos succeeded

end

end Plugin
end VirtualNpu
