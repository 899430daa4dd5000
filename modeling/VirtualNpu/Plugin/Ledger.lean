import VirtualNpu.Plugin.Host

/-!
A ledger of what a plugin asks of its machine.  A host that keeps one does what the host
does that it is made from, and enters every attempt with its success.
-/

namespace VirtualNpu
namespace Plugin

inductive Action where
  | clear (path : String)
  | listen (path : String) (period : Nat)
  | probe (path : String)
  | register (path : String) (request : Request)
  deriving DecidableEq

structure Attempt where
  action : Action
  succeeded : Bool
  deriving DecidableEq

structure Ledger (ω : Type) where
  machine : ω
  attempts : List Attempt

variable {ω : Type}

namespace Ledger

def mapMachine (change : ω → ω) (ledger : Ledger ω) : Ledger ω :=
  { ledger with machine := change ledger.machine }

def enter (ledger : Ledger ω) (action : Action) (outcome : Bool × ω) : Bool × Ledger ω :=
  (outcome.1, ⟨outcome.2, ledger.attempts ++ [⟨action, outcome.1⟩]⟩)

end Ledger

def Host.withLedger (host : Host ω) : Host (Ledger ω) where
  clear path ledger := ledger.enter (.clear path) (host.clear path ledger.machine)
  listen path period ledger :=
    ledger.enter (.listen path period) (host.listen path period ledger.machine)
  probe path ledger := ledger.enter (.probe path) (host.probe path ledger.machine)
  register path request ledger :=
    ledger.enter (.register path request) (host.register path request ledger.machine)
  listener? path ledger := host.listener? path ledger.machine

end Plugin
end VirtualNpu
