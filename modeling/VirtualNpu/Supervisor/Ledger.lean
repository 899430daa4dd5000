import VirtualNpu.Supervisor.Run

/-!
A ledger of what a supervisor asks of its plugin.  A lifecycle that keeps one does what the
lifecycle does that it is made from, and enters every call with its outcome.
-/

namespace VirtualNpu
namespace Supervisor

abbrev StartOutcome := Except (Report Plugin.Error) Unit

inductive Entry where
  | start (outcome : StartOutcome)
  | stop (outcome : Except (Report Plugin.Error) Unit)
  | cleanup (outcome : Except (Report Inventory.Error) Unit)

def Entry.step : Entry → Step
  | .start _ => .start
  | .stop _ => .stop
  | .cleanup _ => .cleanup

def Entry.startOutcome? : Entry → Option StartOutcome
  | .start outcome => some outcome
  | _ => none

structure Ledger (σ : Type) where
  state : σ
  entries : List Entry

variable {σ : Type}

namespace Ledger

def blank (state : σ) : Ledger σ := ⟨state, []⟩

def enter {ε : Type} (ledger : Ledger σ) (entry : Except ε Unit → Entry)
    (answer : Except ε Unit × σ) : Except ε Unit × Ledger σ :=
  (answer.1, ⟨answer.2, ledger.entries ++ [entry answer.1]⟩)

def starts (ledger : Ledger σ) : List StartOutcome :=
  ledger.entries.filterMap Entry.startOutcome?

def steps (ledger : Ledger σ) : List Step := ledger.entries.map Entry.step

end Ledger

def Lifecycle.withLedger (life : Lifecycle σ) : Lifecycle (Ledger σ) where
  start ledger := ledger.enter .start (life.start ledger.state)
  stop ledger := ledger.enter .stop (life.stop ledger.state)
  cleanupIdle ledger := ledger.enter .cleanup (life.cleanupIdle ledger.state)

end Supervisor
end VirtualNpu
