import VirtualNpu.Inventory.Provider
import VirtualNpu.Plugin.Host

/-!
What can be started, stopped and cleaned up, and a lifecycle that is rehearsed:
it notes the calls made and fails where it is told to.
-/

namespace VirtualNpu
namespace Supervisor

structure Lifecycle (σ : Type) where
  start : σ → Except (Report Plugin.Error) Unit × σ
  stop : σ → Except (Report Plugin.Error) Unit × σ
  cleanupIdle : σ → Except (Report Inventory.Error) Unit × σ

inductive Step where
  | start
  | stop
  | cleanup
  deriving DecidableEq

/-- A rehearsal: the numbers of the starts that fail, counted from zero, their
error, whether stops and cleanups fail, and the calls made, last first. -/
structure Rehearsal where
  failStarts : List Nat
  startError : Plugin.Error
  failStop : Bool
  failCleanup : Bool
  calls : List Step
  deriving DecidableEq

namespace Rehearsal

def noted (rehearsal : Rehearsal) (step : Step) : Rehearsal :=
  { rehearsal with calls := step :: rehearsal.calls }

def startFails (rehearsal : Rehearsal) : Bool :=
  rehearsal.failStarts.contains (rehearsal.calls.count .start)

def callsSince (rehearsal : Rehearsal) (seen : Nat) : List Step :=
  rehearsal.calls.reverse.drop seen

end Rehearsal

def rehearsed : Lifecycle Rehearsal where
  start rehearsal :=
    (if rehearsal.startFails then .error (.of rehearsal.startError) else .ok (),
      rehearsal.noted .start)
  stop rehearsal :=
    (if rehearsal.failStop then .error (.of (.socket "rehearsed")) else .ok (),
      rehearsal.noted .stop)
  cleanupIdle rehearsal :=
    (if rehearsal.failCleanup then .error (.of (.cleanup "rehearsed")) else .ok (),
      rehearsal.noted .cleanup)

end Supervisor
end VirtualNpu
