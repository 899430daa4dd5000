import VirtualNpu.Supervisor.Lifecycle

/-!
The supervisor starts a plugin, restarts it when the kubelet comes back or a
restart is asked for, and stops it at the end.  It takes one input at a time.
-/

namespace VirtualNpu
namespace Supervisor

inductive Signal where
  | terminate
  | interrupt
  | quit
  deriving DecidableEq

inductive Event where
  /-- the kubelet has created its registration socket anew -/
  | socketRecreated
  | restartSignal
  | terminate (signal : Signal)
  | watchError (message : String)
  deriving DecidableEq

/-- What the supervisor takes: events and fatal reports of the plugin, from two
sources of which either may close. -/
inductive Input where
  | event (event : Event)
  | fatal (report : Report Plugin.Error)
  | eventsClosed
  | fatalClosed
  deriving DecidableEq

inductive Failure where
  | start (report : Report Plugin.Error)
  | restart (report : Report Plugin.Error)
  | plugin (report : Report Plugin.Error)
  deriving DecidableEq

def Failure.message : Failure → String
  | .start report => "failed to start device plugin: " ++ report.error.message
  | .restart report => "failed to restart device plugin: " ++ report.error.message
  | .plugin report => "device plugin failed: " ++ report.error.message

/-- Where a run stands: it waits for an input, and also for fatal reports as long
as their source is open, or it is over. -/
inductive Phase where
  | waiting (fatalOpen : Bool)
  | ended (result : Except Failure Unit)

def Phase.result? : Phase → Option (Except Failure Unit)
  | .waiting _ => none
  | .ended result => some result

variable {σ : Type}

def begin (life : Lifecycle σ) (state : σ) : Phase × σ :=
  match life.start state with
  | (.ok _, after) => (.waiting true, after)
  | (.error report, after) => (.ended (.error (.start report)), after)

/-- Cleans up, stops and starts again.  Only the start can fail a restart. -/
def restart (life : Lifecycle σ) (fatalOpen : Bool) (state : σ) : Phase × σ :=
  let cleaned := (life.cleanupIdle state).2
  let stopped := (life.stop cleaned).2
  match life.start stopped with
  | (.ok _, after) => (.waiting fatalOpen, after)
  | (.error report, after) => (.ended (.error (.restart report)), after)

/-- Stops and ends the run.  That the stop fails changes nothing. -/
def finish (life : Lifecycle σ) (result : Except Failure Unit) (state : σ) : Phase × σ :=
  (.ended result, (life.stop state).2)

def takeEvent (life : Lifecycle σ) (fatalOpen : Bool) (state : σ) : Event → Phase × σ
  | .socketRecreated => restart life fatalOpen state
  | .restartSignal => restart life fatalOpen state
  | .terminate _ => finish life (.ok ()) state
  | .watchError _ => (.waiting fatalOpen, state)

/-- Takes an input.  A fatal report is not read once its source has closed, and a
run that is over takes nothing. -/
def take (life : Lifecycle σ) : Phase → Input → σ → Phase × σ
  | .ended result, _, state => (.ended result, state)
  | .waiting fatalOpen, .event event, state => takeEvent life fatalOpen state event
  | .waiting true, .fatal report, state => finish life (.error (.plugin report)) state
  | .waiting false, .fatal _, state => (.waiting false, state)
  | .waiting _, .eventsClosed, state => finish life (.ok ()) state
  | .waiting _, .fatalClosed, state => (.waiting false, state)

def takeAll (life : Lifecycle σ) (inputs : List Input) (start : Phase × σ) : Phase × σ :=
  inputs.foldl (fun now input => take life now.1 input now.2) start

def run (life : Lifecycle σ) (inputs : List Input) (state : σ) : Phase × σ :=
  takeAll life inputs (begin life state)

end Supervisor
end VirtualNpu
