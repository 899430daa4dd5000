import VirtualNpu.Plugin.CrashBudget

/-!
The loop that keeps the server of a serving period going.  A server that ends unasked is opened
again as long as the crash budget lasts, and an attempt to open it that fails counts as a crash.
The loop asks for its stop token only between these steps, and what it has asked may be out of date
when it acts.
-/

namespace VirtualNpu
namespace Plugin

variable {ω : Type}

/-- Opens the server of a period in place of what stands at the path. -/
def Host.bind (host : Host ω) (path : String) (period : Nat) (machine : ω) : Bool × ω :=
  match host.clear path machine with
  | (true, cleared) => host.listen path period cleared
  | (false, kept) => (false, kept)

namespace ServingLoop

def rebindDelay : Nat := 1000000000

def shutdownGrace : Nat := 2000000000

inductive Phase where
  | serving
  /-- the stop token has been found cancelled, and the server may finish what it does -/
  | draining (since : Nat)
  | left
  /-- a crash is to be charged to the budget -/
  | crashed
  | charged
  /-- the stop token has been asked for the last time before the server is opened -/
  | binding
  | pausing (since : Nat)
  | ended
  deriving DecidableEq

inductive Turn where
  | exit
  /-- a stop token that is cancelled is heeded while the loop waits -/
  | heed
  /-- the loop goes on, where it need not wait any longer -/
  | proceed
  deriving DecidableEq

/-- Where a turn leads that charges nothing and opens nothing. -/
def Phase.after (stopped : Bool) (now : Nat) : Phase → Turn → Phase
  | .serving, .exit => .left
  | .serving, .heed => if stopped then .draining now else .serving
  | .draining _, .exit => .ended
  | .draining since, .proceed =>
      if since + shutdownGrace ≤ now then .ended else .draining since
  | .left, .proceed => if stopped then .ended else .crashed
  | .charged, .proceed => if stopped then .ended else .binding
  | .pausing since, .proceed => if since + rebindDelay ≤ now then .crashed else .pausing since
  | .pausing since, .heed => if stopped then .ended else .pausing since
  | phase, _ => phase

/-- What others can tell of a loop's turn. -/
inductive Deed where
  | charge (now : Nat) (answer : Except Error Nat)
  | rebind (succeeded : Bool)

def Deed.report? : Deed → Option (Report Error)
  | .charge _ (.error error) => some (.of error)
  | _ => none

end ServingLoop

structure ServingLoop where
  path : String
  period : Nat
  budget : CrashBudget
  phase : ServingLoop.Phase
  deriving DecidableEq

namespace ServingLoop

def start (path : String) (period : Nat) (budget : CrashBudget) : ServingLoop :=
  ⟨path, period, budget, .serving⟩

structure Stepped (ω : Type) where
  loop : ServingLoop
  deed : Option Deed
  machine : ω

def charge (loop : ServingLoop) (now : Nat) (machine : ω) : Stepped ω :=
  let (answer, budget) := loop.budget.record now
  ⟨{ loop with budget, phase := if answer.isOk then .charged else .ended },
    some (.charge now answer), machine⟩

def rebind (loop : ServingLoop) (host : Host ω) (now : Nat) (machine : ω) : Stepped ω :=
  let (succeeded, after) := host.bind loop.path loop.period machine
  ⟨{ loop with phase := if succeeded then .serving else .pausing now },
    some (.rebind succeeded), after⟩

def step (loop : ServingLoop) (host : Host ω) (stopped : Bool) (now : Nat) (machine : ω)
    (turn : Turn) : Stepped ω :=
  match loop.phase, turn with
  | .crashed, .proceed => loop.charge now machine
  | .binding, .proceed => loop.rebind host now machine
  | phase, turn => ⟨{ loop with phase := phase.after stopped now turn }, none, machine⟩

end ServingLoop
end Plugin
end VirtualNpu
