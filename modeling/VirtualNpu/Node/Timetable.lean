import VirtualNpu.Node.Course

/-!
A node on the clock.  Between its moves time passes in steps of any length, and the reports
that come due on the way are noted.  The notes only look on.
-/

namespace VirtualNpu
namespace Node

open Cluster (Ledger)

variable {σ κ : Type}

def World.reporterClock (world : World σ κ) (time : Nat) (ledger : Ledger κ) : Ledger κ :=
  (ledger.inHandsOf .reporter).mapCluster (world.clock time)

def reportOn (world : World σ κ) (reporter : Registration.Reporter)
    (node : Node σ (Ledger κ)) : Node σ (Ledger κ) :=
  node.report world.provider world.client.withLedger world.reporterClock world.handshake reporter

structure Tick where
  time : Nat
  outcome : Registration.Outcome
  entries : List Cluster.Entry

def tickOn (world : World σ κ) (reporter : Registration.Reporter) (node : Node σ (Ledger κ)) :
    Tick where
  time := (node.reportOn world reporter).time
  outcome :=
    (Registration.report world.provider world.client.withLedger node.name
      (world.handshake reporter.due reporter.offset)
      (node.setCluster (world.reporterClock reporter.due)).state).1
  entries :=
    (node.reportOn world reporter).state.cluster.entries.drop node.state.cluster.entries.length

def ticksUntil (world : World σ κ) (target : Nat) : Nat → Node σ (Ledger κ) → List Tick
  | 0, _ => []
  | fuel + 1, node =>
      match node.reporter with
      | some reporter =>
          if reporter.due ≤ target then
            node.tickOn world reporter ::
              ticksUntil world target fuel (node.reportOn world reporter)
          else []
      | none => []

def reporterEntries (node : Node σ (Ledger κ)) : List Cluster.Entry :=
  node.state.cluster.entries.filter fun entry => entry.caller = .reporter

inductive Turn (σ κ : Type) where
  | wait (milliseconds : Nat)
  | act (move : Move σ κ)

namespace Course

def wait (world : World σ κ) (milliseconds : Nat) (course : Course σ κ) : Course σ κ :=
  { course with
    node := course.node.advance world.provider world.client.withLedger world.reporterClock
      world.handshake milliseconds }

def take (world : World σ κ) (course : Course σ κ) : Turn σ κ → Course σ κ
  | .wait milliseconds => course.wait world milliseconds
  | .act move => course.step world move

def takeAll (world : World σ κ) (turns : List (Turn σ κ)) (course : Course σ κ) : Course σ κ :=
  turns.foldl (take world) course

/-- The reports that are made while time passes; the same as the reporter of `wait` makes. -/
def ticksIn (world : World σ κ) (course : Course σ κ) : Turn σ κ → List Tick
  | .wait milliseconds =>
      ticksUntil world (course.node.time + milliseconds) (milliseconds + 1) course.node
  | .act _ => []

def ticks (world : World σ κ) : Course σ κ → List (Turn σ κ) → List Tick
  | _, [] => []
  | course, turn :: turns => course.ticksIn world turn ++ ticks world (course.take world turn) turns

end Course
end Node
end VirtualNpu
