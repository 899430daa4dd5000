import VirtualNpu.Node.Course

/-!
The chronicle of a course: every snapshot that was current, when health notifications
were raised, and what the task of each watch has computed and sent.  It only looks on;
the course goes on as it does without one.
-/

namespace VirtualNpu
namespace Node

open Kubelet (Device Watch)

structure Listing where
  moment : Nat
  devices : List Device
  deriving DecidableEq

/-- What has come of a watch: the notifications raised before it was opened, the lists
that its task has computed, and those that it has put into the queue. -/
structure Trail where
  raisedBefore : Nat
  computed : List Listing
  sent : List (List Device)
  deriving DecidableEq

namespace Trail

def start (raised : Nat) : Trail := ⟨raised, [], []⟩

def follow (moment : Nat) (before after : Watch) (trail : Trail) : Trail :=
  match before.task, after.task with
  | .listing, .sending list =>
      { trail with computed := trail.computed ++ [⟨moment, list⟩] }
  | .sending list, .idle => { trail with sent := trail.sent ++ [list] }
  | _, _ => trail

end Trail

/-- A course with the snapshots that were current before each move so far, the moment
of the latest health notification, and the trails of the watches.  Moments count the
moves made. -/
structure Chronicle (σ κ : Type) where
  course : Course σ κ
  earlier : List Inventory.Snapshot
  notified : Nat
  trails : List Trail

variable {σ κ : Type}

namespace Chronicle

def start (name : String) (inventory : Inventory) (raised : Nat) (provider : σ)
    (cluster : κ) : Chronicle σ κ :=
  ⟨.start name inventory raised provider cluster, [], 0, []⟩

def inventory (chronicle : Chronicle σ κ) : Inventory := chronicle.course.node.state.inventory

def raised (chronicle : Chronicle σ κ) : Nat := chronicle.course.node.state.raised

def watches (chronicle : Chronicle σ κ) : List Watch := chronicle.course.node.watches

def view (chronicle : Chronicle σ κ) : Kubelet.View := chronicle.course.node.view

def moment (chronicle : Chronicle σ κ) : Nat := chronicle.earlier.length

def snapshotAt (chronicle : Chronicle σ κ) (moment : Nat) : Option Inventory.Snapshot :=
  (chronicle.earlier ++ [chronicle.inventory.snapshot])[moment]?

def followWatches (chronicle : Chronicle σ κ) (after : Course σ κ) :
    Move σ κ → List Trail
  | .subscribe => chronicle.trails ++ [.start chronicle.raised]
  | .runTask number _ =>
      match chronicle.watches[number]?, after.node.watches[number]? with
      | some old, some new =>
          chronicle.trails.modify number (Trail.follow chronicle.moment old new)
      | _, _ => chronicle.trails
  | _ => chronicle.trails

def step (world : World σ κ) (chronicle : Chronicle σ κ) (move : Move σ κ) :
    Chronicle σ κ :=
  let after := chronicle.course.step world move
  { course := after
    earlier := chronicle.earlier ++ [chronicle.inventory.snapshot]
    notified :=
      if after.node.state.raised = chronicle.raised then chronicle.notified
      else chronicle.moment + 1
    trails := chronicle.followWatches after move }

def run (world : World σ κ) (moves : List (Move σ κ)) (chronicle : Chronicle σ κ) :
    Chronicle σ κ :=
  moves.foldl (step world) chronicle

theorem run_append (world : World σ κ) (earlier later : List (Move σ κ))
    (chronicle : Chronicle σ κ) :
    chronicle.run world (earlier ++ later) = (chronicle.run world earlier).run world later :=
  List.foldl_append

theorem run_course (world : World σ κ) (moves : List (Move σ κ))
    (chronicle : Chronicle σ κ) :
    (chronicle.run world moves).course = chronicle.course.run world moves := by
  induction moves generalizing chronicle with
  | nil => rfl
  | cons move rest ih => exact ih (chronicle.step world move)

end Chronicle
end Node
end VirtualNpu
