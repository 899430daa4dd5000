import VirtualNpu.Node.Course

/-!
Tallies of a run: the readers that its moves leave, the turns that the task of a watch takes,
and the notifications that the task has answered.  They only look on.
-/

namespace VirtualNpu
namespace Node

open Kubelet (Watch)

variable {σ κ : Type}

/-! ### Readers -/

def readersAfter (readers : List Bool) : Move σ κ → List Bool
  | .subscribe => readers ++ [true]
  | .depart number => readers.set number false
  | _ => readers

def readersLeft (moves : List (Move σ κ)) : List Bool := moves.foldl readersAfter []

/-! ### Turns -/

/-- Whether the task of a watch has come to stand at something else. -/
def TookTurn (number : Nat) (before after : Course σ κ) : Prop :=
  (after.node.watches[number]?).map Watch.task ≠ (before.node.watches[number]?).map Watch.task

instance (number : Nat) (before after : Course σ κ) : Decidable (TookTurn number before after) :=
  inferInstanceAs (Decidable (_ ≠ _))

def turnsTaken (world : World σ κ) (number : Nat) : Course σ κ → List (Move σ κ) → Nat
  | _, [] => 0
  | course, move :: moves =>
      (if TookTurn number course (course.step world move) then 1 else 0) +
        turnsTaken world number (course.step world move) moves

/-! ### Answers -/

def answeredAfter (number : Nat) (before after : Course σ κ) (answered : Nat) : Nat :=
  match before.node.watches[number]?, after.node.watches[number]? with
  | some old, some new =>
      if old.task = .listing ∧ new.task ≠ .listing then old.seen else answered
  | _, _ => after.node.state.raised

/-- The notifications that a watch has answered: all raised before it is opened, and then those
that its task had seen when it computed its latest list. -/
def answeredCount (world : World σ κ) (number : Nat) :
    Nat → Course σ κ → List (Move σ κ) → Nat
  | count, _, [] => count
  | count, course, move :: moves =>
      answeredCount world number (answeredAfter number course (course.step world move) count)
        (course.step world move) moves

end Node
end VirtualNpu
