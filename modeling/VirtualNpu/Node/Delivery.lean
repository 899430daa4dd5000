import VirtualNpu.Node.Chronicle

/-!
What the readers of watches get: the lists that the moves of a run hand to the reader of a
watch, in the order in which it takes them.
-/

namespace VirtualNpu
namespace Node

open Kubelet (Device Watch)

variable {σ κ : Type}

def handed? (course : Course σ κ) (number : Nat) : Move σ κ → Option (List Device)
  | .read other =>
      if other = number then
        match course.node.read number with
        | some (.list devices, _) => some devices
        | _ => none
      else none
  | _ => none

def delivered (world : World σ κ) (number : Nat) :
    Course σ κ → List (Move σ κ) → List (List Device)
  | _, [] => []
  | course, move :: moves =>
      (handed? course number move).toList ++
        delivered world number (course.step world move) moves

/-- The list that a task has computed and not yet put into the queue. -/
def waiting : Kubelet.Task → List (List Device)
  | .sending list => [list]
  | _ => []

theorem delivered_append (world : World σ κ) (number : Nat) (earlier later : List (Move σ κ))
    (course : Course σ κ) :
    delivered world number course (earlier ++ later) =
      delivered world number course earlier ++
        delivered world number (course.run world earlier) later := by
  induction earlier generalizing course with
  | nil => rfl
  | cons move earlier ih =>
      simp only [List.cons_append, delivered, ih (course.step world move), List.append_assoc]
      rfl

theorem handed?_unopened (course : Course σ κ) (number : Nat) (move : Move σ κ)
    (unopened : course.node.watches[number]? = none) : handed? course number move = none := by
  cases move with
  | read other => simp only [handed?, Node.read, unopened, Option.map_none, ite_self]
  | _ => rfl

/-- A reader that does not read is handed nothing. -/
theorem delivered_unread (world : World σ κ) (number : Nat) (moves : List (Move σ κ))
    (course : Course σ κ) (unread : .read number ∉ moves) :
    delivered world number course moves = [] := by
  induction moves generalizing course with
  | nil => rfl
  | cons move moves ih =>
      have none : handed? course number move = none := by
        cases move with
        | read other =>
            have different : other ≠ number := by
              intro same
              subst same
              exact unread List.mem_cons_self
            exact if_neg different
        | _ => rfl
      rw [delivered, none, ih _ fun member => unread (List.mem_cons_of_mem _ member)]
      rfl

end Node
end VirtualNpu
