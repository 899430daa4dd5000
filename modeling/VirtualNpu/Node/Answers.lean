import VirtualNpu.Node.Course

/-!
What the kubelet gets to see of the service of a node: the answers to its calls, while the parts of
the node take turns.
-/

namespace VirtualNpu
namespace Node

inductive Answer where
  | opened (number : Nat)
  /-- what a reader finds at a watch, where there is one of its number -/
  | received (received : Option Kubelet.Watch.Received)
  | allocated (outcome : Except Allocation.Error Kubelet.Allocated)

variable {σ κ : Type}

namespace Course

/-- The answer that a move gives, if it gives one.  An allocation is answered with its last call. -/
def answer? (course : Course σ κ) : Move σ κ → Option Answer
  | .subscribe => some (.opened course.node.subscribe.1)
  | .read number => some (.received ((course.node.read number).map Prod.fst))
  | .allocate number =>
      match course.allocations[number]? with
      | some (.release outcome) => some (.allocated outcome)
      | _ => none
  | _ => none

def answers (world : World σ κ) : List (Move σ κ) → Course σ κ → List (Option Answer)
  | [], _ => []
  | move :: rest, course => course.answer? move :: answers world rest (course.step world move)

end Course
end Node
end VirtualNpu
