import VirtualNpu.Node

/-!
Watches that see the stop signal.  Once every task has run until it can do nothing more,
each of them has ended or waits in front of a reader that has not made room.
-/

namespace VirtualNpu
namespace Kubelet
namespace Watch

/-- A task that has ended, or that will once its reader makes room or goes away. -/
def IsOver (watch : Watch) : Prop :=
  watch.task = .ended ∨
    (∃ list, watch.task = .sending list) ∧ watch.readerPresent = true ∧
      queueCapacity ≤ watch.queue.length

variable {view : View}

private theorem runSteps_ended (fuel : Nat) (watch : Watch) (ended : watch.task = .ended) :
    (watch.runSteps view fuel).IsOver := by
  cases fuel with
  | zero => exact Or.inl ended
  | succ fuel =>
      have stuck : watch.step readyBranch? view = none := by
        unfold step
        rw [ended]
      rw [runSteps, stuck]
      exact Or.inl ended

private theorem runSteps_idle (stopped : view.stopped = true) (fuel : Nat) (watch : Watch)
    (idle : watch.task = .idle) : (watch.runSteps view (fuel + 1)).IsOver := by
  have ready : watch.readyBranch? view = some .stop := by
    simp [readyBranch?, isReady, stopped]
  have woken : watch.step readyBranch? view = some { watch with task := .ended } := by
    unfold step
    rw [idle]
    simp only [ready, Option.map_some, wake]
  rw [runSteps, woken]
  exact runSteps_ended fuel _ rfl

private theorem runSteps_sending (stopped : view.stopped = true) (fuel : Nat) (watch : Watch)
    (list : List Device) (sending : watch.task = .sending list) :
    (watch.runSteps view (fuel + 2)).IsOver := by
  obtain ⟨task, seen, queue, present⟩ := watch
  dsimp only at sending
  subst sending
  rw [runSteps]
  cases present with
  | false => exact runSteps_ended (fuel + 1) _ rfl
  | true =>
      by_cases room : queue.length < queueCapacity
      · simp only [step, Bool.not_true, Bool.false_eq_true, if_false, if_pos room]
        exact runSteps_idle stopped fuel _ rfl
      · simp only [step, Bool.not_true, Bool.false_eq_true, if_false, if_neg room]
        exact Or.inr ⟨⟨list, rfl⟩, rfl, Nat.le_of_not_lt room⟩

/-- Whatever a task stands at, the stop signal ends it or leaves it with its reader. -/
theorem settle_over (stopped : view.stopped = true) (watch : Watch) :
    (watch.settle view).IsOver := by
  unfold settle
  cases task : watch.task with
  | listing =>
      have listed : watch.step readyBranch? view =
          some { watch with task := .sending view.current } := by
        unfold step
        rw [task]
      rw [runSteps, listed]
      exact runSteps_sending stopped 3 _ view.current rfl
  | sending list => exact runSteps_sending stopped 4 watch list task
  | idle => exact runSteps_idle stopped 5 watch task
  | ended => exact runSteps_ended 6 watch task

end Watch
end Kubelet

namespace Node

variable {σ κ : Type}

theorem settle_over (node : Node σ κ) (stopped : node.stopped = true) :
    ∀ watch ∈ node.settle.watches, watch.IsOver := by
  intro watch member
  obtain ⟨before, _old, rfl⟩ := List.mem_map.mp member
  exact Kubelet.Watch.settle_over stopped before

end Node
end VirtualNpu
