import VirtualNpu.Node.Tally
import VirtualNpu.Proofs.StoppedWatches
import VirtualNpu.Proofs.WatchNotifications

/-!
The turns of a watch task.  Whichever ready branches it takes, a task comes to where it cannot
go on: without a reader in three turns at most, and otherwise in six and three more for each
notification that is still to be raised.
-/

namespace VirtualNpu
namespace Node

open Kubelet (Device View Watch)

variable {σ κ : Type}

/-! ### Tasks that cannot go on -/

def IsBlocked (view : View) (watch : Watch) : Prop :=
  ∀ branch, watch.step (Watch.onlyBranch? branch) view = none

theorem ended_of_blocked_absent {view : View} {watch : Watch} (blocked : IsBlocked view watch)
    (absent : watch.readerPresent = false) : watch.task = .ended := by
  have departing := blocked .departure
  cases task : watch.task with
  | listing => simp [Watch.step, task] at departing
  | sending list => simp [Watch.step, task, absent] at departing
  | idle => simp [Watch.step, Watch.onlyBranch?, Watch.isReady, task, absent] at departing
  | ended => rfl

theorem isOver_of_blocked {view : View} {watch : Watch} (blocked : IsBlocked view watch)
    (stopped : view.stopped = true) : watch.IsOver := by
  have stopping := blocked .stop
  cases task : watch.task with
  | listing => simp [Watch.step, task] at stopping
  | sending list =>
      right
      cases present : watch.readerPresent with
      | false => simp [Watch.step, task, present] at stopping
      | true =>
          refine ⟨⟨list, task⟩, rfl, ?_⟩
          simpa [Watch.step, task, present] using stopping
  | idle => simp [Watch.step, Watch.onlyBranch?, Watch.isReady, task, stopped] at stopping
  | ended => exact Or.inl task

/-! ### Ranks -/

def turnsToEnd : Kubelet.Task → Nat
  | .idle => 3
  | .listing => 2
  | .sending _ => 1
  | .ended => 0

/-- The turns that a task can take at most if no further notification is raised. -/
def turnsLeft (raised : Nat) (watch : Watch) : Nat :=
  (match watch.task with
    | .listing => 3
    | .sending _ => 2
    | .idle => 1
    | .ended => 0) + if watch.seen = raised then 0 else 3

theorem turnsLeft_le (raised : Nat) (watch : Watch) : turnsLeft raised watch ≤ 6 := by
  unfold turnsLeft
  cases watch.task <;> dsimp only <;> split <;> omega

/-- A rank that each turn of a task lowers, and that grows by `cost` at most with a notification. -/
structure Ranks (keeps : Watch → Prop) (rank : Nat → Watch → Nat) (cost : Nat) : Prop where
  task : ∀ {view : View} {moment : Nat} {watch watch' : Watch} {trail trail' : Trail},
    TaskStep view moment watch trail watch' trail' → keeps watch →
    keeps watch' ∧ (watch'.task ≠ watch.task → rank view.raised watch' < rank view.raised watch) ∧
      rank view.raised watch' ≤ rank view.raised watch
  reader : ∀ {raised raised' : Nat} {watch watch' : Watch}, raised ≤ raised' →
    ReaderStep watch watch' → keeps watch →
    keeps watch' ∧ rank raised' watch' ≤ rank raised watch + cost * (raised' - raised)

theorem ranks_turnsToEnd :
    Ranks (fun watch => watch.readerPresent = false) (fun _ watch => turnsToEnd watch.task) 0 := by
  constructor
  · intro view moment watch watch' trail trail' step absent
    cases step with
    | blocked => exact ⟨absent, fun moved => absurd rfl moved, Nat.le_refl _⟩
    | listed task => simp [task, absent, turnsToEnd]
    | sent list task present room =>
        rw [absent] at present
        cases present
    | abandoned list task gone => simp [task, absent, turnsToEnd]
    | woken task unseen => simp [task, absent, turnsToEnd]
    | quit task cause => simp [task, absent, turnsToEnd]
  · intro raised raised' watch watch' later step absent
    cases step with
    | nothing => exact ⟨absent, Nat.le_add_right _ _⟩
    | took list rest queue => exact ⟨absent, Nat.le_add_right _ _⟩
    | left => exact ⟨rfl, Nat.le_add_right _ _⟩

theorem ranks_turnsLeft : Ranks (fun _ => True) turnsLeft 3 := by
  constructor
  · intro view moment watch watch' trail trail' step _
    refine ⟨trivial, ?_⟩
    unfold turnsLeft
    cases step with
    | blocked => exact ⟨fun moved => absurd rfl moved, Nat.le_refl _⟩
    | listed task | sent list task present room | abandoned list task gone | quit task cause =>
        simp [task]
    | woken task unseen => simp [task, unseen]
  · intro raised raised' watch watch' later step _
    obtain ⟨task, seen⟩ := readerStep_keeps step
    refine ⟨trivial, ?_⟩
    have unseen : (if watch.seen = raised' then 0 else 3) ≤
        (if watch.seen = raised then 0 else 3) + 3 * (raised' - raised) := by
      by_cases same : raised' = raised
      · rw [same]
        exact Nat.le_add_right _ _
      · split <;> omega
    unfold turnsLeft
    rw [task, seen, Nat.add_assoc]
    exact Nat.add_le_add_left unseen _

/-! ### Turns of a run -/

theorem tookTurn_iff {number : Nat} {before after : Course σ κ} {watch watch' : Watch}
    (found : before.node.watches[number]? = some watch)
    (found' : after.node.watches[number]? = some watch') :
    TookTurn number before after ↔ watch'.task ≠ watch.task := by
  simp [TookTurn, found, found']

/-- The turns that a task takes in a run are paid for by its rank and by the notifications. -/
theorem turnsTaken_run (world : World σ κ) {keeps : Watch → Prop} {rank : Nat → Watch → Nat}
    {cost : Nat} (ranks : Ranks keeps rank cost) (moves : List (Move σ κ))
    (chronicle : Chronicle σ κ) (number : Nat) (watch : Watch) (trail : Trail)
    (found : chronicle.watches[number]? = some watch)
    (kept : chronicle.trails[number]? = some trail) (holds : keeps watch) :
    ∃ last lastTrail, (chronicle.run world moves).watches[number]? = some last ∧
      (chronicle.run world moves).trails[number]? = some lastTrail ∧ keeps last ∧
      turnsTaken world number chronicle.course moves +
          rank (chronicle.run world moves).raised last ≤
        rank chronicle.raised watch +
          cost * ((chronicle.run world moves).raised - chronicle.raised) := by
  induction moves generalizing chronicle watch trail with
  | nil =>
      refine ⟨watch, trail, found, kept, holds, ?_⟩
      rw [turnsTaken, Nat.zero_add]
      exact Nat.le_add_right _ _
  | cons move moves ih =>
      obtain ⟨next, nextTrail, nextFound, nextKept, step⟩ :=
        step_watch world chronicle move number watch trail found kept
      have more := (step_state world chronicle move).2
      have turned : TookTurn number chronicle.course (chronicle.course.step world move) ↔
          next.task ≠ watch.task := tookTurn_iff found nextFound
      have once : keeps next ∧
          (if TookTurn number chronicle.course (chronicle.course.step world move) then 1 else 0) +
              rank (chronicle.step world move).raised next ≤
            rank chronicle.raised watch +
              cost * ((chronicle.step world move).raised - chronicle.raised) := by
        rcases step with ⟨⟨branch, rfl⟩, step⟩ | ⟨_, step, _⟩
        · obtain ⟨still, lower, notHigher⟩ := ranks.task step holds
          refine ⟨still, Nat.le_trans ?_ (Nat.le_add_right _ _)⟩
          change _ + rank chronicle.raised next ≤ rank chronicle.raised watch
          change _ → rank chronicle.raised next < rank chronicle.raised watch at lower
          change rank chronicle.raised next ≤ rank chronicle.raised watch at notHigher
          split
          · rename_i took
            have less := lower (turned.mp took)
            omega
          · omega
        · obtain ⟨still, bounded⟩ := ranks.reader more step holds
          refine ⟨still, ?_⟩
          rw [if_neg fun took => turned.mp took (readerStep_keeps step).1, Nat.zero_add]
          exact bounded
      obtain ⟨last, lastTrail, lastFound, lastKept, lastHolds, rest⟩ :=
        ih (chronicle.step world move) next nextTrail nextFound nextKept once.1
      refine ⟨last, lastTrail, lastFound, lastKept, lastHolds, ?_⟩
      have later := run_raised_le world moves (chronicle.step world move)
      change chronicle.raised ≤ (chronicle.step world move).raised at more
      change _ ≤ rank chronicle.raised watch +
        cost * (((chronicle.step world move).run world moves).raised - chronicle.raised)
      have split : ((chronicle.step world move).run world moves).raised - chronicle.raised =
          ((chronicle.step world move).raised - chronicle.raised) +
            (((chronicle.step world move).run world moves).raised -
              (chronicle.step world move).raised) := by omega
      rw [split, Nat.mul_add, turnsTaken]
      change (if _ then 1 else 0) +
        turnsTaken world number (chronicle.step world move).course moves +
        rank ((chronicle.step world move).run world moves).raised last ≤ _
      omega

end Node
end VirtualNpu
