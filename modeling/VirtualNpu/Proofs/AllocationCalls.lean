import VirtualNpu.Inventory.Scripted
import VirtualNpu.Node.Course
import VirtualNpu.Proofs.ReportEffects

/-!
The calls that an allocation makes to the cluster.  They are the same on every path and
whatever fails on the way: the look-up, the record of the outcome if there is a pod, and
one release of the node lock at the end.  The run statement follows any number of
allocations through all moves of a node.
-/

namespace VirtualNpu
namespace Kubelet

open Cluster (Call Caller Client Entry Ledger PendingPod)

/-! ### What an allocation answers and calls -/

/-- The answer of an allocation by what its look-up has brought.  Neither the record of
the outcome nor the release has a part in it. -/
def answerOf (inventory : Inventory) (node : String) (containers : Containers) :
    Except Cluster.Error (Option PendingPod) → Except Allocation.Error Allocated
  | .error _ => .error (.lookup node)
  | .ok none => .error (.pendingPodNotFound node)
  | .ok (some pod) => bindPod inventory containers pod

/-- The phase that a pod gets: success exactly if the request is answered. -/
def phaseCalls (outcome : Except Allocation.Error Allocated) :
    Option PendingPod → List Call
  | none => []
  | some pod =>
      [.setBindPhase pod.namespaceName pod.name
        (if outcome.isOk then .success else .failed)]

def entriesToRelease (caller : Caller) (node : String) (found : Option PendingPod)
    (outcome : Except Allocation.Error Allocated) : List Entry :=
  ⟨caller, .pendingPod node, found⟩ ::
    (phaseCalls outcome found).map fun call => ⟨caller, call, none⟩

def allocationEntries (caller : Caller) (node : String) (found : Option PendingPod)
    (outcome : Except Allocation.Error Allocated) : List Entry :=
  entriesToRelease caller node found outcome ++ [⟨caller, .releaseNodeLock node, none⟩]

def Progress.HasMade (caller : Caller) (node : String) : Progress → List Entry → Prop
  | .lookup _, entries => entries = []
  | .record pod _, entries => entries = [⟨caller, .pendingPod node, some pod⟩]
  | .release outcome, entries =>
      ∃ found, entries = entriesToRelease caller node found outcome
  | .done outcome, entries =>
      ∃ found, entries = allocationEntries caller node found outcome

def Progress.isDone : Progress → Bool
  | .done _ => true
  | _ => false

def isRelease (entry : Entry) : Bool :=
  match entry.call with
  | .releaseNodeLock _ => true
  | _ => false

variable {σ κ : Type}

private theorem phaseOf_eq (outcome : Except Allocation.Error Allocated) :
    phaseOf outcome = if outcome.isOk then .success else .failed := by
  cases outcome with
  | ok allocated => rfl
  | error reason => rfl

private theorem entriesToRelease_found (caller : Caller) (node : String)
    (pod : PendingPod) (outcome : Except Allocation.Error Allocated) :
    entriesToRelease caller node (some pod) outcome =
      [⟨caller, .pendingPod node, some pod⟩,
        ⟨caller, .setBindPhase pod.namespaceName pod.name (phaseOf outcome), none⟩] := by
  rw [phaseOf_eq]
  rfl

theorem allocate_answer (client : Client κ) (inventory : Inventory) (node : String)
    (containers : Containers) (state : κ) :
    (allocate client inventory node containers state).1 =
      answerOf inventory node containers (client.pendingPod node state).1 := by
  unfold allocate allocatePending
  cases looked : client.pendingPod node state with
  | mk answer after =>
      cases answer with
      | error reason => rfl
      | ok pod =>
          cases pod with
          | none => rfl
          | some pod => rfl

/-- A ledger changes nothing for an allocation, and gets just the entries of it. -/
theorem allocate_withLedger (client : Client κ) (inventory : Inventory) (node : String)
    (containers : Containers) (ledger : Ledger κ) :
    allocate client.withLedger inventory node containers ledger =
      let plain := allocate client inventory node containers ledger.cluster
      let found := Cluster.foundPod? (client.pendingPod node ledger.cluster).1
      (plain.1,
        { ledger with
          cluster := plain.2
          entries := ledger.entries ++
            allocationEntries ledger.caller node found plain.1 }) := by
  unfold allocate allocatePending
  simp only [Client.withLedger, Ledger.enter]
  cases looked : client.pendingPod node ledger.cluster with
  | mk answer after =>
      cases answer with
      | error reason =>
          simp [Cluster.foundPod?, allocationEntries, entriesToRelease, phaseCalls]
      | ok pod =>
          cases pod with
          | none =>
              simp [Cluster.foundPod?, allocationEntries, entriesToRelease, phaseCalls]
          | some pod =>
              simp only [Cluster.foundPod?, allocationEntries, entriesToRelease_found]
              simp

private theorem advance_entries (client : Client κ) (inventory : Inventory)
    (node : String) (progress : Progress) (ledger : Ledger κ) (own : List Entry)
    (made : progress.HasMade ledger.caller node own) :
    ∃ new,
      (progress.advance client.withLedger inventory node ledger).2.entries =
        ledger.entries ++ new ∧
      (∀ entry ∈ new, entry.caller = ledger.caller) ∧
      (progress.advance client.withLedger inventory node ledger).1.HasMade
        ledger.caller node (own ++ new) ∧
      progress.isDone.toNat + new.countP isRelease =
        (progress.advance client.withLedger inventory node ledger).1.isDone.toNat := by
  cases progress with
  | lookup containers =>
      change own = [] at made
      subst own
      simp only [Progress.advance, Client.withLedger, Ledger.enter]
      cases looked : client.pendingPod node ledger.cluster with
      | mk answer after =>
          refine ⟨[⟨ledger.caller, .pendingPod node, Cluster.foundPod? answer⟩], ?_⟩
          cases answer with
          | error reason =>
              exact ⟨rfl, by simp, ⟨none, rfl⟩, rfl⟩
          | ok pod =>
              cases pod with
              | none => exact ⟨rfl, by simp, ⟨none, rfl⟩, rfl⟩
              | some pod => exact ⟨rfl, by simp, rfl, rfl⟩
  | record pod outcome =>
      change own = _ at made
      subst own
      refine ⟨[⟨ledger.caller,
        .setBindPhase pod.namespaceName pod.name (phaseOf outcome), none⟩], rfl, by simp, ?_, rfl⟩
      exact ⟨some pod, (entriesToRelease_found ledger.caller node pod outcome).symm⟩
  | release outcome =>
      obtain ⟨found, same⟩ := made
      subst own
      exact ⟨[⟨ledger.caller, .releaseNodeLock node, none⟩], rfl, by simp, ⟨found, rfl⟩, rfl⟩
  | done outcome =>
      refine ⟨[], (List.append_nil _).symm, by simp, ?_, rfl⟩
      rw [List.append_nil]
      exact made

end Kubelet

/-! ### All moves of a node -/

namespace Node

open Cluster (Client Entry Ledger)
open Kubelet (Progress isRelease)

variable {σ κ : Type}

/-- Two courses between which no allocation has moved: the reporter may have called
the cluster, but it releases no lock. -/
structure Aside (before after : Course σ κ) : Prop where
  name : after.node.name = before.node.name
  allocations : after.allocations = before.allocations
  entries : ∃ extra, after.ledger.entries = before.ledger.entries ++ extra ∧
    ∀ entry ∈ extra, entry.caller = .reporter ∧ isRelease entry = false

private theorem aside_of_entries {before after : Course σ κ}
    (name : after.node.name = before.node.name)
    (allocations : after.allocations = before.allocations)
    (entries : after.ledger.entries = before.ledger.entries) : Aside before after :=
  ⟨name, allocations, [], by rw [entries, List.append_nil], by simp⟩

private theorem reportMove_aside (world : World σ κ) (course : Course σ κ) :
    Aside course (course.step world .tick) := by
  cases running : course.node.reporter with
  | none =>
      have same : course.step world .tick = course := by
        simp only [Course.step, reportMove, running]
      rw [same]
      exact aside_of_entries rfl rfl rfl
  | some reporter =>
      have effect := Registration.report_effect world.provider world.client.withLedger
        course.node.name (world.handshake reporter.due reporter.offset)
        { course.node.state with
          cluster := (course.ledger.inHandsOf .reporter).mapCluster (world.clock reporter.due) }
      have ledgerEq : (course.step world .tick).ledger =
          (Registration.report world.provider world.client.withLedger course.node.name
            (world.handshake reporter.due reporter.offset)
            { course.node.state with
              cluster := (course.ledger.inHandsOf .reporter).mapCluster
                (world.clock reporter.due) }).2.cluster := by
        simp only [Course.ledger, Course.step, reportMove, running]
        rfl
      refine ⟨?_, ?_, ?_⟩
      · simp only [Course.step, reportMove, running]
        rfl
      · rfl
      · rw [ledgerEq]
        rcases effect.2 with same | ⟨annotations, published⟩
        · rw [same]
          exact ⟨[], (List.append_nil _).symm, by simp⟩
        · rw [published]
          exact ⟨_, rfl, by simp [Ledger.mapCluster, Ledger.inHandsOf, isRelease]⟩

def Move.isOfAllocation : Move σ κ → Bool
  | .request _ => true
  | .allocate _ => true
  | _ => false

private theorem step_aside (world : World σ κ) (course : Course σ κ) (move : Move σ κ)
    (other : move.isOfAllocation = false) : Aside course (course.step world move) := by
  cases move with
  | refresh =>
      simp only [Course.step, Node.refresh]
      split <;> exact aside_of_entries rfl rfl rfl
  | read number =>
      simp only [Course.step, Node.read]
      cases course.node.watches[number]? <;> exact aside_of_entries rfl rfl rfl
  | depart number =>
      simp only [Course.step, Node.depart]
      cases course.node.watches[number]? <;> exact aside_of_entries rfl rfl rfl
  | tick => exact reportMove_aside world course
  | publish annotations =>
      refine ⟨rfl, rfl, [⟨.reporter, .patchNodeAnnotations course.node.name annotations, none⟩],
        rfl, by simp [isRelease]⟩
  | request containers => cases other
  | allocate number => cases other
  | _ => exact aside_of_entries rfl rfl rfl

/-- The books of a course: every allocation has made the calls that belong to where it
stands, and the lock was released once for each that is answered. -/
structure Accounted (name : String) (course : Course σ κ) : Prop where
  named : course.node.name = name
  made : ∀ (number : Nat) (progress : Progress), course.allocations[number]? = some progress →
    progress.HasMade (.allocation number) name (course.callsOf number)
  silent : ∀ number, course.allocations.length ≤ number → course.callsOf number = []
  released : course.ledger.entries.countP isRelease =
    course.allocations.countP Progress.isDone

private theorem callsOf_append {before after : Course σ κ} {extra : List Entry}
    (entries : after.ledger.entries = before.ledger.entries ++ extra) (number : Nat) :
    after.callsOf number = before.callsOf number ++
      extra.filter fun entry => entry.caller = .allocation number := by
  simp only [Course.callsOf, entries, List.filter_append]

private theorem accounted_aside {name : String} {before after : Course σ κ}
    (accounted : Accounted name before) (aside : Aside before after) :
    Accounted name after := by
  obtain ⟨extra, entries, reporter⟩ := aside.entries
  have calls : ∀ number, after.callsOf number = before.callsOf number := by
    intro number
    have none : extra.filter (fun entry => entry.caller = .allocation number) = [] := by
      apply List.filter_eq_nil_iff.mpr
      intro entry member
      simp [(reporter entry member).1]
    rw [callsOf_append entries, none, List.append_nil]
  refine ⟨aside.name.trans accounted.named, ?_, ?_, ?_⟩
  · intro number progress found
    rw [aside.allocations] at found
    rw [calls]
    exact accounted.made number progress found
  · intro number beyond
    rw [aside.allocations] at beyond
    rw [calls]
    exact accounted.silent number beyond
  · have noRelease : extra.countP isRelease = 0 := by
      apply List.countP_eq_zero.mpr
      intro entry member
      simp [(reporter entry member).2]
    rw [entries, List.countP_append, noRelease, Nat.add_zero, aside.allocations]
    exact accounted.released

private theorem accounted_request {name : String} (world : World σ κ) (course : Course σ κ)
    (containers : Kubelet.Containers) (accounted : Accounted name course) :
    Accounted name (course.step world (.request containers)) := by
  refine ⟨accounted.named, ?_, ?_, ?_⟩
  · intro number progress found
    change (course.allocations ++ [Progress.lookup containers])[number]? = some progress at found
    rcases Nat.lt_trichotomy number course.allocations.length with inside | same | beyond
    · rw [List.getElem?_append_left inside] at found
      exact accounted.made number progress found
    · subst same
      rw [List.getElem?_concat_length] at found
      cases found
      exact accounted.silent _ (Nat.le_refl _)
    · rw [List.getElem?_eq_none (by simp; omega)] at found
      cases found
  · intro number beyond
    change (course.allocations ++ [Progress.lookup containers]).length ≤ number at beyond
    rw [List.length_append] at beyond
    exact accounted.silent number (by omega)
  · change course.ledger.entries.countP isRelease =
      (course.allocations ++ [Progress.lookup containers]).countP Progress.isDone
    rw [List.countP_append, accounted.released]
    rfl

private theorem countP_set {α : Type} (p : α → Bool) (items : List α) (number : Nat)
    (before after : α) (found : items[number]? = some before) :
    (items.set number after).countP p + (p before).toNat =
      items.countP p + (p after).toNat := by
  induction items generalizing number with
  | nil => cases found
  | cons head tail ih =>
      cases number with
      | zero =>
          cases found
          simp only [List.set_cons_zero, List.countP_cons]
          cases p before <;> cases p after <;> simp
      | succ number =>
          have rest := ih number found
          simp only [List.set_cons_succ, List.countP_cons]
          omega

private theorem accounted_entered {name : String} {course : Course σ κ} {number : Nat}
    {before after : Progress} {ledger : Ledger κ} {new : List Entry}
    (accounted : Accounted name course) (found : course.allocations[number]? = some before)
    (entries : ledger.entries = course.ledger.entries ++ new)
    (own : ∀ entry ∈ new, entry.caller = .allocation number)
    (made : after.HasMade (.allocation number) name (course.callsOf number ++ new))
    (released : before.isDone.toNat + new.countP isRelease = after.isDone.toNat) :
    Accounted name
      ⟨course.node.setCluster fun _ => ledger, course.allocations.set number after⟩ := by
  have inside : number < course.allocations.length :=
    (List.getElem?_eq_some_iff.mp found).1
  -- The new entries are all of one caller, so that no other allocation gains any.
  have calls : ∀ other,
      Course.callsOf ⟨course.node.setCluster fun _ => ledger,
        course.allocations.set number after⟩ other =
      course.callsOf other ++ if other = number then new else [] := by
    intro other
    refine (@callsOf_append σ κ course ⟨course.node.setCluster fun _ => ledger,
      course.allocations.set number after⟩ new entries other).trans ?_
    congr 1
    by_cases same : other = number
    · rw [if_pos same, List.filter_eq_self]
      intro entry member
      simp [own entry member, same]
    · rw [if_neg same, List.filter_eq_nil_iff]
      intro entry member
      simp [own entry member, Ne.symm same]
  refine ⟨accounted.named, ?_, ?_, ?_⟩
  · intro other progress found'
    dsimp only at found'
    rw [calls]
    by_cases same : other = number
    · subst other
      rw [List.getElem?_set_self inside] at found'
      cases found'
      rw [if_pos rfl]
      exact made
    · rw [List.getElem?_set_ne (Ne.symm same)] at found'
      rw [if_neg same, List.append_nil]
      exact accounted.made other progress found'
  · intro other beyond
    dsimp only at beyond
    rw [List.length_set] at beyond
    rw [calls, if_neg (by omega), List.append_nil]
    exact accounted.silent other beyond
  · have counted := countP_set Progress.isDone course.allocations number before after found
    have kept := accounted.released
    change ledger.entries.countP isRelease = _
    rw [entries, List.countP_append]
    dsimp only
    omega

private theorem accounted_advance {name : String} (world : World σ κ) (number : Nat)
    (course : Course σ κ) (accounted : Accounted name course) :
    Accounted name (course.advance world number) := by
  unfold Course.advance
  split
  · exact accounted
  · rename_i progress found
    have named := accounted.named
    subst named
    obtain ⟨new, entries, own, made, released⟩ :=
      Kubelet.advance_entries world.client course.node.state.inventory course.node.name
        progress (course.ledger.inHandsOf (.allocation number)) (course.callsOf number)
        (accounted.made number progress found)
    exact accounted_entered accounted found entries own made released

private theorem accounted_step {name : String} (world : World σ κ) (course : Course σ κ)
    (move : Move σ κ) (accounted : Accounted name course) :
    Accounted name (course.step world move) := by
  cases move with
  | request containers => exact accounted_request world course containers accounted
  | allocate number => exact accounted_advance world number course accounted
  | _ => exact accounted_aside accounted (step_aside world course _ rfl)

theorem accounted_run {name : String} (world : World σ κ) (moves : List (Move σ κ))
    (course : Course σ κ) (accounted : Accounted name course) :
    Accounted name (course.run world moves) := by
  induction moves generalizing course with
  | nil => exact accounted
  | cons move rest ih =>
      exact ih (course.step world move) (accounted_step world course move accounted)

theorem accounted_start (name : String) (inventory : Inventory) (raised : Nat)
    (provider : σ) (cluster : κ) :
    Accounted name (Course.start name inventory raised provider cluster) := by
  refine ⟨rfl, ?_, ?_, rfl⟩
  · intro number progress found
    cases found
  · intro number _beyond
    rfl

private theorem advance_keeps (world : World σ κ) (number : Nat) (course : Course σ κ) :
    (course.advance world number).node.state.inventory = course.node.state.inventory ∧
      (course.advance world number).node.state.raised = course.node.state.raised := by
  unfold Course.advance
  split <;> exact ⟨rfl, rfl⟩

/-- An allocation looks up the pending pod of its node, records the outcome with the pod
if there is one, and at last releases the node lock; only the look-up has a part in its
answer, and the inventory and the health counter stay as they are.  However allocations
take turns with each other and with all else on the node, the lock has been released once
for each that is answered. -/
theorem allocation_releases_lock_once (world : World σ κ) (name : String) :
    (∀ (inventory : Inventory) (containers : Kubelet.Containers) (ledger : Ledger κ),
      let looked := (world.client.pendingPod name ledger.cluster).1
      let plain := Kubelet.allocate world.client inventory name containers ledger.cluster
      let kept := Kubelet.allocate world.client.withLedger inventory name containers ledger
      plain.1 = Kubelet.answerOf inventory name containers looked ∧
      kept.1 = plain.1 ∧ kept.2.cluster = plain.2 ∧
      kept.2.entries = ledger.entries ++
        Kubelet.allocationEntries ledger.caller name (Cluster.foundPod? looked) plain.1) ∧
    (∀ (containers : Kubelet.Containers) (node : Node σ κ),
      (node.allocate world.client containers).2.state.inventory = node.state.inventory ∧
      (node.allocate world.client containers).2.state.raised = node.state.raised) ∧
    (∀ (number : Nat) (course : Course σ κ),
      (course.step world (.allocate number)).node.state.inventory =
        course.node.state.inventory ∧
      (course.step world (.allocate number)).node.state.raised = course.node.state.raised) ∧
    (∀ (inventory : Inventory) (raised : Nat) (provider : σ) (cluster : κ)
      (moves : List (Move σ κ)),
      let course := (Course.start name inventory raised provider cluster).run world moves
      course.ledger.entries.countP isRelease = course.allocations.countP Progress.isDone ∧
      ∀ (number : Nat) (progress : Progress),
        course.allocations[number]? = some progress →
        progress.HasMade (.allocation number) name (course.callsOf number)) := by
  refine ⟨?_, ?_, ?_, ?_⟩
  · intro inventory containers ledger
    dsimp only
    rw [Kubelet.allocate_withLedger]
    exact ⟨Kubelet.allocate_answer world.client inventory name containers ledger.cluster,
      rfl, rfl, rfl⟩
  · intro containers node
    exact ⟨rfl, rfl⟩
  · intro number course
    exact advance_keeps world number course
  · intro inventory raised provider cluster moves
    have accounted := accounted_run world moves _
      (accounted_start name inventory raised provider cluster)
    exact ⟨accounted.released, accounted.made⟩

/-- A cluster with one allocating pod, which carries no grants, that refuses records and
releases. -/
private def refusingStage : Cluster.Stage :=
  ⟨[⟨some "default", some "pod",
    [("vnpu.io/assigned-node", "node"), ("vnpu.io/bind-phase", "allocating")]⟩],
    [.phase, .release], 0, []⟩

private def refusingWorld : World Inventory.Script Cluster.Stage :=
  ⟨Inventory.scripted, Cluster.staged, fun _ stage => stage, fun _ _ => none⟩

private def turns : Course Inventory.Script Cluster.Stage :=
  (Course.start "node"
    (.empty ⟨"910B3", "Ascend910B3", "npu", 65536, 65536, 20, none, []⟩) 0
    (.quiet "910B3") refusingStage).run refusingWorld
      [.request [["a-0"]], .request [], .allocate 1, .allocate 0, .notify, .allocate 1,
        .allocate 1, .allocate 0]

private theorem turns_allocations :
    turns.allocations =
      [.release (.error (.unannotated "vnpu.io/Ascend910B3-devices-allocated")),
        .done (.error (.unannotated "vnpu.io/Ascend910B3-devices-allocated"))] := by
  rfl

theorem allocations_in_turns :
    let answer : Progress :=
      .done (.error (.unannotated "vnpu.io/Ascend910B3-devices-allocated"))
    turns.allocations[1]? = some answer ∧
      turns.ledger.entries.countP isRelease = 1 ∧
      answer.HasMade (.allocation 1) "node" (turns.callsOf 1) := by
  intro answer
  have claim := (allocation_releases_lock_once refusingWorld "node").2.2.2
    (.empty ⟨"910B3", "Ascend910B3", "npu", 65536, 65536, 20, none, []⟩) 0
    (.quiet "910B3") refusingStage
    [.request [["a-0"]], .request [], .allocate 1, .allocate 0, .notify, .allocate 1,
      .allocate 1, .allocate 0]
  have answered : turns.allocations[1]? = some answer := by
    rw [turns_allocations]
    rfl
  refine ⟨answered, claim.1.trans ?_, claim.2 1 answer answered⟩
  change turns.allocations.countP Progress.isDone = 1
  rw [turns_allocations]
  rfl

end Node
end VirtualNpu
