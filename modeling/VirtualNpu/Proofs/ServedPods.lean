import Mathlib.Data.List.Sort
import VirtualNpu.Cluster.Keeping
import VirtualNpu.Proofs.AllocationCalls
import VirtualNpu.Proofs.AnnotationKeys

/-!
Allocations one after another on a cluster that keeps the phases of its pods.  They serve the
candidates of the node in the order of their bind times, each of them once whatever comes of it,
and from then on there is no pod to serve.
-/

namespace VirtualNpu

namespace Cluster

/-! ### The order in which candidates wait -/

/-- Whether a pod comes before another: pods of one bind time come in any order. -/
def Pod.Precedes (pod other : Pod) : Prop := pod.effectiveBindTime ≤ other.effectiveBindTime

instance : DecidableRel Pod.Precedes := fun pod other =>
  inferInstanceAs (Decidable (pod.effectiveBindTime ≤ other.effectiveBindTime))

instance : Std.Total Pod.Precedes := ⟨fun _ _ => Nat.le_total _ _⟩

instance : IsTrans Pod Pod.Precedes := ⟨fun _ _ _ => Nat.le_trans⟩

/-- The candidates of a node by their bind times, those of one time as they are listed. -/
def waiting (node : String) (pods : List Pod) : List Pod :=
  (pods.filter (Pod.isCandidate node)).insertionSort Pod.Precedes

theorem earliest_eq_head? (pods : List Pod) :
    earliest pods = (pods.insertionSort Pod.Precedes).head? := by
  induction pods with
  | nil => rfl
  | cons pod pods ih =>
      rw [earliest, ih, List.insertionSort_cons]
      cases pods.insertionSort Pod.Precedes with
      | nil => rfl
      | cons other others =>
          rw [List.orderedInsert_cons]
          by_cases before : pod.Precedes other
          · rw [if_pos before]
            exact if_pos before
          · rw [if_neg before]
            exact if_neg before

theorem selectPending_eq (node : String) (pods : List Pod) :
    selectPending pods node = (waiting node pods).head?.map Pod.pending := by
  rw [selectPending, earliest_eq_head?, waiting]

theorem filter_orderedInsert (keep : Pod → Bool) (pod : Pod) (pods : List Pod)
    (ordered : pods.Pairwise Pod.Precedes) :
    (pods.orderedInsert Pod.Precedes pod).filter keep =
      if keep pod then (pods.filter keep).orderedInsert Pod.Precedes pod
      else pods.filter keep := by
  induction pods with
  | nil => cases kept : keep pod <;> simp [kept]
  | cons other others ih =>
      obtain ⟨least, rest⟩ := List.pairwise_cons.mp ordered
      rw [List.orderedInsert_cons]
      by_cases before : pod.Precedes other
      · -- everything that is kept of the list comes behind the pod as well
        have first : ((other :: others).filter keep).orderedInsert Pod.Precedes pod =
            pod :: (other :: others).filter keep := by
          cases kept : (other :: others).filter keep with
          | nil => rfl
          | cons head tail =>
              have inside : head ∈ other :: others := by
                apply List.mem_of_mem_filter (p := keep)
                rw [kept]
                exact List.mem_cons_self
              have behind : pod.Precedes head := by
                rcases List.mem_cons.mp inside with rfl | later
                · exact before
                · exact Nat.le_trans before (least head later)
              exact List.orderedInsert_cons_of_le Pod.Precedes tail behind
        rw [if_pos before, first, List.filter_cons]
      · rw [if_neg before, List.filter_cons, ih rest]
        by_cases kept : keep other = true
        · rw [if_pos kept, List.filter_cons_of_pos kept, List.orderedInsert_cons, if_neg before]
          split <;> rfl
        · rw [if_neg kept, List.filter_cons_of_neg kept]

theorem filter_insertionSort (keep : Pod → Bool) (pods : List Pod) :
    (pods.insertionSort Pod.Precedes).filter keep =
      (pods.filter keep).insertionSort Pod.Precedes := by
  induction pods with
  | nil => rfl
  | cons pod pods ih =>
      rw [List.insertionSort_cons,
        filter_orderedInsert keep pod _ (List.pairwise_insertionSort Pod.Precedes pods), ih]
      by_cases kept : keep pod = true
      · rw [if_pos kept, List.filter_cons_of_pos kept, List.insertionSort_cons]
      · rw [if_neg kept, List.filter_cons_of_neg kept]

theorem mem_waiting_iff (node : String) (pods : List Pod) (pod : Pod) :
    pod ∈ waiting node pods ↔ pod ∈ pods ∧ pod.isCandidate node = true := by
  rw [waiting, List.mem_insertionSort, List.mem_filter]

theorem nodup_waiting (node : String) {pods : List Pod} (distinct : pods.Nodup) :
    (waiting node pods).Nodup :=
  (List.perm_insertionSort Pod.Precedes _).nodup_iff.mpr (distinct.filter _)

structure WaitsInOrder (node : String) (pods order : List Pod) : Prop where
  candidates : order.Perm (pods.filter (Pod.isCandidate node))
  ascending : order.Pairwise fun pod later => pod.effectiveBindTime ≤ later.effectiveBindTime
  listed : ∀ time, order.filter (fun pod => pod.effectiveBindTime = time) =
    (pods.filter (Pod.isCandidate node)).filter fun pod => pod.effectiveBindTime = time

theorem waitsInOrder_waiting (node : String) (pods : List Pod) :
    WaitsInOrder node pods (waiting node pods) where
  candidates := List.perm_insertionSort Pod.Precedes _
  ascending := List.pairwise_insertionSort Pod.Precedes _
  listed time := by
    rw [waiting, filter_insertionSort]
    apply List.Pairwise.insertionSort_eq
    apply List.pairwise_of_forall_mem_list
    intro pod member other otherMember
    have same := of_decide_eq_true (List.mem_filter.mp member).2
    have otherSame := of_decide_eq_true (List.mem_filter.mp otherMember).2
    exact Nat.le_of_eq (same.trans otherSame.symm)

/-! ### A pod that is served -/

theorem not_isCandidate_inPhase (node : String) (pod : Pod) {phase : BindPhase}
    (ended : phase ≠ .allocating) : (pod.inPhase phase).isCandidate node = false := by
  have found : (pod.inPhase phase).annotations.find? bindPhase = some phase.text :=
    Annotations.find?_insert_self _ _ _
  rw [Pod.isCandidate, found]
  cases phase with
  | allocating => exact absurd rfl ended
  | success => rfl
  | failed => rfl

theorem recorded_of_ne {pod served : Pod} {phase : BindPhase} (other : pod.names ≠ served.names) :
    pod.recorded served.names phase = pod := if_neg other

theorem recorded_self (pod : Pod) (phase : BindPhase) :
    pod.recorded pod.names phase = pod.inPhase phase := if_pos rfl

/-- Once its phase is recorded, a pod waits no longer, and the others wait as before. -/
theorem waiting_recorded (node : String) {pods : List Pod} {served : Pod} {phase : BindPhase}
    (ended : phase ≠ .allocating) (known : ∀ pod ∈ pods, pod.names = served.names → pod = served) :
    waiting node (pods.map (Pod.recorded served.names phase)) =
      (waiting node pods).filter (· ≠ served) := by
  rw [waiting, waiting, filter_insertionSort]
  congr 1
  induction pods with
  | nil => rfl
  | cons pod pods ih =>
      have rest := ih fun other member => known other (List.mem_cons_of_mem _ member)
      rw [List.map_cons, List.filter_cons, List.filter_cons, rest]
      by_cases same : pod.names = served.names
      · obtain rfl := known pod List.mem_cons_self same
        rw [recorded_self, not_isCandidate_inPhase node pod ended]
        cases pod.isCandidate node <;> simp
      · have differs : pod ≠ served := fun equal => same (congrArg Pod.names equal)
        rw [recorded_of_ne same]
        cases pod.isCandidate node <;> simp [differs]

end Cluster

namespace Kubelet

open Cluster (Client Entry Ledger PendingPod Pod)

variable {κ : Type}

structure Request where
  inventory : Inventory
  containers : Containers

def Request.outcome (request : Request) (pod : Pod) : Except Allocation.Error Allocated :=
  bindPod request.inventory request.containers pod.pending

def answerAll (client : Client κ) (node : String) :
    List Request → κ → List (Except Status Allocated) × κ
  | [], state => ([], state)
  | request :: requests, state =>
      let (outcome, after) := allocate client request.inventory node request.containers state
      let (answers, last) := answerAll client node requests after
      (outcome.mapError Status.ofError :: answers, last)

def servedBy (turns : List (Request × Pod)) (pod : Pod) : Pod :=
  match turns.find? fun turn => turn.2 = pod with
  | some (request, _) => pod.inPhase (phaseOf (request.outcome pod))
  | none => pod

theorem phaseOf_ne_allocating (outcome : Except Allocation.Error Allocated) :
    phaseOf outcome ≠ .allocating := by
  cases outcome <;> simp [phaseOf]

/-! ### One allocation -/

theorem allocate_served {client : Client κ} {pods : κ → List Pod}
    (keeps : client.KeepsPhases pods) (node : String) (request : Request) (ledger : Ledger κ)
    {pod : Pod} {others : List Pod}
    (next : Cluster.waiting node (pods ledger.cluster) = pod :: others) :
    ∃ after, allocate client.withLedger request.inventory node request.containers ledger =
        (request.outcome pod, after) ∧
      after.caller = ledger.caller ∧
      after.entries = ledger.entries ++
        allocationEntries ledger.caller node (some pod.pending) (request.outcome pod) ∧
      pods after.cluster = (pods ledger.cluster).map
        (Pod.recorded pod.names (phaseOf (request.outcome pod))) := by
  obtain ⟨looked, found, same⟩ := keeps.looked node ledger.cluster
  rw [Cluster.selectPending_eq, next] at found
  change _ = (Except.ok (some pod.pending), looked) at found
  obtain ⟨noted, recorded, podsNoted⟩ :=
    keeps.recorded pod.pending (phaseOf (request.outcome pod)) looked
  obtain ⟨unlocked, released, podsUnlocked⟩ := keeps.released node noted
  have plain : allocate client request.inventory node request.containers ledger.cluster =
      (request.outcome pod, unlocked) := by
    unfold Request.outcome at recorded ⊢
    simp only [allocate, allocatePending, found, recorded, released]
  rw [allocate_withLedger, plain, found]
  refine ⟨_, rfl, rfl, rfl, ?_⟩
  rw [podsUnlocked, podsNoted, same]
  rfl

theorem allocate_idle {client : Client κ} {pods : κ → List Pod}
    (keeps : client.KeepsPhases pods) (node : String) (request : Request) (ledger : Ledger κ)
    (none : Cluster.waiting node (pods ledger.cluster) = []) :
    ∃ after, allocate client.withLedger request.inventory node request.containers ledger =
        (.error (.pendingPodNotFound node), after) ∧
      after.caller = ledger.caller ∧
      after.entries = ledger.entries ++ allocationEntries ledger.caller node Option.none
        (.error (.pendingPodNotFound node)) ∧
      pods after.cluster = pods ledger.cluster := by
  obtain ⟨looked, found, same⟩ := keeps.looked node ledger.cluster
  rw [Cluster.selectPending_eq, none] at found
  change _ = (Except.ok Option.none, looked) at found
  obtain ⟨unlocked, released, podsUnlocked⟩ := keeps.released node looked
  have plain : allocate client request.inventory node request.containers ledger.cluster =
      (.error (.pendingPodNotFound node), unlocked) := by
    simp only [allocate, allocatePending, found, released]
  rw [allocate_withLedger, plain, found]
  exact ⟨_, rfl, rfl, rfl, podsUnlocked.trans same⟩

/-! ### Allocations one after another -/

theorem servedBy_cons_self (request : Request) (pod : Pod) (turns : List (Request × Pod)) :
    servedBy ((request, pod) :: turns) pod = pod.inPhase (phaseOf (request.outcome pod)) := by
  simp [servedBy]

theorem servedBy_cons_ne (request : Request) {pod other : Pod} (differs : other ≠ pod)
    (turns : List (Request × Pod)) :
    servedBy ((request, pod) :: turns) other = servedBy turns other := by
  simp [servedBy, differs.symm]

theorem servedBy_absent {pod : Pod} {turns : List (Request × Pod)}
    (absent : ∀ turn ∈ turns, turn.2 ≠ pod) : servedBy turns pod = pod := by
  have unfound : turns.find? (fun turn => turn.2 = pod) = none := by
    apply List.find?_eq_none.mpr
    intro turn member
    simpa using absent turn member
  rw [servedBy, unfound]

theorem map_servedBy_recorded {request : Request} {served : Pod} {pods : List Pod}
    {turns : List (Request × Pod)}
    (known : ∀ pod ∈ pods, pod.names = served.names → pod = served)
    (ended : ∀ turn ∈ turns, turn.2 ≠ served.inPhase (phaseOf (request.outcome served))) :
    (pods.map (Pod.recorded served.names (phaseOf (request.outcome served)))).map
        (servedBy turns) =
      pods.map (servedBy ((request, served) :: turns)) := by
  rw [List.map_map]
  apply List.map_congr_left
  intro pod member
  rw [Function.comp_apply]
  by_cases same : pod.names = served.names
  · obtain rfl := known pod member same
    rw [Cluster.recorded_self, servedBy_cons_self, servedBy_absent ended]
  · have differs : pod ≠ served := fun equal => same (congrArg Pod.names equal)
    rw [Cluster.recorded_of_ne same, servedBy_cons_ne request differs]

/-- What some requests come to on a cluster whose pods wait in some order. -/
structure ServesInOrder (node : String) (requests : List Request) (order all : List Pod)
    (before : Ledger κ) (pods : κ → List Pod)
    (run : List (Except Status Allocated) × Ledger κ) : Prop where
  answered : run.1 =
    (requests.zip order).map (fun turn => (turn.1.outcome turn.2).mapError Status.ofError) ++
      List.replicate (requests.length - order.length)
        (.error (.notFound ("No pod is pending allocation on node " ++ node)))
  called : run.2.entries = before.entries ++
    ((requests.zip order).flatMap (fun turn => allocationEntries before.caller node
        (some turn.2.pending) (turn.1.outcome turn.2)) ++
      (List.replicate (requests.length - order.length) (allocationEntries before.caller node none
        (.error (.pendingPodNotFound node)))).flatten)
  kept : pods run.2.cluster = all.map (servedBy (requests.zip order))

theorem serves_answerAll {client : Client κ} {pods : κ → List Pod}
    (keeps : client.KeepsPhases pods) (node : String) (requests : List Request)
    (ledger : Ledger κ) (distinct : ((pods ledger.cluster).map Pod.names).Nodup) :
    ServesInOrder node requests (Cluster.waiting node (pods ledger.cluster))
      (pods ledger.cluster) ledger pods (answerAll client.withLedger node requests ledger) := by
  induction requests generalizing ledger with
  | nil =>
      refine ⟨?_, ?_, (List.map_id _).symm⟩
      · simp [answerAll]
      · simp [answerAll]
  | cons request requests ih =>
      cases next : Cluster.waiting node (pods ledger.cluster) with
      | nil =>
          obtain ⟨after, allocated, caller, entries, same⟩ :=
            allocate_idle keeps node request ledger next
          obtain ⟨answered, called, kept⟩ := ih after (by rw [same]; exact distinct)
          rw [same, next, List.zip_nil_right] at answered called kept
          rw [answerAll, allocated]
          refine ⟨?_, ?_, kept⟩
          · rw [List.map_nil, List.nil_append] at answered
            dsimp only
            rw [answered]
            rfl
          · simpa [entries, caller, List.replicate_succ] using called
      | cons pod others =>
          obtain ⟨after, allocated, caller, entries, recorded⟩ :=
            allocate_served keeps node request ledger next
          have known : ∀ other ∈ pods ledger.cluster, other.names = pod.names → other = pod := by
            intro other member same
            have inside : pod ∈ pods ledger.cluster := by
              apply ((Cluster.mem_waiting_iff node _ pod).mp _).1
              rw [next]
              exact List.mem_cons_self
            exact List.inj_on_of_nodup_map distinct member inside same
          have waitingAfter : Cluster.waiting node (pods after.cluster) = others := by
            have once := Cluster.nodup_waiting node distinct.of_map
            rw [next, List.nodup_cons] at once
            rw [recorded, Cluster.waiting_recorded node (phaseOf_ne_allocating _) known, next,
              List.filter_cons_of_neg (by simp), List.filter_eq_self]
            intro other member
            simpa using fun same : other = pod => once.1 (same ▸ member)
          have distinctAfter : ((pods after.cluster).map Pod.names).Nodup := by
            rw [recorded, List.map_map]
            simpa [Function.comp_def, Cluster.Pod.names_recorded] using distinct
          obtain ⟨answered, called, kept⟩ := ih after distinctAfter
          rw [waitingAfter] at answered called kept
          rw [answerAll, allocated]
          refine ⟨?_, ?_, ?_⟩
          · simpa using answered
          · simpa [entries, caller] using called
          · rw [recorded, map_servedBy_recorded known] at kept
            · exact kept
            · intro turn member same
              have candidate : turn.2.isCandidate node = true := by
                apply ((Cluster.mem_waiting_iff node (pods after.cluster) _).mp _).2
                rw [waitingAfter]
                exact List.of_mem_zip member |>.2
              rw [same, Cluster.not_isCandidate_inPhase node pod (phaseOf_ne_allocating _)]
                at candidate
              cases candidate

/-- On a cluster that keeps the phases of its pods, allocations one after another serve the
candidates of the node in the order in which they wait, each of them once whatever comes of it.
A pod that is served has the outcome as its phase afterwards, no other pod changes, and requests
beyond the last candidate find no pod. -/
theorem candidates_served_in_turn (client : Client κ) (pods : κ → List Pod)
    (keeps : client.KeepsPhases pods) (node : String) (ledger : Ledger κ)
    (distinct : ((pods ledger.cluster).map Pod.names).Nodup) :
    let all := pods ledger.cluster
    let order := Cluster.waiting node all
    Cluster.WaitsInOrder node all order ∧ order.Nodup ∧
      ∀ requests : List Request, ServesInOrder node requests order all ledger pods
        (answerAll client.withLedger node requests ledger) := by
  intro all order
  exact ⟨Cluster.waitsInOrder_waiting node all, Cluster.nodup_waiting node distinct.of_map,
    fun requests => serves_answerAll keeps node requests ledger distinct⟩

private def oneDevice : Inventory :=
  ⟨⟨"910B3", "Ascend910B3", "npu", 65536, 65536, 20, none, []⟩,
    [⟨"A", 0, 3, 0, 0, 65536, 20, 0, true⟩]⟩

private def allocatingPod (name grants time : String) : Pod :=
  ⟨some "default", some name,
    [("vnpu.io/Ascend910B3-devices-allocated", grants), ("vnpu.io/assigned-node", "node"),
      ("vnpu.io/bind-phase", "allocating"), ("vnpu.io/bind-time", time)]⟩

/-- Two pods bound at the same time, one whose time cannot be read, and one bound first whose
grants are no text of grants. -/
private def fourPods : List Pod :=
  [allocatingPod "late" "[[\"A\"]]" "soon", allocatingPod "first" "[[\"A\"]]" "20",
    allocatingPod "garbled" "[" "5", allocatingPod "second" "[[\"A\"]]" "20"]

theorem four_pods_five_requests :
    let request : Request := ⟨oneDevice, [["A-0"]]⟩
    let run := answerAll Cluster.keeping.withLedger "node" (List.replicate 5 request)
      (.start fourPods)
    (fourPods.map Pod.names).Nodup ∧
    (run.2.entries.filterMap fun entry =>
        match entry.call with
        | .setBindPhase _ name phase => some (name, phase)
        | _ => none) =
      [("garbled", .failed), ("first", .success), ("second", .success), ("late", .success)] ∧
    run.1.getLast? = some (.error (.notFound "No pod is pending allocation on node node")) := by
  intro request run
  have distinct : (fourPods.map Pod.names).Nodup := by decide
  obtain ⟨_, _, serves⟩ := candidates_served_in_turn Cluster.keeping id
    Cluster.keepsPhases_keeping "node" (.start fourPods) distinct
  obtain ⟨answered, called, _⟩ := serves (List.replicate 5 request)
  refine ⟨distinct, ?_, ?_⟩
  · rw [called]
    rfl
  · rw [answered]
    rfl

end Kubelet
end VirtualNpu
