import VirtualNpu.Cluster.Remote
import VirtualNpu.Proofs.AllocationCalls
import VirtualNpu.Proofs.GrantRoundTrip

/-!
What the kubelet is answered when it asks for an allocation.  The answer is told from what the
look-up brings, what the pod's annotation grants and which of it the snapshot has, in this
order; what the kubelet itself has asked for counts only by the number of containers.
-/

namespace VirtualNpu

namespace Allocation

/-! ### Grants and devices -/

def Grant.IsKnown (devices : Inventory.Snapshot) (grant : Grant) : Prop :=
  ∃ device ∈ devices, device.uuid = grant.uuid

theorem lookup_eq_none_iff (devices : Inventory.Snapshot) (grant : Grant) :
    devices.lookup grant.uuid = none ↔ ¬ grant.IsKnown devices := by
  simp [Inventory.Snapshot.lookup, Grant.IsKnown]

theorem resolve_eq_nil_iff (grants : List Grant) (devices : Inventory.Snapshot) :
    resolve grants devices = [] ↔ ∀ grant ∈ grants, ¬ grant.IsKnown devices := by
  simp only [resolve, List.filterMap_eq_nil_iff, lookup_eq_none_iff]

theorem resolve_known (grants : List Grant) (devices : Inventory.Snapshot)
    (known : ∀ grant ∈ grants, grant.IsKnown devices) :
    List.Forall₂ (fun grant device => devices.lookup grant.uuid = some device) grants
      (resolve grants devices) := by
  induction grants with
  | nil => exact .nil
  | cons grant grants ih =>
      have others := ih fun other member => known other (List.mem_cons_of_mem _ member)
      cases found : devices.lookup grant.uuid with
      | none => exact absurd (known grant List.mem_cons_self) ((lookup_eq_none_iff _ _).mp found)
      | some device =>
          have resolved : resolve (grant :: grants) devices = device :: resolve grants devices :=
            List.filterMap_cons_some found
          rw [resolved]
          exact .cons found others

def visibleIndices (devices : List Inventory.PhysicalDevice) : String :=
  ",".intercalate (devices.map fun device => toString device.physicalIndex.toNat)

theorem containerEnvironment_unknown {grants : List Grant} {devices : Inventory.Snapshot}
    (unknown : ∀ grant ∈ grants, ¬ grant.IsKnown devices) :
    containerEnvironment grants devices = .error (.noDevices grants) := by
  unfold containerEnvironment
  rw [(resolve_eq_nil_iff grants devices).mpr unknown]

theorem containerEnvironment_known {grants : List Grant} {devices : Inventory.Snapshot}
    (known : ∃ grant ∈ grants, grant.IsKnown devices) :
    ∃ environment, containerEnvironment grants devices = .ok environment ∧
      environment.lookup visibleDevices = some (visibleIndices (resolve grants devices)) := by
  cases resolved : resolve grants devices with
  | nil =>
      obtain ⟨grant, member, isKnown⟩ := known
      exact absurd isKnown ((resolve_eq_nil_iff grants devices).mp resolved grant member)
  | cons device rest =>
      unfold containerEnvironment
      rw [resolved]
      cases firstTemplate? grants with
      | none => exact ⟨_, rfl, List.lookup_cons_self⟩
      | some template => exact ⟨_, rfl, List.lookup_cons_self⟩

theorem decode_error {key : String} {value : Option String} {error : Error}
    (undecoded : decode key value = .error error) :
    error = .unannotated key ∨ ∃ text, error = .malformed key text := by
  unfold decode at undecoded
  cases annotated : value.map Text.trim with
  | none =>
      rw [annotated] at undecoded
      cases undecoded
      exact Or.inl rfl
  | some text =>
      rw [annotated] at undecoded
      dsimp only at undecoded
      by_cases empty : text = ""
      · rw [if_pos empty] at undecoded
        cases undecoded
        exact Or.inl rfl
      · rw [if_neg empty] at undecoded
        cases read : parseGrants? text with
        | none =>
            rw [read] at undecoded
            cases undecoded
            exact Or.inr ⟨text, rfl⟩
        | some grants =>
            rw [read] at undecoded
            cases undecoded

end Allocation

namespace Cluster

/-! ### Look-ups -/

/-- Whether a look-up tells the pod among these that is pending on a node, if it tells any. -/
def TellsPending (pods : List Pod) (node : String)
    (looked : Except Error (Option PendingPod)) : Prop :=
  ∀ found, looked = .ok found → found = selectPending pods node

theorem staged_tellsPending (stage : Stage) (node : String) :
    TellsPending stage.pods node (staged.pendingPod node stage).1 := by
  intro found looked
  unfold staged Stage.play at looked
  dsimp only at looked
  split at looked
  · cases looked
  · cases looked
    rfl

/-- The pods are those of the reply; where none is understood, nothing is told. -/
theorem remote_tellsPending {σ : Type} (transport : Transport σ) (node : String) (state : σ) :
    ∃ pods, TellsPending pods node ((remote transport).pendingPod node state).1 := by
  change ∃ pods, TellsPending pods node (exchange transport (.pendingPod node)
    (fun value => (pods? value).map fun pods => selectPending pods node) state).1
  unfold exchange
  cases (Call.pendingPod node).request? with
  | none => exact ⟨[], fun found looked => by cases looked⟩
  | some request =>
      dsimp only
      cases read : (transport request state).1.bind Reply.value? with
      | none => exact ⟨[], fun found looked => by cases looked⟩
      | some value =>
          simp only [Option.bind_some]
          cases listed : pods? value with
          | none => exact ⟨[], fun found looked => by cases looked⟩
          | some pods =>
              refine ⟨pods, fun found looked => ?_⟩
              cases looked
              rfl

end Cluster

namespace Kubelet

open Allocation (Grant)
open Cluster (Client PendingPod)

variable {κ : Type}

def reply (client : Client κ) (inventory : Inventory) (node : String) (containers : Containers)
    (state : κ) : Except Status Allocated :=
  (allocate client inventory node containers state).1.mapError Status.ofError

def grantsOf (inventory : Inventory) (pod : PendingPod) : Except Allocation.Error (List Grant) :=
  let key := Cluster.devicesAllocated inventory.family.commonWord
  Allocation.decode key (pod.annotations.find? key)

inductive Answers (inventory : Inventory) (node : String) (containers : Containers) :
    Except Cluster.Error (Option PendingPod) → Except Status Allocated → Prop
  | unavailable (reason : Cluster.Error) :
      Answers inventory node containers (.error reason)
        (.error (.unavailable ("Failed to look up pending pod: node " ++ node)))
  | noPod :
      Answers inventory node containers (.ok none)
        (.error (.notFound ("No pod is pending allocation on node " ++ node)))
  | ungranted {pod : PendingPod} {error : Allocation.Error}
      (undecoded : grantsOf inventory pod = .error error) :
      Answers inventory node containers (.ok (some pod))
        (.error (.invalidArgument error.message))
  | unknown {pod : PendingPod} {grants : List Grant}
      (decoded : grantsOf inventory pod = .ok grants)
      (unknown : ∀ grant ∈ grants, ¬ grant.IsKnown inventory.snapshot) :
      Answers inventory node containers (.ok (some pod))
        (.error (.notFound "None of the requested devices are known on this node"))
  | granted {pod : PendingPod} {grants : List Grant} {environment : Allocation.Environment}
      (decoded : grantsOf inventory pod = .ok grants)
      (known : ∃ grant ∈ grants, grant.IsKnown inventory.snapshot)
      (shared : Allocation.containerEnvironment grants inventory.snapshot = .ok environment) :
      Answers inventory node containers (.ok (some pod))
        (.ok (List.replicate containers.length environment))

theorem bindPod_decoded {inventory : Inventory} {pod : PendingPod} {grants : List Grant}
    (containers : Containers) (decoded : grantsOf inventory pod = .ok grants) :
    bindPod inventory containers pod =
      (Allocation.containerEnvironment grants inventory.snapshot).map
        (List.replicate containers.length) := by
  simp only [grantsOf] at decoded
  simp only [bindPod, decoded, bind, Except.bind, pure, Except.pure]
  cases Allocation.containerEnvironment grants inventory.snapshot with
  | error error => rfl
  | ok environment => simp [Except.map, List.map_const']

theorem bindPod_undecoded {inventory : Inventory} {pod : PendingPod} {error : Allocation.Error}
    (containers : Containers) (undecoded : grantsOf inventory pod = .error error) :
    bindPod inventory containers pod = .error error := by
  simp only [grantsOf] at undecoded
  simp only [bindPod, undecoded, bind, Except.bind]

theorem reply_eq (client : Client κ) (inventory : Inventory) (node : String)
    (containers : Containers) (state : κ) :
    reply client inventory node containers state =
      (answerOf inventory node containers (client.pendingPod node state).1).mapError
        Status.ofError := by
  rw [reply, allocate_answer]

theorem ofError_undecoded {inventory : Inventory} {pod : PendingPod} {error : Allocation.Error}
    (undecoded : grantsOf inventory pod = .error error) :
    Status.ofError error = .invalidArgument error.message := by
  rcases Allocation.decode_error undecoded with rfl | ⟨text, rfl⟩
  · rfl
  · rfl

theorem answers_answerOf (inventory : Inventory) (node : String) (containers : Containers)
    (looked : Except Cluster.Error (Option PendingPod)) :
    Answers inventory node containers looked
      ((answerOf inventory node containers looked).mapError Status.ofError) := by
  rcases looked with reason | _ | pod
  · exact .unavailable reason
  · exact .noPod
  · change Answers _ _ _ _ ((bindPod inventory containers pod).mapError Status.ofError)
    cases decoded : grantsOf inventory pod with
    | error error =>
        rw [bindPod_undecoded containers decoded, Except.mapError, ofError_undecoded decoded]
        exact .ungranted decoded
    | ok grants =>
        rw [bindPod_decoded containers decoded]
        by_cases known : ∃ grant ∈ grants, grant.IsKnown inventory.snapshot
        · obtain ⟨environment, shared, _visible⟩ := Allocation.containerEnvironment_known known
          rw [shared]
          exact .granted decoded known shared
        · have unknown : ∀ grant ∈ grants, ¬ grant.IsKnown inventory.snapshot := by
            intro grant member isKnown
            exact known ⟨grant, member, isKnown⟩
          rw [Allocation.containerEnvironment_unknown unknown]
          exact .unknown decoded unknown

theorem Answers.eq_answerOf {inventory : Inventory} {node : String} {containers : Containers}
    {looked : Except Cluster.Error (Option PendingPod)} {answer : Except Status Allocated}
    (answered : Answers inventory node containers looked answer) :
    answer = (answerOf inventory node containers looked).mapError Status.ofError := by
  cases answered with
  | unavailable | noPod => rfl
  | ungranted undecoded =>
      rw [answerOf, bindPod_undecoded containers undecoded, Except.mapError,
        ofError_undecoded undecoded]
  | unknown decoded unknown =>
      rw [answerOf, bindPod_decoded containers decoded,
        Allocation.containerEnvironment_unknown unknown]
      rfl
  | granted decoded known shared =>
      rw [answerOf, bindPod_decoded containers decoded, shared]
      rfl

/-- The ids that the containers ask for have no part in an answer. -/
theorem answerOf_count (inventory : Inventory) (node : String) {asked other : Containers}
    (looked : Except Cluster.Error (Option PendingPod)) (count : asked.length = other.length) :
    answerOf inventory node asked looked = answerOf inventory node other looked := by
  rcases looked with reason | _ | pod
  · rfl
  · rfl
  · unfold answerOf
    dsimp only
    cases decoded : grantsOf inventory pod with
    | error error => rw [bindPod_undecoded asked decoded, bindPod_undecoded other decoded]
    | ok grants => rw [bindPod_decoded asked decoded, bindPod_decoded other decoded, count]

theorem Answers.isOk_iff {inventory : Inventory} {node : String} {containers : Containers}
    {looked : Except Cluster.Error (Option PendingPod)} {answer : Except Status Allocated}
    (answered : Answers inventory node containers looked answer) :
    answer.isOk = true ↔ ∃ pod grants, looked = .ok (some pod) ∧
      grantsOf inventory pod = .ok grants ∧
      ∃ grant ∈ grants, grant.IsKnown inventory.snapshot := by
  cases answered with
  | unavailable | noPod => simp [Except.isOk, Except.toBool]
  | ungranted undecoded => simp [Except.isOk, Except.toBool, undecoded]
  | unknown decoded unknown =>
      simp only [Except.isOk, Except.toBool, Bool.false_eq_true, false_iff]
      rintro ⟨pod, grants, same, decoded', grant, member, isKnown⟩
      cases same
      rw [decoded] at decoded'
      cases decoded'
      exact unknown grant member isKnown
  | granted decoded known shared =>
      simp only [Except.isOk, Except.toBool, true_iff]
      exact ⟨_, _, rfl, decoded, known⟩

/-- What the kubelet is answered is told by the look-up, the annotation of the pod that is
pending and the snapshot, one refusal before the other.  It is an environment for each
container, the same one for all of them, exactly if the pod is granted a device that is known
here, and which ids the kubelet names has no part in it.  Some grants that are written to the
annotation and all known are answered with their physical indices in the order of the grants. -/
theorem allocation_answered (client : Client κ) (inventory : Inventory) (node : String)
    (state : κ) (pods : List Cluster.Pod)
    (tells : Cluster.TellsPending pods node (client.pendingPod node state).1) :
    let looked := (client.pendingPod node state).1
    let answer := fun containers => reply client inventory node containers state
    (∀ containers, Answers inventory node containers looked (answer containers)) ∧
    (∀ containers, (answer containers).isOk = true ↔ looked.isOk = true ∧
      ∃ pod grants, Cluster.selectPending pods node = some pod ∧
        grantsOf inventory pod = .ok grants ∧
        ∃ grant ∈ grants, grant.IsKnown inventory.snapshot) ∧
    (∀ asked other : Containers, asked.length = other.length → answer asked = answer other) ∧
    ∀ (containers : Containers) (pod : PendingPod) (grants : List Grant),
      looked.isOk = true → Cluster.selectPending pods node = some pod →
      pod.annotations.find? (Cluster.devicesAllocated inventory.family.commonWord) =
        some (Allocation.encode grants) →
      grants ≠ [] → (∀ grant ∈ grants, grant.IsKnown inventory.snapshot) →
      ∃ devices environment,
        List.Forall₂ (fun grant device => inventory.snapshot.lookup grant.uuid = some device)
          grants devices ∧
        Allocation.containerEnvironment grants inventory.snapshot = .ok environment ∧
        environment.lookup Allocation.visibleDevices =
          some (Allocation.visibleIndices devices) ∧
        answer containers = .ok (List.replicate containers.length environment) := by
  intro looked answer
  have table (containers : Containers) :
      Answers inventory node containers looked (answer containers) := by
    change Answers _ _ _ _ (reply client inventory node containers state)
    rw [reply_eq]
    exact answers_answerOf inventory node containers looked
  have found : looked.isOk = true → looked = .ok (Cluster.selectPending pods node) := by
    intro ok
    cases told : looked with
    | error reason =>
        rw [told] at ok
        cases ok
    | ok found => rw [tells found told]
  refine ⟨table, ?_, ?_, ?_⟩
  · intro containers
    rw [(table containers).isOk_iff]
    constructor
    · intro ⟨pod, grants, told, granted⟩
      exact ⟨by rw [told]; rfl, pod, grants, (tells _ told).symm, granted⟩
    · intro ⟨ok, pod, grants, selected, granted⟩
      exact ⟨pod, grants, by rw [found ok, selected], granted⟩
  · intro asked other count
    rw [(table asked).eq_answerOf, (table other).eq_answerOf,
      answerOf_count inventory node looked count]
  · intro containers pod grants ok selected annotated some known
    have decoded : grantsOf inventory pod = .ok grants := by
      simp only [grantsOf, annotated, Allocation.decode_encode]
    obtain ⟨grant, member⟩ := List.exists_mem_of_ne_nil grants some
    have any : ∃ grant ∈ grants, grant.IsKnown inventory.snapshot :=
      ⟨grant, member, known grant member⟩
    obtain ⟨environment, shared, visible⟩ := Allocation.containerEnvironment_known any
    refine ⟨_, environment, Allocation.resolve_known grants _ known, shared, visible, ?_⟩
    have told := table containers
    rw [found ok, selected] at told
    exact told.eq_answerOf.trans (Answers.granted decoded any shared).eq_answerOf.symm

private def twoDevices : Inventory :=
  ⟨⟨"910B3", "Ascend910B3", "npu", 65536, 65536, 20, none, []⟩,
    [⟨"A", 0, 3, 0, 0, 65536, 20, 0, true⟩, ⟨"B", 1, 5, 1, 0, 65536, 20, 0, false⟩]⟩

private def stageGranting (grants : List Grant) : Cluster.Stage :=
  { Cluster.Stage.empty with
    pods := [⟨some "default", some "pod",
      [("vnpu.io/Ascend910B3-devices-allocated", Allocation.encode grants),
        ("vnpu.io/assigned-node", "node"), ("vnpu.io/bind-phase", "allocating")]⟩] }

private def pendingPod (grants : List Grant) : PendingPod :=
  ⟨"default", "pod", [("vnpu.io/Ascend910B3-devices-allocated", Allocation.encode grants),
    ("vnpu.io/assigned-node", "node"), ("vnpu.io/bind-phase", "allocating")]⟩

private theorem selectPending_stageGranting (grants : List Grant) :
    Cluster.selectPending (stageGranting grants).pods "node" = some (pendingPod grants) := by
  rfl

/-- Both devices, one of them unhealthy, are granted in the opposite order. -/
theorem two_grants_answered :
    ∃ devices environment,
      List.Forall₂ (fun (grant : Grant) device => twoDevices.snapshot.lookup grant.uuid = some device)
        [⟨"B", "vir04"⟩, ⟨"A", ""⟩] devices ∧
      Allocation.visibleIndices devices = "5,3" ∧
      environment.lookup Allocation.visibleDevices = some "5,3" ∧
      reply Cluster.staged twoDevices "node" [["A-1"], []]
        (stageGranting [⟨"B", "vir04"⟩, ⟨"A", ""⟩]) = .ok [environment, environment] := by
  have claim := (allocation_answered Cluster.staged twoDevices "node"
    (stageGranting [⟨"B", "vir04"⟩, ⟨"A", ""⟩]) _ (Cluster.staged_tellsPending _ "node")).2.2.2
    [["A-1"], []] _ [⟨"B", "vir04"⟩, ⟨"A", ""⟩] rfl (selectPending_stageGranting _) rfl
    (by simp) (by simp [Allocation.Grant.IsKnown, twoDevices])
  obtain ⟨devices, environment, resolved, _shared, visible, answered⟩ := claim
  have indices : Allocation.visibleIndices devices = "5,3" := by
    cases resolved with
    | cons first rest =>
        cases rest with
        | cons second rest =>
            cases rest
            cases first
            cases second
            rfl
  exact ⟨devices, environment, resolved, indices, by rw [visible, indices], answered⟩

/-- The text of no grants is an annotation like any other, and every one of no grants is
known, but there is no device to answer with. -/
theorem no_grants_refused :
    Cluster.selectPending (stageGranting []).pods "node" = some (pendingPod []) ∧
    (pendingPod []).annotations.find?
      (Cluster.devicesAllocated twoDevices.family.commonWord) = some (Allocation.encode []) ∧
    (∀ grant ∈ ([] : List Grant), grant.IsKnown twoDevices.snapshot) ∧
    (Cluster.staged.pendingPod "node" (stageGranting [])).1 = .ok (some (pendingPod [])) ∧
    reply Cluster.staged twoDevices "node" [["A-1"]] (stageGranting []) =
      .error (.notFound "None of the requested devices are known on this node") := by
  refine ⟨rfl, rfl, ?_, rfl, rfl⟩
  intro grant member
  cases member

end Kubelet
end VirtualNpu
