import VirtualNpu.Cluster.Pod
import VirtualNpu.Proofs.UnsignedNumerals

/-!
Which pod is served next.  It is the first of the candidates that were bound earliest, whatever
other pods are listed with them.  A bind time that cannot be read counts as the latest that can,
so a pod that was bound at that very time is not preferred to one without a time.
-/

namespace VirtualNpu
namespace Cluster

structure Pod.AwaitsDevices (node : String) (pod : Pod) : Prop where
  phase : pod.annotations.find? "vnpu.io/bind-phase" = some "allocating"
  assigned : pod.annotations.find? "vnpu.io/assigned-node" = some node

def Annotations.TellBindTime (annotations : Annotations) (time : Nat) : Prop :=
  ∃ text, annotations.find? "vnpu.io/bind-time" = some text ∧ Text.WritesUnsigned64 text time

def latestBindTime : Nat := UInt64.size - 1

theorem isCandidate_iff (node : String) (pod : Pod) :
    pod.isCandidate node = true ↔ pod.AwaitsDevices node := by
  rw [Pod.isCandidate, Bool.and_eq_true, beq_iff_eq, beq_iff_eq]
  exact ⟨fun both => ⟨both.1, both.2⟩, fun awaits => ⟨awaits.phase, awaits.assigned⟩⟩

/-! ### The time that orders candidates -/

theorem effectiveBindTime_of_told {pod : Pod} {time : Nat}
    (told : pod.annotations.TellBindTime time) : pod.effectiveBindTime = time := by
  obtain ⟨text, found, written⟩ := told
  have read := (Text.readUnsigned64_eq_ok_iff text time).mpr written
  rw [Pod.effectiveBindTime, bindTime, found]
  simp only [read]

theorem effectiveBindTime_of_untold {pod : Pod}
    (untold : ∀ time, ¬ pod.annotations.TellBindTime time) :
    pod.effectiveBindTime = latestBindTime := by
  rw [Pod.effectiveBindTime, bindTime]
  cases found : pod.annotations.find? "vnpu.io/bind-time" with
  | none => rfl
  | some text =>
      cases read : Text.readUnsigned64 text.toList with
      | ok time =>
          have written := (Text.readUnsigned64_eq_ok_iff text time).mp read
          exact absurd ⟨text, found, written⟩ (untold time)
      | error fault =>
          simp only [read]
          rfl

theorem effectiveBindTime_le (pod : Pod) : pod.effectiveBindTime ≤ latestBindTime := by
  by_cases told : ∃ time, pod.annotations.TellBindTime time
  · obtain ⟨time, tells⟩ := told
    rw [effectiveBindTime_of_told tells]
    obtain ⟨text, _, bound, _⟩ := tells
    exact Nat.le_sub_one_of_lt bound
  · exact Nat.le_of_eq (effectiveBindTime_of_untold (not_exists.mp told))

/-! ### The candidate that is served next -/

/-- Whether a pod is the candidate of a list that was bound earliest, and the first in the list
of those that were bound then. -/
def IsServedNext (node : String) (pods : List Pod) (pod : Pod) : Prop :=
  ∃ front back, pods = front ++ pod :: back ∧ pod.AwaitsDevices node ∧
    (∀ other ∈ front, other.AwaitsDevices node →
      pod.effectiveBindTime < other.effectiveBindTime) ∧
    ∀ other ∈ back, other.AwaitsDevices node → pod.effectiveBindTime ≤ other.effectiveBindTime

variable {node : String} {pods others : List Pod} {pod : Pod}

theorem IsServedNext.mem (next : IsServedNext node pods pod) : pod ∈ pods := by
  obtain ⟨front, back, rfl, _⟩ := next
  exact List.mem_append_right front List.mem_cons_self

theorem IsServedNext.awaits (next : IsServedNext node pods pod) : pod.AwaitsDevices node := by
  obtain ⟨_, _, _, awaits, _⟩ := next
  exact awaits

theorem IsServedNext.le (next : IsServedNext node pods pod) {other : Pod} (inside : other ∈ pods)
    (awaits : other.AwaitsDevices node) : pod.effectiveBindTime ≤ other.effectiveBindTime := by
  obtain ⟨front, back, rfl, _, before, behind⟩ := next
  rcases List.mem_append.mp inside with early | late
  · exact Nat.le_of_lt (before other early awaits)
  · rcases List.mem_cons.mp late with rfl | later
    · exact Nat.le_refl _
    · exact behind other later awaits

theorem isServedNext_cons_iff (first : Pod) :
    IsServedNext node (first :: pods) pod ↔
      (pod = first ∧ first.AwaitsDevices node ∧ ∀ other ∈ pods, other.AwaitsDevices node →
        first.effectiveBindTime ≤ other.effectiveBindTime) ∨
      (IsServedNext node pods pod ∧
        (first.AwaitsDevices node → pod.effectiveBindTime < first.effectiveBindTime)) := by
  constructor
  · rintro ⟨front, back, listed, awaits, before, behind⟩
    cases front with
    | nil =>
        obtain ⟨rfl, rfl⟩ := List.cons.inj listed
        exact Or.inl ⟨rfl, awaits, behind⟩
    | cons head front =>
        obtain ⟨rfl, rfl⟩ := List.cons.inj listed
        refine Or.inr ⟨⟨front, back, rfl, awaits, ?_, behind⟩, ?_⟩
        · intro other early
          exact before other (List.mem_cons_of_mem _ early)
        · exact before first List.mem_cons_self
  · rintro (⟨rfl, awaits, behind⟩ | ⟨⟨front, back, rfl, awaits, before, behind⟩, sooner⟩)
    · exact ⟨[], pods, rfl, awaits, by simp, behind⟩
    · refine ⟨first :: front, back, rfl, awaits, ?_, behind⟩
      intro other early
      rcases List.mem_cons.mp early with rfl | inside
      · exact sooner
      · exact before other inside

theorem IsServedNext.unique {other : Pod} (next : IsServedNext node pods pod)
    (again : IsServedNext node pods other) : pod = other := by
  induction pods with
  | nil => exact absurd next.mem List.not_mem_nil
  | cons first pods ih =>
      rw [isServedNext_cons_iff] at next again
      rcases next with ⟨same, awaits, least⟩ | ⟨next, sooner⟩
      · rcases again with ⟨sameAgain, _⟩ | ⟨again, sooner⟩
        · exact same.trans sameAgain.symm
        · have early := sooner awaits
          have late := least other again.mem again.awaits
          omega
      · rcases again with ⟨_, awaits, least⟩ | ⟨again, _⟩
        · have early := sooner awaits
          have late := least pod next.mem next.awaits
          omega
        · exact ih next again

/-! ### The selection -/

theorem earliest_eq_none_iff (pods : List Pod) : earliest pods = none ↔ pods = [] := by
  cases pods with
  | nil => exact ⟨fun _ => rfl, fun _ => rfl⟩
  | cons pod pods =>
      rw [earliest]
      constructor
      · intro nothing
        split at nothing
        · cases nothing
        · split at nothing <;> cases nothing
      · intro empty
        cases empty

theorem earliest_candidates_eq_none_iff (node : String) (pods : List Pod) :
    earliest (pods.filter (Pod.isCandidate node)) = none ↔
      ∀ pod ∈ pods, ¬ pod.AwaitsDevices node := by
  simp only [earliest_eq_none_iff, List.filter_eq_nil_iff, isCandidate_iff]

theorem isServedNext_of_earliest
    (found : earliest (pods.filter (Pod.isCandidate node)) = some pod) :
    IsServedNext node pods pod := by
  induction pods generalizing pod with
  | nil => cases found
  | cons first pods ih =>
      rw [isServedNext_cons_iff]
      by_cases candidate : first.isCandidate node = true
      · have awaits := (isCandidate_iff node first).mp candidate
        rw [List.filter_cons_of_pos candidate, earliest] at found
        cases others : earliest (pods.filter (Pod.isCandidate node)) with
        | none =>
            rw [others] at found
            have alone := (earliest_candidates_eq_none_iff node pods).mp others
            exact Or.inl ⟨(Option.some.inj found).symm, awaits, fun other inside otherAwaits =>
              absurd otherAwaits (alone other inside)⟩
        | some rival =>
            have next := ih others
            simp only [others] at found
            by_cases sooner : first.effectiveBindTime ≤ rival.effectiveBindTime
            · rw [if_pos sooner] at found
              refine Or.inl ⟨(Option.some.inj found).symm, awaits, ?_⟩
              exact fun other inside otherAwaits =>
                Nat.le_trans sooner (next.le inside otherAwaits)
            · rw [if_neg sooner] at found
              obtain rfl := Option.some.inj found
              exact Or.inr ⟨next, fun _ => Nat.lt_of_not_le sooner⟩
      · rw [List.filter_cons_of_neg candidate] at found
        exact Or.inr ⟨ih found, fun awaits =>
          absurd ((isCandidate_iff node first).mpr awaits) candidate⟩

theorem earliest_candidates_eq_some_iff (node : String) (pods : List Pod) (pod : Pod) :
    earliest (pods.filter (Pod.isCandidate node)) = some pod ↔ IsServedNext node pods pod := by
  refine ⟨isServedNext_of_earliest, fun next => ?_⟩
  cases found : earliest (pods.filter (Pod.isCandidate node)) with
  | none =>
      have idle := (earliest_candidates_eq_none_iff node pods).mp found
      exact absurd next.awaits (idle pod next.mem)
  | some other => rw [next.unique (isServedNext_of_earliest found)]

theorem selectPending_eq_some_iff (node : String) (pods : List Pod) (pending : PendingPod) :
    selectPending pods node = some pending ↔
      ∃ pod, IsServedNext node pods pod ∧ pod.pending = pending := by
  simp only [selectPending, Option.map_eq_some_iff, earliest_candidates_eq_some_iff]

theorem selectPending_eq_none_iff (node : String) (pods : List Pod) :
    selectPending pods node = none ↔ ∀ pod ∈ pods, ¬ pod.AwaitsDevices node := by
  rw [selectPending, Option.map_eq_none_iff, earliest_candidates_eq_none_iff]

/-! ### Other lists -/

/-- Whether two lists differ in pods only that do not wait for devices of a node: some may be
inserted, and some removed, anywhere. -/
inductive DifferInIdlePods (node : String) : List Pod → List Pod → Prop
  | nil : DifferInIdlePods node [] []
  | keep (pod : Pod) {pods others : List Pod} (rest : DifferInIdlePods node pods others) :
      DifferInIdlePods node (pod :: pods) (pod :: others)
  | insert {idle : Pod} (idles : ¬ idle.AwaitsDevices node) {pods others : List Pod}
      (rest : DifferInIdlePods node pods others) : DifferInIdlePods node pods (idle :: others)
  | remove {idle : Pod} (idles : ¬ idle.AwaitsDevices node) {pods others : List Pod}
      (rest : DifferInIdlePods node pods others) : DifferInIdlePods node (idle :: pods) others

theorem DifferInIdlePods.filter (differ : DifferInIdlePods node pods others) :
    others.filter (Pod.isCandidate node) = pods.filter (Pod.isCandidate node) := by
  induction differ with
  | nil => rfl
  | keep pod rest ih => rw [List.filter_cons, List.filter_cons, ih]
  | insert idles rest ih =>
      rwa [List.filter_cons_of_neg fun candidate => idles ((isCandidate_iff node _).mp candidate)]
  | remove idles rest ih =>
      rwa [List.filter_cons_of_neg fun candidate => idles ((isCandidate_iff node _).mp candidate)]

def HaveDistinctTimes (node : String) (pods : List Pod) : Prop :=
  pods.Pairwise fun pod other => pod.AwaitsDevices node → other.AwaitsDevices node →
    pod.effectiveBindTime ≠ other.effectiveBindTime

theorem HaveDistinctTimes.of_perm (distinct : HaveDistinctTimes node pods)
    (perm : others.Perm pods) : HaveDistinctTimes node others := by
  refine perm.symm.pairwise distinct ?_
  intro pod other differ otherAwaits podAwaits same
  exact differ podAwaits otherAwaits same.symm

theorem IsServedNext.of_perm (next : IsServedNext node pods pod)
    (distinct : HaveDistinctTimes node pods) (perm : others.Perm pods) :
    IsServedNext node others pod := by
  obtain ⟨front, back, rfl⟩ := List.append_of_mem (perm.mem_iff.mpr next.mem)
  have differ := (List.pairwise_append.mp (distinct.of_perm perm)).2.2
  refine ⟨front, back, rfl, next.awaits, ?_, ?_⟩
  · intro other early awaits
    have least := next.le (perm.mem_iff.mp (List.mem_append_left _ early)) awaits
    exact Nat.lt_of_le_of_ne least
      (differ other early pod List.mem_cons_self awaits next.awaits).symm
  · intro other late awaits
    have inside := List.mem_append_right front (List.mem_cons_of_mem pod late)
    exact next.le (perm.mem_iff.mp inside) awaits

theorem selectPending_perm (distinct : HaveDistinctTimes node pods) (perm : others.Perm pods) :
    selectPending others node = selectPending pods node := by
  cases selected : selectPending pods node with
  | none =>
      rw [selectPending_eq_none_iff] at selected ⊢
      exact fun pod inside => selected pod (perm.mem_iff.mp inside)
  | some pending =>
      rw [selectPending_eq_some_iff] at selected ⊢
      obtain ⟨pod, next, same⟩ := selected
      exact ⟨pod, next.of_perm distinct perm, same⟩

/-- The pod that is served next is the candidate that was bound first.  A bind time is a number of
64 bits, and any other text or none counts as the latest of these; candidates of one time come as
they are listed.  Pods that are no candidates do not matter, and neither does the order of the
list if no two candidates were bound at one time. -/
theorem pending_pod_is_first_bound (pods : List Pod) (node : String) :
    (∀ pod : Pod,
      (∀ time, pod.annotations.TellBindTime time → pod.effectiveBindTime = time) ∧
      ((∀ time, ¬ pod.annotations.TellBindTime time) → pod.effectiveBindTime = latestBindTime)) ∧
    (selectPending pods node = none ↔ ∀ pod ∈ pods, ¬ pod.AwaitsDevices node) ∧
    (∀ pending, selectPending pods node = some pending ↔ ∃ pod, IsServedNext node pods pod ∧
      pending = ⟨pod.namespaceName.getD "", pod.name.getD "", pod.annotations⟩) ∧
    (∀ others, DifferInIdlePods node pods others →
      selectPending others node = selectPending pods node) ∧
    ∀ others, others.Perm pods → HaveDistinctTimes node pods →
      selectPending others node = selectPending pods node := by
  refine ⟨fun pod => ⟨?_, ?_⟩, selectPending_eq_none_iff node pods, fun pending => ?_, ?_, ?_⟩
  · exact fun time told => effectiveBindTime_of_told told
  · exact effectiveBindTime_of_untold
  · rw [selectPending_eq_some_iff]
    exact exists_congr fun pod => and_congr_right fun _ => eq_comm
  · intro others differ
    rw [selectPending, selectPending, differ.filter]
  · exact fun others perm distinct => selectPending_perm distinct perm

private def boundAt (name time : String) : Pod :=
  ⟨some "default", some name,
    [("vnpu.io/assigned-node", "node-a"), ("vnpu.io/bind-phase", "allocating"),
      ("vnpu.io/bind-time", time)]⟩

private def nameless : Pod := ⟨none, none, []⟩

/-- Three candidates; the time of the last is larger than a number of 64 bits. -/
private def boundPods : List Pod :=
  [boundAt "late" "200", boundAt "signed" "+007", boundAt "overflowing" "18446744073709551616"]

theorem first_bound_of_three :
    HaveDistinctTimes "node-a" boundPods ∧
    DifferInIdlePods "node-a" boundPods (nameless :: boundPods) ∧
    (boundAt "signed" "+007").annotations.TellBindTime 7 ∧
    (boundAt "signed" "+007").effectiveBindTime = 7 ∧
    selectPending boundPods "node-a" = some (boundAt "signed" "+007").pending ∧
    selectPending (nameless :: boundPods) "node-a" = selectPending boundPods "node-a" ∧
    selectPending boundPods.reverse "node-a" = selectPending boundPods "node-a" := by
  obtain ⟨times, _, selected, unmoved, reordered⟩ :=
    pending_pod_is_first_bound boundPods "node-a"
  have distinct : HaveDistinctTimes "node-a" boundPods := by
    have different : boundPods.Pairwise fun pod other =>
        pod.effectiveBindTime ≠ other.effectiveBindTime := by decide
    exact different.imp fun differ _ _ => differ
  have differ : DifferInIdlePods "node-a" boundPods (nameless :: boundPods) := by
    refine .insert (fun awaits => ?_) (.keep _ (.keep _ (.keep _ .nil)))
    cases awaits.phase
  have told : (boundAt "signed" "+007").annotations.TellBindTime 7 :=
    ⟨"+007", rfl, by decide, ['+'], 2, Or.inr rfl, by decide⟩
  have next : IsServedNext "node-a" boundPods (boundAt "signed" "+007") := by
    refine ⟨[boundAt "late" "200"], [boundAt "overflowing" "18446744073709551616"], rfl,
      ⟨rfl, rfl⟩, ?_, ?_⟩
    · intro other inside _
      rw [List.mem_singleton.mp inside]
      decide
    · intro other inside _
      rw [List.mem_singleton.mp inside]
      decide
  refine ⟨distinct, differ, told, (times _).1 7 told, (selected _).mpr ⟨_, next, rfl⟩,
    unmoved _ differ, reordered _ (List.reverse_perm _) distinct⟩

/-! ### Candidates without a time -/

theorem IsServedNext.tells_iff (next : IsServedNext node pods pod) :
    (∃ time, pod.annotations.TellBindTime time) ↔
      (∃ other ∈ pods, other.AwaitsDevices node ∧
        ∃ time < latestBindTime, other.annotations.TellBindTime time) ∨
      ∃ first, pods.find? (Pod.isCandidate node) = some first ∧
        ∃ time, first.annotations.TellBindTime time := by
  constructor
  · rintro ⟨time, told⟩
    have effective := effectiveBindTime_of_told told
    rcases Nat.lt_or_ge time latestBindTime with early | latest
    · exact Or.inl ⟨pod, next.mem, next.awaits, time, early, told⟩
    · obtain ⟨front, back, rfl, awaits, before, _⟩ := next
      refine Or.inr ⟨pod, ?_, time, told⟩
      -- a candidate in front of the pod would have to be bound after the latest time
      have unwanted : ∀ other ∈ front, ¬ other.isCandidate node = true := by
        intro other inside candidate
        have later := before other inside ((isCandidate_iff node other).mp candidate)
        have bound := effectiveBindTime_le other
        omega
      have here := (isCandidate_iff node pod).mpr awaits
      rw [List.find?_append, List.find?_eq_none.mpr unwanted, Option.none_or,
        List.find?_cons_of_pos here]
  · intro told
    by_contra untold
    have effective := effectiveBindTime_of_untold (not_exists.mp untold)
    rcases told with ⟨other, inside, awaits, time, early, tells⟩ | ⟨first, found, time, tells⟩
    · have least := next.le inside awaits
      rw [effective, effectiveBindTime_of_told tells] at least
      omega
    · obtain ⟨front, back, rfl, awaits, before, _⟩ := next
      rw [List.find?_append] at found
      cases early : front.find? (Pod.isCandidate node) with
      | some other =>
          have later := before other (List.mem_of_find?_eq_some early)
            ((isCandidate_iff node other).mp (List.find?_some early))
          have bound := effectiveBindTime_le other
          omega
      | none =>
          rw [early, Option.none_or,
            List.find?_cons_of_pos ((isCandidate_iff node pod).mpr awaits)] at found
          obtain rfl := Option.some.inj found
          exact untold ⟨time, tells⟩

/-- Where a candidate tells its time one is served, and it tells its time as well if a candidate
was bound before the latest time or the first candidate of the list tells its time.  Otherwise a
candidate without a time is preferred to those of the latest time behind it. -/
theorem selected_tells_time_iff (pods : List Pod) (node : String)
    (told : ∃ pod ∈ pods, pod.AwaitsDevices node ∧ ∃ time, pod.annotations.TellBindTime time) :
    ∃ pending, selectPending pods node = some pending ∧
      ((∃ time, pending.annotations.TellBindTime time) ↔
        (∃ pod ∈ pods, pod.AwaitsDevices node ∧
          ∃ time < latestBindTime, pod.annotations.TellBindTime time) ∨
        ∃ first, pods.find? (Pod.isCandidate node) = some first ∧
          ∃ time, first.annotations.TellBindTime time) := by
  obtain ⟨candidate, inside, awaits, _⟩ := told
  cases selected : selectPending pods node with
  | none => exact absurd awaits ((selectPending_eq_none_iff node pods).mp selected candidate inside)
  | some pending =>
      obtain ⟨pod, next, rfl⟩ := (selectPending_eq_some_iff node pods pending).mp selected
      exact ⟨pod.pending, rfl, next.tells_iff⟩

private def garbled : Pod := boundAt "garbled" "not-a-number"

theorem untold_garbled (time : Nat) : ¬ garbled.annotations.TellBindTime time := by
  rintro ⟨text, found, written⟩
  have read := (Text.readUnsigned64_eq_ok_iff text time).mpr written
  cases Option.some.inj found
  cases read

theorem timed_pod_selected :
    let pods := [garbled, boundAt "timed" "300"]
    (∃ pod ∈ pods, pod.AwaitsDevices "node-a" ∧ ∃ time, pod.annotations.TellBindTime time) ∧
    ∃ pending, selectPending pods "node-a" = some pending ∧
      ∃ time, pending.annotations.TellBindTime time := by
  intro pods
  have tells : (boundAt "timed" "300").annotations.TellBindTime 300 :=
    ⟨"300", rfl, by decide, [], 0, Or.inl rfl, by decide⟩
  have inside : boundAt "timed" "300" ∈ pods := List.mem_cons_of_mem _ List.mem_cons_self
  have told : ∃ pod ∈ pods, pod.AwaitsDevices "node-a" ∧
      ∃ time, pod.annotations.TellBindTime time := ⟨_, inside, ⟨rfl, rfl⟩, 300, tells⟩
  obtain ⟨pending, selected, iff⟩ := selected_tells_time_iff pods "node-a" told
  exact ⟨told, pending, selected,
    iff.mpr (Or.inl ⟨_, inside, ⟨rfl, rfl⟩, 300, by decide, tells⟩)⟩

/-- A candidate tells the time at which it was bound, and one without a time is selected. -/
theorem garbled_pod_selected :
    let pods := [garbled, boundAt "timed" "18446744073709551615"]
    (∃ pod ∈ pods, pod.AwaitsDevices "node-a" ∧ ∃ time, pod.annotations.TellBindTime time) ∧
    selectPending pods "node-a" = some garbled.pending ∧
    ∀ time, ¬ garbled.pending.annotations.TellBindTime time := by
  intro pods
  refine ⟨⟨boundAt "timed" "18446744073709551615", List.mem_cons_of_mem _ List.mem_cons_self,
    ⟨rfl, rfl⟩, latestBindTime, ?_⟩, by decide, untold_garbled⟩
  exact ⟨"18446744073709551615", rfl, by decide, [], 0, Or.inl rfl, by decide⟩

end Cluster
end VirtualNpu
