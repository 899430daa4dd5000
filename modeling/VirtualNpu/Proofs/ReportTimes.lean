import VirtualNpu.Node.Timetable
import VirtualNpu.Proofs.RegistrationView
import VirtualNpu.Proofs.ReporterSurvival

/-!
The timetable of a reporter.  From its start to its stop it reports exactly when it is due,
whatever the provider and the cluster answer, and each time it hands over one publication at
most.
-/

namespace VirtualNpu

variable {σ κ : Type}

namespace Cluster

theorem keys_nodeAnnotations (inventory : Inventory) (handshake : String) :
    (Registration.nodeAnnotations inventory handshake).keys =
      [nodeHandshake inventory.family.commonWord, nodeRegister inventory.family.commonWord] := by
  rw [Registration.nodeAnnotations_eq]
  rfl

end Cluster

namespace Kubelet

open Cluster (Client Entry Ledger)

theorem Progress.advance_entered (client : Client κ) (inventory : Inventory) (node : String)
    (progress : Progress) (ledger : Ledger κ) :
    ∃ new, (progress.advance client.withLedger inventory node ledger).2.entries =
        ledger.entries ++ new ∧ ∀ entry ∈ new, entry.caller = ledger.caller := by
  cases progress with
  | lookup containers =>
      refine ⟨[⟨ledger.caller, .pendingPod node,
        Cluster.foundPod? (client.pendingPod node ledger.cluster).1⟩], ?_, by simp⟩
      simp only [Progress.advance, Client.withLedger, Ledger.enter]
      rcases client.pendingPod node ledger.cluster with ⟨error | _ | pod, after⟩ <;> rfl
  | record pod outcome => exact ⟨_, rfl, by simp⟩
  | release outcome => exact ⟨_, rfl, by simp⟩
  | done outcome => exact ⟨[], (List.append_nil _).symm, by simp⟩

end Kubelet

structure Registration.Intervals.ArePositive (intervals : Registration.Intervals) : Prop where
  initial : 0 < intervals.initial
  steady : 0 < intervals.steady
  onError : 0 < intervals.onError

namespace Node

open Cluster (Ledger)
open Registration (Intervals Reporter)

/-! ### One report -/

/-- What a report may have entered: nothing if it failed at its poll or its refresh, and one
publication with the two annotations of the family if it came that far. -/
inductive Tick.IsReport (name commonWord : String) : Tick → Prop
  | refused (time : Nat) {error : Registration.Error}
      (early : error = .poll ∨ error = .refresh) : IsReport name commonWord ⟨time, .failed error, []⟩
  | handed (time : Nat) {outcome : Registration.Outcome} {annotations : Cluster.Annotations}
      (ended : outcome = .published ∨ outcome = .failed .publish)
      (keys : annotations.keys =
        [Cluster.nodeHandshake commonWord, Cluster.nodeRegister commonWord]) :
      IsReport name commonWord
        ⟨time, outcome, [⟨.reporter, .patchNodeAnnotations name annotations, none⟩]⟩

theorem tickOn_of_entered (world : World σ κ) (reporter : Reporter) (node : Node σ (Ledger κ))
    {new : List Cluster.Entry}
    (entered : (node.made world reporter).2.cluster.entries = node.state.cluster.entries ++ new) :
    node.tickOn world reporter = ⟨reporter.due, (node.made world reporter).1, new⟩ := by
  have kept : (node.reportOn world reporter).state.cluster.entries =
      node.state.cluster.entries ++ new := entered
  unfold tickOn
  rw [kept, List.drop_left]
  rfl

theorem tickOn_isReport (world : World σ κ) (reporter : Reporter) (node : Node σ (Ledger κ))
    (known : (world.handshake reporter.due reporter.offset).isSome) :
    (node.tickOn world reporter).IsReport node.name node.state.inventory.family.commonWord ∧
      (node.reportOn world reporter).state.cluster.entries =
        node.state.cluster.entries ++ (node.tickOn world reporter).entries := by
  obtain ⟨text, written⟩ := Option.isSome_iff_exists.mp known
  by_cases answered : Registration.Answered world.provider (node.timed world reporter).state
  · obtain ⟨devices, reached, comes⟩ := answered
    have made := made_of_comesToPublish world comes
    rw [written] at made
    have family : reached.inventory.family = node.state.inventory.family := by
      cases comes <;> rfl
    have entered : (node.made world reporter).2.cluster.entries = node.state.cluster.entries ++
        [⟨.reporter, .patchNodeAnnotations node.name
          (Registration.nodeAnnotations reached.inventory text), none⟩] := by
      rw [made, Registration.publish_entries, comes.cluster]
      rfl
    rw [tickOn_of_entered world reporter node entered]
    refine ⟨.handed reporter.due ?_ ?_, entered⟩
    · rw [made]
      exact Registration.publish_outcome world.client.withLedger node.name text reached
    · rw [← family]
      exact Cluster.keys_nodeAnnotations reached.inventory text
  · obtain ⟨⟨error, failed⟩, kept⟩ :
        (∃ error, (node.made world reporter).1 = .failed error) ∧
          (node.made world reporter).2.cluster = (node.timed world reporter).state.cluster :=
      Registration.report_unanswered _ _ _ answered
    have entered : (node.made world reporter).2.cluster.entries =
        node.state.cluster.entries ++ [] := by
      rw [kept, List.append_nil]
      rfl
    have early : error = .poll ∨ error = .refresh := by
      cases error with
      | poll => exact Or.inl rfl
      | refresh => exact Or.inr rfl
      | publish =>
          -- it failed behind the provider's answers
          obtain ⟨devices, reached, comes, _⟩ :=
            Registration.comesToPublish_of_report world.provider world.client.withLedger node.name
              (world.handshake reporter.due reporter.offset) (node.timed world reporter).state
              (fun refused => by cases failed.symm.trans refused)
              (fun refused => by cases failed.symm.trans refused)
          exact absurd ⟨devices, reached, comes⟩ answered
    rw [tickOn_of_entered world reporter node entered, failed]
    exact ⟨.refused reporter.due early, entered⟩

/-! ### The timetable -/

def dueAfter (intervals : Intervals) (start : Nat) (made : List Tick) : Nat :=
  match made.getLast? with
  | none => start + intervals.initial
  | some tick =>
      tick.time + if tick.outcome = .published then intervals.steady else intervals.onError

def AreTimely (intervals : Intervals) (start : Nat) (made : List Tick) : Prop :=
  ∀ earlier tick later, made = earlier ++ tick :: later →
    tick.time = dueAfter intervals start earlier

theorem areTimely_nil (intervals : Intervals) (start : Nat) : AreTimely intervals start [] := by
  intro earlier tick later split
  cases earlier <;> cases split

theorem areTimely_concat {intervals : Intervals} {start : Nat} {made : List Tick} {tick : Tick}
    (timely : AreTimely intervals start made) (due : tick.time = dueAfter intervals start made) :
    AreTimely intervals start (made ++ [tick]) := by
  intro earlier other later split
  rcases List.eq_nil_or_concat later with rfl | ⟨front, last, rfl⟩
  · obtain ⟨rfl, rfl⟩ := List.append_inj' split rfl |>.imp id List.singleton_inj.mp
    exact due
  · rw [List.concat_eq_append, ← List.cons_append, ← List.append_assoc] at split
    exact timely earlier other front (List.append_inj' split rfl).1

theorem dueAfter_concat (intervals : Intervals) (start : Nat) (made : List Tick) (tick : Tick) :
    dueAfter intervals start (made ++ [tick]) =
      tick.time + if tick.outcome = .published then intervals.steady else intervals.onError := by
  rw [dueAfter, List.getLast?_concat]

/-- No report takes the reporter to its end, and the next comes after the delay that its outcome
asks for. -/
theorem Tick.IsReport.after {name commonWord : String} {tick : Tick}
    (report : tick.IsReport name commonWord) (intervals : Intervals) :
    intervals.after tick.outcome =
      some (if tick.outcome = .published then intervals.steady else intervals.onError) := by
  cases report with
  | refused time early => rfl
  | handed time ended keys =>
      rcases ended with rfl | rfl
      · rfl
      · rfl

/-! ### One report after another -/

structure OnTime (intervals : Intervals) (offset : Int) (first : Node σ (Ledger κ))
    (made : List Tick) (node : Node σ (Ledger κ)) : Prop where
  running : node.reporter = some ⟨intervals, offset, dueAfter intervals first.time made⟩
  ahead : node.time < dueAfter intervals first.time made
  named : node.name = first.name
  family : node.state.inventory.family = first.state.inventory.family
  timely : AreTimely intervals first.time made
  past : ∀ tick ∈ made, tick.time ≤ node.time
  reports : ∀ tick ∈ made, tick.IsReport first.name first.state.inventory.family.commonWord
  entered : node.reporterEntries = first.reporterEntries ++ made.flatMap Tick.entries

theorem Tick.IsReport.callers {name commonWord : String} {tick : Tick}
    (report : tick.IsReport name commonWord) :
    tick.entries.filter (fun entry => entry.caller = .reporter) = tick.entries := by
  cases report with
  | refused time early => rfl
  | handed time ended keys => rfl

theorem reportOn_family (world : World σ κ) (reporter : Reporter) (node : Node σ (Ledger κ)) :
    (node.reportOn world reporter).state.inventory.family = node.state.inventory.family :=
  (Registration.report_effect world.provider world.client.withLedger node.name
    (world.handshake reporter.due reporter.offset) (node.timed world reporter).state).1.family

section
variable {intervals : Intervals} {offset : Int} {first node : Node σ (Ledger κ)}
  {made : List Tick}

theorem onTime_report (world : World σ κ) (positive : intervals.ArePositive)
    (onTime : OnTime intervals offset first made node)
    (known : (world.handshake (dueAfter intervals first.time made) offset).isSome) :
    let reporter : Reporter := ⟨intervals, offset, dueAfter intervals first.time made⟩
    OnTime intervals offset first (made ++ [node.tickOn world reporter])
      (node.reportOn world reporter) := by
  intro reporter
  have time : (node.reportOn world reporter).time = reporter.due := rfl
  obtain ⟨report, entries⟩ := tickOn_isReport world reporter node known
  rw [onTime.named, onTime.family] at report
  have next : (node.reportOn world reporter).reporter =
      (intervals.after (node.tickOn world reporter).outcome).map fun delay =>
        { reporter with due := reporter.due + delay } := rfl
  refine ⟨?_, ?_, onTime.named, ?_, ?_, ?_, ?_, ?_⟩
  · rw [next, report.after, dueAfter_concat]
    rfl
  · rw [dueAfter_concat]
    have delayed : 0 < if (node.tickOn world reporter).outcome = .published then intervals.steady
        else intervals.onError := by
      split
      · exact positive.steady
      · exact positive.onError
    exact Nat.lt_add_of_pos_right delayed
  · exact (reportOn_family world reporter node).trans onTime.family
  · exact areTimely_concat onTime.timely rfl
  · intro tick inside
    rw [time]
    rcases List.mem_append.mp inside with old | new
    · exact Nat.le_trans (onTime.past tick old) (Nat.le_of_lt onTime.ahead)
    · rw [List.mem_singleton.mp new]
      exact Nat.le_refl _
  · intro tick inside
    rcases List.mem_append.mp inside with old | new
    · exact onTime.reports tick old
    · rw [List.mem_singleton.mp new]
      exact report
  · rw [reporterEntries, entries, List.filter_append, report.callers, List.flatMap_append,
      List.flatMap_singleton, ← List.append_assoc, ← onTime.entered]
    rfl

/-- The reports until a time are all that are due until then, if there is fuel for one in each
millisecond. -/
theorem onTime_runReporter (world : World σ κ) (positive : intervals.ArePositive)
    (target fuel : Nat) (onTime : OnTime intervals offset first made node)
    (known : ∀ tick ∈ ticksUntil world target fuel node,
      (world.handshake tick.time offset).isSome)
    (enough : target < dueAfter intervals first.time made + fuel) :
    let after := runReporter world.provider world.client.withLedger world.reporterClock
      world.handshake target fuel node
    let all := made ++ ticksUntil world target fuel node
    OnTime intervals offset first all after ∧ target < dueAfter intervals first.time all ∧
      ∀ tick ∈ ticksUntil world target fuel node, tick.time ≤ target := by
  induction fuel generalizing node made with
  | zero =>
      rw [ticksUntil, runReporter, List.append_nil]
      exact ⟨onTime, enough, fun tick inside => absurd inside List.not_mem_nil⟩
  | succ fuel ih =>
      rw [ticksUntil, onTime.running] at known ⊢
      rw [runReporter, onTime.running]
      dsimp only at known ⊢
      by_cases due : dueAfter intervals first.time made ≤ target
      · rw [if_pos due] at known ⊢
        rw [if_pos due]
        have reported := onTime_report world positive onTime (known _ List.mem_cons_self)
        obtain ⟨goesOn, beyond, within⟩ := ih reported
          (fun tick inside => known tick (List.mem_cons_of_mem _ inside))
          (by have next := reported.ahead
              change dueAfter intervals first.time made < _ at next
              omega)
        rw [List.append_assoc, List.singleton_append] at goesOn beyond
        refine ⟨goesOn, beyond, ?_⟩
        intro tick inside
        rcases List.mem_cons.mp inside with rfl | later
        · exact due
        · exact within tick later
      · rw [if_neg due, List.append_nil]
        rw [if_neg due]
        exact ⟨onTime, Nat.lt_of_not_le due, fun tick inside => absurd inside List.not_mem_nil⟩

/-! ### Turns -/

theorem onTime_wait (world : World σ κ) (positive : intervals.ArePositive) (milliseconds : Nat)
    {course : Course σ κ} (onTime : OnTime intervals offset first made course.node)
    (known : ∀ tick ∈ course.ticksIn world (.wait milliseconds),
      (world.handshake tick.time offset).isSome) :
    OnTime intervals offset first (made ++ course.ticksIn world (.wait milliseconds))
      (course.wait world milliseconds).node := by
  have ahead := onTime.ahead
  obtain ⟨ran, beyond, within⟩ := onTime_runReporter world positive
    (course.node.time + milliseconds) (milliseconds + 1) onTime known (by omega)
  refine ⟨ran.running, beyond, ran.named, ran.family, ran.timely, ?_, ran.reports, ran.entered⟩
  intro tick inside
  change tick.time ≤ course.node.time + milliseconds
  rcases List.mem_append.mp inside with old | new
  · exact Nat.le_trans (onTime.past tick old) (Nat.le_add_right _ _)
  · exact within tick new

end

def Move.LeavesReporter : Move σ κ → Prop
  | .startReporter _ _ => False
  | .stopReporter => False
  | .tick => False
  | .publish _ => False
  | _ => True

def Turn.LeavesReporter : Turn σ κ → Prop
  | .wait _ => True
  | .act move => move.LeavesReporter

structure SameToReporter (before after : Node σ (Ledger κ)) : Prop where
  reporter : after.reporter = before.reporter
  time : after.time = before.time
  name : after.name = before.name
  family : after.state.inventory.family = before.state.inventory.family
  entered : after.reporterEntries = before.reporterEntries

theorem step_sameToReporter (world : World σ κ) (course : Course σ κ) (move : Move σ κ)
    (leaves : move.LeavesReporter) : SameToReporter course.node (course.step world move).node := by
  cases move with
  | startReporter | stopReporter | tick | publish => exact leaves.elim
  | refresh =>
      simp only [Course.step, Node.refresh]
      split
      · rename_i inventory after refreshed
        exact ⟨rfl, rfl, rfl, Inventory.refresh_family _ _ _ _ _ refreshed, rfl⟩
      · exact ⟨rfl, rfl, rfl, rfl, rfl⟩
  | read number =>
      simp only [Course.step, Node.read]
      cases course.node.watches[number]? <;> exact ⟨rfl, rfl, rfl, rfl, rfl⟩
  | depart number =>
      simp only [Course.step, Node.depart]
      cases course.node.watches[number]? <;> exact ⟨rfl, rfl, rfl, rfl, rfl⟩
  | allocate number =>
      simp only [Course.step, Course.advance]
      split
      · exact ⟨rfl, rfl, rfl, rfl, rfl⟩
      · rename_i progress asked
        refine ⟨rfl, rfl, rfl, rfl, ?_⟩
        obtain ⟨new, entries, callers⟩ := progress.advance_entered world.client
          course.node.state.inventory course.node.name
          (course.ledger.inHandsOf (.allocation number))
        have others : new.filter (fun entry => entry.caller = .reporter) = [] := by
          apply List.filter_eq_nil_iff.mpr
          intro entry inside
          simp [callers entry inside, Ledger.inHandsOf]
        change List.filter _ (Ledger.entries (Prod.snd _)) = _
        rw [entries, List.filter_append, others, List.append_nil]
        rfl
  | _ => exact ⟨rfl, rfl, rfl, rfl, rfl⟩

theorem OnTime.of_sameToReporter {intervals : Intervals} {offset : Int}
    {first before after : Node σ (Ledger κ)} {made : List Tick}
    (onTime : OnTime intervals offset first made before) (same : SameToReporter before after) :
    OnTime intervals offset first made after where
  running := same.reporter.trans onTime.running
  ahead := same.time ▸ onTime.ahead
  named := same.name.trans onTime.named
  family := same.family.trans onTime.family
  timely := onTime.timely
  past := same.time ▸ onTime.past
  reports := onTime.reports
  entered := same.entered.trans onTime.entered

theorem onTime_takeAll (world : World σ κ) {intervals : Intervals} {offset : Int}
    (positive : intervals.ArePositive) (turns : List (Turn σ κ)) {first : Node σ (Ledger κ)}
    {course : Course σ κ} {made : List Tick}
    (onTime : OnTime intervals offset first made course.node)
    (leave : ∀ turn ∈ turns, turn.LeavesReporter)
    (known : ∀ tick ∈ course.ticks world turns, (world.handshake tick.time offset).isSome) :
    OnTime intervals offset first (made ++ course.ticks world turns)
      (course.takeAll world turns).node := by
  -- what one turn makes is noted behind what was made before it
  induction turns generalizing course made with
  | nil =>
      rw [Course.ticks, List.append_nil]
      exact onTime
  | cons turn turns ih =>
      rw [Course.ticks] at known ⊢
      rw [← List.append_assoc]
      refine ih ?_ (fun next inside => leave next (List.mem_cons_of_mem _ inside))
        (fun tick inside => known tick (List.mem_append_right _ inside))
      have first := leave turn List.mem_cons_self
      cases turn with
      | wait milliseconds =>
          exact onTime_wait world positive milliseconds onTime
            (fun tick inside => known tick (List.mem_append_left _ inside))
      | act move =>
          rw [Course.ticksIn, List.append_nil]
          exact onTime.of_sameToReporter (step_sameToReporter world course move first)

/-! ### After a stop -/

theorem ticksUntil_ended (world : World σ κ) (target fuel : Nat) {node : Node σ (Ledger κ)}
    (ended : node.reporter = none) : ticksUntil world target fuel node = [] := by
  cases fuel with
  | zero => rfl
  | succ fuel => rw [ticksUntil, ended]

theorem runReporter_ended (provider : Inventory.Provider σ) (client : Cluster.Client κ)
    (clock : Nat → κ → κ) (handshake : Nat → Int → Option String) (target fuel : Nat)
    {node : Node σ κ} (ended : node.reporter = none) :
    runReporter provider client clock handshake target fuel node = node := by
  cases fuel with
  | zero => rfl
  | succ fuel => rw [runReporter, ended]

theorem wait_ended (world : World σ κ) (milliseconds : Nat) {course : Course σ κ}
    (ended : course.node.reporter = none) :
    course.ticksIn world (.wait milliseconds) = [] ∧
      (course.wait world milliseconds).node.reporter = none ∧
      (course.wait world milliseconds).node.reporterEntries = course.node.reporterEntries := by
  refine ⟨ticksUntil_ended world _ _ ended, ?_⟩
  unfold Course.wait advance
  dsimp only
  rw [runReporter_ended _ _ _ _ _ _ ended]
  exact ⟨ended, rfl⟩

theorem takeAll_ended (world : World σ κ) (turns : List (Turn σ κ)) {course : Course σ κ}
    (leave : ∀ turn ∈ turns, turn.LeavesReporter) (ended : course.node.reporter = none) :
    course.ticks world turns = [] ∧
      (course.takeAll world turns).node.reporterEntries = course.node.reporterEntries := by
  induction turns generalizing course with
  | nil => exact ⟨rfl, rfl⟩
  | cons turn turns ih =>
      have first := leave turn List.mem_cons_self
      obtain ⟨silent, still, entered⟩ :
          course.ticksIn world turn = [] ∧ (course.take world turn).node.reporter = none ∧
            (course.take world turn).node.reporterEntries = course.node.reporterEntries := by
        cases turn with
        | wait milliseconds => exact wait_ended world milliseconds ended
        | act move =>
            have same := step_sameToReporter world course move first
            exact ⟨rfl, same.reporter.trans ended, same.entered⟩
      obtain ⟨none, kept⟩ := ih (fun next inside => leave next (List.mem_cons_of_mem _ inside)) still
      rw [Course.ticks, silent, none]
      exact ⟨rfl, kept.trans entered⟩

/-- A reporter with positive delays reports at its first delay after the start, and from then on
at the steady delay after a report that has succeeded and at the other after one that has failed,
as long as its handshakes are known.  However the time passes, all that is due by the clock has
been made and nothing else; after a stop nothing is made and nothing is entered. -/
theorem reports_when_due (world : World σ κ) (course : Course σ κ) (intervals : Intervals)
    (offset : Int) (turns rest : List (Turn σ κ)) :
    let started := course.step world (.startReporter intervals offset)
    let made := started.ticks world turns
    let after := started.takeAll world turns
    let stopped := after.step world .stopReporter
    intervals.ArePositive → (∀ turn ∈ turns ++ rest, turn.LeavesReporter) →
    (∀ tick ∈ made, (world.handshake tick.time offset).isSome) →
    OnTime intervals offset course.node made after.node ∧
      stopped.ticks world rest = [] ∧
      (stopped.takeAll world rest).node.reporterEntries = after.node.reporterEntries := by
  intro started made after stopped positive leave known
  have begun : OnTime intervals offset course.node [] started.node := by
    refine ⟨rfl, Nat.lt_add_of_pos_right positive.initial, rfl, rfl, areTimely_nil _ _, ?_, ?_,
      (List.append_nil _).symm⟩
    · exact fun tick inside => absurd inside List.not_mem_nil
    · exact fun tick inside => absurd inside List.not_mem_nil
  refine ⟨onTime_takeAll world positive turns begun ?_ known, takeAll_ended world rest ?_ rfl⟩
  · exact fun turn inside => leave turn (List.mem_append_left _ inside)
  · exact fun turn inside => leave turn (List.mem_append_right _ inside)

private def wallWorld : World Inventory.Script Cluster.Stage :=
  ⟨Inventory.scripted, Cluster.staged, fun time stage => { stage with time },
    fun time offset => Registration.handshake? (1767225600 + time / 1000) 3600 offset⟩

private def idleNode : Course Inventory.Script Cluster.Stage :=
  Course.start "node-a" (.empty ⟨"910B3", "Ascend910B3", "npu", 65536, 65536, 20, none, []⟩) 0
    (.quiet "910B3") .empty

/-- The provider fails after the first report, and the cluster after the second. -/
private def hardTimes : List (Turn Inventory.Script Cluster.Stage) :=
  [.wait 6, .wait 6,
    .act (.provider fun script => { script with failEnumerate := true }), .wait 50,
    .act (.provider fun script => { script with failEnumerate := false }),
    .act (.cluster fun stage => stage.fail .publish true), .wait 20,
    .act (.cluster fun stage => stage.fail .publish false), .wait 20]

theorem four_reports_in_hard_times :
    let started := idleNode.step wallWorld (.startReporter ⟨10, 50, 20⟩ 45)
    let made := started.ticks wallWorld hardTimes
    let after := started.takeAll wallWorld hardTimes
    made.map Tick.time = [10, 60, 80, 100] ∧
      made.map Tick.outcome = [.published, .failed .poll, .failed .publish, .published] ∧
      AreTimely ⟨10, 50, 20⟩ 0 made ∧ after.node.time < dueAfter ⟨10, 50, 20⟩ 0 made ∧
      (after.step wallWorld .stopReporter).ticks wallWorld [.wait 200] = [] := by
  intro started made after
  have positive : (⟨10, 50, 20⟩ : Intervals).ArePositive := ⟨by decide, by decide, by decide⟩
  have leave : ∀ turn ∈ hardTimes ++ [.wait 200], turn.LeavesReporter := by
    simp only [hardTimes, List.cons_append, List.nil_append, List.forall_mem_cons]
    exact ⟨trivial, trivial, trivial, trivial, trivial, trivial, trivial, trivial, trivial,
      trivial, by simp⟩
  have known : ∀ tick ∈ made, (wallWorld.handshake tick.time 45).isSome := by
    apply List.all_eq_true.mp
    decide +kernel
  obtain ⟨onTime, silent, _⟩ := reports_when_due wallWorld idleNode ⟨10, 50, 20⟩ 45 hardTimes
    [.wait 200] positive leave known
  exact ⟨by decide +kernel, by decide +kernel, onTime.timely, onTime.ahead, silent⟩

end Node
end VirtualNpu
