import VirtualNpu.CommandLine.Invocation
import VirtualNpu.Proofs.HealthConvergence

/-!
What the reporter of a node survives.  Failures of the provider and of the cluster only bring
the next report nearer.  A handshake whose moment leaves the calendar ends the reporter with
nothing handed over, and nothing but that or a stop does.
-/

namespace VirtualNpu

variable {σ κ : Type}

namespace Registration

/-! ### Moments within reach -/

def InReach (now offset : Int) : Prop :=
  inCalendar now = true ∧ inCalendar (now + offset) = true

theorem not_inReach_of_long {offset : Int}
    (long : lastSecond - firstSecond < (offset.natAbs : Int)) (now : Int) :
    ¬ InReach now offset := by
  rintro ⟨before, after⟩
  simp only [inCalendar, Bool.and_eq_true, decide_eq_true_eq] at before after
  omega

theorem handshake?_of_inReach {now offset : Int} (zone : Int) (span : isSpan offset = true)
    (inReach : InReach now offset) :
    handshake? now zone offset =
      some ("Reported " ++ (CivilTime.ofSeconds (now + offset + zone)).render) := by
  simp only [handshake?, inReach.1, inReach.2, span, Bool.and_self, if_true]

theorem handshake?_of_not_inReach {now offset : Int} (zone : Int)
    (out : ¬ InReach now offset) : handshake? now zone offset = none := by
  unfold handshake?
  apply if_neg
  intro inside
  simp only [Bool.and_eq_true] at inside
  exact out ⟨inside.1.1, inside.2⟩

/-! ### Reports that come to publish -/

variable {provider : Inventory.Provider σ} {before : State σ κ}

/-- Whether a report gets the answers that it needs of the provider: to its poll and, if the
answer or the snapshot calls for one, to its refresh. -/
def Answered (provider : Inventory.Provider σ) (before : State σ κ) : Prop :=
  ∃ devices reached, ComesToPublish provider devices before reached

theorem ComesToPublish.report {devices : List (UInt32 × Inventory.RawDevice)}
    {reached : State σ κ} (comes : ComesToPublish provider devices before reached)
    (client : Cluster.Client κ) (node : String) (handshake : Option String) :
    report provider client node handshake before = publish client node handshake reached := by
  cases comes with
  | quiet asked reported known =>
      rw [Inventory.reportedUnhealthy] at reported
      simp only [Registration.report, Inventory.pollUnhealthy, asked, refreshUnhealthy, reported,
        known, List.isEmpty_nil, Bool.and_self, if_true]
  | refreshed asked seen listed =>
      rw [Inventory.reportedUnhealthy, ← isEmpty_and_iff] at seen
      simp only [Registration.report, Inventory.pollUnhealthy, asked, refreshUnhealthy,
        if_neg seen, Inventory.refresh, listed]

theorem publish_outcome (client : Cluster.Client κ) (node text : String) (state : State σ κ) :
    (publish client node (some text) state).1 = .published ∨
      (publish client node (some text) state).1 = .failed .publish := by
  unfold publish
  dsimp only
  split
  · exact Or.inl rfl
  · exact Or.inr rfl

theorem report_unanswered (client : Cluster.Client κ) (node : String)
    (handshake : Option String) (unanswered : ¬ Answered provider before) :
    (∃ error, (report provider client node handshake before).1 = .failed error) ∧
      (report provider client node handshake before).2.cluster = before.cluster := by
  unfold report
  rcases asked : Inventory.pollUnhealthy provider before.provider with ⟨failure | polled, between⟩
  · exact ⟨⟨.poll, rfl⟩, rfl⟩
  · have effect := (refreshUnhealthy_effect provider polled { before with provider := between }).2
    dsimp only
    rcases refreshed : refreshUnhealthy provider polled { before with provider := between } with
      ⟨error | done, reached⟩
    · rw [refreshed] at effect
      exact ⟨⟨error, rfl⟩, effect⟩
    · -- without a handshake the same report would come to publish
      have crashed : (report provider client node none before).1 = .crashed := by
        simp only [report, asked, refreshed]
        rfl
      obtain ⟨devices, reached, comes, _⟩ :=
        comesToPublish_of_report provider client node none before
          (fun refused => Outcome.noConfusion (crashed.symm.trans refused))
          (fun refused => Outcome.noConfusion (crashed.symm.trans refused))
      exact absurd ⟨devices, reached, comes⟩ unanswered

end Registration

namespace Node

open Cluster (Ledger)

/-! ### One report -/

/-- Whether the handshakes of a world are those of a clock, with its moments in seconds and its
distance from UTC at each time. -/
def HasClock (world : World σ κ) (now zone : Nat → Int) : Prop :=
  ∀ time offset,
    world.handshake time offset = Registration.handshake? (now time) (zone time) offset

/-- What a report that is due comes to.  Only with the provider's answers and a handshake within
reach it is handed over, and without such a handshake the reporter is gone. -/
structure Reports (world : World σ κ) (now zone : Nat → Int) (reporter : Registration.Reporter)
    (before after : Course σ κ) : Prop where
  refused : ¬ Registration.Answered world.provider (before.node.timed world reporter).state →
    (∃ error, (before.node.made world reporter).1 = .failed error) ∧
      after.ledger.entries = before.ledger.entries ∧
      after.node.reporter =
        some { reporter with due := reporter.due + reporter.intervals.onError }
  handed : ∀ devices reached,
    Registration.ComesToPublish world.provider devices (before.node.timed world reporter).state
      reached →
    Registration.InReach (now reporter.due) reporter.offset →
    let shown := Registration.CivilTime.ofSeconds
      (now reporter.due + reporter.offset + zone reporter.due)
    after.ledger.entries = before.ledger.entries ++
        [⟨.reporter, .patchNodeAnnotations before.node.name
          (Registration.nodeAnnotations reached.inventory ("Reported " ++ shown.render)), none⟩] ∧
      ((before.node.made world reporter).1 = .published ∧
          after.node.reporter =
            some { reporter with due := reporter.due + reporter.intervals.steady } ∨
        (before.node.made world reporter).1 = .failed .publish ∧
          after.node.reporter =
            some { reporter with due := reporter.due + reporter.intervals.onError })
  lost : Registration.Answered world.provider (before.node.timed world reporter).state →
    ¬ Registration.InReach (now reporter.due) reporter.offset →
    (before.node.made world reporter).1 = .crashed ∧
      after.ledger.entries = before.ledger.entries ∧ after.node.reporter = none

theorem tick_made (world : World σ κ) {reporter : Registration.Reporter} {course : Course σ κ}
    (running : course.node.reporter = some reporter) :
    (course.step world .tick).ledger = (course.node.made world reporter).2.cluster ∧
      (course.step world .tick).node.reporter =
        (reporter.intervals.after (course.node.made world reporter).1).map fun delay =>
          { reporter with due := reporter.due + delay } := by
  change (course.node.reportMove world).state.cluster = _ ∧
    (course.node.reportMove world).reporter = _
  unfold reportMove
  rw [running]
  exact ⟨rfl, rfl⟩

theorem made_of_comesToPublish (world : World σ κ) {reporter : Registration.Reporter}
    {node : Node σ (Ledger κ)} {devices : List (UInt32 × Inventory.RawDevice)}
    {reached : Registration.State σ (Ledger κ)}
    (comes : Registration.ComesToPublish world.provider devices (node.timed world reporter).state
      reached) :
    node.made world reporter = Registration.publish world.client.withLedger node.name
      (world.handshake reporter.due reporter.offset) reached :=
  comes.report _ _ _

theorem reports_tick (world : World σ κ) {now zone : Nat → Int} (clock : HasClock world now zone)
    {reporter : Registration.Reporter} {course : Course σ κ}
    (running : course.node.reporter = some reporter)
    (span : Registration.isSpan reporter.offset = true) :
    Reports world now zone reporter course (course.step world .tick) := by
  obtain ⟨ledger, next⟩ := tick_made world running
  refine ⟨fun unanswered => ?_, fun devices reached comes inReach => ?_,
    fun answered out => ?_⟩
  · obtain ⟨⟨error, failed⟩, kept⟩ :
        (∃ error, (course.node.made world reporter).1 = .failed error) ∧
          (course.node.made world reporter).2.cluster =
            (course.node.timed world reporter).state.cluster :=
      Registration.report_unanswered _ _ _ unanswered
    rw [ledger, next, kept, failed]
    exact ⟨⟨error, rfl⟩, rfl, rfl⟩
  · have made := made_of_comesToPublish world comes
    rw [clock, Registration.handshake?_of_inReach (zone reporter.due) span inReach] at made
    refine ⟨?_, ?_⟩
    · rw [ledger, made, Registration.publish_entries, comes.cluster]
      rfl
    · rw [next, made]
      rcases Registration.publish_outcome world.client.withLedger course.node.name _ reached with
        published | failed
      · rw [published]
        exact Or.inl ⟨rfl, rfl⟩
      · rw [failed]
        exact Or.inr ⟨rfl, rfl⟩
  · obtain ⟨devices, reached, comes⟩ := answered
    have made := made_of_comesToPublish world comes
    rw [clock, Registration.handshake?_of_not_inReach (zone reporter.due) out] at made
    rw [ledger, next, made, Registration.publish_entries, comes.cluster]
    exact ⟨rfl, List.append_nil _, rfl⟩

/-! ### A whole run -/

def Move.KeepsReporter : Move σ κ → Prop
  | .startReporter _ _ => False
  | .stopReporter => False
  | _ => True

/-- Whether a move is a report whose handshake is out of reach when it comes to publish. -/
def LosesHandshake (world : World σ κ) (now : Nat → Int) (course : Course σ κ) :
    Move σ κ → Prop
  | .tick => ∃ reporter, course.node.reporter = some reporter ∧
      Registration.Answered world.provider (course.node.timed world reporter).state ∧
      ¬ Registration.InReach (now reporter.due) reporter.offset
  | _ => False

def HandshakeLost (world : World σ κ) (now : Nat → Int) : Course σ κ → List (Move σ κ) → Prop
  | _, [] => False
  | course, move :: moves =>
      LosesHandshake world now course move ∨
        HandshakeLost world now (course.step world move) moves

theorem losesHandshake_tick_iff (world : World σ κ) (now : Nat → Int) {course : Course σ κ}
    {reporter : Registration.Reporter} (running : course.node.reporter = some reporter) :
    LosesHandshake world now course .tick ↔
      Registration.Answered world.provider (course.node.timed world reporter).state ∧
        ¬ Registration.InReach (now reporter.due) reporter.offset := by
  constructor
  · rintro ⟨_, same, answered, out⟩
    rw [running] at same
    cases same
    exact ⟨answered, out⟩
  · rintro ⟨answered, out⟩
    exact ⟨reporter, running, answered, out⟩

theorem step_reporter (world : World σ κ) (course : Course σ κ) (move : Move σ κ)
    (kept : move.KeepsReporter) (other : move ≠ .tick) :
    (course.step world move).node.reporter = course.node.reporter := by
  cases move with
  | startReporter intervals offset => exact kept.elim
  | stopReporter => exact kept.elim
  | tick => exact absurd rfl other
  | refresh =>
      simp only [Course.step, Node.refresh]
      split <;> rfl
  | read number =>
      simp only [Course.step, Node.read]
      cases course.node.watches[number]? <;> rfl
  | depart number =>
      simp only [Course.step, Node.depart]
      cases course.node.watches[number]? <;> rfl
  | allocate number =>
      simp only [Course.step, Course.advance]
      split <;> rfl
  | _ => rfl

theorem step_ended (world : World σ κ) (course : Course σ κ) (move : Move σ κ)
    (kept : move.KeepsReporter) (ended : course.node.reporter = none) :
    (course.step world move).node.reporter = none := by
  by_cases tick : move = .tick
  · subst tick
    change (course.node.reportMove world).reporter = none
    unfold reportMove
    rw [ended]
    exact ended
  · rw [step_reporter world course move kept tick, ended]

theorem run_ended_reporter (world : World σ κ) (moves : List (Move σ κ)) (course : Course σ κ)
    (kept : ∀ move ∈ moves, move.KeepsReporter) (ended : course.node.reporter = none) :
    (course.run world moves).node.reporter = none := by
  induction moves generalizing course with
  | nil => exact ended
  | cons move moves ih =>
      exact ih (course.step world move)
        (fun next inside => kept next (List.mem_cons_of_mem _ inside))
        (step_ended world course move (kept move List.mem_cons_self) ended)

theorem step_running (world : World σ κ) {now zone : Nat → Int} (clock : HasClock world now zone)
    {reporter : Registration.Reporter} {course : Course σ κ}
    (running : course.node.reporter = some reporter)
    (span : Registration.isSpan reporter.offset = true) (move : Move σ κ)
    (kept : move.KeepsReporter) :
    LosesHandshake world now course move ∧ (course.step world move).node.reporter = none ∨
      ¬ LosesHandshake world now course move ∧
        ∃ due, (course.step world move).node.reporter = some { reporter with due } := by
  by_cases tick : move = .tick
  · subst tick
    have reports := reports_tick world clock running span
    rw [losesHandshake_tick_iff world now running]
    by_cases answered :
        Registration.Answered world.provider (course.node.timed world reporter).state
    · by_cases inReach : Registration.InReach (now reporter.due) reporter.offset
      · refine Or.inr ⟨fun lost => lost.2 inReach, ?_⟩
        obtain ⟨devices, reached, comes⟩ := answered
        rcases (reports.handed devices reached comes inReach).2 with ⟨_, next⟩ | ⟨_, next⟩
        · exact ⟨_, next⟩
        · exact ⟨_, next⟩
      · exact Or.inl ⟨⟨answered, inReach⟩, (reports.lost answered inReach).2.2⟩
    · exact Or.inr ⟨fun lost => answered lost.1, _, (reports.refused answered).2.2⟩
  · refine Or.inr ⟨?_, reporter.due, ?_⟩
    · cases move with
      | tick => exact absurd rfl tick
      | _ => exact id
    · rw [step_reporter world course move kept tick, running]

theorem run_running (world : World σ κ) {now zone : Nat → Int} (clock : HasClock world now zone)
    (moves : List (Move σ κ)) {reporter : Registration.Reporter} {course : Course σ κ}
    (running : course.node.reporter = some reporter)
    (span : Registration.isSpan reporter.offset = true)
    (kept : ∀ move ∈ moves, move.KeepsReporter) :
    (HandshakeLost world now course moves → (course.run world moves).node.reporter = none) ∧
      (¬ HandshakeLost world now course moves →
        ∃ due, (course.run world moves).node.reporter = some { reporter with due }) := by
  -- a running reporter changes only the time at which it is due, so its offset stays a span
  induction moves generalizing course reporter with
  | nil => exact ⟨False.elim, fun _ => ⟨reporter.due, running⟩⟩
  | cons move moves ih =>
      have first := kept move List.mem_cons_self
      have rest : ∀ next ∈ moves, next.KeepsReporter :=
        fun next inside => kept next (List.mem_cons_of_mem _ inside)
      rcases step_running world clock running span move first with
        ⟨loses, ended⟩ | ⟨keeps, due, goesOn⟩
      · exact ⟨fun _ => run_ended_reporter world moves _ rest ended,
          fun keeps => absurd (Or.inl loses) keeps⟩
      · obtain ⟨lost, alive⟩ := ih goesOn span rest
        exact ⟨fun some => lost (some.resolve_left keeps),
          fun none => alive fun later => none (Or.inr later)⟩

theorem not_handshakeLost (world : World σ κ) {now zone : Nat → Int}
    (clock : HasClock world now zone) (moves : List (Move σ κ))
    {reporter : Registration.Reporter} {course : Course σ κ}
    (running : course.node.reporter = some reporter)
    (span : Registration.isSpan reporter.offset = true)
    (kept : ∀ move ∈ moves, move.KeepsReporter)
    (inReach : ∀ time, Registration.InReach (now time) reporter.offset) :
    ¬ HandshakeLost world now course moves := by
  induction moves generalizing course reporter with
  | nil => exact id
  | cons move moves ih =>
      rcases step_running world clock running span move (kept move List.mem_cons_self) with
        ⟨loses, _⟩ | ⟨keeps, due, goesOn⟩
      · cases move with
        | tick =>
            exact absurd (inReach _) ((losesHandshake_tick_iff world now running).mp loses).2
        | _ => exact loses.elim
      · rintro (loses | later)
        · exact keeps loses
        · exact ih goesOn span (fun next inside => kept next (List.mem_cons_of_mem _ inside))
            inReach later

/-- A reporter with an offset that the command line accepts goes on through every failure of the
provider and of the cluster, and hands over every report that has the provider's answers, until
such a report finds its handshake out of the calendar.  Then it ends, before any stop. -/
theorem reporter_ends_iff (world : World σ κ) (now zone : Nat → Int) (course : Course σ κ)
    (reporter : Registration.Reporter) (arguments : CommandLine.DaemonArguments) :
    HasClock world now zone → arguments.handshakeSpan? = some reporter.offset →
    course.node.reporter = some reporter →
    Reports world now zone reporter course (course.step world .tick) ∧
    (∀ moves : List (Move σ κ), (∀ move ∈ moves, move.KeepsReporter) →
      (HandshakeLost world now course moves → (course.run world moves).node.reporter = none) ∧
      (¬ HandshakeLost world now course moves →
        ∃ due, (course.run world moves).node.reporter = some { reporter with due }) ∧
      ((∀ time, Registration.InReach (now time) reporter.offset) →
        ¬ HandshakeLost world now course moves)) ∧
    (Registration.lastSecond - Registration.firstSecond < (reporter.offset.natAbs : Int) →
      ∀ time, ¬ Registration.InReach (now time) reporter.offset) := by
  intro clock accepted running
  have span : Registration.isSpan reporter.offset = true := by
    unfold CommandLine.DaemonArguments.handshakeSpan? at accepted
    split at accepted
    · rename_i span
      rw [← Option.some.inj accepted]
      exact span
    · cases accepted
  refine ⟨reports_tick world clock running span, fun moves kept => ?_,
    fun long time => Registration.not_inReach_of_long long (now time)⟩
  obtain ⟨ends, goesOn⟩ := run_running world clock moves running span kept
  exact ⟨ends, goesOn, not_handshakeLost world clock moves running span kept⟩

private def newYear (time : Nat) : Int := 1767225600 + time / 1000

private def clockWorld : World Inventory.Script Cluster.Stage :=
  ⟨Inventory.scripted, Cluster.staged, fun time stage => { stage with time },
    fun time offset => Registration.handshake? (newYear time) 0 offset⟩

private def clocked : Inventory :=
  .empty ⟨"910B3", "Ascend910B3", "npu", 65536, 65536, 20, none, []⟩

/-- A node with one device, whose reporter has just been started with an offset. -/
private def awaiting (offset : Int) : Course Inventory.Script Cluster.Stage :=
  (Course.start "node-a" clocked 0 (.quiet "910B3") .empty).run clockWorld
    [.provider fun script => { script with devices := [(0, ⟨"npu-0", 0, 0, 0, -1, true⟩)] },
      .refresh, .startReporter .default offset]

private def daemonArguments (offset : Int) : CommandLine.DaemonArguments :=
  ⟨"/etc/npu-device-plugin/device-config.yaml", "node-a", none,
    "/etc/npu-device-plugin/inventory.yaml", "/var/lib/kubelet/device-plugins", "kubelet.sock",
    none, offset, none⟩

/-- The provider fails after the first report, and the cluster after the second. -/
private def throughFailures : List (Move Inventory.Script Cluster.Stage) :=
  [.tick, .provider fun script => { script with failEnumerate := true }, .tick,
    .provider fun script => { script with failEnumerate := false },
    .cluster fun stage => stage.fail .publish true, .tick]

theorem reporter_goes_on :
    HasClock clockWorld newYear (fun _ => 0) ∧
    (daemonArguments 45).handshakeSpan? = some 45 ∧
    (awaiting 45).node.reporter = some ⟨.default, 45, 1000⟩ ∧
    ¬ HandshakeLost clockWorld newYear (awaiting 45) throughFailures ∧
    ∃ due, ((awaiting 45).run clockWorld throughFailures).node.reporter =
      some ⟨.default, 45, due⟩ := by
  have clock : HasClock clockWorld newYear (fun _ => 0) := fun _ _ => rfl
  have accepted : (daemonArguments 45).handshakeSpan? = some 45 := rfl
  have running : (awaiting 45).node.reporter = some ⟨.default, 45, 1000⟩ := rfl
  have kept : ∀ move ∈ throughFailures, move.KeepsReporter := by
    simp only [throughFailures, List.forall_mem_cons]
    exact ⟨trivial, trivial, trivial, trivial, trivial, trivial, by simp⟩
  have reached : ¬ HandshakeLost clockWorld newYear (awaiting 45) throughFailures := by
    rintro (⟨_, same, _, out⟩ | other | ⟨_, same, _, out⟩ | other | other | ⟨_, same, _, out⟩ |
      none)
    · cases same
      exact out ⟨rfl, rfl⟩
    · exact other
    · cases same
      exact out ⟨rfl, rfl⟩
    · exact other
    · exact other
    · cases same
      exact out ⟨rfl, rfl⟩
    · exact none
  exact ⟨clock, accepted, running, reached,
    ((reporter_ends_iff clockWorld newYear (fun _ => 0) (awaiting 45) _ _ clock accepted
      running).2.1 throughFailures kept).2.1 reached⟩

/-- The offset is accepted, the provider answers, and nothing stops the reporter. -/
theorem accepted_offset_ends_reporter :
    let reporter : Registration.Reporter := ⟨.default, 9000000000000, 1000⟩
    let before := awaiting 9000000000000
    let after := before.step clockWorld .tick
    CommandLine.parse (fun _ => none)
        ["daemon", "--node-name", "node-a", "--handshake-offset-secs", "9000000000000"] =
      .ok (.daemon (daemonArguments 9000000000000)) ∧
    (daemonArguments 9000000000000).handshakeSpan? = some reporter.offset ∧
    before.node.reporter = some reporter ∧
    Registration.Answered Inventory.scripted (before.node.timed clockWorld reporter).state ∧
    (before.node.made clockWorld reporter).1 = .crashed ∧
    after.ledger.entries = [] ∧ after.node.reporter = none := by
  refine ⟨?_, rfl, rfl, ⟨_, _, .quiet rfl rfl rfl⟩, rfl, rfl, rfl⟩
  decide

end Node
end VirtualNpu
