import VirtualNpu.Proofs.RegistrationView
import VirtualNpu.Proofs.ReportStages
import VirtualNpu.Proofs.WatchUpdates

/-!
The health that a node tells of after a report.  A report that is not refused by the provider
leaves the inventory with the health that the provider reports, and until the next refresh
the registration and every device list tell just that.
-/

namespace VirtualNpu
namespace Node

open Cluster (Ledger)
open Inventory (RawDevice)
open Registration (Entry Outcome RaisedOnce Underway)

variable {σ κ : Type}

/-! ### The report of a tick -/

def timed (world : World σ κ) (reporter : Registration.Reporter) (node : Node σ (Ledger κ)) :
    Node σ (Ledger κ) :=
  (node.setCluster (.inHandsOf .reporter)).setCluster
    (.mapCluster (world.clock reporter.due))

def made (world : World σ κ) (reporter : Registration.Reporter) (node : Node σ (Ledger κ)) :
    Outcome × Registration.State σ (Ledger κ) :=
  Registration.report world.provider world.client.withLedger node.name
    (world.handshake reporter.due reporter.offset) (node.timed world reporter).state

def making (world : World σ κ) (reporter : Registration.Reporter) (node : Node σ (Ledger κ))
    (count : Nat) : Underway σ (Ledger κ) :=
  (Underway.mk .poll (node.timed world reporter).state).advanceBy world.provider
    world.client.withLedger node.name (world.handshake reporter.due reporter.offset) count

theorem reportMove_state (world : World σ κ) {reporter : Registration.Reporter}
    {node : Node σ (Ledger κ)} (running : node.reporter = some reporter) :
    (node.reportMove world).state = (node.made world reporter).2 := by
  unfold reportMove
  rw [running]
  rfl

/-! ### Until the next refresh -/

/-- Whether a move replaces the snapshot.  A report does where it raises a notification. -/
def Refreshes (world : World σ κ) (chronicle : Chronicle σ κ) : Move σ κ → Prop
  | .refresh => ∃ devices after,
      world.provider.devices chronicle.course.node.state.provider = (.ok devices, after)
  | .tick => (chronicle.step world .tick).raised ≠ chronicle.raised
  | _ => False

def Unrefreshed (world : World σ κ) : Chronicle σ κ → List (Move σ κ) → Prop
  | _, [] => True
  | chronicle, move :: moves =>
      ¬ Refreshes world chronicle move ∧ Unrefreshed world (chronicle.step world move) moves

theorem step_inventory (world : World σ κ) (chronicle : Chronicle σ κ) (move : Move σ κ)
    (kept : ¬ Refreshes world chronicle move) :
    (chronicle.step world move).inventory = chronicle.inventory := by
  cases move with
  | refresh =>
      simp only [Chronicle.step, Chronicle.inventory, Course.step, Node.refresh,
        Inventory.refresh]
      rcases asked : world.provider.devices chronicle.course.node.state.provider with
        ⟨failure | devices, after⟩
      · rfl
      · exact absurd ⟨devices, after, asked⟩ kept
  | read number =>
      simp only [Chronicle.step, Chronicle.inventory, Course.step, Node.read]
      cases chronicle.course.node.watches[number]? <;> rfl
  | depart number =>
      simp only [Chronicle.step, Chronicle.inventory, Course.step, Node.depart]
      cases chronicle.course.node.watches[number]? <;> rfl
  | tick =>
      have refreshed := (reportMove_frame world chronicle.course.node).2.2
      rcases refreshed.counted with ⟨same, _⟩ | once
      · exact same
      · refine absurd ?_ kept
        change (chronicle.course.node.reportMove world).state.raised ≠
          chronicle.course.node.state.raised
        omega
  | allocate number =>
      simp only [Chronicle.step, Chronicle.inventory, Course.step, Course.advance]
      split <;> rfl
  | _ => rfl

def IsCurrentSince (inventory : Inventory) (since : Nat) (chronicle : Chronicle σ κ) : Prop :=
  chronicle.inventory = inventory ∧
    ∀ moment snapshot, since ≤ moment → chronicle.snapshotAt moment = some snapshot →
      snapshot = inventory.snapshot

theorem isCurrentSince_now (chronicle : Chronicle σ κ) :
    IsCurrentSince chronicle.inventory chronicle.moment chronicle := by
  refine ⟨rfl, ?_⟩
  intro moment snapshot late found
  have inside := (List.getElem?_eq_some_iff.mp found).1
  rw [List.length_append, List.length_singleton] at inside
  change chronicle.earlier.length ≤ moment at late
  have now : moment = chronicle.moment := by
    change moment = chronicle.earlier.length
    omega
  rw [now, snapshotAt_now] at found
  exact (Option.some.inj found).symm

theorem isCurrentSince_step (world : World σ κ) (inventory : Inventory) (since : Nat)
    (chronicle : Chronicle σ κ) (move : Move σ κ)
    (current : IsCurrentSince inventory since chronicle)
    (kept : ¬ Refreshes world chronicle move) :
    IsCurrentSince inventory since (chronicle.step world move) := by
  have same := step_inventory world chronicle move kept
  refine ⟨same.trans current.1, ?_⟩
  intro moment snapshot late found
  by_cases old : moment < (chronicle.step world move).earlier.length
  · have before : chronicle.snapshotAt moment = some snapshot :=
      (List.getElem?_append_left old).symm.trans found
    exact current.2 moment snapshot late before
  · have now := (isCurrentSince_now (chronicle.step world move)).2 moment snapshot
      (Nat.le_of_not_lt old) found
    rw [now, same, current.1]

theorem isCurrentSince_run (world : World σ κ) (inventory : Inventory) (since : Nat)
    (moves : List (Move σ κ)) (chronicle : Chronicle σ κ)
    (current : IsCurrentSince inventory since chronicle)
    (unrefreshed : Unrefreshed world chronicle moves) :
    IsCurrentSince inventory since (chronicle.run world moves) := by
  induction moves generalizing chronicle with
  | nil => exact current
  | cons move moves ih =>
      exact ih (chronicle.step world move)
        (isCurrentSince_step world inventory since chronicle move current unrefreshed.1)
        unrefreshed.2

theorem listing_of_isCurrentSince {chronicle : Chronicle σ κ} (followable : Followable chronicle)
    {inventory : Inventory} {since : Nat} (current : IsCurrentSince inventory since chronicle)
    {trail : Trail} (inside : trail ∈ chronicle.trails) {listing : Listing}
    (computed : listing ∈ trail.computed) (late : since ≤ listing.moment) :
    listing.devices = Kubelet.deviceList inventory := by
  obtain ⟨number, kept⟩ := List.getElem?_of_mem inside
  obtain ⟨watch, found⟩ : ∃ watch, chronicle.watches[number]? = some watch := by
    refine ⟨_, List.getElem?_eq_getElem ?_⟩
    rw [← followable.paired]
    exact (List.getElem?_eq_some_iff.mp kept).1
  obtain ⟨snapshot, at_, devices⟩ :=
    (followable.followed number watch trail found kept).genuine listing computed
  rw [devices, current.2 _ _ late at_, current.1]

/-! ### After a report -/

/-- Whether some calls to the cluster are the publication of a register text: one call if there
is a handshake, and none if there is not. -/
def HandsOver (register node : String) (inventory : Inventory) (handshake : Option String)
    (entries : List Cluster.Entry) : Prop :=
  entries.length = handshake.toList.length ∧
    ∀ entry ∈ entries, entry.caller = .reporter ∧
      ∃ annotations, entry.call = .patchNodeAnnotations node annotations ∧
        annotations.find? (Cluster.nodeRegister inventory.family.commonWord) = some register

theorem made_handsOver (world : World σ κ) (reporter : Registration.Reporter)
    (node : Node σ (Ledger κ)) (reached : Registration.State σ (Ledger κ))
    (same : reached.cluster = (node.timed world reporter).state.cluster)
    (published : node.made world reporter = Registration.publish world.client.withLedger node.name
      (world.handshake reporter.due reporter.offset) reached) :
    ∃ entries,
      (node.made world reporter).2.cluster.entries = node.state.cluster.entries ++ entries ∧
      HandsOver (Registration.encode (Registration.entries reached.inventory)) node.name
        reached.inventory (world.handshake reporter.due reporter.offset) entries := by
  rw [published, Registration.publish_entries, same]
  refine ⟨_, rfl, ?_, ?_⟩
  · rw [List.length_map]
  · intro entry inside
    obtain ⟨text, _, rfl⟩ := List.mem_map.mp inside
    exact ⟨rfl, _, rfl, Registration.find?_nodeRegister reached.inventory text⟩

/-- After a report that is not refused by the provider, the unhealthy devices of the inventory
are those that the provider reports.  If the snapshot had others before, one notification is
raised, with the new snapshot in place.  The registration that the report hands over, and
every list that a watch computes before the next refresh, tell the health of the snapshot. -/
theorem health_converges (world : World σ κ) (name : String) (inventory : Inventory)
    (raised : Nat) (provider : σ) (cluster : κ) (moves : List (Move σ κ))
    (reporter : Registration.Reporter) :
    let before := (Chronicle.start name inventory raised provider cluster).run world moves
    let node := before.course.node
    let after := before.step world .tick
    node.reporter = some reporter → world.provider.IsSteady node.state.provider →
    (node.made world reporter).1 ≠ .failed .poll →
    (node.made world reporter).1 ≠ .failed .refresh →
    after.course.node.state = (node.made world reporter).2 ∧
    node.making world reporter 6 =
      ⟨.done (node.made world reporter).1, (node.made world reporter).2⟩ ∧
    ∃ devices rest register read,
      world.provider.devices node.state.provider = (.ok devices, rest) ∧
      Inventory.Reflects devices after.inventory ∧
      after.inventory.snapshot.unhealthy = Inventory.reportedUnhealthy devices ∧
      (Inventory.reportedUnhealthy devices ≠ before.inventory.snapshot.unhealthy →
        after.raised = before.raised + 1 ∧
        RaisedOnce (fun count => (node.making world reporter count).state) before.raised
          after.inventory) ∧
      Registration.decode? register = some read ∧
      List.Forall₂ (Entry.Describes after.inventory) after.inventory.snapshot read ∧
      (∃ entries, after.course.ledger.entries = before.course.ledger.entries ++ entries ∧
        HandsOver register node.name after.inventory
          (world.handshake reporter.due reporter.offset) entries) ∧
      ∀ later, Unrefreshed world after later → ∀ trail ∈ (after.run world later).trails,
        ∀ listing ∈ trail.computed, after.moment ≤ listing.moment →
          listing.devices.map Registration.told = read.flatMap Entry.slots := by
  intro before node after running steady polled refreshed
  have followable : Followable before :=
    followable_run world moves _ (followable_start name inventory raised provider cluster)
  obtain ⟨devices, reached, comes, published⟩ := Registration.comesToPublish_of_report _ _ _ _ _
    polled refreshed
  have state : after.course.node.state = (node.made world reporter).2 :=
    reportMove_state world running
  have left : after.inventory = reached.inventory ∧ after.raised = reached.raised := by
    change node.made world reporter = _ at published
    change after.course.node.state.inventory = _ ∧ after.course.node.state.raised = _
    rw [state, published, Registration.publish_state]
    exact ⟨rfl, rfl⟩
  have made : node.making world reporter 6 =
      ⟨.done (node.made world reporter).1, (node.made world reporter).2⟩ :=
    Underway.advanceBy_six_poll _ _ _ _ _
  obtain ⟨rest, asked⟩ := comes.asked
  have reflects : Inventory.Reflects devices after.inventory := by
    rw [left.1]
    exact comes.reflects steady
  refine ⟨state, made, devices, rest, _, _, asked, reflects, reflects.unhealthy, ?_,
    Registration.decode?_encode _, Registration.describes_entries after.inventory, ?_, ?_⟩
  · intro differs
    rw [left.1, left.2]
    exact comes.raisedOnce world.provider world.client.withLedger node.name
      (world.handshake reporter.due reporter.offset) differs
  · rw [left.1]
    obtain ⟨entries, appended, handed⟩ :=
      made_handsOver world reporter node reached comes.cluster published
    refine ⟨entries, ?_, handed⟩
    change after.course.node.state.cluster.entries = _
    rw [state]
    exact appended
  · intro later unrefreshed trail inside listing computed late
    have current := isCurrentSince_run world after.inventory after.moment later after
      (isCurrentSince_now after) unrefreshed
    have followed : Followable (after.run world later) :=
      followable_run world later after (followable_step world before .tick followable)
    rw [listing_of_isCurrentSince followed current inside computed late]
    exact Registration.told_deviceList after.inventory

private def twoDevices : Inventory.Script :=
  { Inventory.Script.quiet "910B3" with
    devices := [(0, ⟨"npu-0", 0, 0, 0, -1, true⟩), (1, ⟨"npu-1", 1, 1, 0, 0, true⟩)] }

private def unlisted : Inventory :=
  .empty ⟨"910B3", "Ascend910B3", "npu", 65536, 65536, 20, none, []⟩

private def offlineWorld : World Inventory.Script Cluster.Stage :=
  ⟨Inventory.scripted, Cluster.staged, fun _ stage => stage, fun _ _ => some "Reported"⟩

/-- A watch has sent its first list when the second device fails. -/
private def untilFailure : List (Move Inventory.Script Cluster.Stage) :=
  [.refresh, .startReporter .default 0, .subscribe, .runTask 0 .stop, .runTask 0 .stop,
    .provider fun script => script.setHealth 1 false]

private def unreported : Chronicle Inventory.Script Cluster.Stage :=
  (Chronicle.start "node" unlisted 0 twoDevices ⟨[], [.publish], 0, []⟩).run offlineWorld
    untilFailure

private def notifiedWatch : List (Move Inventory.Script Cluster.Stage) :=
  [.runTask 0 .notification, .runTask 0 .stop]

theorem failed_device_told :
    let reporter : Registration.Reporter := ⟨.default, 0, 1000⟩
    let after := unreported.step offlineWorld .tick
    let list : List Kubelet.Device := [⟨"npu-0-0", true, none⟩, ⟨"npu-1-0", false, some 0⟩]
    (unreported.course.node.reporter = some reporter ∧
      (unreported.course.node.made offlineWorld reporter).1 = .failed .publish ∧
      unreported.inventory.snapshot.unhealthy = []) ∧
    after.inventory.snapshot.unhealthy = [1] ∧ after.raised = 1 ∧
    RaisedOnce (fun count => (unreported.course.node.making offlineWorld reporter count).state)
      0 after.inventory ∧
    ∃ read, List.Forall₂ (Entry.Describes after.inventory) after.inventory.snapshot read ∧
      list.map Registration.told = read.flatMap Entry.slots := by
  intro reporter after list
  have running : unreported.course.node.reporter = some reporter := rfl
  have outcome : (unreported.course.node.made offlineWorld reporter).1 = .failed .publish := rfl
  have polled : (unreported.course.node.made offlineWorld reporter).1 ≠ .failed .poll := by
    rw [outcome]
    simp
  have refreshed : (unreported.course.node.made offlineWorld reporter).1 ≠ .failed .refresh := by
    rw [outcome]
    simp
  obtain ⟨_, _, devices, rest, register, read, asked, _, unhealthy, once, _, described, _, lists⟩ :=
    health_converges offlineWorld "node" unlisted 0 twoDevices ⟨[], [.publish], 0, []⟩
      untilFailure reporter running (Inventory.isSteady_scripted _) polled refreshed
  have reported : Inventory.reportedUnhealthy devices = [1] := by
    cases asked
    rfl
  rw [reported] at unhealthy once
  have known : unreported.inventory.snapshot.unhealthy = [] := rfl
  have differs : [1] ≠ unreported.inventory.snapshot.unhealthy := by
    rw [known]
    simp
  obtain ⟨raised, raisedOnce⟩ := once differs
  refine ⟨⟨running, outcome, known⟩, unhealthy, raised, raisedOnce, read, described, ?_⟩
  have kept : (after.run offlineWorld notifiedWatch).trails[0]? = some
      ⟨0, [⟨3, [⟨"npu-0-0", true, none⟩, ⟨"npu-1-0", true, some 0⟩]⟩, ⟨8, list⟩],
        [[⟨"npu-0-0", true, none⟩, ⟨"npu-1-0", true, some 0⟩]]⟩ := rfl
  exact lists notifiedWatch ⟨id, id, trivial⟩ _ (List.mem_of_getElem? kept) ⟨8, list⟩ (by simp)
    (Nat.le_succ 7)

end Node
end VirtualNpu
