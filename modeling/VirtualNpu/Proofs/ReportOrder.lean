import VirtualNpu.Proofs.ReporterSurvival
import VirtualNpu.Proofs.SnapshotListings

/-!
One report from its poll to its publication, action by action.  A provider that fails it leaves the
node as it was.  Otherwise the snapshot is replaced, the notification raised and the registration
handed over, in this order, and what has been done stays done when the publication fails.
-/

namespace VirtualNpu

variable {σ κ : Type}

namespace Inventory

def CallsForRefresh (devices : List (UInt32 × RawDevice)) (snapshot : Snapshot) : Prop :=
  (∃ device ∈ devices, device.2.healthy = false) ∨
    ∃ device ∈ snapshot, device.healthy = false

theorem callsForRefresh_iff (devices : List (UInt32 × RawDevice)) (snapshot : Snapshot) :
    CallsForRefresh devices snapshot ↔
      ¬ (reportedUnhealthy devices = [] ∧ snapshot.unhealthy = []) := by
  rw [reportedUnhealthy_eq_nil_iff, unhealthy_eq_nil_iff, not_and_or]
  simp [CallsForRefresh]

end Inventory

namespace Registration

open Cluster (Ledger)
open Inventory (CallsForRefresh)

/-- Whether a report comes to refresh the inventory, with the provider in some state by then. -/
def ComesToRefresh (provider : Inventory.Provider σ) (before : State σ κ) (asked : σ) : Prop :=
  ∃ devices, provider.devices before.provider = (.ok devices, asked) ∧
    CallsForRefresh devices before.inventory.snapshot

/-- The ways of a report up to its publication, by the answers of the provider. -/
inductive Way (provider : Inventory.Provider σ) (before : State σ κ) : Prop
  | unanswered {cause : Report Inventory.Error} {after : σ}
      (asked : provider.devices before.provider = (.error cause, after))
  | quiet {devices : List (UInt32 × Inventory.RawDevice)} {after : σ}
      (asked : provider.devices before.provider = (.ok devices, after))
      (quiet : ¬ CallsForRefresh devices before.inventory.snapshot)
  | refused {asked after : σ} {cause : Report Inventory.Error}
      (comes : ComesToRefresh provider before asked)
      (refused : provider.devices asked = (.error cause, after))
  | refreshed {asked after : σ} {again : List (UInt32 × Inventory.RawDevice)}
      (comes : ComesToRefresh provider before asked)
      (listed : provider.devices asked = (.ok again, after))

theorem way (provider : Inventory.Provider σ) (before : State σ κ) : Way provider before := by
  rcases asked : provider.devices before.provider with ⟨cause | devices, between⟩
  · exact .unanswered asked
  · by_cases calls : CallsForRefresh devices before.inventory.snapshot
    · rcases listed : provider.devices between with ⟨cause | again, after⟩
      · exact .refused ⟨devices, asked, calls⟩ listed
      · exact .refreshed ⟨devices, asked, calls⟩ listed
    · exact .quiet asked calls

section
variable {provider : Inventory.Provider σ} {before : State σ κ} {asked after : σ}
  {cause : Report Inventory.Error} {devices again : List (UInt32 × Inventory.RawDevice)}

theorem refreshFrom?_eq_some_iff :
    refreshFrom? provider before = some asked ↔ ComesToRefresh provider before asked := by
  unfold refreshFrom? Inventory.pollUnhealthy ComesToRefresh
  rcases provider.devices before.provider with ⟨cause | devices, between⟩
  · simp
  · have calls := Inventory.callsForRefresh_iff devices before.inventory.snapshot
    rw [Inventory.reportedUnhealthy, ← isEmpty_and_iff] at calls
    constructor
    · intro comes
      obtain ⟨seen, same⟩ := Option.ite_none_left_eq_some.mp comes
      exact ⟨devices, by rw [Option.some.inj same], calls.mpr seen⟩
    · rintro ⟨others, same, seen⟩
      cases same
      exact if_neg (calls.mp seen)

/-! ### How a report ends -/

variable (client : Cluster.Client κ) (node : String) (handshake : Option String)

theorem report_of_unanswered (failed : provider.devices before.provider = (.error cause, after)) :
    report provider client node handshake before =
      (.failed .poll, { before with provider := after }) := by
  simp only [report, Inventory.pollUnhealthy, failed]

theorem report_of_refused (comes : ComesToRefresh provider before asked)
    (refused : provider.devices asked = (.error cause, after)) :
    report provider client node handshake before =
      (.failed .refresh, { before with provider := after }) := by
  obtain ⟨devices, answered, calls⟩ := comes
  rw [Inventory.callsForRefresh_iff, Inventory.reportedUnhealthy, ← isEmpty_and_iff] at calls
  simp only [report, Inventory.pollUnhealthy, answered, refreshUnhealthy, if_neg calls,
    Inventory.refresh, refused]

theorem report_of_quiet (answered : provider.devices before.provider = (.ok devices, after))
    (quiet : ¬ CallsForRefresh devices before.inventory.snapshot) :
    report provider client node handshake before =
      publish client node handshake { before with provider := after } := by
  rw [Inventory.callsForRefresh_iff, not_not] at quiet
  exact (ComesToPublish.quiet answered quiet.1 quiet.2).report client node handshake

theorem report_of_refreshed (comes : ComesToRefresh provider before asked)
    (listed : provider.devices asked = (.ok again, after)) :
    report provider client node handshake before =
      publish client node handshake { before with
        inventory := before.inventory.replace again
        raised := before.raised + 1
        provider := after } := by
  obtain ⟨devices, answered, calls⟩ := comes
  rw [Inventory.callsForRefresh_iff] at calls
  exact (ComesToPublish.refreshed answered calls listed).report client node handshake

theorem publish_failed_iff (text : String) (state : State σ (Ledger κ)) :
    (publish client.withLedger node (some text) state).1 = .failed .publish ↔
      ∃ cause, (client.patchNodeAnnotations node (nodeAnnotations state.inventory text)
        state.cluster.cluster).1 = .error cause := by
  simp only [publish, Cluster.Client.withLedger, Ledger.enter]
  rcases client.patchNodeAnnotations node (nodeAnnotations state.inventory text)
    state.cluster.cluster with ⟨cause | done, after⟩
  · simp
  · simp

/-! ### What a report changes on its way -/

structure OnlyAsks (before state : State σ κ) : Prop where
  inventory : state.inventory = before.inventory
  raised : state.raised = before.raised
  cluster : state.cluster = before.cluster

theorem onlyAsks_of_unanswered
    (failed : provider.devices before.provider = (.error cause, after)) (count : Nat) :
    let underway := (Underway.mk .poll before).advanceBy provider client node handshake count
    OnlyAsks before underway.state ∧ underway.stage ≠ .refresh := by
  refine always_advance (fun underway => OnlyAsks before underway.state ∧ underway.stage ≠ .refresh)
    (advance_unanswered provider client node handshake before failed)
    ⟨⟨rfl, rfl, rfl⟩, Stage.noConfusion⟩ (fun more => ?_) count
  rw [Underway.advanceBy_done]
  exact ⟨⟨rfl, rfl, rfl⟩, Stage.noConfusion⟩

theorem onlyAsks_of_refused (comes : ComesToRefresh provider before asked)
    (refused : provider.devices asked = (.error cause, after)) (count : Nat) :
    OnlyAsks before ((Underway.mk .poll before).advanceBy provider client node handshake
      count).state := by
  obtain ⟨devices, answered, calls⟩ := comes
  rw [Inventory.callsForRefresh_iff] at calls
  have polled := advance_answered provider client node handshake before answered
  have compared := advance_seen provider client node handshake
    { before with provider := asked } calls
  have failed := advance_refused provider client node handshake
    { before with provider := asked } refused
  let holds (underway : Underway σ κ) := OnlyAsks before underway.state
  refine always_advance holds polled ⟨rfl, rfl, rfl⟩ (always_advance holds compared ⟨rfl, rfl, rfl⟩
    (always_advance holds failed ⟨rfl, rfl, rfl⟩ fun more => ?_)) count
  rw [Underway.advanceBy_done]
  exact ⟨rfl, rfl, rfl⟩

theorem kept_of_quiet (answered : provider.devices before.provider = (.ok devices, after))
    (quiet : ¬ CallsForRefresh devices before.inventory.snapshot) (count : Nat) :
    let underway := (Underway.mk .poll before).advanceBy provider client node handshake count
    (underway.state.inventory = before.inventory ∧ underway.state.raised = before.raised) ∧
      underway.stage ≠ .refresh := by
  rw [Inventory.callsForRefresh_iff, not_not] at quiet
  have polled := advance_answered provider client node handshake before answered
  have compared := advance_quiet provider client node handshake
    { before with provider := after } quiet
  let holds (underway : Underway σ κ) :=
    (underway.state.inventory = before.inventory ∧ underway.state.raised = before.raised) ∧
      underway.stage ≠ .refresh
  refine always_advance holds polled ⟨⟨rfl, rfl⟩, Stage.noConfusion⟩
    (always_advance holds compared ⟨⟨rfl, rfl⟩, Stage.noConfusion⟩ fun more => ?_) count
  obtain ⟨notified, inventory, raised⟩ := advanceBy_notified provider client node handshake more
    ⟨.compose, { before with provider := after }⟩ rfl
  refine ⟨⟨inventory, raised⟩, fun refreshes => ?_⟩
  rw [refreshes] at notified
  cases notified

theorem notified_of_refreshed (comes : ComesToRefresh provider before asked)
    (listed : provider.devices asked = (.ok again, after)) :
    let left := (report provider client node handshake before).2
    left.inventory = before.inventory.replace again ∧ left.raised = before.raised + 1 ∧
      NotifiesInOrder (fun count => ((Underway.mk .poll before).advanceBy provider client node
        handshake count).state) before left := by
  have published := report_of_refreshed client node handshake comes listed
  obtain ⟨devices, answered, calls⟩ := comes
  rw [Inventory.callsForRefresh_iff] at calls
  have ordered := notifiesInOrder provider client node handshake answered calls listed
  rw [published]
  refine ⟨?_, ?_, ordered⟩
  · rw [publish_state]
  · rw [publish_state]

theorem kept_of_unlisted
    (unlisted : ∀ asked again, ComesToRefresh provider before asked →
      (provider.devices asked).1 ≠ .ok again) (count : Nat) :
    let underway := (Underway.mk .poll before).advanceBy provider client node handshake count
    underway.state.inventory = before.inventory ∧ underway.state.raised = before.raised := by
  cases way provider before with
  | unanswered failed =>
      have only := (onlyAsks_of_unanswered client node handshake failed count).1
      exact ⟨only.inventory, only.raised⟩
  | quiet answered quiet => exact (kept_of_quiet client node handshake answered quiet count).1
  | refused comes failed =>
      have only := onlyAsks_of_refused client node handshake comes failed count
      exact ⟨only.inventory, only.raised⟩
  | refreshed comes listed => exact absurd (congrArg Prod.fst listed) (unlisted _ _ comes)

/-! ### A whole report -/

variable (provider before)

/-- A report passes the stage of its refresh exactly when it has something to refresh for. -/
theorem passes_refresh_iff :
    (∃ count, ((Underway.mk .poll before).advanceBy provider client node handshake
        count).stage = .refresh) ↔
      ∃ asked, ComesToRefresh provider before asked := by
  constructor
  · rintro ⟨count, passes⟩
    cases way provider before with
    | unanswered failed =>
        exact absurd passes (onlyAsks_of_unanswered client node handshake failed count).2
    | quiet answered quiet =>
        exact absurd passes (kept_of_quiet client node handshake answered quiet count).2
    | refused comes _ => exact ⟨_, comes⟩
    | refreshed comes _ => exact ⟨_, comes⟩
  · rintro ⟨asked, devices, answered, calls⟩
    rw [Inventory.callsForRefresh_iff] at calls
    have polled := advance_answered provider client node handshake before answered
    have compared := advance_seen provider client node handshake
      { before with provider := asked } calls
    refine ⟨2, ?_⟩
    rw [Underway.advanceBy, polled, Underway.advanceBy, compared]
    rfl

theorem report_failed_poll_iff :
    (report provider client node handshake before).1 = .failed .poll ↔
      ∃ cause, (provider.devices before.provider).1 = .error cause := by
  constructor
  · intro ended
    cases way provider before with
    | unanswered failed => exact ⟨_, congrArg Prod.fst failed⟩
    | quiet answered quiet =>
        rw [report_of_quiet client node handshake answered quiet] at ended
        exact absurd ended (publish_answered client node handshake _).1
    | refused comes refused =>
        rw [report_of_refused client node handshake comes refused] at ended
        cases ended
    | refreshed comes listed =>
        rw [report_of_refreshed client node handshake comes listed] at ended
        exact absurd ended (publish_answered client node handshake _).1
  · rintro ⟨cause, failed⟩
    rw [report_of_unanswered client node handshake (Prod.ext failed rfl)]

theorem report_failed_refresh_iff :
    (report provider client node handshake before).1 = .failed .refresh ↔
      ∃ asked cause, ComesToRefresh provider before asked ∧
        (provider.devices asked).1 = .error cause := by
  rw [(report_refresh provider client node handshake before).2, exists_comm]
  refine exists_congr fun cause => ?_
  rw [refreshOf?, Option.map_eq_some_iff]
  exact exists_congr fun asked => and_congr_left fun _ => refreshFrom?_eq_some_iff

theorem report_without_handshake :
    (report provider client node none before).2.cluster = before.cluster ∧
      (report provider client node none before).1 ≠ .failed .publish := by
  cases way provider before with
  | unanswered failed =>
      rw [report_of_unanswered client node none failed]
      exact ⟨rfl, by simp⟩
  | quiet answered quiet =>
      rw [report_of_quiet client node none answered quiet]
      exact ⟨rfl, Outcome.noConfusion⟩
  | refused comes failed =>
      rw [report_of_refused client node none comes failed]
      exact ⟨rfl, by simp⟩
  | refreshed comes listed =>
      rw [report_of_refreshed client node none comes listed]
      exact ⟨rfl, Outcome.noConfusion⟩

end

theorem healthCounter_succ (raised : Nat) :
    healthCounter (raised + 1) = healthCounter raised + 1 :=
  UInt64.ofNat_add raised 1

def RegisterSnapshot (inventory : Inventory) (annotations : Cluster.Annotations) : Prop :=
  ∃ register read,
    annotations.find? (Cluster.nodeRegister inventory.family.commonWord) = some register ∧
    decode? register = some read ∧
    List.Forall₂ (Entry.Describes inventory) inventory.snapshot read

theorem registerSnapshot_nodeAnnotations (inventory : Inventory) (handshake : String) :
    RegisterSnapshot inventory (nodeAnnotations inventory handshake) :=
  ⟨_, _, find?_nodeRegister inventory handshake, decode?_encode _, describes_entries inventory⟩

/-- A report that is not failed by the provider makes one call to the cluster, and fails if the
cluster refuses it. -/
theorem report_handed (provider : Inventory.Provider σ) (client : Cluster.Client κ)
    (node text : String) (before : State σ (Ledger κ))
    (polled : (report provider client.withLedger node (some text) before).1 ≠ .failed .poll)
    (refreshed : (report provider client.withLedger node (some text) before).1 ≠
      .failed .refresh) :
    let made := report provider client.withLedger node (some text) before
    let annotations := nodeAnnotations made.2.inventory text
    made.2.cluster.entries = before.cluster.entries ++
        [⟨before.cluster.caller, .patchNodeAnnotations node annotations, none⟩] ∧
      (made.1 = .failed .publish ↔ ∃ cause,
        (client.patchNodeAnnotations node annotations before.cluster.cluster).1 =
          .error cause) := by
  obtain ⟨devices, reached, comes, publishes⟩ := comesToPublish_of_report provider
    client.withLedger node (some text) before polled refreshed
  rw [publishes]
  dsimp only
  rw [publish_inventory, publish_entries, publish_failed_iff, comes.cluster]
  exact ⟨rfl, Iff.rfl⟩

/-- What a report comes to by the answers that it gets, and what it has done after a number of its
actions. -/
structure GoesInOrder (provider : Inventory.Provider σ) (client : Cluster.Client κ) (node : String)
    (handshake : Option String) (before : State σ (Ledger κ)) (outcome : Outcome)
    (after : State σ (Ledger κ)) (underway : Nat → Underway σ (Ledger κ)) : Prop where
  unanswered : outcome = .failed .poll ↔
    ∃ cause, (provider.devices before.provider).1 = .error cause
  refreshes : (∃ count, (underway count).stage = .refresh) ↔
    ∃ asked, ComesToRefresh provider before asked
  refused : outcome = .failed .refresh ↔ ∃ asked cause,
    ComesToRefresh provider before asked ∧ (provider.devices asked).1 = .error cause
  untouched : outcome = .failed .poll ∨ outcome = .failed .refresh →
    ∀ count, OnlyAsks before (underway count).state
  notified : ∀ asked again, ComesToRefresh provider before asked →
    (provider.devices asked).1 = .ok again →
    after.inventory = before.inventory.replace again ∧ after.raised = before.raised + 1 ∧
      healthCounter after.raised = healthCounter before.raised + 1 ∧
      NotifiesInOrder (fun count => (underway count).state) before after
  unnotified : (∀ asked again, ComesToRefresh provider before asked →
      (provider.devices asked).1 ≠ .ok again) →
    ∀ count, (underway count).state.inventory = before.inventory ∧
      (underway count).state.raised = before.raised
  handed : ∀ text, handshake = some text →
    outcome ≠ .failed .poll → outcome ≠ .failed .refresh →
    ∃ annotations, RegisterSnapshot after.inventory annotations ∧
      after.cluster.entries = before.cluster.entries ++
        [⟨before.cluster.caller, .patchNodeAnnotations node annotations, none⟩] ∧
      (outcome = .failed .publish ↔ ∃ cause,
        (client.patchNodeAnnotations node annotations before.cluster.cluster).1 = .error cause)
  lost : handshake = none → after.cluster = before.cluster ∧ outcome ≠ .failed .publish

/-- A report fails at its poll or its refresh exactly when the provider does, and then nothing but
the provider has been asked.  It refreshes exactly when a device is unhealthy, in the answer to its
poll or in the snapshot, and raises one notification exactly when the refresh succeeds: behind the
new snapshot and before the publication.  What it hands over registers the devices of the snapshot
by then, and a cluster that refuses it takes nothing of this back. -/
theorem report_goes_in_order (provider : Inventory.Provider σ) (client : Cluster.Client κ)
    (node : String) (handshake : Option String) (before : State σ (Ledger κ)) :
    let outcome := (report provider client.withLedger node handshake before).1
    let after := (report provider client.withLedger node handshake before).2
    let underway (count : Nat) :=
      (Underway.mk .poll before).advanceBy provider client.withLedger node handshake count
    underway 6 = ⟨.done outcome, after⟩ ∧
      GoesInOrder provider client node handshake before outcome after underway := by
  intro outcome after underway
  refine ⟨Underway.advanceBy_six_poll provider client.withLedger node handshake before, ?_⟩
  have polled := report_failed_poll_iff provider before client.withLedger node handshake
  have refused := report_failed_refresh_iff provider before client.withLedger node handshake
  refine ⟨polled, passes_refresh_iff provider before client.withLedger node handshake, refused,
    ?_, ?_, ?_, ?_, ?_⟩
  · rintro (unanswered | unrefreshed) count
    · obtain ⟨cause, failed⟩ := polled.mp unanswered
      exact (onlyAsks_of_unanswered client.withLedger node handshake (Prod.ext failed rfl) count).1
    · obtain ⟨asked, cause, comes, failed⟩ := refused.mp unrefreshed
      exact onlyAsks_of_refused client.withLedger node handshake comes (Prod.ext failed rfl) count
  · intro asked again comes answer
    obtain ⟨listed, raised, ordered⟩ := notified_of_refreshed client.withLedger node handshake
      comes (Prod.ext answer rfl)
    exact ⟨listed, raised, raised ▸ healthCounter_succ before.raised, ordered⟩
  · exact fun unlisted => kept_of_unlisted client.withLedger node handshake unlisted
  · rintro text rfl answered refreshed
    exact ⟨nodeAnnotations after.inventory text, registerSnapshot_nodeAnnotations _ text,
      report_handed provider client node text before answered refreshed⟩
  · rintro rfl
    exact report_without_handshake provider before client.withLedger node

private abbrev Listing := Except (Report Inventory.Error) (List (UInt32 × Inventory.RawDevice))

private def listsInTurn : Inventory.Provider (List Listing) where
  chipName listings := (.ok "910B3", listings)
  logicIds listings := (.ok [0], listings)
  query id listings := (.error (.of (.query id "unknown device")), listings)
  devices
    | [] => (.ok [], [])
    | listing :: listings => (listing, listings)
  cleanupIdle listings := (.ok (), listings)

private def chip (healthy : Bool) : List (UInt32 × Inventory.RawDevice) :=
  [(0, ⟨"npu-0", 0, 0, 0, -1, healthy⟩)]

private def refusal : Report Inventory.Error := .of (.query 0 "injected")

/-- The counter of the notifications is at its last value, and no publication reaches the
cluster. -/
private def beforeReport (listings : List Listing) : State (List Listing) (Ledger Cluster.Stage) :=
  ⟨.empty ⟨"910B3", "Ascend910B3", "npu", 65536, 65536, 20, none, []⟩, UInt64.size - 1, listings,
    .start ⟨[], [.publish], 0, []⟩⟩

/-- The device has recovered when it is listed again, or is not listed at all. -/
theorem recovery_and_refusal :
    let made (again : Listing) := report listsInTurn Cluster.staged.withLedger "node"
      (some "Reported") (beforeReport [.ok (chip false), again])
    let underway (again : Listing) (count : Nat) :=
      (Underway.mk .poll (beforeReport [.ok (chip false), again])).advanceBy listsInTurn
        Cluster.staged.withLedger "node" (some "Reported") count
    ((made (.ok (chip true))).1 = .failed .publish ∧
      (made (.ok (chip true))).2.inventory.snapshot.unhealthy = [] ∧
      healthCounter (made (.ok (chip true))).2.raised = 0 ∧
      NotifiesInOrder (fun count => (underway (.ok (chip true)) count).state)
        (beforeReport [.ok (chip false), .ok (chip true)]) (made (.ok (chip true))).2 ∧
      ∃ annotations, RegisterSnapshot (made (.ok (chip true))).2.inventory annotations ∧
        (made (.ok (chip true))).2.cluster.entries =
          [⟨.reporter, .patchNodeAnnotations "node" annotations, none⟩]) ∧
    (made (.error refusal)).1 = .failed .refresh ∧
    ∀ count, OnlyAsks (beforeReport [.ok (chip false), .error refusal])
      (underway (.error refusal) count).state := by
  intro made underway
  have comes : ∀ again, ComesToRefresh listsInTurn (beforeReport [.ok (chip false), again])
      [again] :=
    fun again => ⟨chip false, rfl, Or.inl ⟨_, List.mem_singleton_self _, rfl⟩⟩
  obtain ⟨_, recovers⟩ := report_goes_in_order listsInTurn Cluster.staged "node" (some "Reported")
    (beforeReport [.ok (chip false), .ok (chip true)])
  obtain ⟨_, refuses⟩ := report_goes_in_order listsInTurn Cluster.staged "node" (some "Reported")
    (beforeReport [.ok (chip false), .error refusal])
  have unpublished : (made (.ok (chip true))).1 = .failed .publish := rfl
  have unrefreshed : (made (.error refusal)).1 = .failed .refresh :=
    refuses.refused.mpr ⟨_, refusal, comes _, rfl⟩
  obtain ⟨listed, _, counted, ordered⟩ := recovers.notified _ (chip true) (comes _) rfl
  obtain ⟨annotations, registers, entered, _⟩ := recovers.handed "Reported" rfl
    (fun polled => by cases unpublished.symm.trans polled)
    (fun refreshed => by cases unpublished.symm.trans refreshed)
  refine ⟨⟨unpublished, ?_, ?_, ordered, annotations, registers, entered⟩, unrefreshed,
    refuses.untouched (Or.inr unrefreshed)⟩
  · rw [listed]
    rfl
  · rw [counted]
    rfl

end Registration
end VirtualNpu
