import VirtualNpu.Proofs.SnapshotListings

/-!
What becomes of a device that the provider no longer lists.  A report refreshes the inventory
when the provider or the snapshot has an unhealthy device; then all that is told of the node is
of devices still listed.  When everything is healthy the report tells what was known before,
also of devices that have been withdrawn in the meantime.
-/

namespace VirtualNpu

variable {σ κ : Type}

namespace Inventory

def IsQuiet (devices : List (UInt32 × RawDevice)) (snapshot : Snapshot) : Prop :=
  reportedUnhealthy devices = [] ∧ snapshot.unhealthy = []

/-- Whether a listing has, just as they are told, all devices of the snapshot, of the kubelet's
list and of a registration that has been read. -/
structure TellsListed (devices : List (UInt32 × RawDevice)) (inventory : Inventory)
    (read : List Registration.Entry) : Prop where
  snapshot : ∀ device ∈ inventory.snapshot, device.reported ∈ devices
  slots : ∀ slot ∈ Kubelet.deviceList inventory, ∃ listed ∈ devices,
    slot.id ∈ virtualIds listed.2.uuid inventory.slotsPerDevice ∧
      slot.healthy = listed.2.healthy ∧ slot.numaNode = Kubelet.numaNode? listed.2.numa
  entries : ∀ entry ∈ read, ∃ listed ∈ devices,
    entry.id = listed.2.uuid ∧ entry.index = listed.2.physicalId ∧
      entry.numa = listed.2.numa ∧ entry.health = listed.2.healthy

theorem tellsListed_iff {devices : List (UInt32 × RawDevice)} {inventory : Inventory}
    {read : List Registration.Entry}
    (described : List.Forall₂ (Registration.Entry.Describes inventory) inventory.snapshot read) :
    TellsListed devices inventory read ↔
      ∀ device ∈ inventory.snapshot, device.reported ∈ devices := by
  refine ⟨TellsListed.snapshot, fun listed => ⟨listed, ?_, ?_⟩⟩
  · intro slot told
    obtain ⟨device, known, expanded⟩ := List.mem_flatMap.mp told
    obtain ⟨id, virtual, rfl⟩ := List.mem_map.mp expanded
    exact ⟨device.reported, listed device known, virtual, rfl, rfl⟩
  · intro entry told
    obtain ⟨place, inside, here⟩ := List.mem_iff_getElem.mp told
    have known : place < inventory.snapshot.length := described.length_eq ▸ inside
    have describes := described.get known inside
    simp only [List.get_eq_getElem, here] at describes
    exact ⟨_, listed _ (List.getElem_mem known), describes.id, describes.index, describes.numa,
      describes.health⟩

end Inventory

namespace Registration

variable {provider : Inventory.Provider σ} {devices : List (UInt32 × Inventory.RawDevice)}
  {before reached : State σ κ}

/-- Where nothing calls for a refresh the inventory is the one from before, else it is the
listing of a provider that answers the same twice. -/
theorem ComesToPublish.inventory (comes : ComesToPublish provider devices before reached)
    (steady : provider.IsSteady before.provider) :
    (Inventory.IsQuiet devices before.inventory.snapshot →
        reached.inventory = before.inventory) ∧
      (¬ Inventory.IsQuiet devices before.inventory.snapshot →
        Inventory.Shows devices reached.inventory) := by
  cases comes with
  | quiet asked reported known =>
      exact ⟨fun _ => rfl, fun seen => absurd ⟨reported, known⟩ seen⟩
  | refreshed asked seen listed =>
      refine ⟨fun quiet => absurd quiet seen, fun _ => ?_⟩
      rw [steady _ _ _ _ asked listed]
      exact Inventory.shows_replace before.inventory devices

theorem handshake_of_published {client : Cluster.Client κ} {node : String}
    {handshake : Option String} {state : State σ κ}
    (published : (publish client node handshake state).1 = .published) :
    ∃ text, handshake = some text := by
  cases handshake with
  | none => cases published
  | some text => exact ⟨text, rfl⟩

end Registration

namespace Node

open Inventory (RawDevice)
open Registration (Entry)

theorem tick_inventory (world : World σ κ) {chronicle : Chronicle σ κ}
    {reporter : Registration.Reporter} {reached : Registration.State σ (Cluster.Ledger κ)}
    (running : chronicle.course.node.reporter = some reporter)
    (publishes : chronicle.course.node.made world reporter =
      Registration.publish world.client.withLedger chronicle.course.node.name
        (world.handshake reporter.due reporter.offset) reached) :
    (chronicle.step world .tick).inventory = reached.inventory := by
  change (chronicle.course.node.reportMove world).state.inventory = _
  rw [reportMove_state world running, publishes, Registration.publish_state]

/-- After a report that has succeeded, while the provider has not listed other devices in
between, all that is told of the node is of devices that the provider lists, exactly when
something called for a refresh or no device of the snapshot had been withdrawn.  What is told is
the snapshot, the registration that has been handed over, and every list that a watch computes
before the next refresh. -/
theorem told_devices_listed_iff (world : World σ κ) (name : String) (inventory : Inventory)
    (raised : Nat) (provider : σ) (cluster : κ) (moves : List (Move σ κ))
    (reporter : Registration.Reporter) :
    let before := (Chronicle.start name inventory raised provider cluster).run world moves
    let node := before.course.node
    let after := before.step world .tick
    node.reporter = some reporter → world.provider.IsSteady node.state.provider →
    (node.made world reporter).1 = .published →
    ∃ devices rest annotations register read,
      world.provider.devices node.state.provider = (.ok devices, rest) ∧
      after.course.ledger.entries = before.course.ledger.entries ++
        [⟨.reporter, .patchNodeAnnotations node.name annotations, none⟩] ∧
      annotations.find? (Cluster.nodeRegister after.inventory.family.commonWord) =
        some register ∧
      Registration.decode? register = some read ∧
      List.Forall₂ (Entry.Describes after.inventory) after.inventory.snapshot read ∧
      (∀ later, Unrefreshed world after later → ∀ trail ∈ (after.run world later).trails,
        ∀ listing ∈ trail.computed, after.moment ≤ listing.moment →
          listing.devices = Kubelet.deviceList after.inventory) ∧
      (¬ Inventory.IsQuiet devices before.inventory.snapshot →
        Inventory.Shows devices after.inventory) ∧
      (Inventory.IsQuiet devices before.inventory.snapshot →
        after.inventory = before.inventory) ∧
      (Inventory.TellsListed devices after.inventory read ↔
        ¬ Inventory.IsQuiet devices before.inventory.snapshot ∨
          ∀ device ∈ before.inventory.snapshot, device.reported ∈ devices) := by
  intro before node after running steady published
  have followable : Followable before :=
    followable_run world moves _ (followable_start name inventory raised provider cluster)
  obtain ⟨devices, reached, comes, publishes⟩ :=
    Registration.comesToPublish_of_report world.provider world.client.withLedger node.name
      (world.handshake reporter.due reporter.offset) (node.timed world reporter).state
      (fun refused => Registration.Outcome.noConfusion (published.symm.trans refused))
      (fun refused => Registration.Outcome.noConfusion (published.symm.trans refused))
  change node.made world reporter = _ at publishes
  have left : after.inventory = reached.inventory := tick_inventory world running publishes
  obtain ⟨rest, asked⟩ := comes.asked
  obtain ⟨kept, shown⟩ := comes.inventory steady
  rw [← left] at kept shown
  obtain ⟨text, written⟩ : ∃ text, world.handshake reporter.due reporter.offset = some text :=
    Registration.handshake_of_published (publishes ▸ published)
  have described := Registration.describes_entries after.inventory
  refine ⟨devices, rest, Registration.nodeAnnotations after.inventory text, _, _, asked, ?_,
    Registration.find?_nodeRegister after.inventory text, Registration.decode?_encode _,
    described, ?_, shown, kept, ?_⟩
  · change (node.reportMove world).state.cluster.entries = _
    rw [reportMove_state world running, publishes, Registration.publish_entries, written,
      comes.cluster, left]
    rfl
  · intro later unrefreshed trail inside listing computed late
    have current := isCurrentSince_run world after.inventory after.moment later after
      (isCurrentSince_now after) unrefreshed
    have followed : Followable (after.run world later) :=
      followable_run world later after (followable_step world before .tick followable)
    exact listing_of_isCurrentSince followed current inside computed late
  · rw [Inventory.tellsListed_iff described]
    by_cases quiet : Inventory.IsQuiet devices before.inventory.snapshot
    · rw [kept quiet]
      exact ⟨Or.inr, fun told => told.resolve_left fun seen => seen quiet⟩
    · refine ⟨fun _ => Or.inl quiet, fun _ device known => ?_⟩
      rw [← (shown quiet).listing]
      exact List.mem_map_of_mem known

private def reportingWorld : World Inventory.Script Cluster.Stage :=
  ⟨Inventory.scripted, Cluster.staged, fun _ stage => stage, fun _ _ => some "Reported"⟩

private def unplugged : Inventory :=
  .empty ⟨"910B3", "Ascend910B3", "npu", 65536, 65536, 20, none, []⟩

private def remaining (healthy : Bool) : UInt32 × RawDevice := (0, ⟨"npu-0", 0, 0, 0, -1, healthy⟩)

/-- Of two devices that have been found healthy one is withdrawn, and the other may fail. -/
private def untilWithdrawal (healthy : Bool) : List (Move Inventory.Script Cluster.Stage) :=
  [.provider fun script =>
      { script with devices := [remaining true, (1, ⟨"npu-1", 1, 1, 0, 0, true⟩)] },
    .refresh, .startReporter .default 0,
    .provider fun script => { script with devices := [remaining healthy] }]

private def depleted (healthy : Bool) : Chronicle Inventory.Script Cluster.Stage :=
  (Chronicle.start "node" unplugged 0 (.quiet "910B3") .empty).run reportingWorld
    (untilWithdrawal healthy)

theorem withdrawn_device_dropped :
    let reporter : Registration.Reporter := ⟨.default, 0, 1000⟩
    let after := (depleted false).step reportingWorld .tick
    (depleted false).course.node.reporter = some reporter ∧
    ((depleted false).course.node.made reportingWorld reporter).1 = .published ∧
    (depleted false).inventory.snapshot.map Inventory.PhysicalDevice.uuid = ["npu-0", "npu-1"] ∧
    after.inventory.snapshot.map Inventory.PhysicalDevice.reported = [remaining false] ∧
    ∃ read, Inventory.TellsListed [remaining false] after.inventory read ∧
      read.map Entry.id = ["npu-0"] := by
  intro reporter after
  have running : (depleted false).course.node.reporter = some reporter := rfl
  have published :
      ((depleted false).course.node.made reportingWorld reporter).1 = .published := rfl
  obtain ⟨devices, _, _, _, read, asked, _, _, _, described, _, shown, _, told⟩ :=
    told_devices_listed_iff reportingWorld "node" unplugged 0 (.quiet "910B3") .empty
      (untilWithdrawal false) reporter running (Inventory.isSteady_scripted _) published
  have listed : devices = [remaining false] := by
    cases asked
    rfl
  subst listed
  have seen : ¬ Inventory.IsQuiet [remaining false] (depleted false).inventory.snapshot := by
    intro quiet
    cases quiet.1
  refine ⟨running, published, rfl, (shown seen).listing, read, told.mpr (Or.inl seen), ?_⟩
  cases described with
  | cons describes others =>
      cases others with
      | nil =>
          rw [List.map_cons, List.map_nil, describes.id]
          rfl

/-- The report finds nothing unhealthy and tells the withdrawn device on. -/
theorem withdrawn_device_told_on :
    let reporter : Registration.Reporter := ⟨.default, 0, 1000⟩
    let node := (depleted true).course.node
    let after := (depleted true).step reportingWorld .tick
    node.reporter = some reporter ∧
    Inventory.scripted.IsSteady node.state.provider ∧
    (node.made reportingWorld reporter).1 = .published ∧
    (Inventory.scripted.devices node.state.provider).1 = .ok [remaining true] ∧
    (∃ device ∈ after.inventory.snapshot,
      device.uuid = "npu-1" ∧ ∀ listed ∈ [remaining true], listed.2.uuid ≠ device.uuid) ∧
    (∃ slot ∈ Kubelet.deviceList after.inventory, slot.id = "npu-1-0") ∧
    ∃ annotations register read,
      after.course.ledger.entries =
        [⟨.reporter, .patchNodeAnnotations "node" annotations, none⟩] ∧
      annotations.find? (Cluster.nodeRegister "Ascend910B3") = some register ∧
      Registration.decode? register = some read ∧
      ∃ entry ∈ read, entry.id = "npu-1" := by
  intro reporter node after
  have withdrawn : Inventory.PhysicalDevice.ofRaw unplugged.family 1 ⟨"npu-1", 1, 1, 0, 0, true⟩ ∈
      after.inventory.snapshot := List.mem_cons_of_mem _ (List.mem_singleton_self _)
  refine ⟨rfl, Inventory.isSteady_scripted _, rfl, rfl, ⟨_, withdrawn, rfl, by decide⟩, ?_, ?_⟩
  · exact ⟨⟨"npu-1-0", true, some 0⟩, List.mem_cons_of_mem _ (List.mem_singleton_self _), rfl⟩
  · refine ⟨Registration.nodeAnnotations after.inventory "Reported", _, _, rfl,
      Registration.find?_nodeRegister after.inventory "Reported", Registration.decode?_encode _, ?_⟩
    exact ⟨_, List.mem_map_of_mem withdrawn, rfl⟩

end Node
end VirtualNpu
