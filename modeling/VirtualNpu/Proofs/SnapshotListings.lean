import VirtualNpu.Inventory.Scripted
import VirtualNpu.Proofs.HealthConvergence

/-!
Where the snapshot of a node comes from.  A provider lists its devices as a whole or fails with
its first failure, and whatever happens on a node, the snapshot is the listing of the last
refresh that did not fail.
-/

namespace VirtualNpu

variable {σ κ : Type}

namespace Inventory

/-! ### Devices asked one after the other -/

section
variable (query : UInt32 → σ → Answer σ RawDevice)

inductive Queried : List UInt32 → σ → List (UInt32 × RawDevice) → σ → Prop
  | nil (state : σ) : Queried [] state [] state
  | cons {id : UInt32} {ids : List UInt32} {state between after : σ} {device : RawDevice}
      {devices : List (UInt32 × RawDevice)} (answered : query id state = (.ok device, between))
      (others : Queried ids between devices after) :
      Queried (id :: ids) state ((id, device) :: devices) after

/-- What is reported of the first device that does not answer.  Those behind it are not asked. -/
inductive FirstFailure : List UInt32 → σ → Report Error → Prop
  | device {asked unasked : List UInt32} {id : UInt32} {state between after : σ}
      {devices : List (UInt32 × RawDevice)} {cause : Report Error}
      (answered : Queried query asked state devices between)
      (failed : query id between = (.error cause, after)) :
      FirstFailure (asked ++ id :: unasked) state
        (cause.note ("listing aborted at device " ++ toString id.toNat))

variable {query}

theorem Queried.ids {ids : List UInt32} {state after : σ} {devices : List (UInt32 × RawDevice)}
    (queried : Queried query ids state devices after) : devices.map Prod.fst = ids := by
  induction queried with
  | nil => rfl
  | cons answered others ih => rw [List.map_cons, ih]

theorem FirstFailure.behind {id : UInt32} {ids : List UInt32} {state between : σ}
    {device : RawDevice} {report : Report Error}
    (answered : query id state = (.ok device, between))
    (fails : FirstFailure query ids between report) :
    FirstFailure query (id :: ids) state report := by
  cases fails with
  | device others failed =>
      rw [← List.cons_append]
      exact .device (.cons answered others) failed

theorem queryEach_spec (query : UInt32 → σ → Answer σ RawDevice) (ids : List UInt32) (state : σ) :
    match queryEach query ids state with
    | (.ok devices, after) => Queried query ids state devices after
    | (.error report, _) => FirstFailure query ids state report := by
  induction ids generalizing state with
  | nil => exact .nil state
  | cons id ids ih =>
      unfold queryEach
      rcases answered : query id state with ⟨cause | device, between⟩
      · exact .device (.nil state) answered
      · have others := ih between
        dsimp only
        rcases listed : queryEach query ids between with ⟨report | devices, after⟩
        · rw [listed] at others
          exact others.behind answered
        · rw [listed] at others
          exact .cons answered others

theorem Queried.listed {ids : List UInt32} {state after : σ}
    {devices : List (UInt32 × RawDevice)} (queried : Queried query ids state devices after) :
    queryEach query ids state = (.ok devices, after) := by
  induction queried with
  | nil => rfl
  | cons answered others ih => simp only [queryEach, answered, ih]

theorem FirstFailure.listed {ids : List UInt32} {state : σ} {report : Report Error}
    (fails : FirstFailure query ids state report) :
    ∃ after, queryEach query ids state = (.error report, after) := by
  cases fails with
  | @device _ _ _ _ _ after _ _ others failed =>
      refine ⟨after, ?_⟩
      induction others with
      | nil => simp only [List.nil_append, queryEach, failed]
      | cons answered others ih => simp only [List.cons_append, queryEach, answered, ih failed]

variable {logicIds : σ → Answer σ (List UInt32)} {state : σ}

inductive ListingFailure (logicIds : σ → Answer σ (List UInt32))
    (query : UInt32 → σ → Answer σ RawDevice) (state : σ) : Report Error → Prop
  | enumeration {report : Report Error} {after : σ}
      (failed : logicIds state = (.error report, after)) :
      ListingFailure logicIds query state report
  | device {ids : List UInt32} {report : Report Error} {between : σ}
      (enumerated : logicIds state = (.ok ids, between))
      (fails : FirstFailure query ids between report) :
      ListingFailure logicIds query state report

theorem listByQuery_eq_ok_iff (devices : List (UInt32 × RawDevice)) :
    (listByQuery logicIds query state).1 = .ok devices ↔
      ∃ between after, logicIds state = (.ok (devices.map Prod.fst), between) ∧
        Queried query (devices.map Prod.fst) between devices after := by
  unfold listByQuery
  rcases enumerated : logicIds state with ⟨report | ids, between⟩
  · simp
  · have each := queryEach_spec query ids between
    dsimp only
    constructor
    · intro answer
      rcases listed : queryEach query ids between with ⟨report | found, after⟩
      · rw [listed] at answer
        cases answer
      · rw [listed] at answer each
        cases answer
        rw [each.ids]
        exact ⟨between, after, rfl, each⟩
    · rintro ⟨between', after, same, queried⟩
      cases same
      rw [queried.listed]

theorem listByQuery_eq_error_iff (report : Report Error) :
    (listByQuery logicIds query state).1 = .error report ↔
      ListingFailure logicIds query state report := by
  constructor
  · intro failed
    unfold listByQuery at failed
    rcases enumerated : logicIds state with ⟨report | ids, between⟩
    · rw [enumerated] at failed
      cases failed
      exact .enumeration enumerated
    · have each := queryEach_spec query ids between
      rw [enumerated] at failed
      dsimp only at failed
      rcases listed : queryEach query ids between with ⟨report | devices, after⟩
      · rw [listed] at failed each
        cases failed
        exact .device enumerated each
      · rw [listed] at failed
        cases failed
  · intro fails
    cases fails with
    | enumeration failed => simp only [listByQuery, failed]
    | device enumerated fails =>
        obtain ⟨after, listed⟩ := fails.listed
        simp only [listByQuery, enumerated, listed]

end

/-! ### Snapshots as listings -/

abbrev Listed := Except (Report Error) (List (UInt32 × RawDevice))

def PhysicalDevice.reported (device : PhysicalDevice) : UInt32 × RawDevice :=
  (device.logicIndex,
    { uuid := device.uuid
      physicalId := device.physicalIndex
      cardId := device.cardIndex
      deviceId := device.deviceIndex
      numa := device.numa
      healthy := device.healthy })

/-- Whether the snapshot is a listing, with what the family says of each device. -/
structure Shows (devices : List (UInt32 × RawDevice)) (inventory : Inventory) : Prop where
  listing : inventory.snapshot.map PhysicalDevice.reported = devices
  resources : ∀ device ∈ inventory.snapshot,
    device.memory = inventory.family.memoryAllocatable ∧ device.cores = inventory.family.aiCore

theorem shows_empty (family : Config.ChipFamily) : Shows [] (.empty family) :=
  ⟨rfl, by simp [empty]⟩

theorem shows_replace (inventory : Inventory) (devices : List (UInt32 × RawDevice)) :
    Shows devices (inventory.replace devices) := by
  refine ⟨?_, ?_⟩
  · have same : PhysicalDevice.reported ∘ (fun device : UInt32 × RawDevice =>
        PhysicalDevice.ofRaw inventory.family device.1 device.2) = id := rfl
    rw [replace, List.map_map, same, List.map_id]
  · intro device inside
    obtain ⟨raw, _listed, rfl⟩ := List.mem_map.mp inside
    exact ⟨rfl, rfl⟩

end Inventory

namespace Registration

open Inventory (Listed)

def refreshFrom? (provider : Inventory.Provider σ) (state : State σ κ) : Option σ :=
  match Inventory.pollUnhealthy provider state.provider with
  | (.error _, _) => none
  | (.ok polled, after) =>
      if polled.isEmpty && state.inventory.snapshot.unhealthy.isEmpty then none else some after

section
variable (provider : Inventory.Provider σ) (client : Cluster.Client κ) (node : String)
  (handshake : Option String) (state : State σ κ)

theorem publish_inventory :
    (publish client node handshake state).2.inventory = state.inventory := by
  rw [publish_state]

def refreshOf? : Option Listed :=
  (refreshFrom? provider state).map fun asked => (provider.devices asked).1

theorem report_refresh :
    (report provider client node handshake state).2.inventory =
        (match refreshOf? provider state with
          | some (.ok devices) => state.inventory.replace devices
          | _ => state.inventory) ∧
      ((report provider client node handshake state).1 = .failed .refresh ↔
        ∃ cause, refreshOf? provider state = some (.error cause)) := by
  unfold report refreshOf? refreshFrom?
  rcases Inventory.pollUnhealthy provider state.provider with ⟨failure | polled, between⟩
  · exact ⟨rfl, by simp⟩
  · dsimp only
    unfold refreshUnhealthy
    by_cases quiet : (polled.isEmpty && state.inventory.snapshot.unhealthy.isEmpty) = true
    · simp only [if_pos quiet, Option.map_none]
      refine ⟨publish_inventory client node handshake _, ?_⟩
      simp [publish_answered]
    · simp only [if_neg quiet, Option.map_some, Inventory.refresh]
      rcases provider.devices between with ⟨failure | devices, after⟩
      · exact ⟨rfl, by simp⟩
      · refine ⟨publish_inventory client node handshake _, ?_⟩
        simp [publish_answered]

end

end Registration

namespace Node

open Inventory (Listed RawDevice)

/-! ### Refreshes of a run -/

def refreshFrom? (world : World σ κ) (course : Course σ κ) : Move σ κ → Option σ
  | .refresh => some course.node.state.provider
  | .tick => course.node.reporter.bind fun _ =>
      Registration.refreshFrom? world.provider course.node.state
  | _ => none

def refreshOf? (world : World σ κ) (course : Course σ κ) (move : Move σ κ) : Option Listed :=
  (refreshFrom? world course move).map fun asked => (world.provider.devices asked).1

/-- The refreshes of a run in their order, those of reports among them. -/
def refreshesOf (world : World σ κ) : Course σ κ → List (Move σ κ) → List Listed
  | _, [] => []
  | course, move :: moves =>
      (refreshOf? world course move).toList ++ refreshesOf world (course.step world move) moves

/-- The last listing that did not fail, or what was known before. -/
def lastListing (known : List (UInt32 × RawDevice)) (refreshes : List Listed) :
    List (UInt32 × RawDevice) :=
  (refreshes.filterMap Except.toOption).getLast?.getD known

theorem lastListing_append (known : List (UInt32 × RawDevice)) (earlier later : List Listed) :
    lastListing known (earlier ++ later) = lastListing (lastListing known earlier) later := by
  simp only [lastListing, List.filterMap_append, List.getLast?_append, Option.getD_or]

theorem step_listed (world : World σ κ) (chronicle : Chronicle σ κ)
    (move : Move σ κ) :
    (chronicle.step world move).inventory =
      match refreshOf? world chronicle.course move with
      | some (.ok devices) => chronicle.inventory.replace devices
      | _ => chronicle.inventory := by
  cases move with
  | refresh =>
      simp only [Chronicle.step, Chronicle.inventory, Course.step, Node.refresh,
        Inventory.refresh, refreshOf?, refreshFrom?, Option.map_some]
      rcases world.provider.devices chronicle.course.node.state.provider with
        ⟨failure | devices, after⟩
      · rfl
      · rfl
  | tick =>
      change (chronicle.course.node.reportMove world).state.inventory = _
      cases running : chronicle.course.node.reporter with
      | none =>
          simp only [reportMove, refreshOf?, refreshFrom?, running, Option.bind_none,
            Option.map_none, Chronicle.inventory]
      | some reporter =>
          simp only [refreshOf?, refreshFrom?, running, Option.bind_some]
          rw [reportMove_state world running]
          exact (Registration.report_refresh world.provider _ _ _ _).1
  | _ => exact step_inventory world chronicle _ id

theorem shows_step (world : World σ κ) (chronicle : Chronicle σ κ) (move : Move σ κ)
    {known : List (UInt32 × RawDevice)} (shows : Inventory.Shows known chronicle.inventory) :
    Inventory.Shows
      (lastListing known (refreshOf? world chronicle.course move).toList)
      (chronicle.step world move).inventory := by
  rw [step_listed]
  cases refreshOf? world chronicle.course move with
  | none => exact shows
  | some listed =>
      cases listed with
      | error report => exact shows
      | ok devices => exact Inventory.shows_replace chronicle.inventory devices

theorem shows_run (world : World σ κ) (moves : List (Move σ κ)) (chronicle : Chronicle σ κ)
    {known : List (UInt32 × RawDevice)} (shows : Inventory.Shows known chronicle.inventory) :
    Inventory.Shows (lastListing known (refreshesOf world chronicle.course moves))
      (chronicle.run world moves).inventory := by
  induction moves generalizing chronicle known with
  | nil => exact shows
  | cons move moves ih =>
      rw [refreshesOf, lastListing_append]
      exact ih (chronicle.step world move) (shows_step world chronicle move shows)

theorem run_family (world : World σ κ) (moves : List (Move σ κ)) (chronicle : Chronicle σ κ) :
    (chronicle.run world moves).inventory.family = chronicle.inventory.family := by
  induction moves generalizing chronicle with
  | nil => rfl
  | cons move moves ih =>
      exact (ih (chronicle.step world move)).trans (step_state world chronicle move).1

theorem run_snapshotAt (world : World σ κ) (moves : List (Move σ κ))
    (chronicle : Chronicle σ κ) (moment : Nat) (snapshot : Inventory.Snapshot)
    (found : chronicle.snapshotAt moment = some snapshot) :
    (chronicle.run world moves).snapshotAt moment = some snapshot := by
  induction moves generalizing chronicle with
  | nil => exact found
  | cons move moves ih =>
      exact ih (chronicle.step world move) (step_snapshotAt world chronicle move _ _ found)

theorem refresh_error_iff (provider : Inventory.Provider σ) (node : Node σ κ)
    (report : Report Inventory.Error) :
    (node.refresh provider).1 = .error report ↔
      (provider.devices node.state.provider).1 = .error report := by
  unfold Node.refresh Inventory.refresh
  rcases provider.devices node.state.provider with ⟨failure | devices, after⟩
  · constructor
    · intro refused
      cases refused
      rfl
    · intro failed
      cases failed
      rfl
  · constructor
    · intro refused
      cases refused
    · intro failed
      cases failed

/-- However a node moves on, its snapshot is the listing of the last refresh that has not
failed, with every device and in the order of the provider.  A refresh that fails, be it at the
first or at the last of the devices and be it made by a report, is one that tells the first
failure and leaves the inventory with all that is read off it.  Snapshots that were current stay
what they were. -/
theorem snapshot_is_last_listing (world : World σ κ) (name : String)
    (family : Config.ChipFamily) (raised : Nat) (provider : σ) (cluster : κ)
    (moves : List (Move σ κ)) :
    let start := Chronicle.start name (.empty family) raised provider cluster
    let chronicle := start.run world moves
    let node := chronicle.course.node
    (chronicle.inventory.family = family ∧
      Inventory.Shows (lastListing [] (refreshesOf world start.course moves))
        chronicle.inventory) ∧
    (∀ report, (node.refresh world.provider).1 = .error report ↔
      refreshOf? world chronicle.course .refresh = some (.error report)) ∧
    (∀ reporter, node.reporter = some reporter →
      ((node.made world reporter).1 = .failed .refresh ↔
        ∃ report, refreshOf? world chronicle.course .tick = some (.error report))) ∧
    (world.provider.devices =
        Inventory.listByQuery world.provider.logicIds world.provider.query →
      ∀ (move : Move σ κ) (asked : σ), refreshFrom? world chronicle.course move = some asked →
        (∀ report, refreshOf? world chronicle.course move = some (.error report) ↔
          Inventory.ListingFailure world.provider.logicIds world.provider.query asked report) ∧
        ∀ devices, refreshOf? world chronicle.course move = some (.ok devices) ↔
          ∃ between after,
            world.provider.logicIds asked = (.ok (devices.map Prod.fst), between) ∧
            Inventory.Queried world.provider.query (devices.map Prod.fst) between devices after) ∧
    (∀ (move : Move σ κ) (report : Report Inventory.Error),
      refreshOf? world chronicle.course move = some (.error report) →
      let after := chronicle.step world move
      after.inventory = chronicle.inventory ∧
      (∀ uuid, after.inventory.snapshot.lookup uuid = chronicle.inventory.snapshot.lookup uuid) ∧
      Kubelet.deviceList after.inventory = Kubelet.deviceList chronicle.inventory) ∧
    ∀ later, (chronicle.run world later).snapshotAt chronicle.moment =
      some chronicle.inventory.snapshot := by
  intro start chronicle node
  refine ⟨⟨run_family world moves start, ?_⟩, ?_, ?_, ?_, ?_, ?_⟩
  · exact shows_run world moves start (Inventory.shows_empty family)
  · intro report
    have asked : refreshOf? world chronicle.course .refresh =
        some (world.provider.devices node.state.provider).1 := rfl
    rw [refresh_error_iff, asked, Option.some.injEq]
  · intro reporter running
    have asked : refreshOf? world chronicle.course .tick =
        Registration.refreshOf? world.provider (node.timed world reporter).state := by
      change (node.reporter.bind fun _ =>
        Registration.refreshFrom? world.provider node.state).map _ = _
      rw [running]
      rfl
    rw [asked]
    exact (Registration.report_refresh world.provider _ _ _ _).2
  · intro byQuery move asked refreshing
    have listed : refreshOf? world chronicle.course move =
        some (world.provider.devices asked).1 := by
      rw [refreshOf?, refreshing, Option.map_some]
    rw [listed, byQuery]
    refine ⟨fun report => ?_, fun devices => ?_⟩
    · rw [Option.some.injEq, Inventory.listByQuery_eq_error_iff]
    · rw [Option.some.injEq, Inventory.listByQuery_eq_ok_iff]
  · intro move report failed after
    have same : after.inventory = chronicle.inventory := by
      change (chronicle.step world move).inventory = _
      rw [step_listed, failed]
    rw [same]
    exact ⟨rfl, fun uuid => rfl, rfl⟩
  · intro later
    exact run_snapshotAt world later chronicle _ _ (snapshotAt_now chronicle)

private def listingWorld : World Inventory.Script Cluster.Stage :=
  ⟨Inventory.scripted, Cluster.staged, fun _ stage => stage, fun _ _ => none⟩

private def pair : List (UInt32 × RawDevice) :=
  [(4, ⟨"npu-4", 0, 2, 0, -1, true⟩), (1, ⟨"npu-1", 1, 1, 0, 0, false⟩)]

/-- The second device that is asked for fails from the second refresh on, and a report asks
for both a first time before it refreshes. -/
private def failing : List (Move Inventory.Script Cluster.Stage) :=
  [.provider fun script => { script with devices := pair }, .refresh,
    .startReporter .default 0, .provider fun script => script.failQuery (some 3)]

private def chips : Config.ChipFamily :=
  ⟨"910B3", "Ascend910B3", "npu", 65536, 65536, 20, none, []⟩

private def held : Chronicle Inventory.Script Cluster.Stage :=
  (Chronicle.start "node" (.empty chips) 0 (.quiet "910B3") .empty).run listingWorld failing

private def refusal : Report Inventory.Error :=
  ⟨.query 1 "injected", [], ["listing aborted at device 1"]⟩

theorem second_device_fails :
    let asked := { held.course.node.state.provider with queries := 2 }
    let reporter : Registration.Reporter := ⟨.default, 0, 1000⟩
    held.inventory.snapshot.map Inventory.PhysicalDevice.reported = pair ∧
    (held.course.node.made listingWorld reporter).1 = .failed .refresh ∧
    Inventory.ListingFailure Inventory.Script.logicIds Inventory.Script.query asked refusal ∧
    (held.step listingWorld .tick).inventory = held.inventory ∧
    (held.run listingWorld [.provider fun script => { script with devices := [] },
      .refresh]).snapshotAt 4 = some held.inventory.snapshot := by
  intro asked reporter
  obtain ⟨⟨_, shows⟩, _, reported, byQuery, kept, stays⟩ :=
    snapshot_is_last_listing listingWorld "node" chips 0 (.quiet "910B3") .empty failing
  have running : held.course.node.reporter = some reporter := rfl
  have listed : refreshOf? listingWorld held.course .tick = some (.error refusal) := rfl
  have refreshing : refreshFrom? listingWorld held.course .tick = some asked := rfl
  refine ⟨shows.listing, (reported reporter running).mpr ⟨refusal, listed⟩, ?_, ?_, ?_⟩
  · exact ((byQuery rfl .tick asked refreshing).1 refusal).mp listed
  · exact (kept .tick refusal listed).1
  · exact stays [.provider fun script => { script with devices := [] }, .refresh]

end Node
end VirtualNpu
