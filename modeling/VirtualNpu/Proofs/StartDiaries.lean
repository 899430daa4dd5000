import Mathlib.Data.List.Nodup
import VirtualNpu.Inventory.Scripted
import VirtualNpu.Plugin.Diary
import VirtualNpu.Proofs.ServingPeriods
import VirtualNpu.Proofs.StartHurdles

/-!
Starts and the calls that come of them.  The invariant is that a reporter is there only if the
start before was the last one and succeeded, and that the kubelet has got one request for each
start that asked it where it could be reached.
-/

namespace VirtualNpu
namespace Plugin

variable {σ κ ω : Type}

theorem stop_opened (host : Host ω) (plugin : Plugin σ κ ω) :
    (plugin.stop host).2.opened = plugin.opened := by
  unfold stop cancelRunning
  cases plugin.running <;> rfl

theorem stop_reporter (host : Host ω) (plugin : Plugin σ κ ω) :
    (plugin.stop host).2 = plugin ∨ (plugin.stop host).2.node.reporter = none := by
  unfold stop cancelRunning
  cases plugin.running with
  | none => exact Or.inl rfl
  | some token => exact Or.inr rfl

/-! ### Starts and reporters -/

structure Kept (diary : Diary σ κ ω) : Prop where
  numbered : diary.starts.map Opening.period = List.range diary.course.plugin.opened
  reporting : diary.course.plugin.node.reporter ≠ none →
    ∃ opening, diary.starts.getLast? = some opening ∧ opening.result = .ok ()
  reported : ∀ call ∈ diary.reported,
    ∃ opening ∈ diary.starts, opening.period = call.period ∧ opening.result = .ok ()

theorem kept_start (settings : Settings) (node : Node σ (Cluster.Ledger κ)) (machine : ω) :
    Kept (.start settings node machine : Diary σ κ ω) where
  numbered := rfl
  reporting some := absurd rfl some
  reported := by
    intro call impossible
    cases impossible

variable {diary : Diary σ κ ω}

theorem Kept.latest (kept : Kept diary) {opening : Opening ω}
    (last : diary.starts.getLast? = some opening) :
    opening.period = diary.course.plugin.opened - 1 := by
  have numbered := congrArg List.getLast? kept.numbered
  rw [List.getLast?_map, last, List.getLast?_range] at numbered
  split at numbered
  · cases numbered
  · exact Option.some.inj numbered

private theorem kept_started (world : World σ κ ω) (kept : Kept diary) :
    Kept (diary.step world (.call .start)) := by
  have taken := takesHurdles_start world.provider world.host diary.course.plugin
  constructor
  case numbered =>
    change (diary.starts ++ [_]).map Opening.period = List.range (start _ _ _).2.opened
    rw [start_opened, List.range_succ, ← kept.numbered]
    exact List.map_append
  case reporting =>
    intro reporter
    refine ⟨_, List.getLast?_concat, ?_⟩
    exact Classical.byContradiction fun failed => reporter (taken.unreported failed)
  case reported =>
    intro call member
    change call ∈ diary.reported ++ [] at member
    rw [List.append_nil] at member
    obtain ⟨opening, earlier, found⟩ := kept.reported call member
    exact ⟨opening, List.mem_append_left _ earlier, found⟩

/-- Other acts start no reporter, and what they report is of the one that was there. -/
private theorem kept_between (world : World σ κ ω) (act : Act σ (Cluster.Ledger κ) ω)
    (kept : Kept diary) (unstarted : startedBy world.withCalls diary.course.plugin act = [])
    (opened : (diary.step world act).course.plugin.opened = diary.course.plugin.opened)
    (reporter : diary.course.plugin.node.reporter = none →
      (diary.step world act).course.plugin.node.reporter = none)
    (calls : ∀ call ∈ reportedBy diary.course.plugin (diary.step world act).course.plugin act,
      diary.course.plugin.node.reporter ≠ none ∧
        call.period = diary.course.plugin.opened - 1) :
    Kept (diary.step world act) := by
  have starts : (diary.step world act).starts = diary.starts := by
    change diary.starts ++ startedBy world.withCalls diary.course.plugin act = _
    rw [unstarted, List.append_nil]
  constructor
  case numbered =>
    rw [starts, opened]
    exact kept.numbered
  case reporting =>
    intro there
    rw [starts]
    exact kept.reporting (mt reporter there)
  case reported =>
    intro call member
    rw [starts]
    rcases List.mem_append.mp member with earlier | now
    · exact kept.reported call earlier
    · obtain ⟨there, period⟩ := calls call now
      obtain ⟨opening, last, succeeded⟩ := kept.reporting there
      exact ⟨opening, List.mem_of_getLast? last, (kept.latest last).trans period.symm, succeeded⟩

private theorem calls_awaitReport (world : World σ κ ω) :
    ∀ call ∈ reportedBy diary.course.plugin
        (diary.step world .awaitReport).course.plugin .awaitReport,
      diary.course.plugin.node.reporter ≠ none ∧
        call.period = diary.course.plugin.opened - 1 := by
  intro call member
  constructor
  · intro none
    have same : (diary.step world .awaitReport).course.plugin = diary.course.plugin := by
      simp only [Diary.step, Course.step, awaitReport, none]
    rw [same] at member
    simp [reportedBy] at member
  · obtain ⟨entry, _entered, rfl⟩ := List.mem_map.mp member
    rfl

private theorem kept_served (world : World σ κ ω) (act : Act σ (Cluster.Ledger κ) ω)
    (other : act.isCall = false) (kept : Kept diary)
    (calls : ∀ call ∈ reportedBy diary.course.plugin (diary.step world act).course.plugin act,
      diary.course.plugin.node.reporter ≠ none ∧
        call.period = diary.course.plugin.opened - 1) :
    Kept (diary.step world act) := by
  have served := (step_served world.withCalls diary.course act other).1
  refine kept_between world act kept ?_ served.opened served.reporter calls
  cases act with
  | call call => cases other
  | _ => rfl

theorem kept_step (world : World σ κ ω) (act : Act σ (Cluster.Ledger κ) ω)
    (kept : Kept diary) : Kept (diary.step world act) := by
  cases act with
  | call call =>
      cases call with
      | start => exact kept_started world kept
      | stop =>
          refine kept_between world _ kept rfl
            (stop_opened world.host.withLedger diary.course.plugin) (fun none => ?_)
            (fun call impossible => by cases impossible)
          rcases stop_reporter world.host.withLedger diary.course.plugin with same | stopped
          · exact (congrArg (·.node.reporter) same).trans none
          · exact stopped
  | awaitReport => exact kept_served world _ rfl kept (calls_awaitReport world)
  | _ => exact kept_served world _ rfl kept (fun call impossible => by cases impossible)

theorem kept_run (world : World σ κ ω) (acts : List (Act σ (Cluster.Ledger κ) ω))
    (kept : Kept diary) : Kept (diary.run world acts) := by
  induction acts generalizing diary with
  | nil => exact kept
  | cons act rest ih => exact ih (kept_step world act kept)

/-! ### Starts and requests -/

def LeavesRequests (received : ω → List Request) : Act σ κ ω → Prop
  | .machine change => ∀ machine, received (change machine) = received machine
  | _ => True

theorem step_names (world : World σ κ ω) (course : Course σ κ ω) (act : Act σ κ ω) :
    SameNames course.plugin (course.step world act).plugin := by
  cases act with
  | call call =>
      cases call with
      | start => exact start_names world.provider world.host.withLedger course.plugin
      | stop => exact stop_names world.host.withLedger course.plugin
  | _ => exact (step_served world course _ rfl).1.names

theorem run_names (world : World σ κ ω) (acts : List (Act σ κ ω)) (course : Course σ κ ω) :
    SameNames course.plugin (course.run world acts).plugin := by
  induction acts generalizing course with
  | nil => exact ⟨rfl, rfl⟩
  | cons act rest ih =>
      have first := step_names world course act
      have later := ih (course.step world act)
      exact ⟨later.settings.trans first.settings, later.family.trans first.family⟩

section
variable {host : Host ω} {reaches : String → ω → Bool} {received : ω → List Request}

def requestsAt (reaches : ω → Bool) (request : Request) (starts : List (Opening ω)) :
    List Request :=
  List.replicate (starts.countP fun opening => opening.asking.any reaches) request

theorem requestsAt_append (reaches : ω → Bool) (request : Request)
    (earlier later : List (Opening ω)) :
    requestsAt reaches request (earlier ++ later) =
      requestsAt reaches request earlier ++ requestsAt reaches request later := by
  unfold requestsAt
  rw [List.countP_append, List.replicate_append_replicate]

theorem requestsAt_singleton (reaches : ω → Bool) (request : Request) (opening : Opening ω) :
    requestsAt reaches request [opening] =
      if opening.asking.any reaches then [request] else [] := by
  unfold requestsAt
  rw [List.countP_singleton]
  split <;> rfl

private theorem stop_received (brings : BringsRequests host reaches received)
    (plugin : Plugin σ κ (Ledger ω)) :
    received (plugin.stop host.withLedger).2.machine.machine =
      received plugin.machine.machine := by
  cases running : plugin.running with
  | none => rw [stop_idle host.withLedger plugin running]
  | some token =>
      rw [stop_running host.withLedger plugin token running]
      exact brings.cleared _ _

private theorem between_received (world : World σ κ ω) (course : Course σ κ ω) (act : Act σ κ ω)
    (other : act.isCall = false) (leaves : LeavesRequests received act) :
    received (course.step world act).plugin.machine.machine =
      received course.plugin.machine.machine := by
  rw [step_machine world course act other]
  cases act with
  | machine change => exact leaves _
  | _ => rfl

private theorem step_received (world : World σ κ ω)
    (brings : BringsRequests world.host reaches received) (course : Course σ κ ω)
    (act : Act σ κ ω) (leaves : LeavesRequests received act) :
    received (course.step world act).plugin.machine.machine =
      received course.plugin.machine.machine ++
        requestsAt (reaches course.plugin.settings.kubeletSocket) course.plugin.request
          (startedBy world course.plugin act) := by
  cases act with
  | call call =>
      cases call with
      | start =>
          have taken := takesHurdles_start world.provider world.host course.plugin
          refine (taken.requested reaches received brings).trans ?_
          rw [startedBy, requestsAt_singleton]
          rfl
      | stop =>
          have same := stop_received brings course.plugin
          exact same.trans (List.append_nil _).symm
  | _ => exact (between_received world course _ rfl leaves).trans (List.append_nil _).symm

private theorem run_received (world : World σ κ ω)
    (brings : BringsRequests world.host reaches received)
    (acts : List (Act σ (Cluster.Ledger κ) ω)) (diary : Diary σ κ ω)
    (leaves : ∀ act ∈ acts, LeavesRequests received act) (before : List Request)
    (kept : received diary.course.plugin.machine.machine =
      before ++ requestsAt (reaches diary.course.plugin.settings.kubeletSocket)
        diary.course.plugin.request diary.starts) :
    let after := diary.run world acts
    received after.course.plugin.machine.machine =
      before ++ requestsAt (reaches after.course.plugin.settings.kubeletSocket)
        after.course.plugin.request after.starts := by
  induction acts generalizing diary with
  | nil => exact kept
  | cons act rest ih =>
      refine ih (diary.step world act) (fun later member => leaves later (.tail _ member)) ?_
      have names := step_names world.withCalls diary.course act
      have got := step_received world.withCalls brings diary.course act
        (leaves act List.mem_cons_self)
      change received (diary.course.step world.withCalls act).plugin.machine.machine =
        before ++ requestsAt
          (reaches (diary.course.step world.withCalls act).plugin.settings.kubeletSocket)
          (diary.course.step world.withCalls act).plugin.request
          (diary.starts ++ startedBy world.withCalls diary.course.plugin act)
      rw [got, kept, names.settings, names.request, requestsAt_append, List.append_assoc]

/-- The kubelet gets the request of the plugin once for each start that asks where it listens. -/
private theorem requests_run (world : World σ κ ω)
    (brings : BringsRequests world.host reaches received) (settings : Settings)
    (node : Node σ (Cluster.Ledger κ)) (machine : ω) (acts : List (Act σ (Cluster.Ledger κ) ω))
    (leaves : ∀ act ∈ acts, LeavesRequests received act) :
    let diary := (Diary.start settings node machine).run world acts
    received diary.course.plugin.machine.machine =
      received machine ++ requestsAt (reaches settings.kubeletSocket)
        (Course.start settings node machine).plugin.request diary.starts := by
  intro diary
  have got := run_received world brings acts (.start settings node machine) leaves
    (received machine) (List.append_nil _).symm
  have names : SameNames (Course.start settings node machine).plugin diary.course.plugin := by
    rw [Diary.run_course world acts (.start settings node machine)]
    exact run_names world.withCalls acts (.start settings node machine)
  refine got.trans ?_
  rw [names.request, names.settings]
  rfl

end

/-- On the played machine the kubelet is reached where it listens at its socket. -/
theorem played_requests (world : Node.World σ κ) (settings : Settings)
    (node : Node σ (Cluster.Ledger κ)) (machine : Machine)
    (acts : List (Act σ (Cluster.Ledger κ) Machine))
    (leaves : ∀ act ∈ acts, LeavesRequests (fun now => now.requests.reverse) act) :
    let diary := (Diary.start settings node machine).run ⟨world, Machine.played⟩ acts
    diary.course.plugin.machine.machine.requests.reverse =
      machine.requests.reverse ++
        requestsAt (fun now => now.listener? settings.kubeletSocket == some .kubelet)
          (Course.start settings node machine).plugin.request diary.starts :=
  requests_run ⟨world, Machine.played⟩ Machine.played_bringsRequests settings node machine acts
    leaves

/-- Starts go hurdle by hurdle, from any state of the plugin and whatever its surroundings answer.
Reporters call the cluster only for periods whose start has succeeded, and the kubelet gets one
request for each start that has passed the probe and reached it. -/
theorem starts_go_hurdle_by_hurdle (world : World σ κ ω) :
    (∀ plugin : Plugin σ κ (Ledger ω),
      TakesHurdles world.provider world.host plugin
        (start world.provider world.host.withLedger plugin).1
        (start world.provider world.host.withLedger plugin).2) ∧
    ∀ (settings : Settings) (node : Node σ (Cluster.Ledger κ)) (machine : ω)
      (acts : List (Act σ (Cluster.Ledger κ) ω)),
      let diary := (Diary.start settings node machine).run world acts
      (∀ call ∈ diary.reported,
        ∃ opening ∈ diary.starts, opening.period = call.period ∧ opening.result = .ok ()) ∧
      (∀ opening ∈ diary.starts, opening.result ≠ .ok () →
        ∀ call ∈ diary.reported, call.period ≠ opening.period) ∧
      ∀ reaches received, BringsRequests world.host reaches received →
        (∀ act ∈ acts, LeavesRequests received act) →
        received diary.course.plugin.machine.machine =
          received machine ++
            List.replicate
              (diary.starts.countP fun opening =>
                opening.asking.any (reaches settings.kubeletSocket))
              ⟨"v1beta1", node.state.inventory.family.commonWord ++ ".sock",
                node.state.inventory.family.resourceName, Kubelet.pluginOptions⟩ := by
  refine ⟨takesHurdles_start world.provider world.host, ?_⟩
  intro settings node machine acts diary
  have kept : Kept diary := kept_run world acts (kept_start settings node machine)
  refine ⟨kept.reported, ?_, ?_⟩
  · intro opening started failed call reported period
    obtain ⟨other, member, same, succeeded⟩ := kept.reported call reported
    have distinct : (diary.starts.map Opening.period).Nodup := by
      rw [kept.numbered]
      exact List.nodup_range
    rw [List.inj_on_of_nodup_map distinct member started (same.trans period)] at succeeded
    exact failed succeeded
  · intro reaches received brings leaves
    exact requests_run world brings settings node machine acts leaves

private structure Counter where
  refusing : Bool
  requests : List Request

private def counterWorld : World Inventory.Script Cluster.Stage Counter :=
  { provider := Inventory.scripted
    client := Cluster.staged
    clock := fun _ stage => stage
    handshake := fun _ _ => some "Reported"
    host :=
      { clear := fun _ counter => (true, counter)
        listen := fun _ _ counter => (true, counter)
        probe := fun _ counter => (true, counter)
        register := fun _ request counter =>
          (!counter.refusing, { counter with requests := counter.requests ++ [request] })
        listener? := fun _ _ => none } }

private def counterSettings : Settings := ⟨"/plugins", "/kubelet.sock", .default, 0⟩

private def counterNode : Node Inventory.Script (Cluster.Ledger Cluster.Stage) :=
  .start "node" ⟨"910B3", "Ascend910B3", "npu", 65536, 65536, 20, none, []⟩ (.quiet "910B3")
    (.start .empty)

/-- A start with a report, a second one that the kubelet refuses, and a third that cannot list
the devices. -/
private def counterActs :
    List (Act Inventory.Script (Cluster.Ledger Cluster.Stage) Counter) :=
  [.call .start, .awaitReport, .machine ({ · with refusing := true }), .call .start,
    .provider ({ · with failEnumerate := true }), .call .start]

theorem refused_and_unlisted_starts :
    let diary := (Diary.start counterSettings counterNode ⟨false, []⟩).run counterWorld counterActs
    (diary.starts.map fun opening => (opening.period, opening.result.isOk)) =
        [(0, true), (1, false), (2, false)] ∧
      diary.reported.map Reported.period = [0] ∧
      diary.course.plugin.machine.machine.requests =
        List.replicate 2 ⟨"v1beta1", "Ascend910B3.sock", "npu", ⟨false, false⟩⟩ := by
  have brings : BringsRequests counterWorld.host (fun _ _ => true) Counter.requests :=
    ⟨fun _ _ => rfl, fun _ _ _ => rfl, fun _ _ => rfl, fun _ _ _ => rfl⟩
  have leaves : ∀ act ∈ counterActs, LeavesRequests Counter.requests act := by
    intro act member
    simp only [counterActs, List.mem_cons, List.not_mem_nil, or_false] at member
    rcases member with rfl | rfl | rfl | rfl | rfl | rfl <;> first | trivial | exact fun _ => rfl
  obtain ⟨_hurdles, courses⟩ := starts_go_hurdle_by_hurdle counterWorld
  obtain ⟨_calls, _uncalled, requests⟩ :=
    courses counterSettings counterNode ⟨false, []⟩ counterActs
  exact ⟨rfl, rfl, requests (fun _ _ => true) Counter.requests brings leaves⟩

end Plugin
end VirtualNpu
