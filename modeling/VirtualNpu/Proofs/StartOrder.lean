import VirtualNpu.Plugin.Trial
import VirtualNpu.Proofs.StartStages

/-!
A start in one case analysis: it is refused a listing, is stuck at a later hurdle, or serves.  What
the plugin is left as is written out in each case, so that no other proof runs the stages again.
-/

namespace VirtualNpu
namespace Plugin

variable {σ κ ω : Type}

/-! ### The stages -/

theorem inOrder_of_ok {stage : Stage σ κ ω} {plugin between : Plugin σ κ ω}
    (done : stage plugin = (.ok (), between)) (rest : List (Stage σ κ ω)) :
    inOrder (stage :: rest) plugin = inOrder rest between := by
  rw [inOrder, done]

theorem inOrder_of_error {stage : Stage σ κ ω} {plugin left : Plugin σ κ ω}
    {report : Report Error} (failed : stage plugin = (.error report, left))
    (rest : List (Stage σ κ ω)) :
    inOrder (stage :: rest) plugin = (.error report, left) := by
  rw [inOrder, failed]

def tried (attempt : Bool × ω) (error : Error) : Stage σ κ ω :=
  machineStage (fun _ => attempt) error

theorem tried_of_success {attempt : Bool × ω} (succeeded : attempt.1 = true) (error : Error)
    (plugin : Plugin σ κ ω) :
    tried attempt error plugin = (.ok (), { plugin with machine := attempt.2 }) :=
  Prod.ext (if_pos succeeded) rfl

theorem tried_of_failure {attempt : Bool × ω} (failed : attempt.1 = false) (error : Error)
    (plugin : Plugin σ κ ω) :
    tried attempt error plugin = (.error (.of error), { plugin with machine := attempt.2 }) :=
  Prod.ext (if_neg (Bool.eq_false_iff.mp failed)) rfl

/-! ### Periods that have just been opened -/

/-- A new period keeps of the node what is not of a period. -/
theorem openPeriod_eq (plugin : Plugin σ κ ω) :
    plugin.openPeriod =
      { plugin with
        node := { plugin.node with watches := [], stopped := false, reporter := none }
        past := plugin.cancelRunning.past ++ plugin.cancelRunning.node.watches
        opened := plugin.opened + 1
        live := plugin.opened :: plugin.cancelRunning.live
        running := some plugin.opened } := by
  unfold openPeriod cancelRunning
  cases plugin.running <;> rfl

def asked (plugin : Plugin σ κ ω) (provider : σ) : Plugin σ κ ω :=
  let opened := plugin.openPeriod
  { opened with node := opened.node.setProvider fun _ => provider }

def listed (plugin : Plugin σ κ ω) (devices : List (UInt32 × Inventory.RawDevice))
    (provider : σ) : Plugin σ κ ω :=
  let opened := plugin.asked provider
  let state := opened.node.state
  { opened with
    node := { opened.node with
      state := { state with inventory := state.inventory.replace devices } } }

def reporting (plugin : Plugin σ κ ω) (devices : List (UInt32 × Inventory.RawDevice))
    (provider : σ) (machine : ω) : Plugin σ κ ω :=
  let opened := plugin.listed devices provider
  { opened with
    node := opened.node.startReporter plugin.settings.intervals plugin.settings.offset
    machine }

section
variable {provider : Inventory.Provider σ} {host : Host ω} {plugin : Plugin σ κ ω}
  {devices : List (UInt32 × Inventory.RawDevice)} {after : σ}

/-- What a start comes to.  One that is stuck is stopped again. -/
inductive StartsTo (provider : Inventory.Provider σ) (host : Host ω) (plugin : Plugin σ κ ω) :
    Except (Report Error) Unit × Plugin σ κ ω → Prop
  | unrefreshed {cause : Report Inventory.Error} {after : σ}
      (refused : provider.devices plugin.node.state.provider = (.error cause, after)) :
      StartsTo provider host plugin
        (.error (.above .inventory cause), ((plugin.asked after).stop host).2)
  | stuck {devices : List (UInt32 × Inventory.RawDevice)} {after : σ} (hurdle : Hurdle)
      (listed : provider.devices plugin.node.state.provider = (.ok devices, after))
      (comes : plugin.comesTo host provider hurdle = true)
      (fails : plugin.passes host provider hurdle = false) :
      StartsTo provider host plugin
        (.error (.of (plugin.errorAt hurdle)),
          (stop host
            { plugin.listed devices after with machine := plugin.stuckAt host hurdle }).2)
  | serving {devices : List (UInt32 × Inventory.RawDevice)} {after : σ}
      (listed : provider.devices plugin.node.state.provider = (.ok devices, after))
      (passes : ∀ hurdle, plugin.passes host provider hurdle = true) :
      StartsTo provider host plugin
        (.ok (), plugin.reporting devices after (plugin.registering host).2)

theorem refreshStage_refused {cause : Report Inventory.Error}
    (refused : provider.devices plugin.node.state.provider = (.error cause, after)) :
    refreshStage provider plugin.openPeriod =
      (.error (.above .inventory cause), plugin.asked after) := by
  unfold asked
  rw [openPeriod_eq]
  simp only [refreshStage, Node.refresh, Inventory.refresh, refused]
  rfl

theorem refreshStage_listed
    (listed : provider.devices plugin.node.state.provider = (.ok devices, after)) :
    refreshStage provider plugin.openPeriod = (.ok (), plugin.listed devices after) := by
  unfold Plugin.listed asked
  rw [openPeriod_eq]
  simp only [refreshStage, Node.refresh, Inventory.refresh, listed]
  rfl

end

section
variable (host : Host ω) (plugin : Plugin σ κ ω) (devices : List (UInt32 × Inventory.RawDevice))
  (after : σ)

theorem clearStage_listed :
    clearStage host (plugin.listed devices after) =
      tried (plugin.clearing host) (.socket plugin.socketPath) (plugin.listed devices after) := by
  unfold listed asked
  rw [openPeriod_eq]
  rfl

theorem listenStage_listed (machine : ω) :
    listenStage host { plugin.listed devices after with machine } =
      tried (host.listen plugin.socketPath plugin.opened machine) (.socket plugin.socketPath)
        (plugin.listed devices after) := by
  unfold listed asked
  rw [openPeriod_eq]
  rfl

theorem probeStage_listed (machine : ω) :
    probeStage host { plugin.listed devices after with machine } =
      tried (host.probe plugin.socketPath machine) (.liveness plugin.socketPath)
        (plugin.listed devices after) := by
  unfold listed asked
  rw [openPeriod_eq]
  rfl

theorem registerStage_listed (machine : ω) :
    registerStage host { plugin.listed devices after with machine } =
      tried (host.register plugin.settings.kubeletSocket plugin.request machine)
        (.registration plugin.settings.kubeletSocket) (plugin.listed devices after) := by
  unfold listed asked
  rw [openPeriod_eq]
  rfl

theorem reportStage_listed (machine : ω) :
    reportStage { plugin.listed devices after with machine } =
      (.ok (), plugin.reporting devices after machine) := by
  unfold reporting listed asked
  rw [openPeriod_eq]
  rfl

end

theorem startsTo_start (provider : Inventory.Provider σ) (host : Host ω)
    (plugin : Plugin σ κ ω) : StartsTo provider host plugin (start provider host plugin) := by
  unfold start
  rcases listed : provider.devices plugin.node.state.provider with ⟨cause | devices, after⟩
  · rw [stages, inOrder_of_error (refreshStage_refused listed)]
    exact .unrefreshed listed
  have refreshes : plugin.passes host provider .refresh = true := by
    unfold passes
    rw [listed]
    rfl
  have clears := clearStage_listed host plugin devices after
  have listens := listenStage_listed host plugin devices after (plugin.clearing host).2
  have probes := probeStage_listed host plugin devices after (plugin.listening host).2
  have registers := registerStage_listed host plugin devices after (plugin.probing host).2
  rw [stages, inOrder_of_ok (refreshStage_listed listed)]
  cases cleared : (plugin.clearing host).1 with
  | false =>
      rw [inOrder_of_error (clears.trans (tried_of_failure cleared _ _))]
      rw [← stuckAt_bind_uncleared cleared]
      exact .stuck .bind listed (by simp [comesTo, Hurdle.earlier, refreshes])
        (by simp [passes, cleared])
  | true =>
  rw [inOrder_of_ok (clears.trans (tried_of_success cleared _ _))]
  cases bound : (plugin.listening host).1 with
  | false =>
      rw [inOrder_of_error (listens.trans (tried_of_failure bound _ _))]
      rw [← stuckAt_bind_cleared cleared]
      exact .stuck .bind listed (by simp [comesTo, Hurdle.earlier, refreshes])
        (by simp [passes, bound])
  | true =>
  have binds : plugin.passes host provider .bind = true := by simp [passes, cleared, bound]
  rw [inOrder_of_ok (listens.trans (tried_of_success bound _ _))]
  cases answered : plugin.passes host provider .probe with
  | false =>
      rw [inOrder_of_error (probes.trans (tried_of_failure answered _ _))]
      exact .stuck .probe listed (by simp [comesTo, Hurdle.earlier, refreshes, binds]) answered
  | true =>
  rw [inOrder_of_ok (probes.trans (tried_of_success answered _ _))]
  cases registered : plugin.passes host provider .register with
  | false =>
      rw [inOrder_of_error (registers.trans (tried_of_failure registered _ _))]
      exact .stuck .register listed
        (by simp [comesTo, Hurdle.earlier, refreshes, binds, answered]) registered
  | true =>
      rw [inOrder_of_ok (registers.trans (tried_of_success registered _ _)),
        inOrder_of_ok (reportStage_listed plugin devices after _)]
      refine .serving listed fun hurdle => ?_
      cases hurdle with
      | refresh => exact refreshes
      | bind => exact binds
      | probe => exact answered
      | register => exact registered

end Plugin
end VirtualNpu
