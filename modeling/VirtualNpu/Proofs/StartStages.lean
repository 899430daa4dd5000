import VirtualNpu.Plugin.Course
import VirtualNpu.Proofs.ReportEffects

/-!
What the stages of a start leave alone, and what a stop that ends a period does.
-/

namespace VirtualNpu
namespace Plugin

variable {σ κ ω : Type}

structure SamePeriod (before after : Plugin σ κ ω) : Prop where
  settings : after.settings = before.settings
  family : after.node.state.inventory.family = before.node.state.inventory.family
  stopped : after.node.stopped = before.node.stopped
  opened : after.opened = before.opened
  live : after.live = before.live
  running : after.running = before.running

theorem SamePeriod.trans {before between after : Plugin σ κ ω}
    (first : SamePeriod before between) (second : SamePeriod between after) :
    SamePeriod before after where
  settings := second.settings.trans first.settings
  family := second.family.trans first.family
  stopped := second.stopped.trans first.stopped
  opened := second.opened.trans first.opened
  live := second.live.trans first.live
  running := second.running.trans first.running

theorem SamePeriod.isServing {before after : Plugin σ κ ω} (same : SamePeriod before after) :
    after.isServing = before.isServing := congrArg Option.isSome same.running

theorem SamePeriod.socketPath {before after : Plugin σ κ ω} (same : SamePeriod before after) :
    after.socketPath = before.socketPath := by
  unfold Plugin.socketPath endpoint
  rw [same.settings, same.family]

structure Staged (before after : Plugin σ κ ω) : Prop extends SamePeriod before after where
  watches : after.node.watches = before.node.watches
  past : after.past = before.past

theorem Staged.refl (plugin : Plugin σ κ ω) : Staged plugin plugin :=
  ⟨⟨rfl, rfl, rfl, rfl, rfl, rfl⟩, rfl, rfl⟩

theorem Staged.trans {before between after : Plugin σ κ ω} (first : Staged before between)
    (second : Staged between after) : Staged before after :=
  ⟨first.toSamePeriod.trans second.toSamePeriod, second.watches.trans first.watches,
    second.past.trans first.past⟩

/-! ### One stage -/

theorem refreshStage_staged (provider : Inventory.Provider σ) (plugin : Plugin σ κ ω) :
    Staged plugin (refreshStage provider plugin).2 ∧
      (refreshStage provider plugin).2.machine = plugin.machine := by
  simp only [refreshStage, Node.refresh]
  cases answer : plugin.node.state.inventory.refresh provider plugin.node.state.provider with
  | mk outcome after =>
      cases outcome with
      | ok refreshed =>
          refine ⟨⟨⟨rfl, ?_, rfl, rfl, rfl, rfl⟩, rfl, rfl⟩, rfl⟩
          exact Inventory.refresh_family _ _ _ _ _ answer
      | error report => exact ⟨⟨⟨rfl, rfl, rfl, rfl, rfl, rfl⟩, rfl, rfl⟩, rfl⟩

theorem machineStage_staged (action : ω → Bool × ω) (error : Error) (plugin : Plugin σ κ ω) :
    Staged plugin (machineStage action error plugin).2 :=
  ⟨⟨rfl, rfl, rfl, rfl, rfl, rfl⟩, rfl, rfl⟩

theorem machineStage_ok (action : ω → Bool × ω) (error : Error)
    (plugin after : Plugin σ κ ω) (done : machineStage action error plugin = (.ok (), after)) :
    (action plugin.machine).1 = true ∧ after.machine = (action plugin.machine).2 := by
  unfold machineStage at done
  obtain ⟨outcome, same⟩ := Prod.mk.inj done
  cases succeeded : (action plugin.machine).1 with
  | true => exact ⟨rfl, by rw [← same]⟩
  | false =>
      rw [succeeded] at outcome
      cases outcome

private theorem stages_staged (provider : Inventory.Provider σ) (host : Host ω) :
    ∀ stage ∈ (stages provider host : List (Stage σ κ ω)),
      ∀ plugin, Staged plugin (stage plugin).2 := by
  intro stage member plugin
  simp only [stages, List.mem_cons, List.not_mem_nil, or_false] at member
  rcases member with rfl | rfl | rfl | rfl | rfl | rfl
  · exact (refreshStage_staged provider plugin).1
  · exact machineStage_staged _ _ plugin
  · exact machineStage_staged _ _ plugin
  · exact machineStage_staged _ _ plugin
  · exact machineStage_staged _ _ plugin
  · exact ⟨⟨rfl, rfl, rfl, rfl, rfl, rfl⟩, rfl, rfl⟩

/-! ### All stages -/

theorem inOrder_staged (stages : List (Stage σ κ ω))
    (each : ∀ stage ∈ stages, ∀ plugin, Staged plugin (stage plugin).2)
    (plugin : Plugin σ κ ω) : Staged plugin (inOrder stages plugin).2 := by
  induction stages generalizing plugin with
  | nil => exact .refl plugin
  | cons stage rest ih =>
      have first := each stage List.mem_cons_self plugin
      unfold inOrder
      split
      · rename_i after done
        rw [done] at first
        exact first.trans (ih (fun later member => each later (.tail _ member)) after)
      · rename_i report after failed
        rw [failed] at first
        exact first

theorem inOrder_cons_ok (stage : Stage σ κ ω) (rest : List (Stage σ κ ω))
    (plugin after : Plugin σ κ ω) (done : inOrder (stage :: rest) plugin = (.ok (), after)) :
    ∃ between, stage plugin = (.ok (), between) ∧ inOrder rest between = (.ok (), after) := by
  unfold inOrder at done
  split at done
  · rename_i between first
    exact ⟨between, first, done⟩
  · cases done

/-- A start that succeeds has run all its stages; one that fails has stopped what its
stages left. -/
theorem start_cases (provider : Inventory.Provider σ) (host : Host ω)
    (plugin : Plugin σ κ ω) :
    (∃ after, Staged plugin.openPeriod after ∧
      inOrder (stages provider host) plugin.openPeriod = (.ok (), after) ∧
      start provider host plugin = (.ok (), after)) ∨
    ∃ report left, Staged plugin.openPeriod left ∧
      start provider host plugin = (.error report, (left.stop host).2) := by
  have staged := inOrder_staged _ (stages_staged provider host) plugin.openPeriod
  unfold start
  split
  · rename_i after done
    rw [done] at staged
    exact Or.inl ⟨after, staged, done, rfl⟩
  · rename_i report left failed
    rw [failed] at staged
    exact Or.inr ⟨report, left, staged, rfl⟩

theorem stop_idle (host : Host ω) (plugin : Plugin σ κ ω) (none : plugin.running = none) :
    plugin.stop host = (.ok (), plugin) := by
  unfold stop
  rw [none]

/-- A stop that ends a period clears the socket path; that this fails is told, and
changes nothing else. -/
theorem stop_running (host : Host ω) (plugin : Plugin σ κ ω) (token : Nat)
    (running : plugin.running = some token) :
    (plugin.stop host).2 =
      { plugin.cancelRunning with
        machine := (host.clear plugin.socketPath plugin.machine).2 } := by
  unfold stop
  rw [running]

theorem openPeriod_place (plugin : Plugin σ κ ω) :
    plugin.openPeriod.socketPath = plugin.socketPath ∧
      plugin.openPeriod.machine = plugin.machine := by
  unfold openPeriod cancelRunning
  cases plugin.running <;> exact ⟨rfl, rfl⟩

theorem stop_socketPath (host : Host ω) (plugin : Plugin σ κ ω) :
    (plugin.stop host).2.socketPath = plugin.socketPath := by
  unfold stop cancelRunning
  cases plugin.running <;> rfl

theorem start_socketPath (provider : Inventory.Provider σ) (host : Host ω)
    (plugin : Plugin σ κ ω) :
    (start provider host plugin).2.socketPath = plugin.socketPath := by
  have opened := (openPeriod_place plugin).1
  rcases start_cases provider host plugin with
    ⟨after, staged, _done, same⟩ | ⟨report, left, staged, same⟩
  · rw [same]
    exact staged.socketPath.trans opened
  · rw [same]
    exact (stop_socketPath host left).trans (staged.socketPath.trans opened)

/-! ### Names -/

/-- The same settings and chip family, which give a plugin its socket and its request. -/
structure SameNames (before after : Plugin σ κ ω) : Prop where
  settings : after.settings = before.settings
  family : after.node.state.inventory.family = before.node.state.inventory.family

theorem SameNames.socketPath {before after : Plugin σ κ ω} (same : SameNames before after) :
    after.socketPath = before.socketPath := by
  unfold Plugin.socketPath endpoint
  rw [same.settings, same.family]

theorem SameNames.request {before after : Plugin σ κ ω} (same : SameNames before after) :
    after.request = before.request := by
  unfold Plugin.request endpoint
  rw [same.family]

theorem SamePeriod.names {before after : Plugin σ κ ω} (same : SamePeriod before after) :
    SameNames before after := ⟨same.settings, same.family⟩

theorem openPeriod_names (plugin : Plugin σ κ ω) : SameNames plugin plugin.openPeriod := by
  unfold openPeriod cancelRunning
  cases plugin.running <;> exact ⟨rfl, rfl⟩

theorem stop_names (host : Host ω) (plugin : Plugin σ κ ω) :
    SameNames plugin (plugin.stop host).2 := by
  unfold stop cancelRunning
  cases plugin.running <;> exact ⟨rfl, rfl⟩

theorem start_names (provider : Inventory.Provider σ) (host : Host ω)
    (plugin : Plugin σ κ ω) : SameNames plugin (start provider host plugin).2 := by
  have opened := openPeriod_names plugin
  rcases start_cases provider host plugin with
    ⟨after, staged, _done, same⟩ | ⟨report, left, staged, same⟩
  · rw [same]
    exact ⟨staged.settings.trans opened.settings, staged.family.trans opened.family⟩
  · rw [same]
    have stopped := stop_names host left
    exact ⟨stopped.settings.trans (staged.settings.trans opened.settings),
      stopped.family.trans (staged.family.trans opened.family)⟩

/-! ### With a ledger -/

/-- Two stages that do the same, of which one keeps a ledger. -/
def Mirrors (noted : Stage σ κ (Ledger ω)) (plain : Stage σ κ ω) : Prop :=
  ∀ plugin, ((noted plugin).1, (noted plugin).2.withoutLedger) = plain plugin.withoutLedger

private theorem inOrder_mirrors (pairs : List (Stage σ κ (Ledger ω) × Stage σ κ ω))
    (each : ∀ pair ∈ pairs, Mirrors pair.1 pair.2) :
    Mirrors (inOrder (pairs.map Prod.fst)) (inOrder (pairs.map Prod.snd)) := by
  induction pairs with
  | nil => exact fun _ => rfl
  | cons pair rest ih =>
      intro plugin
      have first := each pair List.mem_cons_self plugin
      have later := ih fun pair member => each pair (.tail _ member)
      rw [List.map_cons, List.map_cons, inOrder, inOrder, ← first]
      rcases pair.1 plugin with ⟨outcome, after⟩
      cases outcome with
      | ok => exact later after
      | error report => rfl

private theorem stages_mirror (provider : Inventory.Provider σ) (host : Host ω) :
    Mirrors (inOrder (stages provider host.withLedger) : Stage σ κ (Ledger ω))
      (inOrder (stages provider host)) := by
  refine inOrder_mirrors [(refreshStage provider, refreshStage provider),
    (clearStage host.withLedger, clearStage host),
    (listenStage host.withLedger, listenStage host),
    (probeStage host.withLedger, probeStage host),
    (registerStage host.withLedger, registerStage host), (reportStage, reportStage)] ?_
  intro pair member plugin
  simp only [List.mem_cons, List.not_mem_nil, or_false] at member
  rcases member with rfl | rfl | rfl | rfl | rfl | rfl
  · dsimp only [refreshStage, withoutLedger]
    rcases plugin.node.refresh provider with ⟨outcome, node⟩
    cases outcome <;> rfl
  all_goals rfl

private theorem stop_mirrors (host : Host ω) :
    Mirrors (stop host.withLedger : Stage σ κ (Ledger ω)) (stop host) := by
  intro plugin
  obtain ⟨settings, node, past, machine, opened, live, running⟩ := plugin
  cases running <;> rfl

private theorem openPeriod_withoutLedger (plugin : Plugin σ κ (Ledger ω)) :
    plugin.withoutLedger.openPeriod = plugin.openPeriod.withoutLedger := by
  obtain ⟨settings, node, past, machine, opened, live, running⟩ := plugin
  cases running <;> rfl

theorem perform_withLedger (provider : Inventory.Provider σ) (host : Host ω) (call : Call) :
    Mirrors (call.perform provider host.withLedger : Stage σ κ (Ledger ω))
      (call.perform provider host) := by
  intro plugin
  cases call with
  | start =>
      have same := stages_mirror provider host plugin.openPeriod
      change ((start provider host.withLedger plugin).1,
        (start provider host.withLedger plugin).2.withoutLedger) = start provider host _
      unfold start
      rw [openPeriod_withoutLedger, ← same]
      rcases inOrder (stages provider host.withLedger) plugin.openPeriod with ⟨outcome, after⟩
      cases outcome with
      | ok => rfl
      | error report =>
          have stopped := congrArg Prod.snd (stop_mirrors host after)
          exact congrArg (Prod.mk (Except.error report)) stopped
  | stop => exact stop_mirrors host plugin

end Plugin
end VirtualNpu
