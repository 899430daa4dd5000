import VirtualNpu.Proofs.ServingPeriods
import VirtualNpu.Supervisor.Run

/-!
A plugin under its supervisor.  The supervisor does not stop a plugin whose start has
failed, and takes no notice of a stop that fails; that the plugin serves just as long as
the run waits rests on what starts and stops leave behind.
-/

namespace VirtualNpu
namespace Supervisor

open Plugin (IsSilent Ordered)

variable {σ κ ω : Type}

/-- The plugin is in order, and serves just as long as the run is not over. -/
structure Accords (phase : Phase) (plugin : Plugin σ κ ω) : Prop where
  ordered : Ordered plugin
  serving : plugin.isServing = phase.result?.isNone

variable (provider : Inventory.Provider σ) (host : Plugin.Host ω)

private theorem accords_started {plugin after : Plugin σ κ ω} (ordered : Ordered plugin)
    (done : Plugin.start provider host plugin = (.ok (), after)) (fatalOpen : Bool) :
    Accords (.waiting fatalOpen) after := by
  obtain ⟨still, serving⟩ := Plugin.ordered_start provider host plugin ordered
  rw [done] at still serving
  exact ⟨still, serving.mpr rfl⟩

/-- A start that fails has ended its period, so that the run may end at once. -/
private theorem accords_failed {plugin after : Plugin σ κ ω} (ordered : Ordered plugin)
    {report : Report Plugin.Error}
    (failed : Plugin.start provider host plugin = (.error report, after))
    (result : Except Failure Unit) : Accords (.ended result) after := by
  obtain ⟨still, serving⟩ := Plugin.ordered_start provider host plugin ordered
  rw [failed] at still serving
  refine ⟨still, Bool.eq_false_iff.mpr fun impossible => ?_⟩
  cases serving.mp impossible

theorem accords_begin (plugin : Plugin σ κ ω) (ordered : Ordered plugin) :
    Accords (begin (Plugin.lifecycle provider host) plugin).1
      (begin (Plugin.lifecycle provider host) plugin).2 := by
  unfold begin
  split
  · rename_i after done
    exact accords_started provider host ordered done true
  · rename_i report after failed
    exact accords_failed provider host ordered failed _

/-- Cleaning up has no part in it, and a start after a stop is like any other. -/
private theorem accords_restart (fatalOpen : Bool) (plugin : Plugin σ κ ω)
    (ordered : Ordered plugin) :
    Accords (restart (Plugin.lifecycle provider host) fatalOpen plugin).1
      (restart (Plugin.lifecycle provider host) fatalOpen plugin).2 := by
  have cleaned : Ordered (plugin.cleanupIdle provider).2 :=
    Plugin.ordered_served (Plugin.served_state plugin _ rfl) ordered
  have stopped := (Plugin.ordered_stop host _ cleaned).1
  unfold restart
  dsimp only
  split
  · rename_i after done
    exact accords_started provider host stopped done fatalOpen
  · rename_i report after failed
    exact accords_failed provider host stopped failed _

private theorem accords_finish (result : Except Failure Unit) (plugin : Plugin σ κ ω)
    (ordered : Ordered plugin) :
    Accords (finish (Plugin.lifecycle provider host) result plugin).1
      (finish (Plugin.lifecycle provider host) result plugin).2 :=
  ⟨(Plugin.ordered_stop host plugin ordered).1, (Plugin.ordered_stop host plugin ordered).2⟩

theorem accords_take (phase : Phase) (input : Input) (plugin : Plugin σ κ ω)
    (before : Accords phase plugin) :
    Accords (take (Plugin.lifecycle provider host) phase input plugin).1
      (take (Plugin.lifecycle provider host) phase input plugin).2 := by
  have ordered := before.ordered
  cases phase with
  | ended result => exact before
  | waiting fatalOpen =>
      cases input with
      | event event =>
          cases event with
          | socketRecreated => exact accords_restart provider host fatalOpen plugin ordered
          | restartSignal => exact accords_restart provider host fatalOpen plugin ordered
          | terminate signal => exact accords_finish provider host (.ok ()) plugin ordered
          | watchError message => exact before
      | fatal report =>
          cases fatalOpen with
          | true => exact accords_finish provider host (.error (.plugin report)) plugin ordered
          | false => exact before
      | eventsClosed => exact accords_finish provider host (.ok ()) plugin ordered
      | fatalClosed => exact ⟨ordered, before.serving⟩

private theorem accords_takeAll (inputs : List Input) (now : Phase × Plugin σ κ ω)
    (before : Accords now.1 now.2) :
    Accords (takeAll (Plugin.lifecycle provider host) inputs now).1
      (takeAll (Plugin.lifecycle provider host) inputs now).2 := by
  induction inputs generalizing now with
  | nil => exact before
  | cons input rest ih => exact ih _ (accords_take provider host now.1 input now.2 before)

/-- Whatever a run takes and whatever fails in it: as long as it waits for an input the
plugin serves, with the token of its period and no other, and when it is over, on any path
and with any result, no period has been left without its stop signal. -/
theorem supervised_plugin_ends_with_run (settings : Plugin.Settings) (node : Node σ κ)
    (machine : ω) (inputs : List Input) :
    let final :=
      run (Plugin.lifecycle provider host) inputs (Plugin.new settings node machine)
    match final.1 with
    | .waiting _ =>
        final.2.isServing = true ∧
          ∃ token, final.2.running = some token ∧ final.2.live = [token]
    | .ended _ => final.2.isServing = false ∧ IsSilent final.2 := by
  intro final
  have accords : Accords final.1 final.2 :=
    accords_takeAll provider host inputs _
      (accords_begin provider host _ (Plugin.ordered_new settings node machine))
  have serving := accords.serving
  cases phase : final.1 with
  | waiting fatalOpen =>
      rw [phase] at serving
      obtain ⟨token, running⟩ := Option.isSome_iff_exists.mp serving
      refine ⟨serving, token, running, ?_⟩
      rw [accords.ordered.tokens, running]
      rfl
  | ended result =>
      rw [phase] at serving
      exact ⟨serving, accords.ordered.silent serving⟩

end Supervisor
end VirtualNpu
