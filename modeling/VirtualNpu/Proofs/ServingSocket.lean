import VirtualNpu.Inventory.Scripted
import VirtualNpu.Proofs.ServingPeriods

/-!
The socket of a plugin stands while a period is running and at no other time, as long as
clearing its path has not failed; with it, all that holds of a plugin after every call.
-/

namespace VirtualNpu
namespace Plugin

variable {σ κ ω : Type}

def clearingFailed (path : String) : Attempt := ⟨.clear path, false⟩

/-- The socket stands just when a period is running, unless clearing its path has failed. -/
def Tidy (path : String) (stands : ω → Bool) (plugin : Plugin σ κ (Ledger ω)) : Prop :=
  clearingFailed path ∈ plugin.machine.attempts ∨
    stands plugin.machine.machine = plugin.isServing

section

variable {host : Host ω} {path : String} {stands : ω → Bool}

private theorem keepsSocket_withLedger (keeps : KeepsSocket host path stands) :
    KeepsSocket host.withLedger path fun ledger => stands ledger.machine where
  cleared ledger := keeps.cleared ledger.machine
  bound period ledger := keeps.bound period ledger.machine
  probed ledger := keeps.probed ledger.machine
  registered kubelet request ledger := keeps.registered kubelet request ledger.machine

/-- Whatever stood there before, a stop that ends a period clears the path. -/
private theorem tidy_stop_running (keeps : KeepsSocket host path stands)
    (plugin : Plugin σ κ (Ledger ω)) (here : plugin.socketPath = path)
    (serving : plugin.isServing = true) : Tidy path stands (plugin.stop host.withLedger).2 := by
  obtain ⟨token, running⟩ := Option.isSome_iff_exists.mp serving
  have cancelled : plugin.cancelRunning.isServing = false := by
    unfold cancelRunning
    rw [running]
    rfl
  rw [stop_running host.withLedger plugin token running, here]
  cases succeeded : (host.clear path plugin.machine.machine).1 with
  | false =>
      left
      change _ ∈ plugin.machine.attempts ++ [Attempt.mk (.clear path) _]
      rw [succeeded]
      exact List.mem_concat_self
  | true =>
      right
      exact (keeps.cleared _ succeeded).trans cancelled.symm

private theorem tidy_stop (keeps : KeepsSocket host path stands)
    (plugin : Plugin σ κ (Ledger ω)) (here : plugin.socketPath = path)
    (tidy : Tidy path stands plugin) : Tidy path stands (plugin.stop host.withLedger).2 := by
  cases serving : plugin.isServing with
  | true => exact tidy_stop_running keeps plugin here serving
  | false =>
      rw [stop_idle host.withLedger plugin ((isServing_eq_false_iff plugin).mp serving)]
      exact tidy

private theorem tidy_start (keeps : KeepsSocket host path stands)
    (provider : Inventory.Provider σ) (plugin : Plugin σ κ (Ledger ω))
    (here : plugin.socketPath = path) :
    Tidy path stands (start provider host.withLedger plugin).2 := by
  have opened := (openPeriod_place plugin).1.trans here
  rcases start_cases provider host.withLedger plugin with
    ⟨after, staged, done, same⟩ | ⟨report, left, staged, same⟩
  · rw [same]
    right
    have bound := stages_bind_socket (keepsSocket_withLedger keeps) provider
      plugin.openPeriod after opened done
    exact bound.trans staged.isServing.symm
  · -- However far the stages came, the stop that follows clears the path.
    rw [same]
    exact tidy_stop_running keeps left (staged.socketPath.trans opened) staged.isServing

private theorem step_socketPath (world : World σ κ ω) (course : Course σ κ ω)
    (act : Act σ κ ω) :
    (course.step world act).plugin.socketPath = course.plugin.socketPath := by
  cases act with
  | call call =>
      cases call with
      | start => exact start_socketPath world.provider world.host.withLedger course.plugin
      | stop => exact stop_socketPath world.host.withLedger course.plugin
  | _ => exact (step_served world course _ rfl).1.socketPath

def LeavesSocket (stands : ω → Bool) : Act σ κ ω → Prop
  | .machine change => ∀ machine, stands (change machine) = stands machine
  | _ => True

private theorem tidy_served (world : World σ κ ω) (course : Course σ κ ω) (act : Act σ κ ω)
    (other : act.isCall = false) (leaves : LeavesSocket stands act)
    (tidy : Tidy path stands course.plugin) :
    Tidy path stands (course.step world act).plugin := by
  have machine := step_machine world course act other
  have serving := (step_served world course act other).1.isServing
  unfold Tidy
  rw [machine, serving]
  cases act with
  | machine change =>
      rcases tidy with failed | same
      · exact Or.inl failed
      · exact Or.inr ((leaves _).trans same)
  | _ => exact tidy

private theorem tidy_step (world : World σ κ ω) (keeps : KeepsSocket world.host path stands)
    (course : Course σ κ ω) (act : Act σ κ ω) (here : course.plugin.socketPath = path)
    (leaves : LeavesSocket stands act)
    (before : Tidy path stands course.plugin ∨ act = .call .start) :
    Tidy path stands (course.step world act).plugin := by
  cases act with
  | call call =>
      cases call with
      | start => exact tidy_start keeps world.provider course.plugin here
      | stop =>
          rcases before with tidy | impossible
          · exact tidy_stop keeps course.plugin here tidy
          · cases impossible
  | _ =>
      rcases before with tidy | impossible
      · exact tidy_served world course _ rfl leaves tidy
      · cases impossible

/-- A socket left by someone else is in order from the first start on. -/
private theorem tidy_run (world : World σ κ ω) (keeps : KeepsSocket world.host path stands)
    (acts : List (Act σ κ ω)) (course : Course σ κ ω)
    (here : course.plugin.socketPath = path) (leaves : ∀ act ∈ acts, LeavesSocket stands act)
    (before : Tidy path stands course.plugin ∨ .call .start ∈ acts) :
    Tidy path stands (course.run world acts).plugin := by
  induction acts generalizing course with
  | nil =>
      rcases before with tidy | impossible
      · exact tidy
      · cases impossible
  | cons act rest ih =>
      have first := leaves act List.mem_cons_self
      have next : Tidy path stands course.plugin ∨ act = .call .start →
          Tidy path stands (course.step world act).plugin :=
        tidy_step world keeps course act here first
      refine ih (course.step world act) ((step_socketPath world course act).trans here)
        (fun later member => leaves later (.tail _ member)) ?_
      rcases before with tidy | started
      · exact Or.inl (next (Or.inl tidy))
      · rcases List.mem_cons.mp started with now | later
        · exact Or.inl (next (Or.inr now.symm))
        · exact Or.inr later

end

private theorem run_socketPath (world : World σ κ ω) (acts : List (Act σ κ ω))
    (course : Course σ κ ω) :
    (course.run world acts).plugin.socketPath = course.plugin.socketPath := by
  induction acts generalizing course with
  | nil => rfl
  | cons act rest ih =>
      exact (ih (course.step world act)).trans (step_socketPath world course act)

/-- On the played machine, from the first start on or with a path that is free before it. -/
theorem played_socket_stands (world : Node.World σ κ) (settings : Settings) (node : Node σ κ)
    (machine : Machine) (acts : List (Act σ κ Machine)) (path : String)
    (here : (Course.start settings node machine).plugin.socketPath = path)
    (leaves : ∀ act ∈ acts, LeavesSocket (fun now => (now.listener? path).isSome) act)
    (before : machine.listener? path = none ∨ .call .start ∈ acts) :
    let plugin := ((Course.start settings node machine).run ⟨world, Machine.played⟩ acts).plugin
    clearingFailed path ∈ plugin.machine.attempts ∨
      (plugin.machine.machine.listener? path).isSome = plugin.isServing := by
  intro plugin
  refine tidy_run ⟨world, Machine.played⟩ (Machine.played_keepsSocket path) acts
    (Course.start settings node machine) here leaves (before.imp (fun free => Or.inr ?_) id)
  change (machine.listener? path).isSome = false
  rw [free]
  rfl

/-- What holds of a plugin at any time, whatever its starts and stops have come to.  The
only token not cancelled is that of the running period, which there is just after a start
that succeeded; after any other call nothing of any period goes on.  The socket stands
just then, if others leave it alone and clearing its path has not failed. -/
theorem periods_end_with_their_calls (world : World σ κ ω) (settings : Settings)
    (node : Node σ κ) (machine : ω) (acts : List (Act σ κ ω)) :
    let course := (Course.start settings node machine).run world acts
    let plugin := course.plugin
    (plugin.live = plugin.running.toList ∧ ∀ token ∈ plugin.live, token < plugin.opened) ∧
    (plugin.isServing = true ↔ course.calls.getLast? = some (.start, .ok ())) ∧
    (course.calls.getLast? ≠ some (.start, .ok ()) → IsSilent plugin) ∧
    (∀ watch ∈ plugin.past, watch.IsOver) ∧
    (∀ stands : ω → Bool, KeepsSocket world.host plugin.socketPath stands →
      (∀ act ∈ acts, LeavesSocket stands act) →
      stands machine = false ∨ .call .start ∈ acts →
      clearingFailed plugin.socketPath ∉ plugin.machine.attempts →
      stands plugin.machine.machine = plugin.isServing) ∧
    (plugin.isServing = false → plugin.stop world.host.withLedger = (.ok (), plugin)) := by
  intro course plugin
  have sound : Sound course := sound_run world acts _ (sound_start settings node machine)
  refine ⟨⟨sound.ordered.tokens, ?_⟩, sound.serving, ?_, sound.ordered.past, ?_, ?_⟩
  · intro token live
    rw [sound.ordered.tokens] at live
    exact sound.ordered.used token (Option.mem_toList.mp live)
  · intro ended
    refine sound.ordered.silent ?_
    exact Bool.eq_false_iff.mpr fun serving => ended (sound.serving.mp serving)
  · intro stands keeps leaves absent unfailed
    have here := run_socketPath world acts (Course.start settings node machine)
    have tidy : Tidy plugin.socketPath stands plugin :=
      tidy_run world keeps acts _ here.symm leaves (absent.imp (fun none => Or.inr none) id)
    exact tidy.resolve_left unfailed
  · intro idle
    exact stop_idle world.host.withLedger plugin ((isServing_eq_false_iff plugin).mp idle)

/-- A machine that knows of one socket, and a kubelet that may refuse. -/
private structure Desk where
  stands : Bool
  refusing : Bool

private def deskWorld : World Inventory.Script Cluster.Stage Desk :=
  { provider := Inventory.scripted
    client := Cluster.staged
    clock := fun _ stage => stage
    handshake := fun _ _ => none
    host :=
      { clear := fun _ desk => (true, { desk with stands := false })
        listen := fun _ _ desk => (!desk.stands, { desk with stands := true })
        probe := fun _ desk => (desk.stands, desk)
        register := fun _ _ desk => (!desk.refusing, desk)
        listener? := fun _ _ => none } }

private def refuse (desk : Desk) : Desk := { desk with refusing := true }

private def deskNode : Node Inventory.Script Cluster.Stage :=
  .start "node" ⟨"910B3", "Ascend910B3", "npu", 65536, 65536, 20, none, []⟩ (.quiet "910B3")
    ⟨[], [], 0, []⟩

/-- A start, a watch of its period, and a second start that the kubelet refuses. -/
private def refusedRestart : Course Inventory.Script Cluster.Stage Desk :=
  (Course.start ⟨"/plugins", "/kubelet.sock", .default, 0⟩ deskNode ⟨false, false⟩).run deskWorld
    [.call .start, .openWatch, .machine refuse, .call .start]

private theorem refusedRestart_failures :
    refusedRestart.plugin.machine.attempts.filter (fun attempt => !attempt.succeeded) =
      [⟨.register "/kubelet.sock" refusedRestart.plugin.request, false⟩] := rfl

theorem refused_restart_ends_period :
    let plugin := refusedRestart.plugin
    (refusedRestart.calls.map fun call => (call.1, call.2.isOk)) =
        [(.start, true), (.start, false)] ∧
      IsSilent plugin ∧ plugin.past.length = 1 ∧
      plugin.machine.machine.stands = plugin.isServing ∧
      plugin.stop deskWorld.host.withLedger = (.ok (), plugin) := by
  obtain ⟨_tokens, serving, silent, _past, socket, idle⟩ :=
    periods_end_with_their_calls deskWorld ⟨"/plugins", "/kubelet.sock", .default, 0⟩ deskNode
      ⟨false, false⟩ [.call .start, .openWatch, .machine refuse, .call .start]
  have failed : refusedRestart.calls.getLast? ≠ some (.start, .ok ()) := by
    intro started
    cases started
  have keeps : KeepsSocket deskWorld.host refusedRestart.plugin.socketPath Desk.stands :=
    ⟨fun _ _ => rfl, fun _ _ _ => rfl, fun _ => rfl, fun _ _ _ => rfl⟩
  have leaves : ∀ act ∈ ([.call .start, .openWatch, .machine refuse, .call .start] :
      List (Act Inventory.Script Cluster.Stage Desk)), LeavesSocket Desk.stands act := by
    intro act member
    simp only [List.mem_cons, List.not_mem_nil, or_false] at member
    rcases member with rfl | rfl | rfl | rfl
    · trivial
    · trivial
    · exact fun _ => rfl
    · trivial
  have unfailed : clearingFailed refusedRestart.plugin.socketPath ∉
      refusedRestart.plugin.machine.attempts := by
    intro member
    have among : clearingFailed refusedRestart.plugin.socketPath ∈
        refusedRestart.plugin.machine.attempts.filter fun attempt => !attempt.succeeded :=
      List.mem_filter.mpr ⟨member, rfl⟩
    rw [refusedRestart_failures] at among
    cases List.mem_singleton.mp among
  exact ⟨rfl, silent failed, rfl, socket Desk.stands keeps leaves (Or.inl rfl) unfailed,
    idle rfl⟩

end Plugin
end VirtualNpu
