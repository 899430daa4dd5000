import VirtualNpu.Plugin.Course
import VirtualNpu.Proofs.SocketPath
import VirtualNpu.Proofs.StoppedWatches

/-!
Serving periods do not outlive their calls.  The invariant is that the tokens which are
not cancelled are that of the running period, and that without a running period nothing
of the node goes on; a start opens its period before it is known to succeed, and ends it
by the same stop that a caller would use.
-/

namespace VirtualNpu
namespace Plugin

variable {σ κ ω : Type}

theorem isServing_eq_false_iff (plugin : Plugin σ κ ω) :
    plugin.isServing = false ↔ plugin.running = none := by
  unfold isServing
  cases plugin.running <;> simp

/-- Nothing is left without its stop signal: every token ever created is cancelled, no
reporter runs, and every watch of every period is over. -/
structure IsSilent (plugin : Plugin σ κ ω) : Prop where
  live : plugin.live = []
  stopped : plugin.node.stopped = true
  reporter : plugin.node.reporter = none
  watches : ∀ watch ∈ plugin.past ++ plugin.node.watches, watch.IsOver

structure Ordered (plugin : Plugin σ κ ω) : Prop where
  tokens : plugin.live = plugin.running.toList
  used : ∀ token, plugin.running = some token → token < plugin.opened
  stopped : plugin.node.stopped = !plugin.isServing
  past : ∀ watch ∈ plugin.past, watch.IsOver
  reporter : plugin.isServing = false → plugin.node.reporter = none
  watches : plugin.isServing = false → ∀ watch ∈ plugin.node.watches, watch.IsOver

theorem Ordered.silent {plugin : Plugin σ κ ω} (ordered : Ordered plugin)
    (idle : plugin.isServing = false) : IsSilent plugin := by
  have none : plugin.running = none := (isServing_eq_false_iff plugin).mp idle
  refine ⟨?_, ?_, ordered.reporter idle, ?_⟩
  · rw [ordered.tokens, none]
    rfl
  · rw [ordered.stopped, idle]
    rfl
  · intro watch member
    rcases List.mem_append.mp member with earlier | latest
    · exact ordered.past watch earlier
    · exact ordered.watches idle watch latest

theorem Ordered.withMachine {plugin : Plugin σ κ ω} (ordered : Ordered plugin) (machine : ω) :
    Ordered { plugin with machine } :=
  ⟨ordered.tokens, ordered.used, ordered.stopped, ordered.past, ordered.reporter,
    ordered.watches⟩

theorem ordered_new (settings : Settings) (node : Node σ κ) (machine : ω) :
    Ordered (new settings node machine) where
  tokens := rfl
  used := by
    intro token running
    cases running
  stopped := rfl
  past := by
    intro watch member
    cases member
  reporter _ := rfl
  watches _ := Node.settle_over node.fireStop rfl

/-! ### Calls -/

theorem ordered_cancelRunning (plugin : Plugin σ κ ω) (ordered : Ordered plugin) :
    Ordered plugin.cancelRunning ∧ plugin.cancelRunning.running = none := by
  unfold cancelRunning
  cases running : plugin.running with
  | none => exact ⟨ordered, running⟩
  | some token =>
      refine ⟨⟨?_, ?_, rfl, ordered.past, fun _ => rfl, fun _ => ?_⟩, rfl⟩
      · change plugin.live.filter (· ≠ token) = []
        rw [ordered.tokens, running]
        simp
      · intro other impossible
        cases impossible
      · exact Node.settle_over plugin.node.fireStop rfl

theorem ordered_openPeriod (plugin : Plugin σ κ ω) (ordered : Ordered plugin) :
    Ordered plugin.openPeriod := by
  obtain ⟨before, none⟩ := ordered_cancelRunning plugin ordered
  have silent := before.silent ((isServing_eq_false_iff plugin.cancelRunning).mpr none)
  refine ⟨?_, ?_, rfl, silent.watches, ?_, ?_⟩
  · change plugin.cancelRunning.opened :: plugin.cancelRunning.live = _
    rw [silent.live]
    rfl
  · intro token running
    cases running
    exact Nat.lt_succ_self _
  · intro impossible
    cases impossible
  · intro impossible
    cases impossible

theorem ordered_staged {before after : Plugin σ κ ω} (staged : Staged before after)
    (serving : before.isServing = true) (ordered : Ordered before) : Ordered after := by
  have still : after.isServing = true := staged.isServing.trans serving
  refine ⟨?_, ?_, ?_, ?_, ?_, ?_⟩
  · rw [staged.live, staged.running]
    exact ordered.tokens
  · intro token running
    rw [staged.opened]
    exact ordered.used token (staged.running.symm.trans running)
  · rw [staged.stopped, staged.isServing]
    exact ordered.stopped
  · rw [staged.past]
    exact ordered.past
  · intro impossible
    rw [still] at impossible
    cases impossible
  · intro impossible
    rw [still] at impossible
    cases impossible

/-- A stop ends the running period, whether or not the socket can be removed. -/
theorem ordered_stop (host : Host ω) (plugin : Plugin σ κ ω) (ordered : Ordered plugin) :
    Ordered (plugin.stop host).2 ∧ (plugin.stop host).2.isServing = false := by
  cases running : plugin.running with
  | none =>
      rw [stop_idle host plugin running]
      exact ⟨ordered, (isServing_eq_false_iff plugin).mpr running⟩
  | some token =>
      obtain ⟨cancelled, none⟩ := ordered_cancelRunning plugin ordered
      rw [stop_running host plugin token running]
      exact ⟨cancelled.withMachine _, (isServing_eq_false_iff _).mpr none⟩

theorem ordered_start (provider : Inventory.Provider σ) (host : Host ω)
    (plugin : Plugin σ κ ω) (ordered : Ordered plugin) :
    Ordered (start provider host plugin).2 ∧
      ((start provider host plugin).2.isServing = true ↔
        (start provider host plugin).1 = .ok ()) := by
  have opened := ordered_openPeriod plugin ordered
  rcases start_cases provider host plugin with
    ⟨after, staged, _done, same⟩ | ⟨report, left, staged, same⟩
  · rw [same]
    exact ⟨ordered_staged staged rfl opened, fun _ => rfl, fun _ => staged.isServing⟩
  · rw [same]
    obtain ⟨stopped, idle⟩ := ordered_stop host left (ordered_staged staged rfl opened)
    refine ⟨stopped, ?_, ?_⟩
    · intro impossible
      rw [idle] at impossible
      cases impossible
    · intro impossible
      cases impossible

/-! ### Between the calls -/

/-- What the service and the surroundings do: the period stays, and nothing begins again
that has come to its end. -/
structure Served (before after : Plugin σ κ ω) : Prop extends SamePeriod before after where
  reporter : before.node.reporter = none → after.node.reporter = none
  past : (∀ watch ∈ before.past, watch.IsOver) → ∀ watch ∈ after.past, watch.IsOver
  watches : before.node.stopped = true →
    (∀ watch ∈ before.node.watches, watch.IsOver) →
    ∀ watch ∈ after.node.watches, watch.IsOver

private theorem served_same (plugin : Plugin σ κ ω) : Served plugin plugin :=
  ⟨⟨rfl, rfl, rfl, rfl, rfl, rfl⟩, id, id, fun _ same => same⟩

theorem served_state (plugin : Plugin σ κ ω) (state : Registration.State σ κ)
    (family : state.inventory.family = plugin.node.state.inventory.family) :
    Served plugin { plugin with node := { plugin.node with state } } :=
  ⟨⟨rfl, family, rfl, rfl, rfl, rfl⟩, id, id, fun _ same => same⟩

private theorem receive_served (plugin : Plugin σ κ ω) (number : Nat) :
    Served plugin (((plugin.receive number).map Prod.snd).getD plugin) := by
  unfold receive
  cases found : plugin.past[number]? with
  | some watch =>
      refine ⟨⟨rfl, rfl, rfl, rfl, rfl, rfl⟩, id, ?_, fun _ same => same⟩
      intro spent other member
      rcases List.mem_or_eq_of_mem_set member with old | settled
      · exact spent other old
      · rw [settled]
        exact Kubelet.Watch.settle_over rfl _
  | none =>
      simp only [Node.receive, Node.read]
      cases plugin.node.watches[number - plugin.past.length]? with
      | none => exact served_same plugin
      | some watch =>
          exact ⟨⟨rfl, rfl, rfl, rfl, rfl, rfl⟩, id, id,
            fun stopped _before => Node.settle_over _ stopped⟩

private theorem awaitReport_served (world : Node.World σ κ) (plugin : Plugin σ κ ω) :
    Served plugin
      (plugin.awaitReport world.provider world.client world.clock world.handshake) := by
  unfold awaitReport
  cases running : plugin.node.reporter with
  | none => exact served_same plugin
  | some reporter =>
      have refreshed := (Registration.report_effect world.provider world.client
        plugin.node.name (world.handshake reporter.due reporter.offset)
        (plugin.node.setCluster (world.clock reporter.due)).state).1
      refine ⟨⟨rfl, refreshed.family, rfl, rfl, rfl, rfl⟩, ?_, id, ?_⟩
      · intro none
        rw [running] at none
        cases none
      · intro stopped _before
        exact Node.settle_over _ stopped

def Act.isCall : Act σ κ ω → Bool
  | .call _ => true
  | _ => false

theorem step_served (world : World σ κ ω) (course : Course σ κ ω) (act : Act σ κ ω)
    (other : act.isCall = false) :
    Served course.plugin (course.step world act).plugin ∧
      (course.step world act).calls = course.calls := by
  cases act with
  | call call => cases other
  | cleanupIdle => exact ⟨served_state course.plugin _ rfl, rfl⟩
  | allocate containers => exact ⟨served_state course.plugin _ rfl, rfl⟩
  | openWatch =>
      exact ⟨⟨⟨rfl, rfl, rfl, rfl, rfl, rfl⟩, id, id,
        fun stopped _before => Node.settle_over _ stopped⟩, rfl⟩
  | receive number => exact ⟨receive_served course.plugin number, rfl⟩
  | awaitReport => exact ⟨awaitReport_served world.toWorld course.plugin, rfl⟩
  | provider change => exact ⟨served_state course.plugin _ rfl, rfl⟩
  | cluster change => exact ⟨served_state course.plugin _ rfl, rfl⟩
  | machine change =>
      exact ⟨⟨⟨rfl, rfl, rfl, rfl, rfl, rfl⟩, id, id, fun _ same => same⟩, rfl⟩

theorem step_machine (world : World σ κ ω) (course : Course σ κ ω) (act : Act σ κ ω)
    (other : act.isCall = false) :
    (course.step world act).plugin.machine =
      match act with
      | .machine change => course.plugin.machine.mapMachine change
      | _ => course.plugin.machine := by
  cases act with
  | call call => cases other
  | receive number =>
      simp only [Course.step, receive]
      cases course.plugin.past[number]? with
      | some watch => rfl
      | none =>
          cases course.plugin.node.receive (number - course.plugin.past.length) <;> rfl
  | awaitReport =>
      simp only [Course.step, awaitReport]
      cases course.plugin.node.reporter <;> rfl
  | _ => rfl

theorem ordered_served {before after : Plugin σ κ ω}
    (served : Served before after) (ordered : Ordered before) : Ordered after := by
  refine ⟨?_, ?_, ?_, served.past ordered.past, ?_, ?_⟩
  · rw [served.live, served.running]
    exact ordered.tokens
  · intro token running
    rw [served.opened]
    exact ordered.used token (served.running.symm.trans running)
  · rw [served.stopped, served.isServing]
    exact ordered.stopped
  · intro idle
    rw [served.isServing] at idle
    exact served.reporter (ordered.reporter idle)
  · intro idle
    rw [served.isServing] at idle
    exact served.watches (ordered.silent idle).stopped (ordered.watches idle)

/-! ### Courses -/

/-- The invariant of a course: besides that of its plugin, the last call tells whether a
period is running. -/
structure Sound (course : Course σ κ ω) : Prop where
  ordered : Ordered course.plugin
  serving : course.plugin.isServing = true ↔
    course.calls.getLast? = some (.start, .ok ())

private theorem sound_served {before after : Course σ κ ω} (sound : Sound before)
    (between : Served before.plugin after.plugin ∧ after.calls = before.calls) : Sound after := by
  obtain ⟨served, calls⟩ := between
  refine ⟨ordered_served served sound.ordered, ?_⟩
  rw [served.isServing, calls]
  exact sound.serving

private theorem sound_step (world : World σ κ ω) (course : Course σ κ ω) (act : Act σ κ ω)
    (sound : Sound course) : Sound (course.step world act) := by
  cases act with
  | call call =>
      cases call with
      | start =>
          obtain ⟨ordered, serving⟩ :=
            ordered_start world.provider world.host.withLedger course.plugin sound.ordered
          refine ⟨ordered, serving.trans ?_⟩
          simp [Course.step, Call.perform]
      | stop =>
          obtain ⟨ordered, idle⟩ :=
            ordered_stop world.host.withLedger course.plugin sound.ordered
          refine ⟨ordered, ?_⟩
          have idle : (course.step world (.call .stop)).plugin.isServing = false := idle
          rw [idle]
          simp [Course.step, Call.perform]
  | _ => exact sound_served sound (step_served world course _ rfl)

theorem sound_run (world : World σ κ ω) (acts : List (Act σ κ ω)) (course : Course σ κ ω)
    (sound : Sound course) : Sound (course.run world acts) := by
  induction acts generalizing course with
  | nil => exact sound
  | cons act rest ih => exact ih (course.step world act) (sound_step world course act sound)

theorem sound_start (settings : Settings) (node : Node σ κ) (machine : ω) :
    Sound (Course.start settings node machine) := by
  refine ⟨ordered_new settings node (Ledger.mk machine []), ?_⟩
  constructor <;> intro impossible <;> cases impossible

end Plugin
end VirtualNpu
