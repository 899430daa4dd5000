import VirtualNpu.Proofs.KubeletRequests
import VirtualNpu.Proofs.StartOrder

/-!
What a start has tried, what it tells and what it leaves, by the hurdle at which it gets stuck.
-/

namespace VirtualNpu
namespace Plugin

variable {σ κ ω : Type}

/-! ### Hurdles that a start comes to -/

section
variable {provider : Inventory.Provider σ} {host : Host ω} {plugin : Plugin σ κ ω}

theorem comesTo_of_passes (passes : ∀ hurdle, plugin.passes host provider hurdle = true)
    (hurdle : Hurdle) : plugin.comesTo host provider hurdle = true :=
  List.all_eq_true.mpr fun earlier _ => passes earlier

theorem cleared_of_comesTo {hurdle : Hurdle}
    (comes : plugin.comesTo host provider hurdle = true) (late : .bind ∈ hurdle.earlier) :
    (plugin.clearing host).1 = true :=
  (Bool.and_eq_true_iff.mp (List.all_eq_true.mp comes .bind late)).1

/-- A start comes to one hurdle at most that it does not get past. -/
theorem stuck_unique {one other : Hurdle}
    (comesToOne : plugin.comesTo host provider one = true)
    (failsOne : plugin.passes host provider one = false)
    (comesToOther : plugin.comesTo host provider other = true)
    (failsOther : plugin.passes host provider other = false) : one = other := by
  cases one <;> cases other <;> simp_all [comesTo, Hurdle.earlier]

theorem attemptsAlong_of_passes (passes : ∀ hurdle, plugin.passes host provider hurdle = true) :
    plugin.attemptsAlong host provider = Hurdle.inOrder.flatMap (plugin.attemptsAt host) := by
  unfold attemptsAlong
  rw [List.filter_eq_self.mpr fun hurdle _ => comesTo_of_passes passes hurdle]

theorem attemptsAlong_of_stuck {hurdle : Hurdle}
    (comes : plugin.comesTo host provider hurdle = true)
    (fails : plugin.passes host provider hurdle = false) :
    plugin.attemptsAlong host provider =
      (hurdle.earlier ++ [hurdle]).flatMap (plugin.attemptsAt host) := by
  have reached : Hurdle.inOrder.filter (plugin.comesTo host provider) =
      hurdle.earlier ++ [hurdle] := by
    cases hurdle <;> simp_all [List.filter_cons, comesTo, Hurdle.earlier, Hurdle.inOrder]
  unfold attemptsAlong
  rw [reached]

end

/-! ### The kubelet asked -/

section
variable {provider : Inventory.Provider σ} {host : Host ω} {plugin : Plugin σ κ ω}

theorem askingKubelet?_of_comesTo (comes : plugin.comesTo host provider .register = true) :
    plugin.askingKubelet? host provider = some (plugin.probing host).2 := if_pos comes

theorem askingKubelet?_of_fails {hurdle : Hurdle} (before : hurdle ∈ Hurdle.register.earlier)
    (fails : plugin.passes host provider hurdle = false) :
    plugin.askingKubelet? host provider = none := by
  refine if_neg fun comes => ?_
  rw [List.all_eq_true.mp comes hurdle before] at fails
  cases fails

def requestsOf (provider : Inventory.Provider σ) (host : Host ω) (reaches : String → ω → Bool)
    (plugin : Plugin σ κ ω) : List Request :=
  if (plugin.askingKubelet? host provider).any (reaches plugin.settings.kubeletSocket) then
    [plugin.request]
  else []

variable {reaches : String → ω → Bool} {received : ω → List Request}

theorem BringsRequests.of_comesTo (brings : BringsRequests host reaches received)
    (comes : plugin.comesTo host provider .register = true) :
    received (plugin.registering host).2 =
      received plugin.machine ++ plugin.requestsOf provider host reaches := by
  rw [brings.registering plugin, requestsOf, askingKubelet?_of_comesTo comes]
  rfl

theorem BringsRequests.of_stuck (brings : BringsRequests host reaches received) {hurdle : Hurdle}
    (comes : plugin.comesTo host provider hurdle = true)
    (fails : plugin.passes host provider hurdle = false) :
    received (plugin.stuckAt host hurdle) =
      received plugin.machine ++ plugin.requestsOf provider host reaches := by
  by_cases last : hurdle = .register
  · subst last
    exact brings.of_comesTo comes
  · have before : hurdle ∈ Hurdle.register.earlier := by
      cases hurdle <;> simp_all [Hurdle.earlier]
    rw [brings.stuckAt plugin hurdle last, requestsOf, askingKubelet?_of_fails before fails]
    exact (List.append_nil _).symm

end

/-! ### With a ledger -/

section
variable {provider : Inventory.Provider σ} {host : Host ω} {plugin : Plugin σ κ (Ledger ω)}

theorem passes_withLedger (hurdle : Hurdle) :
    plugin.passes host.withLedger provider hurdle =
      plugin.withoutLedger.passes host provider hurdle := by
  cases hurdle <;> rfl

theorem comesTo_withLedger (hurdle : Hurdle) :
    plugin.comesTo host.withLedger provider hurdle =
      plugin.withoutLedger.comesTo host provider hurdle :=
  congrArg hurdle.earlier.all (funext passes_withLedger)

theorem stuckAt_withLedger (hurdle : Hurdle) :
    (plugin.stuckAt host.withLedger hurdle).machine =
      plugin.withoutLedger.stuckAt host hurdle := by
  cases hurdle with
  | bind =>
      change Ledger.machine (if (plugin.withoutLedger.clearing host).1 then _ else _) = _
      simp only [stuckAt]
      split <;> rfl
  | _ => rfl

theorem clearing_attempts :
    (plugin.clearing host.withLedger).2.attempts =
      plugin.machine.attempts ++
        [⟨.clear plugin.socketPath, (plugin.withoutLedger.clearing host).1⟩] := rfl

theorem listening_attempts (cleared : (plugin.withoutLedger.clearing host).1 = true) :
    (plugin.listening host.withLedger).2.attempts =
      plugin.machine.attempts ++ plugin.withoutLedger.attemptsAt host .bind := by
  change (plugin.clearing host.withLedger).2.attempts ++ [_] = _
  rw [clearing_attempts, attemptsAt, if_pos cleared, List.append_assoc]
  rfl

theorem probing_attempts :
    (plugin.probing host.withLedger).2.attempts =
      (plugin.listening host.withLedger).2.attempts ++
        plugin.withoutLedger.attemptsAt host .probe := rfl

theorem registering_attempts :
    (plugin.registering host.withLedger).2.attempts =
      (plugin.probing host.withLedger).2.attempts ++
        plugin.withoutLedger.attemptsAt host .register := rfl

/-- A start that is stuck at a hurdle has made the attempts of all hurdles up to it. -/
theorem stuckAt_attempts {hurdle : Hurdle}
    (comes : plugin.withoutLedger.comesTo host provider hurdle = true) :
    (plugin.stuckAt host.withLedger hurdle).attempts =
      plugin.machine.attempts ++
        (hurdle.earlier ++ [hurdle]).flatMap (plugin.withoutLedger.attemptsAt host) := by
  cases hurdle with
  | refresh => exact (List.append_nil _).symm
  | bind =>
      change Ledger.attempts (if (plugin.withoutLedger.clearing host).1 then _ else _) = _
      change _ = plugin.machine.attempts ++ (plugin.withoutLedger.attemptsAt host .bind ++ [])
      rw [List.append_nil]
      split
      · rename_i cleared
        exact listening_attempts cleared
      · rename_i refused
        rw [clearing_attempts, attemptsAt, if_neg refused]
        rfl
  | probe =>
      change (plugin.probing host.withLedger).2.attempts = _
      rw [probing_attempts, listening_attempts (cleared_of_comesTo comes (by decide))]
      simp [Hurdle.earlier, attemptsAt]
  | register =>
      change (plugin.registering host.withLedger).2.attempts = _
      rw [registering_attempts, probing_attempts,
        listening_attempts (cleared_of_comesTo comes (by decide))]
      simp [Hurdle.earlier, attemptsAt]

end

/-! ### Starts that fail -/

theorem errorAt_injective (plugin : Plugin σ κ ω) : Function.Injective plugin.errorAt := by
  intro one other same
  cases one <;> cases other <;> simp_all [errorAt]

structure LeftAt (provider : Inventory.Provider σ) (host : Host ω) (plugin : Plugin σ κ ω)
    (hurdle : Hurdle) (left : Plugin σ κ ω) : Prop where
  comes : plugin.comesTo host provider hurdle = true
  fails : plugin.passes host provider hurdle = false
  machine : left.machine = plugin.stuckAt host hurdle
  name : left.node.name = plugin.node.name
  state : left.node.state = plugin.takenOver provider
  opened : left.opened = plugin.opened + 1
  running : left.running = some plugin.opened
  socketPath : left.socketPath = plugin.socketPath

section
variable {provider : Inventory.Provider σ} {host : Host ω} {plugin : Plugin σ κ ω}

theorem leftAt_refresh {cause : Report Inventory.Error} {after : σ}
    (refused : provider.devices plugin.node.state.provider = (.error cause, after)) :
    LeftAt provider host plugin .refresh (plugin.asked after) := by
  unfold asked
  rw [openPeriod_eq]
  refine ⟨rfl, ?_, rfl, rfl, ?_, rfl, rfl, rfl⟩
  · rw [passes, refused]
    rfl
  · rw [takenOver, refused]
    rfl

theorem leftAt_stuck {devices : List (UInt32 × Inventory.RawDevice)} {after : σ}
    (hurdle : Hurdle) (listed : provider.devices plugin.node.state.provider = (.ok devices, after))
    (comes : plugin.comesTo host provider hurdle = true)
    (fails : plugin.passes host provider hurdle = false) :
    LeftAt provider host plugin hurdle
      { plugin.listed devices after with machine := plugin.stuckAt host hurdle } := by
  unfold Plugin.listed asked
  rw [openPeriod_eq]
  refine ⟨comes, fails, rfl, rfl, ?_, rfl, rfl, rfl⟩
  rw [takenOver, listed]
  rfl

/-- A start fails when it is stuck at a hurdle, with the error of that hurdle. -/
theorem start_failed {report : Report Error} {after : Plugin σ κ ω}
    (failed : start provider host plugin = (.error report, after)) :
    ∃ hurdle left, LeftAt provider host plugin hurdle left ∧
      report.error = plugin.errorAt hurdle ∧ after = (left.stop host).2 := by
  have starts := startsTo_start provider host plugin
  rw [failed] at starts
  cases starts with
  | unrefreshed refused => exact ⟨.refresh, _, leftAt_refresh refused, rfl, rfl⟩
  | stuck hurdle listed comes fails =>
      exact ⟨hurdle, _, leftAt_stuck hurdle listed comes fails, rfl, rfl⟩

theorem stop_left {hurdle : Hurdle} {left : Plugin σ κ ω}
    (was : LeftAt provider host plugin hurdle left) :
    (left.stop host).2.node.state = plugin.takenOver provider ∧
      (left.stop host).2.node.reporter = none ∧
      (left.stop host).2.opened = plugin.opened + 1 ∧
      (left.stop host).2.machine =
        (host.clear plugin.socketPath (plugin.stuckAt host hurdle)).2 := by
  rw [stop_running host left plugin.opened was.running, was.socketPath, was.machine]
  unfold cancelRunning
  rw [was.running]
  exact ⟨was.state, rfl, was.opened, rfl⟩

/-- What a plugin is after a start that succeeds: all of its node is new but its name, its time and
what the provider was asked for. -/
structure Serving (provider : Inventory.Provider σ) (host : Host ω) (plugin after : Plugin σ κ ω) :
    Prop where
  settings : after.settings = plugin.settings
  node : after.node =
    { plugin.node with
      state := plugin.takenOver provider
      watches := []
      stopped := false
      reporter := some (.start plugin.settings.intervals plugin.settings.offset plugin.node.time) }
  opened : after.opened = plugin.opened + 1
  running : after.running = some plugin.opened
  machine : after.machine = (plugin.registering host).2

theorem start_succeeded {after : Plugin σ κ ω}
    (succeeded : start provider host plugin = (.ok (), after)) :
    (∀ hurdle, plugin.passes host provider hurdle = true) ∧
      Serving provider host plugin after := by
  have starts := startsTo_start provider host plugin
  rw [succeeded] at starts
  cases starts with
  | serving listed passes =>
      unfold reporting Plugin.listed asked
      rw [openPeriod_eq]
      refine ⟨passes, rfl, ?_, rfl, rfl, rfl⟩
      rw [takenOver, listed]
      rfl

end

theorem start_result (provider : Inventory.Provider σ) (host : Host ω) (plugin : Plugin σ κ ω) :
    (start provider host plugin).1 =
      match (provider.devices plugin.node.state.provider).1 with
      | .error cause => .error (.above .inventory cause)
      | .ok _ =>
          match Hurdle.inOrder.find? fun hurdle => !plugin.passes host provider hurdle with
          | some hurdle => .error (.of (plugin.errorAt hurdle))
          | none => .ok () := by
  have starts := startsTo_start provider host plugin
  generalize start provider host plugin = started at starts
  cases starts with
  | unrefreshed refused => rw [refused]
  | stuck hurdle listed comes fails =>
      have first : Hurdle.inOrder.find? (fun hurdle => !plugin.passes host provider hurdle) =
          some hurdle := by
        cases hurdle <;> simp_all [comesTo, Hurdle.earlier, Hurdle.inOrder]
      rw [listed, first]
  | serving listed passes =>
      have none : Hurdle.inOrder.find? (fun hurdle => !plugin.passes host provider hurdle) =
          none :=
        List.find?_eq_none.mpr fun hurdle _ => by simp [passes hurdle]
      rw [listed, none]

theorem start_opened (provider : Inventory.Provider σ) (host : Host ω) (plugin : Plugin σ κ ω) :
    (start provider host plugin).2.opened = plugin.opened + 1 := by
  rcases started : start provider host plugin with ⟨report | _, after⟩
  · obtain ⟨hurdle, left, was, _error, rfl⟩ := start_failed started
    exact (stop_left was).2.2.1
  · exact (start_succeeded started).2.opened

/-! ### What a start has tried and leaves -/

/-- The attempts that follow on those at the hurdles: none if the start succeeds, and else that to
clear the path. -/
def CleansUp (path : String) (result : Except (Report Error) Unit) (cleanup : List Attempt) :
    Prop :=
  match result with
  | .ok _ => cleanup = []
  | .error _ => ∃ succeeded, cleanup = [⟨.clear path, succeeded⟩]

/-- What a start changes of the state of its node.  The provider is asked once for its devices, and
the cluster is not called. -/
structure TakesList (provider : Inventory.Provider σ) (before after : Registration.State σ κ) :
    Prop where
  asked : after.provider = (provider.devices before.provider).2
  unlisted : ∀ cause, (provider.devices before.provider).1 = .error cause →
    after.inventory = before.inventory
  listed : ∀ devices, (provider.devices before.provider).1 = .ok devices →
    after.inventory.family = before.inventory.family ∧
      after.inventory.snapshot =
        devices.map fun device => .ofRaw before.inventory.family device.1 device.2
  uncalled : after.cluster = before.cluster

/-- A start takes its hurdles in order up to the first that it does not get past. -/
structure TakesHurdles (provider : Inventory.Provider σ) (host : Host ω)
    (before : Plugin σ κ (Ledger ω)) (result : Except (Report Error) Unit)
    (after : Plugin σ κ (Ledger ω)) : Prop where
  succeeds : result = .ok () ↔
    ∀ hurdle, before.withoutLedger.passes host provider hurdle = true
  fails : ∀ hurdle,
    (∃ report, result = .error report ∧ report.error = before.errorAt hurdle) ↔
      before.withoutLedger.comesTo host provider hurdle = true ∧
        before.withoutLedger.passes host provider hurdle = false
  attempted : ∃ cleanup, CleansUp before.socketPath result cleanup ∧
    after.machine.attempts =
      before.machine.attempts ++ before.withoutLedger.attemptsAlong host provider ++ cleanup
  taken : TakesList provider before.node.state after.node.state
  unreported : result ≠ .ok () → after.node.reporter = none
  requested : ∀ reaches received, BringsRequests host reaches received →
    received after.machine.machine =
      received before.machine.machine ++
        if (before.withoutLedger.askingKubelet? host provider).any
            (reaches before.settings.kubeletSocket) then
          [⟨"v1beta1", before.node.state.inventory.family.commonWord ++ ".sock",
            before.node.state.inventory.family.resourceName, Kubelet.pluginOptions⟩]
        else []

theorem takesList_takenOver (provider : Inventory.Provider σ) (plugin : Plugin σ κ ω) :
    TakesList provider plugin.node.state (plugin.takenOver provider) := by
  constructor
  case asked => rfl
  case unlisted =>
    intro cause refused
    unfold takenOver
    simp only [refused]
  case listed =>
    intro devices listed
    unfold takenOver
    simp only [listed]
    exact ⟨rfl, rfl⟩
  case uncalled => rfl

section
variable {provider : Inventory.Provider σ} {host : Host ω} {plugin : Plugin σ κ (Ledger ω)}

theorem takesHurdles_failed {report : Report Error} {after : Plugin σ κ (Ledger ω)}
    (failed : start provider host.withLedger plugin = (.error report, after)) :
    TakesHurdles provider host plugin (.error report) after := by
  -- The hurdles are told of the plain host; the ledger only notes what is tried at them.
  obtain ⟨hurdle, left, was, error, rfl⟩ := start_failed failed
  obtain ⟨state, reporter, _opened, machine⟩ := stop_left was
  have comes := (comesTo_withLedger hurdle).symm.trans was.comes
  have fails := (passes_withLedger hurdle).symm.trans was.fails
  constructor
  case succeeds =>
    constructor
    · intro impossible
      cases impossible
    · intro passes
      rw [passes hurdle] at fails
      cases fails
  case fails =>
    intro other
    constructor
    · rintro ⟨_told, same, named⟩
      cases same
      rw [← errorAt_injective plugin (error.symm.trans named)]
      exact ⟨comes, fails⟩
    · rintro ⟨comesThere, failsThere⟩
      rw [← stuck_unique comes fails comesThere failsThere]
      exact ⟨report, rfl, error⟩
  case attempted =>
    let cleared := (host.clear plugin.socketPath (plugin.withoutLedger.stuckAt host hurdle)).1
    refine ⟨[⟨.clear plugin.socketPath, cleared⟩], ⟨cleared, rfl⟩, ?_⟩
    rw [machine, attemptsAlong_of_stuck comes fails, ← stuckAt_attempts comes]
    change _ ++ [Attempt.mk _ (host.clear _ (plugin.stuckAt host.withLedger hurdle).machine).1] = _
    rw [stuckAt_withLedger]
  case taken =>
    rw [state]
    exact takesList_takenOver provider plugin
  case unreported => exact fun _ => reporter
  case requested =>
    intro reaches received brings
    rw [machine]
    change received (host.clear _ (plugin.stuckAt host.withLedger hurdle).machine).2 = _
    rw [brings.cleared, stuckAt_withLedger, brings.of_stuck comes fails]
    rfl

theorem takesHurdles_succeeded {after : Plugin σ κ (Ledger ω)}
    (succeeded : start provider host.withLedger plugin = (.ok (), after)) :
    TakesHurdles provider host plugin (.ok ()) after := by
  obtain ⟨passesNoted, serving⟩ := start_succeeded succeeded
  have passes (hurdle : Hurdle) : plugin.withoutLedger.passes host provider hurdle = true :=
    (passes_withLedger hurdle).symm.trans (passesNoted hurdle)
  constructor
  case succeeds => exact ⟨fun _ => passes, fun _ => rfl⟩
  case fails =>
    intro hurdle
    constructor
    · rintro ⟨report, impossible, _named⟩
      cases impossible
    · rintro ⟨_comes, fails⟩
      rw [passes hurdle] at fails
      cases fails
  case attempted =>
    refine ⟨[], rfl, ?_⟩
    rw [serving.machine, attemptsAlong_of_passes passes, List.append_nil]
    exact stuckAt_attempts (comesTo_of_passes passes .register)
  case taken =>
    rw [serving.node]
    exact takesList_takenOver provider plugin
  case unreported => exact fun failed => absurd rfl failed
  case requested =>
    intro reaches received brings
    rw [serving.machine]
    change received (plugin.withoutLedger.registering host).2 = _
    rw [brings.of_comesTo (comesTo_of_passes passes .register)]
    rfl

theorem takesHurdles_start (provider : Inventory.Provider σ) (host : Host ω)
    (plugin : Plugin σ κ (Ledger ω)) :
    TakesHurdles provider host plugin (start provider host.withLedger plugin).1
      (start provider host.withLedger plugin).2 := by
  rcases started : start provider host.withLedger plugin with ⟨report | _, after⟩
  · exact takesHurdles_failed started
  · exact takesHurdles_succeeded started

end

end Plugin
end VirtualNpu
