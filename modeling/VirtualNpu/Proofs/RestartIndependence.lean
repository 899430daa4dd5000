import VirtualNpu.Plugin.Likeness
import VirtualNpu.Proofs.MachineLikeness
import VirtualNpu.Proofs.PlayedSurroundings
import VirtualNpu.Proofs.ServiceTwins
import VirtualNpu.Proofs.StartDiaries

/-!
A restart does not depend on the past.  All that a start takes over from the periods before is the
name and the family of the node, its surroundings, and a health counter; and of the counter nobody
sees more than how far it has come since a watch was opened.
-/

namespace VirtualNpu
namespace Plugin

variable {σ κ ω : Type} {world : World σ κ ω} {likeness : Likeness world}

/-! ### Two starts -/

section
variable {one other : Plugin σ κ ω}

theorem SameNames.errorAt (names : SameNames one other) (hurdle : Hurdle) :
    other.errorAt hurdle = one.errorAt hurdle := by
  cases hurdle with
  | refresh => rfl
  | bind => exact congrArg Error.socket names.socketPath
  | probe => exact congrArg Error.liveness names.socketPath
  | register => exact congrArg (Error.registration ·.kubeletSocket) names.settings

variable (same : SameSurroundings likeness one other) (names : SameNames one other)
include same names

theorem SameSurroundings.listening :
    Node.Agree likeness.machine (one.listening world.host) (other.listening world.host) := by
  unfold Plugin.listening
  rw [names.socketPath]
  exact likeness.listens _ _ _ same.cleared

theorem SameSurroundings.probing :
    Node.Agree likeness.machine (one.probing world.host) (other.probing world.host) := by
  unfold Plugin.probing
  rw [names.socketPath]
  exact likeness.probes _ (same.listening names).2

theorem SameSurroundings.registering :
    Node.Agree likeness.machine (one.registering world.host) (other.registering world.host) := by
  unfold Plugin.registering
  rw [names.settings, names.request]
  exact likeness.asks _ _ (same.probing names).2

theorem SameSurroundings.passes (hurdle : Hurdle) :
    one.passes world.host world.provider hurdle =
      other.passes world.host world.provider hurdle := by
  cases hurdle with
  | refresh => exact congrArg Except.isOk (likeness.lists same.provider).1
  | bind =>
      unfold Plugin.passes
      rw [same.usable.1, same.usable.2, (same.listening names).1]
  | probe => exact (same.probing names).1
  | register => exact (same.registering names).1

theorem SameSurroundings.result :
    (start world.provider world.host one).1 = (start world.provider world.host other).1 := by
  have passes := funext fun hurdle => congrArg not (same.passes names hurdle)
  rw [start_result, start_result, (likeness.lists same.provider).1, passes, funext names.errorAt]

end

/-- On the played machine it is enough that the rest is alike, whether nothing, a file or an old
socket is left at the path. -/
theorem sameSurroundings_of_leftover {world : Node.World σ κ} (likeness : Node.Likeness world)
    {one other : Plugin σ κ Machine} (names : SameNames one other)
    (moment : likeness.moment one.node.time other.node.time)
    (provider : likeness.provider one.node.state.provider other.node.state.provider)
    (cluster : likeness.cluster one.node.state.cluster other.node.state.cluster)
    (beside : Machine.AlikeBeside one.socketPath one.machine other.machine)
    (willing : .clear ∉ one.machine.failing) :
    SameSurroundings (Machine.playedLikeness likeness) one other := by
  obtain ⟨usable, cleared⟩ := beside.clear willing
  constructor
  case moment => exact moment
  case provider => exact provider
  case cluster => exact cluster
  case usable =>
    unfold clearing
    rw [names.socketPath]
    exact usable
  case cleared =>
    unfold clearing
    rw [names.socketPath]
    exact cleared

/-! ### What both take over -/

section
variable {one other : Plugin σ κ ω}

/-- The nodes after two starts that list the devices: they have counted the health notifications of
their own past, and are alike in everything else. -/
theorem SameSurroundings.takenOver (same : SameSurroundings likeness one other)
    (names : SameNames one other)
    (listed : one.passes world.host world.provider .refresh = true) :
    Node.AlikeStates likeness.toLikeness other.node.state.raised one.node.state.raised
      (one.takenOver world.provider) (other.takenOver world.provider) := by
  obtain ⟨answer, left, right, first, second, after⟩ := (likeness.lists same.provider).split
  constructor
  case inventory =>
    unfold Plugin.passes at listed
    unfold Plugin.takenOver Inventory.replace
    dsimp only at listed ⊢
    rw [first] at listed ⊢
    rw [second]
    cases answer with
    | error cause => cases listed
    | ok devices =>
        dsimp only
        rw [names.family]
  case raised => exact Nat.add_comm _ _
  case provider => exact (likeness.lists same.provider).2
  case cluster => exact same.cluster

end

section
variable {one other one' other' : Plugin σ κ (Ledger ω)}

theorem SameSurroundings.twins
    (same : SameSurroundings likeness one.withoutLedger other.withoutLedger)
    (names : SameNames one other) (name : one.node.name = other.node.name)
    (listed : one.withoutLedger.passes world.host world.provider .refresh = true)
    (first : Serving world.provider world.host.withLedger one one')
    (second : Serving world.provider world.host.withLedger other other') :
    Node.Twins likeness.toLikeness other.node.state.raised one.node.state.raised
      one'.service other'.service := by
  -- Each watch will be opened at the counter of its own node, so the counters are the offsets.
  have state := same.takenOver ⟨names.settings, names.family⟩ listed
  unfold service
  rw [first.node, second.node]
  refine ⟨⟨name, ⟨state.inventory, state.raised, state.provider, state.cluster⟩, .nil, rfl, ?_,
    same.moment⟩, rfl⟩
  rw [names.settings]
  exact .some ⟨rfl, rfl, likeness.passes _ same.moment⟩

theorem Serving.reachable {provider : Inventory.Provider σ} {host : Host ω}
    (serving : Serving provider host.withLedger one one') (names : SameNames one one')
    (passes : ∀ hurdle, one.withoutLedger.passes host provider hurdle = true)
    (keeps : KeepsServer host one.socketPath) : one'.isReachable host.withLedger = true := by
  have bound := (Bool.and_eq_true_iff.mp (passes .bind)).2
  have reached : host.listener? one.socketPath (one.withoutLedger.registering host).2 =
      some one.opened :=
    (keeps.registered _ _ _).trans ((keeps.probed _).trans (keeps.opened _ _ bound))
  unfold isReachable
  rw [serving.running, names.socketPath, serving.machine]
  exact beq_iff_eq.mpr reached

/-- The last that a start which succeeds has done on the machine is to bring its request. -/
theorem Serving.registered {provider : Inventory.Provider σ} {host : Host ω}
    (serving : Serving provider host.withLedger one one')
    (passes : ∀ hurdle, one.withoutLedger.passes host provider hurdle = true) :
    one'.machine.attempts.getLast? =
      some ⟨.register one.settings.kubeletSocket one.request, true⟩ := by
  rw [serving.machine, registering_attempts, attemptsAt, List.getLast?_concat]
  exact congrArg (fun succeeded => some (Attempt.mk _ succeeded)) (passes .register)

end

/-! ### The name of the node -/

theorem stop_name (host : Host ω) (plugin : Plugin σ κ ω) :
    (plugin.stop host).2.node.name = plugin.node.name := by
  unfold stop cancelRunning
  cases plugin.running <;> rfl

theorem start_name (provider : Inventory.Provider σ) (host : Host ω) (plugin : Plugin σ κ ω) :
    (start provider host plugin).2.node.name = plugin.node.name := by
  rcases started : start provider host plugin with ⟨report | _, after⟩
  · obtain ⟨hurdle, left, was, _error, rfl⟩ := start_failed started
    exact (stop_name host left).trans was.name
  · change after.node.name = _
    rw [(start_succeeded started).2.node]

theorem step_name (world : World σ κ ω) (course : Course σ κ ω) (act : Act σ κ ω) :
    (course.step world act).plugin.node.name = course.plugin.node.name := by
  cases act with
  | call call =>
      cases call with
      | start => exact start_name world.provider world.host.withLedger course.plugin
      | stop => exact stop_name world.host.withLedger course.plugin
  | receive number =>
      simp only [Course.step, receive, Node.receive, Node.read]
      cases course.plugin.past[number]? with
      | some watch => rfl
      | none => cases course.plugin.node.watches[number - course.plugin.past.length]? <;> rfl
  | awaitReport =>
      simp only [Course.step, awaitReport]
      cases course.plugin.node.reporter <;> rfl
  | _ => rfl

theorem run_name (world : World σ κ ω) (acts : List (Act σ κ ω)) (course : Course σ κ ω) :
    (course.run world acts).plugin.node.name = course.plugin.node.name := by
  induction acts generalizing course with
  | nil => rfl
  | cons act rest ih => exact (ih (course.step world act)).trans (step_name world course act)

/-! ### Two histories -/

section
variable {one other : Plugin σ κ (Ledger ω)}

/-- After two starts in alike surroundings nobody can tell the plugins apart. -/
theorem SameSurroundings.sameService
    (same : SameSurroundings likeness one.withoutLedger other.withoutLedger)
    (names : SameNames one other) (name : one.node.name = other.node.name)
    (succeeded : (start world.provider world.host.withLedger one).1 = .ok ())
    (succeeded' : (start world.provider world.host.withLedger other).1 = .ok ()) :
    SameService likeness (start world.provider world.host.withLedger one).2
      (start world.provider world.host.withLedger other).2 := by
  have names₁ := start_names world.provider world.host.withLedger one
  have names₂ := start_names world.provider world.host.withLedger other
  rcases started : start world.provider world.host.withLedger one with ⟨result, one'⟩
  rcases started' : start world.provider world.host.withLedger other with ⟨result', other'⟩
  rw [started] at succeeded names₁
  rw [started'] at succeeded' names₂
  cases succeeded
  cases succeeded'
  obtain ⟨noted, serving⟩ := start_succeeded started
  obtain ⟨noted', serving'⟩ := start_succeeded started'
  have passes (hurdle : Hurdle) :
      one.withoutLedger.passes world.host world.provider hurdle = true :=
    (passes_withLedger hurdle).symm.trans (noted hurdle)
  have passes' (hurdle : Hurdle) :
      other.withoutLedger.passes world.host world.provider hurdle = true :=
    (passes_withLedger hurdle).symm.trans (noted' hurdle)
  have twins := same.twins names name (passes .refresh) serving serving'
  have place : other.socketPath = one.socketPath := names.socketPath
  constructor
  case inventory => exact twins.node.state.inventory
  case serving =>
    exact ⟨congrArg Option.isSome serving.running, congrArg Option.isSome serving'.running⟩
  case socketPath => exact names₁.socketPath.trans (place.symm.trans names₂.socketPath.symm)
  case reachable =>
    intro keeps
    rw [names₁.socketPath] at keeps
    refine ⟨serving.reachable names₁ passes keeps, serving'.reachable names₂ passes' ?_⟩
    rw [place]
    exact keeps
  case registered =>
    rw [names₁.settings, names₁.request]
    refine ⟨serving.registered passes, ?_⟩
    rw [serving'.registered passes', names.settings, names.request]
  case answers =>
    intro moves keeps
    exact twins.answers moves keeps

end

section
variable {one other : Plugin σ κ (Ledger ω)}

theorem SameSurroundings.restart
    (same : SameSurroundings likeness one.withoutLedger other.withoutLedger)
    (names : SameNames one other) (name : one.node.name = other.node.name) :
    let started := start world.provider world.host.withLedger one
    let started' := start world.provider world.host.withLedger other
    started.1 = started'.1 ∧
      (started.1 = .ok () → SameService likeness started.2 started'.2) := by
  intro started started'
  have result : started.1 = started'.1 := by
    have plain := congrArg Prod.fst (perform_withLedger world.provider world.host .start one)
    have plain' := congrArg Prod.fst (perform_withLedger world.provider world.host .start other)
    exact plain.trans ((same.result ⟨names.settings, names.family⟩).trans plain'.symm)
  exact ⟨result, fun succeeded =>
    same.sameService names name succeeded (result.symm.trans succeeded)⟩

end

/-- On the played machine, whether nothing, a file or an old socket is left at the path. -/
theorem played_restart {world : Node.World σ κ} (likeness : Node.Likeness world)
    {one other : Plugin σ κ (Ledger Machine)} (names : SameNames one other)
    (name : one.node.name = other.node.name)
    (moment : likeness.moment one.node.time other.node.time)
    (provider : likeness.provider one.node.state.provider other.node.state.provider)
    (cluster : likeness.cluster one.node.state.cluster other.node.state.cluster)
    (beside : Machine.AlikeBeside one.socketPath one.machine.machine other.machine.machine)
    (willing : .clear ∉ one.machine.machine.failing) :
    let started := start world.provider Machine.played.withLedger one
    let started' := start world.provider Machine.played.withLedger other
    started.1 = started'.1 ∧
      (started.1 = .ok () →
        SameService (Machine.playedLikeness likeness) started.2 started'.2 ∧
          started.2.isReachable Machine.played.withLedger = true ∧
          started'.2.isReachable Machine.played.withLedger = true) := by
  intro started started'
  have same : SameSurroundings (Machine.playedLikeness likeness) one.withoutLedger
      other.withoutLedger :=
    sameSurroundings_of_leftover likeness ⟨names.settings, names.family⟩ moment provider cluster
      beside willing
  obtain ⟨result, service⟩ := same.restart names name
  exact ⟨result, fun succeeded =>
    ⟨service succeeded, (service succeeded).reachable (Machine.played_keepsServer _)⟩⟩

/-- Whatever happened to two plugins with the same settings, name and family: where their
surroundings are alike at the next start, both starts come to the same result, and if they succeed
nobody can tell the plugins apart by what they serve. -/
theorem restart_forgets_past (world : World σ κ ω) (likeness : Likeness world)
    (settings : Settings) (node node' : Node σ κ) (machine machine' : ω)
    (acts acts' : List (Act σ κ ω)) (name : node.name = node'.name)
    (family : node.state.inventory.family = node'.state.inventory.family) :
    let one := ((Course.start settings node machine).run world acts).plugin
    let other := ((Course.start settings node' machine').run world acts').plugin
    let started := start world.provider world.host.withLedger one
    let started' := start world.provider world.host.withLedger other
    SameSurroundings likeness one.withoutLedger other.withoutLedger →
      started.1 = started'.1 ∧
        (started.1 = .ok () → SameService likeness started.2 started'.2) := by
  intro one other started started' same
  have names₁ := run_names world acts (.start settings node machine)
  have names₂ := run_names world acts' (.start settings node' machine')
  have names : SameNames one other :=
    ⟨names₂.settings.trans names₁.settings.symm,
      names₂.family.trans (family.symm.trans names₁.family.symm)⟩
  have name₁ := run_name world acts (.start settings node machine)
  have name₂ := run_name world acts' (.start settings node' machine')
  exact same.restart names (name₁.trans (name.trans name₂.symm))

/-- A machine with at most one server, and a kubelet that may refuse. -/
private structure Booth where
  server : Option Nat
  refusing : Bool

private def boothWorld : World Inventory.Script Cluster.Stage Booth :=
  { provider := Inventory.scripted
    client := Cluster.staged
    clock := fun _ stage => stage
    handshake := fun _ _ => none
    host :=
      { clear := fun _ booth => (true, { booth with server := none })
        listen := fun _ period booth =>
          (booth.server.isNone, { booth with server := some (booth.server.getD period) })
        probe := fun _ booth => (booth.server.isSome, booth)
        register := fun _ _ booth => (!booth.refusing, booth)
        listener? := fun _ booth => booth.server } }

private def boothLikeness : Likeness boothWorld :=
  { Node.playedSurroundings boothWorld.clock boothWorld.handshake (fun _ _ _ same => same) with
    machine := fun one other =>
      one.server.isSome = other.server.isSome ∧ one.refusing = other.refusing
    listens := by
      rintro _ _ _ ⟨_ | _, _⟩ ⟨_ | _, _⟩ ⟨servers, refusing⟩ <;> cases servers <;>
        exact ⟨rfl, rfl, refusing⟩
    probes := fun _ _ _ alike => ⟨alike.1, alike⟩
    asks := fun _ _ _ _ alike => ⟨congrArg not alike.2, alike⟩ }

private def boothNode : Node Inventory.Script Cluster.Stage :=
  .start "node" ⟨"910B3", "Ascend910B3", "npu", 65536, 65536, 20, none, []⟩
    { Inventory.Script.quiet "910B3" with devices := [(0, ⟨"uuid", 0, 0, 0, -1, true⟩)] }
    ⟨[], [], 0, []⟩

private def boothSettings : Settings := ⟨"/plugins", "/kubelet.sock", .default, 0⟩

/-- Two starts, a watch and an allocation of the period that is serving now. -/
private def busyPast : List (Act Inventory.Script Cluster.Stage Booth) :=
  [.call .start, .call .start, .openWatch, .allocate [["uuid-0"]]]

private def refusedPast : List (Act Inventory.Script Cluster.Stage Booth) :=
  [.call .start, .machine ({ · with refusing := false })]

theorem busy_and_refused_pasts :
    let busy :=
      ((Course.start boothSettings boothNode ⟨none, false⟩).run boothWorld busyPast).plugin
    let refused :=
      ((Course.start boothSettings boothNode ⟨some 7, true⟩).run boothWorld refusedPast).plugin
    (busy.isServing = true ∧ busy.node.state.provider.queries = 2 ∧
      busy.node.state.cluster.calls.length = 2) ∧
    (refused.isServing = false ∧ refused.node.state.provider.queries = 1 ∧
      refused.node.state.cluster.calls = []) ∧
    SameService boothLikeness
      (start boothWorld.provider boothWorld.host.withLedger busy).2
      (start boothWorld.provider boothWorld.host.withLedger refused).2 := by
  intro busy refused
  have same : SameSurroundings boothLikeness busy.withoutLedger refused.withoutLedger :=
    ⟨rfl, ⟨rfl, rfl, rfl, rfl, rfl⟩, ⟨rfl, rfl⟩, ⟨rfl, rfl⟩, rfl, rfl⟩
  obtain ⟨_result, service⟩ := restart_forgets_past boothWorld boothLikeness boothSettings boothNode
    boothNode ⟨none, false⟩ ⟨some 7, true⟩ busyPast refusedPast rfl rfl same
  exact ⟨⟨rfl, rfl, rfl⟩, ⟨rfl, rfl, rfl⟩, service rfl⟩

end Plugin
end VirtualNpu
