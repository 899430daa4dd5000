import VirtualNpu.Cluster.Keeping
import VirtualNpu.Daemon.Run
import VirtualNpu.Proofs.CallFootprints
import VirtualNpu.Proofs.ConfigRules
import VirtualNpu.Proofs.SupervisorCalls

/-!
The socket of a plugin and that of the kubelet.  They are told apart by their file names alone: a
plugin whose socket is called otherwise leaves that of the kubelet alone through all its runs and is
never restarted for its own, and one whose socket is called the same is.
-/

namespace VirtualNpu

/-! ### Names -/

namespace Plugin

variable {σ κ ω : Type}

def socketName (plugin : Plugin σ κ ω) : String :=
  Text.lastPiece plugin.node.state.inventory.family.commonWord ++ ".sock"

theorem fileName?_socketPath (plugin : Plugin σ κ ω) :
    Text.fileName? plugin.socketPath = some plugin.socketName := by
  have piece : Text.lastPiece plugin.socketPath = plugin.socketName := by
    unfold socketPath endpoint socketName
    rw [Text.lastPiece_joinPath, Text.lastPiece_append _ (by decide)]
  have long : 5 ≤ plugin.socketName.length := by
    unfold socketName
    rw [String.length_append]
    exact Nat.le_add_left 5 _
  rw [← piece] at long ⊢
  refine Text.fileName?_of_lastPiece ?_ ?_ ?_ <;> intro short <;> rw [short] at long <;>
    exact absurd long (by decide)

/-- What the watch of the directory reports once the socket of the plugin has been created. -/
def creation (plugin : Plugin σ κ ω) : Supervisor.Change := ⟨true, [plugin.socketPath]⟩

theorem eventOfReport_creation (plugin : Plugin σ κ ω) (name : String) :
    Supervisor.eventOfReport name (.ok plugin.creation) =
      if plugin.socketName = name then some .socketRecreated else none := by
  have creates : plugin.creation.creates name = decide (plugin.socketName = name) := by
    unfold creation Supervisor.Change.creates
    rw [List.any_cons, List.any_nil, fileName?_socketPath, Bool.or_false, Bool.true_and,
      Option.some_beq_some]
    exact Bool.beq_eq_decide_eq _ _
  change (if plugin.creation.creates name then _ else _) = _
  rw [creates]
  simp

end Plugin

/-! ### Notices -/

namespace Daemon

def Notice.tells (change : Supervisor.Change) : Notice → Bool
  | .watch (.ok reported) => reported == change
  | _ => false

def inputs (socketName : String) (notices : List Notice) : List Supervisor.Input :=
  notices.filterMap (Notice.input? socketName)

/-- Reports that are no events make no difference. -/
theorem inputs_without {socketName : String} {change : Supervisor.Change}
    (unheeded : Supervisor.eventOfReport socketName (.ok change) = none) (notices : List Notice) :
    inputs socketName (notices.filter fun notice => !notice.tells change) =
      inputs socketName notices := by
  have unread (notice : Notice) (tells : notice.tells change = true) :
      notice.input? socketName = none := by
    cases notice with
    | input taken => cases tells
    | watch report =>
        cases report with
        | error message => cases tells
        | ok reported =>
            rw [eq_of_beq tells, Notice.input?, unheeded]
            rfl
  unfold inputs
  rw [List.filterMap_filter]
  refine List.filterMap_congr fun notice _ => ?_
  cases tells : notice.tells change with
  | true => exact (unread notice tells).symm
  | false => rfl

theorem inputs_replicate {socketName : String} {change : Supervisor.Change}
    (heeded : Supervisor.eventOfReport socketName (.ok change) = some .socketRecreated)
    (count : Nat) :
    inputs socketName (List.replicate count (.watch (.ok change))) =
      List.replicate count (.event .socketRecreated) := by
  unfold inputs
  rw [List.filterMap_replicate_of_some]
  rw [Notice.input?, heeded]
  rfl

end Daemon

namespace Supervisor

theorem readInputs_of_other {inputs : List Input}
    (other : ∀ input ∈ inputs, input.isOfFatalSource = false) : readInputs inputs = inputs := by
  induction inputs using List.reverseRecOn with
  | nil => rfl
  | append_singleton inputs input ih =>
      have last := other input (by simp)
      rw [readInputs_concat, ih fun earlier inside => other earlier (by simp [inside]),
        if_neg (by simp [last])]

/-- A run whose starts succeed goes on through restarts alone, and makes every one. -/
theorem run_of_restarts {σ : Type} (life : Lifecycle σ) (state : σ) {inputs : List Input}
    (restarts : ∀ input ∈ inputs, input.isRestart = true) :
    let final := run life.withLedger inputs (.blank state)
    (∀ outcome ∈ final.2.starts, outcome = .ok ()) →
      final.1 = .waiting true ∧ final.2.steps = .start :: inputs.flatMap Input.calls := by
  intro final started
  have restartOf {input : Input} (restart : input.isRestart = true) :
      input.isOfFatalSource = false ∧ input.ending? = none := by
    cases input with
    | event event => cases event <;> first | exact ⟨rfl, rfl⟩ | cases restart
    | fatal | eventsClosed | fatalClosed => cases restart
  have read := readInputs_of_other fun input inside => (restartOf (restarts input inside)).1
  obtain ⟨taken, reached, steps, stands⟩ := traced_run life inputs state
  rw [read] at reached stands
  change Stands inputs taken final.2.starts final.1 at stands
  generalize outcomes : final.2.starts = starts at stands started
  generalize final.1 = phase at stands
  cases stands with
  | waiting unended _ source =>
      refine ⟨congrArg Phase.waiting (source.mpr fun closed => ?_), steps⟩
      cases restarts _ closed
  | unstarted => cases started _ List.mem_cons_self
  | refused unended before restart => cases started _ List.mem_concat_self
  | finished unended before ending =>
      have inside := reached.subset List.mem_concat_self
      rw [(restartOf (restarts _ inside)).2] at ending
      cases ending

theorem run_of_recreations {σ : Type} (life : Lifecycle σ) (state : σ) (count : Nat) :
    let final := run life.withLedger (.replicate count (.event .socketRecreated)) (.blank state)
    (∀ outcome ∈ final.2.starts, outcome = .ok ()) →
      final.1 = .waiting true ∧
        final.2.steps = .start :: (List.replicate count [.cleanup, .stop, .start]).flatten := by
  intro final started
  have restarts : ∀ input ∈ List.replicate count (Input.event .socketRecreated),
      input.isRestart = true := by
    intro input inside
    rw [List.eq_of_mem_replicate inside]
    rfl
  obtain ⟨waits, steps⟩ := run_of_restarts life state restarts started
  refine ⟨waits, steps.trans ?_⟩
  rw [List.flatMap_replicate]
  rfl

theorem starts_of_keeps {σ : Type} {life : Lifecycle σ} {holds : σ → Prop}
    (keeps : life.Keeps holds)
    (succeeds : ∀ {state}, holds state → (life.start state).1 = .ok ()) (inputs : List Input)
    {state : σ} (before : holds state) :
    ∀ outcome ∈ (run life.withLedger inputs (.blank state)).2.starts, outcome = .ok () := by
  have noted : life.withLedger.Keeps fun ledger =>
      holds ledger.state ∧ ∀ outcome ∈ ledger.starts, outcome = .ok () := by
    refine ⟨?_, ?_, ?_⟩ <;> rintro ledger ⟨held, started⟩
    · refine ⟨keeps.start held, ?_⟩
      unfold Ledger.starts Lifecycle.withLedger Ledger.enter
      rw [List.filterMap_append, succeeds held]
      exact List.forall_mem_append.mpr ⟨started, List.forall_mem_singleton.mpr rfl⟩
    · refine ⟨keeps.stop held, ?_⟩
      unfold Ledger.starts Lifecycle.withLedger Ledger.enter
      rw [List.filterMap_append]
      exact List.forall_mem_append.mpr ⟨started, List.forall_mem_nil _⟩
    · refine ⟨keeps.cleanupIdle held, ?_⟩
      unfold Ledger.starts Lifecycle.withLedger Ledger.enter
      rw [List.filterMap_append]
      exact List.forall_mem_append.mpr ⟨started, List.forall_mem_nil _⟩
  exact (noted.run ⟨before, List.forall_mem_nil _⟩ inputs).2

end Supervisor

/-! ### Places -/

namespace Machine

theorem listener?_congr {machine : Machine} {one other : String}
    (same : machine.files.locate one = machine.files.locate other) :
    machine.listener? one = machine.listener? other := by
  unfold Machine.listener? FileTree.find?
  rw [same]

theorem FileTree.locate_of_rooted (tree : FileTree) {path : String}
    (rooted : path.startsWith "/" = true) (plain : path.contains '\x00' = false) :
    tree.locate path = tree.descend [] (namesAlong path) := by
  have filled : path ≠ "" := by
    rintro rfl
    simp at rooted
  unfold FileTree.locate FileTree.origin
  rw [if_neg (by simp [filled, plain]), if_pos rooted]

theorem listener?_of_period? {machine : Machine} {path : String} {period : Nat}
    (serves : machine.period? path = some period) :
    machine.listener? path = some (.plugin period) := by
  unfold Machine.period? at serves
  split at serves
  · rename_i listening
    rw [listening, Option.some.inj serves]
  · cases serves

/-- Nobody listens at a path once it has been cleared, or if it cannot be. -/
theorem listener?_clear {machine : Machine} (willing : Failing.clear ∉ machine.failing)
    (path : String) : (played.clear path machine).2.listener? path = none := by
  cases removes : machine.files.removeFile path with
  | some removed =>
      change (machine.act .clear (machine.files.removeFile path)).2.listener? path = none
      rw [removes, act_of_willing willing]
      unfold Machine.listener?
      rw [FileTree.find?_removeFile machine.files removed path removes]
  | none =>
      -- Only a directory is not removed.
      have directory : machine.files.find? path = some .directory := by
        unfold FileTree.removeFile at removes
        unfold FileTree.find?
        split at removes
        · cases removes
        · rename_i place located
          rw [located]
          split at removes
          · cases removes
          · assumption
          · cases removes
      change (machine.act .clear (machine.files.removeFile path)).2.listener? path = none
      rw [removes]
      unfold Machine.listener? Machine.act
      simp only [directory]

end Machine

namespace Plugin

variable {σ κ : Type}

/-- Where the kubelet's path leads to the own socket, no start succeeds, and afterwards nobody
listens there. -/
theorem start_at_kubelet (provider : Inventory.Provider σ) (plugin : Plugin σ κ Machine)
    (same : plugin.machine.files.locate plugin.socketPath =
      plugin.machine.files.locate plugin.settings.kubeletSocket) :
    ∃ report, (plugin.start provider Machine.played).1 = .error report ∧
      (Machine.Failing.clear ∉ plugin.machine.failing →
        (plugin.start provider Machine.played).2.machine.listener?
          plugin.settings.kubeletSocket = none) := by
  have footprint := Machine.played_footprint plugin.socketPath
  have led {machine : Machine}
      (changes : Machine.ChangesAt plugin.socketPath plugin.machine machine) :
      machine.listener? plugin.settings.kubeletSocket = machine.listener? plugin.socketPath := by
    apply Machine.listener?_congr
    rw [changes.files.locate, changes.files.locate, same]
  rcases started : plugin.start provider Machine.played with ⟨report | _, after⟩
  · refine ⟨report, rfl, fun willing => ?_⟩
    have changes := footprint.start rfl provider
    rw [started] at changes
    obtain ⟨hurdle, left, was, -, rfl⟩ := start_failed started
    rw [led changes, (stop_left was).2.2.2]
    have stuck := footprint.stuckAt rfl hurdle
    exact Machine.listener?_clear (stuck.failing ▸ willing) _
  · -- The server that has just been bound is no kubelet.
    obtain ⟨passes, -⟩ := start_succeeded started
    have bound := (Bool.and_eq_true_iff.mp (passes .bind)).2
    have registered : (plugin.registering Machine.played).1 = true := passes .register
    have serves := (Machine.played_keepsServer plugin.socketPath).opened _ _ bound
    have listens : (plugin.probing Machine.played).2.listener? plugin.settings.kubeletSocket =
        some (.plugin plugin.opened) :=
      (led (footprint.probing rfl)).trans (Machine.listener?_of_period? serves)
    have refused := Machine.receive_of_other (by rw [listens]; exact nofun) plugin.request
    rw [show (plugin.registering Machine.played).1 = false from congrArg Prod.fst refused]
      at registered
    cases registered

/-- A plugin on a machine where nothing stands in the way of its starts. -/
structure Welcomed (plugin : Plugin σ κ Machine) : Prop where
  willing : plugin.machine.failing = []
  accepting : plugin.machine.refusing = false
  kubelet : plugin.machine.listener? plugin.settings.kubeletSocket = some .kubelet
  short : plugin.socketPath.utf8ByteSize ≤ Machine.longestSocketPath
  room : ∃ place, plugin.machine.files.locate plugin.socketPath = some place ∧
    plugin.machine.files.entry? place ≠ some .directory ∧
    plugin.machine.files.locate plugin.settings.kubeletSocket ≠ some place

theorem Welcomed.listens {plugin : Plugin σ κ Machine} (welcomed : Welcomed plugin)
    {machine : Machine} (changes : Machine.ChangesAt plugin.socketPath plugin.machine machine) :
    machine.listener? plugin.settings.kubeletSocket = some .kubelet := by
  obtain ⟨place, located, -, apart⟩ := welcomed.room
  rw [changes.listener?]
  · exact welcomed.kubelet
  · intro there leads here
    rw [located] at here
    exact apart (leads.trans here.symm)

theorem Welcomed.of_changes {plugin after : Plugin σ κ Machine} (welcomed : Welcomed plugin)
    (names : SameNames plugin after)
    (changes : Machine.ChangesAt plugin.socketPath plugin.machine after.machine) :
    Welcomed after := by
  have listens := welcomed.listens changes
  obtain ⟨willing, accepting, -, short, place, located, free, apart⟩ := welcomed
  have path := names.socketPath
  refine ⟨changes.failing.trans willing, changes.refusing.trans accepting, ?_, path ▸ short,
    place, ?_, mt (changes.files.directories place).mp free, ?_⟩
  · rw [names.settings]
    exact listens
  · rw [path, changes.files.locate]
    exact located
  · rw [names.settings, changes.files.locate]
    exact apart

theorem Welcomed.binds {plugin : Plugin σ κ Machine} (welcomed : Welcomed plugin) :
    (plugin.clearing Machine.played).1 = true ∧ (plugin.listening Machine.played).1 = true := by
  obtain ⟨willing, -, -, short, place, located, free, -⟩ := welcomed
  obtain ⟨removed, removes, start, gone, -⟩ := Machine.FileTree.removeFile_of_located located free
  have willing' (kind : Machine.Failing) : kind ∉ plugin.machine.failing :=
    willing ▸ List.not_mem_nil
  have cleared : plugin.clearing Machine.played =
      (true, { plugin.machine with files := removed }) := by
    change plugin.machine.act .clear (plugin.machine.files.removeFile plugin.socketPath) = _
    rw [removes, Machine.act_of_willing (willing' _)]
  have leads : removed.locate plugin.socketPath = some place := by
    rw [(Machine.FileTree.changesAt_removeFile removes).locate, located]
  have below : place ≠ [] := by
    rintro rfl
    exact free rfl
  have bound : removed.bindSocket plugin.socketPath (.plugin plugin.opened) =
      some (removed.put place (.socket (.plugin plugin.opened))) := by
    unfold Machine.FileTree.bindSocket
    rw [if_neg (Nat.not_lt.mpr short), leads]
    simp only [gone, if_neg below]
  refine ⟨congrArg Prod.fst cleared, ?_⟩
  unfold listening
  rw [cleared]
  change (Machine.act _ .listen (removed.bindSocket plugin.socketPath _)).1 = true
  have willing'' : Machine.Failing.listen ∉ { plugin.machine with files := removed }.failing :=
    willing' .listen
  rw [bound]
  exact congrArg Prod.fst (Machine.act_of_willing willing'' _)

/-- Nothing but its listing can keep a start from succeeding that is welcome. -/
theorem Welcomed.start_succeeds {plugin : Plugin σ κ Machine} (welcomed : Welcomed plugin)
    (provider : Inventory.Provider σ)
    (lists : (provider.devices plugin.node.state.provider).1.isOk = true) :
    (plugin.start provider Machine.played).1 = .ok () := by
  have footprint := Machine.played_footprint plugin.socketPath
  obtain ⟨cleared, bound⟩ := welcomed.binds
  rcases started : plugin.start provider Machine.played with ⟨report | _, after⟩
  · obtain ⟨hurdle, left, was, -⟩ := start_failed started
    have passes : plugin.passes Machine.played provider hurdle = true := by
      cases hurdle with
      | refresh => exact lists
      | bind => exact Bool.and_eq_true_iff.mpr ⟨cleared, bound⟩
      | probe =>
          have serves := (Machine.played_keepsServer plugin.socketPath).opened _ _ bound
          have changes : Machine.ChangesAt _ plugin.machine (plugin.listening _).2 :=
            footprint.listening rfl
          change (Option.isSome (Machine.period? _ _) && decide (Machine.Failing.probe ∉ _)) = true
          rw [show Machine.period? (plugin.listening Machine.played).2 plugin.socketPath =
            some plugin.opened from serves, changes.failing, welcomed.willing]
          rfl
      | register =>
          have changes : Machine.ChangesAt _ plugin.machine (plugin.probing _).2 :=
            footprint.probing rfl
          change (Machine.receive _ _ plugin.request).1 = true
          rw [Machine.receive_of_kubelet (welcomed.listens changes), changes.refusing,
            changes.failing, welcomed.willing, welcomed.accepting]
          rfl
    rw [was.fails] at passes
    cases passes
  · rfl

theorem Welcomed.restarts {provider : Inventory.Provider σ}
    (lists : ∀ state, (provider.devices state).1.isOk = true) {plugin : Plugin σ κ Machine}
    (welcomed : Welcomed plugin) (inputs : List Supervisor.Input) :
    ∀ outcome ∈ (Supervisor.run (lifecycle provider Machine.played).withLedger inputs
      (.blank plugin)).2.starts, outcome = .ok () := by
  have keeps : (lifecycle (κ := κ) provider Machine.played).Keeps Welcomed := by
    refine ⟨?_, ?_, ?_⟩ <;> intro now welcomed
    · exact welcomed.of_changes (start_names provider Machine.played now)
        ((Machine.played_footprint _).start rfl provider)
    · exact welcomed.of_changes (stop_names Machine.played now)
        ((Machine.played_footprint _).stop rfl)
    · exact welcomed.of_changes ⟨rfl, rfl⟩ ((Machine.played_footprint _).refl _)
  exact Supervisor.starts_of_keeps keeps
    (fun welcomed => welcomed.start_succeeds provider (lists _)) inputs welcomed

end Plugin

/-! ### Words -/

namespace Config

/-- A family of which no more is said than is asked for, under a common word. -/
def plainFamily (word : String) : ChipFamily := ⟨"910B3", word, "h/r", 1, 0, 0, none, []⟩

theorem isSettled_plainFamily {word : String} (filled : word ≠ "") :
    (DeviceConfig.mk [plainFamily word]).IsSettled :=
  isSettled_single ⟨filled, by simp [plainFamily], by simp [plainFamily], List.forall_mem_nil _⟩
    (by simp [plainFamily, ChipFamily.sorted])

/-- The rules of a config ask nothing of a common word but that there is one. -/
theorem exists_commonWord_iff (word : String) :
    (∃ text origin config, DeviceConfig.parse text origin = .ok config ∧
      ∃ family ∈ config.families, family.commonWord = word) ↔ word ≠ "" := by
  constructor
  · rintro ⟨text, origin, config, taken, family, inside, rfl⟩
    exact ((isSettled_of_parse taken).proper.sound family inside).commonWord
  · intro filled
    exact ⟨_, "", _, (isSettled_plainFamily filled).parse_render "", plainFamily word,
      List.mem_singleton_self _, rfl⟩

end Config

/-! ### Runs -/

namespace Plugin

variable {σ κ : Type}

/-- A plugin takes the creation of its own socket for that of the kubelet's exactly if the two have
the same file name.  If they have not, they are at different paths, what the kubelet listens at is
there through every run, and reports of the own socket make no difference; if they have, every such
report restarts the plugin.  A start takes the kubelet's socket away, and fails, exactly if the two
paths lead to the same place.  Nothing in the rules of a config keeps the names apart. -/
theorem kubelet_told_apart_by_name (provider : Inventory.Provider σ) (plugin : Plugin σ κ Machine)
    {name : String} (named : Text.fileName? plugin.settings.kubeletSocket = some name) :
    let kubelet := plugin.settings.kubeletSocket
    let place := plugin.machine.files.locate
    let created : Daemon.Notice := .watch (.ok plugin.creation)
    let life := lifecycle provider Machine.played
    let run := fun notices => Supervisor.run life (Daemon.inputs name notices) plugin
    let noted := fun notices =>
      Supervisor.run life.withLedger (Daemon.inputs name notices) (.blank plugin)
    let started := plugin.start provider Machine.played
    (created.input? name =
        if plugin.socketName = name then some (.event .socketRecreated) else none) ∧
    (plugin.socketName ≠ name →
      plugin.socketPath ≠ kubelet ∧
      ∀ notices,
        (run notices).2.machine.listener? kubelet = plugin.machine.listener? kubelet ∧
        run (notices.filter fun notice => !notice.tells plugin.creation) = run notices) ∧
    (plugin.socketName = name →
      ∀ count, (∀ outcome ∈ (noted (.replicate count created)).2.starts, outcome = .ok ()) →
        (noted (.replicate count created)).1 = .waiting true ∧
        (noted (.replicate count created)).2.steps =
          .start :: (List.replicate count [.cleanup, .stop, .start]).flatten) ∧
    (place plugin.socketPath = place kubelet → ∃ report, started.1 = .error report) ∧
    (plugin.machine.listener? kubelet = some .kubelet → .clear ∉ plugin.machine.failing →
      (started.2.machine.listener? kubelet = some .kubelet ↔
        place plugin.socketPath ≠ place kubelet)) ∧
    ∀ word, (∃ text origin config, Config.DeviceConfig.parse text origin = .ok config ∧
      ∃ family ∈ config.families, family.commonWord = word) ↔ word ≠ "" := by
  intro kubelet place created life run noted started
  have footprint := Machine.played_footprint plugin.socketPath
  have own := plugin.fileName?_socketPath
  have event := plugin.eventOfReport_creation name
  refine ⟨?_, fun differ => ⟨?_, fun notices => ⟨?_, ?_⟩⟩, fun same count succeeded => ?_,
    fun same => ?_, fun listening willing => ⟨fun stays same => ?_, fun apart => ?_⟩,
    Config.exists_commonWord_iff⟩
  · change (Supervisor.eventOfReport name (.ok plugin.creation)).map _ = _
    rw [event]
    split <;> rfl
  · intro same
    rw [same, named] at own
    exact differ (Option.some.inj own).symm
  · refine (Supervisor.run_footprint footprint provider _).listener? fun there leads => ?_
    exact Machine.FileTree.locate_ne_of_fileName? own named differ leads
  · change Supervisor.run life (Daemon.inputs name (notices.filter _)) plugin = _
    rw [Daemon.inputs_without (by rw [event, if_neg differ])]
  · rw [if_pos same] at event
    have restarts : Daemon.inputs name (.replicate count created) =
        .replicate count (.event .socketRecreated) := Daemon.inputs_replicate event count
    dsimp only [noted] at succeeded ⊢
    rw [restarts] at succeeded ⊢
    exact Supervisor.run_of_recreations life plugin count succeeded
  · obtain ⟨report, failed, -⟩ := plugin.start_at_kubelet provider same
    exact ⟨report, failed⟩
  · obtain ⟨report, -, gone⟩ := plugin.start_at_kubelet provider same
    rw [gone willing] at stays
    cases stays
  · refine ((footprint.start rfl provider).listener? fun there leads here => ?_).trans listening
    exact apart (here.trans leads.symm)

private def silent : Inventory.Provider Unit where
  chipName _ := (.ok "910B3", ())
  logicIds _ := (.ok [], ())
  query _ _ := (.error (.of (.enumerate "none")), ())
  devices _ := (.ok [], ())
  cleanupIdle _ := (.ok (), ())

private def host (kubelet : Machine.Place) : Machine :=
  .ofFiles ⟨[], [(kubelet, .socket .kubelet), (["plugins"], .directory), (["run"], .directory)]⟩

private def plain (word socket : String) (kubelet : Machine.Place) : Plugin Unit Unit Machine :=
  .new ⟨"/plugins", Text.joinPath "/plugins" socket, .default, 0⟩
    (.start "node" (Config.plainFamily word) () ()) (host kubelet)

private theorem listener?_of_located {machine : Machine} {path : String} {place : Machine.Place}
    {listener : Machine.Listener} (located : machine.files.locate path = some place)
    (stands : machine.files.entry? place = some (.socket listener)) :
    machine.listener? path = some listener := by
  unfold Machine.listener? Machine.FileTree.find?
  rw [located, Option.bind_some, stands]

private theorem kubelet_listens :
    (host ["plugins", "kubelet.sock"]).listener? "/plugins/kubelet.sock" = some .kubelet := by
  have place : (host ["plugins", "kubelet.sock"]).files.locate "/plugins/kubelet.sock" =
      some ["plugins", "kubelet.sock"] := by
    rw [Machine.FileTree.locate_of_rooted _ (by simp) (by simp)]
    decide +kernel
  exact listener?_of_located place (by decide)

private theorem welcomed_plain : Welcomed (plain "B" "/run/B.sock" ["run", "B.sock"]) := by
  have own : (plain "B" "/run/B.sock" ["run", "B.sock"]).socketPath = "/plugins/B.sock" := by
    decide +kernel
  have kubelet : (plain "B" "/run/B.sock" ["run", "B.sock"]).settings.kubeletSocket =
      "/run/B.sock" := by decide +kernel
  have ownPlace : (host ["run", "B.sock"]).files.locate "/plugins/B.sock" =
      some ["plugins", "B.sock"] := by
    rw [Machine.FileTree.locate_of_rooted _ (by simp) (by simp)]
    decide +kernel
  have kubeletPlace : (host ["run", "B.sock"]).files.locate "/run/B.sock" =
      some ["run", "B.sock"] := by
    rw [Machine.FileTree.locate_of_rooted _ (by simp) (by simp)]
    decide +kernel
  refine ⟨rfl, rfl, ?_, ?_, ["plugins", "B.sock"], ?_, by decide, ?_⟩
  · rw [kubelet]
    exact listener?_of_located kubeletPlace (by decide)
  · rw [own]
    decide
  · rw [own]
    exact ownPlace
  · rw [kubelet]
    exact fun same => absurd (kubeletPlace.symm.trans same) (by decide)

theorem own_socket_unheeded :
    let plugin := plain "npu" "kubelet.sock" ["plugins", "kubelet.sock"]
    let notices : List Daemon.Notice :=
      [.watch (.ok plugin.creation), .input (.event .restartSignal),
        .watch (.ok ⟨true, [plugin.settings.kubeletSocket]⟩), .watch (.ok plugin.creation)]
    let run := fun notices =>
      Supervisor.run (lifecycle silent Machine.played) (Daemon.inputs "kubelet.sock" notices) plugin
    Text.fileName? plugin.settings.kubeletSocket = some "kubelet.sock" ∧
      plugin.socketName = "npu.sock" ∧
      plugin.machine.listener? plugin.settings.kubeletSocket = some .kubelet ∧
      (run notices).2.machine.listener? plugin.settings.kubeletSocket = some .kubelet ∧
      run (notices.filter fun notice => !notice.tells plugin.creation) = run notices := by
  intro plugin notices run
  have named : Text.fileName? plugin.settings.kubeletSocket = some "kubelet.sock" := by
    decide +kernel
  have name : plugin.socketName = "npu.sock" := by decide +kernel
  have listening : plugin.machine.listener? plugin.settings.kubeletSocket = some .kubelet := by
    have path : plugin.settings.kubeletSocket = "/plugins/kubelet.sock" := by decide +kernel
    rw [path]
    exact kubelet_listens
  obtain ⟨-, apart, -⟩ := kubelet_told_apart_by_name silent plugin named
  obtain ⟨-, runs⟩ := apart (by rw [name]; decide)
  obtain ⟨stays, unheeded⟩ := runs notices
  exact ⟨named, name, listening, stays.trans listening, unheeded⟩

/-- Two configs are taken whose families have sockets that pass for the kubelet's.  Of the first
the start takes the kubelet's socket away and fails, and a plugin of the second is restarted for
its own socket for ever. -/
theorem own_socket_passes_for_kubelet :
    let taking := plain "kubelet" "kubelet.sock" ["plugins", "kubelet.sock"]
    let started := taking.start silent Machine.played
    let restarting := plain "B" "/run/B.sock" ["run", "B.sock"]
    let report : Daemon.Notice := .watch (.ok restarting.creation)
    (Config.DeviceConfig.parse (Config.DeviceConfig.mk [Config.plainFamily "kubelet"]).render
        "kubelet.yaml" = .ok ⟨[Config.plainFamily "kubelet"]⟩ ∧
      taking.socketPath = taking.settings.kubeletSocket ∧
      Supervisor.eventOfReport "kubelet.sock" (.ok taking.creation) = some .socketRecreated ∧
      taking.machine.listener? taking.settings.kubeletSocket = some .kubelet ∧
      started.1.isOk = false ∧
      started.2.machine.listener? taking.settings.kubeletSocket = none) ∧
    Config.DeviceConfig.parse (Config.DeviceConfig.mk [Config.plainFamily "B"]).render
        "b.yaml" = .ok ⟨[Config.plainFamily "B"]⟩ ∧
      restarting.socketPath ≠ restarting.settings.kubeletSocket ∧
      ∀ count,
        (Supervisor.run (lifecycle silent Machine.played).withLedger
          (Daemon.inputs "B.sock" (.replicate count report)) (.blank restarting)).2.steps =
            .start :: (List.replicate count [.cleanup, .stop, .start]).flatten := by
  intro taking started restarting report
  have taken {word : String} (filled : word ≠ "") (origin : String) :=
    (Config.isSettled_plainFamily filled).parse_render origin
  have path : taking.settings.kubeletSocket = "/plugins/kubelet.sock" := by decide +kernel
  have own : taking.socketPath = "/plugins/kubelet.sock" := by decide +kernel
  have listening : taking.machine.listener? taking.settings.kubeletSocket = some .kubelet := by
    rw [path]
    exact kubelet_listens
  obtain ⟨cause, failed, gone⟩ := taking.start_at_kubelet silent (by rw [own, path])
  have other : restarting.socketPath ≠ restarting.settings.kubeletSocket := by decide +kernel
  refine ⟨⟨taken (by decide) _, own.trans path.symm, ?_, listening, ?_, gone (by decide)⟩,
    taken (by decide) _, other, fun count => ?_⟩
  · rw [eventOfReport_creation, if_pos (by decide +kernel)]
  · change (taking.start silent Machine.played).1.isOk = false
    rw [failed]
    rfl
  · have heeded : Supervisor.eventOfReport "B.sock" (.ok restarting.creation) =
        some .socketRecreated := by
      rw [eventOfReport_creation, if_pos (by decide +kernel)]
    have lists : ∀ state, (silent.devices state).1.isOk = true := fun _ => rfl
    rw [Daemon.inputs_replicate heeded]
    exact (Supervisor.run_of_recreations _ restarting count (welcomed_plain.restarts lists _)).2

end Plugin
end VirtualNpu
