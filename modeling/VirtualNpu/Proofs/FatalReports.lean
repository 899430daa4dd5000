import VirtualNpu.Daemon.Outcome
import VirtualNpu.Daemon.Service
import VirtualNpu.Inventory.Scripted
import VirtualNpu.Proofs.CallFootprints
import VirtualNpu.Proofs.ServingLoops
import VirtualNpu.Proofs.SupervisedPlugin

/-!
How crashes end the daemon.  Of each loop the answers of its budget are kept beside its deeds, and
the reports sent are those taken and those that wait.  So the daemon fails by its plugin only after
six crashes of one period with no gap above an hour, and while it runs either the server of the
running period is seen to or a report waits that ends it.
-/

namespace VirtualNpu

/-! ### Periods -/

namespace Plugin

variable {σ κ ω : Type}

/-- What calls leave running is what ran before them, or a period that they have opened. -/
structure Advances (before after : Plugin σ κ ω) : Prop where
  opened : before.opened ≤ after.opened
  running : ∀ period, after.running = some period →
    before.running = some period ∨ before.opened ≤ period

theorem Advances.refl (plugin : Plugin σ κ ω) : Advances plugin plugin :=
  ⟨Nat.le_refl _, fun _ running => Or.inl running⟩

theorem Advances.trans {before between after : Plugin σ κ ω} (first : Advances before between)
    (second : Advances between after) : Advances before after where
  opened := Nat.le_trans first.opened second.opened
  running period running := by
    rcases second.running period running with earlier | opened
    · exact first.running period earlier
    · exact Or.inr (Nat.le_trans first.opened opened)

theorem advances_stop (host : Host ω) (plugin : Plugin σ κ ω) :
    Advances plugin (plugin.stop host).2 := by
  cases running : plugin.running with
  | none =>
      rw [stop_idle host plugin running]
      exact .refl plugin
  | some token =>
      rw [stop_running host plugin token running]
      unfold cancelRunning
      rw [running]
      exact ⟨Nat.le_refl _, nofun⟩

theorem advances_openPeriod (plugin : Plugin σ κ ω) : Advances plugin plugin.openPeriod := by
  have opened : plugin.cancelRunning.opened = plugin.opened := by
    unfold cancelRunning
    cases plugin.running <;> rfl
  constructor
  · change _ ≤ plugin.cancelRunning.opened + 1
    omega
  · intro period running
    cases running
    exact Or.inr (Nat.le_of_eq opened.symm)

theorem advances_start (provider : Inventory.Provider σ) (host : Host ω) (plugin : Plugin σ κ ω) :
    Advances plugin (plugin.start provider host).2 := by
  have ofStaged {after : Plugin σ κ ω} (staged : Staged plugin.openPeriod after) :
      Advances plugin after := by
    refine (advances_openPeriod plugin).trans ⟨Nat.le_of_eq staged.opened.symm, ?_⟩
    intro period running
    exact Or.inl (staged.running.symm.trans running)
  rcases start_cases provider host plugin with
    ⟨after, staged, -, same⟩ | ⟨report, left, staged, same⟩
  · rw [same]
    exact ofStaged staged
  · rw [same]
    exact (ofStaged staged).trans (advances_stop host left)

theorem keeps_advances (provider : Inventory.Provider σ) (host : Host ω) (first : Plugin σ κ ω) :
    (lifecycle provider host).Keeps (Advances first) where
  start before := before.trans (advances_start provider host _)
  stop before := before.trans (advances_stop host _)
  cleanupIdle before := ⟨before.opened, before.running⟩

/-- A token that has been cancelled stays so. -/
theorem not_live_of_advances {before after : Plugin σ κ ω} (ordered : Ordered before)
    (ordered' : Ordered after) (advances : Advances before after) {period : Nat}
    (old : period < before.opened) (cancelled : period ∉ before.live) : period ∉ after.live := by
  rw [ordered.tokens, Option.mem_toList] at cancelled
  rw [ordered'.tokens, Option.mem_toList]
  intro running
  rcases advances.running period running with earlier | opened
  · exact cancelled earlier
  · omega

end Plugin

/-! ### The log -/

namespace Daemon
namespace Service

open Plugin (ServingLoop)
open Plugin.ServingLoop (Deed Accounts Exhausts Turn answers crashes)

variable {σ κ ω : Type}

def deedsOf (number : Nat) (log : List (Nat × Deed)) : List Deed :=
  (log.filter fun entry => entry.1 = number).map Prod.snd

def sent (log : List (Nat × Deed)) : List (Report Plugin.Error) :=
  log.filterMap fun entry => entry.2.report?

def taken : Supervisor.Phase → List (Report Plugin.Error)
  | .ended (.error (.plugin report)) => [report]
  | _ => []

theorem deedsOf_append_self (number : Nat) (log : List (Nat × Deed)) (deed : Option Deed) :
    deedsOf number (log ++ (deed.map fun deed => (number, deed)).toList) =
      deedsOf number log ++ deed.toList := by
  unfold deedsOf
  rw [List.filter_append, List.map_append]
  cases deed with
  | none => rfl
  | some deed =>
      change _ ++ ([(number, deed)].filter fun entry => entry.1 = number).map Prod.snd = _
      rw [List.filter_cons_of_pos (by simp)]
      rfl

theorem deedsOf_append_ne {number other : Nat} (differs : other ≠ number)
    (log : List (Nat × Deed)) (deed : Option Deed) :
    deedsOf other (log ++ (deed.map fun deed => (number, deed)).toList) = deedsOf other log := by
  unfold deedsOf
  rw [List.filter_append, List.map_append]
  cases deed with
  | none => exact List.append_nil _
  | some deed =>
      change _ ++ ([(number, deed)].filter fun entry => entry.1 = other).map Prod.snd = _
      rw [List.filter_cons_of_neg (by simpa using differs.symm)]
      exact List.append_nil _

theorem sent_append (number : Nat) (log : List (Nat × Deed)) (deed : Option Deed) :
    sent (log ++ (deed.map fun deed => (number, deed)).toList) =
      sent log ++ (deed.bind Deed.report?).toList := by
  unfold sent
  rw [List.filterMap_append]
  cases deed with
  | none => rfl
  | some deed =>
      change _ ++ [(number, deed)].filterMap _ = _ ++ (deed.report?).toList
      rw [List.filterMap_cons]
      cases deed.report? <;> rfl

theorem exists_of_mem_sent {log : List (Nat × Deed)} {report : Report Plugin.Error}
    (member : report ∈ sent log) :
    ∃ number error, report = .of error ∧ Except.error error ∈ answers (deedsOf number log) := by
  obtain ⟨⟨number, deed⟩, inside, told⟩ := List.mem_filterMap.mp member
  match deed with
  | .rebind succeeded => cases told
  | .charge now (.ok count) => cases told
  | .charge now (.error error) =>
      refine ⟨number, error, (Option.some.inj told).symm, ?_⟩
      have own : Deed.charge now (.error error) ∈ deedsOf number log :=
        List.mem_map.mpr ⟨_, List.mem_filter.mpr ⟨inside, by simp⟩, rfl⟩
      exact List.mem_map.mpr ⟨(now, .error error), List.mem_filterMap.mpr ⟨_, own, rfl⟩, rfl⟩

theorem mem_sent_of_answer {log : List (Nat × Deed)} {number : Nat} {error : Plugin.Error}
    (answer : Except.error error ∈ answers (deedsOf number log)) :
    Report.of error ∈ sent log := by
  obtain ⟨⟨now, _⟩, charged, rfl⟩ := List.mem_map.mp answer
  obtain ⟨deed, own, told⟩ := List.mem_filterMap.mp charged
  obtain ⟨entry, inside, same⟩ := List.mem_map.mp own
  refine List.mem_filterMap.mpr ⟨entry, (List.mem_filter.mp inside).1, ?_⟩
  rw [same]
  cases deed with
  | rebind succeeded => cases told
  | charge time other =>
      cases told
      rfl

/-! ### The service -/

def hour : Nat := 3600000000000

/-- Six crashes of a loop up to its last, none of them more than an hour behind the one before. -/
def HasBurst (number : Nat) (log : List (Nat × Deed)) : Prop :=
  ∃ burst, burst <:+ crashes (deedsOf number log) ∧ Plugin.CrashBudget.IsDense hour burst ∧
    burst.length = 6

section
variable {provider : Inventory.Provider σ} {host : Plugin.Host ω}

structure LoopsSound (service : Service σ κ ω) : Prop where
  accounts : ∀ number loop, service.loops[number]? = some loop →
    Accounts 5 hour (deedsOf number service.log) loop
  unlogged : ∀ number, service.loops[number]? = none → deedsOf number service.log = []
  old : ∀ loop ∈ service.loops, loop.period < service.plugin.opened
  gone : ∀ number loop, service.loops[number]? = some loop → loop.phase.isOver = true →
    loop.period ∉ service.plugin.live ∨
      ∃ error, Except.error error ∈ answers (deedsOf number service.log)
  running : ∀ period, service.plugin.running = some period →
    ∃ loop ∈ service.loops, loop.period = period

structure Sound (service : Service σ κ ω) : Prop extends LoopsSound service where
  accord : Supervisor.Accords service.phase service.plugin
  listening : ∀ fatalOpen, service.phase = .waiting fatalOpen → fatalOpen = true
  conserved : sent service.log = taken service.phase ++ service.reports

theorem mem_newLoops {before after : Plugin σ κ ω} {loop : ServingLoop}
    (member : loop ∈ newLoops before after) :
    ∃ period, after.running = some period ∧
      loop = .start after.socketPath period (.new 5 hour) := by
  unfold newLoops at member
  cases running : after.running with
  | none =>
      rw [running] at member
      cases member
  | some period =>
      rw [running] at member
      dsimp only at member
      split at member
      · exact ⟨period, rfl, List.mem_singleton.mp member⟩
      · cases member

theorem loopsSound_settle {service : Service σ κ ω} (sound : LoopsSound service)
    {outcome : Supervisor.Phase × Plugin σ κ ω} (ordered : Plugin.Ordered service.plugin)
    (ordered' : Plugin.Ordered outcome.2) (advances : Plugin.Advances service.plugin outcome.2) :
    LoopsSound (service.settle outcome) := by
  obtain ⟨phase, plugin⟩ := outcome
  have found {number : Nat} {loop : ServingLoop}
      (there : (service.loops ++ newLoops service.plugin plugin)[number]? = some loop) :
      service.loops[number]? = some loop ∨
        (deedsOf number service.log = [] ∧ loop ∈ newLoops service.plugin plugin) := by
    by_cases inside : number < service.loops.length
    · rw [List.getElem?_append_left inside] at there
      exact Or.inl there
    · have beyond : service.loops.length ≤ number := Nat.le_of_not_lt inside
      rw [List.getElem?_append_right beyond] at there
      exact Or.inr ⟨sound.unlogged number (List.getElem?_eq_none beyond),
        List.mem_of_getElem? there⟩
  constructor
  · intro number loop there
    rcases found there with earlier | ⟨none, fresh⟩
    · exact sound.accounts number loop earlier
    · obtain ⟨period, -, rfl⟩ := mem_newLoops fresh
      change Accounts 5 hour (deedsOf number service.log) _
      rw [none]
      exact ServingLoop.accounts_start _ period
  · intro number absent
    refine sound.unlogged number (List.getElem?_eq_none ?_)
    have length := List.getElem?_eq_none_iff.mp absent
    change (service.loops ++ _).length ≤ number at length
    rw [List.length_append] at length
    omega
  · intro loop member
    rcases List.mem_append.mp member with earlier | fresh
    · exact Nat.lt_of_lt_of_le (sound.old loop earlier) advances.opened
    · obtain ⟨period, running, rfl⟩ := mem_newLoops fresh
      exact ordered'.used period running
  · intro number loop there gone
    rcases found there with earlier | ⟨-, fresh⟩
    · refine (sound.gone number loop earlier gone).imp_left fun cancelled => ?_
      exact Plugin.not_live_of_advances ordered ordered' advances
        (sound.old loop (List.mem_of_getElem? earlier)) cancelled
    · obtain ⟨period, -, rfl⟩ := mem_newLoops fresh
      cases gone
  · intro period (running : plugin.running = some period)
    rcases advances.running period running with earlier | opened
    · obtain ⟨loop, member, same⟩ := sound.running period earlier
      exact ⟨loop, List.mem_append_left _ member, same⟩
    · refine ⟨.start plugin.socketPath period .default, List.mem_append_right _ ?_, rfl⟩
      change _ ∈ newLoops service.plugin plugin
      unfold newLoops
      rw [running]
      dsimp only
      rw [if_pos opened]
      exact List.mem_singleton_self _

theorem loopsSound_turn {service : Service σ κ ω} (sound : LoopsSound service) {number : Nat}
    {loop : ServingLoop} (there : service.loops[number]? = some loop) (now : Nat) (turn : Turn) :
    LoopsSound (service.turn host number loop now turn) := by
  let stopped := decide (loop.period ∉ service.plugin.live)
  let stepped := loop.step host stopped now service.plugin.machine turn
  have inside : number < service.loops.length := (List.getElem?_eq_some_iff.mp there).1
  have period : stepped.loop.period = loop.period := ServingLoop.period_step ..
  have own := deedsOf_append_self number service.log stepped.deed
  have others {other : Nat} (differs : other ≠ number) :=
    deedsOf_append_ne differs service.log stepped.deed
  have found {other : Nat} {loop' : ServingLoop}
      (at' : (service.loops.set number stepped.loop)[other]? = some loop') :
      other = number ∧ loop' = stepped.loop ∨
        other ≠ number ∧ service.loops[other]? = some loop' := by
    by_cases same : other = number
    · subst same
      rw [List.getElem?_set_self inside] at at'
      exact Or.inl ⟨rfl, (Option.some.inj at').symm⟩
    · rw [List.getElem?_set_ne (Ne.symm same)] at at'
      exact Or.inr ⟨same, at'⟩
  constructor
  · intro other loop' at'
    change Accounts 5 hour
      (deedsOf other (service.log ++ (stepped.deed.map fun deed => (number, deed)).toList)) loop'
    rcases found at' with ⟨rfl, rfl⟩ | ⟨differs, earlier⟩
    · rw [own]
      exact ServingLoop.accounts_step (sound.accounts other loop there) host stopped now _ turn
    · rw [others differs]
      exact sound.accounts other loop' earlier
  · intro other absent
    have length := List.getElem?_eq_none_iff.mp absent
    change (service.loops.set number stepped.loop).length ≤ other at length
    rw [List.length_set] at length
    have differs : other ≠ number := by omega
    exact (others differs).trans (sound.unlogged other (List.getElem?_eq_none length))
  · intro loop' member
    rcases List.mem_or_eq_of_mem_set member with earlier | rfl
    · exact sound.old loop' earlier
    · rw [period]
      exact sound.old loop (List.mem_of_getElem? there)
  · intro other loop' at' gone
    change _ ∨ ∃ error, Except.error error ∈ answers
      (deedsOf other (service.log ++ (stepped.deed.map fun deed => (number, deed)).toList))
    rcases found at' with ⟨rfl, rfl⟩ | ⟨differs, earlier⟩
    · rw [own, period, ServingLoop.answers_append]
      rcases ServingLoop.isOver_step loop host stopped now _ turn gone with
        before | cancelled | ⟨error, exhausted⟩
      · refine (sound.gone other loop there before).imp_right ?_
        exact fun ⟨error, earlier⟩ => ⟨error, List.mem_append_left _ earlier⟩
      · exact Or.inl (of_decide_eq_true cancelled)
      · exact Or.inr ⟨error, List.mem_append_right _ exhausted⟩
    · rw [others differs]
      exact sound.gone other loop' earlier gone
  · intro token running
    obtain ⟨loop', member, same⟩ := sound.running token running
    obtain ⟨other, at'⟩ := List.getElem?_of_mem member
    change ∃ loop ∈ service.loops.set number stepped.loop, loop.period = token
    by_cases here : other = number
    · subst here
      rw [there] at at'
      cases at'
      exact ⟨stepped.loop, List.mem_set inside _, period.trans same⟩
    · have stays : (service.loops.set number stepped.loop)[other]? = some loop' := by
        rw [List.getElem?_set_ne (Ne.symm here)]
        exact at'
      exact ⟨loop', List.mem_of_getElem? stays, same⟩

/-! ### Runs -/

theorem sound_start (settings : Plugin.Settings) (node : Node σ κ) (machine : ω) :
    Sound (start provider host (.new settings node machine)) := by
  have accord := Supervisor.accords_begin provider host _
    (Plugin.ordered_new settings node machine)
  have advances := (Plugin.keeps_advances provider host _).begin
    (Plugin.Advances.refl (Plugin.new settings node machine))
  refine ⟨loopsSound_settle ?_ (Plugin.ordered_new settings node machine) accord.ordered advances,
    accord, ?_, ?_⟩
  · exact ⟨nofun, fun _ _ => rfl, nofun, nofun, nofun⟩
  · intro fatalOpen waiting
    change (Supervisor.begin _ _).1 = _ at waiting
    unfold Supervisor.begin at waiting
    split at waiting <;> cases waiting
    rfl
  · change [] = taken (Supervisor.begin _ _).1 ++ []
    unfold Supervisor.begin
    split <;> rfl

theorem loopsSound_take {service : Service σ κ ω} (sound : Sound service)
    (input : Supervisor.Input) : LoopsSound (service.take provider host input) := by
  have accord := Supervisor.accords_take provider host service.phase input service.plugin
    sound.accord
  exact loopsSound_settle sound.toLoopsSound sound.accord.ordered accord.ordered
    ((Plugin.keeps_advances provider host _).take (.refl service.plugin) service.phase input)

/-- Only a fatal report ends a run with a report, and only their closed source makes a run wait for
events alone. -/
theorem take_quiet (life : Supervisor.Lifecycle (Plugin σ κ ω)) (phase : Supervisor.Phase)
    {input : Supervisor.Input} (plugin : Plugin σ κ ω) (quiet : ∀ report, input ≠ .fatal report)
    (kept : input ≠ .fatalClosed) :
    taken (Supervisor.take life phase input plugin).1 = taken phase ∧
      ∀ fatalOpen, (Supervisor.take life phase input plugin).1 = .waiting fatalOpen →
        phase = .waiting fatalOpen := by
  cases phase with
  | ended result => exact ⟨rfl, fun _ => id⟩
  | waiting isOpen =>
      cases input with
      | event event =>
          cases event with
          | socketRecreated | restartSignal =>
              change taken (Supervisor.restart life isOpen plugin).1 = _ ∧
                ∀ fatalOpen, (Supervisor.restart life isOpen plugin).1 = _ → _
              unfold Supervisor.restart
              dsimp only
              split
              · exact ⟨rfl, fun _ => id⟩
              · exact ⟨rfl, nofun⟩
          | terminate signal => exact ⟨rfl, nofun⟩
          | watchError message => exact ⟨rfl, fun _ => id⟩
      | fatal report => exact absurd rfl (quiet report)
      | eventsClosed => exact ⟨rfl, nofun⟩
      | fatalClosed => exact absurd rfl kept

theorem sound_take_quiet {service : Service σ κ ω} (sound : Sound service)
    {input : Supervisor.Input} (quiet : ∀ report, input ≠ .fatal report)
    (kept : input ≠ .fatalClosed) : Sound (service.take provider host input) := by
  obtain ⟨same, waits⟩ := take_quiet (Plugin.lifecycle provider host) service.phase service.plugin
    quiet kept
  refine ⟨loopsSound_take sound input,
    Supervisor.accords_take provider host service.phase input service.plugin sound.accord, ?_, ?_⟩
  · exact fun fatalOpen waiting => sound.listening fatalOpen (waits fatalOpen waiting)
  · exact sound.conserved.trans (congrArg (· ++ service.reports) same.symm)

theorem sound_takeReport {service : Service σ κ ω} (sound : Sound service)
    {report : Report Plugin.Error} {rest : List (Report Plugin.Error)}
    (waiting : service.phase = .waiting true) (reports : service.reports = report :: rest) :
    Sound { service.take provider host (.fatal report) with reports := rest } := by
  have accord := Supervisor.accords_take provider host service.phase (.fatal report)
    service.plugin sound.accord
  have finished : (Supervisor.take (Plugin.lifecycle provider host) service.phase (.fatal report)
      service.plugin).1 = .ended (.error (.plugin report)) := by
    rw [waiting]
    rfl
  have loops : LoopsSound (service.take provider host (.fatal report)) :=
    loopsSound_take sound (.fatal report)
  refine ⟨⟨loops.accounts, loops.unlogged, loops.old, loops.gone, loops.running⟩, accord, ?_, ?_⟩
  · intro fatalOpen impossible
    cases finished.symm.trans impossible
  · change sent service.log = taken (Supervisor.take _ _ _ _).1 ++ rest
    rw [finished, sound.conserved, waiting, reports]
    rfl

theorem sound_turn {service : Service σ κ ω} (sound : Sound service) {number : Nat}
    {loop : ServingLoop} (there : service.loops[number]? = some loop) (now : Nat) (turn : Turn) :
    Sound (service.turn host number loop now turn) := by
  refine ⟨loopsSound_turn sound.toLoopsSound there now turn,
    ⟨sound.accord.ordered.withMachine _, sound.accord.serving⟩, sound.listening, ?_⟩
  refine (sent_append number service.log _).trans ?_
  rw [sound.conserved, List.append_assoc]
  rfl

theorem sound_step {service : Service σ κ ω} (sound : Sound service) (move : Move ω) :
    Sound (service.step provider host move) := by
  cases move with
  | take event =>
      cases event with
      | some event => exact sound_take_quiet sound nofun nofun
      | none => exact sound_take_quiet sound nofun nofun
  | takeReport =>
      unfold step
      dsimp only
      split
      · rename_i fatalOpen report rest waiting reports
        obtain rfl := sound.listening fatalOpen waiting
        exact sound_takeReport sound waiting reports
      · exact sound
  | turn number now turn =>
      unfold step
      dsimp only
      split
      · rename_i loop there
        exact sound_turn sound there now turn
      · exact sound
  | machine change =>
      exact ⟨⟨sound.accounts, sound.unlogged, sound.old, sound.gone, sound.running⟩,
        ⟨sound.accord.ordered.withMachine _, sound.accord.serving⟩, sound.listening,
        sound.conserved⟩

theorem sound_run {service : Service σ κ ω} (sound : Sound service) (moves : List (Move ω)) :
    Sound (service.run provider host moves) := by
  induction moves generalizing service with
  | nil => exact sound
  | cons move moves ih => exact ih (sound_step sound move)

end

/-! ### What ends the daemon -/

section
variable (provider : Inventory.Provider σ) (host : Plugin.Host ω)

theorem mem_taken_iff {phase : Supervisor.Phase} {report : Report Plugin.Error} :
    report ∈ taken phase ↔ phase = .ended (.error (.plugin report)) := by
  constructor
  · intro member
    unfold taken at member
    split at member
    · rw [List.mem_singleton.mp member]
    · cases member
  · rintro rfl
    exact List.mem_singleton_self report

/-- A number under which there is no loop is that of one that has done nothing yet. -/
theorem exists_accounts {service : Service σ κ ω} (sound : Sound service) (number : Nat) :
    ∃ loop, Accounts 5 hour (deedsOf number service.log) loop := by
  cases there : service.loops[number]? with
  | none =>
      rw [sound.unlogged number there]
      exact ⟨_, ServingLoop.accounts_start "" 0⟩
  | some loop => exact ⟨loop, sound.accounts number loop there⟩

theorem exhausted_of_mem_sent {service : Service σ κ ω} (sound : Sound service)
    {report : Report Plugin.Error} (member : report ∈ sent service.log) :
    report = .of (.crashBudgetExhausted 6 hour) ∧ ∃ number, HasBurst number service.log := by
  obtain ⟨number, error, rfl, answer⟩ := exists_of_mem_sent member
  obtain ⟨loop, accounts⟩ := exists_accounts sound number
  obtain ⟨told, burst⟩ := accounts.exhausted error answer
  exact ⟨congrArg Report.of told, number, burst⟩

theorem mem_sent_of_burst {service : Service σ κ ω} (sound : Sound service) {number : Nat}
    (crashed : HasBurst number service.log) :
    Report.of (.crashBudgetExhausted 6 hour) ∈ sent service.log := by
  obtain ⟨burst, ends, dense, long⟩ := crashed
  obtain ⟨loop, accounts⟩ := exists_accounts sound number
  exact mem_sent_of_answer (accounts.exhausted_of_burst ends dense long)

theorem outcome_exhausted :
    Outcome.ofDaemon (.error (.supervisor (.plugin (.of (.crashBudgetExhausted 6 hour))))) =
      ⟨1, "", some
        "Error: device plugin failed: Device plugin server crashed 6 times within 3600s"⟩ := by
  decide

theorem server_kept_or_reported {service : Service σ κ ω} (sound : Sound service)
    {fatalOpen : Bool} (waiting : service.phase = .waiting fatalOpen) :
    ∃ loop ∈ service.loops, service.plugin.running = some loop.period ∧
      (loop.phase.isOver = true → service.reports ≠ []) := by
  have serving := sound.accord.serving
  rw [waiting] at serving
  obtain ⟨period, running⟩ := Option.isSome_iff_exists.mp serving
  obtain ⟨loop, member, same⟩ := sound.running period running
  refine ⟨loop, member, running.trans (congrArg some same.symm), fun gone silent => ?_⟩
  obtain ⟨number, there⟩ := List.getElem?_of_mem member
  rcases sound.gone number loop there gone with cancelled | ⟨error, exhausted⟩
  · rw [sound.accord.ordered.tokens, running, same] at cancelled
    exact cancelled (List.mem_singleton_self period)
  · have reported := mem_sent_of_answer exhausted
    rw [sound.conserved, waiting, silent] at reported
    cases reported

theorem takeReport_ends {service : Service σ κ ω} (sound : Sound service)
    {report : Report Plugin.Error} {rest : List (Report Plugin.Error)}
    (waiting : service.phase = .waiting true) (reports : service.reports = report :: rest) :
    (service.step provider host .takeReport).phase = .ended (.error (.plugin report)) ∧
      Plugin.IsSilent (service.step provider host .takeReport).plugin := by
  have stepped : Sound (service.step provider host .takeReport) := sound_step sound .takeReport
  have ended : (service.step provider host .takeReport).phase =
      .ended (.error (.plugin report)) := by
    unfold step
    rw [waiting, reports]
    change (Supervisor.take _ service.phase _ _).1 = _
    rw [waiting]
    rfl
  refine ⟨ended, stepped.accord.ordered.silent ?_⟩
  rw [stepped.accord.serving, ended]
  rfl

/-- A report is sent exactly if some loop has crashed six times, failed attempts to open its server
included, with no gap above an hour, and the daemon that it ends fails.  While the run waits, a
report that has been sent ends it with the plugin stopped, and the server of the running period is
not given up unless there is one. -/
theorem exhausted_loop_ends_run (settings : Plugin.Settings) (node : Node σ κ) (machine : ω)
    (moves : List (Move ω)) :
    let service := (start provider host (.new settings node machine)).run provider host moves
    let isTold report := service.phase = .ended (.error (.plugin report)) ∨
      report ∈ service.reports
    ((∃ report, isTold report) ↔ ∃ number, HasBurst number service.log) ∧
    (∀ report, isTold report →
      Outcome.ofDaemon (.error (.supervisor (.plugin report))) = ⟨1, "", some
        "Error: device plugin failed: Device plugin server crashed 6 times within 3600s"⟩) ∧
    ∀ fatalOpen, service.phase = .waiting fatalOpen →
      (∃ loop ∈ service.loops, service.plugin.running = some loop.period ∧
        (loop.phase.isOver = true → service.reports ≠ [])) ∧
      ∀ report rest, service.reports = report :: rest →
        let after := service.step provider host .takeReport
        after.phase = .ended (.error (.plugin report)) ∧ Plugin.IsSilent after.plugin := by
  intro service isTold
  have sound : Sound service := sound_run (sound_start settings node machine) moves
  have told (report : Report Plugin.Error) : isTold report ↔ report ∈ sent service.log := by
    rw [sound.conserved, List.mem_append, mem_taken_iff]
  refine ⟨⟨?_, ?_⟩, fun report member => ?_, fun fatalOpen waiting => ⟨?_, ?_⟩⟩
  · rintro ⟨report, member⟩
    exact (exhausted_of_mem_sent sound ((told report).mp member)).2
  · rintro ⟨number, crashed⟩
    exact ⟨_, (told _).mpr (mem_sent_of_burst sound crashed)⟩
  · rw [(exhausted_of_mem_sent sound ((told report).mp member)).1]
    exact outcome_exhausted
  · exact server_kept_or_reported sound waiting
  · obtain rfl := sound.listening fatalOpen waiting
    exact fun report rest reports => takeReport_ends provider host sound waiting reports

private def willingHost : Plugin.Host Unit where
  clear _ _ := (true, ())
  listen _ _ _ := (true, ())
  probe _ _ := (true, ())
  register _ _ _ := (true, ())
  listener? _ _ := none

private def serving : Service Inventory.Script Unit Unit :=
  start Inventory.scripted willingHost (.new ⟨"/plugins", "/kubelet.sock", .default, 0⟩
    (.start "node" ⟨"910B3", "Ascend910B3", "npu", 65536, 65536, 20, none, []⟩ (.quiet "910B3") ())
    ())

/-- The server ends, and its loop goes on as far as it can. -/
private def crashAt (now : Nat) : List (Move Unit) :=
  .turn 0 now .exit :: List.replicate 4 (.turn 0 now .proceed)

/-- Six crashes, each a whole hour behind the one before it. -/
example : (serving.run Inventory.scripted willingHost
    (((List.range 6).flatMap fun crash => crashAt (crash * hour)) ++ [.takeReport])).phase =
      .ended (.error (.plugin (.of (.crashBudgetExhausted 6 hour)))) := by
  rfl

/-! ### Loops of periods that have ended -/

theorem loop_of_settle {service : Service σ κ ω} {outcome : Supervisor.Phase × Plugin σ κ ω}
    {number : Nat} {loop : ServingLoop} (there : service.loops[number]? = some loop) :
    (service.settle outcome).loops[number]? = some loop :=
  (List.getElem?_append_left (List.getElem?_eq_some_iff.mp there).1).trans there

/-- How often a loop has opened its server and still can, once its period has ended. -/
structure Bindings (number period bound : Nat) (service : Service σ κ ω) : Prop where
  stopped : period ∉ service.plugin.live
  loop : ∃ loop, service.loops[number]? = some loop ∧ loop.period = period ∧
    (deedsOf number service.log).countP Deed.isRebind + loop.phase.bindingsLeft ≤ bound

theorem bindings_take {service : Service σ κ ω} (sound : Sound service)
    {number period bound : Nat} (bindings : Bindings number period bound service)
    (input : Supervisor.Input) :
    Bindings number period bound (service.take provider host input) := by
  obtain ⟨loop, there, same, left⟩ := bindings.loop
  have accord := Supervisor.accords_take provider host service.phase input service.plugin
    sound.accord
  have advances := (Plugin.keeps_advances provider host _).take (.refl service.plugin)
    service.phase input
  refine ⟨?_, loop, loop_of_settle there, same, left⟩
  refine Plugin.not_live_of_advances sound.accord.ordered accord.ordered advances ?_
    bindings.stopped
  exact same ▸ sound.old loop (List.mem_of_getElem? there)

theorem bindings_turn {service : Service σ κ ω} {number period bound : Nat}
    (bindings : Bindings number period bound service) {other : Nat} {loop : ServingLoop}
    (there : service.loops[other]? = some loop) (now : Nat) (turn : Turn) :
    Bindings number period bound (service.turn host other loop now turn) := by
  obtain ⟨own, at', same, left⟩ := bindings.loop
  refine ⟨bindings.stopped, ?_⟩
  by_cases here : number = other
  · subst here
    obtain rfl : own = loop := Option.some.inj (at'.symm.trans there)
    have stopped : decide (own.period ∉ service.plugin.live) = true :=
      decide_eq_true (same ▸ bindings.stopped)
    have binds := own.rebinds_stopped_step host now service.plugin.machine turn
    refine ⟨_, List.getElem?_set_self (List.getElem?_eq_some_iff.mp there).1,
      (ServingLoop.period_step ..).trans same, ?_⟩
    change (deedsOf number (service.log ++ _)).countP _ + _ ≤ _
    rw [deedsOf_append_self, List.countP_append, stopped]
    omega
  · refine ⟨own, (List.getElem?_set_ne (Ne.symm here)).trans at', same, ?_⟩
    have kept := deedsOf_append_ne here service.log
      (loop.step host (decide (loop.period ∉ service.plugin.live)) now service.plugin.machine
        turn).deed
    exact kept ▸ left

theorem bindings_step {service : Service σ κ ω} (sound : Sound service)
    {number period bound : Nat} (bindings : Bindings number period bound service) (move : Move ω) :
    Bindings number period bound (service.step provider host move) := by
  cases move with
  | take event => cases event <;> exact bindings_take provider host sound bindings _
  | takeReport =>
      unfold step
      dsimp only
      split
      · obtain ⟨stopped, loop⟩ := bindings_take provider host sound bindings (.fatal _)
        exact ⟨stopped, loop⟩
      · exact bindings
  | turn other now turn =>
      unfold step
      dsimp only
      split
      · rename_i loop there
        exact bindings_turn host bindings there now turn
      · exact bindings
  | machine change => exact ⟨bindings.stopped, bindings.loop⟩

/-- Once its period has ended a loop never opens its server again, except that it may do so once if
it has asked for its token before. -/
theorem ended_period_binds_once {service : Service σ κ ω} (sound : Sound service) {number : Nat}
    {loop : ServingLoop} (there : service.loops[number]? = some loop)
    (ended : loop.period ∉ service.plugin.live) (moves : List (Move ω)) :
    (deedsOf number (service.run provider host moves).log).countP Deed.isRebind ≤
      (deedsOf number service.log).countP Deed.isRebind +
        if loop.phase = .binding then 1 else 0 := by
  have run (moves : List (Move ω)) {service : Service σ κ ω} (sound : Sound service) {bound : Nat}
      (bindings : Bindings number loop.period bound service) :
      Bindings number loop.period bound (service.run provider host moves) := by
    induction moves generalizing service with
    | nil => exact bindings
    | cons move moves ih =>
        exact ih (sound_step sound move) (bindings_step provider host sound bindings move)
  obtain ⟨after, -, -, left⟩ := (run moves sound ⟨ended, loop, there, rfl, Nat.le_refl _⟩).loop
  exact Nat.le_trans (Nat.le_add_right _ _) left

end

end Service
end Daemon
end VirtualNpu
