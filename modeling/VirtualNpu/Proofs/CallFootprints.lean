import VirtualNpu.Proofs.FileNames
import VirtualNpu.Proofs.MachineLikeness
import VirtualNpu.Proofs.StartHurdles
import VirtualNpu.Supervisor.Run

/-!
What the calls of a plugin do to its machine.  They act on the path of its own socket only, so that
on the played machine nothing changes but what stands where that path leads.
-/

namespace VirtualNpu

namespace Plugin

variable {σ κ ω : Type}

/-- A relation between the machine before and after any actions at a socket path. -/
structure Footprint (host : Host ω) (path : String) (leads : ω → ω → Prop) : Prop where
  refl : ∀ machine, leads machine machine
  trans : ∀ {one two three}, leads one two → leads two three → leads one three
  clears : ∀ machine, leads machine (host.clear path machine).2
  listens : ∀ period machine, leads machine (host.listen path period machine).2
  probes : ∀ machine, leads machine (host.probe path machine).2
  registers : ∀ kubelet request machine, leads machine (host.register kubelet request machine).2

namespace Footprint

variable {host : Host ω} {path : String} {leads : ω → ω → Prop}
  (footprint : Footprint host path leads) {plugin : Plugin σ κ ω} (here : plugin.socketPath = path)

include footprint here

theorem clearing : leads plugin.machine (plugin.clearing host).2 := by
  subst here
  exact footprint.clears _

theorem listening : leads plugin.machine (plugin.listening host).2 := by
  have cleared := footprint.clearing here
  subst here
  exact footprint.trans cleared (footprint.listens _ _)

theorem probing : leads plugin.machine (plugin.probing host).2 := by
  have listened := footprint.listening here
  subst here
  exact footprint.trans listened (footprint.probes _)

theorem registering : leads plugin.machine (plugin.registering host).2 :=
  footprint.trans (footprint.probing here) (footprint.registers _ _ _)

theorem stuckAt (hurdle : Hurdle) : leads plugin.machine (plugin.stuckAt host hurdle) := by
  cases hurdle with
  | refresh => exact footprint.refl _
  | bind =>
      change leads _ (if (plugin.clearing host).1 then _ else _)
      split
      · exact footprint.listening here
      · exact footprint.clearing here
  | probe => exact footprint.probing here
  | register => exact footprint.registering here

theorem stop : leads plugin.machine (plugin.stop host).2.machine := by
  cases running : plugin.running with
  | none =>
      rw [stop_idle host plugin running]
      exact footprint.refl _
  | some token =>
      rw [stop_running host plugin token running]
      exact footprint.clearing here

theorem start (provider : Inventory.Provider σ) :
    leads plugin.machine (plugin.start provider host).2.machine := by
  rcases started : Plugin.start provider host plugin with ⟨report | _, after⟩
  · obtain ⟨hurdle, left, was, -, rfl⟩ := start_failed started
    rw [(stop_left was).2.2.2, here]
    exact footprint.trans (footprint.stuckAt here hurdle) (footprint.clears _)
  · rw [(start_succeeded started).2.machine]
    exact footprint.registering here

end Footprint
end Plugin

/-! ### Supervised runs -/

namespace Supervisor

structure Lifecycle.Keeps {σ : Type} (life : Lifecycle σ) (holds : σ → Prop) : Prop where
  start : ∀ {state}, holds state → holds (life.start state).2
  stop : ∀ {state}, holds state → holds (life.stop state).2
  cleanupIdle : ∀ {state}, holds state → holds (life.cleanupIdle state).2

section
variable {σ : Type} {life : Lifecycle σ} {holds : σ → Prop} (keeps : life.Keeps holds) {state : σ}
  (before : holds state)

include keeps before

theorem Lifecycle.Keeps.begin : holds (Supervisor.begin life state).2 := by
  have started := keeps.start before
  unfold Supervisor.begin
  split <;> rename_i same <;> rw [same] at started <;> exact started

theorem Lifecycle.Keeps.restart (fatalOpen : Bool) :
    holds (Supervisor.restart life fatalOpen state).2 := by
  have started := keeps.start (keeps.stop (keeps.cleanupIdle before))
  unfold Supervisor.restart
  dsimp only
  split <;> rename_i same <;> rw [same] at started <;> exact started

theorem Lifecycle.Keeps.take (phase : Phase) (input : Input) :
    holds (Supervisor.take life phase input state).2 := by
  cases phase with
  | ended result => exact before
  | waiting fatalOpen =>
      cases input with
      | event event =>
          cases event with
          | socketRecreated | restartSignal => exact keeps.restart before fatalOpen
          | terminate signal => exact keeps.stop before
          | watchError message => exact before
      | fatal report =>
          cases fatalOpen with
          | true => exact keeps.stop before
          | false => exact before
      | eventsClosed => exact keeps.stop before
      | fatalClosed => exact before

theorem Lifecycle.Keeps.run (inputs : List Input) : holds (Supervisor.run life inputs state).2 := by
  have begun := keeps.begin before
  unfold Supervisor.run
  generalize Supervisor.begin life state = now at begun ⊢
  induction inputs generalizing now with
  | nil => exact begun
  | cons input rest ih => exact ih _ (keeps.take begun now.1 input)

end

/-- A supervised plugin acts on its machine like a plugin that is called. -/
theorem run_footprint {σ κ ω : Type} {host : Plugin.Host ω} {leads : ω → ω → Prop}
    {plugin : Plugin σ κ ω} (footprint : Plugin.Footprint host plugin.socketPath leads)
    (provider : Inventory.Provider σ) (inputs : List Input) :
    leads plugin.machine (run (Plugin.lifecycle provider host) inputs plugin).2.machine := by
  have keeps : (Plugin.lifecycle (κ := κ) provider host).Keeps fun now =>
      now.socketPath = plugin.socketPath ∧ leads plugin.machine now.machine := by
    refine ⟨?_, ?_, ?_⟩
    · rintro now ⟨here, led⟩
      exact ⟨(Plugin.start_socketPath provider host now).trans here,
        footprint.trans led (footprint.start here provider)⟩
    · rintro now ⟨here, led⟩
      exact ⟨(Plugin.stop_socketPath host now).trans here,
        footprint.trans led (footprint.stop here)⟩
    · rintro now ⟨here, led⟩
      exact ⟨here, led⟩
  exact (keeps.run ⟨rfl, footprint.refl _⟩ inputs).2

end Supervisor

/-! ### Files -/

namespace Machine
namespace FileTree

/-- Two trees that differ at most in what stands where a path leads.  No directory comes or goes. -/
structure ChangesAt (path : String) (before after : FileTree) : Prop where
  workingDirectory : after.workingDirectory = before.workingDirectory
  directories : ∀ place,
    after.entry? place = some .directory ↔ before.entry? place = some .directory
  elsewhere : ∀ place, before.locate path ≠ some place → after.entry? place = before.entry? place

variable {path : String} {before between after : FileTree}

theorem ChangesAt.refl (tree : FileTree) : ChangesAt path tree tree :=
  ⟨rfl, fun _ => Iff.rfl, fun _ _ => rfl⟩

theorem ChangesAt.locate (changes : ChangesAt path before after) (other : String) :
    after.locate other = before.locate other :=
  locate_congr changes.workingDirectory changes.directories other

theorem ChangesAt.trans (first : ChangesAt path before between)
    (second : ChangesAt path between after) : ChangesAt path before after where
  workingDirectory := second.workingDirectory.trans first.workingDirectory
  directories place := (second.directories place).trans (first.directories place)
  elsewhere place apart := by
    have apart' : between.locate path ≠ some place := by
      rw [first.locate]
      exact apart
    exact (second.elsewhere place apart').trans (first.elsewhere place apart)

/-- At a place where no directory stands, what is no directory may come or go. -/
theorem changesAt_of_place {place : Place} (located : before.locate path = some place)
    (workingDirectory : after.workingDirectory = before.workingDirectory)
    (was : before.entry? place ≠ some .directory) (becomes : after.entry? place ≠ some .directory)
    (elsewhere : ∀ there, there ≠ place → after.entry? there = before.entry? there) :
    ChangesAt path before after where
  workingDirectory := workingDirectory
  directories there := by
    by_cases here : there = place
    · rw [here]
      exact iff_of_false becomes was
    · rw [elsewhere there here]
  elsewhere there apart := by
    refine elsewhere there fun here => apart ?_
    rw [located, here]

theorem changesAt_removeFile (removes : before.removeFile path = some after) :
    ChangesAt path before after := by
  cases located : before.locate path with
  | none =>
      unfold removeFile at removes
      rw [located] at removes
      cases removes
      exact .refl before
  | some place =>
      have leftover : before.entry? place ≠ some .directory := by
        intro directory
        unfold removeFile at removes
        simp only [located, directory] at removes
        cases removes
      obtain ⟨removed, same, start, gone, rest⟩ := removeFile_of_located located leftover
      rw [removes] at same
      cases same
      refine changesAt_of_place located start leftover ?_ rest
      rw [gone]
      exact nofun

theorem changesAt_bindSocket {listener : Listener}
    (binds : before.bindSocket path listener = some after) : ChangesAt path before after := by
  unfold bindSocket at binds
  split at binds
  · cases binds
  split at binds
  · cases binds
  rename_i place located
  split at binds
  · cases binds
  rename_i empty
  split at binds
  · cases binds
  rename_i below
  cases binds
  refine changesAt_of_place located rfl ?_ ?_ fun there => entry?_put_ne before place there _
  · rw [empty]
    exact nofun
  · rw [entry?_put_self before place _ below]
    exact nofun

end FileTree

structure ChangesAt (path : String) (before after : Machine) : Prop where
  files : FileTree.ChangesAt path before.files after.files
  failing : after.failing = before.failing
  refusing : after.refusing = before.refusing

variable {path : String} {before after : Machine}

theorem changesAt_act {kind : Failing} {files : Option FileTree}
    (made : ∀ after, files = some after → FileTree.ChangesAt path before.files after) :
    ChangesAt path before (before.act kind files).2 := by
  unfold act
  split
  · exact ⟨made _ rfl, rfl, rfl⟩
  · exact ⟨.refl _, rfl, rfl⟩

theorem played_footprint (path : String) : Plugin.Footprint played path (ChangesAt path) where
  refl machine := ⟨.refl _, rfl, rfl⟩
  trans first second :=
    ⟨first.files.trans second.files, second.failing.trans first.failing,
      second.refusing.trans first.refusing⟩
  clears _ := changesAt_act fun _ => FileTree.changesAt_removeFile
  listens _ _ := changesAt_act fun _ => FileTree.changesAt_bindSocket
  probes _ := ⟨.refl _, rfl, rfl⟩
  registers kubelet request machine := by
    change ChangesAt path machine (machine.receive kubelet request).2
    unfold receive
    split <;> exact ⟨.refl _, rfl, rfl⟩

/-- Who listens where another path leads goes on listening. -/
theorem ChangesAt.listener? (changes : ChangesAt path before after) {other : String}
    (apart : ∀ place, before.files.locate other = some place →
      before.files.locate path ≠ some place) : after.listener? other = before.listener? other := by
  have same : after.files.find? other = before.files.find? other := by
    unfold FileTree.find?
    rw [changes.files.locate]
    cases located : before.files.locate other with
    | none => rfl
    | some place => exact changes.files.elsewhere place (apart place located)
  unfold Machine.listener?
  rw [same]

end Machine
end VirtualNpu
