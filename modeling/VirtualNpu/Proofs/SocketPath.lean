import VirtualNpu.Machine.Basic
import VirtualNpu.Proofs.StartStages

/-!
What becomes of the socket at the path of a plugin.  A machine keeps sockets if they come
by listening, go by clearing, and stay through everything else; the played machine does.
-/

namespace VirtualNpu

namespace Plugin

variable {σ κ ω : Type}

/-- A host whose sockets come and go as told.  Nothing is asked of actions that fail. -/
structure KeepsSocket (host : Host ω) (path : String) (stands : ω → Bool) : Prop where
  cleared : ∀ machine, (host.clear path machine).1 = true →
    stands (host.clear path machine).2 = false
  bound : ∀ period machine, (host.listen path period machine).1 = true →
    stands (host.listen path period machine).2 = true
  probed : ∀ machine, stands (host.probe path machine).2 = stands machine
  registered : ∀ kubelet request machine,
    stands (host.register kubelet request machine).2 = stands machine

theorem stages_bind_socket {host : Host ω} {path : String} {stands : ω → Bool}
    (keeps : KeepsSocket host path stands) (provider : Inventory.Provider σ)
    (plugin after : Plugin σ κ ω) (here : plugin.socketPath = path)
    (done : inOrder (stages provider host) plugin = (.ok (), after)) :
    stands after.machine = true := by
  obtain ⟨refreshed, refreshes, done⟩ := inOrder_cons_ok _ _ _ _ done
  obtain ⟨cleared, clears, done⟩ := inOrder_cons_ok _ _ _ _ done
  obtain ⟨listening, listens, done⟩ := inOrder_cons_ok _ _ _ _ done
  obtain ⟨probed, probes, done⟩ := inOrder_cons_ok _ _ _ _ done
  obtain ⟨registered, registers, done⟩ := inOrder_cons_ok _ _ _ _ done
  obtain ⟨reporting, reports, done⟩ := inOrder_cons_ok _ _ _ _ done
  have refreshedPath : refreshed.socketPath = path := by
    have staged := (refreshStage_staged provider plugin).1
    rw [refreshes] at staged
    exact staged.socketPath.trans here
  have clearedPath : cleared.socketPath = path := by
    have staged : Staged refreshed (clearStage host refreshed).2 :=
      machineStage_staged _ _ refreshed
    rw [clears] at staged
    exact staged.socketPath.trans refreshedPath
  have listeningPath : listening.socketPath = path := by
    have staged : Staged cleared (listenStage host cleared).2 :=
      machineStage_staged _ _ cleared
    rw [listens] at staged
    exact staged.socketPath.trans clearedPath
  obtain ⟨bound, listeningMachine⟩ := machineStage_ok _ _ _ _ listens
  obtain ⟨_answers, probedMachine⟩ := machineStage_ok _ _ _ _ probes
  obtain ⟨_accepted, registeredMachine⟩ := machineStage_ok _ _ _ _ registers
  rw [clearedPath] at bound listeningMachine
  rw [listeningPath] at probedMachine
  have last : after.machine = registered.machine := by
    cases done
    cases reports
    rfl
  rw [last, registeredMachine, keeps.registered, probedMachine, keeps.probed,
    listeningMachine]
  exact keeps.bound _ _ bound

end Plugin

/-! ### Files -/

namespace Machine
namespace FileTree

private theorem lookup_filter_ne (place other : Place) (entries : List (Place × Entry))
    (different : other ≠ place) :
    List.lookup other (entries.filter fun entry => entry.1 ≠ place) =
      List.lookup other entries := by
  induction entries with
  | nil => rfl
  | cons head tail ih =>
      by_cases same : head.1 = place
      · have apart : (other == head.1) = false := by
          rw [same]
          exact beq_false_of_ne different
        rw [List.filter_cons_of_neg (by simpa using same), ih, List.lookup_cons, apart]
      · rw [List.filter_cons_of_pos (by simpa using same), List.lookup_cons, List.lookup_cons,
          ih]

private theorem lookup_filter_self (place : Place) (entries : List (Place × Entry)) :
    List.lookup place (entries.filter fun entry => entry.1 ≠ place) = none := by
  induction entries with
  | nil => rfl
  | cons head tail ih =>
      by_cases same : head.1 = place
      · rw [List.filter_cons_of_neg (by simpa using same), ih]
      · have apart : (place == head.1) = false := beq_false_of_ne (Ne.symm same)
        rw [List.filter_cons_of_pos (by simpa using same), List.lookup_cons, apart, ih]

theorem entry?_erase_ne (tree : FileTree) (place other : Place) (different : other ≠ place) :
    entry? (tree.erase place) other = tree.entry? other := by
  cases other with
  | nil => rfl
  | cons name rest => exact lookup_filter_ne place (name :: rest) tree.entries different

theorem entry?_erase_self (tree : FileTree) (place : Place) (below : place ≠ []) :
    entry? (tree.erase place) place = none := by
  cases place with
  | nil => exact absurd rfl below
  | cons name rest => exact lookup_filter_self (name :: rest) tree.entries

theorem entry?_put_ne (tree : FileTree) (place other : Place) (entry : Entry)
    (different : other ≠ place) : entry? (tree.put place entry) other = tree.entry? other := by
  rw [← entry?_erase_ne tree place other different]
  cases other with
  | nil => rfl
  | cons name rest =>
      have apart : (name :: rest == place) = false := beq_false_of_ne different
      change List.lookup (name :: rest) ((place, entry) :: _) = _
      rw [List.lookup_cons, apart]
      rfl

theorem entry?_put_self (tree : FileTree) (place : Place) (entry : Entry)
    (below : place ≠ []) : entry? (tree.put place entry) place = some entry := by
  cases place with
  | nil => exact absurd rfl below
  | cons name rest => exact List.lookup_cons_self

/-- Names lead through directories only, so that they lead on where all of these stay. -/
private theorem descend_stays {tree changed : FileTree}
    (stay : ∀ place, tree.entry? place = some .directory →
      changed.entry? place = some .directory)
    (names : List String) (here place : Place) (found : tree.descend here names = some place) :
    changed.descend here names = some place := by
  induction names generalizing here with
  | nil => exact found
  | cons name rest ih =>
      unfold descend at found ⊢
      split at found
      · rename_i passable
        rw [if_pos ⟨stay here passable.1, passable.2⟩]
        exact ih (step here name) found
      · cases found

private theorem locate_stays (tree changed : FileTree)
    (start : changed.workingDirectory = tree.workingDirectory)
    (stay : ∀ place, tree.entry? place = some .directory →
      changed.entry? place = some .directory)
    (path : String) (place : Place) (found : tree.locate path = some place) :
    changed.locate path = some place := by
  unfold locate origin at found ⊢
  rw [start]
  split at found
  · cases found
  · rename_i wellFormed
    rw [if_neg wellFormed]
    exact descend_stays stay _ _ place found

theorem find?_removeFile (tree removed : FileTree) (path : String)
    (done : tree.removeFile path = some removed) : removed.find? path = none := by
  unfold removeFile at done
  split at done
  · rename_i nowhere
    cases done
    unfold find?
    rw [nowhere]
    rfl
  · rename_i place located
    split at done
    · rename_i empty
      cases done
      unfold find?
      rw [located]
      exact empty
    · cases done
    · rename_i entry notDirectory standing
      cases done
      have below : place ≠ [] := by
        rintro rfl
        exact notDirectory (Option.some.inj standing).symm
      -- What is removed is no directory, so the path leads to the same place as before.
      have again : (tree.erase place).locate path = some place := by
        refine locate_stays tree (tree.erase place) rfl ?_ path place located
        intro other directory
        rw [entry?_erase_ne tree place other]
        · exact directory
        · rintro rfl
          rw [standing] at directory
          exact notDirectory (Option.some.inj directory)
      unfold find?
      rw [again]
      exact entry?_erase_self tree place below

theorem find?_bindSocket (tree bound : FileTree) (path : String) (listener : Listener)
    (done : tree.bindSocket path listener = some bound) :
    bound.find? path = some (.socket listener) := by
  unfold bindSocket at done
  split at done
  · cases done
  · split at done
    · cases done
    · rename_i place located
      split at done
      · cases done
      · rename_i empty
        split at done
        · cases done
        · rename_i below
          cases done
          have again : (tree.put place (.socket listener)).locate path = some place := by
            refine locate_stays tree (tree.put place _) rfl ?_ path place located
            intro other directory
            rw [entry?_put_ne tree place other]
            · exact directory
            · rintro rfl
              rw [empty] at directory
              cases directory
          unfold find?
          rw [again]
          exact entry?_put_self tree place _ below

end FileTree

theorem act_ok (machine : Machine) (kind : Failing) (files : Option FileTree)
    (done : (machine.act kind files).1 = true) :
    ∃ made, files = some made ∧ (machine.act kind files).2.files = made := by
  unfold act at done ⊢
  split
  · rename_i made _willing
    exact ⟨made, rfl, rfl⟩
  · rename_i prevented
    split at done
    · rename_i made willing
      exact absurd willing (prevented made rfl)
    · cases done

/-- The played machine keeps sockets, at every path. -/
theorem played_keepsSocket (path : String) :
    Plugin.KeepsSocket played path fun machine => (machine.listener? path).isSome := by
  refine ⟨?_, ?_, ?_, ?_⟩
  · intro machine done
    obtain ⟨removed, removes, files⟩ := act_ok machine .clear _ done
    change (listener? (machine.act .clear (machine.files.removeFile path)).2 path).isSome = false
    unfold listener?
    rw [files, FileTree.find?_removeFile machine.files removed path removes]
    rfl
  · intro period machine done
    obtain ⟨bound, binds, files⟩ := act_ok machine .listen _ done
    change (listener? (machine.act .listen
      (machine.files.bindSocket path (.plugin period))).2 path).isSome = true
    unfold listener?
    rw [files, FileTree.find?_bindSocket machine.files bound path _ binds]
    rfl
  · intro machine
    rfl
  · intro kubelet request machine
    change (listener? (machine.receive kubelet request).2 path).isSome = _
    unfold receive
    split <;> rfl

end Machine
end VirtualNpu
