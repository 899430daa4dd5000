import VirtualNpu.Plugin.Likeness
import VirtualNpu.Proofs.KubeletRequests
import VirtualNpu.Proofs.SocketPath

/-!
Played machines that behave alike.  They have the same files but for the periods that servers belong
to, and have seen any requests; what is left at the path of a socket makes no difference once it is
cleared.
-/

namespace VirtualNpu
namespace Machine

/-- An entry but for the period that a server belongs to. -/
def Entry.kind : Entry → Entry
  | .socket (.plugin _) => .socket (.plugin 0)
  | entry => entry

theorem Entry.kind_eq_directory_iff (entry : Entry) :
    entry.kind = .directory ↔ entry = .directory := by
  rcases entry with _ | _ | _ | _ <;> simp [kind]

namespace FileTree

def kind? (tree : FileTree) (place : Place) : Option Entry := (tree.entry? place).map Entry.kind

/-- Two trees with the same entries but for the periods that servers belong to. -/
structure Alike (one other : FileTree) : Prop where
  workingDirectory : one.workingDirectory = other.workingDirectory
  kinds : ∀ place, one.kind? place = other.kind? place

theorem kind?_eq_directory_iff (tree : FileTree) (place : Place) :
    tree.kind? place = some .directory ↔ tree.entry? place = some .directory := by
  simp [kind?, Entry.kind_eq_directory_iff]

/-- Where a path leads depends on the directories only. -/
theorem locate_congr {one other : FileTree}
    (workingDirectory : one.workingDirectory = other.workingDirectory)
    (directories : ∀ place,
      one.entry? place = some .directory ↔ other.entry? place = some .directory)
    (path : String) : one.locate path = other.locate path := by
  have descend (names : List String) (here : Place) :
      one.descend here names = other.descend here names := by
    induction names generalizing here with
    | nil => rfl
    | cons name rest ih => simp only [FileTree.descend, directories here, ih]
  unfold locate origin
  rw [workingDirectory, descend]

section
variable {one other : FileTree}

theorem Alike.locate (alike : Alike one other) (path : String) :
    one.locate path = other.locate path := by
  refine locate_congr alike.workingDirectory (fun place => ?_) path
  rw [← kind?_eq_directory_iff, alike.kinds, kind?_eq_directory_iff]

theorem Alike.find? (alike : Alike one other) (path : String) :
    (one.find? path).map Entry.kind = (other.find? path).map Entry.kind := by
  unfold FileTree.find?
  rw [alike.locate path]
  cases other.locate path with
  | none => rfl
  | some place => exact alike.kinds place

theorem Alike.put (alike : Alike one other) (place : Place) {entry entry' : Entry}
    (kind : entry.kind = entry'.kind) : Alike (one.put place entry) (other.put place entry') := by
  refine ⟨alike.workingDirectory, fun there => ?_⟩
  unfold kind?
  by_cases here : there = place
  · subst here
    cases there with
    | nil => rfl
    | cons name rest =>
        rw [entry?_put_self _ _ _ (List.cons_ne_nil name rest),
          entry?_put_self _ _ _ (List.cons_ne_nil name rest)]
        exact congrArg some kind
  · rw [entry?_put_ne _ _ _ _ here, entry?_put_ne _ _ _ _ here]
    exact alike.kinds there

theorem Alike.bindSocket (alike : Alike one other) (path : String) (period period' : Nat) :
    Option.Rel Alike (one.bindSocket path (.plugin period))
      (other.bindSocket path (.plugin period')) := by
  unfold FileTree.bindSocket
  rw [alike.locate path]
  split
  · exact .none
  · split
    · exact .none
    · rename_i place _located
      have same := alike.kinds place
      unfold kind? at same
      cases first : one.entry? place with
      | some entry =>
          cases second : other.entry? place with
          | some entry' => exact .none
          | none =>
              rw [first, second] at same
              cases same
      | none =>
          cases second : other.entry? place with
          | some entry' =>
              rw [first, second] at same
              cases same
          | none =>
              dsimp only
              split
              · exact .none
              · exact .some (alike.put place rfl)

end

/-- What is no directory can be removed, and is all that goes. -/
theorem removeFile_of_located {tree : FileTree} {path : String} {place : Place}
    (located : tree.locate path = some place) (leftover : tree.entry? place ≠ some .directory) :
    ∃ removed, tree.removeFile path = some removed ∧
      removed.workingDirectory = tree.workingDirectory ∧
      removed.entry? place = none ∧
      ∀ there, there ≠ place → removed.entry? there = tree.entry? there := by
  have below : place ≠ [] := by
    rintro rfl
    exact leftover rfl
  unfold removeFile
  rw [located]
  cases standing : tree.entry? place with
  | none => exact ⟨tree, by simp only [standing], rfl, standing, fun _ _ => rfl⟩
  | some entry =>
      refine ⟨tree.erase place, ?_, rfl, entry?_erase_self tree place below,
        entry?_erase_ne tree place⟩
      cases entry with
      | directory => exact absurd standing leftover
      | file text | socket listener => simp only [standing]

end FileTree

/-! ### Machines -/

structure Alike (one other : Machine) : Prop where
  files : FileTree.Alike one.files other.files
  failing : one.failing = other.failing
  refusing : one.refusing = other.refusing

theorem isSome_period?_iff (machine : Machine) (path : String) :
    (machine.period? path).isSome ↔
      (machine.files.find? path).map Entry.kind = some (.socket (.plugin 0)) := by
  unfold period? listener?
  rcases machine.files.find? path with _ | _ | _ | _ | _ <;> simp [Entry.kind]

theorem listener?_eq_kubelet_iff (machine : Machine) (path : String) :
    machine.listener? path = some .kubelet ↔
      (machine.files.find? path).map Entry.kind = some (.socket .kubelet) := by
  unfold listener?
  rcases machine.files.find? path with _ | _ | _ | _ | _ <;> simp [Entry.kind]

section
variable {one other : Machine}

theorem Alike.act (alike : Alike one other) (kind : Failing) {files files' : Option FileTree}
    (made : Option.Rel FileTree.Alike files files') :
    Node.Agree Alike (one.act kind files) (other.act kind files') := by
  unfold Machine.act
  rw [← alike.failing]
  cases made with
  | none => exact ⟨rfl, alike⟩
  | some made =>
      cases decide (kind ∈ one.failing) with
      | true => exact ⟨rfl, alike⟩
      | false => exact ⟨rfl, made, rfl, alike.refusing⟩

theorem Alike.probe (alike : Alike one other) (path : String) :
    Node.Agree Alike (played.probe path one) (played.probe path other) := by
  refine ⟨?_, alike⟩
  have serves : (one.period? path).isSome = (other.period? path).isSome := by
    rw [Bool.eq_iff_iff, isSome_period?_iff, isSome_period?_iff, alike.files.find? path]
  change ((one.period? path).isSome && _) = ((other.period? path).isSome && _)
  rw [serves, alike.failing]

theorem Alike.receive (alike : Alike one other) (path : String) (request : Plugin.Request) :
    Node.Agree Alike (one.receive path request) (other.receive path request) := by
  have same : one.listener? path = some .kubelet ↔ other.listener? path = some .kubelet := by
    rw [listener?_eq_kubelet_iff, listener?_eq_kubelet_iff, alike.files.find? path]
  by_cases kubelet : one.listener? path = some .kubelet
  · rw [receive_of_kubelet kubelet, receive_of_kubelet (same.mp kubelet), alike.failing,
      alike.refusing]
    exact ⟨rfl, alike.files, rfl, rfl⟩
  · rw [receive_of_other kubelet, receive_of_other (mt same.mpr kubelet)]
    exact ⟨rfl, alike⟩

end

/-- The played machine is alike to those that only other periods have used. -/
def playedLikeness {σ κ : Type} {world : Node.World σ κ} (likeness : Node.Likeness world) :
    Plugin.Likeness (⟨world, played⟩ : Plugin.World σ κ Machine) :=
  { likeness with
    machine := Alike
    listens := fun path period period' _ _ alike =>
      alike.act .listen (alike.files.bindSocket path period period')
    probes := fun path _ _ alike => alike.probe path
    asks := fun path request _ _ alike => alike.receive path request }

/-- On the played machine the server that was opened last is reached, at every path. -/
theorem played_keepsServer (path : String) : Plugin.KeepsServer played path where
  opened period machine done := by
    obtain ⟨bound, binds, files⟩ := act_ok machine .listen _ done
    change period? (machine.act .listen
      (machine.files.bindSocket path (.plugin period))).2 path = some period
    unfold period? listener?
    rw [files, FileTree.find?_bindSocket machine.files bound path _ binds]
  probed _ := rfl
  registered kubelet request machine := by
    change period? (machine.receive kubelet request).2 path = machine.period? path
    unfold receive
    split <;> rfl

/-! ### What is left at a path -/

/-- Two machines that are alike but for what is left at a path, which may be nothing, a file or
any socket. -/
structure AlikeBeside (path : String) (one other : Machine) : Prop where
  workingDirectory : one.files.workingDirectory = other.files.workingDirectory
  failing : one.failing = other.failing
  refusing : one.refusing = other.refusing
  leftover : ∃ place, one.files.locate path = some place ∧
    one.files.entry? place ≠ some .directory ∧ other.files.entry? place ≠ some .directory ∧
    ∀ there, there ≠ place → one.files.kind? there = other.files.kind? there

theorem act_of_willing {machine : Machine} {kind : Failing} (willing : kind ∉ machine.failing)
    (files : FileTree) : machine.act kind (some files) = (true, { machine with files }) := by
  unfold act
  rw [decide_eq_false willing]

/-- Once the path is cleared, what was left there makes no difference. -/
theorem AlikeBeside.clear {path : String} {one other : Machine}
    (beside : AlikeBeside path one other) (willing : Failing.clear ∉ one.failing) :
    ((played.clear path one).1 = true ∧ (played.clear path other).1 = true) ∧
      Alike (played.clear path one).2 (played.clear path other).2 := by
  obtain ⟨place, located, leftover, leftover', elsewhere⟩ := beside.leftover
  -- What is left there is no directory in either, so that the path leads to one place in both.
  have located' : other.files.locate path = some place := by
    rw [← located]
    refine (FileTree.locate_congr beside.workingDirectory (fun there => ?_) path).symm
    by_cases here : there = place
    · rw [here]
      exact iff_of_false leftover leftover'
    · rw [← FileTree.kind?_eq_directory_iff, elsewhere there here,
        FileTree.kind?_eq_directory_iff]
  obtain ⟨removed, removes, start, gone, rest⟩ := FileTree.removeFile_of_located located leftover
  obtain ⟨removed', removes', start', gone', rest'⟩ :=
    FileTree.removeFile_of_located located' leftover'
  have willing' : Failing.clear ∉ other.failing := beside.failing ▸ willing
  change ((one.act .clear (one.files.removeFile path)).1 = true ∧
    (other.act .clear (other.files.removeFile path)).1 = true) ∧
      Alike (one.act .clear (one.files.removeFile path)).2
        (other.act .clear (other.files.removeFile path)).2
  rw [removes, removes', act_of_willing willing, act_of_willing willing']
  refine ⟨⟨rfl, rfl⟩, ⟨start.trans (beside.workingDirectory.trans start'.symm), ?_⟩,
    beside.failing, beside.refusing⟩
  intro there
  unfold FileTree.kind?
  by_cases here : there = place
  · rw [here, gone, gone']
  · rw [rest there here, rest' there here]
    exact elsewhere there here

end Machine
end VirtualNpu
