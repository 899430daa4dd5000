import VirtualNpu.Machine.FileTree
import VirtualNpu.Text.Basic

/-!
The last names of paths.  What is joined behind a directory gives the last name of the whole path,
and where a path leads to is called by its last name.
-/

namespace VirtualNpu
namespace Text

def lastPiece (text : String) : String :=
  String.ofList ((splitSlashes text.toList).getLastD [])

theorem splitSlashes_ne_nil (chars : List Char) : splitSlashes chars ≠ [] := by
  cases chars with
  | nil => exact List.cons_ne_nil _ _
  | cons c rest =>
      unfold splitSlashes
      split
      · exact List.cons_ne_nil _ _
      · split <;> exact List.cons_ne_nil _ _

theorem splitSlashes_slash (rest : List Char) :
    splitSlashes ('/' :: rest) = [] :: splitSlashes rest := by
  rw [splitSlashes]
  split
  · rename_i none
    exact absurd none (splitSlashes_ne_nil rest)
  · rename_i piece pieces some
    rw [if_pos rfl, some]

theorem splitSlashes_cons {c : Char} (other : c ≠ '/') {rest piece : List Char}
    {pieces : List (List Char)} (split : splitSlashes rest = piece :: pieces) :
    splitSlashes (c :: rest) = (c :: piece) :: pieces := by
  rw [splitSlashes, split]
  exact if_neg other

theorem splitSlashes_append_slash (left right : List Char) :
    splitSlashes (left ++ '/' :: right) = splitSlashes left ++ splitSlashes right := by
  induction left with
  | nil => exact splitSlashes_slash right
  | cons c left ih =>
      by_cases slash : c = '/'
      · rw [slash, List.cons_append, splitSlashes_slash, ih, splitSlashes_slash]
        rfl
      · obtain ⟨piece, pieces, pieced⟩ := List.exists_cons_of_ne_nil (splitSlashes_ne_nil left)
        rw [pieced] at ih
        rw [splitSlashes_cons slash pieced, List.cons_append, splitSlashes_cons slash ih]
        rfl

theorem splitSlashes_of_unslashed {tail : List Char} (unslashed : '/' ∉ tail) :
    splitSlashes tail = [tail] := by
  induction tail with
  | nil => rfl
  | cons c tail ih =>
      have other : c ≠ '/' := fun slash => unslashed (slash ▸ List.mem_cons_self)
      exact splitSlashes_cons other (ih fun later => unslashed (.tail c later))

theorem splitSlashes_append {tail : List Char} (unslashed : '/' ∉ tail) (chars : List Char) :
    ∃ front last, splitSlashes chars = front ++ [last] ∧
      splitSlashes (chars ++ tail) = front ++ [last ++ tail] := by
  induction chars with
  | nil => exact ⟨[], [], rfl, splitSlashes_of_unslashed unslashed⟩
  | cons c chars ih =>
      obtain ⟨front, last, pieced, longer⟩ := ih
      by_cases slash : c = '/'
      · refine ⟨[] :: front, last, ?_, ?_⟩
        · rw [slash, splitSlashes_slash, pieced]
          rfl
        · rw [slash, List.cons_append, splitSlashes_slash, longer]
          rfl
      · cases front with
        | nil =>
            exact ⟨[], c :: last, splitSlashes_cons slash pieced, splitSlashes_cons slash longer⟩
        | cons piece front =>
            exact ⟨(c :: piece) :: front, last, splitSlashes_cons slash pieced,
              splitSlashes_cons slash longer⟩

theorem lastPiece_append (text : String) {tail : String} (unslashed : '/' ∉ tail.toList) :
    lastPiece (text ++ tail) = lastPiece text ++ tail := by
  obtain ⟨front, last, pieced, longer⟩ := splitSlashes_append unslashed text.toList
  unfold lastPiece
  rw [String.toList_append, pieced, longer, List.getLastD_concat, List.getLastD_concat,
    String.ofList_append, String.ofList_toList]

theorem joinPath_eq (directory name : String) :
    joinPath directory name = name ∨ ∃ front, joinPath directory name = front ++ "/" ++ name := by
  unfold joinPath
  split
  · exact Or.inl rfl
  · split
    · rename_i plain
      rcases plain with rfl | slashed
      · exact Or.inl (String.empty_append)
      · obtain ⟨front, same⟩ := String.Slice.endsWith_string_iff.mp slashed
        rw [String.copy_toSlice] at same
        refine Or.inr ⟨String.ofList front, ?_⟩
        rw [← String.ofList_toList (s := directory), ← same, String.ofList_append]
        rfl
    · exact Or.inr ⟨directory, rfl⟩

theorem lastPiece_joinPath (directory name : String) :
    lastPiece (joinPath directory name) = lastPiece name := by
  rcases joinPath_eq directory name with same | ⟨front, same⟩
  · rw [same]
  · obtain ⟨before, last, pieced⟩ := List.eq_nil_or_concat (splitSlashes name.toList)
      |>.resolve_left (splitSlashes_ne_nil _)
    unfold lastPiece
    rw [same, String.toList_append, String.toList_append, List.append_assoc]
    change String.ofList ((splitSlashes (front.toList ++ '/' :: name.toList)).getLastD []) = _
    rw [splitSlashes_append_slash, pieced, List.concat_eq_append, ← List.append_assoc,
      List.getLastD_concat, List.getLastD_concat]

/-- The last piece of a path is its last name, unless it names nothing or another directory. -/
theorem fileName?_of_lastPiece {path : String} (filled : lastPiece path ≠ "")
    (proper : lastPiece path ≠ ".") (below : lastPiece path ≠ "..") :
    fileName? path = some (lastPiece path) := by
  obtain ⟨front, last, pieced⟩ := List.eq_nil_or_concat (splitSlashes path.toList)
    |>.resolve_left (splitSlashes_ne_nil _)
  have piece : lastPiece path = String.ofList last := by
    unfold lastPiece
    rw [pieced, List.concat_eq_append, List.getLastD_concat]
  rw [piece] at filled proper below ⊢
  have kept (pieces : List String) :
      ((pieces ++ [String.ofList last]).filter fun piece => piece ≠ "" ∧ piece ≠ ".").getLast? =
        some (String.ofList last) := by
    rw [List.filter_append, List.filter_cons_of_pos (by simp [filled, proper])]
    exact List.getLast?_concat
  have lasts : (pathNames path).getLast? = some (String.ofList last) := by
    unfold pathNames
    rw [pieced, List.concat_eq_append, List.map_append, List.map_singleton]
    dsimp only
    split
    · rename_i rest dotted
      -- Only a path of one piece would begin with its last.
      rcases List.append_eq_cons_iff.mp dotted with ⟨-, single⟩ | ⟨pieces, -, rest⟩
      · exact absurd (List.cons.inj single).1 proper
      · rw [rest, List.getLast?_cons, kept]
        rfl
    · exact kept _
  unfold fileName?
  rw [lasts]
  exact if_neg (not_or.mpr ⟨proper, below⟩)

end Text

namespace Machine
namespace FileTree

theorem descend_concat (tree : FileTree) (names : List String) (name : String)
    (here place : Place) (found : tree.descend here (names ++ [name]) = some place) :
    ∃ above, place = step above name := by
  induction names generalizing here with
  | nil =>
      rw [List.nil_append, descend] at found
      split at found
      · exact ⟨here, (Option.some.inj found).symm⟩
      · cases found
  | cons first names ih =>
      rw [List.cons_append, descend] at found
      split at found
      · exact ih _ found
      · cases found

theorem getLast?_of_locate {tree : FileTree} {path name : String} {place : Place}
    (named : Text.fileName? path = some name) (found : tree.locate path = some place) :
    place.getLast? = some name := by
  unfold Text.fileName? at named
  split at named
  · rename_i last lasts
    split at named
    · cases named
    · rename_i proper
      obtain ⟨here, below⟩ := not_or.mp proper
      cases named
      obtain ⟨names, along⟩ := List.getLast?_eq_some_iff.mp lasts
      unfold locate namesAlong at found
      split at found
      · cases found
      · rw [along, List.filter_append, List.filter_cons_of_pos (by simp [here])] at found
        obtain ⟨above, rfl⟩ := descend_concat tree _ _ _ _ found
        unfold step
        rw [if_neg below]
        exact List.getLast?_concat
  · cases named

/-- Paths with different last names never lead to the same place. -/
theorem locate_ne_of_fileName? {tree : FileTree} {one other name name' : String} {place : Place}
    (named : Text.fileName? one = some name) (named' : Text.fileName? other = some name')
    (differ : name ≠ name') (found : tree.locate other = some place) :
    tree.locate one ≠ some place := by
  intro same
  have last := getLast?_of_locate named same
  rw [getLast?_of_locate named' found] at last
  exact differ (Option.some.inj last).symm

end FileTree
end Machine
end VirtualNpu
