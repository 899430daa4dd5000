import VirtualNpu.Proofs.YamlValues

/-!
Block collections line by line: the fields of a mapping, the items of a sequence whose dashes
stand in the column of their key, and a text that is one field.
-/

namespace VirtualNpu
namespace Yaml

open Written (spaces)

/-! ### Lines -/

theorem Follows.mono {limit limit' : Nat} {rest : List Char} (follows : Follows limit rest)
    (wider : limit ≤ limit') : Follows limit' rest := by
  cases follows with
  | nothing => exact .nothing
  | line more bounded named => exact .line more (Nat.le_trans bounded wider) named

theorem Follows.head_column {limit : Nat} {rest : List Char} (follows : Follows limit rest)
    (index line : Nat) :
    ∀ spot ∈ (dropBlanks (placeFrom index line 0 rest)).head?, spot.column ≤ limit := by
  obtain ⟨blanks, next, _, dropped, _, ends | ⟨spot, spots, more, _, bounded⟩⟩ :=
    follows.split index line
  · rw [dropped, ends]
    intro spot none
    cases none
  · rw [dropped, more]
    intro other same
    cases same
    exact bounded

/-- Whether some lines of a block collection at `column` are scanned as these tokens, up to the
next line. -/
structure IsLines (column : Nat) (text : List Char) (read : List Token) : Prop where
  follows : ∀ {rest : List Char}, Follows column rest → Follows column (text ++ rest)
  allowed : ∀ c ∈ text, isAllowed c = true
  scans : ∀ {outer : List Int} {tokens all : List Token} {rest : List Char},
    Follows column rest →
    (∀ index line, Scans (.block column outer (tokens ++ read) true)
      (dropBlanks (placeFrom index line 0 rest)) all) →
    ∀ index line, Scans (.block column outer tokens true)
      (dropBlanks (placeFrom index line 0 (text ++ rest))) all

theorem isLines_nil (column : Nat) : IsLines column [] [] where
  follows := fun follows => follows
  allowed := fun c inside => absurd inside List.not_mem_nil
  scans := by
    intro outer tokens all rest _ later
    rw [List.append_nil] at later
    exact later

theorem IsLines.append {column : Nat} {text text' : List Char} {read read' : List Token}
    (first : IsLines column text read) (second : IsLines column text' read') :
    IsLines column (text ++ text') (read ++ read') where
  follows := by
    intro rest follows
    rw [List.append_assoc]
    exact first.follows (second.follows follows)
  allowed := by
    intro c inside
    rcases List.mem_append.mp inside with front | back
    · exact first.allowed c front
    · exact second.allowed c back
  scans := by
    intro outer tokens all rest follows later
    rw [List.append_assoc]
    apply first.scans (second.follows follows)
    apply second.scans follows
    rw [List.append_assoc]
    exact later

theorem isValue_lines {column : Nat} {text : List Char} {read : List Token}
    (lines : IsLines column text read) : IsValue column ('\n' :: text) read where
  begins := ⟨'\n', text, rfl, Or.inr rfl⟩
  allowed := by
    intro c inside
    rcases List.mem_cons.mp inside with rfl | later
    · rfl
    · exact lines.allowed c later
  scans := by
    intro outer tokens all rest follows later index line at' _
    exact (AtNext.lineEnd index line at').scansOn (lines.follows follows)
      (lines.scans follows later)

/-! ### Fields -/

def fieldText (name written : List Char) : List Char := name ++ ':' :: written

def fieldTokens (name : List Char) (read : List Token) : List Token :=
  .key :: .scalar .plain (String.ofList name) :: .value :: read

section
variable {column : Nat} {name written : List Char} {read : List Token}

theorem IsValue.endsWord (value : IsValue column written read) (rest : List Char)
    (index line at' : Nat) : endsWord (placeFrom index line at' (written ++ rest)) = true := by
  obtain ⟨c, more, rfl, rfl | rfl⟩ := value.begins
  · rw [List.cons_append, placeFrom_space]
    rfl
  · rw [List.cons_append, placeFrom_newline]
    rfl

theorem isAllowed_of_isNameChar {c : Char} (named : isNameChar c = true) : isAllowed c = true :=
  isAllowed_of_isPrintable (isPrintable_of_isNameChar named)

theorem isAllowed_fieldText (key : IsKey name) (value : IsValue column written read) :
    ∀ c ∈ fieldText name written, isAllowed c = true := by
  intro c inside
  rcases List.mem_append.mp inside with front | back
  · exact isAllowed_of_isNameChar (key.named c front).1
  · rcases List.mem_cons.mp back with rfl | later
    · rfl
    · exact value.allowed c later

theorem scans_fieldText {indent : Int} {outer outer' : List Int} {tokens opened all : List Token}
    {rest : List Char} (key : IsKey name) (value : IsValue column written read)
    (opens : Opens indent outer column outer' opened) (follows : Follows column rest)
    (later : ∀ index line, Scans
      (.block column outer' (tokens ++ opened ++ fieldTokens name read) true)
      (dropBlanks (placeFrom index line 0 rest)) all) (index line : Nat) :
    Scans (.block indent outer tokens true)
      (placeFrom index line column (fieldText name written ++ rest)) all := by
  rw [fieldText, List.append_assoc, List.cons_append]
  apply scans_field key opens (value.endsWord rest)
  refine value.scans follows ?_ _ _ (by omega)
  rw [List.append_assoc _ _ read]
  exact later

theorem isLines_field (key : IsKey name) (value : IsValue column written read) :
    IsLines column (spaces column ++ fieldText name written) (fieldTokens name read) where
  follows := by
    intro rest _
    cases name with
    | nil => exact absurd rfl key.filled
    | cons c name =>
        rw [List.append_assoc]
        exact .line _ (Nat.le_refl column) (key.named c List.mem_cons_self).1
  allowed := by
    intro c inside
    rcases List.mem_append.mp inside with blank | own
    · exact isAllowed_of_mem_spaces blank
    · exact isAllowed_fieldText key value c own
  scans := by
    intro outer tokens all rest follows later index line
    have begins : dropBlanks (placeFrom index line 0
        (spaces column ++ fieldText name written ++ rest)) =
        placeFrom (index + column) line column (fieldText name written ++ rest) := by
      cases name with
      | nil => exact absurd rfl key.filled
      | cons c name =>
          rw [List.append_assoc]
          exact dropBlanks_spaces (key.named c List.mem_cons_self).1 column index line _
    rw [begins]
    refine scans_fieldText key value (.same rfl) follows ?_ _ _
    rw [List.append_nil]
    exact later

/-! ### Items -/

/-- What is written for an item that is a mapping: its first field behind the dash, and the lines
of the others. -/
def itemText (column : Nat) (first others : List Char) : List Char :=
  spaces column ++ '-' :: ' ' :: (first ++ others)

def itemTokens (fields : List Token) : List Token :=
  .blockEntry :: .blockMappingStart :: (fields ++ [.blockEnd])

theorem isLines_item {others : List Char} {behind : List Token} (key : IsKey name)
    (value : IsValue (column + 2) written read) (lines : IsLines (column + 2) others behind) :
    IsLines column (itemText column (fieldText name written) others)
      (itemTokens (fieldTokens name read ++ behind)) where
  follows := by
    intro rest _
    rw [itemText, List.append_assoc]
    exact .line _ (Nat.le_refl column) rfl
  allowed := by
    intro c inside
    rcases List.mem_append.mp inside with blank | later
    · exact isAllowed_of_mem_spaces blank
    · rcases List.mem_cons.mp later with rfl | later
      · rfl
      · rcases List.mem_cons.mp later with rfl | later
        · rfl
        · rcases List.mem_append.mp later with own | other
          · exact isAllowed_fieldText key value c own
          · exact lines.allowed c other
  scans := by
    intro outer tokens all rest follows later index line
    have deeper : Follows (column + 2) rest := follows.mono (Nat.le_add_right column 2)
    rw [itemText, List.append_assoc, List.cons_append, List.cons_append,
      dropBlanks_spaces rfl column index line, placeFrom_inLine (by decide) rfl,
      List.append_assoc]
    refine scansOn_block_takes (Int.le_refl _)
      (take_dash ⟨_, _, placeFrom_space _ _ _ _, rfl⟩ rfl) (Nat.le_refl _) ?_
    have fields : Scans (.block column outer (tokens ++ [.blockEntry]) true)
        (placeFrom (index + column + 1 + 1) line (column + 1 + 1)
          (fieldText name written ++ (others ++ rest))) all := by
      refine scans_fieldText key value (.deeper (by omega))
        (lines.follows deeper) ?_ _ _
      apply lines.scans deeper
      -- the next line is further left, so the mapping of the item is closed before it
      intro index line
      refine scans_close ?_ (by omega) ?_
      · intro spot first
        have left := follows.head_column index line spot first
        omega
      · have whole : tokens ++ [Token.blockEntry] ++ [Token.blockMappingStart] ++
            fieldTokens name read ++ behind ++ [Token.blockEnd] =
            tokens ++ itemTokens (fieldTokens name read ++ behind) := by
          simp [itemTokens]
        rw [whole]
        exact later index line
    cases name with
    | nil => exact absurd rfl key.filled
    | cons c name =>
        have named := (key.named c List.mem_cons_self).1
        exact scansOn_space (stopsScanner_of_isNameChar named) (isPlain_of_isNameChar named) fields

end

/-! ### A whole text -/

theorem length_placeFrom_le (text : List Char) (index line column : Nat) :
    (placeFrom index line column text).length ≤ text.length := by
  fun_induction placeFrom index line column text with
  | case1 => exact Nat.le_refl 0
  | case2 index line column rest ih => exact Nat.le_succ_of_le (Nat.succ_le_succ ih)
  | case3 index line column c rest fresh shown broken unbroken =>
      change (if isBreak shown then _ else _ : List Spot).length + 1 ≤ rest.length + 1
      apply Nat.succ_le_succ
      by_cases breaks : isBreak shown = true
      · rw [if_pos breaks]
        exact broken
      · rw [if_neg breaks]
        exact unbroken

theorem tokens?_field {name written : List Char} {read : List Token} (key : IsKey name)
    (value : IsValue 0 written read) :
    tokens? (String.ofList (fieldText name written)) =
      some (.blockMappingStart :: (fieldTokens name read ++ [.blockEnd])) := by
  have allowed : (fieldText name written).all isAllowed = true :=
    List.all_eq_true.mpr (isAllowed_fieldText key value)
  have scans : ScansOn .start (place (fieldText name written))
      (.blockMappingStart :: (fieldTokens name read ++ [.blockEnd])) := by
    have fields : Scans .start (place (fieldText name written))
        (.blockMappingStart :: (fieldTokens name read ++ [.blockEnd])) := by
      rw [← List.append_nil (fieldText name written)]
      change Scans (.block (-1) [] [] true) (placeFrom 0 0 0 _) _
      refine scans_fieldText key value (.deeper (by omega)) .nothing ?_ 0 0
      intro index line
      refine scans_close ?_ (by omega) (.ends rfl rfl)
      intro spot none
      cases none
    cases name with
    | nil => exact absurd rfl key.filled
    | cons c name =>
        have named := (key.named c List.mem_cons_self).1
        have placed : place (fieldText (c :: name) written) = _ :=
          placeFrom_inLine (isPlain_of_isNameChar named) (isBreak_of_isNameChar named) 0 0 0 _
        rw [placed] at fields ⊢
        have stays := toNextToken_stop ⟨c, 0, 0, 0⟩ (stopsScanner_of_isNameChar named) true
        exact scansOn_of_next (stays _) fields
  unfold tokens?
  rw [String.toList_ofList]
  dsimp only
  rw [if_pos allowed]
  apply run_of_scans scans
  apply Nat.lt_succ_of_le
  exact Nat.le_trans (length_toNextToken_le _ _ _ _) (length_placeFrom_le _ _ _ _)

end Yaml
end VirtualNpu
