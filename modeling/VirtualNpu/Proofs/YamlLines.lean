import VirtualNpu.Yaml.Scanner
import VirtualNpu.Yaml.Written

/-!
The lines of a YAML text as its scanner sees them: where their characters lie, and what the
scanner passes over before the next one.
-/

namespace VirtualNpu
namespace Yaml

open Written (spaces)

/-! ### Places -/

def IsPlain (c : Char) : Prop := c ≠ '\r' ∧ c ≠ '\u0085'

instance (c : Char) : Decidable (IsPlain c) := inferInstanceAs (Decidable (_ ∧ _))

theorem placeFrom_cons {c : Char} (plain : IsPlain c) (index line column : Nat)
    (rest : List Char) :
    placeFrom index line column (c :: rest) =
      ⟨c, index, line, column⟩ ::
        (if isBreak c then placeFrom (index + 1) (line + 1) 0 rest
          else placeFrom (index + 1) line (column + 1) rest) := by
  rw [placeFrom.eq_def]
  split
  · cases ‹c :: rest = []›
  · rename_i same
    exact absurd (List.cons.inj same).1 plain.1
  · rename_i other more fresh same
    obtain ⟨rfl, rfl⟩ := List.cons.inj same
    have kept : (if c = '\r' ∨ c = '\u0085' then '\n' else c) = c :=
      if_neg (not_or.mpr plain)
    rw [kept]

theorem placeFrom_inLine {c : Char} (plain : IsPlain c) (inLine : isBreak c = false)
    (index line column : Nat) (rest : List Char) :
    placeFrom index line column (c :: rest) =
      ⟨c, index, line, column⟩ :: placeFrom (index + 1) line (column + 1) rest := by
  rw [placeFrom_cons plain, inLine]
  rfl

theorem placeFrom_break {c : Char} (plain : IsPlain c) (breaks : isBreak c = true)
    (index line column : Nat) (rest : List Char) :
    placeFrom index line column (c :: rest) =
      ⟨c, index, line, column⟩ :: placeFrom (index + 1) (line + 1) 0 rest := by
  rw [placeFrom_cons plain, breaks]
  rfl

theorem placeFrom_newline (index line column : Nat) (rest : List Char) :
    placeFrom index line column ('\n' :: rest) =
      ⟨'\n', index, line, column⟩ :: placeFrom (index + 1) (line + 1) 0 rest :=
  placeFrom_break (by decide) rfl index line column rest

theorem placeFrom_space (index line column : Nat) (rest : List Char) :
    placeFrom index line column (' ' :: rest) =
      ⟨' ', index, line, column⟩ :: placeFrom (index + 1) line (column + 1) rest :=
  placeFrom_inLine (by decide) rfl index line column rest

theorem length_placeFrom (text : List Char) (index line column index' line' column' : Nat) :
    (placeFrom index line column text).length = (placeFrom index' line' column' text).length := by
  fun_induction placeFrom index line column text generalizing index' line' column' with
  | case1 => rfl
  | case2 index line column rest ih =>
      rw [placeFrom]
      exact congrArg (· + 1) (ih _ _ _)
  | case3 index line column c rest fresh shown broken unbroken =>
      rw [placeFrom.eq_3 _ _ _ _ _ fresh]
      change (_ :: if isBreak shown then _ else _).length =
        (_ :: if isBreak shown then _ else _).length
      by_cases breaks : isBreak shown = true
      · rw [if_pos breaks, if_pos breaks]
        exact congrArg (· + 1) (broken _ _ _)
      · rw [if_neg breaks, if_neg breaks]
        exact congrArg (· + 1) (unbroken _ _ _)

/-- Only a carriage return and the line feed behind it have one place together. -/
theorem length_placeFrom_tail (c : Char) (rest : List Char)
    (index line column index' line' column' : Nat) :
    (placeFrom index' line' column' rest).length ≤
      (placeFrom index line column (c :: rest)).length := by
  by_cases pair : c = '\r' ∧ ∃ more, rest = '\n' :: more
  · obtain ⟨rfl, more, rfl⟩ := pair
    rw [placeFrom_newline, placeFrom]
    exact Nat.succ_le_succ (Nat.le_of_eq (length_placeFrom _ _ _ _ _ _ _))
  · rw [placeFrom.eq_3 _ _ _ _ _ (fun more first second => pair ⟨first, more, second⟩)]
    apply Nat.le_succ_of_le
    by_cases breaks : isBreak (if c = '\r' ∨ c = '\u0085' then '\n' else c) = true
    · rw [if_pos breaks]
      exact Nat.le_of_eq (length_placeFrom _ _ _ _ _ _ _)
    · rw [if_neg breaks]
      exact Nat.le_of_eq (length_placeFrom _ _ _ _ _ _ _)

theorem length_placeFrom_suffix (front rest : List Char)
    (index line column index' line' column' : Nat) :
    (placeFrom index' line' column' rest).length ≤
      (placeFrom index line column (front ++ rest)).length := by
  induction front generalizing index line column with
  | nil => exact Nat.le_of_eq (length_placeFrom _ _ _ _ _ _ _)
  | cons c front ih =>
      refine Nat.le_trans (ih index line column) ?_
      exact length_placeFrom_tail c (front ++ rest) _ _ _ _ _ _

/-! ### What follows a line -/

/-- Whether a text is what may stand behind the line of a value: nothing, or a line that is
indented by `limit` columns at most and begins like a name. -/
inductive Follows (limit : Nat) : List Char → Prop
  | nothing : Follows limit []
  | line {indent : Nat} {c : Char} (more : List Char) (bounded : indent ≤ limit)
      (named : isNameChar c = true) : Follows limit (spaces indent ++ c :: more)

theorem isPlain_of_isNameChar {c : Char} (named : isNameChar c = true) : IsPlain c := by
  constructor
  · rintro rfl
    cases named
  · rintro rfl
    cases named

theorem isBreak_of_isNameChar {c : Char} (named : isNameChar c = true) : isBreak c = false := by
  apply Bool.eq_false_iff.mpr
  intro breaks
  simp only [isBreak, Bool.or_eq_true, beq_iff_eq] at breaks
  rcases breaks with (rfl | rfl) | rfl <;> cases named

theorem isSpaceOrTab_of_isNameChar {c : Char} (named : isNameChar c = true) :
    isSpaceOrTab c = false := by
  apply Bool.eq_false_iff.mpr
  intro blank
  simp only [isSpaceOrTab, Bool.or_eq_true, beq_iff_eq] at blank
  rcases blank with rfl | rfl <;> cases named

theorem placeFrom_spaces (count index line column : Nat) (rest : List Char) :
    ∃ blanks : List Spot,
      placeFrom index line column (spaces count ++ rest) =
          blanks ++ placeFrom (index + count) line (column + count) rest ∧
        ∀ spot ∈ blanks, spot.char = ' ' ∧ spot.column < column + count := by
  induction count generalizing index column with
  | zero => exact ⟨[], rfl, fun spot inside => absurd inside List.not_mem_nil⟩
  | succ count ih =>
      obtain ⟨blanks, placed, blank⟩ := ih (index + 1) (column + 1)
      refine ⟨⟨' ', index, line, column⟩ :: blanks, ?_, ?_⟩
      · change placeFrom index line column (' ' :: (spaces count ++ rest)) = _
        rw [placeFrom_space, placed, Nat.add_right_comm index, Nat.add_right_comm column]
        rfl
      · intro spot inside
        rcases List.mem_cons.mp inside with rfl | later
        · exact ⟨rfl, Nat.lt_add_of_pos_right (Nat.succ_pos count)⟩
        · obtain ⟨space, before⟩ := blank spot later
          exact ⟨space, by omega⟩

theorem dropBlanks_spaces {c : Char} (named : isNameChar c = true) (count index line : Nat)
    (more : List Char) :
    dropBlanks (placeFrom index line 0 (spaces count ++ c :: more)) =
      placeFrom (index + count) line count (c :: more) := by
  obtain ⟨blanks, placed, blank⟩ := placeFrom_spaces count index line 0 (c :: more)
  rw [Nat.zero_add] at placed
  have next := placeFrom_inLine (isPlain_of_isNameChar named) (isBreak_of_isNameChar named)
    (index + count) line count more
  rw [placed, dropBlanks, List.dropWhile_append_of_pos, next]
  · apply List.dropWhile_cons_of_neg
    rw [isSpaceOrTab_of_isNameChar named]
    exact Bool.false_ne_true
  · intro spot inside
    rw [(blank spot inside).1]
    rfl

theorem Follows.split {limit : Nat} {rest : List Char} (follows : Follows limit rest)
    (index line : Nat) :
    ∃ blanks next, placeFrom index line 0 rest = blanks ++ next ∧
      dropBlanks (placeFrom index line 0 rest) = next ∧
      (∀ spot ∈ blanks, spot.char = ' ' ∧ spot.column < limit) ∧
      (next = [] ∨ ∃ spot spots, next = spot :: spots ∧ isNameChar spot.char = true ∧
        spot.column ≤ limit) := by
  cases follows with
  | nothing =>
      exact ⟨[], [], rfl, rfl, fun spot inside => absurd inside List.not_mem_nil, Or.inl rfl⟩
  | @line indent c more bounded named =>
      obtain ⟨blanks, placed, blank⟩ := placeFrom_spaces indent index line 0 (c :: more)
      rw [Nat.zero_add] at placed blank
      have next := placeFrom_inLine (isPlain_of_isNameChar named) (isBreak_of_isNameChar named)
        (index + indent) line indent more
      refine ⟨blanks, _, placed, dropBlanks_spaces named indent index line more, ?_,
        Or.inr ⟨_, _, next, named, bounded⟩⟩
      intro spot inside
      exact ⟨(blank spot inside).1, Nat.lt_of_lt_of_le (blank spot inside).2 bounded⟩

/-! ### The way to the next token -/

theorem toNextToken_blanks (allowed : Bool) (blanks next : List Spot)
    (blank : ∀ spot ∈ blanks, spot.char = ' ') :
    toNextToken false false allowed (blanks ++ next) = toNextToken false false allowed next := by
  induction blanks with
  | nil => rfl
  | cons spot blanks ih =>
      have space := blank spot List.mem_cons_self
      rw [List.cons_append, toNextToken, space]
      exact ih fun other inside => blank other (List.mem_cons_of_mem _ inside)

def StopsScanner (c : Char) : Prop :=
  isBreak c = false ∧ isSpaceOrTab c = false ∧ c ≠ '#' ∧ c ≠ byteOrderMark

theorem stopsScanner_of_isNameChar {c : Char} (named : isNameChar c = true) : StopsScanner c := by
  refine ⟨isBreak_of_isNameChar named, isSpaceOrTab_of_isNameChar named, ?_, ?_⟩
  · rintro rfl
    cases named
  · rintro rfl
    cases named

theorem toNextToken_stop (spot : Spot) (stops : StopsScanner spot.char) (allowed : Bool)
    (rest : List Spot) :
    toNextToken false false allowed (spot :: rest) = (allowed, spot :: rest) := by
  obtain ⟨inLine, solid, noComment, noMark⟩ := stops
  have noSpace : spot.char ≠ ' ' := by
    intro space
    rw [space] at solid
    cases solid
  have noTab : spot.char ≠ '\t' := by
    intro tab
    rw [tab] at solid
    cases solid
  simp [toNextToken, inLine, noComment, noMark, noSpace, noTab]

theorem toNextToken_next {limit : Nat} {rest : List Char} (follows : Follows limit rest)
    (allowed : Bool) (index line : Nat) :
    toNextToken false false allowed (dropBlanks (placeFrom index line 0 rest)) =
      (allowed, dropBlanks (placeFrom index line 0 rest)) := by
  obtain ⟨blanks, next, _, dropped, _, ends | ⟨spot, spots, more, named, _⟩⟩ :=
    follows.split index line
  · rw [dropped, ends]
    rfl
  · rw [dropped, more]
    exact toNextToken_stop spot (stopsScanner_of_isNameChar named) allowed spots

theorem toNextToken_newline {limit : Nat} {rest : List Char} (follows : Follows limit rest)
    (allowed : Bool) (index line column : Nat) :
    toNextToken false false allowed (placeFrom index line column ('\n' :: rest)) =
      (true, dropBlanks (placeFrom (index + 1) (line + 1) 0 rest)) := by
  obtain ⟨blanks, next, placed, dropped, blank, _⟩ := follows.split (index + 1) (line + 1)
  rw [placeFrom_newline, toNextToken]
  change toNextToken false false (allowed || true) _ = _
  rw [Bool.or_true, ← toNextToken_next follows, dropped, placed]
  exact toNextToken_blanks true blanks next fun spot inside => (blank spot inside).1

theorem length_dropBlanks_le (spots : List Spot) : (dropBlanks spots).length ≤ spots.length :=
  (List.dropWhile_sublist _).length_le

end Yaml
end VirtualNpu
