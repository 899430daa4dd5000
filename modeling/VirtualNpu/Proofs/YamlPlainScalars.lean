import VirtualNpu.Proofs.YamlLines

/-!
Texts that are written as plain scalars: they read back as they are, up to the end of the line.
-/

namespace VirtualNpu
namespace Yaml

open Written (isPrintable isLineBreak isSeparator holdsIndicator)

/-! ### Printable characters -/

theorem isPlain_of_isPrintable {c : Char} (printable : isPrintable c = true) : IsPlain c := by
  constructor
  · rintro rfl
    cases printable
  · rintro rfl
    cases printable

theorem ne_tab_of_isPrintable {c : Char} (printable : isPrintable c = true) : c ≠ '\t' := by
  rintro rfl
  cases printable

theorem ne_byteOrderMark_of_isPrintable {c : Char} (printable : isPrintable c = true) :
    c ≠ byteOrderMark := by
  rintro rfl
  cases printable

theorem isLineBreak_eq_isBreak {c : Char} (plain : IsPlain c) : isLineBreak c = isBreak c := by
  have noReturn : (c == '\r') = false := beq_eq_false_iff_ne.mpr plain.1
  have noNextLine : (c == '\u0085') = false := beq_eq_false_iff_ne.mpr plain.2
  rw [isLineBreak, isBreak, noReturn, noNextLine, Bool.or_false, Bool.or_false]

theorem isSpaceOrTab_of_isPrintable {c : Char} (printable : isPrintable c = true) :
    isSpaceOrTab c = (c == ' ') := by
  have noTab : (c == '\t') = false := beq_eq_false_iff_ne.mpr (ne_tab_of_isPrintable printable)
  rw [isSpaceOrTab, noTab, Bool.or_false]

def AreInLine (cs : List Char) : Prop :=
  ∀ c ∈ cs, isPrintable c = true ∧ isLineBreak c = false

theorem AreInLine.head {c : Char} {cs : List Char} (inLine : AreInLine (c :: cs)) :
    isPrintable c = true ∧ isBreak c = false := by
  obtain ⟨printable, unbroken⟩ := inLine c List.mem_cons_self
  rw [isLineBreak_eq_isBreak (isPlain_of_isPrintable printable)] at unbroken
  exact ⟨printable, unbroken⟩

theorem AreInLine.tail {c : Char} {cs : List Char} (inLine : AreInLine (c :: cs)) :
    AreInLine cs :=
  fun other inside => inLine other (List.mem_cons_of_mem _ inside)

theorem areInLine_singleton {c : Char} (printable : isPrintable c = true)
    (unbroken : isLineBreak c = false) : AreInLine [c] := by
  intro other same
  rw [List.mem_singleton.mp same]
  exact ⟨printable, unbroken⟩

/-- Behind a character of a line, a word ends where the line has a separator or its own end. -/
theorem endsWord_placeFrom {d : Char} {cs tail : List Char} (inLine : AreInLine (d :: cs))
    (joined : isSeparator d = false) (index line column : Nat) :
    endsWord (placeFrom index line column (d :: cs ++ tail)) = false := by
  obtain ⟨printable, unbroken⟩ := inLine.head
  rw [List.cons_append, placeFrom_inLine (isPlain_of_isPrintable printable) unbroken]
  have noSpace : (d == ' ') = false := by
    simp only [isSeparator, Bool.or_eq_false_iff] at joined
    exact joined.1.1.1
  simp only [endsWord, isSpaceOrTab_of_isPrintable printable, noSpace, unbroken, Bool.or_false]

/-! ### Within a line -/

theorem readPlain_char {indent : Int} {text : List Char} {gap : Gap} {spot : Spot}
    {rest : List Spot} (solid : isSpaceOrTab spot.char = false)
    (unbroken : isBreak spot.char = false)
    (goesOn : gap = .none ∨ endsPlainGap false indent (spot :: rest) = false)
    (joined : spot.char = ':' → endsWord rest = false) :
    readPlain false indent text gap (spot :: rest) =
      readPlain false indent (spot.char :: (gap.folded ++ text)) .none rest := by
  have noGapEnd : ¬ (gap ≠ .none ∧ endsPlainGap false indent (spot :: rest) = true) := by
    rintro ⟨gapped, ends⟩
    rcases goesOn with none | more
    · exact gapped none
    · rw [ends] at more
      cases more
  have noWordEnd : endsPlainWord false (spot :: rest) = false := by
    simp only [endsPlainWord, startsWith, List.drop_one, List.tail_cons, Bool.false_and,
      Bool.or_false, Bool.and_eq_false_iff]
    by_cases colon : spot.char = ':'
    · exact Or.inr (joined colon)
    · exact Or.inl (beq_eq_false_iff_ne.mpr colon)
  rw [readPlain, solid, unbroken, if_neg noGapEnd, noWordEnd]
  rfl

theorem blank_inLine {gap : Gap} (single : gap.spansLines = false) (c : Char) :
    (gap.blank c).spansLines = false ∧ (gap.blank c).folded = c :: gap.folded := by
  cases gap with
  | none | blanks => exact ⟨rfl, rfl⟩
  | breaks => cases single

theorem endsPlainGap_inLine {indent : Int} {spot : Spot} {rest : List Spot}
    (inside : 0 < spot.column) (deep : indent ≤ spot.column) (noComment : spot.char ≠ '#') :
    endsPlainGap false indent (spot :: rest) = false := by
  have within : ¬ (spot.column : Int) < indent := Int.not_lt.mpr deep
  have noStart : (spot.column == 0) = false := beq_eq_false_iff_ne.mpr (Nat.ne_of_gt inside)
  simp [endsPlainGap, atMarker, within, noStart, noComment]

theorem readPlain_append {indent : Int} {cs : List Char} (tail : List Char) (before : Char)
    (text : List Char) (gap : Gap) (index line column : Nat) (inLine : AreInLine cs)
    (free : holdsIndicator before cs = false) (ends : cs.getLast? ≠ some ' ')
    (gapless : cs = [] → gap = .none) (single : gap.spansLines = false)
    (spaced : gap ≠ .none → isSeparator before = true ∧ 0 < column ∧ indent ≤ column)
    (deep : indent ≤ column + 1) :
    readPlain false indent text gap (placeFrom index line column (cs ++ tail)) =
      readPlain false indent (cs.reverse ++ (gap.folded ++ text)) .none
        (placeFrom (index + cs.length) line (column + cs.length) tail) := by
  induction cs generalizing before text gap index column with
  | nil =>
      rw [gapless rfl]
      rfl
  | cons c cs ih =>
      obtain ⟨printable, unbroken⟩ := inLine.head
      obtain ⟨⟨colon, comment⟩, later⟩ :
          ((c == ':' && cs.head?.all isSeparator) = false ∧
            (c == '#' && isSeparator before) = false) ∧ holdsIndicator c cs = false := by
        simpa only [holdsIndicator, Bool.or_eq_false_iff] using free
      have lastly : cs.getLast? ≠ some ' ' := by
        intro space
        apply ends
        rw [List.getLast?_cons, space]
        rfl
      have onward : ∀ (gap' : Gap) text', gap'.folded ++ text' = c :: (gap.folded ++ text) →
          readPlain false indent (cs.reverse ++ (gap'.folded ++ text')) .none
              (placeFrom (index + 1 + cs.length) line (column + 1 + cs.length) tail) =
            readPlain false indent ((c :: cs).reverse ++ (gap.folded ++ text)) .none
              (placeFrom (index + (c :: cs).length) line (column + (c :: cs).length) tail) := by
        intro gap' text' same
        rw [same, List.reverse_cons, List.append_assoc, List.singleton_append, List.length_cons,
          Nat.add_comm cs.length 1, Nat.add_assoc, Nat.add_assoc]
      rw [List.cons_append, placeFrom_inLine (isPlain_of_isPrintable printable) unbroken]
      by_cases space : c = ' '
      · subst space
        obtain ⟨single', folded⟩ := blank_inLine single ' '
        have blank : readPlain false indent text gap
            (⟨' ', index, line, column⟩ ::
              placeFrom (index + 1) line (column + 1) (cs ++ tail)) =
            readPlain false indent text (gap.blank ' ')
              (placeFrom (index + 1) line (column + 1) (cs ++ tail)) := by
          rw [readPlain, single]
          rfl
        rw [blank, ih ' ' text (gap.blank ' ') (index + 1) (column + 1) inLine.tail later lastly
          (fun none => absurd (congrArg (fun cs => (' ' :: cs).getLast?) none) ends) single'
          (fun _ => ⟨rfl, Nat.succ_pos column, deep⟩) (Int.le_add_one (by exact_mod_cast deep))]
        apply onward
        rw [folded]
        rfl
      · have solid : isSpaceOrTab c = false := by
          rw [isSpaceOrTab_of_isPrintable printable]
          exact beq_eq_false_iff_ne.mpr space
        rw [readPlain_char solid unbroken,
          ih c (c :: (gap.folded ++ text)) .none (index + 1) (column + 1) inLine.tail later lastly
            (fun _ => rfl) rfl (fun gapped => absurd rfl gapped)
            (Int.le_add_one (by exact_mod_cast deep))]
        · exact onward .none _ rfl
        · by_cases none : gap = .none
          · exact Or.inl none
          · obtain ⟨separator, inside, indented⟩ := spaced none
            rw [separator, Bool.and_true] at comment
            exact Or.inr (endsPlainGap_inLine inside indented (beq_eq_false_iff_ne.mp comment))
        · intro same
          change c = ':' at same
          have goesOn : cs.head?.all isSeparator = false := by
            simpa only [same, beq_self_eq_true, Bool.true_and] using colon
          cases cs with
          | nil => cases goesOn
          | cons d cs => exact endsWord_placeFrom inLine.tail goesOn _ _ _

/-! ### Where a plain scalar ends -/

theorem readPlain_blanks {indent : Int} (text : List Char) (first : Option Char)
    (more : List Char) (blanks next : List Spot) (blank : ∀ spot ∈ blanks, spot.char = ' ') :
    readPlain false indent text (.breaks first more) (blanks ++ next) =
      readPlain false indent text (.breaks first more) next := by
  induction blanks with
  | nil => rfl
  | cons spot blanks ih =>
      have space := blank spot List.mem_cons_self
      have noTab : ((Gap.breaks first more).spansLines && decide ((spot.column : Int) < indent) &&
          ' ' == '\t') = false := Bool.and_false _
      rw [List.cons_append, readPlain, space, noTab]
      exact ih fun other inside => blank other (List.mem_cons_of_mem _ inside)

/-- A plain scalar ends with its line if the next is not indented deeper than the mapping. -/
theorem readPlain_newline {limit : Nat} {indent : Int} {rest : List Char}
    (follows : Follows limit rest) (shallow : (limit : Int) < indent) (text : List Char)
    (index line column : Nat) :
    readPlain false indent text .none (placeFrom index line column ('\n' :: rest)) =
      some (String.ofList text.reverse, true,
        dropBlanks (placeFrom (index + 1) (line + 1) 0 rest)) := by
  obtain ⟨blanks, next, placed, dropped, blank, ended⟩ := follows.split (index + 1) (line + 1)
  have broken : readPlain false indent text .none (placeFrom index line column ('\n' :: rest)) =
      readPlain false indent text (.breaks (some '\n') []) (blanks ++ next) := by
    rw [placeFrom_newline, placed, readPlain]
    rfl
  rw [broken, dropped, readPlain_blanks text _ _ blanks next fun spot inside =>
    (blank spot inside).1]
  rcases ended with rfl | ⟨spot, spots, rfl, named, bounded⟩
  · rfl
  · have outside : endsPlainGap false indent (spot :: spots) = true := by
      have before : (spot.column : Int) < indent := by omega
      simp only [endsPlainGap, before, decide_true, Bool.not_false, Bool.true_and, Bool.true_or]
    have ends : Gap.breaks (some '\n') [] ≠ .none ∧
        endsPlainGap false indent (spot :: spots) = true :=
      ⟨fun none => Gap.noConfusion none, outside⟩
    rw [readPlain, isSpaceOrTab_of_isNameChar named, isBreak_of_isNameChar named, if_pos ends]
    rfl

theorem readPlain_colon {indent : Int} (text : List Char) {spot : Spot} {rest : List Spot}
    (colon : spot.char = ':') (ends : endsWord rest = true) :
    readPlain false indent text .none (spot :: rest) =
      some (String.ofList text.reverse, false, spot :: rest) := by
  have wordEnd : endsPlainWord false (spot :: rest) = true := by
    simp only [endsPlainWord, startsWith, colon, List.drop_one, List.tail_cons, ends,
      beq_self_eq_true, Bool.and_self, Bool.true_or]
  rw [readPlain, colon, wordEnd]
  rfl

end Yaml
end VirtualNpu
