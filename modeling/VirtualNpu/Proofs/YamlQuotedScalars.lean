import VirtualNpu.Proofs.YamlPlainScalars

/-!
Texts that are written in quotes.  Single quotes keep a text with the breaks that a line does not
end with; double quotes keep every text, in one line.
-/

namespace VirtualNpu
namespace Yaml

open Written (isPrintable isLineBreak hasPair spaces singleQuotedBody escaped hexDigits
  upperHexDigit)

/-! ### Steps inside quotes -/

section
variable {quote : Char} {text : List Char} {gap : Gap} {index line column : Nat}
  {tail : List Char}

theorem readQuoted_space (text : List Char) (gap : Gap) (index line column : Nat)
    (tail : List Char) :
    readQuoted quote .inside text gap (placeFrom index line column (' ' :: tail)) =
      readQuoted quote .inside text (gap.blank ' ')
        (placeFrom (index + 1) line (column + 1) tail) := by
  rw [placeFrom_space, readQuoted]
  rfl

theorem readQuoted_break {c : Char} (plain : IsPlain c) (breaks : isBreak c = true) :
    readQuoted quote .inside text gap (placeFrom index line column (c :: tail)) =
      readQuoted quote .inside text (gap.newLine c)
        (placeFrom (index + 1) (line + 1) 0 tail) := by
  have solid : isSpaceOrTab c = false := by
    apply Bool.eq_false_iff.mpr
    intro blank
    simp only [isSpaceOrTab, Bool.or_eq_true, beq_iff_eq] at blank
    rcases blank with rfl | rfl <;> cases breaks
  rw [placeFrom_break plain breaks, readQuoted, solid, breaks]
  rfl

theorem atMarker_inLine {spot : Spot} {rest : List Spot} (inside : 0 < spot.column) :
    atMarker (spot :: rest) = false := by
  have noStart : (spot.column == 0) = false := beq_eq_false_iff_ne.mpr (Nat.ne_of_gt inside)
  rw [atMarker, noStart, Bool.false_and]

theorem readQuoted_char {c : Char} (inLine : AreInLine [c]) (solid : c ≠ ' ') (unquoted : c ≠ quote)
    (bare : c = '\\' → quote = '\x27') (inside : 0 < column) :
    readQuoted quote .inside text gap (placeFrom index line column (c :: tail)) =
      readQuoted quote .inside (c :: (gap.folded ++ text)) .none
        (placeFrom (index + 1) line (column + 1) tail) := by
  obtain ⟨printable, unbroken⟩ := inLine.head
  have noBlank : isSpaceOrTab c = false := by
    rw [isSpaceOrTab_of_isPrintable printable]
    exact beq_eq_false_iff_ne.mpr solid
  have noEscape : ¬ (c = '\\' ∧ quote ≠ '\x27') :=
    fun ⟨backslash, double⟩ => double (bare backslash)
  rw [placeFrom_inLine (isPlain_of_isPrintable printable) unbroken, readQuoted, noBlank, unbroken,
    atMarker_inLine inside, if_neg unquoted, if_neg noEscape]
  rfl

end

theorem readQuoted_blanks {quote : Char} (text : List Char) (first : Option Char)
    (more : List Char) (blanks next : List Spot) (blank : ∀ spot ∈ blanks, spot.char = ' ') :
    readQuoted quote .inside text (.breaks first more) (blanks ++ next) =
      readQuoted quote .inside text (.breaks first more) next := by
  induction blanks with
  | nil => rfl
  | cons spot blanks ih =>
      have space := blank spot List.mem_cons_self
      rw [List.cons_append, readQuoted, space]
      exact ih fun other inside => blank other (List.mem_cons_of_mem _ inside)

/-! ### Single quotes -/

theorem folded_breaks {first : Char} (kept : first ≠ '\n') (more : List Char) :
    (Gap.breaks (some first) more).folded = more ++ [first] := by
  unfold Gap.folded
  split
  · rename_i same
    cases same
  · rename_i same
    cases same
  · rename_i same
    cases same
    exact absurd rfl kept
  · rename_i same
    cases same
    exact absurd rfl kept
  · rename_i same
    cases same
    rfl
  · rename_i same
    cases same

/-- The gap behind the character `before`, and whether it lies at the start of a line. -/
inductive GapBehind (before : Char) : Bool → Gap → Prop
  | solid (unbroken : isLineBreak before = false) (solid : before ≠ ' ') :
      GapBehind before false .none
  | space (blanks : List Char) (space : before = ' ') : GapBehind before false (.blanks blanks)
  | break {first : Char} (more : List Char) (broken : isLineBreak before = true)
      (kept : first ≠ '\n') : GapBehind before true (.breaks (some first) more)

theorem gapBehind_break {before c : Char} {afterBreak : Bool} {gap : Gap}
    (behind : GapBehind before afterBreak gap) (noSpace : before ≠ ' ')
    (breaks : isLineBreak c = true) (kept : c ≠ '\n') :
    GapBehind c true (gap.newLine c) ∧ (gap.newLine c).folded = c :: gap.folded := by
  cases behind with
  | solid unbroken solid =>
      exact ⟨.break [] breaks kept, folded_breaks kept []⟩
  | space blanks space => exact absurd space noSpace
  | @«break» first more broken kept' =>
      refine ⟨.break (c :: more) breaks kept', ?_⟩
      rw [Gap.newLine, folded_breaks kept', folded_breaks kept']
      rfl

theorem gapBehind_space {before : Char} {gap : Gap} (behind : GapBehind before false gap) :
    GapBehind ' ' false (gap.blank ' ') ∧ (gap.blank ' ').folded = ' ' :: gap.folded := by
  cases behind with
  | solid unbroken solid => exact ⟨.space [' '] rfl, rfl⟩
  | space blanks space => exact ⟨.space (' ' :: blanks) rfl, rfl⟩

/-- The indentation of a line inside quotes does not count. -/
theorem readQuoted_lineStart {quote before : Char} {afterBreak : Bool} {gap : Gap}
    (behind : GapBehind before afterBreak gap) (text : List Char) {indent : Nat}
    (indented : 0 < indent) (index line column : Nat) (inside : afterBreak = false → 0 < column)
    (tail : List Char) :
    ∃ index' column', 0 < column' ∧
      readQuoted quote .inside text gap
          (placeFrom index line column ((if afterBreak then spaces indent else []) ++ tail)) =
        readQuoted quote .inside text gap (placeFrom index' line column' tail) := by
  cases behind with
  | solid | space => exact ⟨index, column, inside rfl, rfl⟩
  | «break» more =>
      obtain ⟨blanks, placed, blank⟩ := placeFrom_spaces indent index line column tail
      refine ⟨index + indent, column + indent, Nat.add_pos_right column indented, ?_⟩
      rw [if_pos rfl, placed]
      exact readQuoted_blanks text _ more blanks _ fun spot inside => (blank spot inside).1

structure SuitsQuotes (before : Char) (cs : List Char) : Prop where
  printable : ∀ c ∈ cs, isPrintable c = true
  noNewline : '\n' ∉ cs
  noSpaceBreak : hasPair (· == ' ') isLineBreak (before :: cs) = false
  noBreakSpace : hasPair isLineBreak (· == ' ') (before :: cs) = false

theorem SuitsQuotes.tail {before c : Char} {cs : List Char} (suits : SuitsQuotes before (c :: cs)) :
    SuitsQuotes c cs where
  printable := fun other inside => suits.printable other (List.mem_cons_of_mem _ inside)
  noNewline := fun inside => suits.noNewline (List.mem_cons_of_mem _ inside)
  noSpaceBreak := (Bool.or_eq_false_iff.mp suits.noSpaceBreak).2
  noBreakSpace := (Bool.or_eq_false_iff.mp suits.noBreakSpace).2

theorem SuitsQuotes.ne_newline {before c : Char} {cs : List Char}
    (suits : SuitsQuotes before (c :: cs)) : c ≠ '\n' := by
  rintro rfl
  exact suits.noNewline List.mem_cons_self

theorem SuitsQuotes.ne_space {before c : Char} {cs : List Char}
    (suits : SuitsQuotes before (c :: cs)) (breaks : isLineBreak c = true) : before ≠ ' ' := by
  rintro rfl
  have pair := (Bool.or_eq_false_iff.mp suits.noSpaceBreak).1
  rw [breaks] at pair
  cases pair

theorem SuitsQuotes.inWord {before : Char} {afterBreak : Bool} {gap : Gap} {cs : List Char}
    (suits : SuitsQuotes before (' ' :: cs)) (behind : GapBehind before afterBreak gap) :
    afterBreak = false := by
  cases behind with
  | solid | space => rfl
  | «break» more broken =>
      have pair := (Bool.or_eq_false_iff.mp suits.noBreakSpace).1
      rw [broken] at pair
      cases pair

theorem singleQuotedBody_break (indent : Nat) (afterBreak : Bool) {c : Char} (cs : List Char)
    (breaks : isLineBreak c = true) (kept : c ≠ '\n') :
    singleQuotedBody indent afterBreak (c :: cs) = c :: singleQuotedBody indent true cs := by
  have noFeed : (c == '\n') = false := beq_eq_false_iff_ne.mpr kept
  rw [singleQuotedBody, if_pos breaks, noFeed]
  rfl

def quotedChar (c : Char) : List Char := if c == '\x27' then ['\x27', '\x27'] else [c]

theorem singleQuotedBody_char (indent : Nat) (afterBreak : Bool) {c : Char} (cs : List Char)
    (unbroken : isLineBreak c = false) (solid : c ≠ ' ') :
    singleQuotedBody indent afterBreak (c :: cs) =
      (if afterBreak then spaces indent else []) ++ quotedChar c ++
        singleQuotedBody indent false cs := by
  have noSpace : (c == ' ') = false := beq_eq_false_iff_ne.mpr solid
  rw [singleQuotedBody, unbroken, noSpace]
  rfl

theorem readQuoted_quotedChar {c : Char} (inLine : AreInLine [c]) (solid : c ≠ ' ')
    (text : List Char) (gap : Gap) {column : Nat} (inside : 0 < column) (index line : Nat)
    (tail : List Char) :
    ∃ index' column', 0 < column' ∧
      readQuoted '\x27' .inside text gap (placeFrom index line column (quotedChar c ++ tail)) =
        readQuoted '\x27' .inside (c :: (gap.folded ++ text)) .none
          (placeFrom index' line column' tail) := by
  by_cases quote : c = '\x27'
  · subst quote
    refine ⟨index + 2, column + 2, Nat.succ_pos _, ?_⟩
    change readQuoted '\x27' .inside text gap
      (placeFrom index line column ('\x27' :: '\x27' :: tail)) = _
    rw [placeFrom_inLine (by decide) rfl, readQuoted, atMarker_inLine inside,
      placeFrom_inLine (by decide) rfl]
    rfl
  · have noQuote : (c == '\x27') = false := beq_eq_false_iff_ne.mpr quote
    refine ⟨index + 1, column + 1, Nat.succ_pos _, ?_⟩
    rw [quotedChar, noQuote]
    exact readQuoted_char inLine solid quote (fun _ => rfl) inside

theorem readQuoted_single {before : Char} {afterBreak : Bool} {gap : Gap} {cs : List Char}
    (behind : GapBehind before afterBreak gap) (text : List Char) {indent : Nat}
    (indented : 0 < indent) (suits : SuitsQuotes before cs) (index line column : Nat)
    (inside : afterBreak = false → 0 < column) (rest : List Char) :
    ∃ index' line' column',
      readQuoted '\x27' .inside text gap
          (placeFrom index line column
            (singleQuotedBody indent afterBreak cs ++ '\x27' :: '\n' :: rest)) =
        some (String.ofList ((gap.folded ++ text).reverse ++ cs),
          placeFrom index' line' column' ('\n' :: rest)) := by
  induction cs generalizing before afterBreak gap text index line column with
  | nil =>
      obtain ⟨index', column', inside', start⟩ := readQuoted_lineStart behind text indented index
        line column inside ('\x27' :: '\n' :: rest)
      refine ⟨index' + 1, line, column' + 1, ?_⟩
      rw [singleQuotedBody, start, placeFrom_inLine (by decide) rfl, readQuoted,
        atMarker_inLine inside']
      change readQuoted '\x27' .afterQuote _ _ _ = _
      rw [placeFrom_newline, readQuoted, List.append_nil]
      rfl
  | cons c cs ih =>
      have plain := isPlain_of_isPrintable (suits.printable c List.mem_cons_self)
      have goesOn (gap' : Gap) (text' : List Char)
          (same : gap'.folded ++ text' = c :: (gap.folded ++ text)) :
          (gap'.folded ++ text').reverse ++ cs = (gap.folded ++ text).reverse ++ c :: cs := by
        rw [same, List.reverse_cons, List.append_assoc, List.singleton_append]
      by_cases breaks : isLineBreak c = true
      · obtain ⟨behind', folded⟩ :=
          gapBehind_break behind (suits.ne_space breaks) breaks suits.ne_newline
        rw [singleQuotedBody_break indent afterBreak cs breaks suits.ne_newline, List.cons_append,
          readQuoted_break plain ((isLineBreak_eq_isBreak plain).symm.trans breaks),
          ← goesOn (gap.newLine c) text (by rw [folded]; rfl)]
        exact ih behind' text suits.tail _ _ _ (fun start => Bool.noConfusion start)
      · rw [Bool.not_eq_true] at breaks
        by_cases space : c = ' '
        · subst space
          have inWord := suits.inWord behind
          subst inWord
          obtain ⟨behind', folded⟩ := gapBehind_space behind
          change ∃ _ _ _, readQuoted '\x27' .inside text gap (placeFrom index line column
            (' ' :: (singleQuotedBody indent false cs ++ '\x27' :: '\n' :: rest))) = _
          rw [readQuoted_space, ← goesOn (gap.blank ' ') text (by rw [folded]; rfl)]
          exact ih behind' text suits.tail _ _ _ (fun _ => Nat.succ_pos column)
        · have inLine := areInLine_singleton (suits.printable c List.mem_cons_self) breaks
          obtain ⟨index', column', started, start⟩ := readQuoted_lineStart behind text indented
            index line column inside
              (quotedChar c ++ (singleQuotedBody indent false cs ++ '\x27' :: '\n' :: rest))
          obtain ⟨index'', column'', further, read⟩ := readQuoted_quotedChar inLine space text gap
            started index' line (singleQuotedBody indent false cs ++ '\x27' :: '\n' :: rest)
          rw [singleQuotedBody_char indent afterBreak cs breaks space, List.append_assoc,
            List.append_assoc, start, read, ← goesOn .none (c :: (gap.folded ++ text)) rfl]
          exact ih (.solid breaks space) _ suits.tail _ _ _ (fun _ => further)

/-! ### Double quotes -/

theorem digit?_upperHexDigit (n : Nat) :
    Text.digit? 16 (upperHexDigit n) = some (n % 16) ∧ IsPlain (upperHexDigit n) ∧
      isBreak (upperHexDigit n) = false := by
  have each : ∀ d : Fin 16, Text.digit? 16 (Nat.digitChar d).toUpper = some d.val ∧
      IsPlain (Nat.digitChar d).toUpper ∧ isBreak (Nat.digitChar d).toUpper = false := by
    decide
  exact each ⟨n % 16, Nat.mod_lt n (by decide)⟩

def hexRange : (width : Nat) → Nat
  | 0 => 1
  | width + 1 => hexRange width * 16

theorem hexDigits_succ (width n : Nat) :
    hexDigits (width + 1) n = upperHexDigit (n / hexRange width) :: hexDigits width n := by
  induction width generalizing n with
  | zero => simp [hexDigits, hexRange]
  | succ width ih =>
      rw [hexDigits, ih (n / 16), Nat.div_div_eq_div_mul, Nat.mul_comm]
      rfl

theorem charOfCode?_toNat (c : Char) : charOfCode? c.toNat = some c := by
  have valid : c.toNat.isValidChar := c.valid
  rw [charOfCode?, if_pos valid, Char.ofNat_toNat]

inductive Spelling (c : Char) : List Char → Prop
  | bare (inLine : AreInLine [c]) (unquoted : c ≠ '\x22') (solid : c ≠ '\\') : Spelling c [c]
  | named (letter : Char) (stands : escape? letter = some (.char c)) (plain : IsPlain letter)
      (unbroken : isBreak letter = false) : Spelling c ['\\', letter]
  | numbered (letter : Char) (width : Nat)
      (announces : escape? letter = some (.digits (width + 1))) (plain : IsPlain letter)
      (unbroken : isBreak letter = false) (fits : c.toNat < hexRange (width + 1)) :
      Spelling c ('\\' :: letter :: hexDigits (width + 1) c.toNat)

theorem Spelling.of_code {c : Char} {code : Nat} (known : c.toNat = code) (other letter : Char)
    (same : other.toNat = code) (stands : escape? letter = some (.char other))
    (plain : IsPlain letter) (unbroken : isBreak letter = false) :
    Spelling c ['\\', letter] := by
  have equal : c = other := Char.toNat_inj.mp (known.trans same.symm)
  subst equal
  exact .named letter stands plain unbroken

theorem Spelling.ite {c : Char} {p : Prop} [Decidable p] {first second : List Char}
    (met : p → Spelling c first) (unmet : ¬ p → Spelling c second) :
    Spelling c (if p then first else second) := by
  by_cases known : p
  · rw [if_pos known]
    exact met known
  · rw [if_neg known]
    exact unmet known

theorem spelling_escaped (c : Char) : Spelling c (escaped c) := by
  refine .ite (fun quote => ?_) fun unquoted => .ite (fun backslash => ?_) fun solid =>
    .ite (fun bare => ?_) fun special => ?_
  · subst quote
    exact .named '\x22' rfl (by decide) rfl
  · subst backslash
    exact .named '\\' rfl (by decide) rfl
  · obtain ⟨printable, unbroken⟩ := Bool.and_eq_true_iff.mp bare
    exact .bare (areInLine_singleton printable ((Bool.not_eq_true' _).mp unbroken)) unquoted solid
  refine .ite (fun known => .of_code known '\x00' '0' rfl rfl (by decide) rfl) fun _ => ?_
  refine .ite (fun known => .of_code known '\x07' 'a' rfl rfl (by decide) rfl) fun _ => ?_
  refine .ite (fun known => .of_code known '\x08' 'b' rfl rfl (by decide) rfl) fun _ => ?_
  refine .ite (fun known => .of_code known '\t' 't' rfl rfl (by decide) rfl) fun _ => ?_
  refine .ite (fun known => .of_code known '\n' 'n' rfl rfl (by decide) rfl) fun _ => ?_
  refine .ite (fun known => .of_code known '\x0b' 'v' rfl rfl (by decide) rfl) fun _ => ?_
  refine .ite (fun known => .of_code known '\x0c' 'f' rfl rfl (by decide) rfl) fun _ => ?_
  refine .ite (fun known => .of_code known '\r' 'r' rfl rfl (by decide) rfl) fun _ => ?_
  refine .ite (fun known => .of_code known '\x1b' 'e' rfl rfl (by decide) rfl) fun _ => ?_
  refine .ite (fun known => .of_code known '\u0085' 'N' rfl rfl (by decide) rfl) fun _ => ?_
  refine .ite (fun known => .of_code known '\u2028' 'L' rfl rfl (by decide) rfl) fun _ => ?_
  refine .ite (fun known => .of_code known '\u2029' 'P' rfl rfl (by decide) rfl) fun _ => ?_
  refine .ite (fun short => .numbered 'x' 1 rfl (by decide) rfl (Nat.lt_succ_of_le short))
    fun _ => .numbered 'u' 3 rfl (by decide) rfl (Nat.lt_of_not_le fun large => special ?_)
  -- the characters beyond four digits are all written as they are
  have printable : isPrintable c = true := by
    have beyond : 0x10000 ≤ c.toNat := large
    simp only [isPrintable, decide_eq_true beyond, Bool.or_true]
  have unbroken : isLineBreak c = false := by
    rw [isLineBreak_eq_isBreak (isPlain_of_isPrintable printable)]
    apply Bool.eq_false_iff.mpr
    intro breaks
    simp only [isBreak, Bool.or_eq_true, beq_iff_eq] at breaks
    rcases breaks with (rfl | rfl) | rfl
    · exact absurd large (by decide)
    · exact absurd large (by decide)
    · exact absurd large (by decide)
  rw [printable, unbroken]
  rfl

section
variable {index line column : Nat} {tail : List Char}

/-- The digits of a code are read one by one up to the last, which makes it a character. -/
theorem readQuoted_hexDigits {quote : Char} (text : List Char) (width : Nat) {code n : Nat}
    {c : Char} (made : code * hexRange (width + 1) + n % hexRange (width + 1) = c.toNat) :
    readQuoted quote (.inCode (width + 1) code) text .none
        (placeFrom index line column (hexDigits (width + 1) n ++ tail)) =
      readQuoted quote .inside (c :: text) .none
        (placeFrom (index + (width + 1)) line (column + (width + 1)) tail) := by
  induction width generalizing code index column with
  | zero =>
      obtain ⟨digit, plain, unbroken⟩ := digit?_upperHexDigit (n / hexRange 0)
      rw [hexDigits_succ, List.cons_append, placeFrom_inLine plain unbroken, readQuoted, digit]
      have last : charOfCode? (code * 16 + n / hexRange 0 % 16) = some c := by
        have digits : code * 16 + n % 16 = c.toNat := made
        change charOfCode? (code * 16 + n / 1 % 16) = some c
        rw [Nat.div_one, digits, charOfCode?_toNat]
      simp only [Nat.zero_add, Nat.lt_irrefl, if_false, last]
      rfl
  | succ width ih =>
      obtain ⟨digit, plain, unbroken⟩ := digit?_upperHexDigit (n / hexRange (width + 1))
      rw [hexDigits_succ, List.cons_append, placeFrom_inLine plain unbroken, readQuoted, digit]
      have more : 1 < width + 1 + 1 := by omega
      dsimp only
      rw [if_pos more, Nat.add_sub_cancel, ih, Nat.add_right_comm index, Nat.add_right_comm column]
      · rfl
      · rw [← made]
        change _ = code * (hexRange (width + 1) * 16) + n % (hexRange (width + 1) * 16)
        rw [Nat.mod_mul, Nat.add_mul, Nat.mul_assoc, Nat.mul_comm 16, Nat.mul_comm (n / _ % 16),
          Nat.add_assoc, Nat.add_comm (_ * (n / _ % 16))]

theorem readQuoted_backslash (text : List Char) {gap : Gap} (inside : 0 < column) :
    readQuoted '\x22' .inside text gap (placeFrom index line column ('\\' :: tail)) =
      readQuoted '\x22' .afterBackslash (gap.folded ++ text) .none
        (placeFrom (index + 1) line (column + 1) tail) := by
  rw [placeFrom_inLine (by decide) rfl, readQuoted, atMarker_inLine inside]
  rfl

theorem readQuoted_named {letter c : Char} (text : List Char) {gap : Gap}
    (named : escape? letter = some (.char c)) (plain : IsPlain letter)
    (unbroken : isBreak letter = false) (inside : 0 < column) :
    readQuoted '\x22' .inside text gap (placeFrom index line column ('\\' :: letter :: tail)) =
      readQuoted '\x22' .inside (c :: (gap.folded ++ text)) .none
        (placeFrom (index + 2) line (column + 2) tail) := by
  rw [readQuoted_backslash text inside, placeFrom_inLine plain unbroken, readQuoted, unbroken,
    named]
  rfl

theorem readQuoted_numbered {letter c : Char} (text : List Char) {gap : Gap} (width : Nat)
    (announces : escape? letter = some (.digits (width + 1))) (plain : IsPlain letter)
    (unbroken : isBreak letter = false) (inside : 0 < column)
    (fits : c.toNat < hexRange (width + 1)) :
    readQuoted '\x22' .inside text gap
        (placeFrom index line column ('\\' :: letter :: (hexDigits (width + 1) c.toNat ++ tail))) =
      readQuoted '\x22' .inside (c :: (gap.folded ++ text)) .none
        (placeFrom (index + 2 + (width + 1)) line (column + 2 + (width + 1)) tail) := by
  rw [readQuoted_backslash text inside, placeFrom_inLine plain unbroken, readQuoted, unbroken,
    announces]
  apply readQuoted_hexDigits
  rw [Nat.zero_mul, Nat.zero_add, Nat.mod_eq_of_lt fits]

/-- What is written for a character is read as that character. -/
theorem readQuoted_escaped (c : Char) (text : List Char) {gap : Gap}
    (single : gap.spansLines = false) (inside : 0 < column) (index line : Nat)
    (tail : List Char) :
    ∃ index' column' gap' text', 0 < column' ∧ gap'.spansLines = false ∧
      gap'.folded ++ text' = c :: (gap.folded ++ text) ∧
      readQuoted '\x22' .inside text gap (placeFrom index line column (escaped c ++ tail)) =
        readQuoted '\x22' .inside text' gap' (placeFrom index' line column' tail) := by
  have spelling := spelling_escaped c
  generalize escaped c = written at spelling ⊢
  cases spelling with
  | bare inLine unquoted solid =>
      by_cases space : c = ' '
      · subst space
        obtain ⟨single', folded⟩ := blank_inLine single ' '
        refine ⟨index + 1, column + 1, gap.blank ' ', text, Nat.succ_pos _, single', ?_, ?_⟩
        · rw [folded]
          rfl
        · exact readQuoted_space text gap index line column tail
      · exact ⟨_, column + 1, .none, _, Nat.succ_pos _, rfl, rfl,
          readQuoted_char inLine space unquoted (fun same => absurd same solid) inside⟩
  | named letter stands plain unbroken =>
      exact ⟨_, column + 2, .none, _, Nat.succ_pos _, rfl, rfl,
        readQuoted_named text stands plain unbroken inside⟩
  | numbered letter width announces plain unbroken fits =>
      exact ⟨_, _, .none, _, Nat.succ_pos _, rfl, rfl,
        readQuoted_numbered text width announces plain unbroken inside fits⟩

theorem readQuoted_double (cs : List Char) (text : List Char) {gap : Gap}
    (single : gap.spansLines = false) (inside : 0 < column) (rest : List Char) :
    ∃ index' column',
      readQuoted '\x22' .inside text gap
          (placeFrom index line column (cs.flatMap escaped ++ '\x22' :: '\n' :: rest)) =
        some (String.ofList ((gap.folded ++ text).reverse ++ cs),
          placeFrom index' line column' ('\n' :: rest)) := by
  induction cs generalizing text gap index column with
  | nil =>
      refine ⟨index + 1, column + 1, ?_⟩
      rw [List.flatMap_nil, List.nil_append, placeFrom_inLine (by decide) rfl, readQuoted,
        atMarker_inLine inside, List.append_nil]
      rfl
  | cons c cs ih =>
      obtain ⟨index', column', gap', text', inside', single', folded, read⟩ :=
        readQuoted_escaped c text single inside index line
          (cs.flatMap escaped ++ '\x22' :: '\n' :: rest)
      rw [List.flatMap_cons, List.append_assoc, read]
      have goesOn : (gap.folded ++ text).reverse ++ c :: cs =
          (gap'.folded ++ text').reverse ++ cs := by
        rw [folded, List.reverse_cons, List.append_assoc, List.singleton_append]
      rw [goesOn]
      exact ih text' single' inside'

end

end Yaml
end VirtualNpu
