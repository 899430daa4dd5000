import VirtualNpu.Proofs.YamlPlainScalars

/-!
Texts that are written as literal lines.  The reader takes line after line; what it makes of the
breaks at the end is what the chomping indicator asks for.
-/

namespace VirtualNpu
namespace Yaml

open Written (isPrintable isLineBreak spaces literalLines closingBreak indentationHint chompingHint)

/-! ### Lines -/

inductive HasLines : List Char → Prop
  | nil : HasLines []
  | line {cs : List Char} {b : Char} {rest : List Char} (unbroken : ∀ c ∈ cs, isBreak c = false)
      (breaks : isBreak b = true) (lines : HasLines rest) : HasLines (cs ++ b :: rest)

theorem hasLines_of_getLast {cs : List Char} (last : ∀ c, cs.getLast? = some c → isBreak c = true) :
    HasLines cs := by
  induction cs with
  | nil => exact .nil
  | cons c cs ih =>
      by_cases breaks : isBreak c = true
      · change HasLines ([] ++ c :: cs)
        refine .line (fun other inside => absurd inside List.not_mem_nil) breaks (ih ?_)
        intro other found
        apply last
        rw [List.getLast?_cons, found]
        rfl
      · rw [Bool.not_eq_true] at breaks
        have later : ∀ other, cs.getLast? = some other → isBreak other = true := by
          intro other found
          apply last
          rw [List.getLast?_cons, found]
          rfl
        cases ih later with
        | nil =>
            rw [last c rfl] at breaks
            cases breaks
        | @line line b rest unbroken broken lines =>
            change HasLines (c :: line ++ b :: rest)
            refine .line ?_ broken lines
            intro other inside
            rcases List.mem_cons.mp inside with rfl | further
            · exact breaks
            · exact unbroken other further

section
variable {indent : Nat}

theorem literalLines_append_unbroken (lineStart : Bool) {cs : List Char} (rest : List Char)
    (unbroken : ∀ c ∈ cs, isLineBreak c = false) (some : cs ≠ []) :
    literalLines indent lineStart (cs ++ rest) =
      (if lineStart then spaces indent else []) ++ cs ++ literalLines indent false rest := by
  induction cs generalizing lineStart with
  | nil => exact absurd rfl some
  | cons c cs ih =>
      have inLine := unbroken c List.mem_cons_self
      have later : ∀ other ∈ cs, isLineBreak other = false :=
        fun other inside => unbroken other (List.mem_cons_of_mem _ inside)
      rw [List.cons_append, literalLines, inLine]
      cases cs with
      | nil => simp
      | cons d cs =>
          rw [ih false later (List.cons_ne_nil d cs)]
          simp

theorem literalLines_break (lineStart : Bool) {b : Char} (rest : List Char)
    (breaks : isLineBreak b = true) :
    literalLines indent lineStart (b :: rest) = b :: literalLines indent true rest := by
  rw [literalLines, if_pos breaks]

/-- The break that closes the last line may be counted to the text. -/
theorem literalLines_closingBreak (cs : List Char) :
    literalLines indent true cs ++ closingBreak cs =
      literalLines indent true (cs ++ closingBreak cs) := by
  have concat : ∀ lineStart, literalLines indent lineStart (cs ++ ['\n']) =
      literalLines indent lineStart cs ++ ['\n'] := by
    induction cs with
    | nil => exact fun lineStart => rfl
    | cons c cs ih =>
        intro lineStart
        rw [List.cons_append, literalLines, literalLines, ih, ih]
        split <;> simp
  unfold closingBreak
  split
  · rw [List.append_nil, List.append_nil]
  · exact (concat true).symm

end

/-! ### Indentation and breaks -/

theorem dropIndentation_cons (indent : Option Nat) (deepest : Nat) (breaks : List Char)
    (spot : Spot) (rest : List Spot) :
    dropIndentation indent deepest breaks (spot :: rest) =
      if spot.char == ' ' && indent.all (fun columns => spot.column < columns) then
        dropIndentation indent deepest breaks rest
      else if spot.char == '\t' && indent.all (fun columns => spot.column < columns) then none
      else if isBreak spot.char then
        dropIndentation indent (max deepest spot.column) (spot.char :: breaks) rest
      else some (max deepest spot.column, breaks, spot :: rest) := by
  cases indent <;> rfl

theorem dropIndentation_blanks {indent : Option Nat} (deepest : Nat) (breaks : List Char)
    (blanks next : List Spot)
    (blank : ∀ spot ∈ blanks, spot.char = ' ' ∧ ∀ columns ∈ indent, spot.column < columns) :
    dropIndentation indent deepest breaks (blanks ++ next) =
      dropIndentation indent deepest breaks next := by
  induction blanks with
  | nil => rfl
  | cons spot blanks ih =>
      obtain ⟨space, within⟩ := blank spot List.mem_cons_self
      have later := ih fun other inside => blank other (List.mem_cons_of_mem _ inside)
      have inside : indent.all (fun columns => spot.column < columns) = true := by
        cases indent with
        | none => rfl
        | some columns => exact decide_eq_true (within columns rfl)
      rw [List.cons_append, dropIndentation_cons, space, inside]
      exact later

theorem length_dropIndentation_le {indent : Option Nat} {deepest : Nat} {breaks : List Char}
    {spots : List Spot} {reached : Nat} {found : List Char} {following : List Spot}
    (dropped : dropIndentation indent deepest breaks spots = some (reached, found, following)) :
    following.length ≤ spots.length := by
  induction spots generalizing deepest breaks with
  | nil =>
      cases dropped
      exact Nat.le_refl 0
  | cons spot spots ih =>
      rw [dropIndentation_cons] at dropped
      split at dropped
      · exact Nat.le_succ_of_le (ih dropped)
      · split at dropped
        · cases dropped
        · split at dropped
          · exact Nat.le_succ_of_le (ih dropped)
          · cases dropped
            exact Nat.le_refl _

theorem dropIndentation_break {indent : Option Nat} (deepest : Nat) (breaks : List Char) {b : Char}
    (plain : IsPlain b) (broken : isBreak b = true) (index line column : Nat) (tail : List Char) :
    dropIndentation indent deepest breaks (placeFrom index line column (b :: tail)) =
      dropIndentation indent (max deepest column) (b :: breaks)
        (placeFrom (index + 1) (line + 1) 0 tail) := by
  have noSpace : (b == ' ') = false := by
    apply beq_eq_false_iff_ne.mpr
    rintro rfl
    cases broken
  have noTab : (b == '\t') = false := by
    apply beq_eq_false_iff_ne.mpr
    rintro rfl
    cases broken
  rw [placeFrom_break plain broken, dropIndentation_cons, noSpace, noTab, broken]
  rfl

theorem dropIndentation_line {indent : Option Nat} {columns : Nat} (deepest : Nat)
    (breaks : List Char) {c : Char} (inLine : AreInLine [c])
    (ends : indent = some columns ∨ indent = none ∧ c ≠ ' ') (index line : Nat)
    (tail : List Char) :
    dropIndentation indent deepest breaks
        (placeFrom index line 0 (spaces columns ++ c :: tail)) =
      some (max deepest columns, breaks, placeFrom (index + columns) line columns (c :: tail)) := by
  obtain ⟨printable, unbroken⟩ := inLine.head
  obtain ⟨blanks, placed, blank⟩ := placeFrom_spaces columns index line 0 (c :: tail)
  rw [Nat.zero_add] at placed blank
  rw [placed, dropIndentation_blanks]
  · have noTab : (c == '\t') = false := beq_eq_false_iff_ne.mpr (ne_tab_of_isPrintable printable)
    rw [placeFrom_inLine (isPlain_of_isPrintable printable) unbroken, dropIndentation_cons,
      noTab, unbroken]
    have stops : (c == ' ' && indent.all fun other => decide (columns < other)) = false := by
      rcases ends with rfl | ⟨_, solid⟩
      · simp
      · rw [beq_eq_false_iff_ne.mpr solid, Bool.false_and]
    rw [stops]
    rfl
  · intro spot inside
    refine ⟨(blank spot inside).1, fun other known => ?_⟩
    rcases ends with rfl | ⟨rfl, _⟩
    · cases known
      exact (blank spot inside).2
    · cases known

theorem splitLine_line (text : List Char) {cs : List Char} {b : Char} (tail : List Char)
    (inLine : AreInLine cs) (plain : IsPlain b) (broken : isBreak b = true)
    (index line column : Nat) :
    splitLine text (placeFrom index line column (cs ++ b :: tail)) =
      (cs.reverse ++ text, some b, placeFrom (index + cs.length + 1) (line + 1) 0 tail) := by
  induction cs generalizing text index column with
  | nil =>
      rw [List.nil_append, placeFrom_break plain broken, splitLine, if_pos broken]
      rfl
  | cons c cs ih =>
      obtain ⟨printable, unbroken⟩ := inLine.head
      have onward : ¬ isBreak c = true := by
        rw [unbroken]
        exact Bool.false_ne_true
      rw [List.cons_append, placeFrom_inLine (isPlain_of_isPrintable printable) unbroken,
        splitLine, if_neg onward, ih (c :: text) inLine.tail, List.reverse_cons,
        List.append_assoc, List.singleton_append, List.length_cons, Nat.add_right_comm index]
      rfl

/-! ### Line after line -/

namespace BlockText

def whole (read : BlockText) : List Char := read.emptyLines ++ read.lastBreak.toList ++ read.text

theorem joined_unfolded (read : BlockText) (startsBlank : Bool) :
    read.joined false startsBlank = read.whole := rfl

structure IsSettled (read : BlockText) : Prop where
  empty : ∀ b ∈ read.emptyLines, isBreak b = true
  last : ∀ b ∈ read.lastBreak, isBreak b = true
  text : read.lastBreak = none → read.text = []

end BlockText

/-- Whether the scalar is read as `whole` up to the line `rest` once `following` is reached. -/
def ReadsTo (indent : Nat) (rest whole : List Char) (read : BlockText)
    (following : List Spot) : Prop :=
  ∃ index line, ∀ fuel, following.length < fuel → ∃ final,
    readBlockLines false indent fuel read following =
        some (final, dropBlanks (placeFrom index line 0 rest)) ∧
      final.IsSettled ∧ final.whole = whole

section
variable {indent limit : Nat} {rest : List Char}

theorem readsTo_next {read : BlockText} (settled : read.IsSettled) (follows : Follows limit rest)
    (shallow : limit < indent) (deepest : Nat) (breaks : List Char) (index line : Nat) :
    ∃ reached following,
      dropIndentation (some indent) deepest breaks (placeFrom index line 0 rest) =
        some (reached, breaks, following) ∧ ReadsTo indent rest read.whole read following := by
  obtain ⟨blanks, next, placed, dropped, blank, ended⟩ := follows.split index line
  have skipped : dropIndentation (some indent) deepest breaks (placeFrom index line 0 rest) =
      dropIndentation (some indent) deepest breaks next := by
    rw [placed]
    apply dropIndentation_blanks
    intro spot inside
    refine ⟨(blank spot inside).1, fun columns known => ?_⟩
    cases known
    exact Nat.lt_trans (blank spot inside).2 shallow
  rw [skipped]
  rcases ended with rfl | ⟨spot, spots, rfl, named, bounded⟩
  · refine ⟨deepest, [], rfl, index, line, fun fuel enough => ?_⟩
    obtain ⟨fuel, rfl⟩ := Nat.exists_eq_add_of_lt enough
    rw [dropped]
    exact ⟨read, rfl, settled, rfl⟩
  · obtain ⟨noSpace, noTab⟩ := Bool.or_eq_false_iff.mp (isSpaceOrTab_of_isNameChar named)
    refine ⟨max deepest spot.column, spot :: spots, ?_, index, line, fun fuel enough => ?_⟩
    · rw [dropIndentation_cons, noSpace, noTab, isBreak_of_isNameChar named]
      rfl
    · obtain ⟨fuel, rfl⟩ := Nat.exists_eq_add_of_lt enough
      have outside : spot.column ≠ indent := by omega
      rw [dropped, readBlockLines, if_pos outside]
      exact ⟨read, rfl, settled, rfl⟩

theorem readsTo_line {c b : Char} {front tail whole : List Char} {read : BlockText}
    (inLine : AreInLine (c :: front)) (plain : IsPlain b) (broken : isBreak b = true)
    {index line reached : Nat} {breaks : List Char} {following : List Spot}
    (dropped : dropIndentation (some indent) 0 []
      (placeFrom (index + (c :: front).length + 1) (line + 1) 0 tail) =
        some (reached, breaks, following))
    (goesOn : ReadsTo indent rest whole
      ⟨(c :: front).reverse ++ read.whole, some b, breaks, isSpaceOrTab c⟩ following) :
    ReadsTo indent rest whole read (placeFrom index line indent (c :: front ++ b :: tail)) := by
  obtain ⟨index', line', later⟩ := goesOn
  refine ⟨index', line', fun fuel enough => ?_⟩
  have shorter : following.length <
      (placeFrom index line indent (c :: front ++ b :: tail)).length := by
    have tailShorter := length_placeFrom_suffix (front ++ [b]) tail (index + 1) line (indent + 1)
      (index + (c :: front).length + 1) (line + 1) 0
    have cut := length_dropIndentation_le dropped
    rw [List.append_assoc, List.singleton_append] at tailShorter
    rw [List.cons_append, placeFrom_inLine (isPlain_of_isPrintable inLine.head.1) inLine.head.2,
      List.length_cons]
    omega
  obtain ⟨fuel, rfl⟩ := Nat.exists_eq_add_of_lt enough
  obtain ⟨final, ran, settled, all⟩ :=
    later _ (Nat.lt_of_lt_of_le shorter (Nat.le_add_right _ fuel))
  have split := splitLine_line read.whole tail inLine plain broken index line indent
  rw [List.cons_append, placeFrom_inLine (isPlain_of_isPrintable inLine.head.1) inLine.head.2]
    at ran split ⊢
  rw [readBlockLines, if_neg (fun apart => apart rfl)]
  dsimp only
  rw [BlockText.joined_unfolded, split]
  dsimp only
  rw [dropped]
  exact ⟨final, ran, settled, all⟩

theorem readsTo_lines {cs : List Char} (lines : HasLines cs)
    (printable : ∀ c ∈ cs, isPrintable c = true) {read : BlockText} (settled : read.IsSettled)
    (follows : Follows limit rest) (shallow : limit < indent) (deepest index line : Nat) :
    ∃ reached breaks following,
      dropIndentation (some indent) deepest read.emptyLines
          (placeFrom index line 0 (literalLines indent true cs ++ rest)) =
        some (reached, breaks, following) ∧
      ReadsTo indent rest (cs.reverse ++ read.whole) { read with emptyLines := breaks }
        following := by
  -- the induction is on the lines; the empty ones only add to the breaks that are dropped
  induction lines generalizing read deepest index line with
  | nil =>
      obtain ⟨reached, following, dropped, ends⟩ :=
        readsTo_next settled follows shallow deepest read.emptyLines index line
      exact ⟨reached, read.emptyLines, following, dropped, ends⟩
  | @line front b more unbroken broken lines ih =>
      have plain : IsPlain b := isPlain_of_isPrintable (printable b (by simp))
      have later : ∀ c ∈ more, isPrintable c = true :=
        fun c inside => printable c (by simp [inside])
      have lineBreak : isLineBreak b = true := (isLineBreak_eq_isBreak plain).trans broken
      cases front with
      | nil =>
          have added :
              ({ read with emptyLines := b :: read.emptyLines } : BlockText).IsSettled := by
            refine ⟨fun other inside => ?_, settled.last, settled.text⟩
            rcases List.mem_cons.mp inside with rfl | old
            · exact broken
            · exact settled.empty other old
          obtain ⟨reached, breaks, following, dropped, goesOn⟩ :=
            ih later added (max deepest 0) (index + 1) (line + 1)
          refine ⟨reached, breaks, following, ?_, ?_⟩
          · rw [List.nil_append, literalLines_break true more lineBreak, List.cons_append,
              dropIndentation_break deepest read.emptyLines plain broken]
            exact dropped
          · rw [List.nil_append, List.reverse_cons, List.append_assoc]
            exact goesOn
      | cons c front =>
          have inLine : AreInLine (c :: front) := by
            intro other inside
            have known := printable other (List.mem_append_left _ inside)
            rw [isLineBreak_eq_isBreak (isPlain_of_isPrintable known)]
            exact ⟨known, unbroken other inside⟩
          obtain ⟨known, unbroken⟩ := inLine c List.mem_cons_self
          have first := areInLine_singleton known unbroken
          have laidOut : literalLines indent true (c :: front ++ b :: more) ++ rest =
              spaces indent ++ c :: (front ++ b :: (literalLines indent true more ++ rest)) := by
            rw [literalLines_append_unbroken true (b :: more) (fun other inside =>
              (inLine other inside).2) (List.cons_ne_nil c front), literalLines_break false more
              lineBreak]
            simp
          have taken : BlockText.IsSettled
              ⟨(c :: front).reverse ++ read.whole, some b, [], isSpaceOrTab c⟩ := by
            refine ⟨fun other inside => absurd inside List.not_mem_nil, fun other same => ?_, ?_⟩
            · cases same
              exact broken
            · intro none
              cases none
          obtain ⟨reached, breaks, following, dropped, goesOn⟩ := ih later taken 0
            (index + indent + (c :: front).length + 1) (line + 1)
          refine ⟨max deepest indent, read.emptyLines, _, ?_,
            readsTo_line inLine plain broken dropped ?_⟩
          · rw [laidOut]
            exact dropIndentation_line deepest read.emptyLines first (Or.inl rfl) index line _
          · have onward : (c :: front ++ b :: more).reverse ++ read.whole =
                more.reverse ++ (b :: ((c :: front).reverse ++ read.whole)) := by simp
            rw [onward]
            exact goesOn

end

/-! ### Header -/

inductive Chomps : List Char → Chomping → Prop
  | strip : Chomps ['-'] .strip
  | keep : Chomps ['+'] .keep
  | clip : Chomps [] .clip

theorem readBlockHeader_hints {chomping : Chomping} {hint : List Char}
    (chomps : Chomps hint chomping) (indented : Bool) (index line column : Nat)
    (tail : List Char) :
    ∃ index', readBlockHeader (placeFrom index line column
        ((if indented then ['2'] else []) ++ hint ++ '\n' :: tail)) =
      some (chomping, if indented then some 2 else none, placeFrom index' (line + 1) 0 tail) := by
  cases indented with
  | false =>
      cases chomps with
      | strip | keep => exact ⟨index + 2, rfl⟩
      | clip => exact ⟨index + 1, rfl⟩
  | true =>
      cases chomps with
      | strip | keep => exact ⟨index + 3, rfl⟩
      | clip => exact ⟨index + 2, rfl⟩

/-! ### Breaks at the end -/

theorem BlockText.IsSettled.parts {read : BlockText} (settled : read.IsSettled) {b last : Char}
    {before : List Char} (whole : read.whole = b :: last :: before)
    (solid : isBreak last = false) :
    read.emptyLines = [] ∧ read.lastBreak = some b ∧ read.text = last :: before := by
  obtain ⟨text, lastBreak, emptyLines, afterIndented⟩ := read
  obtain ⟨empty, lastly, texts⟩ := settled
  unfold BlockText.whole at whole
  dsimp only at empty lastly texts whole ⊢
  have apart : ∀ c, isBreak c = true → c ≠ last := by
    rintro c breaks rfl
    rw [breaks] at solid
    cases solid
  cases emptyLines with
  | nil =>
      cases lastBreak with
      | none =>
          rw [texts rfl] at whole
          cases whole
      | some other =>
          obtain ⟨rfl, rfl⟩ := List.cons.inj whole
          exact ⟨rfl, rfl, rfl⟩
  | cons first others =>
      -- the second character would be a break too
      exfalso
      have second := (List.cons.inj whole).2
      cases others with
      | nil =>
          cases lastBreak with
          | none =>
              rw [texts rfl] at second
              cases second
          | some other => exact apart other (lastly other rfl) (List.cons.inj second).1
      | cons other others =>
          exact apart other (empty other (by simp)) (List.cons.inj second).1

theorem finish_chompingHint {cs : List Char} (some : cs ≠ [])
    (printable : ∀ c ∈ cs, isPrintable c = true) :
    ∃ chomping, Chomps (chompingHint cs) chomping ∧ ∀ read : BlockText, read.IsSettled →
      read.whole = (cs ++ closingBreak cs).reverse →
      read.finish chomping = String.ofList cs := by
  obtain ⟨backward, rfl⟩ : ∃ backward : List Char, cs = backward.reverse :=
    ⟨cs.reverse, (List.reverse_reverse cs).symm⟩
  cases backward with
  | nil => exact absurd rfl some
  | cons last before =>
      have same : ∀ c ∈ last :: before, isLineBreak c = isBreak c := fun c inside =>
        isLineBreak_eq_isBreak (isPlain_of_isPrintable (printable c (List.mem_reverse.mpr inside)))
      have lastly := same last List.mem_cons_self
      unfold chompingHint closingBreak
      rw [List.reverse_reverse, List.getLast?_reverse, List.head?_cons, Option.any_some, lastly]
      cases breaks : isBreak last with
      | false =>
          refine ⟨.strip, ?_, fun read settled whole => ?_⟩
          · cases before with
            | nil =>
                dsimp only
                rw [lastly, breaks]
                exact .strip
            | cons other before =>
                dsimp only
                rw [lastly, breaks]
                exact .strip
          · rw [if_neg Bool.false_ne_true, List.reverse_append, List.reverse_reverse] at whole
            rw [BlockText.finish, (settled.parts whole breaks).2.2]
      | true =>
          rw [if_pos rfl, List.append_nil, List.reverse_reverse]
          have kept : ∀ read : BlockText, read.whole = last :: before →
              read.finish .keep = String.ofList (last :: before).reverse := by
            intro read whole
            rw [BlockText.finish, ← whole]
            rfl
          cases before with
          | nil =>
              dsimp only
              rw [lastly, breaks]
              exact ⟨.keep, .keep, fun read _ whole => kept read whole⟩
          | cons other before =>
              dsimp only
              rw [lastly, breaks, same other (by simp)]
              cases again : isBreak other with
              | true => exact ⟨.keep, .keep, fun read _ whole => kept read whole⟩
              | false =>
                  refine ⟨.clip, .clip, fun read settled whole => ?_⟩
                  obtain ⟨_, lastBreak, text⟩ := settled.parts whole again
                  rw [BlockText.finish, lastBreak, text]
                  rfl

/-! ### The whole scalar -/

theorem eq_newline_of_mem_closingBreak {cs : List Char} {c : Char} (inside : c ∈ closingBreak cs) :
    c = '\n' := by
  unfold closingBreak at inside
  split at inside
  · cases inside
  · exact List.mem_singleton.mp inside

theorem hasLines_closingBreak {cs : List Char} (printable : ∀ c ∈ cs, isPrintable c = true) :
    HasLines (cs ++ closingBreak cs) := by
  apply hasLines_of_getLast
  intro c last
  unfold closingBreak at last
  split at last
  · rename_i broken
    rw [List.append_nil] at last
    rw [last] at broken
    rw [← isLineBreak_eq_isBreak (isPlain_of_isPrintable (printable c (List.mem_of_getLast? last)))]
    exact broken
  · rw [List.getLast?_concat] at last
    cases last
    rfl

/-- A first line that begins with a word shows the indentation by itself. -/
theorem dropIndentation_firstLine (indent : Nat) {c : Char} (inLine : AreInLine [c])
    (solid : c ≠ ' ') (cs rest : List Char) (index line : Nat) :
    ∃ following, ∀ known : Option Nat, known = some indent ∨ known = none →
      dropIndentation known 0 []
          (placeFrom index line 0 (literalLines indent true (c :: cs) ++ rest)) =
        some (max 0 indent, [], following) := by
  have laidOut : literalLines indent true (c :: cs) ++ rest =
      spaces indent ++ c :: (literalLines indent false cs ++ rest) := by
    rw [literalLines, (inLine c List.mem_cons_self).2]
    simp
  refine ⟨placeFrom (index + indent) line indent (c :: (literalLines indent false cs ++ rest)),
    fun known knows => ?_⟩
  rw [laidOut]
  exact dropIndentation_line 0 [] inLine (knows.imp_right fun none => ⟨none, solid⟩) index line _

/-- A literal text is read as itself, up to the next line. -/
theorem readBlock_literal {limit column : Nat} {cs rest : List Char} (filled : cs ≠ [])
    (printable : ∀ c ∈ cs, isPrintable c = true) (follows : Follows limit rest)
    (shallow : limit < column + 2) (index line at' : Nat) :
    ∃ index' line', readBlock false column (placeFrom index line at'
        (indentationHint cs ++ chompingHint cs ++ '\n' ::
          (literalLines (column + 2) true cs ++ closingBreak cs ++ rest))) =
      some (String.ofList cs, dropBlanks (placeFrom index' line' 0 rest)) := by
  obtain ⟨chomping, chomps, finishes⟩ := finish_chompingHint filled printable
  have closed : ∀ c ∈ cs ++ closingBreak cs, isPrintable c = true := by
    intro c inside
    rcases List.mem_append.mp inside with old | new
    · exact printable c old
    · rw [eq_newline_of_mem_closingBreak new]
      rfl
  obtain ⟨start, header⟩ := readBlockHeader_hints chomps
    (cs.head?.any fun c => c == ' ' || isLineBreak c) index line at'
    (literalLines (column + 2) true cs ++ closingBreak cs ++ rest)
  have nothing : BlockText.IsSettled ⟨[], none, [], false⟩ :=
    ⟨fun b inside => absurd inside List.not_mem_nil, (fun b none => nomatch none), fun _ => rfl⟩
  obtain ⟨reached, breaks, following, dropped, index', line', goesOn⟩ :=
    readsTo_lines (hasLines_closingBreak printable) closed nothing follows shallow 0 start
      (line + 1)
  obtain ⟨final, ran, settled, whole⟩ := goesOn (following.length + 1) (Nat.lt_succ_self _)
  have finished := finishes final settled (whole.trans (List.append_nil _))
  refine ⟨index', line', ?_⟩
  rw [literalLines_closingBreak] at header ⊢
  unfold readBlock
  rw [indentationHint, header]
  cases hinted : cs.head?.any fun c => c == ' ' || isLineBreak c with
  | true =>
      have deep : 2 + (column : Int).toNat = column + 2 := by omega
      simp only [if_pos, Option.map_some, Option.bind_eq_bind, Option.bind_some, deep, dropped,
        Option.getD_some, ran, finished]
  | false =>
      -- the first line shows the indentation
      cases cs with
      | nil => exact absurd rfl filled
      | cons c cs =>
          obtain ⟨solid, unbroken⟩ := Bool.or_eq_false_iff.mp hinted
          have first := areInLine_singleton (printable c List.mem_cons_self) unbroken
          obtain ⟨reached', same⟩ := dropIndentation_firstLine (column + 2) first
            (beq_eq_false_iff_ne.mp solid) (cs ++ closingBreak (c :: cs)) rest start (line + 1)
          rw [List.cons_append] at dropped ⊢
          rw [same _ (Or.inl rfl)] at dropped
          cases dropped
          have unknown := same none (Or.inr rfl)
          have deep : max (max 0 (column + 2)) (max ((column : Int) + 1).toNat 1) = column + 2 := by
            omega
          simp only [Bool.false_eq_true, if_false, Option.map_none, Option.bind_eq_bind,
            Option.bind_some, unknown, Option.getD_none, deep, ran, finished]

end Yaml
end VirtualNpu
