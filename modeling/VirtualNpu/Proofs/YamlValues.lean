import VirtualNpu.Proofs.Decimals
import VirtualNpu.Proofs.YamlScanning

/-!
The values of a block mapping: texts in each style, numbers, the word for nothing and the
sequence without items.
-/

namespace VirtualNpu
namespace Yaml

open Written (isPrintable isSeparator spaces singleQuotedBody escaped literalLines indentationHint
  chompingHint closingBreak hexDigits)

/-! ### Characters -/

theorem isAllowed_of_isPrintable {c : Char} (printable : isPrintable c = true) :
    isAllowed c = true := by
  simp only [isPrintable, Bool.or_eq_true, Bool.and_eq_true, decide_eq_true_eq, beq_iff_eq]
    at printable
  simp only [isAllowed, Bool.or_eq_true, Bool.and_eq_true, decide_eq_true_eq, beq_iff_eq]
  omega

theorem isAllowed_of_mem_spaces {count : Nat} {c : Char} (inside : c ∈ spaces count) :
    isAllowed c = true := by
  rw [List.eq_of_mem_replicate inside]
  rfl

theorem mem_singleQuotedBody {indent : Nat} {afterBreak : Bool} {cs : List Char} {c : Char}
    (inside : c ∈ singleQuotedBody indent afterBreak cs) :
    c ∈ cs ∨ c ∈ spaces indent ∨ c = '\x27' := by
  have indented : ∀ {afterBreak : Bool}, c ∈ (if afterBreak then spaces indent else []) →
      c ∈ spaces indent := by
    intro afterBreak inside
    cases afterBreak with
    | false => cases inside
    | true => exact inside
  fun_induction singleQuotedBody indent afterBreak cs with
  | case1 => exact Or.inr (Or.inl inside)
  | case2 => cases inside
  | case3 afterBreak d rest breaks ih =>
      rcases List.mem_append.mp inside with now | later
      · left
        split at now
        · rename_i newline
          simp only [Bool.and_eq_true, beq_iff_eq] at newline
          simp_all
        · simp_all
      · exact (ih later).imp_left (List.mem_cons_of_mem d)
  | case4 afterBreak d rest solid space ih =>
      rcases List.mem_cons.mp inside with rfl | later
      · exact Or.inl List.mem_cons_self
      · exact (ih later).imp_left (List.mem_cons_of_mem d)
  | case5 afterBreak d rest solid noSpace ih =>
      rcases List.mem_append.mp inside with now | later
      · rcases List.mem_append.mp now with blank | char
        · exact Or.inr (Or.inl (indented blank))
        · split at char
          · simp_all
          · simp_all
      · exact (ih later).imp_left (List.mem_cons_of_mem d)

theorem mem_literalLines {indent : Nat} {lineStart : Bool} {cs : List Char} {c : Char}
    (inside : c ∈ literalLines indent lineStart cs) : c ∈ cs ∨ c ∈ spaces indent := by
  fun_induction literalLines indent lineStart cs with
  | case1 => cases inside
  | case2 lineStart d rest breaks ih =>
      rcases List.mem_cons.mp inside with rfl | later
      · exact Or.inl List.mem_cons_self
      · exact (ih later).imp_left (List.mem_cons_of_mem d)
  | case3 lineStart d rest unbroken ih =>
      rcases List.mem_append.mp inside with blank | here
      · right
        cases lineStart with
        | false => cases blank
        | true => exact blank
      · rcases List.mem_cons.mp here with rfl | later
        · exact Or.inl List.mem_cons_self
        · exact (ih later).imp_left (List.mem_cons_of_mem d)

theorem isAllowed_of_escape? {letter : Char} {escape : Escape}
    (stands : escape? letter = some escape) : isAllowed letter = true := by
  have known : (['0', 'a', 'b', 't', '\t', 'n', 'v', 'f', 'r', 'e', ' ', '\x22', '/', '\\',
      'N', '_', 'L', 'P', 'x', 'u', 'U'].all isAllowed) = true := by decide
  apply List.all_eq_true.mp known
  apply Decidable.byContradiction
  intro unknown
  simp only [List.mem_cons, List.not_mem_nil, or_false, not_or] at unknown
  simp [escape?, unknown] at stands

theorem isAllowed_of_mem_hints {cs : List Char} {c : Char}
    (inside : c ∈ indentationHint cs ++ chompingHint cs) : isAllowed c = true := by
  have known : c ∈ ['2', '-', '+'] := by
    rcases List.mem_append.mp inside with indentation | chomping
    · unfold indentationHint at indentation
      split at indentation
      · rw [List.mem_singleton.mp indentation]
        exact List.mem_cons_self
      · cases indentation
    · unfold chompingHint at chomping
      repeat' split at chomping
      all_goals simp_all
  have allowed : (['2', '-', '+'].all isAllowed) = true := by decide
  exact List.all_eq_true.mp allowed c known

theorem isAllowed_of_mem_hexDigits {width n : Nat} {c : Char} (inside : c ∈ hexDigits width n) :
    isAllowed c = true := by
  have digit : ∀ d < 16, isAllowed (Nat.digitChar d).toUpper = true := by decide
  induction width generalizing n with
  | zero => cases inside
  | succ width ih =>
      rcases List.mem_append.mp inside with front | last
      · exact ih front
      · rw [List.mem_singleton.mp last]
        exact digit (n % 16) (Nat.mod_lt n (by decide))

theorem isAllowed_of_mem_escaped {c d : Char} (inside : d ∈ escaped c) : isAllowed d = true := by
  have spelling := spelling_escaped c
  generalize escaped c = written at spelling inside
  cases spelling with
  | bare inLine unquoted solid =>
      rw [List.mem_singleton.mp inside]
      exact isAllowed_of_isPrintable inLine.head.1
  | named letter stands plain unbroken =>
      rcases List.mem_cons.mp inside with rfl | last
      · rfl
      · rw [List.mem_singleton.mp last]
        exact isAllowed_of_escape? stands
  | numbered letter width announces plain unbroken fits =>
      rcases List.mem_cons.mp inside with rfl | later
      · rfl
      · rcases List.mem_cons.mp later with rfl | digit
        · exact isAllowed_of_escape? announces
        · exact isAllowed_of_mem_hexDigits digit

/-! ### Tokens of a value -/

section
variable {indent : Int} {outer : List Int} {tokens tokens' all : List Token}
  {allowed allowed' : Bool} {index line column : Nat} {rest following : List Spot}

theorem lexeme_block (spot : Spot) (token : Token) :
    (Scanner.block indent outer tokens false).lexeme spot token =
      some (.block indent outer (tokens ++ [token]) false) := by
  simp [Scanner.lexeme, Scanner.saveKey, Scanner.block, Scanner.allowKey, Scanner.emit]

theorem take_quote {quote : Char} {style : Style} {text : String}
    (quotes : quote = '\x27' ∧ style = .singleQuoted ∨ quote = '\x22' ∧ style = .doubleQuoted)
    (inside : 0 < column)
    (read : readQuoted quote .inside [] .none rest = some (text, following)) :
    (Scanner.block indent outer tokens false).take ⟨quote, index, line, column⟩ rest =
      some (.block indent outer (tokens ++ [.scalar style text]) false, following) := by
  have further : column ≠ 0 := Nat.ne_of_gt inside
  rcases quotes with ⟨rfl, rfl⟩ | ⟨rfl, rfl⟩
  · simp [Scanner.take, further, read, lexeme_block]
  · simp [Scanner.take, further, read, lexeme_block]

theorem take_bar {text : String} (inside : 0 < column)
    (read : readBlock false indent rest = some (text, following)) :
    (Scanner.block indent outer tokens false).take ⟨'|', index, line, column⟩ rest =
      some (.block indent outer (tokens ++ [.scalar .literal text]) true, following) := by
  have further : column ≠ 0 := Nat.ne_of_gt inside
  have dropped : (Scanner.block indent outer tokens false).dropKey =
      some (.block indent outer tokens false) := dropKey_keyless rfl
  have stands : (Scanner.block indent outer tokens false).indent = indent := rfl
  have flowless : (Scanner.block indent outer tokens false).inFlow = false := rfl
  simp [Scanner.take, further, flowless, dropped, stands, read]
  exact emit_block _

theorem scansOn_of_next {scanner : Scanner} {spot : Spot} {spots : List Spot}
    (reached : toNextToken scanner.inFlow false scanner.keyAllowed spots = (allowed, spot :: rest))
    (later : Scans (scanner.allowKey allowed) (spot :: rest) all) : ScansOn scanner spots all := by
  unfold ScansOn
  rw [reached]
  exact later

theorem scansOn_space {c : Char} {more : List Char} (stops : StopsScanner c) (plain : IsPlain c)
    (later : Scans (.block indent outer tokens allowed)
      (placeFrom (index + 1) line (column + 1) (c :: more)) all) :
    ScansOn (.block indent outer tokens allowed)
      (placeFrom index line column (' ' :: c :: more)) all := by
  rw [placeFrom_space]
  rw [placeFrom_inLine plain stops.1] at later ⊢
  refine scansOn_of_next ?_ later
  exact (toNextToken_blanks allowed [⟨' ', index, line, column⟩] _ (by simp)).trans
    (toNextToken_stop _ stops allowed _)

def Scanner.inSequence (indent : Int) (outer : List Int) (tokens : List Token) : Scanner :=
  { Scanner.block indent outer (tokens ++ [.flowSequenceStart]) true with outerKeys := [none] }

theorem take_openSequence (inside : 0 < column) :
    (Scanner.block indent outer tokens false).take ⟨'[', index, line, column⟩ rest =
      some (.inSequence indent outer tokens, rest) := by
  have further : column ≠ 0 := Nat.ne_of_gt inside
  simp [Scanner.take, further, Scanner.openFlow, Scanner.saveKey, Scanner.inSequence,
    Scanner.block, Scanner.emit]

theorem take_closeSequence :
    (Scanner.inSequence indent outer tokens).take ⟨']', index, line, column + 1⟩ rest =
      some (.block indent outer (tokens ++ [.flowSequenceStart, .flowSequenceEnd]) false,
        rest) := by
  simp [Scanner.take, Scanner.closeFlow, Scanner.dropKey, Scanner.inSequence, Scanner.block,
    Scanner.emit]

theorem scans_emptySequence {more : List Char} (inside : 0 < column) (deep : indent ≤ column)
    (later : ScansOn
      (.block indent outer (tokens ++ [.flowSequenceStart, .flowSequenceEnd]) false)
      (placeFrom (index + 2) line (column + 2) more) all) :
    Scans (.block indent outer tokens false)
      (placeFrom index line column ('[' :: ']' :: more)) all := by
  rw [placeFrom_inLine (by decide) rfl, placeFrom_inLine (by decide) rfl]
  have closes : Scans (.inSequence indent outer tokens)
      (⟨']', index + 1, line, column + 1⟩ ::
        placeFrom (index + 1 + 1) line (column + 1 + 1) more) all :=
    .takes rfl take_closeSequence (Nat.le_refl _) later
  have opens (rest : List Spot) : ((Scanner.block indent outer tokens false).unroll column).take
      ⟨'[', index, line, column⟩ rest = some (.inSequence indent outer tokens, rest) := by
    rw [unroll_block deep]
    exact take_openSequence inside
  exact .takes (dropStale_block _) (opens _) (Nat.le_refl _) closes

/-! ### Values -/

/-- Where the scanner is behind a value: at the end of its line, or at the next line, where a key
may begin. -/
inductive AtNext (rest : List Char) : (allowed : Bool) → List Spot → Prop
  | lineEnd (index line column : Nat) :
      AtNext rest false (placeFrom index line column ('\n' :: rest))
  | line (index line : Nat) : AtNext rest true (dropBlanks (placeFrom index line 0 rest))

theorem AtNext.scansOn {limit : Nat} {rest : List Char} (reached : AtNext rest allowed following)
    (follows : Follows limit rest)
    (later : ∀ index line, Scans (.block indent outer tokens true)
      (dropBlanks (placeFrom index line 0 rest)) all) :
    ScansOn (.block indent outer tokens allowed) following all := by
  cases reached with
  | lineEnd index line column =>
      have skipped := toNextToken_newline follows false index line column
      change Scans (Scanner.allowKey _ (toNextToken false false false _).1)
        (toNextToken false false false _).2 all
      rw [skipped]
      exact later _ _
  | line index line =>
      have skipped := toNextToken_next follows true index line
      change Scans (Scanner.allowKey _ (toNextToken false false true _).1)
        (toNextToken false false true _).2 all
      rw [skipped]
      exact later _ _

end

/-- Whether what is written behind the colon of a key at `column` is scanned as these tokens, up
to the next line. -/
structure IsValue (column : Nat) (written : List Char) (read : List Token) : Prop where
  begins : ∃ c more, written = c :: more ∧ (c = ' ' ∨ c = '\n')
  allowed : ∀ c ∈ written, isAllowed c = true
  scans : ∀ {outer : List Int} {tokens all : List Token} {rest : List Char},
    Follows column rest →
    (∀ index line, Scans (.block column outer (tokens ++ read) true)
      (dropBlanks (placeFrom index line 0 rest)) all) →
    ∀ index line {at' : Nat}, column < at' →
      ScansOn (.block column outer tokens false) (placeFrom index line at' (written ++ rest)) all

theorem isValue_of_take {column : Nat} {c : Char} {body : List Char} {token : Token}
    (stops : StopsScanner c) (plain : IsPlain c) (allowed : ∀ d ∈ c :: body, isAllowed d = true)
    (takes : ∀ (outer : List Int) (tokens : List Token) {rest : List Char}, Follows column rest →
      ∀ index line {at' : Nat}, column < at' → ∃ allowed following,
        (Scanner.block column outer tokens false).take ⟨c, index, line, at'⟩
            (placeFrom (index + 1) line (at' + 1) (body ++ rest)) =
          some (.block column outer (tokens ++ [token]) allowed, following) ∧
        AtNext rest allowed following ∧
        following.length ≤ (placeFrom (index + 1) line (at' + 1) (body ++ rest)).length) :
    IsValue column (' ' :: c :: body) [token] where
  begins := ⟨' ', _, rfl, Or.inl rfl⟩
  allowed := by
    intro d inside
    rcases List.mem_cons.mp inside with rfl | later
    · rfl
    · exact allowed d later
  scans := by
    intro outer tokens all rest follows later index line at' right
    obtain ⟨allowed, following, took, reached, shorter⟩ :=
      takes outer tokens follows (index + 1) line (Nat.lt_succ_of_lt right)
    apply scansOn_space stops plain
    rw [List.append_eq, placeFrom_inLine plain stops.1]
    have deep : (column : Int) ≤ (at' + 1 : Nat) := by omega
    exact scansOn_block_takes deep took shorter (reached.scansOn follows later)

/-! ### Plain values -/

structure IsPlainText (c : Char) (cs : List Char) : Prop where
  inLine : AreInLine (c :: cs)
  bare : Written.indicators.contains c = false
  solid : c ≠ ' '
  joined : c = '-' ∨ c = '?' ∨ c = ':' → ∃ d more, cs = d :: more ∧ isSeparator d = false
  free : ∀ before, Written.holdsIndicator before (c :: cs) = false
  ends : (c :: cs).getLast? ≠ some ' '

theorem isPlainText_of_fitsPlain {c : Char} {cs : List Char}
    (neat : Written.needsNoEscape (c :: cs) = true) (fits : Written.fitsPlain (c :: cs) = true) :
    IsPlainText c cs := by
  simp only [Written.fitsPlain, Bool.not_eq_true', Bool.or_eq_false_iff, List.headD_cons,
    List.drop_one, List.tail_cons, beq_eq_false_iff_ne, List.head?_cons, ne_eq,
    Option.some.injEq] at fits
  obtain ⟨⟨⟨⟨⟨special, _⟩, inner⟩, unbroken⟩, solid⟩, ends⟩ := fits
  obtain ⟨bare, word⟩ := Bool.or_eq_false_iff.mp special
  have joined : c = '-' ∨ c = '?' ∨ c = ':' → cs.head?.all isSeparator = false := by
    intro mark
    have marked : (c == '?' || c == ':' || c == '-') = true := by
      rcases mark with rfl | rfl | rfl <;> rfl
    rw [marked] at word
    exact word
  refine ⟨?_, bare, solid, ?_, ?_, ends⟩
  · intro d inside
    simp only [Written.needsNoEscape, Bool.and_eq_true, List.all_eq_true] at neat
    rw [List.any_eq_false] at unbroken
    exact ⟨neat.1 d inside, Bool.eq_false_iff.mpr (unbroken d inside)⟩
  · intro mark
    have onward := joined mark
    cases cs with
    | nil => cases onward
    | cons d more => exact ⟨d, more, rfl, onward⟩
  · intro before
    have noComment : (c == '#') = false := by
      apply beq_eq_false_iff_ne.mpr
      exact ne_of_noIndicator bare rfl
    rw [Written.holdsIndicator, noComment, inner]
    by_cases colon : c = ':'
    · rw [joined (Or.inr (Or.inr colon)), Bool.and_false]
      rfl
    · rw [beq_eq_false_iff_ne.mpr colon]
      rfl

theorem isPlainText_of_names {c : Char} {cs : List Char}
    (named : ∀ d ∈ c :: cs, isNameChar d = true) (dashless : c ≠ '-') : IsPlainText c cs where
  inLine := areInLine_of_names named
  bare := noIndicator_of_isNameChar (named c List.mem_cons_self)
  solid := by
    rintro rfl
    cases named ' ' List.mem_cons_self
  joined := by
    have letter := named c List.mem_cons_self
    rintro (rfl | rfl | rfl)
    · exact absurd rfl dashless
    · cases letter
    · cases letter
  free := fun before => holdsIndicator_of_names named before
  ends := by
    intro space
    cases named ' ' (List.mem_of_getLast? space)

theorem isValue_plain {column : Nat} {c : Char} {cs : List Char} (text : IsPlainText c cs) :
    IsValue column (' ' :: c :: (cs ++ ['\n'])) [.scalar .plain (String.ofList (c :: cs))] := by
  obtain ⟨printable, unbroken⟩ := text.inLine.head
  have plain := isPlain_of_isPrintable printable
  have solid : isSpaceOrTab c = false := by
    rw [isSpaceOrTab_of_isPrintable printable]
    exact beq_eq_false_iff_ne.mpr text.solid
  have stops : StopsScanner c :=
    ⟨unbroken, solid, ne_of_noIndicator text.bare rfl, ne_byteOrderMark_of_isPrintable printable⟩
  refine isValue_of_take stops plain ?_ ?_
  · intro d inside
    rcases List.mem_append.mp (List.append_eq ▸ inside : d ∈ (c :: cs) ++ ['\n']) with here | last
    · exact isAllowed_of_isPrintable (text.inLine d here).1
    · rw [List.mem_singleton.mp last]
      rfl
  · intro outer tokens rest follows index line at' right
    rw [List.append_assoc, List.singleton_append]
    refine ⟨true, _, ?_, .line (index + (c :: cs).length + 1) (line + 1), ?_⟩
    · have read : readPlain false (column + 1) [] .none
          (placeFrom index line at' (c :: cs ++ '\n' :: rest)) =
          some (String.ofList (c :: cs), true,
            dropBlanks (placeFrom (index + (c :: cs).length + 1) (line + 1) 0 rest)) := by
        rw [readPlain_append ('\n' :: rest) 'a' [] .none index line at' text.inLine (text.free 'a')
          text.ends (fun _ => rfl) rfl (fun gapped => absurd rfl gapped) (by omega),
          readPlain_newline follows (by omega)]
        simp [Gap.folded]
      rw [List.cons_append, placeFrom_inLine plain unbroken] at read
      refine take_plain ⟨c, index, line, at'⟩ rfl text.bare solid ?_ ?_ read (lexeme_block _ _)
      · intro mark
        obtain ⟨d, more, rfl, separate⟩ := text.joined mark
        exact endsWord_placeFrom text.inLine.tail separate _ _ _
      · intro start
        exact absurd start (Nat.ne_of_gt (Nat.zero_lt_of_lt right))
    · refine Nat.le_trans (length_dropBlanks_le _) ?_
      rw [List.append_cons cs]
      exact length_placeFrom_suffix (cs ++ ['\n']) rest _ _ _ _ _ _

/-! ### Quoted and literal values -/

theorem isValue_quoted {column : Nat} {quote : Char} {style : Style} {body : List Char}
    {text : String}
    (quotes : quote = '\x27' ∧ style = .singleQuoted ∨ quote = '\x22' ∧ style = .doubleQuoted)
    (allowed : ∀ c ∈ body, isAllowed c = true)
    (reads : ∀ index line {at' : Nat}, 0 < at' → ∀ rest : List Char, ∃ index' line' column',
      readQuoted quote .inside [] .none
          (placeFrom index line at' (body ++ quote :: '\n' :: rest)) =
        some (text, placeFrom index' line' column' ('\n' :: rest))) :
    IsValue column (' ' :: quote :: (body ++ [quote, '\n'])) [.scalar style text] := by
  have mark : StopsScanner quote ∧ IsPlain quote ∧ isAllowed quote = true := by
    rcases quotes with ⟨rfl, _⟩ | ⟨rfl, _⟩
    · exact ⟨⟨rfl, rfl, by decide, by decide⟩, by decide, rfl⟩
    · exact ⟨⟨rfl, rfl, by decide, by decide⟩, by decide, rfl⟩
  obtain ⟨stops, plain, allows⟩ := mark
  refine isValue_of_take stops plain ?_ ?_
  · intro c inside
    rcases List.mem_cons.mp inside with rfl | later
    · exact allows
    · rcases List.mem_append.mp later with here | last
      · exact allowed c here
      · rcases List.mem_cons.mp last with rfl | newline
        · exact allows
        · rw [List.mem_singleton.mp newline]
          rfl
  · intro outer tokens rest _ index line at' right
    rw [List.append_assoc, List.cons_append, List.singleton_append]
    obtain ⟨index', line', column', read⟩ := reads (index + 1) line (Nat.succ_pos at') rest
    refine ⟨false, _, take_quote quotes (Nat.zero_lt_of_lt right) read,
      .lineEnd index' line' column', ?_⟩
    rw [List.append_cons body]
    exact length_placeFrom_suffix (body ++ [quote]) _ _ _ _ _ _ _

theorem isValue_single {column : Nat} {cs : List Char} (fits : Written.fitsSingleQuotes cs = true)
    (noNewline : '\n' ∉ cs) :
    IsValue column (' ' :: '\x27' :: (singleQuotedBody (column + 2) false cs ++ ['\x27', '\n']))
      [.scalar .singleQuoted (String.ofList cs)] := by
  simp only [Written.fitsSingleQuotes, Written.needsNoEscape, Bool.and_eq_true, List.all_eq_true,
    Bool.not_eq_true'] at fits
  obtain ⟨⟨printable, noSpaceBreak⟩, noBreakSpace⟩ := fits
  refine isValue_quoted (Or.inl ⟨rfl, rfl⟩) ?_ ?_
  · intro c inside
    rcases mem_singleQuotedBody inside with own | blank | rfl
    · exact isAllowed_of_isPrintable (printable c own)
    · exact isAllowed_of_mem_spaces blank
    · rfl
  · intro index line at' inside rest
    have behindQuote : GapBehind '\x27' false .none := .solid rfl (by decide)
    have pairs : ∀ {p q : Char → Bool}, p '\x27' = false → Written.hasPair p q cs = false →
        Written.hasPair p q ('\x27' :: cs) = false := by
      intro p q other none
      cases cs with
      | nil => rfl
      | cons c cs => rw [Written.hasPair, other, none]; rfl
    have suits : SuitsQuotes '\x27' cs :=
      ⟨printable, noNewline, pairs rfl noSpaceBreak, pairs rfl noBreakSpace⟩
    exact readQuoted_single behindQuote [] (Nat.succ_pos _) suits index line at' (fun _ => inside)
      rest

theorem isValue_double {column : Nat} (cs : List Char) :
    IsValue column (' ' :: '\x22' :: (cs.flatMap escaped ++ ['\x22', '\n']))
      [.scalar .doubleQuoted (String.ofList cs)] := by
  refine isValue_quoted (Or.inr ⟨rfl, rfl⟩) ?_ ?_
  · intro c inside
    obtain ⟨d, _, written⟩ := List.mem_flatMap.mp inside
    exact isAllowed_of_mem_escaped written
  · intro index line at' inside rest
    have single : Gap.none.spansLines = false := rfl
    obtain ⟨index', column', read⟩ := readQuoted_double cs [] single inside rest
    exact ⟨index', line, column', read⟩

theorem isValue_literal {column : Nat} {cs : List Char} (fits : Written.fitsLiteral cs = true) :
    IsValue column
      (' ' :: '|' :: (indentationHint cs ++ chompingHint cs ++ '\n' ::
        literalLines (column + 2) true cs ++ closingBreak cs))
      [.scalar .literal (String.ofList cs)] := by
  simp only [Written.fitsLiteral, Written.needsNoEscape, Bool.and_eq_true, List.all_eq_true,
    Bool.not_eq_true', List.isEmpty_eq_false_iff] at fits
  obtain ⟨⟨⟨printable, _⟩, filled⟩, _⟩ := fits
  refine isValue_of_take ⟨rfl, rfl, by decide, by decide⟩ (by decide) ?_ ?_
  · intro c inside
    rcases List.mem_cons.mp inside with rfl | later
    · rfl
    · rcases List.mem_append.mp later with front | closing
      · rcases List.mem_append.mp front with header | lines
        · exact isAllowed_of_mem_hints header
        · rcases List.mem_cons.mp lines with rfl | line
          · rfl
          · rcases mem_literalLines line with own | blank
            · exact isAllowed_of_isPrintable (printable c own)
            · exact isAllowed_of_mem_spaces blank
      · rw [eq_newline_of_mem_closingBreak closing]
        rfl
  · intro outer tokens rest follows index line at' right
    have shallow : column < column + 2 := by omega
    obtain ⟨index', line', read⟩ :=
      readBlock_literal filled printable follows shallow (index + 1) line (at' + 1)
    refine ⟨true, _, take_bar (Nat.zero_lt_of_lt right) ?_, .line index' line', ?_⟩
    · simp only [List.append_assoc, List.cons_append] at read ⊢
      exact read
    · exact Nat.le_trans (length_dropBlanks_le _) (length_placeFrom_suffix _ rest _ _ _ _ _ _)

/-! ### The values of a record -/

/-- A text as a value is one scalar with that text, in whatever style it is written. -/
theorem isValue_text (column : Nat) (s : String) :
    IsValue column (Written.value (column + 2) s) [.scalar (Written.styleOf s) s] := by
  obtain ⟨cs, rfl⟩ : ∃ cs, s = String.ofList cs := ⟨s.toList, String.ofList_toList.symm⟩
  unfold Written.value Written.styleOf
  rw [String.toList_ofList]
  dsimp only
  by_cases newline : cs.contains '\n' = true
  · rw [if_pos newline]
    by_cases literal : Written.fitsLiteral cs = true
    · rw [if_pos literal]
      exact isValue_literal literal
    · rw [if_neg literal]
      exact isValue_double cs
  · rw [if_neg newline]
    by_cases plain : (!Written.looksTyped (String.ofList cs) && Written.needsNoEscape cs &&
        Written.fitsPlain cs) = true
    · rw [if_pos plain]
      simp only [Bool.and_eq_true, Bool.not_eq_true'] at plain
      obtain ⟨⟨untyped, neat⟩, fits⟩ := plain
      cases cs with
      | nil => cases untyped -- the empty text looks like the word for nothing
      | cons c cs => exact isValue_plain (isPlainText_of_fitsPlain neat fits)
    · rw [if_neg plain]
      by_cases single : Written.fitsSingleQuotes cs = true
      · rw [if_pos single]
        exact isValue_single single fun inside => newline (List.contains_iff_mem.mpr inside)
      · rw [if_neg single]
        exact isValue_double cs

theorem isValue_word (column : Nat) (word : List Char) (filled : word ≠ [])
    (named : ∀ c ∈ word, isNameChar c = true ∧ c ≠ '-') :
    IsValue column (' ' :: (word ++ ['\n'])) [.scalar .plain (String.ofList word)] := by
  cases word with
  | nil => exact absurd rfl filled
  | cons c cs =>
      exact isValue_plain (isPlainText_of_names (fun d inside => (named d inside).1)
        (named c List.mem_cons_self).2)

theorem isValue_number (column n : Nat) :
    IsValue column (' ' :: (Nat.toDigits 10 n ++ ['\n']))
      [.scalar .plain (String.ofList (Nat.toDigits 10 n))] := by
  apply isValue_word column _ Nat.toDigits_ne_nil
  intro c inside
  have digit := Text.isDigit_of_mem_toDigits n c inside
  refine ⟨?_, ?_⟩
  · simp only [Text.isDigit, Bool.and_eq_true, decide_eq_true_eq] at digit
    simp [isNameChar, digit]
  · rintro rfl
    cases digit

theorem isValue_emptySequence (column : Nat) :
    IsValue column [' ', '[', ']', '\n'] [.flowSequenceStart, .flowSequenceEnd] where
  begins := ⟨' ', _, rfl, Or.inl rfl⟩
  allowed := List.all_eq_true.mp (by decide)
  scans := by
    intro outer tokens all rest follows later index line at' right
    refine scansOn_space ⟨rfl, rfl, by decide, by decide⟩ (by decide) ?_
    exact scans_emptySequence (Nat.succ_pos at') (by omega)
      ((AtNext.lineEnd _ _ _).scansOn follows later)

end Yaml
end VirtualNpu
