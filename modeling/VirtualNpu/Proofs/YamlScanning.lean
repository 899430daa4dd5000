import VirtualNpu.Proofs.YamlLiteralScalars
import VirtualNpu.Proofs.YamlQuotedScalars

/-!
Scanning from token to token.  A scanner that stands in block mappings is told by its columns and
its tokens so far; values in one line, or in lines below their key, are scanned up to the next
line of the mapping.
-/

namespace VirtualNpu
namespace Yaml

open Written (isPrintable)

/-! ### From token to token -/

/-- Whether a scanner that stands at a token, or at the end, comes to these tokens in all. -/
inductive Scans : Scanner → List Spot → List Token → Prop
  | ends {scanner : Scanner} {tokens : List Token} (keyless : scanner.key = none)
      (closed : (scanner.unroll (-1)).tokens.toList = tokens) : Scans scanner [] tokens
  | takes {scanner current taken : Scanner} {spot : Spot} {rest following : List Spot}
      {tokens : List Token} (fresh : scanner.dropStale spot = some current)
      (took : (current.unroll spot.column).take spot rest = some (taken, following))
      (shorter : following.length ≤ rest.length)
      (later : Scans
        (taken.allowKey (toNextToken taken.inFlow false taken.keyAllowed following).1)
        (toNextToken taken.inFlow false taken.keyAllowed following).2 tokens) :
      Scans scanner (spot :: rest) tokens

def ScansOn (scanner : Scanner) (spots : List Spot) (tokens : List Token) : Prop :=
  Scans (scanner.allowKey (toNextToken scanner.inFlow false scanner.keyAllowed spots).1)
    (toNextToken scanner.inFlow false scanner.keyAllowed spots).2 tokens

theorem length_toNextToken_le (inFlow inComment allowed : Bool) (spots : List Spot) :
    (toNextToken inFlow inComment allowed spots).2.length ≤ spots.length := by
  induction spots generalizing inComment allowed with
  | nil => exact Nat.le_refl 0
  | cons spot spots ih =>
      rw [toNextToken]
      split
      · exact Nat.le_succ_of_le (ih _ _)
      · split
        · exact Nat.le_succ_of_le (ih _ _)
        · split
          · exact Nat.le_succ_of_le (ih _ _)
          · exact Nat.le_refl _

theorem unroll_allowKey (scanner : Scanner) (allowed : Bool) (column : Int) :
    (scanner.allowKey allowed).unroll column = (scanner.unroll column).allowKey allowed := by
  change (if scanner.inFlow then _ else _) = (if scanner.inFlow then _ else _ : Scanner).allowKey _
  by_cases flows : scanner.inFlow = true
  · rw [if_pos flows, if_pos flows]
  · rw [if_neg flows, if_neg flows]
    rfl

theorem dropKey_keyless {scanner : Scanner} (keyless : scanner.key = none) :
    scanner.dropKey = some scanner := by
  obtain ⟨tokens, indent, outer, allowed, key, outerKeys⟩ := scanner
  subst keyless
  rfl

theorem run_of_scans {scanner : Scanner} {spots : List Spot} {tokens : List Token} {fuel : Nat}
    (scans : ScansOn scanner spots tokens)
    (enough : (toNextToken scanner.inFlow false scanner.keyAllowed spots).2.length < fuel) :
    (scanner.run fuel spots).map Array.toList = some tokens := by
  unfold ScansOn at scans
  generalize reached : toNextToken scanner.inFlow false scanner.keyAllowed spots = next
    at scans enough
  obtain ⟨allowed, next⟩ := next
  dsimp only at scans enough
  generalize standing : scanner.allowKey allowed = current at scans
  induction scans generalizing scanner spots allowed fuel with
  | @ends current tokens keyless closed =>
      subst standing
      cases fuel with
      | zero => cases enough
      | succ fuel =>
          rw [Scanner.run, reached]
          dsimp only
          have none : scanner.key = none := keyless
          rw [dropKey_keyless none, ← closed, unroll_allowKey]
          rfl
  | @takes current fresher taken spot rest following tokens fresh took shorter later ih =>
      subst standing
      cases fuel with
      | zero => cases enough
      | succ fuel =>
          rw [Scanner.run, reached]
          dsimp only
          rw [fresh]
          simp only [Option.bind_eq_bind, Option.bind_some, took]
          refine ih _ rfl ?_ rfl
          have skipped := length_toNextToken_le taken.inFlow false taken.keyAllowed following
          rw [List.length_cons] at enough
          omega

/-! ### Inside block collections -/

/-- A scanner in a block collection, outside of every flow collection and behind no key. -/
def Scanner.block (indent : Int) (outer : List Int) (tokens : List Token) (allowed : Bool) :
    Scanner :=
  ⟨tokens.toArray, indent, outer, allowed, none, []⟩

section
variable {indent : Int} {outer : List Int} {tokens : List Token} {allowed : Bool}

theorem emit_block (token : Token) :
    (Scanner.block indent outer tokens allowed).emit token =
      .block indent outer (tokens ++ [token]) allowed := by
  simp [Scanner.block, Scanner.emit]

theorem dropStale_block (spot : Spot) :
    (Scanner.block indent outer tokens allowed).dropStale spot =
      some (.block indent outer tokens allowed) := rfl

theorem unroll_of_closeBlocks {column : Int} {closed : Int × List Int × Array Token}
    (closes : Scanner.closeBlocks column indent outer tokens.toArray = closed) :
    (Scanner.block indent outer tokens allowed).unroll column =
      ⟨closed.2.2, closed.1, closed.2.1, allowed, none, []⟩ := by
  subst closes
  rfl

theorem unroll_block {column : Int} (deep : indent ≤ column) :
    (Scanner.block indent outer tokens allowed).unroll column =
      .block indent outer tokens allowed := by
  cases outer with
  | nil => rfl
  | cons around outer =>
      have stays : Scanner.closeBlocks column indent (around :: outer) tokens.toArray =
          (indent, around :: outer, tokens.toArray) := by
        rw [Scanner.closeBlocks, if_neg (Int.not_lt.mpr deep)]
      exact unroll_of_closeBlocks stays

theorem unroll_block_close {column around : Int} (shallow : column < indent) :
    (Scanner.block indent (around :: outer) tokens allowed).unroll column =
      (Scanner.block around outer (tokens ++ [.blockEnd]) allowed).unroll column := by
  rw [unroll_of_closeBlocks rfl, unroll_of_closeBlocks rfl, Scanner.closeBlocks, if_pos shallow,
    List.push_toArray]

/-- A block collection is closed where the next token, or the end, is further left. -/
theorem scans_close {around : Int} {next : List Spot} {all : List Token}
    (shallow : ∀ spot ∈ next.head?, (spot.column : Int) < indent) (inside : -1 < indent)
    (later : Scans (.block around outer (tokens ++ [.blockEnd]) allowed) next all) :
    Scans (.block indent (around :: outer) tokens allowed) next all := by
  cases later with
  | ends keyless closed =>
      refine .ends rfl ?_
      rw [unroll_block_close inside]
      exact closed
  | @takes _ current taken spot rest following _ fresh took shorter later =>
      refine .takes (dropStale_block spot) ?_ shorter later
      rw [dropStale_block] at fresh
      cases fresh
      rw [unroll_block_close (shallow spot rfl)]
      exact took

theorem scansOn_block_takes {indent' : Int} {outer' : List Int} {tokens' : List Token}
    {allowed' : Bool} {spot : Spot} {rest following : List Spot} {all : List Token}
    (deep : indent ≤ spot.column)
    (took : (Scanner.block indent outer tokens allowed).take spot rest =
      some (.block indent' outer' tokens' allowed', following))
    (shorter : following.length ≤ rest.length)
    (later : ScansOn (.block indent' outer' tokens' allowed') following all) :
    Scans (.block indent outer tokens allowed) (spot :: rest) all :=
  .takes (dropStale_block spot) (by rw [unroll_block deep]; exact took) shorter later

/-! ### Single tokens -/

theorem take_dash {index line column : Nat} {rest : List Spot}
    (apart : ∃ next more, rest = next :: more ∧ next.char = ' ') (level : indent = column) :
    (Scanner.block indent outer tokens true).take ⟨'-', index, line, column⟩ rest =
      some (.block indent outer (tokens ++ [.blockEntry]) true, rest) := by
  obtain ⟨next, more, rfl, space⟩ := apart
  have noMarker : startsMarker '-' (⟨'-', index, line, column⟩ :: next :: more) = false := by
    cases more with
    | nil => rfl
    | cons third more => simp [startsMarker, space]
  have noDots : startsMarker '.' (⟨'-', index, line, column⟩ :: next :: more) = false := by
    cases more with
    | nil => rfl
    | cons third more => simp [startsMarker]
  have ends : endsWord (next :: more) = true := by simp [endsWord, isSpaceOrTab, space]
  have entered : (Scanner.block indent outer tokens true).blockEntry ⟨'-', index, line, column⟩ =
      some (.block indent outer (tokens ++ [.blockEntry]) true) := by
    subst level
    simp [Scanner.blockEntry, Scanner.roll, Scanner.block, Scanner.inFlow, Scanner.dropKey,
      Scanner.allowKey, Scanner.emit]
  simp [Scanner.take, noMarker, noDots, ends, entered]

theorem ne_of_noIndicator {c d : Char} (bare : Written.indicators.contains c = false)
    (indicator : Written.indicators.contains d = true) : c ≠ d := by
  rintro rfl
  rw [bare] at indicator
  cases indicator

theorem beginsPlain_of_noIndicator {inFlow : Bool} {spot : Spot} {rest : List Spot}
    (flowless : inFlow = false) (bare : Written.indicators.contains spot.char = false)
    (solid : isSpaceOrTab spot.char = false)
    (joined : spot.char = '-' ∨ spot.char = '?' ∨ spot.char = ':' → endsWord rest = false) :
    beginsPlain inFlow spot rest = true := by
  subst flowless
  have listed : (plainExclusions.all fun d =>
      (d == '-' || d == '?' || d == ':') || Written.indicators.contains d) = true := by decide
  have excluded (d : Char) (inside : d ∈ plainExclusions) :
      (d = '-' ∨ d = '?' ∨ d = ':') ∨ Written.indicators.contains d = true := by
    have known := List.all_eq_true.mp listed d inside
    simp only [Bool.or_eq_true, beq_iff_eq, or_assoc] at known ⊢
    exact known
  unfold beginsPlain
  by_cases special : spot.char = '-' ∨ spot.char = '?' ∨ spot.char = ':'
  · have onward := joined special
    rcases special with dash | question | colon
    · have noBlank : startsWithAny [' ', '\t'] rest = false := by
        cases rest with
        | nil => rfl
        | cons next more =>
            obtain ⟨noSpace, noTab⟩ :=
              Bool.or_eq_false_iff.mp (Bool.or_eq_false_iff.mp onward).1
            simp [startsWithAny, beq_eq_false_iff_ne.mp noSpace, beq_eq_false_iff_ne.mp noTab]
      simp [dash, noBlank]
    · simp [question, onward]
    · simp [colon, onward]
  · have allowed : plainExclusions.contains spot.char = false := by
      apply Bool.eq_false_iff.mpr
      intro found
      rcases excluded spot.char (List.contains_iff_mem.mp found) with word | indicator
      · exact special word
      · rw [bare] at indicator
        cases indicator
    rw [solid, allowed]
    rfl

theorem take_plain (spot : Spot) {scanner taken : Scanner} {rest following : List Spot}
    {text : String} {leftLine : Bool} (flowless : scanner.outerKeys = [])
    (bare : Written.indicators.contains spot.char = false)
    (solid : isSpaceOrTab spot.char = false)
    (joined : spot.char = '-' ∨ spot.char = '?' ∨ spot.char = ':' → endsWord rest = false)
    (unmarked : spot.column = 0 → startsMarker '-' (spot :: rest) = false ∧
      startsMarker '.' (spot :: rest) = false)
    (read : readPlain false (scanner.indent + 1) [] .none (spot :: rest) =
      some (text, leftLine, following))
    (lexed : scanner.lexeme spot (.scalar .plain text) = some taken) :
    scanner.take spot rest = some (taken.allowKey leftLine, following) := by
  have other : ∀ d, Written.indicators.contains d = true → spot.char ≠ d :=
    fun d indicator => ne_of_noIndicator bare indicator
  have noFlow : scanner.inFlow = false := by rw [Scanner.inFlow, flowless]; rfl
  have noDash : ¬ (spot.char = '-' ∧ endsWord rest = true) := by
    rintro ⟨dash, ends⟩
    rw [joined (Or.inl dash)] at ends
    cases ends
  have noQuestion : ¬ (spot.char = '?' ∧ (scanner.inFlow = true ∨ endsWord rest = true)) := by
    rintro ⟨question, flows | ends⟩
    · rw [noFlow] at flows
      cases flows
    · rw [joined (Or.inr (Or.inl question))] at ends
      cases ends
  have noColon : ¬ (spot.char = ':' ∧ (scanner.inFlow = true ∨ endsWord rest = true)) := by
    rintro ⟨colon, flows | ends⟩
    · rw [noFlow] at flows
      cases flows
    · rw [joined (Or.inr (Or.inr colon))] at ends
      cases ends
  have noStart : ¬ (spot.column = 0 ∧ startsMarker '-' (spot :: rest) = true) := by
    rintro ⟨start, marker⟩
    rw [(unmarked start).1] at marker
    cases marker
  have noEnd : ¬ (spot.column = 0 ∧ startsMarker '.' (spot :: rest) = true) := by
    rintro ⟨start, marker⟩
    rw [(unmarked start).2] at marker
    cases marker
  have begins := beginsPlain_of_noIndicator noFlow bare solid joined
  unfold Scanner.take
  dsimp only
  rw [if_neg (fun percent => other '%' rfl percent.2), if_neg noStart, if_neg noEnd,
    if_neg (other '[' rfl), if_neg (other '\x7b' rfl), if_neg (other ']' rfl),
    if_neg (other '\x7d' rfl), if_neg (other ',' rfl), if_neg noDash, if_neg noQuestion,
    if_neg noColon, if_neg (other '*' rfl), if_neg (other '&' rfl), if_neg (other '!' rfl),
    if_neg (fun block => block.1.elim (other '|' rfl) (other '>' rfl)),
    if_neg (fun quote => quote.elim (other '\x27' rfl) (other '\x22' rfl)), if_pos begins, noFlow,
    read]
  simp only [Option.bind_eq_bind, Option.bind_some, lexed]

/-! ### Keys -/

structure IsKey (name : List Char) : Prop where
  filled : name ≠ []
  short : name.length ≤ 1024
  named : ∀ c ∈ name, isNameChar c = true ∧ c ≠ '-'

theorem isPrintable_of_isNameChar {c : Char} (named : isNameChar c = true) :
    isPrintable c = true := by
  simp only [isNameChar, Bool.or_eq_true, Bool.and_eq_true, decide_eq_true_eq, beq_iff_eq] at named
  have range : 0x20 ≤ c.toNat ∧ c.toNat ≤ 0x7E := by
    rcases named with (((digit | upper) | lower) | rfl) | rfl
    · exact ⟨Nat.le_trans (by decide) digit.1, Nat.le_trans digit.2 (by decide)⟩
    · exact ⟨Nat.le_trans (by decide) upper.1, Nat.le_trans upper.2 (by decide)⟩
    · exact ⟨Nat.le_trans (by decide) lower.1, Nat.le_trans lower.2 (by decide)⟩
    · decide
    · decide
  simp [isPrintable, range.1, range.2]

theorem noIndicator_of_isNameChar {c : Char} (named : isNameChar c = true) :
    Written.indicators.contains c = false := by
  have none : (Written.indicators.all fun d => !isNameChar d) = true := by decide
  apply Bool.eq_false_iff.mpr
  intro found
  have nameless := List.all_eq_true.mp none c (List.contains_iff_mem.mp found)
  rw [named] at nameless
  cases nameless

theorem areInLine_of_names {name : List Char} (named : ∀ c ∈ name, isNameChar c = true) :
    AreInLine name := by
  intro c inside
  have letter := named c inside
  rw [isLineBreak_eq_isBreak (isPlain_of_isNameChar letter)]
  exact ⟨isPrintable_of_isNameChar letter, isBreak_of_isNameChar letter⟩

theorem holdsIndicator_of_names {name : List Char} (named : ∀ c ∈ name, isNameChar c = true)
    (before : Char) : Written.holdsIndicator before name = false := by
  induction name generalizing before with
  | nil => rfl
  | cons c name ih =>
      have first := named c List.mem_cons_self
      have noColon : (c == ':') = false := by
        apply beq_eq_false_iff_ne.mpr
        rintro rfl
        cases first
      have noComment : (c == '#') = false := by
        apply beq_eq_false_iff_ne.mpr
        rintro rfl
        cases first
      rw [Written.holdsIndicator, noColon, noComment,
        ih fun other inside => named other (List.mem_cons_of_mem _ inside)]
      rfl

/-- What a key opens: nothing in the mapping that it belongs to, and a mapping of its own where it
is further right. -/
inductive Opens (indent : Int) (outer : List Int) (column : Nat) : List Int → List Token → Prop
  | same (level : indent = column) : Opens indent outer column outer []
  | deeper (right : indent < column) :
      Opens indent outer column (indent :: outer) [.blockMappingStart]

/-- A block collection with a possible key whose name was read. -/
def Scanner.keyed (indent : Int) (outer : List Int) (tokens : List Token) (name : String)
    (index line column : Nat) : Scanner :=
  { Scanner.block indent outer (tokens ++ [.scalar .plain name]) false with
    key := some ⟨tokens.length, indent == (column : Int), index, line, column⟩ }

theorem startsMarker_of_ne {mark : Char} {spot : Spot} (differs : spot.char ≠ mark)
    (rest : List Spot) : startsMarker mark (spot :: rest) = false := by
  have first : (spot.char == mark) = false := beq_eq_false_iff_ne.mpr differs
  unfold startsMarker
  split
  · rename_i same
    cases same
    rw [first]
    rfl
  · rfl

theorem take_key {name : List Char} (key : IsKey name) {index line column : Nat}
    {written : List Char} (deep : indent ≤ column)
    (ends : ∀ index line column, endsWord (placeFrom index line column written) = true) :
    ∃ spot rest, placeFrom index line column (name ++ ':' :: written) = spot :: rest ∧
      spot.column = column ∧
      (placeFrom (index + name.length) line (column + name.length) (':' :: written)).length ≤
        rest.length ∧
      (Scanner.block indent outer tokens true).take spot rest =
        some (.keyed indent outer tokens (String.ofList name) index line column,
          placeFrom (index + name.length) line (column + name.length) (':' :: written)) := by
  have names : ∀ c ∈ name, isNameChar c = true := fun c inside => (key.named c inside).1
  have read : readPlain false (indent + 1) [] .none
      (placeFrom index line column (name ++ ':' :: written)) =
      some (String.ofList name, false,
        placeFrom (index + name.length) line (column + name.length) (':' :: written)) := by
    rw [readPlain_append (':' :: written) 'a' [] .none index line column (areInLine_of_names names)
      (holdsIndicator_of_names names 'a') ?_ (fun _ => rfl) rfl
      (fun gapped => absurd rfl gapped) (by omega), placeFrom_inLine (by decide) rfl,
      readPlain_colon _ rfl (ends _ _ _)]
    · simp [Gap.folded]
    · intro space
      cases names ' ' (List.mem_of_getLast? space)
  cases name with
  | nil => exact absurd rfl key.filled
  | cons c more =>
      obtain ⟨named, noDash⟩ := key.named c List.mem_cons_self
      have placed := placeFrom_inLine (isPlain_of_isNameChar named) (isBreak_of_isNameChar named)
        index line column (more ++ ':' :: written)
      refine ⟨_, _, placed, rfl, length_placeFrom_suffix more _ _ _ _ _ _ _, ?_⟩
      rw [List.cons_append, placed] at read
      have lexed : (Scanner.block indent outer tokens true).lexeme ⟨c, index, line, column⟩
          (.scalar .plain (String.ofList (c :: more))) =
          some (.keyed indent outer tokens (String.ofList (c :: more)) index line column) := by
        simp [Scanner.lexeme, Scanner.saveKey, Scanner.dropKey, Scanner.block, Scanner.keyed,
          Scanner.allowKey, Scanner.emit, Scanner.inFlow]
      refine take_plain ⟨c, index, line, column⟩ rfl (noIndicator_of_isNameChar named)
        (isSpaceOrTab_of_isNameChar named) ?_ ?_ read lexed
      · rintro (dash | rfl | rfl)
        · exact absurd dash noDash
        · cases named
        · cases named
      · intro _
        refine ⟨startsMarker_of_ne noDash _, startsMarker_of_ne ?_ _⟩
        rintro rfl
        cases named

theorem insertIdx_length_append {α : Type} (front back : List α) (item : α) :
    (front ++ back).insertIdx front.length item = front ++ item :: back := by
  induction front with
  | nil => rfl
  | cons first front ih =>
      rw [List.cons_append, List.length_cons, List.insertIdx_succ_cons, ih]
      rfl

/-- The colon behind a key announces it, and what it opens, before its name. -/
theorem valueMark_keyed {column : Nat} {outer' : List Int} {opened : List Token}
    (opens : Opens indent outer column outer' opened) (name : String) (index line : Nat)
    (spot : Spot) :
    (Scanner.keyed indent outer tokens name index line column).valueMark spot =
      some (.block column outer' (tokens ++ opened ++ [.key, .scalar .plain name, .value])
        false) := by
  have announced : (Scanner.keyed indent outer tokens name index line column).emitAt tokens.length
      .key = { Scanner.keyed indent outer tokens name index line column with
        tokens := (tokens ++ [Token.key, .scalar .plain name]).toArray } := by
    simp only [Scanner.emitAt, Scanner.keyed, Scanner.block, List.insertIdxIfInBounds_toArray,
      insertIdx_length_append]
  unfold Scanner.valueMark
  dsimp only [Scanner.keyed, Scanner.block] at announced ⊢
  rw [announced]
  cases opens with
  | same level =>
      simp [Scanner.roll, Scanner.inFlow, level, Scanner.emit]
  | deeper right =>
      simp [Scanner.roll, Scanner.inFlow, right, Scanner.emit, Scanner.emitAt,
        insertIdx_length_append]

theorem unroll_keyed {column around : Nat} (name : String) (index line : Nat)
    (deep : indent ≤ column) :
    (Scanner.keyed indent outer tokens name index line around).unroll column =
      .keyed indent outer tokens name index line around := by
  cases outer with
  | nil => rfl
  | cons other outer =>
      have stays : Scanner.closeBlocks column indent (other :: outer)
          (tokens ++ [Token.scalar .plain name]).toArray =
          (indent, other :: outer, (tokens ++ [Token.scalar .plain name]).toArray) := by
        rw [Scanner.closeBlocks, if_neg (Int.not_lt.mpr deep)]
      simp only [Scanner.unroll, Scanner.keyed, Scanner.block, Scanner.inFlow, List.isEmpty_nil,
        Bool.not_true, Bool.false_eq_true, if_false, stays]

theorem dropStale_keyed {column : Nat} (name : String) {index line : Nat} {spot : Spot}
    (sameLine : spot.line = line) (near : spot.index ≤ index + 1024) :
    (Scanner.keyed indent outer tokens name index line column).dropStale spot =
      some (.keyed indent outer tokens name index line column) := by
  have fresh : ¬ index + 1024 < spot.index := Nat.not_lt.mpr near
  simp [Scanner.dropStale, Scanner.keyed, Scanner.block, Scanner.isStale, sameLine, fresh]

theorem take_colon {scanner taken : Scanner} {spot : Spot} {rest : List Spot}
    (colon : spot.char = ':') (inside : spot.column ≠ 0) (ends : endsWord rest = true)
    (marked : scanner.valueMark spot = some taken) :
    scanner.take spot rest = some (taken, rest) := by
  simp [Scanner.take, colon, inside, ends, marked]

theorem stopsScanner_colon : StopsScanner ':' := ⟨rfl, rfl, by decide, by decide⟩

theorem scans_field {name : List Char} (key : IsKey name) {index line column : Nat}
    {written : List Char} {outer' : List Int} {opened all : List Token}
    (opens : Opens indent outer column outer' opened)
    (ends : ∀ index line column, endsWord (placeFrom index line column written) = true)
    (later : ScansOn
      (.block column outer'
        (tokens ++ opened ++ [.key, .scalar .plain (String.ofList name), .value]) false)
      (placeFrom (index + name.length + 1) line (column + name.length + 1) written) all) :
    Scans (.block indent outer tokens true)
      (placeFrom index line column (name ++ ':' :: written)) all := by
  have deep : indent ≤ column := by
    cases opens with
    | same level => exact Int.le_of_eq level
    | deeper right => exact Int.le_of_lt right
  have filled : 0 < name.length := List.length_pos_iff.mpr key.filled
  obtain ⟨spot, rest, placed, level, shorter, took⟩ := take_key key deep ends
  have colon : placeFrom (index + name.length) line (column + name.length) (':' :: written) = _ :=
    placeFrom_inLine (by decide) rfl _ _ _ _
  rw [placed]
  refine .takes (dropStale_block spot) (by rw [level, unroll_block deep]; exact took) shorter ?_
  rw [colon]
  have stays : toNextToken false false false (⟨':', index + name.length, line,
      column + name.length⟩ :: placeFrom (index + name.length + 1) line
        (column + name.length + 1) written) = _ :=
    toNextToken_stop _ stopsScanner_colon false _
  change Scans ((Scanner.keyed indent outer tokens (String.ofList name) index line
    column).allowKey (toNextToken false false false _).1) (toNextToken false false false _).2 all
  rw [stays]
  have right : indent ≤ (column + name.length : Nat) := by omega
  have inside : column + name.length ≠ 0 := by omega
  refine .takes (dropStale_keyed _ rfl (Nat.add_le_add_left key.short index)) ?_ (Nat.le_refl _)
    later
  change ((Scanner.keyed indent outer tokens (String.ofList name) index line column).unroll
    (column + name.length : Nat)).take _ _ = _
  rw [unroll_keyed _ _ _ right]
  exact take_colon rfl inside (ends _ _ _) (valueMark_keyed opens _ _ _ _)

end

end Yaml
end VirtualNpu
