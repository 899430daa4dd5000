import VirtualNpu.Json.Grammar

/-!
The strings of the JSON grammar against the reading of strings.  A string is read piece by
piece up to its closing quote, and it has a text exactly where its pieces denote one.
-/

namespace VirtualNpu
namespace Json

open Token (StringState readString)

/-! ### Escapes -/

private theorem digit?_of_isHexDigit {c : Char} {value : Nat} (digit : IsHexDigit c value) :
    Text.digit? 16 c = some value := by
  have small : value < 16 := by
    rcases digit with lower | upper
    · exact (List.getElem?_eq_some_iff.mp lower).1
    · exact (List.getElem?_eq_some_iff.mp upper).1
  have values : ∀ value < 16,
      ("0123456789abcdef".toList[value]?).bind (Text.digit? 16) = some value ∧
        ("0123456789ABCDEF".toList[value]?).bind (Text.digit? 16) = some value := by
    decide
  obtain ⟨lowerValue, upperValue⟩ := values value small
  rcases digit with lower | upper
  · rw [lower] at lowerValue
    exact lowerValue
  · rw [upper] at upperValue
    exact upperValue

private theorem isHexDigit_of_code {c : Char} {value : Nat} (small : value < 16)
    (code : c.toNat = 48 + value ∧ value < 10 ∨ c.toNat = 87 + value ∧ 10 ≤ value ∨
      c.toNat = 55 + value ∧ 10 ≤ value) :
    IsHexDigit c value := by
  rw [← Char.ofNat_toNat c]
  unfold IsHexDigit
  rcases code with ⟨same, range⟩ | ⟨same, range⟩ | ⟨same, range⟩
  · rw [same]
    clear same
    decide +revert
  · rw [same]
    clear same
    decide +revert
  · rw [same]
    clear same
    decide +revert

private theorem isHexDigit_of_digit? {c : Char} {value : Nat}
    (read : Text.digit? 16 c = some value) : IsHexDigit c value := by
  simp only [Text.digit?, Option.ite_none_right_eq_some, Option.some.injEq, Char.le_def,
    UInt32.le_iff_toNat_le] at read
  obtain ⟨small, same⟩ := read
  rw [same] at small
  apply isHexDigit_of_code small
  split at same
  · rename_i range
    have code : 48 ≤ c.toNat ∧ c.toNat ≤ 57 := range
    have offset : c.toNat - 48 = value := same
    omega
  · split at same
    · rename_i range
      have code : 97 ≤ c.toNat ∧ c.toNat ≤ 122 := range
      have offset : c.toNat - 97 + 10 = value := same
      omega
    · split at same
      · rename_i range
        have code : 65 ≤ c.toNat ∧ c.toNat ≤ 90 := range
        have offset : c.toNat - 65 + 10 = value := same
        omega
      · omega

theorem digit?_eq_some_iff_isHexDigit (c : Char) (value : Nat) :
    Text.digit? 16 c = some value ↔ IsHexDigit c value :=
  ⟨isHexDigit_of_digit?, digit?_of_isHexDigit⟩

theorem codeUnit?_eq_some_iff (a b c d : Char) (unit : Nat) :
    Token.codeUnit? a b c d = some unit ↔
      ∃ w x y z, IsHexDigit a w ∧ IsHexDigit b x ∧ IsHexDigit c y ∧ IsHexDigit d z ∧
        unit = ((w * 16 + x) * 16 + y) * 16 + z := by
  simp only [← digit?_eq_some_iff_isHexDigit]
  unfold Token.codeUnit? Text.natural?
  simp only [Text.readDigits?]
  constructor
  · intro read
    cases first : Text.digit? 16 a with
    | none => simp [first] at read
    | some w =>
        cases second : Text.digit? 16 b with
        | none => simp [first, second] at read
        | some x =>
            cases third : Text.digit? 16 c with
            | none => simp [first, second, third] at read
            | some y =>
                cases fourth : Text.digit? 16 d with
                | none => simp [first, second, third, fourth] at read
                | some z =>
                    simp only [first, second, third, fourth, Option.some.injEq] at read
                    refine ⟨w, x, y, z, rfl, rfl, rfl, rfl, ?_⟩
                    omega
  · rintro ⟨w, x, y, z, first, second, third, fourth, rfl⟩
    simp only [first, second, third, fourth, Option.some.injEq]
    omega

theorem shortEscape?_eq_some_iff (letter c : Char) :
    Token.shortEscape? letter = some c ↔ (letter, c) ∈ shortEscapes := by
  unfold Token.shortEscape? shortEscapes
  constructor
  · intro read
    repeat' split at read
    all_goals
      first
      | subst letter
        cases read
        decide
      | cases read
  · intro listed
    simp only [List.mem_cons, Prod.mk.injEq, List.not_mem_nil, or_false] at listed
    rcases listed with ⟨rfl, rfl⟩ | ⟨rfl, rfl⟩ | ⟨rfl, rfl⟩ | ⟨rfl, rfl⟩ | ⟨rfl, rfl⟩ |
      ⟨rfl, rfl⟩ | ⟨rfl, rfl⟩ | ⟨rfl, rfl⟩ <;> rfl

/-! ### What pieces denote -/

theorem Denotes.unique {pieces : List Piece} {first second : List Char}
    (one : Denotes pieces first) (other : Denotes pieces second) : first = second := by
  induction one generalizing second with
  | nil =>
      cases other
      rfl
  | char tail ih =>
      cases other with
      | char otherTail => rw [ih otherTail]
  | unit notHigh notLow tail ih =>
      cases other with
      | unit _ _ otherTail => rw [ih otherTail]
      | pair isHigh _ otherTail => exact absurd isHigh notHigh
  | pair isHigh isLow tail ih =>
      cases other with
      | unit notHigh _ otherTail => exact absurd isHigh notHigh
      | pair _ _ otherTail => rw [ih otherTail]

theorem denotes_char_iff {c : Char} {pieces : List Piece} {cs : List Char} :
    Denotes (.char c :: pieces) cs ↔ ∃ tail, Denotes pieces tail ∧ cs = c :: tail := by
  constructor
  · rintro (_ | tail)
    exact ⟨_, tail, rfl⟩
  · rintro ⟨tail, denoted, rfl⟩
    exact .char denoted

theorem denotes_scalar_iff {value : Nat} {pieces : List Piece} {cs : List Char}
    (notHigh : ¬ IsHighSurrogate value) (notLow : ¬ IsLowSurrogate value) :
    Denotes (.unit value :: pieces) cs ↔
      ∃ tail, Denotes pieces tail ∧ cs = Char.ofNat value :: tail := by
  constructor
  · intro denoted
    cases denoted with
    | unit _ _ tail => exact ⟨_, tail, rfl⟩
    | pair isHigh _ tail => exact absurd isHigh notHigh
  · rintro ⟨tail, denoted, rfl⟩
    exact .unit notHigh notLow denoted

theorem denotes_pair_iff {high low : Nat} {pieces : List Piece} {cs : List Char}
    (isHigh : IsHighSurrogate high) (isLow : IsLowSurrogate low) :
    Denotes (.unit high :: .unit low :: pieces) cs ↔
      ∃ tail, Denotes pieces tail ∧ cs = Token.pairedChar high low :: tail := by
  constructor
  · intro denoted
    cases denoted with
    | unit notHigh _ tail => exact absurd isHigh notHigh
    | pair _ _ tail => exact ⟨_, tail, rfl⟩
  · rintro ⟨tail, denoted, rfl⟩
    exact .pair isHigh isLow denoted

theorem not_denotes_low {low : Nat} {pieces : List Piece} {cs : List Char}
    (isLow : IsLowSurrogate low) : ¬ Denotes (.unit low :: pieces) cs := by
  intro denoted
  cases denoted with
  | unit _ notLow tail => exact notLow isLow
  | pair isHigh _ tail =>
      unfold IsHighSurrogate at isHigh
      unfold IsLowSurrogate at isLow
      omega

theorem not_denotes_unpaired {high : Nat} {pieces : List Piece} {cs : List Char}
    (isHigh : IsHighSurrogate high)
    (unpaired : ∀ low rest, pieces = .unit low :: rest → ¬ IsLowSurrogate low) :
    ¬ Denotes (.unit high :: pieces) cs := by
  intro denoted
  cases denoted with
  | unit notHigh _ tail => exact notHigh isHigh
  | pair _ isLow tail => exact unpaired _ _ rfl isLow

/-! ### The state of a string -/

theorem isLowSurrogate_iff (value : Nat) :
    Token.isLowSurrogate value = true ↔ IsLowSurrogate value := by
  simp [Token.isLowSurrogate, IsLowSurrogate]

theorem isHighSurrogate_iff (value : Nat) :
    Token.isHighSurrogate value = true ↔ IsHighSurrogate value := by
  simp [Token.isHighSurrogate, IsHighSurrogate]

theorem pushUnit_low {state : StringState} {low : Nat} (isLow : IsLowSurrogate low) :
    state.pushUnit low =
      ⟨state.pending.bind fun high => state.text.map (Token.pairedChar high low :: ·), none⟩ := by
  unfold StringState.pushUnit
  rw [if_pos ((isLowSurrogate_iff low).mpr isLow)]
  cases state.pending <;> rfl

theorem pushUnit_high {state : StringState} {high : Nat} (isHigh : IsHighSurrogate high) :
    state.pushUnit high = ⟨state.settle.text, some high⟩ := by
  have notLow : ¬ IsLowSurrogate high := by
    unfold IsHighSurrogate at isHigh
    unfold IsLowSurrogate
    omega
  unfold StringState.pushUnit
  rw [if_neg (mt (isLowSurrogate_iff high).mp notLow),
    if_pos ((isHighSurrogate_iff high).mpr isHigh)]

theorem pushUnit_scalar {state : StringState} {value : Nat}
    (notHigh : ¬ IsHighSurrogate value) (notLow : ¬ IsLowSurrogate value) :
    state.pushUnit value = state.push (Char.ofNat value) := by
  unfold StringState.pushUnit
  rw [if_neg (mt (isLowSurrogate_iff value).mp notLow),
    if_neg (mt (isHighSurrogate_iff value).mp notHigh)]

def Piece.absorb (state : StringState) : Piece → StringState
  | .char c => state.push c
  | .unit value => state.pushUnit value

private theorem absorb_spoilt (piece : Piece) (pending : Option Nat) :
    (Piece.absorb ⟨none, pending⟩ piece).text = none := by
  cases piece with
  | char c => cases pending <;> rfl
  | unit value =>
      change (StringState.pushUnit ⟨none, pending⟩ value).text = none
      by_cases isLow : IsLowSurrogate value
      · rw [pushUnit_low isLow]
        cases pending <;> rfl
      · by_cases isHigh : IsHighSurrogate value
        · rw [pushUnit_high isHigh]
          cases pending <;> rfl
        · rw [pushUnit_scalar isHigh isLow]
          cases pending <;> rfl

/-- Whether a state and the pieces behind it make up a text.  A pending surrogate stands in
front of the pieces, and a state that has lost its text makes up none. -/
private def MakesUp (state : StringState) (pieces : List Piece) (text : List Char) : Prop :=
  ∃ read, state.text = some read ∧
    ∃ cs, Denotes (state.pending.toList.map Piece.unit ++ pieces) cs ∧ text = read.reverse ++ cs

private def PendsHigh (state : StringState) : Prop :=
  ∀ high, state.pending = some high → IsHighSurrogate high

private theorem makesUp_some (read : List Char) (pending : Option Nat) (pieces : List Piece)
    (text : List Char) :
    MakesUp ⟨some read, pending⟩ pieces text ↔
      ∃ cs, Denotes (pending.toList.map Piece.unit ++ pieces) cs ∧ text = read.reverse ++ cs := by
  simp [MakesUp]

private theorem not_makesUp {state : StringState} {pieces : List Piece}
    (nothing : state.text = none ∨
      ∀ cs, ¬ Denotes (state.pending.toList.map Piece.unit ++ pieces) cs)
    (text : List Char) : ¬ MakesUp state pieces text := by
  rintro ⟨read, kept, cs, denoted, _⟩
  rcases nothing with spoilt | nothing
  · rw [spoilt] at kept
    cases kept
  · exact nothing cs denoted

private theorem denotes_shift (rest : List Piece) (c : Char) (read text : List Char) :
    (∃ cs, Denotes rest cs ∧ text = (c :: read).reverse ++ cs) ↔
      ∃ cs, (∃ tail, Denotes rest tail ∧ cs = c :: tail) ∧ text = read.reverse ++ cs := by
  constructor
  · rintro ⟨cs, denoted, same⟩
    exact ⟨c :: cs, ⟨cs, denoted, rfl⟩, by simpa using same⟩
  · rintro ⟨_, ⟨cs, denoted, rfl⟩, same⟩
    exact ⟨cs, denoted, by simpa using same⟩

private theorem absorb_pendsHigh (state : StringState) (piece : Piece) :
    PendsHigh (piece.absorb state) := by
  intro high pending
  cases piece with
  | char c =>
      cases held : state.pending <;>
        simp [Piece.absorb, StringState.push, StringState.settle, held] at pending
  | unit value =>
      change (state.pushUnit value).pending = some high at pending
      by_cases isLow : IsLowSurrogate value
      · rw [pushUnit_low isLow] at pending
        cases pending
      · by_cases isHigh : IsHighSurrogate value
        · rw [pushUnit_high isHigh] at pending
          cases pending
          exact isHigh
        · rw [pushUnit_scalar isHigh isLow] at pending
          cases held : state.pending <;>
            simp [StringState.push, StringState.settle, held] at pending

/-- Absorbing a piece keeps what a state and the pieces behind it make up. -/
private theorem makesUp_absorb {state : StringState} (pendsHigh : PendsHigh state)
    (piece : Piece) (rest : List Piece) (text : List Char) :
    MakesUp (piece.absorb state) rest text ↔ MakesUp state (piece :: rest) text := by
  obtain ⟨read?, pending⟩ := state
  cases read? with
  | none =>
      exact iff_of_false (not_makesUp (Or.inl (absorb_spoilt piece pending)) text)
        (not_makesUp (Or.inl rfl) text)
  | some read =>
      cases pending with
      | none =>
          rw [makesUp_some]
          cases piece with
          | char c =>
              simp only [Option.toList_none, List.map_nil, List.nil_append, denotes_char_iff]
              rw [← denotes_shift]
              exact makesUp_some (c :: read) none rest text
          | unit value =>
              change MakesUp (StringState.pushUnit ⟨some read, none⟩ value) rest text ↔ _
              by_cases isLow : IsLowSurrogate value
              · rw [← makesUp_some, pushUnit_low isLow]
                exact iff_of_false (not_makesUp (Or.inl rfl) text)
                  (not_makesUp (Or.inr fun cs => not_denotes_low isLow) text)
              · by_cases isHigh : IsHighSurrogate value
                · rw [pushUnit_high isHigh]
                  exact makesUp_some read (some value) rest text
                · simp only [Option.toList_none, List.map_nil, List.nil_append,
                    denotes_scalar_iff isHigh isLow]
                  rw [← denotes_shift, pushUnit_scalar isHigh isLow]
                  exact makesUp_some (Char.ofNat value :: read) none rest text
      | some high =>
          have waiting : IsHighSurrogate high := pendsHigh high rfl
          cases piece with
          | char c =>
              exact iff_of_false (not_makesUp (Or.inl rfl) text)
                (not_makesUp (Or.inr fun cs => not_denotes_unpaired waiting (by simp)) text)
          | unit value =>
              change MakesUp (StringState.pushUnit ⟨some read, some high⟩ value) rest text ↔ _
              by_cases isLow : IsLowSurrogate value
              · rw [makesUp_some, pushUnit_low isLow]
                simp only [Option.toList_some, List.map_cons, List.map_nil, List.cons_append,
                  List.nil_append, denotes_pair_iff waiting isLow]
                rw [← denotes_shift]
                exact makesUp_some (Token.pairedChar high value :: read) none rest text
              · have unpaired : ∀ low others,
                    (Piece.unit value :: rest) = .unit low :: others → ¬ IsLowSurrogate low := by
                  intro low others same
                  cases same
                  exact isLow
                have lost : (StringState.pushUnit ⟨some read, some high⟩ value).text = none := by
                  by_cases isHigh : IsHighSurrogate value
                  · rw [pushUnit_high isHigh]
                    rfl
                  · rw [pushUnit_scalar isHigh isLow]
                    rfl
                exact iff_of_false (not_makesUp (Or.inl lost) text)
                  (not_makesUp (Or.inr fun cs => not_denotes_unpaired waiting unpaired) text)

private theorem finish_eq_some_iff {state : StringState} (pendsHigh : PendsHigh state)
    (s : String) : state.finish = some s ↔ MakesUp state [] s.toList := by
  obtain ⟨read?, pending⟩ := state
  cases pending with
  | none =>
      cases read? with
      | none =>
          exact iff_of_false (by simp [StringState.finish, StringState.settle])
            (not_makesUp (Or.inl rfl) _)
      | some read =>
          rw [makesUp_some]
          change some (String.ofList read.reverse) = some s ↔ _
          constructor
          · intro same
            cases same
            exact ⟨[], .nil, by simp⟩
          · rintro ⟨cs, denoted, same⟩
            cases denoted
            rw [List.append_nil] at same
            rw [← same, String.ofList_toList]
  | some high =>
      have unpaired : ∀ low others, ([] : List Piece) = .unit low :: others →
          ¬ IsLowSurrogate low := by simp
      exact iff_of_false (by simp [StringState.finish, StringState.settle])
        (not_makesUp (Or.inr fun cs => not_denotes_unpaired (pendsHigh high rfl) unpaired) _)

private theorem finish_foldl_absorb (pieces : List Piece) {state : StringState}
    (pendsHigh : PendsHigh state) (s : String) :
    (pieces.foldl Piece.absorb state).finish = some s ↔ MakesUp state pieces s.toList := by
  induction pieces generalizing state with
  | nil => exact finish_eq_some_iff pendsHigh s
  | cons piece rest ih =>
      rw [List.foldl_cons, ih (absorb_pendsHigh state piece)]
      exact makesUp_absorb pendsHigh piece rest s.toList

theorem finish_absorbed_iff (pieces : List Piece) (s : String) :
    (pieces.foldl Piece.absorb StringState.start).finish = some s ↔ Denotes pieces s.toList := by
  have nonePending : PendsHigh StringState.start := by
    intro high pending
    cases pending
  rw [finish_foldl_absorb pieces nonePending]
  simp [StringState.start, makesUp_some]

/-! ### Reading a string -/

private theorem readString_plain {c : Char} (printable : 0x20 ≤ c.toNat)
    (noQuote : c ≠ '\x22') (noBackslash : c ≠ '\\') (state : StringState) (rest : List Char) :
    readString state (c :: rest) = readString (state.push c) rest := by
  have allowed : ¬ (c = '\\' ∨ c.toNat < 0x20) := by
    rintro (backslash | control)
    · exact noBackslash backslash
    · omega
  rw [readString, if_neg noQuote, if_neg allowed]
  · rintro _ _ _ _ _ rfl
    exact absurd rfl noBackslash
  · rintro _ _ rfl
    exact absurd rfl noBackslash

private theorem readString_piece {piece : Piece} {cs : List Char}
    (spelled : PieceSpelling piece cs) (state : StringState) (rest : List Char) :
    readString state (cs ++ rest) = readString (piece.absorb state) rest := by
  cases spelled with
  | plain printable noQuote noBackslash =>
      exact readString_plain printable noQuote noBackslash state rest
  | @short letter c listed =>
      have read := (shortEscape?_eq_some_iff letter c).mpr listed
      have notUnit : letter ≠ 'u' := by
        rintro rfl
        cases read
      simp [readString, notUnit, read]
      rfl
  | @unit a b c d w x y z first second third fourth =>
      have read := (codeUnit?_eq_some_iff a b c d _).mpr
        ⟨w, x, y, z, first, second, third, fourth, rfl⟩
      simp only [List.cons_append, List.nil_append, readString, read]
      rfl

theorem readString_of_spelling {pieces : List Piece} {body : List Char}
    (spelled : BodySpelling pieces body) (state : StringState) (rest : List Char) :
    readString state (body ++ '\x22' :: rest) =
      some ((pieces.foldl Piece.absorb state).finish, rest) := by
  induction spelled generalizing state with
  | nil => rfl
  | cons head tail ih =>
      rw [List.append_assoc, readString_piece head, ih]
      rfl

/-- A text begins with a body that ends as `text` from a state, and with a closing quote. -/
private def HasBody (state : StringState) (cs : List Char) (text : Option String)
    (rest : List Char) : Prop :=
  ∃ pieces body, BodySpelling pieces body ∧ cs = body ++ '\x22' :: rest ∧
    text = (pieces.foldl Piece.absorb state).finish

private theorem hasBody_cons {state : StringState} {piece : Piece} {front cs rest : List Char}
    {text : Option String} (spelled : PieceSpelling piece front)
    (others : HasBody (piece.absorb state) cs text rest) :
    HasBody state (front ++ cs) text rest := by
  obtain ⟨pieces, body, spelledOthers, rfl, finished⟩ := others
  refine ⟨piece :: pieces, front ++ body, .cons spelled spelledOthers, ?_, finished⟩
  rw [List.append_assoc]

private theorem hasBody_of_readString {state : StringState} {cs rest : List Char}
    {text : Option String} (read : readString state cs = some (text, rest)) :
    HasBody state cs text rest := by
  fun_induction readString state cs with
  | case1 => cases read
  | case2 state a b c d others unit found ih =>
      obtain ⟨w, x, y, z, first, second, third, fourth, rfl⟩ :=
        (codeUnit?_eq_some_iff a b c d unit).mp found
      exact hasBody_cons (.unit first second third fourth) (ih read)
  | case3 => cases read
  | case4 state letter others _notUnit c found ih =>
      exact hasBody_cons (.short ((shortEscape?_eq_some_iff letter c).mp found)) (ih read)
  | case5 => cases read
  | case6 state others =>
      cases read
      exact ⟨[], [], .nil, rfl, rfl⟩
  | case7 => cases read
  | case8 state c others _notUnit _notShort noQuote allowed ih =>
      obtain ⟨noBackslash, printable⟩ := not_or.mp allowed
      exact hasBody_cons (.plain (by omega) noQuote noBackslash) (ih read)

/-- A string is read exactly up to the first closing quote behind spelled pieces, and it has
the text that its pieces denote. -/
theorem readString_start_eq_some_iff (cs rest : List Char) (text : Option String) :
    readString .start cs = some (text, rest) ↔
      ∃ pieces body, BodySpelling pieces body ∧ cs = body ++ '\x22' :: rest ∧
        ∀ s, text = some s ↔ Denotes pieces s.toList := by
  constructor
  · intro read
    obtain ⟨pieces, body, spelled, same, rfl⟩ := hasBody_of_readString read
    exact ⟨pieces, body, spelled, same, finish_absorbed_iff pieces⟩
  · rintro ⟨pieces, body, spelled, rfl, denoted⟩
    have sameText : (pieces.foldl Piece.absorb StringState.start).finish = text := by
      apply Option.ext
      intro s
      rw [finish_absorbed_iff, denoted]
    rw [readString_of_spelling spelled, sameText]

end Json
end VirtualNpu
