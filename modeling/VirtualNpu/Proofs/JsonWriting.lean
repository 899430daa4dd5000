import VirtualNpu.Json.Writer
import VirtualNpu.Proofs.Decimals
import VirtualNpu.Proofs.JsonTexts

/-!
The writer against the JSON grammar: what it writes is a text of the value, without white
space, so the reader gets the same value back.
-/

namespace VirtualNpu
namespace Json

/-- Values that can be written as they are: their numbers are numbers of the grammar, and
their strings and names have texts. -/
inductive Writable : Value → Prop
  | null : Writable .null
  | bool {b : Bool} : Writable (.bool b)
  | number {lexeme : String} (spelled : NumberSpelling lexeme.toList) :
      Writable (.number lexeme)
  | text {s : String} : Writable (.text s)
  | array {items : List Value} (all : ∀ item ∈ items, Writable item) : Writable (.array items)
  | record {members : List (String × Value)} (all : ∀ member ∈ members, Writable member.2) :
      Writable (.record members)

theorem writable_map {α : Type} {toJson : α → Value} (each : ∀ item, Writable (toJson item))
    (items : List α) : Writable (.array (items.map toJson)) := by
  apply Writable.array
  intro value inside
  obtain ⟨item, _, rfl⟩ := List.mem_map.mp inside
  exact each item

/-! ### Strings -/

private theorem isHexDigit_hexDigit {n : Nat} (small : n < 16) : IsHexDigit (hexDigit n) n := by
  unfold IsHexDigit hexDigit
  decide +revert

private theorem control_spelling {c : Char} (control : c.toNat < 0x20) :
    PieceSpelling (.unit c.toNat)
      ['\\', 'u', '0', '0', hexDigit (c.toNat / 16), hexDigit c.toNat] := by
  have zero : IsHexDigit '0' 0 := isHexDigit_hexDigit (by omega)
  have third : IsHexDigit (hexDigit (c.toNat / 16)) (c.toNat / 16) :=
    isHexDigit_hexDigit (by omega)
  have fourth : IsHexDigit (hexDigit c.toNat) (c.toNat % 16) := by
    have digit : IsHexDigit (hexDigit (c.toNat % 16)) (c.toNat % 16) :=
      isHexDigit_hexDigit (Nat.mod_lt _ (by omega))
    unfold hexDigit at digit ⊢
    rw [Nat.mod_mod] at digit
    exact digit
  have spelled := PieceSpelling.unit zero zero third fourth
  have value : ((0 * 16 + 0) * 16 + c.toNat / 16) * 16 + c.toNat % 16 = c.toNat := by omega
  rw [value] at spelled
  exact spelled

private def Spelled (c : Char) (cs : List Char) : Prop :=
  ∃ piece, PieceSpelling piece cs ∧
    ∀ pieces rest, Denotes pieces rest → Denotes (piece :: pieces) (c :: rest)

private theorem spelled_short {letter c : Char} (listed : (letter, c) ∈ shortEscapes) :
    Spelled c ['\\', letter] :=
  ⟨.char c, .short listed, fun _ _ => .char⟩

private theorem spelled_control {c : Char} (control : c.toNat < 0x20) :
    Spelled c ['\\', 'u', '0', '0', hexDigit (c.toNat / 16), hexDigit c.toNat] := by
  refine ⟨.unit c.toNat, control_spelling control, ?_⟩
  intro pieces rest denoted
  have denotedUnit : Denotes (.unit c.toNat :: pieces) (Char.ofNat c.toNat :: rest) := by
    apply Denotes.unit _ _ denoted
    · unfold IsHighSurrogate
      omega
    · unfold IsLowSurrogate
      omega
  rw [Char.ofNat_toNat] at denotedUnit
  exact denotedUnit

private theorem spelled_escapedChar (c : Char) : Spelled c (escapedChar c) := by
  unfold escapedChar
  split
  · rename_i quote
    rw [quote]
    exact spelled_short (by decide)
  · rename_i noQuote
    split
    · rename_i backslash
      rw [backslash]
      exact spelled_short (by decide)
    · rename_i noBackslash
      iterate 5
        split
        · rename_i same
          rw [same]
          exact spelled_short (by decide)
      split
      · rename_i control
        exact spelled_control control
      · exact ⟨.char c, .plain (by omega) noQuote noBackslash, fun _ _ => .char⟩

private theorem escaped_body (cs : List Char) :
    ∃ pieces, BodySpelling pieces (cs.flatMap escapedChar) ∧ Denotes pieces cs := by
  induction cs with
  | nil => exact ⟨[], .nil, .nil⟩
  | cons c cs ih =>
      obtain ⟨pieces, spelled, denoted⟩ := ih
      obtain ⟨piece, head, denotes⟩ := spelled_escapedChar c
      refine ⟨piece :: pieces, ?_, denotes pieces cs denoted⟩
      rw [List.flatMap_cons]
      exact .cons head spelled

theorem writtenString_spelling (s : String) :
    TokenSpelling (.string (some s)) (writtenString s) := by
  obtain ⟨pieces, spelled, denoted⟩ := escaped_body s.toList
  refine .string spelled ?_
  intro other
  constructor
  · intro same
    cases same
    exact denoted
  · intro otherDenoted
    have same : s.toList = other.toList := denoted.unique otherDenoted
    rw [String.toList_inj.mp same]

/-! ### Values -/

private theorem spells_cons {token : Token} {tokens : List Token} {cs rest : List Char}
    (head : TokenSpelling token cs) (tail : Spells tokens rest) :
    Spells (token :: tokens) (cs ++ rest) := by
  have nothing : ∀ c ∈ ([] : List Char), Token.isSpace c = true := by simp
  exact .cons nothing head tail

private theorem spells_single {token : Token} {cs : List Char} (head : TokenSpelling token cs) :
    Spells [token] cs := by
  have spelled := spells_cons head (.nil (by simp) : Spells [] [])
  rw [List.append_nil] at spelled
  exact spelled

private theorem spells_writeItems (items : List Value)
    (all : ∀ item ∈ items, Spells item.tokens item.write) :
    Spells (itemTokens items) (writeItems items) := by
  induction items with
  | nil => exact spells_single .closeArray
  | cons item items ih =>
      have others := ih fun other member => all other (List.mem_cons_of_mem item member)
      exact spells_cons .comma ((all item List.mem_cons_self).append others)

private theorem spells_member {name : String} {value : Value} {tokens : List Token}
    {cs : List Char} (spelled : Spells value.tokens value.write) (others : Spells tokens cs) :
    Spells (.string (some name) :: .colon :: (value.tokens ++ tokens))
      (writtenString name ++ ':' :: (value.write ++ cs)) :=
  spells_cons (writtenString_spelling name) (spells_cons .colon (spelled.append others))

private theorem spells_writeMembers (members : List (String × Value))
    (all : ∀ member ∈ members, Spells member.2.tokens member.2.write) :
    Spells (memberTokens (members.map fun member => (some member.1, member.2)))
      (writeMembers (members.map fun member => (some member.1, member.2))) := by
  induction members with
  | nil => exact spells_single .closeObject
  | cons member members ih =>
      have others := ih fun other inside => all other (List.mem_cons_of_mem member inside)
      exact spells_cons .comma (spells_member (all member List.mem_cons_self) others)

theorem spells_write {value : Value} (writable : Writable value) :
    Spells value.tokens value.write := by
  induction writable with
  | null => exact spells_single .null
  | @bool b =>
      cases b with
      | true => exact spells_single .isTrue
      | false => exact spells_single .isFalse
  | @number lexeme spelled =>
      have written := spells_single (.number spelled)
      rw [String.ofList_toList] at written
      exact written
  | @text s => exact spells_single (writtenString_spelling s)
  | @array items all ih =>
      cases items with
      | nil => exact spells_cons .openArray (spells_single .closeArray)
      | cons item items =>
          have others := spells_writeItems items fun other member =>
            ih other (List.mem_cons_of_mem item member)
          exact spells_cons .openArray ((ih item List.mem_cons_self).append others)
  | @record members all ih =>
      cases members with
      | nil => exact spells_cons .openObject (spells_single .closeObject)
      | cons member members =>
          have others := spells_writeMembers members fun other inside =>
            ih other (List.mem_cons_of_mem member inside)
          exact spells_cons .openObject (spells_member (ih member List.mem_cons_self) others)

theorem parse?_render {value : Value} (writable : Writable value) :
    Value.parse? value.render = some value := by
  rw [parse?_eq_some_iff, IsText, Value.render, String.toList_ofList]
  exact spells_write writable

/-! ### Numbers -/

theorem wholePart_toDigits (n : Nat) : WholePart (Nat.toDigits 10 n) := by
  by_cases zero : n = 0
  · subst zero
    exact .zero
  · obtain ⟨lead, rest, digits, nonzero⟩ := Text.toDigits_lead (Nat.pos_of_ne_zero zero)
    have all := Text.isDigit_of_mem_toDigits n
    rw [digits] at all ⊢
    refine .digits (all lead List.mem_cons_self) nonzero ?_
    intro c member
    exact all c (List.mem_cons_of_mem lead member)

private theorem numberSpelling_of_wholePart {sign whole : List Char}
    (signed : sign = [] ∨ sign = ['-']) (isWhole : WholePart whole) :
    NumberSpelling (sign ++ whole) := by
  have spelled := NumberSpelling.parts signed isWhole .absent .absent
  rw [List.append_nil, List.append_nil] at spelled
  exact spelled

theorem writable_nat (n : Nat) : Writable (.nat n) := by
  apply Writable.number
  rw [String.toList_ofList]
  exact numberSpelling_of_wholePart (Or.inl rfl) (wholePart_toDigits n)

theorem writable_int (n : Int) : Writable (.int n) := by
  cases n with
  | ofNat n => exact writable_nat n
  | negSucc n =>
      apply Writable.number
      rw [String.toList_ofList]
      exact numberSpelling_of_wholePart (Or.inr rfl) (wholePart_toDigits (n + 1))

end Json
end VirtualNpu
