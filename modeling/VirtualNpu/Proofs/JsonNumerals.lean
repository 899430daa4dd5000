import VirtualNpu.Json.Grammar
import VirtualNpu.Proofs.JsonRecords

/-!
Whole numbers in JSON texts.  The numbers of a text have no leading zeros, so a number that is
read as a whole number is the numeral of that number, and no other spelling of it is read.
-/

namespace VirtualNpu
namespace Text

theorem digitChar_of_digit? {c : Char} {d : Nat} (read : digit? 10 c = some d) :
    d < 10 ∧ Nat.digitChar d = c := by
  unfold digit? at read
  dsimp only at read
  by_cases decimal : '0' ≤ c ∧ c ≤ '9'
  · rw [if_pos decimal] at read
    split at read
    · rename_i small
      rw [← Option.some.inj read]
      refine ⟨small, Char.toNat_inj.mp ?_⟩
      rw [Nat.toNat_digitChar_of_lt_ten small]
      have lower : '0'.toNat ≤ c.toNat := decimal.1
      exact Nat.add_sub_of_le lower
    · cases read
  · -- a letter counts ten at least
    rw [if_neg decimal] at read
    have large : 10 ≤ if 'a' ≤ c ∧ c ≤ 'z' then c.toNat - 'a'.toNat + 10
        else if 'A' ≤ c ∧ c ≤ 'Z' then c.toNat - 'A'.toNat + 10 else 10 := by
      split
      · omega
      · split <;> omega
    rw [if_neg (Nat.not_lt.mpr large)] at read
    cases read

theorem toDigits_of_readDigits? {value n : Nat} {cs : List Char} (positive : 0 < value)
    (read : readDigits? 10 value cs = some n) :
    Nat.toDigits 10 n = Nat.toDigits 10 value ++ cs := by
  induction cs generalizing value with
  | nil =>
      rw [← Option.some.inj read, List.append_nil]
  | cons c cs ih =>
      rw [readDigits?] at read
      cases digit : digit? 10 c with
      | none =>
          rw [digit] at read
          cases read
      | some d =>
          rw [digit] at read
          obtain ⟨small, shown⟩ := digitChar_of_digit? digit
          have last := toDigits_ten_of_le (show 10 ≤ value * 10 + d by omega)
          have tens : (value * 10 + d) / 10 = value := by omega
          have units : (value * 10 + d) % 10 = d := by omega
          rw [tens, units, shown] at last
          rw [ih (by omega) read, last, List.append_assoc, List.singleton_append]

theorem toDigits_of_natural? {lead : Char} {rest : List Char} {n : Nat} (nonzero : lead ≠ '0')
    (read : natural? 10 (lead :: rest) = some n) : Nat.toDigits 10 n = lead :: rest := by
  rw [natural?, readDigits?] at read
  · cases digit : digit? 10 lead with
    | none =>
        rw [digit] at read
        cases read
    | some d =>
        simp only [digit, Nat.zero_mul, Nat.zero_add] at read
        obtain ⟨small, shown⟩ := digitChar_of_digit? digit
        have positive : 0 < d := by
          apply Nat.pos_of_ne_zero
          rintro rfl
          exact nonzero shown.symm
        rw [toDigits_of_readDigits? positive read, Nat.toDigits_of_lt_base small, shown,
          List.singleton_append]
  · exact List.cons_ne_nil lead rest

end Text

namespace Json

/-! ### Numerals among the numbers -/

theorem NumberSpelling.numeral {cs : List Char} (spelled : NumberSpelling cs) {n : Nat}
    (read : Text.natural? 10 cs = some n) : cs = Nat.toDigits 10 n := by
  cases spelled with
  | @parts sign whole fraction exponent signed isWhole isFraction isExponent =>
      -- a zero in front leaves no room for further digits, and other characters are not read
      rcases signed with rfl | rfl
      · cases isWhole with
        | digits digit nonzero others => exact (Text.toDigits_of_natural? nonzero read).symm
        | zero =>
            cases isFraction with
            | point some all => cases read
            | absent =>
                cases isExponent with
                | absent =>
                    cases read
                    rfl
                | power marked signed some all =>
                    rcases marked with rfl | rfl <;> cases read
      · cases read

theorem NumberSpelling.unsigned {cs : List Char} (spelled : NumberSpelling ('-' :: cs)) :
    NumberSpelling cs := by
  generalize same : '-' :: cs = signedCs at spelled
  cases spelled with
  | @parts sign whole fraction exponent signed isWhole isFraction isExponent =>
      rcases signed with rfl | rfl
      · cases isWhole with
        | zero => cases same
        | digits digit nonzero others =>
            cases same
            cases digit
      · cases same
        exact .parts (Or.inl rfl) isWhole isFraction isExponent

/-! ### Values of texts -/

/-- Whether the numbers in a value are spelled as those of a text are. -/
def Value.IsSpelled (value : Value) : Prop :=
  ∀ lexeme, Token.number lexeme ∈ value.tokens → NumberSpelling lexeme.toList

theorem Spells.number {tokens : List Token} {cs : List Char} (spelled : Spells tokens cs)
    {lexeme : String} (inside : Token.number lexeme ∈ tokens) : NumberSpelling lexeme.toList := by
  induction spelled with
  | nil => cases inside
  | cons blank head tail ih =>
      rcases List.mem_cons.mp inside with rfl | later
      · cases head with
        | number spelled =>
            rw [String.toList_ofList]
            exact spelled
      · exact ih later

theorem isSpelled_of_isText {value : Value} {text : String} (isText : IsText value text) :
    value.IsSpelled :=
  fun _ inside => Spells.number isText inside

theorem mem_itemTokens {token : Token} {item : Value} {items : List Value} (inside : item ∈ items)
    (among : token ∈ item.tokens) : token ∈ itemTokens items := by
  induction items with
  | nil => cases inside
  | cons first items ih =>
      rw [itemTokens]
      apply List.mem_cons_of_mem
      rcases List.mem_cons.mp inside with rfl | later
      · exact List.mem_append_left _ among
      · exact List.mem_append_right _ (ih later)

theorem mem_memberTokens {token : Token} {member : Option String × Value}
    {members : List (Option String × Value)} (inside : member ∈ members)
    (among : token ∈ member.2.tokens) : token ∈ memberTokens members := by
  induction members with
  | nil => cases inside
  | cons first members ih =>
      obtain ⟨name, value⟩ := first
      rw [memberTokens]
      iterate 3 apply List.mem_cons_of_mem
      rcases List.mem_cons.mp inside with rfl | later
      · exact List.mem_append_left _ among
      · exact List.mem_append_right _ (ih later)

theorem Value.IsSpelled.item {items : List Value} {item : Value}
    (spelled : (Value.array items).IsSpelled) (inside : item ∈ items) : item.IsSpelled := by
  intro lexeme among
  apply spelled
  cases items with
  | nil => cases inside
  | cons first items =>
      rw [Value.tokens]
      apply List.mem_cons_of_mem
      rcases List.mem_cons.mp inside with rfl | later
      · exact List.mem_append_left _ among
      · exact List.mem_append_right _ (mem_itemTokens later among)

theorem Value.IsSpelled.member {members : List (Option String × Value)}
    {member : Option String × Value} (spelled : (Value.object members).IsSpelled)
    (inside : member ∈ members) : member.2.IsSpelled := by
  intro lexeme among
  apply spelled
  cases members with
  | nil => cases inside
  | cons first members =>
      rw [Value.tokens]
      iterate 3 apply List.mem_cons_of_mem
      rcases List.mem_cons.mp inside with rfl | later
      · exact List.mem_append_left _ among
      · exact List.mem_append_right _ (mem_memberTokens later among)

/-! ### Fields of records -/

theorem mem_valuesNamed {name : String} {value : Value} {members : List (Option String × Value)} :
    value ∈ valuesNamed name members ↔ (some name, value) ∈ members := by
  unfold valuesNamed
  constructor
  · intro given
    obtain ⟨⟨other, _⟩, kept, rfl⟩ := List.mem_map.mp given
    obtain ⟨inside, same⟩ := List.mem_filter.mp kept
    rw [← of_decide_eq_true same]
    exact inside
  · intro inside
    exact List.mem_map.mpr ⟨_, List.mem_filter.mpr ⟨inside, decide_eq_true rfl⟩, rfl⟩

theorem Value.IsSpelled.field {names : List String} (distinct : names.Nodup) {value part : Value}
    {fields : List (Option Value)} (spelled : value.IsSpelled)
    (read : value.fields? names = some fields) (inside : some part ∈ fields) :
    part.IsSpelled := by
  cases value with
  | object members =>
      obtain ⟨_, rfl⟩ := (fieldsOfMembers_eq_some_iff distinct members fields).mp read
      obtain ⟨name, _, first⟩ := List.mem_map.mp inside
      exact spelled.member (mem_valuesNamed.mp (List.mem_of_mem_head? first))
  | array items =>
      rw [Value.fields?] at read
      split at read
      · rw [← Option.some.inj read] at inside
        rcases List.mem_append.mp inside with given | missing
        · obtain ⟨_, among, same⟩ := List.mem_map.mp given
          rw [← Option.some.inj same]
          exact spelled.item among
        · cases List.eq_of_mem_replicate missing
      · cases read
  | null | bool | number | string => cases read

theorem fields?_array_eq_some_iff {names : List String} {values : List Value}
    (full : values.length = names.length) (items : List Value) :
    (Value.array items).fields? names = some (values.map some) ↔ items = values := by
  rw [Value.fields?]
  constructor
  · intro read
    split at read
    · rename_i few
      have same := Option.some.inj read
      have none : names.length - items.length = 0 := by
        apply Nat.eq_zero_of_not_pos
        intro some
        have missing : none ∈ items.map Option.some ++
            List.replicate (names.length - items.length) none :=
          List.mem_append_right _ (List.mem_replicate.mpr ⟨by omega, rfl⟩)
        rw [same] at missing
        obtain ⟨_, _, never⟩ := List.mem_map.mp missing
        cases never
      rw [none, List.replicate_zero, List.append_nil] at same
      exact (List.map_inj_right fun _ _ => Option.some.inj).mp same
    · cases read
  · rintro rfl
    rw [if_pos (Nat.le_of_eq full), full, Nat.sub_self, List.replicate_zero, List.append_nil]

theorem asBool?_eq_some_iff (value : Value) (b : Bool) :
    value.asBool? = some b ↔ value = .bool b := by
  cases value with
  | bool held => simp [Value.asBool?]
  | null | number | string | array | object => simp [Value.asBool?]

theorem number_eq_nat {lexeme : String} (spelled : NumberSpelling lexeme.toList) {n : Nat}
    (read : Text.natural? 10 lexeme.toList = some n) : Value.number lexeme = .nat n := by
  rw [Value.nat, ← spelled.numeral read, String.ofList_toList]

theorem asNat?_eq_some_iff {value : Value} (spelled : value.IsSpelled) (limit n : Nat) :
    value.asNat? limit = some n ↔ n ≤ limit ∧ value = .nat n := by
  constructor
  · intro read
    cases value with
    | number lexeme =>
        have isNumber : NumberSpelling lexeme.toList := spelled lexeme List.mem_cons_self
        rw [Value.asNat?] at read
        cases natural : Text.natural? 10 lexeme.toList with
        | none =>
            rw [natural] at read
            cases read
        | some m =>
            simp only [natural] at read
            split at read
            · rename_i bound
              obtain rfl := Option.some.inj read
              exact ⟨bound, number_eq_nat isNumber natural⟩
            · cases read
    | null | bool | string | array | object => cases read
  · rintro ⟨bound, rfl⟩
    exact asNat?_nat bound

theorem asInt32?_eq_some_iff {value : Value} (spelled : value.IsSpelled) (n : Int) :
    value.asInt32? = some n ↔ (-0x80000000 ≤ n ∧ n ≤ 0x7FFFFFFF) ∧ value = .int n := by
  constructor
  · intro read
    cases value with
    | number lexeme =>
        have isNumber : NumberSpelling lexeme.toList := spelled lexeme List.mem_cons_self
        rw [Value.asInt32?] at read
        split at read
        · rename_i digits minus
          rw [minus] at isNumber
          cases natural : Text.natural? 10 digits with
          | none =>
              rw [natural] at read
              cases read
          | some m =>
              simp only [natural] at read
              split at read
              · rename_i bound
                obtain rfl := Option.some.inj read
                refine ⟨by omega, ?_⟩
                obtain ⟨pred, rfl⟩ := Nat.exists_eq_succ_of_ne_zero (Nat.ne_of_gt bound.1)
                change _ = Value.number (String.ofList ('-' :: Nat.toDigits 10 (pred + 1)))
                rw [← isNumber.unsigned.numeral natural, ← minus, String.ofList_toList]
              · cases read
        · cases natural : Text.natural? 10 lexeme.toList with
          | none =>
              rw [natural] at read
              cases read
          | some m =>
              simp only [natural] at read
              split at read
              · rename_i bound
                obtain rfl := Option.some.inj read
                exact ⟨by omega, number_eq_nat isNumber natural⟩
              · cases read
    | null | bool | string | array | object => cases read
  · rintro ⟨⟨lower, upper⟩, rfl⟩
    exact asInt32?_int lower upper

end Json
end VirtualNpu
