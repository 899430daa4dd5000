import VirtualNpu.Proofs.JsonNumerals

/-!
The texts of numbers of 64 bits without a sign.  A number may be written with zeros in front of
its numeral and with a plus sign in front of these, and every other text is refused.
-/

namespace VirtualNpu
namespace Text

/-- Whether a text writes a number of 64 bits: the numeral of the number, behind any zeros and at
most one plus sign. -/
def WritesUnsigned64 (text : String) (n : Nat) : Prop :=
  n < UInt64.size ∧ ∃ sign zeros, (sign = [] ∨ sign = ['+']) ∧
    text.toList = sign ++ (List.replicate zeros '0' ++ Nat.toDigits 10 n)

/-! ### Digits -/

theorem readDigits?_zeros (zeros : Nat) :
    readDigits? 10 0 (List.replicate zeros '0') = some 0 := by
  induction zeros with
  | zero => rfl
  | succ zeros ih => exact ih

theorem natural?_eq_some_iff (cs : List Char) (n : Nat) :
    natural? 10 cs = some n ↔
      ∃ zeros, cs = List.replicate zeros '0' ++ Nat.toDigits 10 n := by
  constructor
  · induction cs with
    | nil =>
        intro read
        cases read
    | cons c cs ih =>
        intro read
        by_cases zero : c = '0'
        · subst zero
          cases cs with
          | nil =>
              cases read
              exact ⟨0, rfl⟩
          | cons next rest =>
              obtain ⟨zeros, others⟩ := ih read
              exact ⟨zeros + 1, congrArg (List.cons '0') others⟩
        · exact ⟨0, (toDigits_of_natural? zero read).symm⟩
  · rintro ⟨zeros, rfl⟩
    have read : readDigits? 10 0 (List.replicate zeros '0' ++ Nat.toDigits 10 n) = some n := by
      rw [readDigits?_append, readDigits?_zeros, Option.bind_some, readDigits?_toDigits]
    have filled : List.replicate zeros '0' ++ Nat.toDigits 10 n ≠ [] :=
      List.append_ne_nil_of_right_ne_nil _ Nat.toDigits_ne_nil
    rw [natural?]
    · exact read
    · exact filled

theorem le_of_readDigits? {value n : Nat} {cs : List Char}
    (read : readDigits? 10 value cs = some n) : value ≤ n := by
  induction cs generalizing value with
  | nil => exact Nat.le_of_eq (Option.some.inj read)
  | cons c cs ih =>
      rw [readDigits?] at read
      cases digit : digit? 10 c with
      | none =>
          rw [digit] at read
          cases read
      | some d =>
          rw [digit] at read
          have further := ih read
          omega

/-- Digits with a limit are read like digits without one, as long as their number keeps to it:
the number of the first digits is never larger than that of all. -/
theorem readBounded_eq_ok_iff {limit value : Nat} (within : value ≤ limit) (excess : NumberError)
    (cs : List Char) (n : Nat) :
    readBounded limit excess value cs = .ok n ↔
      readDigits? 10 value cs = some n ∧ n ≤ limit := by
  induction cs generalizing value with
  | nil =>
      rw [readBounded, readDigits?, Except.ok.injEq, Option.some.injEq]
      exact ⟨fun same => ⟨same, same ▸ within⟩, And.left⟩
  | cons c cs ih =>
      rw [readBounded, readDigits?]
      cases digit? 10 c with
      | none => simp
      | some d =>
          dsimp only
          by_cases fits : value * 10 + d ≤ limit
          · rw [if_pos fits]
            exact ih fits
          · rw [if_neg fits]
            constructor
            · intro refused
              cases refused
            · rintro ⟨read, bound⟩
              exact absurd (Nat.le_trans (le_of_readDigits? read) bound) fits

theorem readMagnitude_eq_ok_iff (limit : Nat) (excess : NumberError) (cs : List Char) (n : Nat) :
    readMagnitude limit excess cs = .ok n ↔ natural? 10 cs = some n ∧ n ≤ limit := by
  cases cs with
  | nil => simp [readMagnitude, natural?]
  | cons c cs => exact readBounded_eq_ok_iff (Nat.zero_le limit) excess (c :: cs) n

/-! ### Signs -/

theorem cons_ne_numeral {sign : Char} (nondigit : isDigit sign = false) (digits : List Char)
    (zeros n : Nat) : sign :: digits ≠ List.replicate zeros '0' ++ Nat.toDigits 10 n := by
  intro same
  have inside : sign ∈ List.replicate zeros '0' ++ Nat.toDigits 10 n := by
    rw [← same]
    exact List.mem_cons_self
  rcases List.mem_append.mp inside with zero | digit
  · rw [List.eq_of_mem_replicate zero] at nondigit
    exact absurd nondigit (by decide)
  · rw [isDigit_of_mem_toDigits n sign digit] at nondigit
    cases nondigit

theorem readMagnitude_eq_ok_iff_numeral (limit : Nat) (excess : NumberError) (cs : List Char)
    (n : Nat) :
    readMagnitude limit excess cs = .ok n ↔
      n ≤ limit ∧ ∃ zeros, cs = List.replicate zeros '0' ++ Nat.toDigits 10 n := by
  rw [readMagnitude_eq_ok_iff, natural?_eq_some_iff, and_comm]

theorem readUnsigned64_eq_ok_iff (text : String) (n : Nat) :
    readUnsigned64 text.toList = .ok n ↔ WritesUnsigned64 text n := by
  have written : ∀ cs, readMagnitude 0xFFFFFFFFFFFFFFFF .tooLarge cs = .ok n ↔
      n < UInt64.size ∧ ∃ zeros, cs = List.replicate zeros '0' ++ Nat.toDigits 10 n := by
    intro cs
    rw [readMagnitude_eq_ok_iff_numeral]
    exact and_congr_left fun _ => Nat.le_iff_lt_add_one
  unfold WritesUnsigned64
  generalize text.toList = cs
  by_cases signed : ∃ digits, cs = '+' :: digits
  · obtain ⟨digits, rfl⟩ := signed
    refine (written digits).trans (and_congr_right fun _ => ⟨?_, ?_⟩)
    · rintro ⟨zeros, rfl⟩
      exact ⟨['+'], zeros, Or.inr rfl, rfl⟩
    · rintro ⟨sign, zeros, rfl | rfl, same⟩
      · exact absurd same (cons_ne_numeral (by decide) digits zeros n)
      · exact ⟨zeros, (List.cons.inj same).2⟩
  · have unsigned : readUnsigned64 cs = .ok n ↔
        readMagnitude 0xFFFFFFFFFFFFFFFF .tooLarge cs = .ok n := by
      cases cs with
      | nil => simp [readUnsigned64, readMagnitude]
      | cons c digits =>
          rw [readUnsigned64]
          · exact List.cons_ne_nil c digits
          · exact fun others plus => signed ⟨others, plus⟩
    rw [unsigned]
    refine (written cs).trans (and_congr_right fun _ => ⟨?_, ?_⟩)
    · rintro ⟨zeros, same⟩
      exact ⟨[], zeros, Or.inl rfl, same⟩
    · rintro ⟨sign, zeros, rfl | rfl, same⟩
      · exact ⟨zeros, same⟩
      · exact absurd ⟨_, same⟩ signed

end Text
end VirtualNpu
