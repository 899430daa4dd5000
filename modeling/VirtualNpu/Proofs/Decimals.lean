import VirtualNpu.Text.Digits

/-!
Decimal numerals: the digits of a number, and reading the number back from them.
-/

namespace VirtualNpu
namespace Text

theorem toDigits_ten_of_le {n : Nat} (large : 10 ≤ n) :
    Nat.toDigits 10 n = Nat.toDigits 10 (n / 10) ++ [Nat.digitChar (n % 10)] := by
  rw [Nat.toDigits_eq_if (by omega), if_neg (by omega)]

theorem digit?_digitChar {d : Nat} (small : d < 10) :
    digit? 10 (Nat.digitChar d) = some d := by
  decide +revert

theorem isDigit_digitChar {d : Nat} (small : d < 10) : isDigit (Nat.digitChar d) = true := by
  decide +revert

theorem isDigit_of_mem_toDigits (n : Nat) :
    ∀ c ∈ Nat.toDigits 10 n, isDigit c = true := by
  induction n using Nat.strongRecOn with
  | ind n ih =>
      intro c member
      by_cases small : n < 10
      · rw [Nat.toDigits_of_lt_base small, List.mem_singleton] at member
        rw [member]
        exact isDigit_digitChar small
      · rw [toDigits_ten_of_le (by omega)] at member
        rcases List.mem_append.mp member with front | last
        · exact ih (n / 10) (by omega) c front
        · rw [List.mem_singleton.mp last]
          exact isDigit_digitChar (by omega)

theorem toDigits_lead {n : Nat} (positive : 0 < n) :
    ∃ lead rest, Nat.toDigits 10 n = lead :: rest ∧ lead ≠ '0' := by
  induction n using Nat.strongRecOn with
  | ind n ih =>
      by_cases small : n < 10
      · refine ⟨Nat.digitChar n, [], Nat.toDigits_of_lt_base small, ?_⟩
        intro zero
        have nothing : n = 0 := Nat.digitChar_eq_zero.mp zero
        omega
      · obtain ⟨lead, rest, digits, nonzero⟩ := ih (n / 10) (by omega) (by omega)
        refine ⟨lead, rest ++ [Nat.digitChar (n % 10)], ?_, nonzero⟩
        rw [toDigits_ten_of_le (by omega), digits, List.cons_append]

theorem readDigits?_append (base value : Nat) (front behind : List Char) :
    readDigits? base value (front ++ behind) =
      (readDigits? base value front).bind fun read => readDigits? base read behind := by
  induction front generalizing value with
  | nil => rfl
  | cons c front ih =>
      rw [List.cons_append, readDigits?, readDigits?]
      cases digit? base c with
      | none => rfl
      | some d => exact ih (value * base + d)

theorem readDigits?_toDigits (n : Nat) : readDigits? 10 0 (Nat.toDigits 10 n) = some n := by
  induction n using Nat.strongRecOn with
  | ind n ih =>
      by_cases small : n < 10
      · rw [Nat.toDigits_of_lt_base small]
        simp only [readDigits?, digit?_digitChar small]
        rw [Nat.zero_mul, Nat.zero_add]
      · have last : n % 10 < 10 := by omega
        rw [toDigits_ten_of_le (by omega), readDigits?_append, ih (n / 10) (by omega)]
        simp only [Option.bind_some, readDigits?, digit?_digitChar last, Option.some.injEq]
        omega

theorem natural?_toDigits (n : Nat) : natural? 10 (Nat.toDigits 10 n) = some n := by
  have read := readDigits?_toDigits n
  cases digits : Nat.toDigits 10 n with
  | nil => exact absurd digits Nat.toDigits_ne_nil
  | cons lead rest =>
      rw [digits] at read
      exact read

end Text
end VirtualNpu
