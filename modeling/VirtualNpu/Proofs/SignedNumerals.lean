import VirtualNpu.Proofs.UnsignedNumerals

/-!
The texts of numbers of 64 bits with a sign: the numeral of the magnitude behind any zeros, with a
minus sign in front of these for what is not above zero, and with or without a plus sign for what is
not below.
-/

namespace VirtualNpu
namespace Text

def WritesSigned64 (text : String) (n : Int) : Prop :=
  (-0x8000000000000000 ≤ n ∧ n ≤ 0x7FFFFFFFFFFFFFFF) ∧
    ∃ sign zeros, (0 ≤ n ∧ (sign = [] ∨ sign = ['+']) ∨ n ≤ 0 ∧ sign = ['-']) ∧
      text.toList = sign ++ (List.replicate zeros '0' ++ Nat.toDigits 10 n.natAbs)

def signedNumeral (n : Int) : String :=
  String.ofList ((if n < 0 then ['-'] else []) ++ Nat.toDigits 10 n.natAbs)

theorem writesSigned64_signedNumeral {n : Int}
    (bounded : -0x8000000000000000 ≤ n ∧ n ≤ 0x7FFFFFFFFFFFFFFF) :
    WritesSigned64 (signedNumeral n) n := by
  refine ⟨bounded, if n < 0 then ['-'] else [], 0, ?_, String.toList_ofList⟩
  split
  · exact Or.inr ⟨by omega, rfl⟩
  · exact Or.inl ⟨by omega, Or.inl rfl⟩

private theorem map_ofNat_eq_ok_iff (cs : List Char) (n : Int) :
    (readMagnitude 0x7FFFFFFFFFFFFFFF .tooLarge cs).map Int.ofNat = .ok n ↔
      (0 ≤ n ∧ n ≤ 0x7FFFFFFFFFFFFFFF) ∧
        ∃ zeros, cs = List.replicate zeros '0' ++ Nat.toDigits 10 n.natAbs := by
  constructor
  · intro read
    cases magnitude : readMagnitude 0x7FFFFFFFFFFFFFFF .tooLarge cs with
    | error error =>
        rw [magnitude] at read
        cases read
    | ok m =>
        rw [magnitude] at read
        cases read
        obtain ⟨bound, zeros, written⟩ := (readMagnitude_eq_ok_iff_numeral _ _ _ _).mp magnitude
        exact ⟨⟨Int.natCast_nonneg m, Int.ofNat_le.mpr bound⟩, zeros, written⟩
  · rintro ⟨⟨least, most⟩, zeros, written⟩
    have magnitude : readMagnitude 0x7FFFFFFFFFFFFFFF .tooLarge cs = .ok n.natAbs :=
      (readMagnitude_eq_ok_iff_numeral _ _ _ _).mpr ⟨by omega, zeros, written⟩
    rw [magnitude]
    exact congrArg Except.ok (Int.natAbs_of_nonneg least)

private theorem map_neg_eq_ok_iff (cs : List Char) (n : Int) :
    (readMagnitude 0x8000000000000000 .tooSmall cs).map (fun m => -(m : Int)) = .ok n ↔
      (-0x8000000000000000 ≤ n ∧ n ≤ 0) ∧
        ∃ zeros, cs = List.replicate zeros '0' ++ Nat.toDigits 10 n.natAbs := by
  constructor
  · intro read
    cases magnitude : readMagnitude 0x8000000000000000 .tooSmall cs with
    | error error =>
        rw [magnitude] at read
        cases read
    | ok m =>
        rw [magnitude] at read
        cases read
        obtain ⟨bound, zeros, written⟩ := (readMagnitude_eq_ok_iff_numeral _ _ _ _).mp magnitude
        dsimp only
        rw [Int.natAbs_neg, Int.natAbs_natCast]
        exact ⟨by omega, zeros, written⟩
  · rintro ⟨⟨least, most⟩, zeros, written⟩
    have magnitude : readMagnitude 0x8000000000000000 .tooSmall cs = .ok n.natAbs :=
      (readMagnitude_eq_ok_iff_numeral _ _ _ _).mpr ⟨by omega, zeros, written⟩
    rw [magnitude]
    exact congrArg Except.ok (show -(n.natAbs : Int) = n by omega)

theorem readSigned64_eq_ok_iff (text : String) (n : Int) :
    readSigned64 text.toList = .ok n ↔ WritesSigned64 text n := by
  unfold WritesSigned64
  generalize text.toList = cs
  have plus : isDigit '+' = false := by decide
  have minus : isDigit '-' = false := by decide
  by_cases negative : ∃ digits, cs = '-' :: digits
  · obtain ⟨digits, rfl⟩ := negative
    refine (map_neg_eq_ok_iff digits n).trans ⟨?_, ?_⟩
    · rintro ⟨⟨least, below⟩, zeros, rfl⟩
      exact ⟨⟨least, by omega⟩, ['-'], zeros, Or.inr ⟨below, rfl⟩, rfl⟩
    · rintro ⟨⟨least, -⟩, sign, zeros, ⟨-, rfl | rfl⟩ | ⟨below, rfl⟩, same⟩
      · exact absurd same (cons_ne_numeral minus digits zeros _)
      · exact absurd (List.cons.inj same).1 (by decide)
      · exact ⟨⟨least, below⟩, zeros, (List.cons.inj same).2⟩
  by_cases positive : ∃ digits, cs = '+' :: digits
  · obtain ⟨digits, rfl⟩ := positive
    refine (map_ofNat_eq_ok_iff digits n).trans ⟨?_, ?_⟩
    · rintro ⟨⟨above, most⟩, zeros, rfl⟩
      exact ⟨⟨by omega, most⟩, ['+'], zeros, Or.inl ⟨above, Or.inr rfl⟩, rfl⟩
    · rintro ⟨⟨-, most⟩, sign, zeros, ⟨above, rfl | rfl⟩ | ⟨-, rfl⟩, same⟩
      · exact absurd same (cons_ne_numeral plus digits zeros _)
      · exact ⟨⟨above, most⟩, zeros, (List.cons.inj same).2⟩
      · exact absurd (List.cons.inj same).1 (by decide)
  · have unsigned : readSigned64 cs = .ok n ↔
        (readMagnitude 0x7FFFFFFFFFFFFFFF .tooLarge cs).map Int.ofNat = .ok n := by
      cases cs with
      | nil => simp [readSigned64, readMagnitude, Except.map]
      | cons c digits =>
          rw [readSigned64]
          · exact List.cons_ne_nil c digits
          · exact fun others same => negative ⟨others, same⟩
          · exact fun others same => positive ⟨others, same⟩
    refine (unsigned.trans (map_ofNat_eq_ok_iff cs n)).trans ⟨?_, ?_⟩
    · rintro ⟨⟨above, most⟩, zeros, same⟩
      exact ⟨⟨by omega, most⟩, [], zeros, Or.inl ⟨above, Or.inl rfl⟩, same⟩
    · rintro ⟨⟨-, most⟩, sign, zeros, ⟨above, rfl | rfl⟩ | ⟨-, rfl⟩, same⟩
      · exact ⟨⟨above, most⟩, zeros, same⟩
      · exact absurd ⟨_, same⟩ positive
      · exact absurd ⟨_, same⟩ negative

end Text
end VirtualNpu
