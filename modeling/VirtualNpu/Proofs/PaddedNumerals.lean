import Mathlib.Tactic.IntervalCases
import VirtualNpu.Proofs.UnsignedNumerals

/-!
Numerals that are padded with zeros.  They are read like others, and those of one width are ordered
as their numbers are.
-/

namespace VirtualNpu
namespace Text

theorem isDigit_of_mem_padded (width n : Nat) :
    ∀ c ∈ (padded width n).toList, isDigit c = true := by
  intro c inside
  unfold padded at inside
  rw [String.toList_ofList] at inside
  rcases List.mem_append.mp inside with zero | digit
  · rw [List.eq_of_mem_replicate zero]
    decide
  · exact isDigit_of_mem_toDigits n c digit

theorem natural?_padded (width n : Nat) : natural? 10 (padded width n).toList = some n :=
  (natural?_eq_some_iff _ n).mpr ⟨_, String.toList_ofList⟩

theorem padded_succ {width : Nat} (filled : 1 ≤ width) (n : Nat) :
    (padded (width + 1) n).toList =
      (padded width (n / 10)).toList ++ [Nat.digitChar (n % 10)] := by
  unfold padded
  rw [String.toList_ofList, String.toList_ofList]
  by_cases small : n < 10
  · rw [Nat.toDigits_of_lt_base small, Nat.div_eq_of_lt small, Nat.mod_eq_of_lt small,
      Nat.toDigits_of_lt_base (by decide)]
    obtain ⟨rest, rfl⟩ := Nat.exists_eq_add_of_le' filled
    simp [List.replicate_succ']
  · rw [toDigits_ten_of_le (Nat.le_of_not_lt small), List.length_append, List.length_singleton,
      Nat.add_sub_add_right, List.append_assoc]

theorem padded_one {n : Nat} (small : n < 10) : (padded 1 n).toList = [Nat.digitChar n] := by
  unfold padded
  rw [String.toList_ofList, Nat.toDigits_of_lt_base small]
  rfl

theorem length_padded {width : Nat} (filled : 1 ≤ width) {n : Nat} (small : n < 10 ^ width) :
    (padded width n).toList.length = width := by
  induction width, filled using Nat.le_induction generalizing n with
  | base => rw [padded_one small, List.length_singleton]
  | succ width filled ih =>
      rw [padded_succ filled, List.length_append, ih (by rw [Nat.pow_succ] at small; omega)]
      rfl

/-- Texts of the same length are ordered by the first part in which they differ. -/
theorem append_lt_append {front front' back back' : List Char}
    (long : front.length = front'.length)
    (less : front < front' ∨ front = front' ∧ back < back') : front ++ back < front' ++ back' := by
  induction front generalizing front' with
  | nil =>
      have none : front' = [] := List.eq_nil_of_length_eq_zero long.symm
      subst none
      rcases less with impossible | ⟨-, later⟩
      · cases impossible
      · exact later
  | cons c front ih =>
      obtain ⟨c', front', rfl⟩ := List.exists_cons_of_length_eq_add_one long.symm
      have long' : front.length = front'.length := Nat.succ.inj long
      rw [List.cons_append, List.cons_append, List.cons_lt_cons_iff]
      rcases less with less | ⟨same, later⟩
      · rcases List.cons_lt_cons_iff.mp less with lead | ⟨same, rest⟩
        · exact Or.inl lead
        · exact Or.inr ⟨same, ih long' (Or.inl rest)⟩
      · obtain ⟨lead, rest⟩ := List.cons.inj same
        exact Or.inr ⟨lead, ih long' (Or.inr ⟨rest, later⟩)⟩

theorem digitChar_lt {d e : Nat} (small : e < 10) (less : d < e) :
    Nat.digitChar d < Nat.digitChar e := by
  interval_cases e <;> interval_cases d <;> decide

theorem padded_lt {width : Nat} (filled : 1 ≤ width) {n m : Nat} (small : m < 10 ^ width)
    (less : n < m) : (padded width n).toList < (padded width m).toList := by
  induction width, filled using Nat.le_induction generalizing n m with
  | base =>
      rw [padded_one (less.trans small), padded_one small, List.cons_lt_cons_iff]
      exact Or.inl (digitChar_lt small less)
  | succ width filled ih =>
      have bounded : m / 10 < 10 ^ width := by
        rw [Nat.pow_succ] at small
        omega
      rw [padded_succ filled, padded_succ filled]
      refine append_lt_append ?_ ?_
      · rw [length_padded filled bounded, length_padded filled (by omega)]
      · by_cases same : n / 10 = m / 10
        · rw [same, List.cons_lt_cons_iff]
          exact Or.inr ⟨rfl, Or.inl (digitChar_lt (Nat.mod_lt _ (by decide)) (by omega))⟩
        · exact Or.inl (ih bounded (by omega))

end Text
end VirtualNpu
