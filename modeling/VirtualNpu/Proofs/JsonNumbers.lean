import VirtualNpu.Json.Grammar

/-!
The numbers of the JSON grammar against the reading of numbers.  A number is read as far as
it goes, so it is read whole wherever nothing that would carry it on stands behind it.
-/

namespace VirtualNpu
namespace Json

open Token (spanDigits readWhole readFraction readExponent readExponentSign readNumber)

def Avoids (kinds : Char → Prop) (rest : List Char) : Prop :=
  ∀ c ∈ rest.head?, ¬ kinds c

def IsDigit (c : Char) : Prop := Text.isDigit c = true

def IsPoint (c : Char) : Prop := c = '.'

def IsExponentMark (c : Char) : Prop := c = 'e' ∨ c = 'E'

def ExtendsNumber (c : Char) : Prop := IsDigit c ∨ IsPoint c ∨ IsExponentMark c

theorem Avoids.weaken {more fewer : Char → Prop} {rest : List Char}
    (avoids : Avoids more rest) (weaker : ∀ c, fewer c → more c) : Avoids fewer rest := by
  intro c leads kind
  exact avoids c leads (weaker c kind)

theorem avoids_nil (kinds : Char → Prop) : Avoids kinds [] := by
  intro c leads
  cases leads

theorem avoids_cons {kinds : Char → Prop} {c : Char} {rest : List Char} (other : ¬ kinds c) :
    Avoids kinds (c :: rest) := by
  intro lead leads
  cases leads
  exact other

/-! ### Digits -/

theorem spanDigits_append (digits rest : List Char)
    (all : ∀ c ∈ digits, Text.isDigit c = true) (ends : Avoids IsDigit rest) :
    spanDigits (digits ++ rest) = (digits, rest) := by
  induction digits with
  | nil =>
      cases rest with
      | nil => rfl
      | cons c tail =>
          have other : ¬ Text.isDigit c = true := ends c rfl
          simp only [List.nil_append, spanDigits, if_neg other]
  | cons c digits ih =>
      have digit : Text.isDigit c = true := all c List.mem_cons_self
      have others := ih fun d member => all d (List.mem_cons_of_mem c member)
      simp only [List.cons_append, spanDigits, if_pos digit, others]

theorem spanDigits_spec (cs : List Char) :
    cs = (spanDigits cs).1 ++ (spanDigits cs).2 ∧
      ∀ c ∈ (spanDigits cs).1, Text.isDigit c = true := by
  induction cs with
  | nil => exact ⟨rfl, by simp [spanDigits]⟩
  | cons c rest ih =>
      obtain ⟨split, all⟩ := ih
      by_cases digit : Text.isDigit c = true
      · simp only [spanDigits, if_pos digit]
        constructor
        · rw [List.cons_append, ← split]
        · intro d member
          rcases List.mem_cons.mp member with rfl | inRest
          · exact digit
          · exact all d inRest
      · simp only [spanDigits, if_neg digit]
        exact ⟨rfl, by simp⟩

theorem spanDigits_cases (cs : List Char) :
    (∃ rest, spanDigits cs = ([], rest)) ∨
      ∃ digits rest, spanDigits cs = (digits, rest) ∧ digits ≠ [] ∧ cs = digits ++ rest ∧
        ∀ c ∈ digits, Text.isDigit c = true := by
  obtain ⟨split, all⟩ := spanDigits_spec cs
  by_cases none : (spanDigits cs).1 = []
  · exact Or.inl ⟨(spanDigits cs).2, by rw [← none]⟩
  · exact Or.inr ⟨(spanDigits cs).1, (spanDigits cs).2, rfl, none, split, all⟩

/-! ### The parts of a number -/

theorem readWhole_append {whole : List Char} (isWhole : WholePart whole) (rest : List Char)
    (ends : Avoids IsDigit rest) : readWhole (whole ++ rest) = some (whole, rest) := by
  cases isWhole with
  | zero =>
      cases rest with
      | nil => rfl
      | cons c tail =>
          have other : ¬ Text.isDigit c = true := ends c rfl
          simp only [List.cons_append, List.nil_append, readWhole, if_neg other]
  | @digits lead others digit nonzero all =>
      have span : spanDigits (lead :: others ++ rest) = (lead :: others, rest) := by
        apply spanDigits_append _ _ _ ends
        intro c member
        rcases List.mem_cons.mp member with rfl | inOthers
        · exact digit
        · exact all c inOthers
      rw [List.cons_append] at span ⊢
      rw [readWhole, span]
      rintro tail same
      cases same
      exact absurd rfl nonzero

theorem wholePart_of_readWhole {cs whole rest : List Char}
    (read : readWhole cs = some (whole, rest)) : WholePart whole ∧ cs = whole ++ rest := by
  unfold readWhole at read
  split at read
  · split at read
    · split at read
      · cases read
      · cases read
        exact ⟨.zero, rfl⟩
    · cases read
      exact ⟨.zero, rfl⟩
  · rename_i noZero
    rcases spanDigits_cases cs with ⟨left, none⟩ | ⟨digits, left, span, some, split, all⟩
    · rw [none] at read
      cases read
    · rw [span] at read
      cases digits with
      | nil => exact absurd rfl some
      | cons lead others =>
          cases read
          refine ⟨.digits (all lead List.mem_cons_self) ?_ ?_, split⟩
          · rintro rfl
            exact noZero _ split
          · intro c member
            exact all c (List.mem_cons_of_mem lead member)

theorem readFraction_append {fraction : List Char} (isFraction : FractionPart fraction)
    (rest : List Char) (ends : Avoids (fun c => IsDigit c ∨ IsPoint c) rest) :
    readFraction (fraction ++ rest) = some (fraction, rest) := by
  cases isFraction with
  | absent =>
      rw [List.nil_append, readFraction]
      rintro tail rfl
      exact ends '.' rfl (Or.inr rfl)
  | @point digits some all =>
      have span := spanDigits_append digits rest all (ends.weaken fun c => Or.inl)
      rw [List.cons_append, readFraction, span]
      cases digits with
      | nil => exact absurd rfl some
      | cons lead others => rfl

theorem fractionPart_of_readFraction {cs fraction rest : List Char}
    (read : readFraction cs = some (fraction, rest)) :
    FractionPart fraction ∧ cs = fraction ++ rest := by
  unfold readFraction at read
  split at read
  · rename_i behind
    rcases spanDigits_cases behind with ⟨left, none⟩ | ⟨digits, left, span, some, split, all⟩
    · rw [none] at read
      cases read
    · rw [span] at read
      cases digits with
      | nil => exact absurd rfl some
      | cons lead others =>
          cases read
          refine ⟨.point some all, ?_⟩
          rw [split]
          rfl
  · cases read
    exact ⟨.absent, rfl⟩

private theorem readExponentSign_append {sign digits : List Char}
    (signed : sign = [] ∨ sign = ['+'] ∨ sign = ['-']) (rest : List Char) (some : digits ≠ [])
    (all : ∀ c ∈ digits, Text.isDigit c = true) :
    readExponentSign (sign ++ (digits ++ rest)) = (sign, digits ++ rest) := by
  rcases signed with rfl | rfl | rfl
  · cases digits with
    | nil => exact absurd rfl some
    | cons lead others =>
        have digit := all lead List.mem_cons_self
        have unsigned : ¬ (lead = '+' ∨ lead = '-') := by
          rintro (rfl | rfl)
          · cases digit
          · cases digit
        simp only [List.nil_append, List.cons_append, readExponentSign, if_neg unsigned]
  · rfl
  · rfl

private theorem readExponentSign_spec (cs : List Char) :
    ((readExponentSign cs).1 = [] ∨ (readExponentSign cs).1 = ['+'] ∨
        (readExponentSign cs).1 = ['-']) ∧
      cs = (readExponentSign cs).1 ++ (readExponentSign cs).2 := by
  cases cs with
  | nil => exact ⟨Or.inl rfl, rfl⟩
  | cons c rest =>
      by_cases signed : c = '+' ∨ c = '-'
      · simp only [readExponentSign, if_pos signed]
        rcases signed with rfl | rfl
        · exact ⟨Or.inr (Or.inl rfl), rfl⟩
        · exact ⟨Or.inr (Or.inr rfl), rfl⟩
      · have unsigned : readExponentSign (c :: rest) = ([], c :: rest) := if_neg signed
        rw [unsigned]
        exact ⟨Or.inl rfl, rfl⟩

theorem readExponent_append {exponent : List Char} (isExponent : ExponentPart exponent)
    (rest : List Char) (ends : Avoids ExtendsNumber rest) :
    readExponent (exponent ++ rest) = some (exponent, rest) := by
  cases isExponent with
  | absent =>
      cases rest with
      | nil => rfl
      | cons c tail =>
          have unmarked : ¬ (c = 'e' ∨ c = 'E') := by
            intro marked
            exact ends c rfl (Or.inr (Or.inr marked))
          simp only [List.nil_append, readExponent, if_neg unmarked]
  | @power mark sign digits marked signed some all =>
      have sign_eq := readExponentSign_append signed rest some all
      have span := spanDigits_append digits rest all (ends.weaken fun c => Or.inl)
      simp only [List.cons_append, List.append_assoc, readExponent, if_pos marked, sign_eq, span]

theorem exponentPart_of_readExponent {cs exponent rest : List Char}
    (read : readExponent cs = some (exponent, rest)) :
    ExponentPart exponent ∧ cs = exponent ++ rest := by
  cases cs with
  | nil =>
      cases read
      exact ⟨.absent, rfl⟩
  | cons mark behind =>
      by_cases marked : mark = 'e' ∨ mark = 'E'
      · obtain ⟨signed, splitSign⟩ := readExponentSign_spec behind
        simp only [readExponent, if_pos marked] at read
        rcases spanDigits_cases (readExponentSign behind).2 with
          ⟨left, none⟩ | ⟨digits, left, span, some, split, all⟩
        · rw [none] at read
          cases read
        · rw [span] at read
          cases digits with
          | nil => exact absurd rfl some
          | cons lead others =>
              cases read
              refine ⟨.power marked signed some all, ?_⟩
              rw [List.cons_append, List.append_assoc, ← split, ← splitSign]
      · simp only [readExponent, if_neg marked] at read
        cases read
        exact ⟨.absent, rfl⟩

/-! ### The whole number -/

private theorem readNumber_signed {sign : List Char} (signed : sign = [] ∨ sign = ['-'])
    (cs : List Char) (unsigned : sign = [] → Avoids (· = '-') cs) :
    readNumber (sign ++ cs) =
      (readWhole cs).bind fun (whole, afterWhole) =>
        (readFraction afterWhole).bind fun (fraction, afterFraction) =>
          (readExponent afterFraction).bind fun (exponent, rest) =>
            some (String.ofList (sign ++ whole ++ fraction ++ exponent), rest) := by
  rcases signed with rfl | rfl
  · have noMinus : ∀ rest, cs ≠ '-' :: rest := by
      rintro rest rfl
      exact unsigned rfl '-' rfl rfl
    rw [List.nil_append]
    unfold readNumber
    split
    rename_i sign magnitude front
    split at front
    · exact absurd rfl (noMinus _)
    · cases front
      rfl
  · rfl

theorem WholePart.head {whole : List Char} (isWhole : WholePart whole) :
    ∃ lead tail, whole = lead :: tail ∧ Text.isDigit lead = true := by
  cases isWhole with
  | zero => exact ⟨'0', [], rfl, rfl⟩
  | @digits lead others digit _ _ => exact ⟨lead, others, rfl, digit⟩

theorem NumberSpelling.head {cs : List Char} (spelled : NumberSpelling cs) :
    ∃ c tail, cs = c :: tail ∧ (c = '-' ∨ Text.isDigit c = true) := by
  cases spelled with
  | @parts sign whole fraction exponent signed isWhole _ _ =>
      rcases signed with rfl | rfl
      · obtain ⟨lead, tail, rfl, digit⟩ := isWhole.head
        exact ⟨lead, tail ++ (fraction ++ exponent), rfl, Or.inr digit⟩
      · exact ⟨'-', whole ++ (fraction ++ exponent), rfl, Or.inl rfl⟩

private theorem avoids_fraction {kinds : Char → Prop} {fraction rest : List Char}
    (isFraction : FractionPart fraction) (noPoint : ¬ kinds '.') (ends : Avoids kinds rest) :
    Avoids kinds (fraction ++ rest) := by
  cases isFraction with
  | absent => exact ends
  | point _ _ => exact avoids_cons noPoint

private theorem avoids_exponent {kinds : Char → Prop} {exponent rest : List Char}
    (isExponent : ExponentPart exponent) (noMark : ¬ kinds 'e' ∧ ¬ kinds 'E')
    (ends : Avoids kinds rest) : Avoids kinds (exponent ++ rest) := by
  cases isExponent with
  | absent => exact ends
  | power marked _ _ _ =>
      apply avoids_cons
      rcases marked with rfl | rfl
      · exact noMark.1
      · exact noMark.2

theorem readNumber_append {cs : List Char} (spelled : NumberSpelling cs) (rest : List Char)
    (ends : Avoids ExtendsNumber rest) :
    readNumber (cs ++ rest) = some (String.ofList cs, rest) := by
  cases spelled with
  | @parts sign whole fraction exponent signed isWhole isFraction isExponent =>
      have afterExponent := readExponent_append isExponent rest ends
      have endsFraction : Avoids (fun c => IsDigit c ∨ IsPoint c) (exponent ++ rest) := by
        apply avoids_exponent isExponent
        · simp [IsDigit, IsPoint, Text.isDigit]
        · apply ends.weaken
          rintro c (digit | point)
          · exact Or.inl digit
          · exact Or.inr (Or.inl point)
      have afterFraction := readFraction_append isFraction (exponent ++ rest) endsFraction
      have endsWhole : Avoids IsDigit (fraction ++ (exponent ++ rest)) := by
        apply avoids_fraction isFraction
        · simp [IsDigit, Text.isDigit]
        · exact endsFraction.weaken fun c => Or.inl
      have afterWhole := readWhole_append isWhole (fraction ++ (exponent ++ rest)) endsWhole
      have unsigned : Avoids (· = '-') (whole ++ (fraction ++ (exponent ++ rest))) := by
        obtain ⟨lead, tail, rfl, digit⟩ := isWhole.head
        apply avoids_cons
        rintro rfl
        cases digit
      simp only [List.append_assoc]
      rw [readNumber_signed signed _ fun _ => unsigned, afterWhole]
      simp only [Option.bind_some, afterFraction, afterExponent, List.append_assoc]

theorem numberSpelling_of_readNumber {cs rest : List Char} {lexeme : String}
    (read : readNumber cs = some (lexeme, rest)) :
    ∃ front, NumberSpelling front ∧ lexeme = String.ofList front ∧ cs = front ++ rest := by
  have signed : ∃ sign magnitude, (sign = [] ∨ sign = ['-']) ∧ cs = sign ++ magnitude ∧
      (sign = [] → Avoids (· = '-') magnitude) := by
    cases cs with
    | nil => exact ⟨[], [], Or.inl rfl, rfl, fun _ => avoids_nil _⟩
    | cons c tail =>
        by_cases minus : c = '-'
        · subst minus
          exact ⟨['-'], tail, Or.inr rfl, rfl, by simp⟩
        · exact ⟨[], c :: tail, Or.inl rfl, rfl, fun _ => avoids_cons minus⟩
  obtain ⟨sign, magnitude, signed, rfl, unsigned⟩ := signed
  rw [readNumber_signed signed magnitude unsigned] at read
  simp only [Option.bind_eq_some_iff, Prod.exists] at read
  obtain ⟨whole, afterWhole, readWhole, fraction, afterFraction, readFraction, exponent, left,
    readExponent, same⟩ := read
  obtain ⟨isWhole, rfl⟩ := wholePart_of_readWhole readWhole
  obtain ⟨isFraction, rfl⟩ := fractionPart_of_readFraction readFraction
  obtain ⟨isExponent, rfl⟩ := exponentPart_of_readExponent readExponent
  cases same
  refine ⟨sign ++ (whole ++ (fraction ++ exponent)),
    .parts signed isWhole isFraction isExponent, ?_, ?_⟩
  · simp only [List.append_assoc]
  · simp only [List.append_assoc]

end Json
end VirtualNpu
