import VirtualNpu.Proofs.JsonNumbers
import VirtualNpu.Proofs.JsonStrings

/-!
The token grammar of JSON against the scanner.  Spelled tokens are scanned as they are
wherever no two numbers stand side by side, for two numbers could run into one.
-/

namespace VirtualNpu
namespace Json

open Token (isSpace next? readNumber readString scanFrom scan)

def Token.isNumber : Token → Bool
  | .number _ => true
  | _ => false

/-! ### One token -/

private theorem next?_number {c : Char} (first : c = '-' ∨ Text.isDigit c = true)
    (rest : List Char) :
    next? (c :: rest) = (readNumber (c :: rest)).map fun read => (.number read.1, read.2) := by
  unfold next?
  split
  case h_11 => rfl
  all_goals
    rename_i same
    cases same
    exact absurd first (by decide)

theorem next?_append {token : Token} {cs : List Char} (spelled : TokenSpelling token cs)
    (rest : List Char) (ends : token.isNumber = true → Avoids ExtendsNumber rest) :
    next? (cs ++ rest) = some (token, rest) := by
  cases spelled with
  | number spelled =>
      obtain ⟨c, tail, split, first⟩ := spelled.head
      have read := readNumber_append spelled rest (ends rfl)
      rw [split, List.cons_append] at read ⊢
      rw [next?_number first, read]
      rfl
  | string spelled denoted =>
      rename_i text pieces body
      have read := (readString_start_eq_some_iff (body ++ '\x22' :: rest) rest text).mpr
        ⟨pieces, body, spelled, rfl, denoted⟩
      rw [List.cons_append, List.append_assoc]
      change (readString .start (body ++ '\x22' :: rest)).map _ = _
      rw [read]
      rfl
  | _ => rfl

theorem tokenSpelling_of_next? {token : Token} {cs rest : List Char}
    (read : next? cs = some (token, rest)) :
    ∃ front, TokenSpelling token front ∧ cs = front ++ rest := by
  unfold next? at read
  split at read
  case h_10 =>
    rename_i behind
    obtain ⟨⟨text, left⟩, found, same⟩ := Option.map_eq_some_iff.mp read
    cases same
    obtain ⟨pieces, body, spelled, rfl, denoted⟩ :=
      (readString_start_eq_some_iff behind _ text).mp found
    refine ⟨'\x22' :: (body ++ ['\x22']), .string spelled denoted, ?_⟩
    rw [List.cons_append, List.append_assoc]
    rfl
  case h_11 =>
    obtain ⟨⟨lexeme, left⟩, found, same⟩ := Option.map_eq_some_iff.mp read
    cases same
    obtain ⟨front, spelled, rfl, split⟩ := numberSpelling_of_readNumber found
    exact ⟨front, .number spelled, split⟩
  all_goals cases read
  · exact ⟨['['], .openArray, rfl⟩
  · exact ⟨[']'], .closeArray, rfl⟩
  · exact ⟨['\x7b'], .openObject, rfl⟩
  · exact ⟨['\x7d'], .closeObject, rfl⟩
  · exact ⟨[','], .comma, rfl⟩
  · exact ⟨[':'], .colon, rfl⟩
  · exact ⟨['n', 'u', 'l', 'l'], .null, rfl⟩
  · exact ⟨['t', 'r', 'u', 'e'], .isTrue, rfl⟩
  · exact ⟨['f', 'a', 'l', 's', 'e'], .isFalse, rfl⟩

/-- The first character of a token is no white space, and carries no number on unless the
token is a number itself. -/
theorem TokenSpelling.head {token : Token} {cs : List Char} (spelled : TokenSpelling token cs) :
    ∃ c tail, cs = c :: tail ∧ isSpace c = false ∧
      (token.isNumber = false → ¬ ExtendsNumber c) := by
  cases spelled with
  | number spelled =>
      obtain ⟨c, tail, split, first⟩ := spelled.head
      refine ⟨c, tail, split, ?_, by simp [Token.isNumber]⟩
      cases space : isSpace c with
      | false => rfl
      | true =>
          simp only [isSpace, Bool.or_eq_true, beq_iff_eq] at space
          rcases space with ((rfl | rfl) | rfl) | rfl <;> exact absurd first (by decide)
  | string _ _ =>
      exact ⟨'\x22', _, rfl, rfl, fun _ => by
        simp [ExtendsNumber, IsDigit, IsPoint, IsExponentMark, Text.isDigit]⟩
  | _ =>
      exact ⟨_, _, rfl, rfl, fun _ => by
        simp [ExtendsNumber, IsDigit, IsPoint, IsExponentMark, Text.isDigit]⟩

/-! ### Spelled tokens -/

theorem Spells.behind_space {tokens : List Token} {space cs : List Char}
    (blank : ∀ c ∈ space, isSpace c = true) (spelled : Spells tokens cs) :
    Spells tokens (space ++ cs) := by
  have both : ∀ {more : List Char}, (∀ c ∈ more, isSpace c = true) →
      ∀ c ∈ space ++ more, isSpace c = true := by
    intro more blankMore c member
    rcases List.mem_append.mp member with inSpace | inMore
    · exact blank c inSpace
    · exact blankMore c inMore
  cases spelled with
  | nil blankMore => exact .nil (both blankMore)
  | cons blankMore head tail =>
      rw [← List.append_assoc]
      exact .cons (both blankMore) head tail

theorem Spells.append {first second : List Token} {cs ds : List Char}
    (spelled : Spells first cs) (behind : Spells second ds) :
    Spells (first ++ second) (cs ++ ds) := by
  induction spelled with
  | nil blank => exact behind.behind_space blank
  | cons blank head tail ih =>
      simp only [List.append_assoc, List.cons_append]
      exact .cons blank head ih

def NoNumberLeads (tokens : List Token) : Prop :=
  ∀ token ∈ tokens.head?, token.isNumber = false

def Separable : List Token → Prop
  | [] => True
  | token :: tokens => (token.isNumber = true → NoNumberLeads tokens) ∧ Separable tokens

private theorem not_extendsNumber_of_isSpace {c : Char} (space : isSpace c = true) :
    ¬ ExtendsNumber c := by
  simp only [isSpace, Bool.or_eq_true, beq_iff_eq] at space
  rcases space with ((rfl | rfl) | rfl) | rfl <;>
    simp [ExtendsNumber, IsDigit, IsPoint, IsExponentMark, Text.isDigit]

private theorem avoids_of_spells {tokens : List Token} {cs : List Char}
    (spelled : Spells tokens cs) (other : NoNumberLeads tokens) : Avoids ExtendsNumber cs := by
  cases spelled with
  | nil blank =>
      intro c leads
      exact not_extendsNumber_of_isSpace (blank c (List.mem_of_head? leads))
  | @cons token tokens space front rest blank head tail =>
      cases space with
      | nil =>
          obtain ⟨c, others, rfl, _, plain⟩ := head.head
          exact avoids_cons (plain (other token rfl))
      | cons c others =>
          exact avoids_cons (not_extendsNumber_of_isSpace (blank c List.mem_cons_self))

theorem scanFrom_of_spells {tokens : List Token} {cs : List Char} (spelled : Spells tokens cs)
    (separable : Separable tokens) (fuel : Nat) (read : List Token)
    (enough : cs.length < fuel) :
    scanFrom fuel read cs = some (read.reverse ++ tokens) := by
  induction spelled generalizing fuel read with
  | @nil space blank =>
      cases fuel with
      | zero => omega
      | succ fuel =>
          have skipped : space.dropWhile isSpace = [] := by
            rw [← List.append_nil space, List.dropWhile_append_of_pos blank, List.dropWhile_nil]
          simp only [scanFrom, skipped, List.append_nil]
  | @cons token tokens space front rest blank head tail ih =>
      obtain ⟨apart, separableTail⟩ := separable
      cases fuel with
      | zero => omega
      | succ fuel =>
          obtain ⟨c, others, rfl, noSpace, _⟩ := head.head
          have skipped : (space ++ (c :: others ++ rest)).dropWhile isSpace =
              c :: (others ++ rest) := by
            rw [List.dropWhile_append_of_pos blank, List.cons_append,
              List.dropWhile_cons_of_neg (by simp [noSpace])]
          have taken : next? (c :: (others ++ rest)) = some (token, rest) := by
            apply next?_append head
            intro number
            exact avoids_of_spells tail (apart number)
          have shorter : rest.length < fuel := by
            simp only [List.length_append, List.length_cons] at enough
            omega
          have scanned := ih separableTail fuel (token :: read) shorter
          simp only [scanFrom, skipped, taken, scanned, List.reverse_cons, List.append_assoc,
            List.singleton_append]

theorem spells_of_scanFrom {fuel : Nat} {read tokens : List Token} {cs : List Char}
    (scanned : scanFrom fuel read cs = some tokens) :
    ∃ others, tokens = read.reverse ++ others ∧ Spells others cs := by
  induction fuel generalizing read cs with
  | zero => cases scanned
  | succ fuel ih =>
      have split : cs = cs.takeWhile isSpace ++ cs.dropWhile isSpace :=
        List.takeWhile_append_dropWhile.symm
      have blank : ∀ c ∈ cs.takeWhile isSpace, isSpace c = true :=
        List.all_eq_true.mp List.all_takeWhile
      rw [scanFrom] at scanned
      cases skipped : cs.dropWhile isSpace with
      | nil =>
          rw [skipped] at scanned split
          cases scanned
          refine ⟨[], (List.append_nil _).symm, ?_⟩
          rw [split, List.append_nil]
          exact .nil blank
      | cons c rest =>
          rw [skipped] at scanned split
          dsimp only at scanned
          cases taken : next? (c :: rest) with
          | none =>
              rw [taken] at scanned
              cases scanned
          | some found =>
              obtain ⟨token, following⟩ := found
              rw [taken] at scanned
              obtain ⟨others, rfl, spelled⟩ := ih scanned
              obtain ⟨front, head, same⟩ := tokenSpelling_of_next? taken
              refine ⟨token :: others, ?_, ?_⟩
              · rw [List.reverse_cons, List.append_assoc, List.singleton_append]
              · rw [split, same]
                exact .cons blank head spelled

theorem spells_of_scan {tokens : List Token} {cs : List Char}
    (scanned : scan cs = some tokens) : Spells tokens cs := by
  obtain ⟨others, rfl, spelled⟩ := spells_of_scanFrom scanned
  exact spelled

theorem scan_of_spells {tokens : List Token} {cs : List Char} (spelled : Spells tokens cs)
    (separable : Separable tokens) : scan cs = some tokens :=
  scanFrom_of_spells spelled separable (cs.length + 1) [] (Nat.lt_succ_self _)

end Json
end VirtualNpu
