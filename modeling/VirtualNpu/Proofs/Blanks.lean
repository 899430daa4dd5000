import VirtualNpu.Text.Basic

/-!
Trimming takes the blanks off both ends of a text, and nothing else.
-/

namespace VirtualNpu
namespace Text

structure Trims (text core : List Char) : Prop where
  around : ∃ lead trail, text = lead ++ (core ++ trail) ∧
    (∀ c ∈ lead, isBlank c = true) ∧ (∀ c ∈ trail, isBlank c = true)
  first : ∀ c, core.head? = some c → isBlank c = false
  last : ∀ c, core.getLast? = some c → isBlank c = false

private theorem dropWhile_blanks {lead rest : List Char}
    (leading : ∀ c ∈ lead, isBlank c = true)
    (first : ∀ c, rest.head? = some c → isBlank c = false) :
    (lead ++ rest).dropWhile isBlank = rest := by
  rw [List.dropWhile_append_of_pos leading]
  cases rest with
  | nil => rfl
  | cons c rest =>
      have kept : ¬ isBlank c = true := by simp [first c rfl]
      rw [List.dropWhile_cons_of_neg kept]

private theorem head?_dropWhile_blanks {cs : List Char} {c : Char}
    (first : (cs.dropWhile isBlank).head? = some c) : isBlank c = false := by
  have stopped := List.head?_dropWhile_not isBlank cs
  rw [first] at stopped
  exact stopped

theorem trimBlanks_of_trims {text core : List Char} (trims : Trims text core) :
    trimBlanks text = core := by
  obtain ⟨⟨lead, trail, rfl, leading, trailing⟩, first, last⟩ := trims
  cases core with
  | nil =>
      have all : ∀ c ∈ lead ++ trail, isBlank c = true := by
        intro c inside
        rcases List.mem_append.mp inside with before | behind
        · exact leading c before
        · exact trailing c behind
      have nothing : (lead ++ trail).dropWhile isBlank = [] := by
        have dropped : ((lead ++ trail) ++ []).dropWhile isBlank = [] :=
          dropWhile_blanks all (by simp)
        rwa [List.append_nil] at dropped
      rw [List.nil_append, trimBlanks, nothing]
      rfl
  | cons c rest =>
      have front : (lead ++ ((c :: rest) ++ trail)).dropWhile isBlank = (c :: rest) ++ trail := by
        apply dropWhile_blanks leading
        intro d isFirst
        exact first d isFirst
      have back : (trail.reverse ++ (c :: rest).reverse).dropWhile isBlank =
          (c :: rest).reverse := by
        apply dropWhile_blanks
        · intro d inside
          exact trailing d (List.mem_reverse.mp inside)
        · intro d isLast
          rw [List.head?_reverse] at isLast
          exact last d isLast
      rw [trimBlanks, front, List.reverse_append, back, List.reverse_reverse]

theorem trims_trimBlanks (text : List Char) : Trims text (trimBlanks text) := by
  -- What the first pass drops is put back in front, and what the second drops behind.
  have front : text.takeWhile isBlank ++ text.dropWhile isBlank = text :=
    List.takeWhile_append_dropWhile
  have back : trimBlanks text ++ ((text.dropWhile isBlank).reverse.takeWhile isBlank).reverse =
      text.dropWhile isBlank := by
    unfold trimBlanks
    rw [← List.reverse_append, List.takeWhile_append_dropWhile, List.reverse_reverse]
  constructor
  · refine ⟨text.takeWhile isBlank,
      ((text.dropWhile isBlank).reverse.takeWhile isBlank).reverse, ?_, ?_, ?_⟩
    · rw [back, front]
    · intro c inside
      exact List.all_eq_true.mp List.all_takeWhile c inside
    · intro c inside
      exact List.all_eq_true.mp List.all_takeWhile c (List.mem_reverse.mp inside)
  · intro c isFirst
    have kept : (text.dropWhile isBlank).head? = some c := by
      rw [← back, List.head?_append, isFirst]
      rfl
    exact head?_dropWhile_blanks kept
  · intro c isLast
    unfold trimBlanks at isLast
    rw [List.getLast?_reverse] at isLast
    exact head?_dropWhile_blanks isLast

theorem trim_eq_empty_iff (text : String) :
    trim text = "" ↔ ∀ c ∈ text.toList, isBlank c = true := by
  constructor
  · intro empty
    have nothing : trimBlanks text.toList = [] := by
      have same := congrArg String.toList empty
      rwa [trim, String.toList_ofList] at same
    obtain ⟨⟨lead, trail, whole, leading, trailing⟩, _, _⟩ := trims_trimBlanks text.toList
    intro c inside
    rw [whole, nothing, List.nil_append] at inside
    rcases List.mem_append.mp inside with before | behind
    · exact leading c before
    · exact trailing c behind
  · intro blank
    have trims : Trims text.toList [] :=
      ⟨⟨text.toList, [], by simp, blank, by simp⟩, by simp, by simp⟩
    rw [trim, trimBlanks_of_trims trims]

theorem trim_eq_self {text : String}
    (first : ∀ c, text.toList.head? = some c → isBlank c = false)
    (last : ∀ c, text.toList.getLast? = some c → isBlank c = false) : trim text = text := by
  have trims : Trims text.toList text.toList :=
    ⟨⟨[], [], by simp, by simp, by simp⟩, first, last⟩
  rw [trim, trimBlanks_of_trims trims, String.ofList_toList]

end Text
end VirtualNpu
