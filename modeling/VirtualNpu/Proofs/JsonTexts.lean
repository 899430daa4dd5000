import VirtualNpu.Json.Reader
import VirtualNpu.Proofs.JsonTokens

/-!
The texts of a value against the reader: a text is read as a value exactly if it is a text
of that value.  What the reader has read so far can be told from where it stands, so each
step is held against the token that it takes.
-/

namespace VirtualNpu
namespace Json

open Progress (place openValue step run)

/-! ### What has been read -/

/-- The tokens of an open array up to the comma behind its items so far, last first. -/
def openItems : List Value → List Token
  | [] => [.openArray]
  | item :: items => openItems items ++ (item.tokens ++ [.comma])

def openMembers : List (Option String × Value) → List Token
  | [] => [.openObject]
  | (name, value) :: members =>
      openMembers members ++ (.string name :: .colon :: (value.tokens ++ [.comma]))

def Frame.tokens : Frame → List Token
  | .array items => openItems items
  | .object members name => openMembers members ++ [.string name, .colon]

def stackTokens : List Frame → List Token
  | [] => []
  | frame :: stack => stackTokens stack ++ frame.tokens

/-- The tokens that lead to a place.  A separator is expected behind an item or a member. -/
inductive Reads : Progress → List Token → Prop
  | complete {value : Value} : Reads (.complete value) value.tokens
  | value {stack : List Frame} : Reads (.reading stack .value) (stackTokens stack)
  | firstItem {stack : List Frame} :
      Reads (.reading (.array [] :: stack) .firstItem) (stackTokens (.array [] :: stack))
  | item {item : Value} {items : List Value} {stack : List Frame} :
      Reads (.reading (.array (item :: items) :: stack) .separator)
        (stackTokens (.array items :: stack) ++ item.tokens)
  | member {name last : Option String} {value : Value} {members : List (Option String × Value)}
      {stack : List Frame} :
      Reads (.reading (.object ((name, value) :: members) last :: stack) .separator)
        (stackTokens (.object members name :: stack) ++ value.tokens)
  | firstName {stack : List Frame} :
      Reads (.reading stack .firstName) (stackTokens stack ++ openMembers [])
  | name {members : List (Option String × Value)} {stack : List Frame} :
      Reads (.reading stack (.name members)) (stackTokens stack ++ openMembers members)
  | colon {members : List (Option String × Value)} {name : Option String}
      {stack : List Frame} :
      Reads (.reading stack (.colon members name))
        (stackTokens stack ++ (openMembers members ++ [.string name]))

private theorem openItems_append (items : List Value) (item : Value) (later : List Value) :
    openItems items ++ (item.tokens ++ itemTokens later) =
      (Value.array (items.reverse ++ item :: later)).tokens := by
  induction items generalizing item later with
  | nil => rfl
  | cons last items ih =>
      have moved := ih last (item :: later)
      rw [List.reverse_cons, List.append_assoc, List.singleton_append, ← moved]
      simp only [openItems, itemTokens, List.append_assoc, List.singleton_append]

private theorem openMembers_append (members : List (Option String × Value))
    (name : Option String) (value : Value) (later : List (Option String × Value)) :
    openMembers members ++ (.string name :: .colon :: (value.tokens ++ memberTokens later)) =
      (Value.object (members.reverse ++ (name, value) :: later)).tokens := by
  induction members generalizing name value later with
  | nil => rfl
  | cons last members ih =>
      have moved := ih last.1 last.2 ((name, value) :: later)
      rw [List.reverse_cons, List.append_assoc, List.singleton_append, ← moved]
      simp only [openMembers, memberTokens, List.append_assoc, List.cons_append,
        List.nil_append]

theorem reads_place (value : Value) (stack : List Frame) :
    Reads (place value stack) (stackTokens stack ++ value.tokens) := by
  cases stack with
  | nil => exact .complete
  | cons frame stack =>
      cases frame with
      | array items => exact .item
      | object members name => exact .member

private theorem reads_openValue {stack : List Frame} {token : Token} {after : Progress}
    (opened : openValue stack token = some after) :
    Reads after (stackTokens stack ++ [token]) := by
  cases token with
  | null =>
      cases opened
      exact reads_place .null stack
  | bool b =>
      cases opened
      exact reads_place (.bool b) stack
  | number lexeme =>
      cases opened
      exact reads_place (.number lexeme) stack
  | string text =>
      cases opened
      exact reads_place (.string text) stack
  | openArray =>
      cases opened
      exact .firstItem
  | openObject =>
      cases opened
      exact .firstName
  | _ => cases opened

theorem reads_step {progress after : Progress} {token : Token} {tokens : List Token}
    (read : Reads progress tokens) (stepped : step progress token = some after) :
    Reads after (tokens ++ [token]) := by
  cases read with
  | complete => cases token <;> cases stepped
  | value => exact reads_openValue stepped
  | @firstItem stack =>
      cases token with
      | closeArray =>
          cases stepped
          have placed := reads_place (.array []) stack
          rw [stackTokens, List.append_assoc]
          exact placed
      | _ => exact reads_openValue stepped
  | @item item items stack =>
      cases token with
      | comma =>
          cases stepped
          have valued : Reads (.reading (.array (item :: items) :: stack) .value) _ := .value
          simp only [stackTokens, Frame.tokens, openItems, List.append_assoc] at valued ⊢
          exact valued
      | closeArray =>
          cases stepped
          have placed := reads_place (.array (item :: items).reverse) stack
          rw [List.reverse_cons, ← openItems_append] at placed
          simp only [stackTokens, Frame.tokens, itemTokens, List.append_assoc,
            List.reverse_cons] at placed ⊢
          exact placed
      | _ => cases stepped
  | @member name last value members stack =>
      cases token with
      | comma =>
          cases stepped
          have named : Reads (.reading stack (.name ((name, value) :: members))) _ := .name
          simp only [stackTokens, Frame.tokens, openMembers, List.append_assoc,
            List.cons_append, List.nil_append] at named ⊢
          exact named
      | closeObject =>
          cases stepped
          have placed := reads_place (.object ((name, value) :: members).reverse) stack
          rw [List.reverse_cons, ← openMembers_append] at placed
          simp only [stackTokens, Frame.tokens, memberTokens, List.append_assoc,
            List.cons_append, List.nil_append, List.reverse_cons] at placed ⊢
          exact placed
      | _ => cases stepped
  | @firstName stack =>
      cases token with
      | closeObject =>
          cases stepped
          have placed := reads_place (.object []) stack
          rw [List.append_assoc]
          exact placed
      | string text =>
          cases stepped
          have named : Reads (.reading stack (.colon [] text)) _ := .colon
          rw [List.append_assoc]
          exact named
      | _ => cases stepped
  | @name members stack =>
      cases token with
      | string text =>
          cases stepped
          have named : Reads (.reading stack (.colon members text)) _ := .colon
          rw [List.append_assoc]
          exact named
      | _ => cases stepped
  | @colon members name stack =>
      cases token with
      | colon =>
          cases stepped
          have valued : Reads (.reading (.object members name :: stack) .value) _ := .value
          simp only [stackTokens, Frame.tokens, List.append_assoc, List.cons_append,
            List.nil_append] at valued ⊢
          exact valued
      | _ => cases stepped

theorem reads_run {progress after : Progress} {read tokens : List Token}
    (reads : Reads progress read) (ran : run progress tokens = some after) :
    Reads after (read ++ tokens) := by
  induction tokens generalizing progress read with
  | nil =>
      cases ran
      rw [List.append_nil]
      exact reads
  | cons token tokens ih =>
      rw [run] at ran
      cases stepped : step progress token with
      | none =>
          rw [stepped] at ran
          cases ran
      | some following =>
          rw [stepped] at ran
          have further := ih (reads_step reads stepped) ran
          rw [List.append_assoc, List.singleton_append] at further
          exact further

theorem tokens_of_ofTokens? {tokens : List Token} {value : Value}
    (read : Value.ofTokens? tokens = some value) : tokens = value.tokens := by
  unfold Value.ofTokens? at read
  split at read
  · rename_i ended ran
    cases read
    have reads : Reads (.complete value) ([] ++ tokens) := reads_run .value ran
    cases reads
    rfl
  · cases read

/-! ### Reading the tokens of a value -/

private theorem run_firstItem (value : Value) (stack : List Frame) (rest : List Token) :
    run (.reading (.array [] :: stack) .firstItem) (value.tokens ++ rest) =
      run (.reading (.array [] :: stack) .value) (value.tokens ++ rest) := by
  cases value with
  | array items => cases items <;> rfl
  | object members => cases members <;> rfl
  | _ => rfl

mutual

theorem run_tokens (value : Value) (stack : List Frame) (rest : List Token) :
    run (.reading stack .value) (value.tokens ++ rest) = run (place value stack) rest := by
  cases value with
  | array items =>
      cases items with
      | nil => rfl
      | cons item items =>
          have opened : run (.reading stack .value) ((Value.array (item :: items)).tokens ++ rest) =
              run (.reading (.array [] :: stack) .firstItem)
                (item.tokens ++ (itemTokens items ++ rest)) := by
            rw [Value.tokens, List.cons_append, List.append_assoc]
            rfl
          rw [opened, run_firstItem, run_tokens item (.array [] :: stack)]
          exact run_itemTokens items [item] stack rest
  | object members =>
      cases members with
      | nil => rfl
      | cons member members =>
          obtain ⟨name, value⟩ := member
          have opened : run (.reading stack .value)
              ((Value.object ((name, value) :: members)).tokens ++ rest) =
              run (.reading (.object [] name :: stack) .value)
                (value.tokens ++ (memberTokens members ++ rest)) := by
            rw [Value.tokens, List.cons_append, List.cons_append, List.cons_append,
              List.append_assoc]
            rfl
          rw [opened, run_tokens value (.object [] name :: stack)]
          exact run_memberTokens members [(name, value)] name stack rest
  | _ => rfl

theorem run_itemTokens (items read : List Value) (stack : List Frame) (rest : List Token) :
    run (.reading (.array read :: stack) .separator) (itemTokens items ++ rest) =
      run (place (.array (read.reverse ++ items)) stack) rest := by
  cases items with
  | nil =>
      rw [List.append_nil]
      rfl
  | cons item items =>
      have opened : run (.reading (.array read :: stack) .separator)
          (itemTokens (item :: items) ++ rest) =
          run (.reading (.array read :: stack) .value)
            (item.tokens ++ (itemTokens items ++ rest)) := by
        rw [itemTokens, List.cons_append, List.append_assoc]
        rfl
      have moved := run_itemTokens items (item :: read) stack rest
      rw [List.reverse_cons, List.append_assoc, List.singleton_append] at moved
      rw [opened, run_tokens item (.array read :: stack)]
      exact moved

theorem run_memberTokens (members read : List (Option String × Value)) (last : Option String)
    (stack : List Frame) (rest : List Token) :
    run (.reading (.object read last :: stack) .separator) (memberTokens members ++ rest) =
      run (place (.object (read.reverse ++ members)) stack) rest := by
  cases members with
  | nil =>
      rw [List.append_nil]
      rfl
  | cons member members =>
      obtain ⟨name, value⟩ := member
      have opened : run (.reading (.object read last :: stack) .separator)
          (memberTokens ((name, value) :: members) ++ rest) =
          run (.reading (.object read name :: stack) .value)
            (value.tokens ++ (memberTokens members ++ rest)) := by
        rw [memberTokens, List.cons_append, List.cons_append, List.cons_append,
          List.append_assoc]
        rfl
      have moved := run_memberTokens members ((name, value) :: read) name stack rest
      rw [List.reverse_cons, List.append_assoc, List.singleton_append] at moved
      rw [opened, run_tokens value (.object read name :: stack)]
      exact moved

end

theorem ofTokens?_tokens (value : Value) : Value.ofTokens? value.tokens = some value := by
  have ran := run_tokens value [] []
  rw [List.append_nil] at ran
  unfold Value.ofTokens?
  rw [ran]
  rfl

/-! ### Texts -/

private theorem noNumberLeads_itemTokens (items : List Value) (rest : List Token) :
    NoNumberLeads (itemTokens items ++ rest) := by
  intro token leads
  cases items <;> cases leads <;> rfl

private theorem noNumberLeads_memberTokens (members : List (Option String × Value))
    (rest : List Token) : NoNumberLeads (memberTokens members ++ rest) := by
  intro token leads
  cases members <;> cases leads <;> rfl

private theorem separable_cons {token : Token} {tokens : List Token}
    (plain : token.isNumber = false) (separable : Separable tokens) :
    Separable (token :: tokens) := by
  refine ⟨?_, separable⟩
  intro number
  rw [plain] at number
  cases number

mutual

/-- Between any two numbers of a value stands a comma, a colon or a bracket. -/
theorem separable_tokens (value : Value) (rest : List Token) (other : NoNumberLeads rest)
    (separable : Separable rest) : Separable (value.tokens ++ rest) := by
  cases value with
  | number lexeme => exact ⟨fun _ => other, separable⟩
  | array items =>
      cases items with
      | nil => exact separable_cons rfl (separable_cons rfl separable)
      | cons item items =>
          rw [Value.tokens, List.cons_append, List.append_assoc]
          apply separable_cons rfl
          exact separable_tokens item _ (noNumberLeads_itemTokens items rest)
            (separable_itemTokens items rest separable)
  | object members =>
      cases members with
      | nil => exact separable_cons rfl (separable_cons rfl separable)
      | cons member members =>
          obtain ⟨name, value⟩ := member
          rw [Value.tokens, List.cons_append, List.cons_append, List.cons_append,
            List.append_assoc]
          apply separable_cons rfl
          apply separable_cons rfl
          apply separable_cons rfl
          exact separable_tokens value _ (noNumberLeads_memberTokens members rest)
            (separable_memberTokens members rest separable)
  | _ => exact separable_cons rfl separable

theorem separable_itemTokens (items : List Value) (rest : List Token)
    (separable : Separable rest) : Separable (itemTokens items ++ rest) := by
  cases items with
  | nil => exact separable_cons rfl separable
  | cons item items =>
      rw [itemTokens, List.cons_append, List.append_assoc]
      apply separable_cons rfl
      exact separable_tokens item _ (noNumberLeads_itemTokens items rest)
        (separable_itemTokens items rest separable)

theorem separable_memberTokens (members : List (Option String × Value)) (rest : List Token)
    (separable : Separable rest) : Separable (memberTokens members ++ rest) := by
  cases members with
  | nil => exact separable_cons rfl separable
  | cons member members =>
      obtain ⟨name, value⟩ := member
      rw [memberTokens, List.cons_append, List.cons_append, List.cons_append,
        List.append_assoc]
      apply separable_cons rfl
      apply separable_cons rfl
      apply separable_cons rfl
      exact separable_tokens value _ (noNumberLeads_memberTokens members rest)
        (separable_memberTokens members rest separable)

end

theorem parse?_eq_some_iff (text : String) (value : Value) :
    Value.parse? text = some value ↔ IsText value text := by
  unfold Value.parse? IsText
  constructor
  · intro parsed
    obtain ⟨tokens, scanned, read⟩ := Option.bind_eq_some_iff.mp parsed
    rw [← tokens_of_ofTokens? read]
    exact spells_of_scan scanned
  · intro spelled
    have separable := separable_tokens value [] (by simp [NoNumberLeads]) trivial
    rw [List.append_nil] at separable
    rw [scan_of_spells spelled separable, Option.bind_some, ofTokens?_tokens]

end Json
end VirtualNpu
