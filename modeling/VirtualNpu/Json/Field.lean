import VirtualNpu.Json.Value
import VirtualNpu.Text.Digits

/-!
Records inside JSON values.  A record is an object with its fields by name, or an
array of its fields in their declared order.
-/

namespace VirtualNpu
namespace Json

/-- Distributes members to the fields named, in the order of `names`.  A member
whose name has no text, and a field that is named twice, spoil the record;
members of other names are skipped. -/
def fieldsOfMembers (names : List String) :
    List (Option String × Value) → Option (List (Option Value))
  | [] => some (names.map fun _ => none)
  | (none, _) :: _ => none
  | (some name, value) :: members => do
      let fields ← fieldsOfMembers names members
      match names.idxOf? name with
      | none => some fields
      | some index =>
          match fields[index]? with
          | some none => some (fields.set index (some value))
          | _ => none

/-- The fields of a record, `none` for those it leaves out.  An array gives the
fields from the first on and has no items beyond the last. -/
def Value.fields? (names : List String) : Value → Option (List (Option Value))
  | .object members => fieldsOfMembers names members
  | .array items =>
      if items.length ≤ names.length then
        some (items.map some ++ List.replicate (names.length - items.length) none)
      else none
  | _ => none

def Value.asText? : Value → Option String
  | .string text => text
  | _ => none

def Value.asBool? : Value → Option Bool
  | .bool b => some b
  | _ => none

def Value.asNat? (limit : Nat) : Value → Option Nat
  | .number lexeme =>
      match Text.natural? 10 lexeme.toList with
      | some n => if n ≤ limit then some n else none
      | none => none
  | _ => none

/-- A whole number of 32 bits, written with digits alone behind at most a minus.
A zero with a minus is no whole number. -/
def Value.asInt32? : Value → Option Int
  | .number lexeme =>
      match lexeme.toList with
      | '-' :: digits =>
          match Text.natural? 10 digits with
          | some n => if 0 < n ∧ n ≤ 0x80000000 then some (-(n : Int)) else none
          | none => none
      | digits =>
          match Text.natural? 10 digits with
          | some n => if n ≤ 0x7FFFFFFF then some (n : Int) else none
          | none => none
  | _ => none

end Json
end VirtualNpu
