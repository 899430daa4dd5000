import VirtualNpu.Json.Value

/-!
Merge patches.  An object among patches is a list of changes: a member with null takes the
member of its name away, and any other is merged into what the member of its name holds.  A
patch of another kind takes the place of what was there.
-/

namespace VirtualNpu
namespace Json

abbrev Members := List (Option String × Value)

namespace Members

/-- The last of the values given for a name. -/
def find? (members : Members) (name : Option String) : Option Value :=
  ((members.filter fun member => member.1 = name).map Prod.snd).getLast?

def erase (members : Members) (name : Option String) : Members :=
  members.filter fun member => member.1 ≠ name

def put (members : Members) (name : Option String) (value : Value) : Members :=
  members.erase name ++ [(name, value)]

def besides (members : Members) (names : List String) : Members :=
  members.filter fun member => member.1 ∉ names.map some

theorem find?_erase_self (members : Members) (name : Option String) :
    (members.erase name).find? name = none := by
  have nothing : (members.erase name).filter (fun member => member.1 = name) = [] := by
    simp [erase]
  rw [find?, nothing]
  rfl

theorem find?_erase_ne (members : Members) {name asked : Option String} (differs : asked ≠ name) :
    (members.erase name).find? asked = members.find? asked := by
  have kept : (members.erase name).filter (fun member => member.1 = asked) =
      members.filter fun member => member.1 = asked := by
    rw [erase, List.filter_filter]
    apply List.filter_congr
    intro member _
    by_cases here : member.1 = asked
    · simp [here, differs]
    · simp [here]
  rw [find?, kept, find?]

theorem find?_put_self (members : Members) (name : Option String) (value : Value) :
    (members.put name value).find? name = some value := by
  simp [find?, put]

theorem find?_put_ne (members : Members) {name asked : Option String} (differs : asked ≠ name)
    (value : Value) : (members.put name value).find? asked = members.find? asked := by
  rw [← find?_erase_ne members differs]
  simp [find?, put, Ne.symm differs]

theorem besides_erase (members : Members) {name : String} {names : List String}
    (listed : name ∈ names) : besides (members.erase name) names = members.besides names := by
  rw [besides, besides, erase, List.filter_filter]
  apply List.filter_congr
  intro member _
  by_cases here : member.1 = some name
  · simp [here, listed]
  · simp [here]

theorem besides_put (members : Members) {name : String} {names : List String}
    (listed : name ∈ names) (value : Value) :
    besides (members.put name value) names = members.besides names := by
  rw [← besides_erase members listed, put, besides, List.filter_append]
  simp [besides, listed]

end Members

namespace Value

def members : Value → Members
  | .object members => members
  | _ => []

def at? (value : Value) (name : String) : Option Value :=
  value.members.find? (some name)

end Value

mutual

/-- What a value becomes when a patch is merged into it. -/
def Value.merge (target : Value) : Value → Value
  | .object changes => .object (mergeMembers target.members changes)
  | patch => patch

def mergeMembers (members : Members) : Members → Members
  | [] => members
  | (name, .null) :: changes => mergeMembers (members.erase name) changes
  | (name, patch) :: changes =>
      mergeMembers (members.put name (((members.find? name).getD .null).merge patch)) changes

end

end Json
end VirtualNpu
