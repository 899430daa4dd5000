import Mathlib.Data.List.Induction
import VirtualNpu.Cluster.Object
import VirtualNpu.Proofs.JsonWriting

/-!
What calls do to the objects of the cluster.  The last change that they ask for under a key is
what is kept under it; other annotations, and all else of the object, stay as they were.
-/

namespace VirtualNpu

namespace Json

namespace Members

theorem find?_besides (members : Members) {names : List String} {name : String}
    (other : name ∉ names) :
    find? (members.besides names) (some name) = members.find? (some name) := by
  have kept : (members.besides names).filter (fun member => member.1 = some name) =
      members.filter fun member => member.1 = some name := by
    rw [besides, List.filter_filter]
    apply List.filter_congr
    intro member _
    by_cases here : member.1 = some name
    · simp [here, other]
    · simp [here]
  rw [find?, kept, find?]

theorem besides_mono {one two : Members} {names more : List String}
    (same : one.besides names = two.besides names) (wider : ∀ name ∈ names, name ∈ more) :
    one.besides more = two.besides more := by
  have narrowed : ∀ members : Members,
      besides (members.besides names) more = members.besides more := by
    intro members
    rw [besides, besides, List.filter_filter]
    apply List.filter_congr
    intro member _
    by_cases out : member.1 ∈ more.map some
    · simp [out]
    · have outside : member.1 ∉ names.map some := by
        intro inside
        obtain ⟨name, listed, same⟩ := List.mem_map.mp inside
        exact out (List.mem_map.mpr ⟨name, wider name listed, same⟩)
      simp [out, outside]
  rw [← narrowed one, same, narrowed]

end Members

end Json

namespace Cluster

open Json (Members Value)

/-! ### One object -/

/-- The members that changes of annotations leave: each sets its key, or takes it away. -/
def changed (members : Members) (changes : List (String × Option String)) : Members :=
  changes.foldl (fun members change =>
    match change.2 with
    | some text => members.put (some change.1) (.text text)
    | none => members.erase (some change.1)) members

def lastChange? (key : String) (changes : List (String × Option String)) :
    Option (Option String) :=
  ((changes.filter fun change => change.1 = key).map Prod.snd).getLast?

theorem lastChange?_append (key : String) (earlier later : List (String × Option String)) :
    lastChange? key (earlier ++ later) = (lastChange? key later).or (lastChange? key earlier) := by
  simp only [lastChange?, List.filter_append, List.map_append, List.getLast?_append]

theorem changed_concat (members : Members) (changes : List (String × Option String))
    (key : String) (value : Option String) :
    changed members (changes ++ [(key, value)]) =
      match value with
      | some text => (changed members changes).put (some key) (.text text)
      | none => (changed members changes).erase (some key) :=
  List.foldl_append

theorem find?_changed (members : Members) (changes : List (String × Option String))
    (key : String) :
    (changed members changes).find? (some key) =
      (lastChange? key changes).elim (members.find? (some key)) (Option.map Value.text) := by
  induction changes using List.reverseRecOn with
  | nil => rfl
  | append_singleton changes change ih =>
      obtain ⟨other, value⟩ := change
      rw [changed_concat, lastChange?_append]
      by_cases same : other = key
      · subst same
        have last : lastChange? other [(other, value)] = some value := by simp [lastChange?]
        rw [last]
        cases value with
        | some text => exact Members.find?_put_self _ _ _
        | none => exact Members.find?_erase_self _ _
      · have none : lastChange? key [(other, value)] = none := by simp [lastChange?, same]
        have differs : some key ≠ some other := fun equal => same (Option.some.inj equal).symm
        rw [none, Option.none_or, ← ih]
        cases value with
        | some text => exact Members.find?_put_ne _ differs _
        | none => exact Members.find?_erase_ne _ differs

theorem besides_changed (members : Members) (changes : List (String × Option String)) :
    Members.besides (changed members changes) (changes.map Prod.fst) =
      members.besides (changes.map Prod.fst) := by
  suffices general : ∀ names : List String, (∀ change ∈ changes, change.1 ∈ names) →
      Members.besides (changed members changes) names = members.besides names from
    general _ fun change inside => List.mem_map_of_mem inside
  intro names
  induction changes using List.reverseRecOn with
  | nil => exact fun _ => rfl
  | append_singleton changes change ih =>
      intro listed
      obtain ⟨key, value⟩ := change
      have here : key ∈ names := listed (key, value) (by simp)
      have before := ih fun change inside => listed change (List.mem_append_left _ inside)
      rw [changed_concat, ← before]
      cases value with
      | some text => exact Members.besides_put _ here _
      | none => exact Members.besides_erase _ here

theorem mergeMembers_changes (members : Members) (changes : List (String × Option String)) :
    Json.mergeMembers members
        (changes.map fun change => (some change.1, (change.2.map Value.text).getD .null)) =
      changed members changes := by
  induction changes generalizing members with
  | nil => rfl
  | cons change changes ih =>
      obtain ⟨key, value⟩ := change
      cases value with
      | some text =>
          exact ih (members.put (some key) (.text text))
      | none => exact ih (members.erase (some key))

/-- A patch of annotations changes the annotations, and makes what is missing on the way to
them. -/
theorem merge_annotationsPatch (object : Value) (changes : List (String × Option String)) :
    object.merge (annotationsPatch changes) =
      .object (object.members.put (some "metadata")
        (.object ((metadataOf object).members.put (some "annotations")
          (.object (changed (annotationsOf object) changes))))) := by
  simp only [annotationsPatch, Value.record, List.map_cons, List.map_nil, List.map_map,
    Function.comp_def, Value.merge, Json.mergeMembers]
  rw [← mergeMembers_changes]
  rfl

theorem metadataOf_merge (object : Value) (changes : List (String × Option String)) :
    metadataOf (object.merge (annotationsPatch changes)) =
      .object ((metadataOf object).members.put (some "annotations")
        (.object (changed (annotationsOf object) changes))) := by
  rw [merge_annotationsPatch, metadataOf, Value.at?, Value.members, Members.find?_put_self]
  rfl

theorem annotationsOf_merge (object : Value) (changes : List (String × Option String)) :
    annotationsOf (object.merge (annotationsPatch changes)) =
      changed (annotationsOf object) changes := by
  rw [annotationsOf, metadataOf_merge, Value.at?, Value.members, Members.find?_put_self]
  rfl

theorem touchesOnly_merge (object : Value) (changes : List (String × Option String)) :
    TouchesOnly (changes.map Prod.fst) object (object.merge (annotationsPatch changes)) where
  members := by
    rw [merge_annotationsPatch]
    exact Members.besides_put _ List.mem_cons_self _
  metadata := by
    rw [metadataOf_merge]
    exact Members.besides_put _ List.mem_cons_self _
  annotations := by
    rw [annotationsOf_merge]
    exact besides_changed _ _

/-! ### One call -/

theorem writable_annotationsPatch (changes : List (String × Option String)) :
    Json.Writable (annotationsPatch changes) := by
  have value : ∀ text : Option String, Json.Writable ((text.map Value.text).getD .null) := by
    intro text
    cases text with
    | some text => exact .text
    | none => exact .null
  have only : ∀ name inner, Json.Writable inner → Json.Writable (.record [(name, inner)]) := by
    intro name inner writable
    apply Json.Writable.record
    intro member inside
    rw [List.mem_singleton.mp inside]
    exact writable
  apply only "metadata"
  apply only "annotations"
  apply Json.Writable.record
  intro member inside
  obtain ⟨change, _, rfl⟩ := List.mem_map.mp inside
  exact value change.2

/-- The text that is sent with a change is read as the patch of its annotations, and nothing is
sent with a look-up. -/
theorem Call.applied_eq (call : Call) (object : Value) :
    call.changes = [] ∧ call.applied object = object ∨
      call.applied object = object.merge (annotationsPatch call.changes) := by
  have patched : ∀ body, call.body = some body → body = annotationsPatch call.changes →
      call.applied object = object.merge (annotationsPatch call.changes) := by
    rintro _ sent rfl
    rw [Call.applied, sent, Option.map_some, Option.bind_some,
      Json.parse?_render (writable_annotationsPatch call.changes)]
  cases call with
  | pendingPod node => exact Or.inl ⟨rfl, rfl⟩
  | setBindPhase namespaceName name phase => exact Or.inr (patched _ rfl rfl)
  | releaseNodeLock node => exact Or.inr (patched _ rfl rfl)
  | patchNodeAnnotations node annotations => exact Or.inr (patched _ rfl rfl)

theorem Call.annotationsOf_applied (call : Call) (object : Value) :
    annotationsOf (call.applied object) = changed (annotationsOf object) call.changes := by
  rcases call.applied_eq object with ⟨idle, same⟩ | merged
  · rw [same, idle]
    rfl
  · rw [merged, annotationsOf_merge]

theorem Call.touchesOnly_applied (call : Call) (object : Value) :
    TouchesOnly (call.changes.map Prod.fst) object (call.applied object) := by
  rcases call.applied_eq object with ⟨_, same⟩ | merged
  · rw [same]
    exact ⟨rfl, rfl, rfl⟩
  · rw [merged]
    exact touchesOnly_merge object call.changes

def Call.change? (key : String) (call : Call) : Option (Option String) :=
  lastChange? key call.changes

theorem Call.annotation?_applied (call : Call) (object : Value) (key : String) :
    annotation? (call.applied object) key =
      (call.change? key).elim (annotation? object key) (Option.map Value.text) := by
  rw [annotation?, call.annotationsOf_applied, find?_changed, annotation?, Call.change?]

/-! ### Calls one after another -/

theorem TouchesOnly.trans {keys more : List String} {before between after : Value}
    (first : TouchesOnly keys before between) (second : TouchesOnly more between after) :
    TouchesOnly (keys ++ more) before after where
  members := second.members.trans first.members
  metadata := second.metadata.trans first.metadata
  annotations :=
    (Members.besides_mono second.annotations fun _ => List.mem_append_right keys).trans
      (Members.besides_mono first.annotations fun _ => List.mem_append_left more)

theorem TouchesOnly.annotation? {keys : List String} {before after : Value}
    (touches : TouchesOnly keys before after) {key : String} (other : key ∉ keys) :
    annotation? after key = annotation? before key := by
  rw [Cluster.annotation?, ← Members.find?_besides _ other, touches.annotations,
    Members.find?_besides _ other, Cluster.annotation?]

def appliedAll (calls : List Call) (object : Value) : Value :=
  calls.foldl (fun object call => call.applied object) object

theorem appliedAll_concat (calls : List Call) (call : Call) (object : Value) :
    appliedAll (calls ++ [call]) object = call.applied (appliedAll calls object) :=
  List.foldl_append

theorem touchesOnly_appliedAll (calls : List Call) (object : Value) :
    TouchesOnly (calls.flatMap fun call => call.changes.map Prod.fst) object
      (appliedAll calls object) := by
  induction calls using List.reverseRecOn with
  | nil => exact ⟨rfl, rfl, rfl⟩
  | append_singleton calls call ih =>
      rw [appliedAll_concat, List.flatMap_append, List.flatMap_singleton]
      exact ih.trans (call.touchesOnly_applied (appliedAll calls object))

/-- After any calls an annotation is what the last of them that changes it makes of it. -/
theorem annotation?_appliedAll (calls : List Call) (object : Value) (key : String) :
    annotation? (appliedAll calls object) key =
      ((calls.filterMap (Call.change? key)).getLast?).elim (annotation? object key)
        (Option.map Value.text) := by
  induction calls using List.reverseRecOn with
  | nil => rfl
  | append_singleton calls call ih =>
      rw [appliedAll_concat, call.annotation?_applied, ih, List.filterMap_append,
        List.getLast?_append]
      cases change : call.change? key with
      | none => rw [List.filterMap_cons_none change]; rfl
      | some value => rw [List.filterMap_cons_some change]; rfl

end Cluster
end VirtualNpu
