import Mathlib.Data.List.Nodup
import VirtualNpu.Cluster.Annotation

/-!
Annotations by key: what is set under a key is found under it, and the annotations of a node have
keys of their own, those of each chip family and the lock.
-/

namespace VirtualNpu
namespace Cluster
namespace Annotations

theorem find?_cons_self (key value : String) (rest : Annotations) :
    find? ((key, value) :: rest) key = some value := by
  simp [find?]

theorem find?_cons_ne {key asked : String} (differs : asked ≠ key) (value : String)
    (rest : Annotations) : find? ((key, value) :: rest) asked = find? rest asked := by
  have test : (asked == key) = false := beq_eq_false_iff_ne.mpr differs
  simp only [find?, List.lookup_cons, test]

theorem find?_insert_self (key value : String) (annotations : Annotations) :
    (annotations.insert key value).find? key = some value := by
  induction annotations with
  | nil => exact find?_cons_self key value []
  | cons entry annotations ih =>
      obtain ⟨other, kept⟩ := entry
      unfold insert
      by_cases before : key < other
      · rw [if_pos before, find?_cons_self]
      · rw [if_neg before]
        by_cases same : key = other
        · rw [if_pos same, find?_cons_self]
        · rw [if_neg same, find?_cons_ne same, ih]

end Annotations

/-! ### The keys of a node -/

theorem nodeHandshake_lt_nodeRegister (commonWord : String) :
    nodeHandshake commonWord < nodeRegister commonWord := by
  change (nodeHandshake commonWord).toList < (nodeRegister commonWord).toList
  simp only [nodeHandshake, nodeRegister, domain, String.toList_append, List.append_assoc]
  -- the keys part at the letters `h` and `r`
  simp only [String.reduceToList, List.cons_append, List.nil_append, List.cons_lt_cons_iff,
    Char.reduceLT, true_and, false_or, true_or]

theorem nodeRegister_ne_nodeHandshake (commonWord other : String) :
    nodeRegister commonWord ≠ nodeHandshake other := by
  intro same
  have letters := congrArg String.toList same
  simp [nodeRegister, nodeHandshake, domain, String.toList_append] at letters

theorem nodeRegister_ne_nodeLock (commonWord : String) : nodeRegister commonWord ≠ nodeLock := by
  intro same
  have letters := congrArg String.toList same
  simp [nodeRegister, nodeLock, domain, String.toList_append] at letters

theorem nodeHandshake_ne_nodeLock (commonWord : String) :
    nodeHandshake commonWord ≠ nodeLock := by
  intro same
  have letters := congrArg String.toList same
  simp [nodeHandshake, nodeLock, domain, String.toList_append] at letters

theorem nodeRegister_inj {commonWord other : String} :
    nodeRegister commonWord = nodeRegister other ↔ commonWord = other :=
  String.append_right_inj _

theorem nodeHandshake_inj {commonWord other : String} :
    nodeHandshake commonWord = nodeHandshake other ↔ commonWord = other :=
  String.append_right_inj _

def nodeKeys (commonWord : String) : List String :=
  [nodeHandshake commonWord, nodeRegister commonWord]

theorem nodup_nodeKeys (commonWord : String) : (nodeLock :: nodeKeys commonWord).Nodup := by
  simp [nodeKeys, (nodeRegister_ne_nodeHandshake commonWord commonWord).symm,
    (nodeRegister_ne_nodeLock commonWord).symm, (nodeHandshake_ne_nodeLock commonWord).symm]

theorem disjoint_nodeKeys_iff (commonWord other : String) :
    (nodeKeys commonWord).Disjoint (nodeKeys other) ↔ commonWord ≠ other := by
  constructor
  · rintro apart rfl
    exact apart List.mem_cons_self List.mem_cons_self
  · intro differs key inside shared
    simp only [nodeKeys, List.mem_cons, List.not_mem_nil, or_false] at inside shared
    rcases inside with rfl | rfl
    · rcases shared with same | same
      · exact differs (nodeHandshake_inj.mp same)
      · exact nodeRegister_ne_nodeHandshake _ _ same.symm
    · rcases shared with same | same
      · exact nodeRegister_ne_nodeHandshake _ _ same
      · exact differs (nodeRegister_inj.mp same)

end Cluster
end VirtualNpu
