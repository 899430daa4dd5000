import Mathlib.Data.List.Forall2
import VirtualNpu.Config.Validation

/-!
Templates in order.  A list is put in order by memory and keeps the order of templates of one
memory; there is only one such list, so a family that is in order is left as it is.
-/

namespace VirtualNpu
namespace Config

/-! ### Lists of templates -/

def ofMemory (memory : UInt64) (templates : List CapacityTemplate) : List CapacityTemplate :=
  templates.filter fun template => template.memory = memory

theorem mem_ofMemory {memory : UInt64} {templates : List CapacityTemplate}
    {template : CapacityTemplate} :
    template ∈ ofMemory memory templates ↔ template ∈ templates ∧ template.memory = memory := by
  rw [ofMemory, List.mem_filter, decide_eq_true_iff]

theorem ofMemory_cons_self {memory : UInt64} {template : CapacityTemplate}
    (same : template.memory = memory) (rest : List CapacityTemplate) :
    ofMemory memory (template :: rest) = template :: ofMemory memory rest :=
  List.filter_cons_of_pos (decide_eq_true same)

theorem ofMemory_cons_ne {memory : UInt64} {template : CapacityTemplate}
    (differs : template.memory ≠ memory) (rest : List CapacityTemplate) :
    ofMemory memory (template :: rest) = ofMemory memory rest :=
  List.filter_cons_of_neg fun same => differs (of_decide_eq_true same)

/-- Whether the second list is the first in ascending order of memory.  Templates of one memory stay
in the order in which they were given. -/
structure AreSorted (given sorted : List CapacityTemplate) : Prop where
  same : sorted.Perm given
  ascending : sorted.Pairwise fun left right => left.memory ≤ right.memory
  stable : ∀ memory, ofMemory memory sorted = ofMemory memory given

theorem memory_le_trans (first second third : CapacityTemplate)
    (low : decide (first.memory ≤ second.memory) = true)
    (high : decide (second.memory ≤ third.memory) = true) :
    decide (first.memory ≤ third.memory) = true :=
  decide_eq_true (UInt64.le_trans (of_decide_eq_true low) (of_decide_eq_true high))

theorem memory_le_total (left right : CapacityTemplate) :
    (decide (left.memory ≤ right.memory) || decide (right.memory ≤ left.memory)) = true := by
  rcases UInt64.le_total left.memory right.memory with low | high
  · rw [decide_eq_true low, Bool.true_or]
  · rw [decide_eq_true high, Bool.or_true]

theorem templates_sorted (family : ChipFamily) :
    AreSorted family.templates family.sorted.templates := by
  have same := List.mergeSort_perm family.templates fun left right => left.memory ≤ right.memory
  have ascending := List.pairwise_mergeSort memory_le_trans memory_le_total family.templates
  refine ⟨same, ascending.imp of_decide_eq_true, fun memory => ?_⟩
  -- Templates of one memory are in order as they are, so they go through the sorting as they are.
  have level : (ofMemory memory family.templates).Pairwise
      fun left right => decide (left.memory ≤ right.memory) = true := by
    apply List.pairwise_of_forall_mem_list
    intro left leftIn right rightIn
    have low := (mem_ofMemory.mp leftIn).2
    have high := (mem_ofMemory.mp rightIn).2
    exact decide_eq_true (low.trans high.symm ▸ UInt64.le_refl _)
  have kept := (List.sublist_mergeSort memory_le_trans memory_le_total level
    List.filter_sublist).filter fun template => template.memory = memory
  rw [ofMemory, List.filter_filter] at kept
  simp only [Bool.and_self] at kept
  exact (kept.eq_of_length (same.filter _).length_eq.symm).symm

theorem mem_iff_of_levels {first second : List CapacityTemplate}
    (levels : ∀ memory, ofMemory memory first = ofMemory memory second)
    (template : CapacityTemplate) : template ∈ first ↔ template ∈ second := by
  have level := congrArg (template ∈ ·) (levels template.memory)
  simpa only [mem_ofMemory, and_true, eq_iff_iff] using level

/-- Lists in order are told by their templates of each memory. -/
theorem eq_of_ascending {first second : List CapacityTemplate}
    (ascending : first.Pairwise fun left right => left.memory ≤ right.memory)
    (ascending' : second.Pairwise fun left right => left.memory ≤ right.memory)
    (levels : ∀ memory, ofMemory memory first = ofMemory memory second) : first = second := by
  have inside := mem_iff_of_levels levels
  induction first generalizing second with
  | nil =>
      cases second with
      | nil => rfl
      | cons template rest => cases (inside template).mpr List.mem_cons_self
  | cons template rest ih =>
      cases second with
      | nil => cases (inside template).mp List.mem_cons_self
      | cons other others =>
          obtain ⟨lowest, tail⟩ := List.pairwise_cons.mp ascending
          obtain ⟨lowest', tail'⟩ := List.pairwise_cons.mp ascending'
          have low : template.memory ≤ other.memory := by
            rcases List.mem_cons.mp ((inside other).mpr List.mem_cons_self) with rfl | behind
            · exact UInt64.le_refl _
            · exact lowest other behind
          have high : other.memory ≤ template.memory := by
            rcases List.mem_cons.mp ((inside template).mp List.mem_cons_self) with rfl | behind
            · exact UInt64.le_refl _
            · exact lowest' template behind
          have level := levels template.memory
          rw [ofMemory_cons_self rfl, ofMemory_cons_self (UInt64.le_antisymm high low)] at level
          obtain ⟨rfl, -⟩ := List.cons.inj level
          have below : ∀ memory, ofMemory memory rest = ofMemory memory others := by
            intro memory
            have level := levels memory
            by_cases same : template.memory = memory
            · rw [ofMemory_cons_self same, ofMemory_cons_self same] at level
              exact List.cons.inj level |>.2
            · rwa [ofMemory_cons_ne same, ofMemory_cons_ne same] at level
          rw [ih tail tail' below (mem_iff_of_levels below)]

theorem AreSorted.unique {given first second : List CapacityTemplate}
    (one : AreSorted given first) (other : AreSorted given second) : first = second :=
  eq_of_ascending one.ascending other.ascending fun memory =>
    (one.stable memory).trans (other.stable memory).symm

/-! ### Families -/

structure ChipFamily.Sorts (given sorted : ChipFamily) : Prop where
  others : sorted = { given with templates := sorted.templates }
  templates : AreSorted given.templates sorted.templates

theorem sorts_iff (given family : ChipFamily) : given.Sorts family ↔ family = given.sorted := by
  constructor
  · intro sorts
    rw [sorts.others, sorts.templates.unique (templates_sorted given)]
    rfl
  · rintro rfl
    exact ⟨rfl, templates_sorted given⟩

theorem sorted_sorted (family : ChipFamily) : family.sorted.sorted = family.sorted := by
  have ascending := (templates_sorted family).ascending
  exact ((sorts_iff _ _).mp ⟨rfl, List.Perm.refl _, ascending, fun _ => rfl⟩).symm

theorem forall₂_sorts_iff (given families : List ChipFamily) :
    List.Forall₂ ChipFamily.Sorts given families ↔ families = given.map ChipFamily.sorted := by
  constructor
  · intro sorts
    induction sorts with
    | nil => rfl
    | cons first _ ih => rw [List.map_cons, ← (sorts_iff _ _).mp first, ← ih]
  · rintro rfl
    rw [List.forall₂_map_right_iff]
    exact List.forall₂_same.mpr fun family _ => (sorts_iff family _).mpr rfl

end Config
end VirtualNpu
