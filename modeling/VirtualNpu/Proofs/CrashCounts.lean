import Mathlib.Data.List.Chain
import VirtualNpu.Proofs.CrashBursts

/-!
What each of a series of crashes is answered, by the crashes up to it alone.  The count is that of
the longest run of crashes, up to the last, in which each follows the one before it within the
window.  So a budget never permits more restarts within a window than it allows.
-/

namespace VirtualNpu
namespace Plugin
namespace CrashBudget

/-- Whether each of some crashes follows the one before it within the window. -/
def IsDense (window : Nat) (crashes : List Nat) : Prop :=
  crashes.IsChain fun crash next => next - crash ≤ window

/-- Whether a number is the length of the longest dense suffix of some crashes. -/
structure CountsDense (window : Nat) (crashes : List Nat) (count : Nat) : Prop where
  reached : ∃ suffix, suffix <:+ crashes ∧ IsDense window suffix ∧ suffix.length = count
  longest : ∀ suffix, suffix <:+ crashes → IsDense window suffix → suffix.length ≤ count

/-! ### The longest dense suffix -/

theorem burst_cons (window crash : Nat) (earlier : List Nat) :
    ∃ rest, burst window (crash :: earlier) = crash :: rest := by
  cases earlier with
  | nil => exact ⟨[], rfl⟩
  | cons before earlier => exact ⟨_, rfl⟩

theorem burst_isChain (window : Nat) (crashes : List Nat) :
    (burst window crashes).IsChain fun next crash => next - crash ≤ window := by
  induction crashes with
  | nil => exact List.IsChain.nil
  | cons crash earlier ih =>
      cases earlier with
      | nil => exact List.IsChain.singleton crash
      | cons before earlier =>
          by_cases soon : crash - before ≤ window
          · obtain ⟨rest, begins⟩ := burst_cons window before earlier
            rw [begins] at ih
            rw [burst_soon earlier soon, begins]
            exact List.IsChain.cons_cons soon ih
          · rw [burst_late earlier soon]
            exact List.IsChain.singleton crash

theorem length_le_burst {window : Nat} {crashes latest : List Nat} (leads : latest <+: crashes)
    (dense : latest.IsChain fun next crash => next - crash ≤ window) :
    latest.length ≤ (burst window crashes).length := by
  induction crashes generalizing latest with
  | nil => exact leads.length_le
  | cons crash earlier ih =>
      rcases List.prefix_cons_iff.mp leads with rfl | ⟨rest, rfl, leadsOn⟩
      · exact Nat.zero_le _
      · cases earlier with
        | nil => exact leads.length_le
        | cons before earlier =>
            rcases List.prefix_cons_iff.mp leadsOn with rfl | ⟨others, rfl, _⟩
            · obtain ⟨more, begins⟩ := burst_cons window crash (before :: earlier)
              rw [begins, List.length_cons]
              exact Nat.succ_le_succ (Nat.zero_le _)
            · obtain ⟨soon, denseOn⟩ := List.isChain_cons_cons.mp dense
              rw [burst_soon earlier soon, List.length_cons, List.length_cons]
              exact Nat.succ_le_succ (ih leadsOn denseOn)

theorem countsDense_lastBurst (window : Nat) (crashes : List Nat) :
    CountsDense window crashes (lastBurst window crashes).length where
  reached := by
    refine ⟨(lastBurst window crashes).reverse, ?_, ?_, List.length_reverse⟩
    · apply List.reverse_prefix.mp
      rw [List.reverse_reverse]
      exact burst_isPrefix window crashes.reverse
    · exact List.isChain_reverse.mpr (burst_isChain window crashes.reverse)
  longest := by
    intro suffix ends dense
    rw [← List.length_reverse]
    exact length_le_burst (List.reverse_prefix.mpr ends) (List.isChain_reverse.mpr dense)

/-! ### The answers -/

theorem record_after_lastBurst (maxRestarts window : Nat) (earlier : List Nat) (now : Nat) :
    (((new maxRestarts window).after earlier).record now).1 =
      if (lastBurst window (earlier ++ [now])).length ≤ maxRestarts then
        .ok (lastBurst window (earlier ++ [now])).length
      else
        .error
          (.crashBudgetExhausted (lastBurst window (earlier ++ [now])).length window) := by
  rw [record_after_new, lastBurst, List.reverse_concat]

theorem recordAll_append (budget : CrashBudget) (earlier later : List Nat) :
    budget.recordAll (earlier ++ later) =
      budget.recordAll earlier ++ (budget.after earlier).recordAll later := by
  induction earlier generalizing budget with
  | nil => rfl
  | cons crash earlier ih => exact congrArg _ (ih (budget.record crash).2)

theorem length_recordAll (budget : CrashBudget) (crashes : List Nat) :
    (budget.recordAll crashes).length = crashes.length := by
  induction crashes generalizing budget with
  | nil => rfl
  | cons crash crashes ih => exact congrArg Nat.succ (ih (budget.record crash).2)

theorem getElem?_recordAll (budget : CrashBudget) (earlier : List Nat) (now : Nat)
    (later : List Nat) :
    (budget.recordAll (earlier ++ now :: later))[earlier.length]? =
      some ((budget.after earlier).record now).1 := by
  rw [recordAll_append, ← length_recordAll budget earlier,
    List.getElem?_append_right (Nat.le_refl _), Nat.sub_self]
  rfl

/-! ### Restarts within a window -/

def permitted (budget : CrashBudget) (crashes : List Nat) : List Nat :=
  ((crashes.zip (budget.recordAll crashes)).filter fun turn => turn.2.isOk).map Prod.fst

def isWithin (start window crash : Nat) : Bool := start ≤ crash && crash ≤ start + window

theorem permitted_after_new (maxRestarts window : Nat) (earlier : List Nat) (now : Nat) :
    (new maxRestarts window).permitted (earlier ++ [now]) =
      (new maxRestarts window).permitted earlier ++
        if (lastBurst window (earlier ++ [now])).length ≤ maxRestarts then [now] else [] := by
  unfold permitted
  rw [recordAll_concat, List.zip_append (length_recordAll _ earlier).symm, List.filter_append,
    List.map_append, record_after_lastBurst]
  split <;> rfl

theorem permitted_sublist (budget : CrashBudget) (crashes : List Nat) :
    (budget.permitted crashes).Sublist crashes := by
  have kept := (List.filter_sublist
    (p := fun turn : Nat × Except Error Nat => turn.2.isOk)
    (l := crashes.zip (budget.recordAll crashes))).map Prod.fst
  rwa [List.map_fst_zip (Nat.le_of_eq (length_recordAll budget crashes).symm)] at kept

/-- The crashes of a window up to the last one belong to the burst that ends with it. -/
theorem countP_isWithin_le (start window now : Nat) (earlier : List Nat)
    (ordered : (earlier ++ [now]).Pairwise (· ≤ ·)) (inside : isWithin start window now = true) :
    (earlier ++ [now]).countP (isWithin start window) ≤
      (lastBurst window (earlier ++ [now])).length := by
  have backwards : (earlier ++ [now]).reverse = now :: earlier.reverse := List.reverse_concat
  have falling : (now :: (earlier ++ [now]).reverse).Pairwise (· ≥ ·) := by
    rw [List.pairwise_cons]
    refine ⟨fun crash member => ?_, List.pairwise_reverse.mpr ordered⟩
    rcases List.mem_append.mp (List.mem_reverse.mp member) with before | last
    · exact (List.pairwise_append.mp ordered).2.2 crash before now List.mem_cons_self
    · exact Nat.le_of_eq (List.mem_singleton.mp last)
  have recent : ∀ crash ∈ earlier ++ [now], isWithin start window crash = true →
      isRecent window now crash = true := by
    intro crash _ within
    simp only [isWithin, isRecent, Bool.and_eq_true, decide_eq_true_eq] at inside within ⊢
    omega
  calc (earlier ++ [now]).countP (isWithin start window)
      ≤ recentCount window now (earlier ++ [now]) := List.countP_mono_left recent
    _ = recentCount window now (earlier ++ [now]).reverse := List.countP_reverse.symm
    _ = recentCount window now (lastBurst window (earlier ++ [now])) :=
        (recentCount_burst window now (earlier ++ [now]).reverse falling).symm
    _ ≤ (lastBurst window (earlier ++ [now])).length := List.countP_le_length

theorem permitted_within_le (maxRestarts window start : Nat) (crashes : List Nat)
    (ordered : crashes.Pairwise (· ≤ ·)) :
    ((new maxRestarts window).permitted crashes).countP (isWithin start window) ≤
      maxRestarts := by
  induction crashes using List.reverseRecOn with
  | nil => exact Nat.zero_le _
  | append_singleton earlier now ih =>
      have before := ih (List.pairwise_append.mp ordered).1
      rw [permitted_after_new, List.countP_append]
      by_cases allowed : (lastBurst window (earlier ++ [now])).length ≤ maxRestarts
      · rw [if_pos allowed, List.countP_singleton]
        by_cases inside : isWithin start window now = true
        · -- with this crash the span holds no more crashes than are counted
          have counted := countP_isWithin_le start window now earlier ordered inside
          have known := (permitted_sublist (new maxRestarts window) earlier).countP_le
            (p := isWithin start window)
          rw [List.countP_append, List.countP_singleton, if_pos inside] at counted
          rw [if_pos inside]
          omega
        · rwa [if_neg inside]
      · rwa [if_neg allowed]

/-- A crash is answered with its count if this is allowed, and else with the exhaustion of the
budget, whatever was answered before.  The count is the length of the longest suffix of the
crashes so far in which each follows the one before it within the window, a clock that goes
backwards standing still; fewer than 2^32 crashes never carry it past 32 bits.  On a clock that
does not go backwards no span of the window's length has more restarts than are allowed. -/
theorem counts_longest_dense_suffix (maxRestarts window : Nat) (crashes : List Nat) :
    ((new maxRestarts window).recordAll crashes).length = crashes.length ∧
    (∀ earlier now later, crashes = earlier ++ now :: later →
      ∃ count, CountsDense window (earlier ++ [now]) count ∧
        ((new maxRestarts window).after (earlier ++ [now])).restarts = count ∧
        ((new maxRestarts window).recordAll crashes)[earlier.length]? =
          some (if count ≤ maxRestarts then .ok count
            else .error (.crashBudgetExhausted count window)) ∧
        (crashes.length < UInt32.size →
          ((new maxRestarts window).after earlier).restarts + 1 < UInt32.size)) ∧
    (crashes.Pairwise (· ≤ ·) → ∀ start,
      ((new maxRestarts window).permitted crashes).countP (isWithin start window) ≤
        maxRestarts) := by
  refine ⟨length_recordAll _ crashes, ?_, fun ordered start =>
    permitted_within_le maxRestarts window start crashes ordered⟩
  rintro earlier now later rfl
  refine ⟨_, countsDense_lastBurst window (earlier ++ [now]),
    restarts_after_new maxRestarts window (earlier ++ [now]), ?_, fun few => ?_⟩
  · rw [getElem?_recordAll, record_after_lastBurst]
  · have bound := restarts_after_new_le maxRestarts window earlier
    rw [List.length_append, List.length_cons] at few
    omega

/-- The clock goes backwards before the second crash, the third comes a whole window after it and
exhausts the budget, and the fourth comes later than that. -/
private def unsteadyCrashes : List Nat := [100, 50, 60, 71, 75]

theorem counts_past_exhaustion :
    unsteadyCrashes.length < UInt32.size ∧
    CountsDense 10 [100, 50, 60] 3 ∧
    ((new 2 10).recordAll unsteadyCrashes)[2]? = some (.error (.crashBudgetExhausted 3 10)) ∧
    ((new 2 10).after [100, 50]).restarts + 1 < UInt32.size ∧
    CountsDense 10 [100, 50, 60, 71] 1 ∧
    ((new 2 10).recordAll unsteadyCrashes)[3]? = some (.ok 1) ∧
    [50, 60, 60, 71].Pairwise (· ≤ ·) ∧
    ((new 2 10).permitted [50, 60, 60, 71]).countP (isWithin 50 10) ≤ 2 := by
  obtain ⟨_, answered, _⟩ := counts_longest_dense_suffix 2 10 unsteadyCrashes
  obtain ⟨_, _, permits⟩ := counts_longest_dense_suffix 2 10 [50, 60, 60, 71]
  obtain ⟨third, thirdCounts, rfl, thirdAnswer, fits⟩ := answered [100, 50] 60 [71, 75] rfl
  obtain ⟨fourth, fourthCounts, rfl, fourthAnswer, _⟩ := answered [100, 50, 60] 71 [75] rfl
  have few : unsteadyCrashes.length < UInt32.size := by decide
  have ordered : [50, 60, 60, 71].Pairwise (· ≤ ·) := by decide
  exact ⟨few, thirdCounts, thirdAnswer, fits few, fourthCounts, fourthAnswer, ordered,
    permits ordered 50⟩

end CrashBudget
end Plugin
end VirtualNpu
