import Mathlib.Data.List.Induction
import VirtualNpu.Plugin.CrashBudget

/-!
What a crash budget counts.  The count is the length of the burst that a crash belongs to, in
which each crash follows the one before it within the window.  Every crash of the last window is
in the burst, but the burst may have begun long before that window.
-/

namespace VirtualNpu
namespace Plugin
namespace CrashBudget

def after (budget : CrashBudget) (crashes : List Nat) : CrashBudget :=
  crashes.foldl (fun budget now => (budget.record now).2) budget

/-- The crashes back to the last gap that is longer than the window, the latest first. -/
def burst (window : Nat) : List Nat → List Nat
  | [] => []
  | [crash] => [crash]
  | crash :: before :: earlier =>
      crash :: if crash - before ≤ window then burst window (before :: earlier) else []

def lastBurst (window : Nat) (crashes : List Nat) : List Nat := burst window crashes.reverse

def isRecent (window now crash : Nat) : Bool := now ≤ crash + window

def recentCount (window now : Nat) (crashes : List Nat) : Nat :=
  crashes.countP (isRecent window now)

/-! ### The count -/

theorem burst_soon {window crash before : Nat} (earlier : List Nat)
    (soon : crash - before ≤ window) :
    burst window (crash :: before :: earlier) = crash :: burst window (before :: earlier) := by
  rw [burst, if_pos soon]

theorem burst_late {window crash before : Nat} (earlier : List Nat)
    (late : ¬ crash - before ≤ window) :
    burst window (crash :: before :: earlier) = [crash] := by
  rw [burst, if_neg late]

theorem after_concat (budget : CrashBudget) (earlier : List Nat) (now : Nat) :
    budget.after (earlier ++ [now]) = ((budget.after earlier).record now).2 :=
  List.foldl_append

theorem countAt_burst (maxRestarts window now : Nat) (earlier : List Nat) :
    (mk maxRestarts window (burst window earlier).length earlier.head?).countAt now =
      (burst window (now :: earlier)).length := by
  cases earlier with
  | nil => rfl
  | cons before earlier =>
      by_cases soon : now - before ≤ window
      · rw [burst_soon earlier soon]
        exact if_pos soon
      · rw [burst_late earlier soon]
        exact if_neg soon

theorem after_new (maxRestarts window : Nat) (crashes : List Nat) :
    (new maxRestarts window).after crashes =
      ⟨maxRestarts, window, (burst window crashes.reverse).length, crashes.reverse.head?⟩ := by
  induction crashes using List.reverseRecOn with
  | nil => rfl
  | append_singleton earlier now ih =>
      rw [after_concat, ih, List.reverse_append, List.reverse_singleton, List.singleton_append,
        record, countAt_burst]
      split <;> rfl

theorem burst_isPrefix (window : Nat) (crashes : List Nat) : burst window crashes <+: crashes := by
  induction crashes with
  | nil => exact List.prefix_rfl
  | cons crash earlier ih =>
      cases earlier with
      | nil => exact List.prefix_rfl
      | cons before earlier =>
          by_cases soon : crash - before ≤ window
          · rw [burst_soon earlier soon]
            exact (List.prefix_cons_inj crash).mpr ih
          · rw [burst_late earlier soon]
            exact ⟨before :: earlier, rfl⟩

theorem length_lastBurst_le (window : Nat) (crashes : List Nat) :
    (lastBurst window crashes).length ≤ crashes.length := by
  calc (lastBurst window crashes).length
      ≤ crashes.reverse.length := (burst_isPrefix window crashes.reverse).length_le
    _ = crashes.length := List.length_reverse

theorem restarts_after_new (maxRestarts window : Nat) (crashes : List Nat) :
    ((new maxRestarts window).after crashes).restarts = (lastBurst window crashes).length := by
  rw [after_new, lastBurst]

/-- The count never gets ahead of the crashes. -/
theorem restarts_after_new_le (maxRestarts window : Nat) (crashes : List Nat) :
    ((new maxRestarts window).after crashes).restarts ≤ crashes.length := by
  rw [restarts_after_new]
  exact length_lastBurst_le window crashes

theorem recordAll_concat (budget : CrashBudget) (earlier : List Nat) (now : Nat) :
    budget.recordAll (earlier ++ [now]) =
      budget.recordAll earlier ++ [((budget.after earlier).record now).1] := by
  induction earlier generalizing budget with
  | nil => rfl
  | cons crash earlier ih => exact congrArg _ (ih (budget.record crash).2)

theorem record_after_new (maxRestarts window : Nat) (earlier : List Nat) (now : Nat) :
    (((new maxRestarts window).after earlier).record now).1 =
      if (burst window (now :: earlier.reverse)).length ≤ maxRestarts then
        .ok (burst window (now :: earlier.reverse)).length
      else
        .error (.crashBudgetExhausted (burst window (now :: earlier.reverse)).length window) := by
  rw [after_new, record, countAt_burst]
  split <;> rfl

/-! ### The burst and the window -/

theorem recentCount_behind_gap {window now last : Nat} {crashes : List Nat}
    (gap : last + window < now) (earlier : ∀ crash ∈ crashes, crash ≤ last) :
    recentCount window now crashes = 0 := by
  apply List.countP_eq_zero.mpr
  intro crash member recent
  have bound := earlier crash member
  simp only [isRecent, decide_eq_true_eq] at recent
  omega

theorem recentCount_burst (window now : Nat) (crashes : List Nat)
    (falling : (now :: crashes).Pairwise (· ≥ ·)) :
    recentCount window now (burst window crashes) = recentCount window now crashes := by
  induction crashes with
  | nil => rfl
  | cons crash earlier ih =>
      obtain ⟨reached, fallingOn⟩ := List.pairwise_cons.mp falling
      obtain ⟨_sooner, fallingEarlier⟩ := List.pairwise_cons.mp fallingOn
      cases earlier with
      | nil => rfl
      | cons before earlier =>
          by_cases soon : crash - before ≤ window
          · have rest : recentCount window now (burst window (before :: earlier)) =
                recentCount window now (before :: earlier) := by
              apply ih
              apply List.pairwise_cons.mpr
              exact ⟨fun other member => reached other (List.mem_cons_of_mem _ member),
                fallingEarlier⟩
            rw [burst_soon earlier soon]
            unfold recentCount at rest ⊢
            rw [List.countP_cons, rest, ← List.countP_cons]
          · have latest := reached crash List.mem_cons_self
            have old : recentCount window now (before :: earlier) = 0 := by
              apply recentCount_behind_gap (show before + window < now by omega)
              intro other member
              rcases List.mem_cons.mp member with rfl | inside
              · exact Nat.le_refl _
              · exact (List.pairwise_cons.mp fallingEarlier).1 other inside
            rw [burst_late earlier soon]
            unfold recentCount at old ⊢
            rw [List.countP_cons, List.countP_cons, old]
            rfl

theorem le_recentCount_iff (window now : Nat) (crashes : List Nat) :
    crashes.length ≤ recentCount window now crashes ↔
      ∀ crash ∈ crashes, now ≤ crash + window := by
  have bound : recentCount window now crashes ≤ crashes.length := List.countP_le_length
  have all := List.countP_eq_length (p := isRecent window now) (l := crashes)
  simp only [isRecent, decide_eq_true_eq] at all
  rw [← all]
  change _ ↔ recentCount window now crashes = crashes.length
  omega

/-- From one crash of a burst to the next there is a window at most. -/
theorem burst_span (window now : Nat) (earlier : List Nat) :
    ∀ crash ∈ burst window (now :: earlier),
      now ≤ crash + ((burst window (now :: earlier)).length - 1) * window := by
  induction earlier generalizing now with
  | nil =>
      intro crash member
      rw [burst, List.mem_singleton] at member
      omega
  | cons before earlier ih =>
      intro crash member
      by_cases soon : now - before ≤ window
      · rw [burst_soon earlier soon] at member ⊢
        rw [List.length_cons, Nat.add_sub_cancel]
        rcases List.mem_cons.mp member with rfl | inside
        · omega
        · have near := ih before crash inside
          obtain ⟨gaps, count⟩ : ∃ gaps, (burst window (before :: earlier)).length = gaps + 1 :=
            ⟨_, (Nat.sub_add_cancel (List.length_pos_of_mem inside)).symm⟩
          rw [count, Nat.add_sub_cancel] at near
          rw [count, Nat.succ_mul]
          omega
      · rw [burst_late earlier soon, List.mem_singleton] at member
        omega

/-- What a budget answers to the last of some crashes.  It counts the burst that ends with the
crash, and is exhausted once this is longer than the allowance.  The count misses no crash of the
last window; the crashes counted lie in that window if and only if the whole burst does, and it
takes up to a window for each gap between them.  Fewer than 2^32 crashes never carry the count
past 32 bits. -/
theorem exhausted_iff_long_burst (maxRestarts window : Nat) (earlier : List Nat) (now : Nat)
    (ordered : (earlier ++ [now]).Pairwise (· ≤ ·)) :
    (new maxRestarts window).recordAll (earlier ++ [now]) =
      (new maxRestarts window).recordAll earlier ++
        [if (lastBurst window (earlier ++ [now])).length ≤ maxRestarts then
            .ok (lastBurst window (earlier ++ [now])).length
          else
            .error (.crashBudgetExhausted (lastBurst window (earlier ++ [now])).length window)] ∧
    recentCount window now (earlier ++ [now]) ≤ (lastBurst window (earlier ++ [now])).length ∧
    ((lastBurst window (earlier ++ [now])).length ≤ recentCount window now (earlier ++ [now]) ↔
      ∀ crash ∈ lastBurst window (earlier ++ [now]), now ≤ crash + window) ∧
    (∀ crash ∈ lastBurst window (earlier ++ [now]),
      now ≤ crash + ((lastBurst window (earlier ++ [now])).length - 1) * window) ∧
    ((earlier ++ [now]).length < UInt32.size →
      ((new maxRestarts window).after earlier).restarts + 1 < UInt32.size) := by
  have backwards : (earlier ++ [now]).reverse = now :: earlier.reverse := List.reverse_concat
  have reversed : (now :: earlier.reverse).Pairwise (· ≥ ·) := by
    rw [← backwards]
    exact List.pairwise_reverse.mpr ordered
  have falling : (now :: (earlier ++ [now]).reverse).Pairwise (· ≥ ·) := by
    rw [backwards]
    refine List.pairwise_cons.mpr ⟨fun crash member => ?_, reversed⟩
    rcases List.mem_cons.mp member with rfl | inside
    · exact Nat.le_refl _
    · exact (List.pairwise_cons.mp reversed).1 crash inside
  have recent : recentCount window now (lastBurst window (earlier ++ [now])) =
      recentCount window now (earlier ++ [now]) := by
    rw [lastBurst, recentCount_burst window now (earlier ++ [now]).reverse falling]
    exact List.countP_reverse
  refine ⟨?_, ?_, ?_, ?_, fun few => ?_⟩
  · rw [recordAll_concat, record_after_new, lastBurst, ← backwards]
  · rw [← recent]
    exact List.countP_le_length
  · rw [← recent]
    exact le_recentCount_iff window now _
  · have span := burst_span window now earlier.reverse
    rw [← backwards] at span
    exact span
  · have bound := restarts_after_new_le maxRestarts window earlier
    rw [List.length_append, List.length_singleton] at few
    omega

private def minute : Nat := 60000000000

/-- Six crashes, each fifty minutes after the one before it. -/
private def spreadCrashes : List Nat := (List.range 6).map fun count => count * 50 * minute

/-- Six crashes, each ten minutes after the one before it. -/
private def denseCrashes : List Nat := (List.range 6).map fun count => count * 10 * minute

theorem dense_crashes_exhaust :
    denseCrashes.Pairwise (· ≤ ·) ∧
    CrashBudget.default.recordAll denseCrashes =
      CrashBudget.default.recordAll (denseCrashes.take 5) ++
        [.error (.crashBudgetExhausted 6 (60 * minute))] ∧
    6 ≤ recentCount (60 * minute) (50 * minute) denseCrashes ∧
    (CrashBudget.default.after (denseCrashes.take 5)).restarts + 1 < UInt32.size := by
  have ordered : (denseCrashes.take 5 ++ [50 * minute]).Pairwise (· ≤ ·) := by decide
  obtain ⟨answered, _, recent, _, fits⟩ :=
    exhausted_iff_long_burst 5 (60 * minute) (denseCrashes.take 5) (50 * minute) ordered
  exact ⟨ordered, answered, recent.mpr (by decide), fits (by decide)⟩

/-- Two of six crashes in the last hour, and the budget of five restarts in an hour is said to
be exhausted by six. -/
theorem spread_crashes_exhaust :
    spreadCrashes.Pairwise (· ≤ ·) ∧
    (CrashBudget.default.recordAll spreadCrashes).getLast? =
      some (.error (.crashBudgetExhausted 6 (60 * minute))) ∧
    spreadCrashes.getLast? = some (250 * minute) ∧
    ¬ 6 ≤ recentCount (60 * minute) (250 * minute) spreadCrashes := by
  decide

end CrashBudget
end Plugin
end VirtualNpu
