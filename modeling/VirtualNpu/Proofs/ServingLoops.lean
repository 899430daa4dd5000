import VirtualNpu.Plugin.ServingLoop
import VirtualNpu.Proofs.CrashCounts

/-!
What a serving loop does by its deeds so far.  Its budget has been charged with the crashes among
them and nothing else, and is exhausted at the last of them if at all.  A loop that has been stopped
opens its server once more at most, and then only if it had asked for its token before that.
-/

namespace VirtualNpu
namespace Plugin

namespace CrashBudget

/-- A count that was allowed goes past the allowance by one. -/
theorem record_exhausted {budget : CrashBudget} {now : Nat} {error : Error}
    (allowed : budget.restarts ≤ budget.maxRestarts)
    (exhausted : (budget.record now).1 = .error error) :
    error = .crashBudgetExhausted (budget.maxRestarts + 1) budget.window := by
  have count : budget.countAt now ≤ budget.restarts + 1 := by
    unfold countAt
    split
    · split <;> omega
    · omega
  unfold record at exhausted
  dsimp only at exhausted
  split at exhausted
  · cases exhausted
  · cases exhausted
    have exact : budget.countAt now = budget.maxRestarts + 1 := by omega
    rw [exact]

theorem record_allowed {budget : CrashBudget} {now count : Nat}
    (answered : (budget.record now).1 = .ok count) :
    (budget.record now).2.restarts ≤ (budget.record now).2.maxRestarts := by
  unfold record at answered ⊢
  dsimp only at answered ⊢
  split at answered
  · rename_i allowed
    rw [if_pos allowed]
    exact allowed
  · cases answered

end CrashBudget

namespace ServingLoop

variable {ω : Type}

def Deed.charge? : Deed → Option (Nat × Except Error Nat)
  | .charge now answer => some (now, answer)
  | .rebind _ => none

def crashes (deeds : List Deed) : List Nat := (deeds.filterMap Deed.charge?).map Prod.fst

def answers (deeds : List Deed) : List (Except Error Nat) :=
  (deeds.filterMap Deed.charge?).map Prod.snd

theorem crashes_append (deeds later : List Deed) :
    crashes (deeds ++ later) = crashes deeds ++ crashes later := by
  unfold crashes
  rw [List.filterMap_append, List.map_append]

theorem answers_append (deeds later : List Deed) :
    answers (deeds ++ later) = answers deeds ++ answers later := by
  unfold answers
  rw [List.filterMap_append, List.map_append]

/-- A turn charges a crash, opens the server, or does nothing that others can tell. -/
theorem step_cases (loop : ServingLoop) (host : Host ω) (stopped : Bool) (now : Nat) (machine : ω)
    (turn : Turn) :
    (loop.phase = .crashed ∧ loop.step host stopped now machine turn = loop.charge now machine) ∨
    (loop.phase = .binding ∧
      loop.step host stopped now machine turn = loop.rebind host now machine) ∨
    loop.step host stopped now machine turn =
      ⟨{ loop with phase := loop.phase.after stopped now turn }, none, machine⟩ := by
  unfold step
  split
  · rename_i crashed
    exact Or.inl ⟨crashed, rfl⟩
  · rename_i binding
    exact Or.inr (Or.inl ⟨binding, rfl⟩)
  · exact Or.inr (Or.inr rfl)

theorem after_ended (stopped : Bool) (now : Nat) (turn : Turn) :
    Phase.after stopped now .ended turn = .ended := by
  cases turn <;> rfl

theorem period_step (loop : ServingLoop) (host : Host ω) (stopped : Bool) (now : Nat) (machine : ω)
    (turn : Turn) : (loop.step host stopped now machine turn).loop.period = loop.period := by
  obtain ⟨_, stepped⟩ | ⟨_, stepped⟩ | stepped := loop.step_cases host stopped now machine turn <;>
    rw [stepped] <;> rfl

/-! ### The budget of a loop -/

structure Exhausts (maxRestarts window : Nat) (crashes : List Nat) (error : Error) : Prop where
  told : error = .crashBudgetExhausted (maxRestarts + 1) window
  burst : ∃ burst, burst <:+ crashes ∧ CrashBudget.IsDense window burst ∧
    burst.length = maxRestarts + 1

/-- A loop with its deeds since it was started with a new budget. -/
structure Accounts (maxRestarts window : Nat) (deeds : List Deed) (loop : ServingLoop) : Prop where
  charged : loop.budget = (CrashBudget.new maxRestarts window).after (crashes deeds)
  answered : answers deeds = (CrashBudget.new maxRestarts window).recordAll (crashes deeds)
  allowed : loop.phase ≠ .ended → loop.budget.restarts ≤ maxRestarts ∧
    ∀ answer ∈ answers deeds, answer.isOk = true
  last : ∀ answer ∈ answers deeds.dropLast, answer.isOk = true
  exhausted : ∀ error, Except.error error ∈ answers deeds →
    Exhausts maxRestarts window (crashes deeds) error

section
variable {maxRestarts window : Nat}

theorem accounts_start (path : String) (period : Nat) :
    Accounts maxRestarts window [] (start path period (.new maxRestarts window)) where
  charged := rfl
  answered := rfl
  allowed _ := ⟨Nat.zero_le _, List.forall_mem_nil _⟩
  last := List.forall_mem_nil _
  exhausted _ impossible := nomatch impossible

theorem exhausts_of_record {earlier : List Nat} {now : Nat} {error : Error}
    (allowed : ((CrashBudget.new maxRestarts window).after earlier).restarts ≤ maxRestarts)
    (exhausted : (((CrashBudget.new maxRestarts window).after earlier).record now).1 =
      .error error) : Exhausts maxRestarts window (earlier ++ [now]) error := by
  have told : error = .crashBudgetExhausted (maxRestarts + 1) window := by
    have budget := CrashBudget.after_new maxRestarts window earlier
    rw [budget] at allowed exhausted
    exact CrashBudget.record_exhausted allowed exhausted
  refine ⟨told, ?_⟩
  have answer := CrashBudget.record_after_lastBurst maxRestarts window earlier now
  rw [exhausted, told] at answer
  split at answer
  · cases answer
  · injection answer with same
    injection same with length
    rw [length]
    exact (CrashBudget.countsDense_lastBurst window (earlier ++ [now])).reached

theorem accounts_charge {deeds : List Deed} {loop : ServingLoop}
    (accounts : Accounts maxRestarts window deeds loop) (crashed : loop.phase = .crashed)
    (now : Nat) (machine : ω) :
    Accounts maxRestarts window (deeds ++ (loop.charge now machine).deed.toList)
      (loop.charge now machine).loop := by
  obtain ⟨within, fine⟩ := accounts.allowed (by rw [crashed]; nofun)
  have charged := accounts.charged
  change Accounts maxRestarts window (deeds ++ [.charge now (loop.budget.record now).1])
    { loop with
      budget := (loop.budget.record now).2
      phase := if (loop.budget.record now).1.isOk then .charged else .ended }
  rw [charged] at within ⊢
  constructor
  · rw [crashes_append]
    exact (CrashBudget.after_concat _ _ now).symm
  · rw [crashes_append, answers_append, accounts.answered]
    exact (CrashBudget.recordAll_concat _ _ now).symm
  · rw [answers_append]
    intro going
    cases answer : (((CrashBudget.new maxRestarts window).after (crashes deeds)).record now).1 with
    | error error =>
        rw [answer] at going
        exact absurd rfl going
    | ok count =>
        have bound := CrashBudget.record_allowed answer
        have kept := congrArg CrashBudget.maxRestarts
          (CrashBudget.after_new maxRestarts window (crashes deeds ++ [now]))
        rw [CrashBudget.after_concat] at kept
        rw [kept] at bound
        refine ⟨bound, fun other member => ?_⟩
        rcases List.mem_append.mp member with before | last
        · exact fine other before
        · rw [List.mem_singleton.mp last]
          rfl
  · rw [List.dropLast_concat]
    exact fine
  · rw [answers_append, crashes_append]
    intro error member
    rcases List.mem_append.mp member with before | last
    · exact nomatch fine _ before
    · exact exhausts_of_record within (List.mem_singleton.mp last).symm

theorem accounts_rebind {deeds : List Deed} {loop : ServingLoop}
    (accounts : Accounts maxRestarts window deeds loop) (binding : loop.phase = .binding)
    (host : Host ω) (now : Nat) (machine : ω) :
    Accounts maxRestarts window (deeds ++ (loop.rebind host now machine).deed.toList)
      (loop.rebind host now machine).loop := by
  obtain ⟨within, fine⟩ := accounts.allowed (by rw [binding]; nofun)
  have sameCrashes (succeeded : Bool) : crashes (deeds ++ [.rebind succeeded]) = crashes deeds := by
    rw [crashes_append]
    exact List.append_nil _
  have sameAnswers (succeeded : Bool) : answers (deeds ++ [.rebind succeeded]) = answers deeds := by
    rw [answers_append]
    exact List.append_nil _
  change Accounts maxRestarts window
    (deeds ++ [.rebind (host.bind loop.path loop.period machine).1]) { loop with phase := _ }
  refine ⟨?_, ?_, fun _ => ⟨within, ?_⟩, ?_, ?_⟩
  · rw [sameCrashes]
    exact accounts.charged
  · rw [sameCrashes, sameAnswers]
    exact accounts.answered
  · rw [sameAnswers]
    exact fine
  · rw [List.dropLast_concat]
    exact fine
  · rw [sameCrashes, sameAnswers]
    exact accounts.exhausted

theorem accounts_step {deeds : List Deed} {loop : ServingLoop}
    (accounts : Accounts maxRestarts window deeds loop) (host : Host ω) (stopped : Bool)
    (now : Nat) (machine : ω) (turn : Turn) :
    Accounts maxRestarts window (deeds ++ (loop.step host stopped now machine turn).deed.toList)
      (loop.step host stopped now machine turn).loop := by
  obtain ⟨crashed, stepped⟩ | ⟨binding, stepped⟩ | stepped :=
    loop.step_cases host stopped now machine turn
  · rw [stepped]
    exact accounts_charge accounts crashed now machine
  · rw [stepped]
    exact accounts_rebind accounts binding host now machine
  · rw [stepped]
    change Accounts maxRestarts window (deeds ++ []) _
    rw [List.append_nil]
    refine { accounts with allowed := fun going => accounts.allowed fun gone => going ?_ }
    change loop.phase.after stopped now turn = .ended
    rw [gone, after_ended]

theorem Accounts.exhausted_of_burst {deeds : List Deed} {loop : ServingLoop}
    (accounts : Accounts maxRestarts window deeds loop) {burst : List Nat}
    (ends : burst <:+ crashes deeds) (dense : CrashBudget.IsDense window burst)
    (long : burst.length = maxRestarts + 1) :
    Except.error (.crashBudgetExhausted (maxRestarts + 1) window) ∈ answers deeds := by
  obtain empty | ⟨earlier, now, split⟩ := List.eq_nil_or_concat' (crashes deeds)
  · rw [empty, List.suffix_nil] at ends
    rw [ends] at long
    cases long
  · rw [split] at ends
    have counted := (CrashBudget.countsDense_lastBurst window _).longest burst ends dense
    have answer := CrashBudget.record_after_lastBurst maxRestarts window earlier now
    rw [if_neg (by omega)] at answer
    have member : Except.error (.crashBudgetExhausted
        (CrashBudget.lastBurst window (earlier ++ [now])).length window) ∈ answers deeds := by
      rw [accounts.answered, split, CrashBudget.recordAll_concat, answer]
      exact List.mem_append_right _ (List.mem_singleton_self _)
    exact (accounts.exhausted _ member).told ▸ member

end

/-! ### The end of a loop -/

/-- Whether a loop no longer sees to it that its server goes on. -/
def Phase.isOver : Phase → Bool
  | .draining _ => true
  | .ended => true
  | _ => false

theorem isOver_after {now : Nat} {phase : Phase} {turn : Turn}
    (gone : (phase.after false now turn).isOver = true) : phase.isOver = true := by
  cases phase with
  | draining => rfl
  | ended => rfl
  | pausing since =>
      cases turn with
      | proceed =>
          change (if since + rebindDelay ≤ now then Phase.crashed
            else .pausing since).isOver = true at gone
          split at gone <;> cases gone
      | exit => cases gone
      | heed => cases gone
  | serving | left | crashed | charged | binding => cases turn <;> cases gone

/-- A loop gives its server up only for its stop token or for an exhausted budget. -/
theorem isOver_step (loop : ServingLoop) (host : Host ω) (stopped : Bool) (now : Nat) (machine : ω)
    (turn : Turn) (gone : (loop.step host stopped now machine turn).loop.phase.isOver = true) :
    loop.phase.isOver = true ∨ stopped = true ∨
      ∃ error, Except.error error ∈
        answers (loop.step host stopped now machine turn).deed.toList := by
  obtain ⟨crashed, stepped⟩ | ⟨binding, stepped⟩ | stepped :=
    loop.step_cases host stopped now machine turn
  · rw [stepped] at gone ⊢
    change (if (loop.budget.record now).1.isOk then Phase.charged else .ended).isOver = true at gone
    change _ ∨ _ ∨ ∃ error, Except.error error ∈ [(loop.budget.record now).1]
    cases answer : (loop.budget.record now).1 with
    | ok count =>
        rw [answer] at gone
        cases gone
    | error error => exact Or.inr (Or.inr ⟨error, List.mem_singleton_self _⟩)
  · rw [stepped] at gone
    change (if (host.bind loop.path loop.period machine).1 then Phase.serving
      else .pausing now).isOver = true at gone
    split at gone <;> cases gone
  · rw [stepped] at gone
    cases stopped with
    | true => exact Or.inr (Or.inl rfl)
    | false => exact Or.inl (isOver_after gone)

def Phase.bindingsLeft (phase : Phase) : Nat := if phase = .binding then 1 else 0

def Deed.isRebind : Deed → Bool
  | .charge _ _ => false
  | .rebind _ => true

theorem binding_of_after {now : Nat} {phase : Phase} {turn : Turn}
    (binding : phase.after true now turn = .binding) : phase = .binding := by
  cases phase with
  | binding => rfl
  | draining since =>
      cases turn with
      | proceed =>
          change (if since + shutdownGrace ≤ now then Phase.ended
            else .draining since) = .binding at binding
          split at binding <;> cases binding
      | exit | heed => cases binding
  | pausing since =>
      cases turn with
      | proceed =>
          change (if since + rebindDelay ≤ now then Phase.crashed
            else .pausing since) = .binding at binding
          split at binding <;> cases binding
      | exit | heed => cases binding
  | serving | left | crashed | charged | ended => cases turn <;> cases binding

theorem bindingsLeft_after (now : Nat) (phase : Phase) (turn : Turn) :
    (phase.after true now turn).bindingsLeft ≤ phase.bindingsLeft := by
  unfold Phase.bindingsLeft
  split
  · rename_i binding
    rw [if_pos (binding_of_after binding)]
  · exact Nat.zero_le _

/-- A loop that has been stopped opens its server only if it has asked for its token before. -/
theorem rebinds_stopped_step (loop : ServingLoop) (host : Host ω) (now : Nat) (machine : ω)
    (turn : Turn) :
    (loop.step host true now machine turn).deed.toList.countP Deed.isRebind +
        (loop.step host true now machine turn).loop.phase.bindingsLeft ≤
      loop.phase.bindingsLeft := by
  obtain ⟨crashed, stepped⟩ | ⟨binding, stepped⟩ | stepped :=
    loop.step_cases host true now machine turn
  · rw [stepped]
    change 0 + (if (loop.budget.record now).1.isOk then Phase.charged else .ended).bindingsLeft ≤ _
    split <;> exact Nat.zero_le _
  · rw [stepped, binding]
    change 1 + (if (host.bind loop.path loop.period machine).1 then Phase.serving
      else .pausing now).bindingsLeft ≤ 1
    split <;> exact Nat.le_refl 1
  · rw [stepped]
    exact Nat.zero_add _ ▸ bindingsLeft_after now loop.phase turn

end ServingLoop
end Plugin
end VirtualNpu
