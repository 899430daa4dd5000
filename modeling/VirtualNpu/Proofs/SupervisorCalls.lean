import Mathlib.Data.List.Induction
import VirtualNpu.Supervisor.Ledger

/-!
The calls that a supervisor makes.  Each input that it takes has calls of its own, whatever
comes of stops and cleanups, and the run is over with the first start that fails or the first
input that ends it.
-/

namespace VirtualNpu
namespace Supervisor

/-! ### Inputs -/

def Input.isOfFatalSource : Input → Bool
  | .fatal _ => true
  | .fatalClosed => true
  | _ => false

/-- The inputs that are read: the source of fatal reports is not once it has closed. -/
def readInputs (inputs : List Input) : List Input :=
  inputs.foldl (fun read input =>
    if input.isOfFatalSource = true ∧ .fatalClosed ∈ read then read else read ++ [input]) []

def Input.isRestart : Input → Bool
  | .event .socketRecreated => true
  | .event .restartSignal => true
  | _ => false

def Input.ending? : Input → Option (Except Failure Unit)
  | .event (.terminate _) => some (.ok ())
  | .eventsClosed => some (.ok ())
  | .fatal report => some (.error (.plugin report))
  | _ => none

def Input.calls (input : Input) : List Step :=
  if input.isRestart then [.cleanup, .stop, .start]
  else if input.ending?.isSome then [.stop]
  else []

theorem calls_of_restart {input : Input} (restart : input.isRestart = true) :
    input.calls = [.cleanup, .stop] ++ [.start] :=
  if_pos restart

theorem calls_of_ending {input : Input} {result : Except Failure Unit}
    (ending : input.ending? = some result) : input.calls = [.stop] := by
  have other : input.isRestart = false := by
    cases input with
    | event event => cases event <;> first | rfl | cases ending
    | fatal | eventsClosed | fatalClosed => rfl
  unfold Input.calls
  rw [other, ending]
  rfl

/-- Where a run stands after the inputs that it has taken of those it could read, by the
outcomes of its starts. -/
inductive Stands (read : List Input) : List Input → List StartOutcome → Phase → Prop
  | waiting {starts : List StartOutcome} {fatalOpen : Bool}
      (unended : ∀ input ∈ read, input.ending? = none)
      (started : ∀ outcome ∈ starts, outcome = .ok ())
      (source : fatalOpen = true ↔ .fatalClosed ∉ read) :
      Stands read read starts (.waiting fatalOpen)
  | unstarted {report : Report Plugin.Error} :
      Stands read [] [.error report] (.ended (.error (.start report)))
  | refused {taken : List Input} {input : Input} {starts : List StartOutcome}
      {report : Report Plugin.Error} (unended : ∀ input ∈ taken, input.ending? = none)
      (started : ∀ outcome ∈ starts, outcome = .ok ()) (restart : input.isRestart = true) :
      Stands read (taken ++ [input]) (starts ++ [.error report])
        (.ended (.error (.restart report)))
  | finished {taken : List Input} {input : Input} {starts : List StartOutcome}
      {result : Except Failure Unit} (unended : ∀ input ∈ taken, input.ending? = none)
      (started : ∀ outcome ∈ starts, outcome = .ok ()) (ending : input.ending? = some result) :
      Stands read (taken ++ [input]) starts (.ended result)

variable {σ τ : Type}

/-! ### One input -/

inductive Answered (fatalOpen : Bool) (input : Input) : List StartOutcome → Phase → Prop
  | waiting {starts : List StartOutcome} (unended : input.ending? = none)
      (started : ∀ outcome ∈ starts, outcome = .ok ()) :
      Answered fatalOpen input starts (.waiting (fatalOpen && input != .fatalClosed))
  | refused {report : Report Plugin.Error} (restart : input.isRestart = true) :
      Answered fatalOpen input [.error report] (.ended (.error (.restart report)))
  | finished {result : Except Failure Unit} (ending : input.ending? = some result) :
      Answered fatalOpen input [] (.ended result)

theorem Answered.unique {fatalOpen : Bool} {input : Input} {starts : List StartOutcome}
    {first second : Phase} (one : Answered fatalOpen input starts first)
    (other : Answered fatalOpen input starts second) : first = second := by
  cases one with
  | waiting unended started =>
      cases other with
      | waiting => rfl
      | refused => cases started _ List.mem_cons_self
      | finished ending =>
          rw [unended] at ending
          cases ending
  | refused restart =>
      cases other with
      | waiting _ started => cases started _ List.mem_cons_self
      | refused => rfl
  | finished ending =>
      cases other with
      | waiting unended =>
          rw [unended] at ending
          cases ending
      | finished same =>
          rw [ending] at same
          cases same
          rfl

structure Adds (before after : Ledger σ) (steps : List Step) (starts : List StartOutcome) :
    Prop where
  steps : after.steps = before.steps ++ steps
  starts : after.starts = before.starts ++ starts

theorem adds_entries {before after : Ledger σ} (new : List Entry)
    (entries : after.entries = before.entries ++ new) :
    Adds before after (new.map Entry.step) (new.filterMap Entry.startOutcome?) := by
  constructor
  · rw [Ledger.steps, entries, List.map_append]
    rfl
  · rw [Ledger.starts, entries, List.filterMap_append]
    rfl

/-- Only its start has a part in what a restart comes to. -/
theorem restart_answered (life : Lifecycle σ) (fatalOpen : Bool) (input : Input)
    (isRestart : input.isRestart = true) (ledger : Ledger σ) :
    ∃ starts, Adds ledger (restart life.withLedger fatalOpen ledger).2 input.calls starts ∧
      Answered fatalOpen input starts (restart life.withLedger fatalOpen ledger).1 := by
  have going : Phase.waiting fatalOpen = .waiting (fatalOpen && input != .fatalClosed) := by
    have other : input ≠ .fatalClosed := by
      rintro rfl
      cases isRestart
    rw [bne_iff_ne.mpr other, Bool.and_true]
  have unended : input.ending? = none := by
    cases input with
    | event event => cases event <;> first | rfl | cases isRestart
    | fatal | eventsClosed | fatalClosed => cases isRestart
  rw [calls_of_restart isRestart]
  unfold restart
  simp only [Lifecycle.withLedger, Ledger.enter]
  rcases life.cleanupIdle ledger.state with ⟨cleaned, clean⟩
  dsimp only
  rcases life.stop clean with ⟨stopped, still⟩
  dsimp only
  rcases life.start still with ⟨report | done, after⟩
  · refine ⟨[.error report],
      adds_entries [.cleanup cleaned, .stop stopped, .start (.error report)] ?_,
      .refused isRestart⟩
    simp only [List.append_assoc, List.cons_append, List.nil_append]
  · refine ⟨[.ok ()], adds_entries [.cleanup cleaned, .stop stopped, .start (.ok ())] ?_, ?_⟩
    · simp only [List.append_assoc, List.cons_append, List.nil_append]
    · dsimp only
      rw [going]
      exact .waiting unended (by simp)

theorem finish_answered (life : Lifecycle σ) (fatalOpen : Bool) (input : Input)
    {result : Except Failure Unit} (ending : input.ending? = some result) (ledger : Ledger σ) :
    ∃ starts, Adds ledger (finish life.withLedger result ledger).2 input.calls starts ∧
      Answered fatalOpen input starts (finish life.withLedger result ledger).1 := by
  rw [calls_of_ending ending]
  exact ⟨[], adds_entries [.stop (life.stop ledger.state).1] rfl, .finished ending⟩

theorem take_unread (life : Lifecycle σ) {input : Input}
    (ofFatalSource : input.isOfFatalSource = true) (state : σ) :
    take life (.waiting false) input state = (.waiting false, state) := by
  cases input with
  | fatal report => rfl
  | fatalClosed => rfl
  | event | eventsClosed => cases ofFatalSource

theorem take_answered (life : Lifecycle σ) (fatalOpen : Bool) (input : Input)
    (read : ¬ (input.isOfFatalSource = true ∧ fatalOpen = false)) (ledger : Ledger σ) :
    ∃ starts, Adds ledger (take life.withLedger (.waiting fatalOpen) input ledger).2
        input.calls starts ∧
      Answered fatalOpen input starts
        (take life.withLedger (.waiting fatalOpen) input ledger).1 := by
  have unanswered (quiet : input.calls = []) (unended : input.ending? = none) :
      ∃ starts, Adds ledger ledger input.calls starts ∧
        Answered fatalOpen input starts (.waiting (fatalOpen && input != .fatalClosed)) := by
    refine ⟨[], ?_, .waiting unended (by simp)⟩
    rw [quiet]
    exact adds_entries [] (List.append_nil _).symm
  cases input with
  | event event =>
      cases event with
      | socketRecreated | restartSignal => exact restart_answered life fatalOpen _ rfl ledger
      | terminate signal => exact finish_answered life fatalOpen _ rfl ledger
      | watchError message =>
          have going := unanswered rfl rfl
          rw [bne_iff_ne.mpr (by simp), Bool.and_true] at going
          exact going
  | fatal report =>
      cases fatalOpen with
      | true => exact finish_answered life true _ rfl ledger
      | false => exact absurd ⟨rfl, rfl⟩ read
  | eventsClosed => exact finish_answered life fatalOpen _ rfl ledger
  | fatalClosed =>
      have going := unanswered rfl rfl
      rw [bne_self_eq_false, Bool.and_false] at going
      exact going

/-! ### One run -/

theorem run_concat (life : Lifecycle σ) (inputs : List Input) (input : Input) (state : σ) :
    run life (inputs ++ [input]) state =
      take life (run life inputs state).1 input (run life inputs state).2 := by
  rw [run, takeAll, List.foldl_append]
  rfl

theorem readInputs_concat (inputs : List Input) (input : Input) :
    readInputs (inputs ++ [input]) =
      if input.isOfFatalSource = true ∧ .fatalClosed ∈ readInputs inputs then readInputs inputs
      else readInputs inputs ++ [input] := by
  rw [readInputs, List.foldl_append]
  rfl

structure Traced (inputs taken : List Input) (phase : Phase) (ledger : Ledger σ) : Prop where
  reached : taken <+: readInputs inputs
  steps : ledger.steps = .start :: taken.flatMap Input.calls
  stands : Stands (readInputs inputs) taken ledger.starts phase

theorem traced_begin (life : Lifecycle σ) (state : σ) :
    Traced [] [] (begin life.withLedger (.blank state)).1
      (begin life.withLedger (.blank state)).2 := by
  unfold begin
  simp only [Lifecycle.withLedger, Ledger.enter, Ledger.blank]
  rcases life.start state with ⟨report | done, after⟩
  · exact ⟨List.prefix_rfl, rfl, .unstarted⟩
  · refine ⟨List.prefix_rfl, rfl, .waiting (by simp [readInputs]) ?_ (by simp [readInputs])⟩
    intro outcome member
    rw [List.mem_singleton.mp member]

private theorem readInputs_grows (inputs : List Input) (input : Input) :
    readInputs inputs <+: readInputs (inputs ++ [input]) := by
  rw [readInputs_concat]
  split
  · exact List.prefix_rfl
  · exact List.prefix_append _ _

theorem Stands.ended {read further taken : List Input} {starts : List StartOutcome}
    {result : Except Failure Unit} (stands : Stands read taken starts (.ended result)) :
    Stands further taken starts (.ended result) := by
  cases stands with
  | unstarted => exact .unstarted
  | refused unended started restart => exact .refused unended started restart
  | finished unended started ending => exact .finished unended started ending

private theorem stands_answered {read taken : List Input} {starts new : List StartOutcome}
    {fatalOpen : Bool} {input : Input} {phase : Phase}
    (stands : Stands read taken starts (.waiting fatalOpen))
    (answered : Answered fatalOpen input new phase) :
    Stands (read ++ [input]) (taken ++ [input]) (starts ++ new) phase := by
  cases stands with
  | waiting unended started source =>
      cases answered with
      | waiting quiet ok =>
          refine .waiting ?_ ?_ ?_
          · intro other member
            rcases List.mem_append.mp member with old | new
            · exact unended other old
            · rw [List.mem_singleton.mp new]
              exact quiet
          · intro outcome member
            rcases List.mem_append.mp member with old | new
            · exact started outcome old
            · exact ok outcome new
          · rw [Bool.and_eq_true, bne_iff_ne, source, List.mem_append, List.mem_singleton,
              not_or, ne_comm]
      | refused restart => exact .refused unended started restart
      | finished ending =>
          rw [List.append_nil]
          exact .finished unended started ending

theorem Stands.of_waiting {read taken : List Input} {starts : List StartOutcome}
    {fatalOpen : Bool} (stands : Stands read taken starts (.waiting fatalOpen)) :
    taken = read ∧ (fatalOpen = true ↔ .fatalClosed ∉ read) := by
  cases stands with
  | waiting _ _ source => exact ⟨rfl, source⟩

theorem traced_take (life : Lifecycle σ) (inputs taken : List Input) (input : Input)
    (phase : Phase) (ledger : Ledger σ) (traced : Traced inputs taken phase ledger) :
    ∃ taken', Traced (inputs ++ [input]) taken' (take life.withLedger phase input ledger).1
      (take life.withLedger phase input ledger).2 := by
  obtain ⟨reached, steps, stands⟩ := traced
  cases phase with
  | ended result =>
      exact ⟨taken, reached.trans (readInputs_grows inputs input), steps, stands.ended⟩
  | waiting fatalOpen =>
      obtain ⟨rfl, source⟩ := stands.of_waiting
      by_cases unread : input.isOfFatalSource = true ∧ fatalOpen = false
      · obtain ⟨ofFatalSource, rfl⟩ := unread
        have closed : .fatalClosed ∈ readInputs inputs :=
          Decidable.of_not_not fun absent => Bool.noConfusion (source.mpr absent)
        have kept : readInputs (inputs ++ [input]) = readInputs inputs := by
          rw [readInputs_concat, if_pos ⟨ofFatalSource, closed⟩]
        rw [take_unread life.withLedger ofFatalSource]
        refine ⟨readInputs inputs, ?_, steps, ?_⟩
        · exact ⟨[], by rw [kept, List.append_nil]⟩
        · rw [kept]
          exact stands
      · have further : readInputs (inputs ++ [input]) = readInputs inputs ++ [input] := by
          rw [readInputs_concat, if_neg]
          rintro ⟨ofFatalSource, closed⟩
          refine unread ⟨ofFatalSource, Bool.eq_false_iff.mpr fun isOpen => ?_⟩
          exact source.mp isOpen closed
        obtain ⟨starts, adds, answered⟩ := take_answered life fatalOpen input unread ledger
        refine ⟨readInputs inputs ++ [input], ?_, ?_, ?_⟩
        · exact ⟨[], by rw [further, List.append_nil]⟩
        · rw [adds.steps, steps, List.flatMap_append, List.flatMap_singleton]
          rfl
        · rw [further, adds.starts]
          exact stands_answered stands answered

theorem traced_run (life : Lifecycle σ) (inputs : List Input) (state : σ) :
    ∃ taken, Traced inputs taken (run life.withLedger inputs (.blank state)).1
      (run life.withLedger inputs (.blank state)).2 := by
  induction inputs using List.reverseRecOn with
  | nil => exact ⟨[], traced_begin life state⟩
  | append_singleton inputs input ih =>
      obtain ⟨taken, traced⟩ := ih
      rw [run_concat]
      exact traced_take life inputs taken input _ _ traced

theorem take_withLedger (life : Lifecycle σ) (phase : Phase) (input : Input)
    (ledger : Ledger σ) :
    (take life.withLedger phase input ledger).1 = (take life phase input ledger.state).1 ∧
      (take life.withLedger phase input ledger).2.state =
        (take life phase input ledger.state).2 := by
  have restarted (fatalOpen : Bool) :
      (restart life.withLedger fatalOpen ledger).1 = (restart life fatalOpen ledger.state).1 ∧
        (restart life.withLedger fatalOpen ledger).2.state =
          (restart life fatalOpen ledger.state).2 := by
    unfold restart
    simp only [Lifecycle.withLedger, Ledger.enter]
    rcases life.start (life.stop (life.cleanupIdle ledger.state).2).2 with ⟨_ | _, after⟩ <;>
      exact ⟨rfl, rfl⟩
  cases phase with
  | ended result => exact ⟨rfl, rfl⟩
  | waiting fatalOpen =>
      cases input with
      | event event =>
          cases event with
          | socketRecreated | restartSignal => exact restarted fatalOpen
          | terminate | watchError => exact ⟨rfl, rfl⟩
      | fatal report => cases fatalOpen <;> exact ⟨rfl, rfl⟩
      | eventsClosed | fatalClosed => exact ⟨rfl, rfl⟩

theorem run_withLedger (life : Lifecycle σ) (inputs : List Input) (state : σ) :
    (run life.withLedger inputs (.blank state)).1 = (run life inputs state).1 ∧
      (run life.withLedger inputs (.blank state)).2.state = (run life inputs state).2 := by
  induction inputs using List.reverseRecOn with
  | nil =>
      unfold run takeAll begin
      simp only [Lifecycle.withLedger, Ledger.enter, Ledger.blank, List.foldl_nil]
      rcases life.start state with ⟨_ | _, after⟩ <;> exact ⟨rfl, rfl⟩
  | append_singleton inputs input ih =>
      rw [run_concat, run_concat, ← ih.1, ← ih.2]
      exact take_withLedger life _ input _

theorem run_append_of_ended (life : Lifecycle σ) (inputs later : List Input) (state : σ)
    {result : Except Failure Unit} (ended : (run life inputs state).1 = .ended result) :
    run life (inputs ++ later) state = run life inputs state := by
  induction later using List.reverseRecOn with
  | nil => rw [List.append_nil]
  | append_singleton later input ih =>
      rw [← List.append_assoc, run_concat, ih]
      generalize run life inputs state = final at ended ⊢
      obtain ⟨phase, state⟩ := final
      cases ended
      rfl

/-! ### The last call, and the number of starts -/

theorem count_start_calls (taken : List Input) :
    (taken.flatMap Input.calls).count .start = taken.countP Input.isRestart := by
  induction taken with
  | nil => rfl
  | cons input taken ih =>
      rw [List.flatMap_cons, List.count_append, ih, List.countP_cons, Nat.add_comm]
      congr 1
      unfold Input.calls
      split
      · rfl
      · split <;> rfl

theorem count_start_steps (entries : List Entry) :
    (entries.map Entry.step).count .start = (entries.filterMap Entry.startOutcome?).length := by
  induction entries with
  | nil => rfl
  | cons entry entries ih =>
      cases entry with
      | start outcome =>
          rw [List.map_cons, Entry.step, List.count_cons_self, ih]
          rfl
      | stop outcome | cleanup outcome =>
          rw [List.map_cons, Entry.step, List.count_cons_of_ne (by decide), ih]
          rfl

theorem getLast?_of_steps {entries : List Entry} (steps : List Step)
    (last : entries.map Entry.step = steps ++ [.start]) :
    ∃ outcome, entries.getLast? = some (.start outcome) ∧
      (entries.filterMap Entry.startOutcome?).getLast? = some outcome := by
  obtain ⟨front, rest, rfl, _, single⟩ := List.map_eq_append_iff.mp last
  obtain ⟨entry, rfl, step⟩ := List.map_eq_singleton_iff.mp single
  cases entry with
  | start outcome =>
      refine ⟨outcome, List.getLast?_concat, ?_⟩
      rw [List.filterMap_append]
      exact List.getLast?_concat
  | stop | cleanup => cases step

/-- A run that is over has made a stop or a start that failed at last. -/
theorem last_call {inputs taken : List Input} {result : Except Failure Unit}
    {ledger : Ledger σ} (traced : Traced inputs taken (.ended result) ledger) :
    ledger.steps.getLast? = some .stop ∨
      ∃ report, ledger.entries.getLast? = some (.start (.error report)) := by
  obtain ⟨reached, steps, stands⟩ := traced
  generalize same : ledger.starts = starts at stands
  cases stands with
  | unstarted =>
      obtain ⟨outcome, last, lastStart⟩ := getLast?_of_steps [] steps
      change ledger.starts.getLast? = some outcome at lastStart
      rw [same] at lastStart
      cases lastStart
      exact Or.inr ⟨_, last⟩
  | @refused taken input starts report unended started restart =>
      rw [List.flatMap_append, List.flatMap_singleton, calls_of_restart restart,
        ← List.append_assoc, ← List.cons_append] at steps
      obtain ⟨outcome, last, lastStart⟩ := getLast?_of_steps _ steps
      change ledger.starts.getLast? = some outcome at lastStart
      rw [same, List.getLast?_concat] at lastStart
      cases lastStart
      exact Or.inr ⟨_, last⟩
  | finished unended started ending =>
      rw [List.flatMap_append, List.flatMap_singleton, calls_of_ending ending,
        ← List.cons_append] at steps
      rw [steps]
      exact Or.inl List.getLast?_concat

/-! ### Two runs -/

/-- Whether no start that both of two runs have made has come to different outcomes. -/
def Agree (first second : List StartOutcome) : Prop :=
  ∀ (number : Nat) (outcome other : StartOutcome), first[number]? = some outcome →
    second[number]? = some other → outcome = other

theorem Agree.front {first second new others : List StartOutcome}
    (agree : Agree (first ++ new) (second ++ others)) : Agree first second := by
  intro number outcome other made madeToo
  exact agree number outcome other
    ((List.getElem?_append_left (List.getElem?_eq_some_iff.mp made).1).trans made)
    ((List.getElem?_append_left (List.getElem?_eq_some_iff.mp madeToo).1).trans madeToo)

theorem Agree.back {first second new others : List StartOutcome}
    (agree : Agree (first ++ new) (second ++ others)) (before : first.length = second.length)
    (since : new.length = others.length) : new = others := by
  apply List.ext_getElem since
  intro number inside insideToo
  apply agree (first.length + number)
  · rw [List.getElem?_append_right (Nat.le_add_right _ _), Nat.add_sub_cancel_left]
    exact List.getElem?_eq_getElem inside
  · rw [before, List.getElem?_append_right (Nat.le_add_right _ _), Nat.add_sub_cancel_left]
    exact List.getElem?_eq_getElem insideToo

theorem starts_length (ledger : Ledger σ) : ledger.starts.length = ledger.steps.count .start :=
  (count_start_steps ledger.entries).symm

theorem alike_take (life : Lifecycle σ) (other : Lifecycle τ) (phase : Phase) (input : Input)
    (ledger : Ledger σ) (second : Ledger τ) (same : second.steps = ledger.steps)
    (agree : Agree (take life.withLedger phase input ledger).2.starts
      (take other.withLedger phase input second).2.starts) :
    (take other.withLedger phase input second).1 = (take life.withLedger phase input ledger).1 ∧
      (take other.withLedger phase input second).2.steps =
        (take life.withLedger phase input ledger).2.steps := by
  cases phase with
  | ended result => exact ⟨rfl, same⟩
  | waiting fatalOpen =>
      by_cases unread : input.isOfFatalSource = true ∧ fatalOpen = false
      · obtain ⟨ofFatalSource, rfl⟩ := unread
        rw [take_unread life.withLedger ofFatalSource, take_unread other.withLedger ofFatalSource]
        exact ⟨rfl, same⟩
      · obtain ⟨starts, adds, answered⟩ := take_answered life fatalOpen input unread ledger
        obtain ⟨others, addsToo, answeredToo⟩ :=
          take_answered other fatalOpen input unread second
        have steps : (take other.withLedger (.waiting fatalOpen) input second).2.steps =
            (take life.withLedger (.waiting fatalOpen) input ledger).2.steps := by
          rw [adds.steps, addsToo.steps, same]
        -- The same calls have as many starts among them, before the input and for it.
        have before : ledger.starts.length = second.starts.length := by
          rw [starts_length, starts_length, same]
        have whole := congrArg (List.count Step.start) steps
        rw [← starts_length, ← starts_length, adds.starts, addsToo.starts, List.length_append,
          List.length_append] at whole
        rw [adds.starts, addsToo.starts] at agree
        have new := agree.back before (by omega)
        subst new
        exact ⟨answeredToo.unique answered, steps⟩

theorem grows_take (life : Lifecycle σ) (phase : Phase) (input : Input) (ledger : Ledger σ) :
    ∃ steps starts, Adds ledger (take life.withLedger phase input ledger).2 steps starts := by
  have still : Adds ledger ledger [] [] := adds_entries [] (List.append_nil _).symm
  cases phase with
  | ended result => exact ⟨[], [], still⟩
  | waiting fatalOpen =>
      by_cases unread : input.isOfFatalSource = true ∧ fatalOpen = false
      · obtain ⟨ofFatalSource, rfl⟩ := unread
        rw [take_unread life.withLedger ofFatalSource]
        exact ⟨[], [], still⟩
      · obtain ⟨starts, adds, _⟩ := take_answered life fatalOpen input unread ledger
        exact ⟨_, starts, adds⟩

theorem alike_run (life : Lifecycle σ) (other : Lifecycle τ) (inputs : List Input) (state : σ)
    (begun : τ)
    (agree : Agree (run life.withLedger inputs (.blank state)).2.starts
      (run other.withLedger inputs (.blank begun)).2.starts) :
    (run other.withLedger inputs (.blank begun)).1 =
        (run life.withLedger inputs (.blank state)).1 ∧
      (run other.withLedger inputs (.blank begun)).2.steps =
        (run life.withLedger inputs (.blank state)).2.steps := by
  induction inputs using List.reverseRecOn with
  | nil =>
      unfold run takeAll begin at agree ⊢
      simp only [Lifecycle.withLedger, Ledger.enter, Ledger.blank, List.foldl_nil] at agree ⊢
      generalize life.start state = one at agree ⊢
      generalize other.start begun = two at agree ⊢
      rcases one with ⟨report | done, after⟩ <;> rcases two with ⟨report' | done', after'⟩
      · cases agree 0 _ _ rfl rfl
        exact ⟨rfl, rfl⟩
      · cases agree 0 _ _ rfl rfl
      · cases agree 0 _ _ rfl rfl
      · exact ⟨rfl, rfl⟩
  | append_singleton inputs input ih =>
      rw [run_concat, run_concat] at agree ⊢
      obtain ⟨_, _, grown⟩ := grows_take life (run life.withLedger inputs (.blank state)).1 input
        (run life.withLedger inputs (.blank state)).2
      obtain ⟨_, _, grownToo⟩ := grows_take other
        (run other.withLedger inputs (.blank begun)).1 input
        (run other.withLedger inputs (.blank begun)).2
      have agreed := agree
      rw [grown.starts, grownToo.starts] at agreed
      obtain ⟨phase, steps⟩ := ih agreed.front
      rw [phase] at agree ⊢
      exact alike_take life other _ input _ _ steps agree

/-- A run starts its plugin and then makes, for each input that it takes, the calls of that
input and no others.  It is over with the first start that fails and with the first input that
ends it, and is not touched by any later input.  Its calls and its result depend on what its
starts come to, and not on what stops and cleanups do. -/
theorem calls_follow_inputs (life : Lifecycle σ) (inputs : List Input) (state : σ) :
    let final := run life.withLedger inputs (.blank state)
    (final.1 = (run life inputs state).1 ∧ final.2.state = (run life inputs state).2) ∧
    (∃ taken, taken <+: readInputs inputs ∧
      final.2.steps = .start :: taken.flatMap Input.calls ∧
      final.2.starts.length = 1 + taken.countP Input.isRestart ∧
      Stands (readInputs inputs) taken final.2.starts final.1) ∧
    (∀ result, final.1 = .ended result →
      (final.2.steps.getLast? = some .stop ∨
        ∃ report, final.2.entries.getLast? = some (.start (.error report))) ∧
      ∀ later, run life.withLedger (inputs ++ later) (.blank state) = final) ∧
    ∀ (other : Lifecycle τ) (begun : τ),
      let second := run other.withLedger inputs (.blank begun)
      Agree final.2.starts second.2.starts →
      second.1 = final.1 ∧ second.2.steps = final.2.steps := by
  intro final
  obtain ⟨taken, traced⟩ := traced_run life inputs state
  refine ⟨run_withLedger life inputs state,
    ⟨taken, traced.reached, traced.steps, ?_, traced.stands⟩, ?_, ?_⟩
  · rw [starts_length, traced.steps, List.count_cons_self, count_start_calls, Nat.add_comm]
  · intro result ended
    refine ⟨?_, fun later => run_append_of_ended life.withLedger inputs later _ ended⟩
    rw [ended] at traced
    exact last_call traced
  · intro other begun second agree
    exact alike_run life other inputs state begun agree

/-- The third start fails, and so do all stops and cleanups unless the rehearsal is smooth. -/
private def rehearsal (smooth : Bool) : Rehearsal := ⟨[2], .inventory, !smooth, !smooth, []⟩

private def hurdles : List Input :=
  [.event (.watchError "overflow"), .fatalClosed, .event .socketRecreated,
    .fatal (.of .inventory), .event .restartSignal, .event (.terminate .quit)]

theorem third_start_ends_run :
    let final := run rehearsed.withLedger hurdles (.blank (rehearsal false))
    let smooth := run rehearsed.withLedger hurdles (.blank (rehearsal true))
    (final.1 = .ended (.error (.restart (.of .inventory))) ∧
      final.2.steps = [.start, .cleanup, .stop, .start, .cleanup, .stop, .start] ∧
      Agree final.2.starts smooth.2.starts) ∧
    (∃ report, final.2.entries.getLast? = some (.start (.error report))) ∧
    run rehearsed.withLedger (hurdles ++ [.event .restartSignal]) (.blank (rehearsal false)) =
      final ∧
    smooth.1 = final.1 ∧ smooth.2.steps = final.2.steps := by
  intro final smooth
  have ended : final.1 = .ended (.error (.restart (.of .inventory))) := rfl
  have steps : final.2.steps =
      [.start, .cleanup, .stop, .start, .cleanup, .stop, .start] := rfl
  have agree : Agree final.2.starts smooth.2.starts := by
    have same : smooth.2.starts = final.2.starts := rfl
    rw [same]
    intro number outcome other made madeToo
    exact Option.some.inj (made.symm.trans madeToo)
  obtain ⟨_, _, ends, alike⟩ := calls_follow_inputs (τ := Rehearsal) rehearsed hurdles
    (rehearsal false)
  obtain ⟨last, later⟩ := ends _ ended
  refine ⟨⟨ended, steps, agree⟩, ?_, later _, alike rehearsed (rehearsal true) agree⟩
  rcases last with stop | failed
  · rw [steps] at stop
    cases stop
  · exact failed

end Supervisor
end VirtualNpu
