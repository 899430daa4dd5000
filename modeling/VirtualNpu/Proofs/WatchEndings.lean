import VirtualNpu.Proofs.SlowReaders
import VirtualNpu.Proofs.TaskTurns

/-!
How watches end.  A task whose reader has gone away exits, and so does every task once the stop
signal has fired and its reader has taken what there is: the lists in the queue, the one that
waits or the initial one, and one list at most for each notification not yet answered.
-/

namespace VirtualNpu
namespace Node

open Kubelet (Device View Watch)

variable {σ κ : Type}

/-! ### Subscriptions -/

private theorem map_present_modify (watches : List Watch) (number : Nat) {change : Watch → Watch}
    {told : Bool → Bool}
    (tells : ∀ watch, (change watch).readerPresent = told watch.readerPresent) :
    (watches.modify number change).map Watch.readerPresent =
      (watches.map Watch.readerPresent).modify number told := by
  induction watches generalizing number with
  | nil => cases number <;> rfl
  | cons watch watches ih =>
      cases number with
      | zero =>
          rw [List.modify_zero_cons, List.map_cons, List.map_cons, List.modify_zero_cons, tells]
      | succ number =>
          rw [List.modify_succ_cons, List.map_cons, List.map_cons, List.modify_succ_cons, ih]

private theorem present_step (choose : View → Watch → Option Kubelet.Branch) (view : View)
    (watch : Watch) :
    ((watch.step choose view).getD watch).readerPresent = watch.readerPresent := by
  unfold Watch.step
  cases watch.task with
  | listing => rfl
  | sending list =>
      dsimp only
      split
      · rfl
      · split <;> rfl
  | idle =>
      dsimp only
      rcases choose view watch with _ | branch
      · rfl
      · cases branch <;> rfl
  | ended => rfl

private theorem present_receive (watch : Watch) :
    watch.receive.2.readerPresent = watch.readerPresent := by
  unfold Watch.receive
  split <;> rfl

theorem readers_run (world : World σ κ) (moves : List (Move σ κ)) (course : Course σ κ) :
    (course.run world moves).node.watches.map Watch.readerPresent =
      moves.foldl readersAfter (course.node.watches.map Watch.readerPresent) := by
  induction moves generalizing course with
  | nil => rfl
  | cons move moves ih =>
      have one : (course.step world move).node.watches.map Watch.readerPresent =
          readersAfter (course.node.watches.map Watch.readerPresent) move := by
        rw [step_watches]
        cases move with
        | subscribe => rw [List.map_append]; rfl
        | runTask number branch =>
            exact (map_present_modify _ number (present_step _ _)).trans (List.modify_id _ _)
        | read number =>
            exact (map_present_modify _ number present_receive).trans (List.modify_id _ _)
        | depart number =>
            exact (map_present_modify _ number fun _ => rfl).trans (List.set_eq_modify _ _ _).symm
        | _ => rfl
      rw [List.foldl_cons, ← one]
      exact ih (course.step world move)

/-- As long as the stop signal has not fired, the tasks that cannot go on are alive where their
readers are there. -/
theorem isLive_of_blocked {chronicle : Chronicle σ κ} (followable : Followable chronicle)
    (unstopped : chronicle.view.stopped = false) {watch : Watch}
    (inside : watch ∈ chronicle.watches)
    (blocked : IsBlocked chronicle.view watch) : watch.isLive = watch.readerPresent := by
  obtain ⟨number, found⟩ := List.getElem?_of_mem inside
  obtain ⟨trail, _, followed⟩ := followed_of_open followable found
  cases present : watch.readerPresent with
  | false => simp [Watch.isLive, ended_of_blocked_absent blocked present]
  | true =>
      have running : watch.task ≠ .ended := by
        intro ended
        rcases followed.ended ended with stopped | absent
        · rw [unstopped] at stopped
          cases stopped
        · rw [present] at absent
          cases absent
      simpa [Watch.isLive] using running

theorem ended_of_blocked_stopped {view : View} {watch : Watch} (blocked : IsBlocked view watch)
    (stopped : view.stopped = true) (finished : watch.queue = [] ∨ watch.readerPresent = false) :
    watch.task = .ended := by
  rcases isOver_of_blocked blocked stopped with ended | ⟨_, present, full⟩
  · exact ended
  · rcases finished with empty | absent
    · rw [empty] at full
      exact absurd full (by decide)
    · rw [present] at absent
      cases absent

/-! ### Tasks that have exited -/

theorem run_ended (world : World σ κ) (moves : List (Move σ κ)) (chronicle : Chronicle σ κ)
    (number : Nat) (watch : Watch) (trail : Trail)
    (found : chronicle.watches[number]? = some watch)
    (kept : chronicle.trails[number]? = some trail) (ended : watch.task = .ended) :
    ∃ last, (chronicle.run world moves).watches[number]? = some last ∧
      (chronicle.run world moves).trails[number]? = some trail ∧ last.task = .ended ∧
      last.queue <:+ watch.queue := by
  induction moves generalizing chronicle watch with
  | nil => exact ⟨watch, found, kept, ended, List.suffix_rfl⟩
  | cons move moves ih =>
      obtain ⟨next, nextTrail, nextFound, nextKept, step⟩ :=
        step_watch world chronicle move number watch trail found kept
      have once : next.task = .ended ∧ nextTrail = trail ∧ next.queue <:+ watch.queue := by
        rcases step with ⟨_, step⟩ | ⟨_, step, same⟩
        · cases step with
          | blocked => exact ⟨ended, rfl, List.suffix_rfl⟩
          | listed task | sent list task | abandoned list task | woken task | quit task =>
              rw [ended] at task
              cases task
        · refine ⟨(readerStep_keeps step).1.trans ended, same, ?_⟩
          cases step with
          | nothing => exact List.suffix_rfl
          | took list rest queue =>
              rw [queue]
              exact List.suffix_cons list rest
          | left => exact List.nil_suffix
      obtain ⟨nextEnded, rfl, shorter⟩ := once
      obtain ⟨last, lastFound, lastKept, lastEnded, shorterYet⟩ :=
        ih (chronicle.step world move) next nextFound nextKept nextEnded
      exact ⟨last, lastFound, lastKept, lastEnded, shorterYet.trans shorter⟩

/-! ### Lists still to be computed -/

theorem computed_run (world : World σ κ) (moves : List (Move σ κ)) (chronicle : Chronicle σ κ)
    (followable : Followable chronicle) (number : Nat) (watch : Watch) (trail : Trail)
    (found : chronicle.watches[number]? = some watch)
    (kept : chronicle.trails[number]? = some trail) :
    ∃ last lastTrail extra, (chronicle.run world moves).watches[number]? = some last ∧
      (chronicle.run world moves).trails[number]? = some lastTrail ∧
      lastTrail.computed = trail.computed ++ extra ∧
      extra.length + listsDue last + watch.seen ≤ listsDue watch + last.seen := by
  induction moves generalizing chronicle watch trail with
  | nil =>
      refine ⟨watch, trail, [], found, kept, (List.append_nil _).symm, ?_⟩
      rw [List.length_nil]
      omega
  | cons move moves ih =>
      obtain ⟨next, nextTrail, nextFound, nextKept, step⟩ :=
        step_watch world chronicle move number watch trail found kept
      have once : ∃ first, nextTrail.computed = trail.computed ++ first ∧
          first.length + listsDue next + watch.seen ≤ listsDue watch + next.seen := by
        rcases step with ⟨_, step⟩ | ⟨_, step, same⟩
        · cases step with
          | listed task =>
              refine ⟨_, rfl, ?_⟩
              rw [listsDue_listing task, listsDue_sending rfl]
              exact Nat.le_refl _
          | woken task unseen =>
              have seen := (followable.followed number watch trail found kept).seen
              change watch.seen ≤ chronicle.view.raised at seen
              refine ⟨[], (List.append_nil _).symm, ?_⟩
              rw [listsDue_idle task, listsDue_listing rfl, List.length_nil]
              dsimp only
              omega
          | blocked =>
              refine ⟨[], (List.append_nil _).symm, ?_⟩
              rw [List.length_nil]
              omega
          | sent list task present room | abandoned list task absent | quit task cause =>
              refine ⟨[], (List.append_nil _).symm, ?_⟩
              simp [listsDue, task]
        · obtain ⟨task, seen⟩ := readerStep_keeps step
          refine ⟨[], by rw [same, List.append_nil], ?_⟩
          unfold listsDue
          rw [task, seen, List.length_nil]
          omega
      obtain ⟨first, grown, paid⟩ := once
      obtain ⟨last, lastTrail, extra, lastFound, lastKept, grownOn, paidOn⟩ :=
        ih (chronicle.step world move) (followable_step world chronicle move followable) next
          nextTrail nextFound nextKept
      refine ⟨last, lastTrail, first ++ extra, lastFound, lastKept, ?_, ?_⟩
      · rw [grownOn, grown, List.append_assoc]
      · rw [List.length_append]
        omega

def initialLists (trail : Trail) : Nat := if trail.computed = [] then 1 else 0

/-- A list that is due is the initial one or answers some notification. -/
structure Answering (chronicle : Chronicle σ κ) (number count : Nat) : Prop where
  followable : Followable chronicle
  owed : ∀ watch trail, chronicle.watches[number]? = some watch →
    chronicle.trails[number]? = some trail →
    count + listsDue watch ≤ watch.seen + initialLists trail

private theorem answeredAfter_open {number count : Nat} {before after : Course σ κ}
    {watch watch' : Watch} (found : before.node.watches[number]? = some watch)
    (found' : after.node.watches[number]? = some watch') :
    answeredAfter number before after count =
      if watch.task = .listing ∧ watch'.task ≠ .listing then watch.seen else count := by
  simp only [answeredAfter, found, found']

theorem answering_step (world : World σ κ) (chronicle : Chronicle σ κ) (move : Move σ κ)
    {number count : Nat} (before : Answering chronicle number count) :
    Answering (chronicle.step world move) number
      (answeredAfter number chronicle.course (chronicle.course.step world move) count) := by
  refine ⟨followable_step world chronicle move before.followable, ?_⟩
  intro next nextTrail nextFound nextKept
  have nextOpen : (chronicle.course.step world move).node.watches[number]? = some next := nextFound
  cases found : chronicle.watches[number]? with
  | none =>
      obtain ⟨rfl, rfl⟩ := step_opened world chronicle move before.followable.paired number next
        nextTrail (List.getElem?_eq_none_iff.mp found) nextFound nextKept
      change chronicle.course.node.watches[number]? = none at found
      simp only [answeredAfter, found]
      exact Nat.le_refl _
  | some watch =>
      obtain ⟨trail, kept, followed⟩ := followed_of_open before.followable found
      have owed := before.owed watch trail found kept
      obtain ⟨_, _, sameFound, sameKept, step⟩ :=
        step_watch world chronicle move number watch trail found kept
      rw [nextFound] at sameFound
      rw [nextKept] at sameKept
      cases sameFound
      cases sameKept
      rw [answeredAfter_open found nextOpen]
      rcases step with ⟨_, step⟩ | ⟨_, step, same⟩
      · cases step with
        | blocked =>
            rw [if_neg fun left => left.2 left.1]
            exact owed
        | listed task =>
            rw [if_pos ⟨task, Kubelet.Task.noConfusion⟩, listsDue_sending rfl]
            exact Nat.le_add_right _ _
        | woken task unseen =>
            have seen := followed.seen
            change watch.seen ≤ chronicle.view.raised at seen
            rw [listsDue_idle task] at owed
            rw [if_neg fun left => left.2 rfl, listsDue_listing rfl]
            dsimp only
            omega
        | sent list task present room | abandoned list task absent | quit task cause =>
            unfold initialLists at owed ⊢
            simpa [listsDue, task] using owed
      · obtain ⟨task, seen⟩ := readerStep_keeps step
        rw [if_neg fun left => left.2 (task.trans left.1), same, seen]
        unfold listsDue at owed ⊢
        rw [task]
        exact owed

theorem answering_run (world : World σ κ) (moves : List (Move σ κ)) (chronicle : Chronicle σ κ)
    {number count : Nat} (before : Answering chronicle number count) :
    Answering (chronicle.run world moves) number
      (answeredCount world number count chronicle.course moves) := by
  induction moves generalizing chronicle count with
  | nil => exact before
  | cons move moves ih =>
      exact ih (chronicle.step world move) (answering_step world chronicle move before)

/-! ### What is delivered -/

/-- A reader that has gone away is handed nothing. -/
theorem delivered_absent (world : World σ κ) (moves : List (Move σ κ)) (chronicle : Chronicle σ κ)
    {number : Nat} {received : List (List Device)}
    (delivering : Delivering chronicle number received) (watch : Watch) (trail : Trail)
    (found : chronicle.watches[number]? = some watch)
    (kept : chronicle.trails[number]? = some trail) (absent : watch.readerPresent = false) :
    delivered world number chronicle.course moves = [] := by
  induction moves generalizing chronicle received watch trail with
  | nil => rfl
  | cons move moves ih =>
      obtain ⟨next, nextTrail, nextFound, nextKept, moved⟩ :=
        step_watchMove world chronicle move number watch trail found kept
      have empty := (delivering.conserved watch trail found kept).dropped absent
      have once : handed? chronicle.course number move = none ∧ next.readerPresent = false := by
        generalize handed? chronicle.course number move = list at moved
        cases moved with
        | stood others => exact ⟨rfl, absent⟩
        | ran branch step => exact ⟨rfl, (ranks_turnsToEnd.task step absent).1⟩
        | took list rest queue =>
            rw [empty] at queue
            cases queue
        | left => exact ⟨rfl, rfl⟩
      rw [delivered, once.1, Option.toList_none, List.nil_append]
      exact ih (chronicle.step world move) (delivering_step world chronicle move delivering) next
        nextTrail nextFound nextKept once.2

theorem delivered_rest (world : World σ κ) (moves : List (Move σ κ)) (chronicle : Chronicle σ κ)
    {number : Nat} {received : List (List Device)}
    (delivering : Delivering chronicle number received) {watch last : Watch}
    {trail lastTrail : Trail} {extra : List Listing}
    (found : chronicle.watches[number]? = some watch)
    (kept : chronicle.trails[number]? = some trail)
    (lastFound : (chronicle.run world moves).watches[number]? = some last)
    (lastKept : (chronicle.run world moves).trails[number]? = some lastTrail)
    (grown : lastTrail.computed = trail.computed ++ extra) :
    delivered world number chronicle.course moves <+:
        watch.queue ++ waiting watch.task ++ extra.map Listing.devices ∧
      (last.readerPresent = true → last.queue = [] → last.task = .ended →
        delivered world number chronicle.course moves =
          watch.queue ++ waiting watch.task ++ extra.map Listing.devices) := by
  have conserved := delivering.conserved watch trail found kept
  have final := (delivering_run world moves chronicle delivering).conserved last lastTrail
    lastFound lastKept
  cases present : watch.readerPresent with
  | false =>
      rw [delivered_absent world moves chronicle delivering watch trail found kept present]
      refine ⟨List.nil_prefix, ?_⟩
      obtain ⟨_, _, sameFound, _, gone, _⟩ :=
        turnsTaken_run world ranks_turnsToEnd moves chronicle number watch trail found kept present
      rw [lastFound] at sameFound
      cases sameFound
      intro there
      rw [gone] at there
      cases there
  | true =>
      have whole : lastTrail.computed.map Listing.devices =
          received ++ (watch.queue ++ waiting watch.task ++ extra.map Listing.devices) := by
        rw [grown, List.map_append, conserved.whole present]
        simp only [List.append_assoc]
      refine ⟨?_, ?_⟩
      · have inOrder := final.inOrder
        rw [whole] at inOrder
        exact (List.prefix_append_right_inj received).mp inOrder
      · intro there empty ended
        have all := final.whole there
        rw [whole, empty, ended, List.append_nil] at all
        exact (List.append_cancel_left (all.trans (List.append_nil _))).symm

/-! ### The end of watches -/

private theorem receive_ended {watch : Watch} (empty : watch.queue = [])
    (ended : watch.task = .ended) :
    watch.receive = (.ended, watch) := by
  simp [Watch.receive, Watch.isLive, empty, ended]

theorem subscribers_at_rest {chronicle : Chronicle σ κ} (followable : Followable chronicle)
    (atRest : ∀ watch ∈ chronicle.watches, IsBlocked chronicle.view watch) :
    (chronicle.view.stopped = false →
      chronicle.course.node.subscribers =
        (chronicle.watches.map Watch.readerPresent).count true) ∧
    (chronicle.view.stopped = true →
      (∀ watch ∈ chronicle.watches, watch.queue = [] ∨ watch.readerPresent = false) →
      chronicle.course.node.subscribers = 0) := by
  constructor
  · intro unstopped
    change chronicle.watches.countP Watch.isLive = _
    rw [List.count, List.countP_map]
    apply List.countP_congr
    intro watch inside
    rw [isLive_of_blocked followable unstopped inside (atRest watch inside)]
    simp
  · intro stopped finished
    apply List.countP_eq_zero.mpr
    intro watch inside
    simp [Watch.isLive,
      ended_of_blocked_stopped (atRest watch inside) stopped (finished watch inside)]

/-- How watches end, in whatever order tasks run and take the branches that are ready.  Once no
task can go on, the subscriptions are those of the readers that are left or, after the stop
signal, none if every stream is read up or left.

A task takes six turns at most, and three for each notification raised meanwhile, until it can
go on no more.  Once it has exited, nothing is computed or put into the queue; without its reader
it exits within three turns, and at once from a send that waits.  What a reader still gets are
the lists in the queue, the one that waits, the initial one if it is still to come, and one at
most for each notification not yet answered; after the stop signal the stream then ends. -/
theorem watches_come_to_end (world : World σ κ) (name : String) (inventory : Inventory)
    (raised : Nat) (provider : σ) (cluster : κ) (moves : List (Move σ κ)) :
    let start := Chronicle.start name inventory raised provider cluster
    let chronicle := start.run world moves
    ((∀ watch ∈ chronicle.watches, IsBlocked chronicle.view watch) →
      (chronicle.view.stopped = false →
        chronicle.course.node.subscribers = (readersLeft moves).count true) ∧
      (chronicle.view.stopped = true →
        (∀ watch ∈ chronicle.watches, watch.queue = [] ∨ watch.readerPresent = false) →
        chronicle.course.node.subscribers = 0)) ∧
    ∀ (number : Nat) (watch : Watch) (trail : Trail),
      chronicle.watches[number]? = some watch → chronicle.trails[number]? = some trail →
      ∀ later : List (Move σ κ),
        let final := chronicle.run world later
        let taken := turnsTaken world number chronicle.course later
        let read := delivered world number chronicle.course later
        ∃ last lastTrail extra,
          final.watches[number]? = some last ∧ final.trails[number]? = some lastTrail ∧
          lastTrail.computed = trail.computed ++ extra ∧
          taken ≤ 6 + 3 * (final.raised - chronicle.raised) ∧
          (watch.task = .ended →
            last.task = .ended ∧ lastTrail = trail ∧ last.queue <:+ watch.queue) ∧
          (watch.readerPresent = false →
            taken + turnsToEnd last.task ≤ turnsToEnd watch.task ∧
            (IsBlocked final.view last → last.task = .ended)) ∧
          read <+: watch.queue ++ waiting watch.task ++ extra.map Listing.devices ∧
          extra.length ≤ initialLists trail +
            (final.raised - answeredCount world number raised start.course moves) ∧
          (final.view.stopped = true → last.queue = [] → IsBlocked final.view last →
            last.receive = (.ended, last) ∧
            (last.readerPresent = true →
              read = watch.queue ++ waiting watch.task ++ extra.map Listing.devices)) := by
  intro start chronicle
  have started : Followable start := followable_start name inventory raised provider cluster
  have followable : Followable chronicle := followable_run world moves start started
  refine ⟨?_, ?_⟩
  · intro atRest
    have readers : chronicle.watches.map Watch.readerPresent = readersLeft moves := by
      change chronicle.course.node.watches.map _ = _
      rw [Chronicle.run_course]
      exact readers_run world moves start.course
    rw [← readers]
    exact subscribers_at_rest followable atRest
  · intro number watch trail found kept later final taken read
    have delivering := delivering_run world moves start
      (delivering_start name inventory raised provider cluster number)
    have answering : Answering start number raised := ⟨started, fun _ _ opened => by cases opened⟩
    have owed := (answering_run world moves start answering).owed watch trail found kept
    obtain ⟨last, lastTrail, extra, lastFound, lastKept, grown, paid⟩ :=
      computed_run world later chronicle followable number watch trail found kept
    have finalSeen := ((followable_run world later chronicle followable).followed number last
      lastTrail lastFound lastKept).seen
    obtain ⟨prefixed, whole⟩ := delivered_rest world later chronicle delivering found kept lastFound
      lastKept grown
    refine ⟨last, lastTrail, extra, lastFound, lastKept, grown, ?_, ?_, ?_, prefixed, ?_, ?_⟩
    · obtain ⟨_, _, _, _, _, bounded⟩ :=
        turnsTaken_run world ranks_turnsLeft later chronicle number watch trail found kept trivial
      have atMost := turnsLeft_le chronicle.raised watch
      change taken + _ ≤ _ + 3 * (final.raised - chronicle.raised) at bounded
      omega
    · intro ended
      obtain ⟨_, sameFound, sameKept, stays, shorter⟩ :=
        run_ended world later chronicle number watch trail found kept ended
      rw [lastFound] at sameFound
      rw [lastKept] at sameKept
      cases sameFound
      cases sameKept
      exact ⟨stays, rfl, shorter⟩
    · intro absent
      obtain ⟨_, _, sameFound, _, gone, bounded⟩ :=
        turnsTaken_run world ranks_turnsToEnd later chronicle number watch trail found kept absent
      rw [lastFound] at sameFound
      cases sameFound
      refine ⟨?_, fun blocked => ended_of_blocked_absent blocked gone⟩
      rw [Nat.zero_mul] at bounded
      exact bounded
    · change last.seen ≤ final.raised at finalSeen
      change answeredCount world number raised start.course moves + _ ≤ _ at owed
      omega
    · intro stopped empty blocked
      have ended := ended_of_blocked_stopped blocked stopped (Or.inl empty)
      exact ⟨receive_ended empty ended, fun there => whole there empty ended⟩

private def closingWorld : World Inventory.Script Cluster.Stage :=
  ⟨Inventory.scripted, Cluster.staged, fun _ stage => stage, fun _ _ => none⟩

private def oneUnit : Inventory :=
  ⟨⟨"910B3", "Ascend910B3", "npu", 65536, 65536, 20, none, []⟩,
    [⟨"npu-0", 0, 0, 0, 0, 65536, 20, 0, true⟩]⟩

private def taskOf (number : Nat) : Move Inventory.Script Cluster.Stage :=
  .runTask number .notification

private def answer (number : Nat) : List (Move Inventory.Script Cluster.Stage) :=
  [taskOf number, taskOf number, taskOf number]

/-- Four notifications, until the first watch has its queue full and a fifth list waits; the
reader of the second one goes away. -/
private def untilRest : List (Move Inventory.Script Cluster.Stage) :=
  [.subscribe, .subscribe] ++ answer 0 ++ (.notify :: answer 0) ++ (.notify :: answer 0) ++
    (.notify :: answer 0) ++ (.notify :: answer 0) ++ [.depart 1] ++ answer 1

/-- One more notification, the stop signal, and a third watch. -/
private def untilStop : List (Move Inventory.Script Cluster.Stage) :=
  [.notify, .stop, .subscribe]

private def readUp : List (Move Inventory.Script Cluster.Stage) :=
  [.read 0, taskOf 0] ++ answer 0 ++ [.read 0, taskOf 0, .runTask 0 .stop, .read 0, .read 0,
    .read 0, .read 0, taskOf 2, taskOf 2, .read 2, .runTask 2 .stop]

private def atRest : Chronicle Inventory.Script Cluster.Stage :=
  (Chronicle.start "node" oneUnit 0 (.quiet "910B3") .empty).run closingWorld untilRest

private def stopFired : Chronicle Inventory.Script Cluster.Stage :=
  (Chronicle.start "node" oneUnit 0 (.quiet "910B3") .empty).run closingWorld
    (untilRest ++ untilStop)

private def readOut : Chronicle Inventory.Script Cluster.Stage :=
  stopFired.run closingWorld readUp

theorem streams_read_up :
    let first := Kubelet.deviceList oneUnit
    let read := delivered closingWorld 0 stopFired.course readUp
    (atRest.watches.map Watch.isLive = [true, false] ∧ atRest.course.node.subscribers = 1) ∧
    (stopFired.view.stopped = true ∧ stopFired.watches[0]? =
      some ⟨.sending first, 4, [first, first, first, first], true⟩) ∧
    read = [first, first, first, first, first, first] ∧
    (∃ extra : List Listing, extra.length ≤ 1 ∧
      read = [first, first, first, first] ++ [first] ++ extra.map Listing.devices) ∧
    (∃ last, readOut.watches[0]? = some last ∧ last.receive = (.ended, last)) ∧
    (delivered closingWorld 2 stopFired.course readUp = [first] ∧
      readOut.course.node.subscribers = 0) := by
  intro first read
  have restBlocked : ∀ watch ∈ atRest.watches, IsBlocked atRest.view watch := by
    have watches : atRest.watches =
        [⟨.sending first, 4, [first, first, first, first], true⟩, ⟨.ended, 0, [], false⟩] := rfl
    rw [watches]
    intro watch inside branch
    rcases List.mem_pair.mp inside with rfl | rfl <;> rfl
  have found : stopFired.watches[0]? =
      some ⟨.sending first, 4, [first, first, first, first], true⟩ := rfl
  obtain ⟨trail, kept, initial⟩ :
      ∃ trail, stopFired.trails[0]? = some trail ∧ initialLists trail = 0 := ⟨_, rfl, rfl⟩
  have lastFound : readOut.watches[0]? = some ⟨.ended, 5, [], true⟩ := rfl
  have lastBlocked : ∀ watch ∈ readOut.watches,
      IsBlocked readOut.view watch ∧ watch.queue = [] := by
    have watches : readOut.watches =
        [⟨.ended, 5, [], true⟩, ⟨.ended, 0, [], false⟩, ⟨.ended, 5, [], true⟩] := rfl
    rw [watches]
    intro watch inside
    simp only [List.mem_cons, List.not_mem_nil, or_false] at inside
    rcases inside with rfl | rfl | rfl <;> exact ⟨fun _ => rfl, rfl⟩
  have resting := (watches_come_to_end closingWorld "node" oneUnit 0 (.quiet "910B3") .empty
    untilRest).1 restBlocked
  have stopping := (watches_come_to_end closingWorld "node" oneUnit 0 (.quiet "910B3") .empty
    (untilRest ++ untilStop)).2 0 _ trail found kept readUp
  have closing := (watches_come_to_end closingWorld "node" oneUnit 0 (.quiet "910B3") .empty
    ((untilRest ++ untilStop) ++ readUp)).1
  rw [Chronicle.run_append] at closing
  obtain ⟨last, lastTrail, extra, sameFound, _, _, _, _, _, _, few, ends⟩ := stopping
  have same := sameFound.symm.trans lastFound
  cases same
  obtain ⟨end_, all⟩ := ends rfl rfl (lastBlocked _ (List.mem_of_getElem? lastFound)).1
  rw [initial] at few
  refine ⟨⟨rfl, (resting.1 rfl).trans rfl⟩, ⟨rfl, found⟩, rfl, ⟨extra, few, all rfl⟩,
    ⟨_, lastFound, end_⟩, rfl, ?_⟩
  exact (closing fun watch inside => (lastBlocked watch inside).1).2 rfl
    fun watch inside => Or.inl (lastBlocked watch inside).2

end Node
end VirtualNpu
