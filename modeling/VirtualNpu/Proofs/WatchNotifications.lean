import VirtualNpu.Inventory.Scripted
import VirtualNpu.Proofs.WatchUpdates

/-!
How many lists notifications cause.  As long as none is raised, the lists that a task has
computed and those that it owes add up to the same number; notifications that it has not
seen are one list owed, however many they are.
-/

namespace VirtualNpu
namespace Node

open Kubelet (Device View Watch)

variable {σ κ : Type}

/-- The lists that a task owes: one that it is about to compute, and one for all the
notifications that it has not seen. -/
def listsOwed (raised : Nat) (watch : Watch) : Nat :=
  listsDue watch + if watch.seen = raised then 0 else 1

/-- The lists computed and owed are `total`, unless the task has ended. -/
def AddsUp (raised total : Nat) (watch : Watch) (trail : Trail) : Prop :=
  watch.task = .ended ∨ trail.computed.length + listsOwed raised watch = total

private theorem listsOwed_congr (raised : Nat) (watch watch' : Watch)
    (task : watch'.task = watch.task) (seen : watch'.seen = watch.seen) :
    listsOwed raised watch' = listsOwed raised watch := by
  unfold listsOwed listsDue
  rw [task, seen]

theorem readerStep_keeps {watch watch' : Watch} (step : ReaderStep watch watch') :
    watch'.task = watch.task ∧ watch'.seen = watch.seen := by
  cases step with
  | nothing => exact ⟨rfl, rfl⟩
  | took list rest queue => exact ⟨rfl, rfl⟩
  | left => exact ⟨rfl, rfl⟩

private theorem addsUp_task {view : View} {moment total : Nat} {watch watch' : Watch}
    {trail trail' : Trail} (step : TaskStep view moment watch trail watch' trail')
    (before : AddsUp view.raised total watch trail) :
    AddsUp view.raised total watch' trail' := by
  cases step with
  | blocked => exact before
  | listed task =>
      rcases before with ended | adds
      · rw [task] at ended
        cases ended
      · right
        unfold listsOwed at adds ⊢
        rw [listsDue_listing task] at adds
        have none : listsDue { watch with task := .sending view.current } = 0 := rfl
        rw [none, List.length_append, List.length_singleton]
        dsimp only
        omega
  | sent list task present room =>
      rcases before with ended | adds
      · rw [task] at ended
        cases ended
      · right
        unfold listsOwed at adds ⊢
        rw [listsDue_sending task] at adds
        exact adds
  | abandoned list task absent => exact Or.inl rfl
  | woken task unseen =>
      rcases before with ended | adds
      · rw [task] at ended
        cases ended
      · right
        unfold listsOwed at adds ⊢
        rw [listsDue_idle task, if_neg unseen] at adds
        have one : listsDue { watch with task := .listing, seen := view.raised } = 1 := rfl
        rw [one, if_pos rfl]
        exact adds
  | quit task cause => exact Or.inl rfl

private theorem addsUp_step (world : World σ κ) (chronicle : Chronicle σ κ)
    (move : Move σ κ) (number total : Nat) (watch : Watch) (trail : Trail)
    (found : chronicle.watches[number]? = some watch)
    (kept : chronicle.trails[number]? = some trail)
    (before : AddsUp chronicle.raised total watch trail) :
    ∃ watch' trail',
      (chronicle.step world move).watches[number]? = some watch' ∧
      (chronicle.step world move).trails[number]? = some trail' ∧
      AddsUp chronicle.raised total watch' trail' := by
  obtain ⟨watch', trail', found', kept', step⟩ :=
    step_watch world chronicle move number watch trail found kept
  refine ⟨watch', trail', found', kept', ?_⟩
  rcases step with ⟨_own, step⟩ | ⟨_other, step, same⟩
  · exact addsUp_task step before
  · obtain ⟨task, seen⟩ := readerStep_keeps step
    rcases before with ended | adds
    · exact Or.inl (task.trans ended)
    · right
      rw [same, listsOwed_congr chronicle.raised watch watch' task seen]
      exact adds

theorem run_raised_le (world : World σ κ) (moves : List (Move σ κ))
    (chronicle : Chronicle σ κ) : chronicle.raised ≤ (chronicle.run world moves).raised := by
  induction moves generalizing chronicle with
  | nil => exact Nat.le_refl _
  | cons move rest ih =>
      exact Nat.le_trans (step_state world chronicle move).2 (ih (chronicle.step world move))

/-- The counter never falls, so in a run without a notification it stands still at each move. -/
theorem quiet_cons (world : World σ κ) (move : Move σ κ) (moves : List (Move σ κ))
    (chronicle : Chronicle σ κ)
    (quiet : (chronicle.run world (move :: moves)).raised = chronicle.raised) :
    (chronicle.step world move).raised = chronicle.raised ∧
      ((chronicle.step world move).run world moves).raised =
        (chronicle.step world move).raised := by
  have first := (step_state world chronicle move).2
  have later := run_raised_le world moves (chronicle.step world move)
  change ((chronicle.step world move).run world moves).raised = _ at quiet
  omega

private theorem addsUp_run (world : World σ κ) (moves : List (Move σ κ))
    (chronicle : Chronicle σ κ) (number total : Nat) (watch : Watch) (trail : Trail)
    (found : chronicle.watches[number]? = some watch)
    (kept : chronicle.trails[number]? = some trail)
    (quiet : (chronicle.run world moves).raised = chronicle.raised)
    (before : AddsUp chronicle.raised total watch trail) :
    ∃ watch' trail',
      (chronicle.run world moves).watches[number]? = some watch' ∧
      (chronicle.run world moves).trails[number]? = some trail' ∧
      AddsUp chronicle.raised total watch' trail' := by
  induction moves generalizing chronicle watch trail with
  | nil => exact ⟨watch, trail, found, kept, before⟩
  | cons move rest ih =>
      obtain ⟨next, nextTrail, nextFound, nextKept, nextAdds⟩ :=
        addsUp_step world chronicle move number total watch trail found kept before
      obtain ⟨same, rest⟩ := quiet_cons world move rest chronicle quiet
      rw [← same] at nextAdds ⊢
      exact ih (chronicle.step world move) next nextTrail nextFound nextKept rest nextAdds

private theorem run_without_task (world : World σ κ) (moves : List (Move σ κ))
    (chronicle : Chronicle σ κ) (number : Nat) (watch : Watch) (trail : Trail)
    (found : chronicle.watches[number]? = some watch)
    (kept : chronicle.trails[number]? = some trail)
    (still : ∀ branch, .runTask number branch ∉ moves) :
    ∃ watch',
      (chronicle.run world moves).watches[number]? = some watch' ∧
      (chronicle.run world moves).trails[number]? = some trail ∧
      watch'.task = watch.task ∧ watch'.seen = watch.seen := by
  induction moves generalizing chronicle watch with
  | nil => exact ⟨watch, found, kept, rfl, rfl⟩
  | cons move rest ih =>
      obtain ⟨next, nextTrail, nextFound, nextKept, step⟩ :=
        step_watch world chronicle move number watch trail found kept
      rcases step with ⟨⟨branch, same⟩, _step⟩ | ⟨_other, step, same⟩
      · subst same
        exact absurd List.mem_cons_self (still branch)
      · subst same
        obtain ⟨task, seen⟩ := readerStep_keeps step
        obtain ⟨last, lastFound, lastKept, lastTask, lastSeen⟩ :=
          ih (chronicle.step world move) next nextFound nextKept
            (fun branch member => still branch (List.mem_cons_of_mem _ member))
        exact ⟨last, lastFound, lastKept, lastTask.trans task, lastSeen.trans seen⟩

/-! ### How a task comes to its rest -/

theorem resting_seen {view : View} {watch : Watch} (resting : IsResting view watch) :
    view.stopped = false ∧ watch.readerPresent = true ∧ watch.seen = view.raised := by
  refine ⟨resting.2 .stop, ?_, ?_⟩
  · simpa [Watch.isReady] using resting.2 .departure
  · simpa [Watch.isReady] using resting.2 .notification

theorem resting_of_seen {view : View} {seen : Nat} {queue : List (List Device)}
    (unstopped : view.stopped = false) (same : seen = view.raised) :
    IsResting view ⟨.idle, seen, queue, true⟩ := by
  refine ⟨rfl, ?_⟩
  intro branch
  cases branch with
  | stop => exact unstopped
  | departure => rfl
  | notification => simp [Watch.isReady, same]

def stepsToRest (raised : Nat) (watch : Watch) : Nat :=
  (match watch.task with
    | .listing => 2
    | .sending _ => 1
    | _ => 0) + if watch.seen = raised then 0 else 3

def attend (number : Nat) : List (Move σ κ) := [.read number, .runTask number .notification]

private def attended (view : View) (watch : Watch) : Watch :=
  (watch.receive.2.step (Watch.onlyBranch? .notification) view).getD watch.receive.2

private theorem receive_room (watch : Watch)
    (room : watch.queue.length ≤ Kubelet.queueCapacity) :
    ∃ queue, watch.receive.2 = { watch with queue } ∧
      queue.length < Kubelet.queueCapacity := by
  unfold Watch.receive
  split
  · rename_i list rest taken
    rw [taken, List.length_cons] at room
    exact ⟨rest, rfl, room⟩
  · rename_i empty
    refine ⟨[], ?_, by decide⟩
    rw [← empty]

private theorem attended_progress (view : View) (watch : Watch)
    (present : watch.readerPresent = true)
    (room : watch.queue.length ≤ Kubelet.queueCapacity) (running : watch.task ≠ .ended)
    (away : stepsToRest view.raised watch ≠ 0) :
    (attended view watch).readerPresent = true ∧
      stepsToRest view.raised (attended view watch) < stepsToRest view.raised watch := by
  obtain ⟨queue, received, space⟩ := receive_room watch room
  unfold attended
  rw [received]
  obtain ⟨task, seen, old, reader⟩ := watch
  dsimp only at present
  subst present
  cases task with
  | listing => exact ⟨rfl, Nat.add_lt_add_right (by decide : 1 < 2) _⟩
  | sending list =>
      simp only [Watch.step, Bool.not_true, Bool.false_eq_true, if_false, if_pos space,
        Option.getD_some, stepsToRest]
      exact ⟨trivial, by omega⟩
  | idle =>
      by_cases upToDate : seen = view.raised
      · exact absurd (by simp [stepsToRest, upToDate]) away
      · have ready : Watch.isReady view ⟨.idle, seen, queue, true⟩ .notification = true := by
          simpa [Watch.isReady] using upToDate
        simp only [Watch.step, Watch.onlyBranch?, if_pos ready, Option.map_some,
          Option.getD_some, Watch.wake, stepsToRest, if_pos, if_neg upToDate]
        exact ⟨trivial, by omega⟩
  | ended => exact absurd rfl running

private theorem resting_of_no_steps (view : View) (watch : Watch)
    (unstopped : view.stopped = false) (present : watch.readerPresent = true)
    (running : watch.task ≠ .ended) (none : stepsToRest view.raised watch = 0) :
    IsResting view watch := by
  unfold stepsToRest at none
  have seen : watch.seen = view.raised := by
    by_cases same : watch.seen = view.raised
    · exact same
    · rw [if_neg same] at none
      omega
  have idle : watch.task = .idle := by
    cases task : watch.task with
    | listing => simp [task] at none
    | sending list => simp [task] at none
    | idle => rfl
    | ended => exact absurd task running
  refine ⟨idle, ?_⟩
  intro branch
  cases branch with
  | stop => exact unstopped
  | departure => simp [Watch.isReady, present]
  | notification => simp [Watch.isReady, seen]

theorem step_read (world : World σ κ) (chronicle : Chronicle σ κ) (number : Nat)
    (watch : Watch) (found : chronicle.watches[number]? = some watch) :
    (chronicle.step world (.read number)).watches[number]? = some watch.receive.2 ∧
      (chronicle.step world (.read number)).view = chronicle.view := by
  have inside : number < chronicle.course.node.watches.length :=
    (List.getElem?_eq_some_iff.mp found).1
  change chronicle.course.node.watches[number]? = some watch at found
  simp only [Chronicle.step, Chronicle.watches, Chronicle.view, Course.step, Node.read, found,
    Option.map_some, Option.getD_some]
  exact ⟨List.getElem?_set_self inside, rfl⟩

private theorem attend_watch (world : World σ κ) (chronicle : Chronicle σ κ) (number : Nat)
    (watch : Watch) (found : chronicle.watches[number]? = some watch) :
    (chronicle.run world (attend number)).watches[number]? =
        some (attended chronicle.view watch) ∧
      (chronicle.run world (attend number)).view = chronicle.view := by
  obtain ⟨received, view⟩ := step_read world chronicle number watch found
  generalize read : chronicle.step world (.read number) = taken at received view
  have unfolded : chronicle.run world (attend number) =
      taken.step world (.runTask number .notification) := by
    rw [← read]
    rfl
  rw [unfolded]
  refine ⟨?_, view⟩
  change taken.course.node.watches[number]? = some watch.receive.2 at received
  change (taken.course.node.watches.modify number _)[number]? = _
  rw [List.getElem?_modify_eq, received]
  change some _ = some _
  rw [← view]
  rfl

theorem followed_of_open {chronicle : Chronicle σ κ}
    (followable : Followable chronicle) {number : Nat} {watch : Watch}
    (found : chronicle.watches[number]? = some watch) :
    ∃ trail, chronicle.trails[number]? = some trail ∧ Followed chronicle watch trail := by
  have inside : number < chronicle.trails.length := by
    rw [followable.paired]
    exact (List.getElem?_eq_some_iff.mp found).1
  exact ⟨_, List.getElem?_eq_getElem inside,
    followable.followed number watch _ found (List.getElem?_eq_getElem inside)⟩

private theorem running_of_followed {chronicle : Chronicle σ κ} {watch : Watch} {trail : Trail}
    (followed : Followed chronicle watch trail) (unstopped : chronicle.view.stopped = false)
    (present : watch.readerPresent = true) : watch.task ≠ .ended := by
  intro ended
  rcases followed.ended ended with stopped | absent
  · rw [unstopped] at stopped
    cases stopped
  · rw [present] at absent
    cases absent

/-- A task that is neither stopped nor left by its reader comes to its rest if it is attended. -/
theorem rest_attended (world : World σ κ) (steps : Nat) (chronicle : Chronicle σ κ)
    (followable : Followable chronicle) (number : Nat) (watch : Watch)
    (found : chronicle.watches[number]? = some watch)
    (unstopped : chronicle.view.stopped = false) (present : watch.readerPresent = true)
    (close : stepsToRest chronicle.raised watch ≤ steps) :
    ∃ moves watch', moves ⊆ attend number ∧
      (chronicle.run world moves).view = chronicle.view ∧
      (chronicle.run world moves).watches[number]? = some watch' ∧
      IsResting chronicle.view watch' := by
  induction steps generalizing chronicle watch with
  | zero =>
      obtain ⟨_trail, _kept, followed⟩ := followed_of_open followable found
      have running := running_of_followed followed unstopped present
      exact ⟨[], watch, List.nil_subset _, rfl, found, resting_of_no_steps chronicle.view watch
        unstopped present running (Nat.le_zero.mp close)⟩
  | succ steps ih =>
      obtain ⟨_trail, _kept, followed⟩ := followed_of_open followable found
      have running := running_of_followed followed unstopped present
      by_cases none : stepsToRest chronicle.raised watch = 0
      · exact ⟨[], watch, List.nil_subset _, rfl, found, resting_of_no_steps chronicle.view watch
          unstopped present running none⟩
      · obtain ⟨stays, closer⟩ :=
          attended_progress chronicle.view watch present followed.room running none
        obtain ⟨nextFound, sameView⟩ := attend_watch world chronicle number watch found
        have sameRaised : (chronicle.run world (attend number)).raised = chronicle.raised :=
          congrArg View.raised sameView
        have closeNext : stepsToRest (chronicle.run world (attend number)).raised
            (attended chronicle.view watch) ≤ steps := by
          rw [sameRaised]
          change _ < stepsToRest chronicle.raised watch at closer
          exact Nat.le_of_lt_succ (Nat.lt_of_lt_of_le closer close)
        obtain ⟨moves, last, attends, view, lastFound, resting⟩ :=
          ih (chronicle.run world (attend number)) (followable_run world _ chronicle followable)
            (attended chronicle.view watch) nextFound (by rw [sameView]; exact unstopped) stays
            closeNext
        rw [sameView] at view resting
        refine ⟨attend number ++ moves, last,
          List.append_subset.mpr ⟨List.Subset.refl _, attends⟩, ?_⟩
        rw [Chronicle.run_append]
        exact ⟨view, lastFound, resting⟩

theorem rest_reached (world : World σ κ) (steps : Nat) (chronicle : Chronicle σ κ)
    (followable : Followable chronicle) (number : Nat) (watch : Watch)
    (found : chronicle.watches[number]? = some watch)
    (unstopped : chronicle.view.stopped = false) (present : watch.readerPresent = true)
    (close : stepsToRest chronicle.raised watch ≤ steps) :
    ∃ moves watch', (chronicle.run world moves).raised = chronicle.raised ∧
      (chronicle.run world moves).watches[number]? = some watch' ∧
      IsResting (chronicle.run world moves).view watch' := by
  obtain ⟨moves, last, _, view, lastFound, resting⟩ := rest_attended world steps chronicle
    followable number watch found unstopped present close
  refine ⟨moves, last, congrArg View.raised view, lastFound, ?_⟩
  rw [view]
  exact resting

/-! ### One list for all notifications in between -/

private theorem resting_owes_nothing {raised : Nat} {view : View} {watch : Watch}
    (same : view.raised = raised) (resting : IsResting view watch) :
    listsOwed raised watch = 0 := by
  unfold listsOwed
  rw [listsDue_idle resting.1, if_pos ((resting_seen resting).2.2.trans same)]

/-- Notifications before a task runs again make it compute one list more than it was about
to compute anyway. -/
theorem lists_after_notifications (world : World σ κ) (chronicle : Chronicle σ κ)
    (followable : Followable chronicle) (number : Nat) (watch : Watch) (trail : Trail)
    (found : chronicle.watches[number]? = some watch)
    (kept : chronicle.trails[number]? = some trail) (between later : List (Move σ κ))
    (still : ∀ branch, .runTask number branch ∉ between)
    (notified : chronicle.raised < (chronicle.run world between).raised)
    (quiet : ((chronicle.run world between).run world later).raised =
      (chronicle.run world between).raised)
    (last : Watch) (lastTrail : Trail)
    (lastFound : ((chronicle.run world between).run world later).watches[number]? = some last)
    (lastKept : ((chronicle.run world between).run world later).trails[number]? = some lastTrail)
    (resting : IsResting ((chronicle.run world between).run world later).view last) :
    lastTrail.computed.length = trail.computed.length + listsDue watch + 1 := by
  obtain ⟨next, nextFound, nextKept, task, seen⟩ :=
    run_without_task world between chronicle number watch trail found kept still
  have unseen : next.seen ≠ (chronicle.run world between).raised := by
    have before := (followable.followed number watch trail found kept).seen
    omega
  have owed : listsOwed (chronicle.run world between).raised next = listsDue watch + 1 := by
    unfold listsOwed listsDue
    rw [if_neg unseen, task]
  obtain ⟨_, _, sameFound, sameKept, adds⟩ :=
    addsUp_run world later (chronicle.run world between) number
      (trail.computed.length + (listsDue watch + 1)) next trail nextFound nextKept quiet
      (Or.inr (by rw [owed]))
  rw [lastFound] at sameFound
  rw [lastKept] at sameKept
  cases sameFound
  cases sameKept
  rcases adds with ended | adds
  · rw [resting.1] at ended
    cases ended
  · rw [resting_owes_nothing quiet resting] at adds
    omega

/-- No health notification is lost on a watch and none is answered twice.  A task has
computed at most one list more than notifications were raised since it was opened; a
resting task has last sent the device list of a snapshot not older than that of the
latest notification; and all notifications raised before a task runs again cause one
list, which the task comes to compute if it is let. -/
theorem notifications_neither_lost_nor_doubled (world : World σ κ) (name : String)
    (inventory : Inventory) (raised : Nat) (provider : σ) (cluster : κ)
    (moves : List (Move σ κ)) :
    let chronicle := (Chronicle.start name inventory raised provider cluster).run world moves
    chronicle.trails.length = chronicle.watches.length ∧
    ∀ (number : Nat) (watch : Watch) (trail : Trail),
      chronicle.watches[number]? = some watch → chronicle.trails[number]? = some trail →
      trail.computed.length ≤ 1 + (chronicle.raised - trail.raisedBefore) ∧
      (IsResting chronicle.view watch →
        ∃ listing snapshot, trail.computed.getLast? = some listing ∧
          trail.sent.getLast? = some listing.devices ∧
          chronicle.notified ≤ listing.moment ∧
          chronicle.snapshotAt listing.moment = some snapshot ∧
          listing.devices = Kubelet.deviceList ⟨chronicle.inventory.family, snapshot⟩) ∧
      ∀ between : List (Move σ κ), (∀ branch, .runTask number branch ∉ between) →
        let notified := chronicle.run world between
        chronicle.raised < notified.raised →
        (∀ (later : List (Move σ κ)) (last : Watch) (lastTrail : Trail),
          let final := notified.run world later
          final.raised = notified.raised → final.watches[number]? = some last →
          final.trails[number]? = some lastTrail → IsResting final.view last →
          lastTrail.computed.length = trail.computed.length + listsDue watch + 1) ∧
        ∀ next : Watch, notified.watches[number]? = some next →
          notified.view.stopped = false → next.readerPresent = true →
          ∃ (later : List (Move σ κ)) (last : Watch),
            (notified.run world later).raised = notified.raised ∧
            (notified.run world later).watches[number]? = some last ∧
            IsResting (notified.run world later).view last := by
  intro chronicle
  have followable : Followable chronicle :=
    followable_run world moves _ (followable_start name inventory raised provider cluster)
  refine ⟨followable.paired, ?_⟩
  intro number watch trail found kept
  have followed := followable.followed number watch trail found kept
  refine ⟨?_, ?_, ?_⟩
  · have counted := followed.counted
    have seen := followed.seen
    omega
  · intro resting
    obtain ⟨listing, last, sent, recent, snapshot, current, devices⟩ :=
      resting_last followed resting
    exact ⟨listing, snapshot, last, sent, recent, current, devices⟩
  · intro between still notified more
    refine ⟨?_, ?_⟩
    · intro later last lastTrail final quiet lastFound lastKept resting
      exact lists_after_notifications world chronicle followable number watch trail found kept
        between later still more quiet last lastTrail lastFound lastKept resting
    · intro next nextFound unstopped present
      exact rest_reached world _ notified (followable_run world between chronicle followable)
        number next nextFound unstopped present (Nat.le_refl _)

private def quietWorld : World Inventory.Script Cluster.Stage :=
  ⟨Inventory.scripted, Cluster.staged, fun _ stage => stage, fun _ _ => none⟩

private def oneDevice : Inventory :=
  ⟨⟨"910B3", "Ascend910B3", "npu", 65536, 65536, 20, none, []⟩,
    [⟨"npu-0", 0, 0, 0, 0, 65536, 20, 0, true⟩]⟩

/-- A watch that sends the one device, then, after two notifications at once, none. -/
private def watched : Chronicle Inventory.Script Cluster.Stage :=
  (Chronicle.start "node" oneDevice 0 (.quiet "910B3") ⟨[], [], 0, []⟩).run quietWorld
    [.subscribe, .runTask 0 .stop, .refresh, .notify, .notify, .runTask 0 .stop,
      .runTask 0 .notification, .runTask 0 .stop, .runTask 0 .stop]

private def noticed : Chronicle Inventory.Script Cluster.Stage :=
  watched.run quietWorld [.notify, .read 0, .notify]

private def answered : Chronicle Inventory.Script Cluster.Stage :=
  noticed.run quietWorld [.runTask 0 .notification, .runTask 0 .stop, .runTask 0 .stop]

theorem notifications_on_one_watch :
    let first := Kubelet.deviceList oneDevice
    let trail : Trail := ⟨0, [⟨1, first⟩, ⟨7, []⟩], [first, []]⟩
    let watch : Watch := ⟨.idle, 2, [first, []], true⟩
    (watched.watches[0]? = some watch ∧ watched.trails[0]? = some trail ∧
      IsResting watched.view watch ∧ watched.raised < noticed.raised) ∧
    trail.computed.length ≤ 1 + (watched.raised - trail.raisedBefore) ∧
    (∃ listing snapshot, trail.computed.getLast? = some listing ∧
      trail.sent.getLast? = some listing.devices ∧ watched.notified ≤ listing.moment ∧
      watched.snapshotAt listing.moment = some snapshot ∧
      listing.devices = Kubelet.deviceList ⟨watched.inventory.family, snapshot⟩) ∧
    (∃ lastTrail, answered.trails[0]? = some lastTrail ∧ lastTrail.computed.length = 3) ∧
    ∃ (later : List (Move Inventory.Script Cluster.Stage)) (last : Watch),
      (noticed.run quietWorld later).raised = noticed.raised ∧
      (noticed.run quietWorld later).watches[0]? = some last ∧
      IsResting (noticed.run quietWorld later).view last := by
  intro first trail watch
  have found : watched.watches[0]? = some watch := rfl
  have kept : watched.trails[0]? = some trail := rfl
  have resting : IsResting watched.view watch := resting_of_seen rfl rfl
  have more : watched.raised < noticed.raised := by
    change 2 < 4
    decide
  obtain ⟨few, last, further⟩ :=
    (notifications_neither_lost_nor_doubled quietWorld "node" oneDevice 0 (.quiet "910B3")
      ⟨[], [], 0, []⟩
      [.subscribe, .runTask 0 .stop, .refresh, .notify, .notify, .runTask 0 .stop,
        .runTask 0 .notification, .runTask 0 .stop, .runTask 0 .stop]).2 0 watch trail found kept
  obtain ⟨one, reached⟩ := further [.notify, .read 0, .notify] (by simp) more
  refine ⟨⟨found, kept, resting, more⟩, few, last resting, ?_, ?_⟩
  · exact ⟨_, rfl, one [.runTask 0 .notification, .runTask 0 .stop, .runTask 0 .stop]
      ⟨.idle, 4, [[], []], true⟩ _ rfl rfl rfl (resting_of_seen rfl rfl)⟩
  · exact reached ⟨.idle, 2, [[]], true⟩ rfl rfl rfl

end Node
end VirtualNpu
