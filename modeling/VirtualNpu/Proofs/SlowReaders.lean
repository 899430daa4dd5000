import VirtualNpu.Node.Delivery
import VirtualNpu.Proofs.HealthConvergence
import VirtualNpu.Proofs.WatchNotifications

/-!
Readers that do not keep up with the notifications.  Each list that a task computes is handed
to the reader, in the queue or waiting for room in it, and what a reader can still be handed
without a further notification never adds up to more than six lists.
-/

namespace VirtualNpu
namespace Node

open Kubelet (Device View Watch)

variable {σ κ : Type}

/-! ### Where the computed lists are -/

/-- The lists handed to a reader are the first that were computed, and the rest are on their
way as long as there is a reader. -/
structure Conserved (watch : Watch) (trail : Trail) (received : List (List Device)) : Prop where
  inOrder : received <+: trail.computed.map Listing.devices
  whole : watch.readerPresent = true →
    trail.computed.map Listing.devices = received ++ watch.queue ++ waiting watch.task
  dropped : watch.readerPresent = false → watch.queue = []

private theorem conserved_opened (raised : Nat) :
    Conserved (.opened raised) (.start raised) [] :=
  ⟨List.prefix_rfl, fun _ => rfl, fun _ => rfl⟩

private theorem conserved_task {view : View} {moment : Nat} {watch watch' : Watch}
    {trail trail' : Trail} {received : List (List Device)}
    (step : TaskStep view moment watch trail watch' trail')
    (before : Conserved watch trail received) : Conserved watch' trail' received := by
  have whole := before.whole
  cases step with
  | blocked => exact before
  | listed task =>
      rw [task] at whole
      refine ⟨?_, ?_, before.dropped⟩
      · rw [List.map_append]
        exact before.inOrder.trans (List.prefix_append _ _)
      · intro present
        rw [List.map_append, whole present]
        change received ++ watch.queue ++ [] ++ [view.current] = _
        rw [List.append_nil]
        rfl
  | sent list task present room =>
      rw [task] at whole
      refine ⟨before.inOrder, ?_, ?_⟩
      · intro _
        rw [whole present, List.append_assoc]
        exact (List.append_nil _).symm
      · intro absent
        rw [present] at absent
        cases absent
  | abandoned list task absent =>
      refine ⟨before.inOrder, ?_, before.dropped⟩
      intro present
      rw [absent] at present
      cases present
  | woken task unseen =>
      rw [task] at whole
      exact ⟨before.inOrder, whole, before.dropped⟩
  | quit task cause =>
      rw [task] at whole
      exact ⟨before.inOrder, whole, before.dropped⟩

private theorem conserved_move {number : Nat} {view : View} {moment : Nat}
    {watch watch' : Watch} {trail trail' : Trail} {move : Move σ κ}
    {list : Option (List Device)} {received : List (List Device)}
    (moved : WatchMove number view moment watch trail move list watch' trail')
    (before : Conserved watch trail received) :
    Conserved watch' trail' (received ++ list.toList) := by
  cases moved with
  | stood others =>
      rw [Option.toList_none, List.append_nil]
      exact before
  | ran branch step =>
      rw [Option.toList_none, List.append_nil]
      exact conserved_task step before
  | took list rest queue =>
      have present : watch.readerPresent = true := by
        cases gone : watch.readerPresent with
        | true => rfl
        | false =>
            have none := before.dropped gone
            rw [queue] at none
            cases none
      have whole : trail.computed.map Listing.devices =
          received ++ [list] ++ rest ++ waiting watch.task := by
        rw [before.whole present, queue]
        simp
      refine ⟨?_, fun _ => whole, ?_⟩
      · rw [whole, List.append_assoc]
        exact List.prefix_append _ _
      · intro absent
        change watch.readerPresent = false at absent
        rw [present] at absent
        cases absent
  | left =>
      rw [Option.toList_none, List.append_nil]
      exact ⟨before.inOrder, fun present => Bool.noConfusion present, fun _ => rfl⟩

/-- The readers of a watch that is not yet open have got nothing. -/
structure Delivering (chronicle : Chronicle σ κ) (number : Nat)
    (received : List (List Device)) : Prop where
  paired : chronicle.trails.length = chronicle.watches.length
  unopened : chronicle.watches[number]? = none → received = []
  conserved : ∀ watch trail, chronicle.watches[number]? = some watch →
    chronicle.trails[number]? = some trail → Conserved watch trail received

theorem delivering_step (world : World σ κ) (chronicle : Chronicle σ κ) (move : Move σ κ)
    {number : Nat} {received : List (List Device)}
    (before : Delivering chronicle number received) :
    Delivering (chronicle.step world move) number
      (received ++ (handed? chronicle.course number move).toList) := by
  have paired := step_trails_length world chronicle move before.paired
  cases found : chronicle.watches[number]? with
  | none =>
      rw [before.unopened found, handed?_unopened chronicle.course number move found]
      refine ⟨paired, fun _ => rfl, ?_⟩
      intro watch trail opened started
      obtain ⟨rfl, rfl⟩ := step_opened world chronicle move before.paired number watch trail
        (List.getElem?_eq_none_iff.mp found) opened started
      exact conserved_opened _
  | some watch =>
      have inside := (List.getElem?_eq_some_iff.mp found).1
      obtain ⟨trail, kept⟩ : ∃ trail, chronicle.trails[number]? = some trail :=
        ⟨_, List.getElem?_eq_getElem (by rw [before.paired]; exact inside)⟩
      obtain ⟨watch', trail', found', kept', moved⟩ :=
        step_watchMove world chronicle move number watch trail found kept
      refine ⟨paired, ?_, ?_⟩
      · intro gone
        rw [found'] at gone
        cases gone
      · intro next nextTrail nextFound nextKept
        rw [found'] at nextFound
        rw [kept'] at nextKept
        cases nextFound
        cases nextKept
        exact conserved_move moved (before.conserved watch trail found kept)

theorem delivering_run (world : World σ κ) (moves : List (Move σ κ)) (chronicle : Chronicle σ κ)
    {number : Nat} {received : List (List Device)}
    (before : Delivering chronicle number received) :
    Delivering (chronicle.run world moves) number
      (received ++ delivered world number chronicle.course moves) := by
  induction moves generalizing chronicle received with
  | nil =>
      rw [delivered, List.append_nil]
      exact before
  | cons move moves ih =>
      rw [delivered, ← List.append_assoc]
      exact ih (chronicle.step world move) (delivering_step world chronicle move before)

theorem delivering_start (name : String) (inventory : Inventory) (raised : Nat)
    (provider : σ) (cluster : κ) (number : Nat) :
    Delivering (Chronicle.start name inventory raised provider cluster) number [] := by
  refine ⟨rfl, fun _ => rfl, ?_⟩
  intro watch trail found
  cases found

/-! ### What is still to come -/

/-- The lists that a reader can be handed without a further notification. -/
def outstanding (raised : Nat) (watch : Watch) : Nat :=
  watch.queue.length + (waiting watch.task).length + listsOwed raised watch

theorem outstanding_le (raised : Nat) (watch : Watch)
    (room : watch.queue.length ≤ Kubelet.queueCapacity) : outstanding raised watch ≤ 6 := by
  have due : (waiting watch.task).length + listsDue watch ≤ 1 := by
    unfold waiting listsDue
    cases watch.task <;> simp
  have unseen : (if watch.seen = raised then 0 else 1) ≤ 1 := by
    split <;> omega
  change _ ≤ 4 at room
  unfold outstanding listsOwed
  omega

private theorem outstanding_task {view : View} {moment : Nat} {watch watch' : Watch}
    {trail trail' : Trail} (step : TaskStep view moment watch trail watch' trail') :
    outstanding view.raised watch' ≤ outstanding view.raised watch := by
  unfold outstanding listsOwed
  cases step with
  | blocked => exact Nat.le_refl _
  | listed task =>
      rw [listsDue_listing task, task]
      simp only [waiting, listsDue, List.length_nil, List.length_singleton, reduceCtorEq, if_false]
      omega
  | sent list task present room =>
      rw [listsDue_sending task, task]
      simp only [waiting, listsDue, List.length_nil, List.length_append, List.length_singleton,
        reduceCtorEq, if_false]
      omega
  | abandoned list task absent =>
      rw [listsDue_sending task, task]
      simp only [waiting, listsDue, List.length_nil, List.length_singleton, reduceCtorEq, if_false]
      omega
  | woken task unseen =>
      rw [listsDue_idle task, task, if_neg unseen]
      simp only [waiting, listsDue, if_true]
      omega
  | quit task cause =>
      rw [listsDue_idle task, task]
      simp only [waiting, listsDue, reduceCtorEq, if_false]
      omega

private theorem outstanding_move {number : Nat} {view : View} {moment : Nat}
    {watch watch' : Watch} {trail trail' : Trail} {move : Move σ κ}
    {list : Option (List Device)}
    (moved : WatchMove number view moment watch trail move list watch' trail') :
    list.toList.length + outstanding view.raised watch' ≤ outstanding view.raised watch := by
  cases moved with
  | stood others => exact Nat.le_of_eq (Nat.zero_add _)
  | ran branch step =>
      rw [Option.toList_none, List.length_nil, Nat.zero_add]
      exact outstanding_task step
  | took list rest queue =>
      have owed : listsOwed view.raised { watch with queue := rest } =
          listsOwed view.raised watch := rfl
      unfold outstanding
      rw [owed, queue, Option.toList_some, List.length_singleton, List.length_cons]
      dsimp only
      omega
  | left =>
      have owed : listsOwed view.raised watch.depart = listsOwed view.raised watch := rfl
      unfold outstanding
      rw [owed, Option.toList_none, List.length_nil]
      dsimp only [Watch.depart, List.length_nil]
      omega

theorem outstanding_run (world : World σ κ) (moves : List (Move σ κ)) (chronicle : Chronicle σ κ)
    (number : Nat) (watch : Watch) (trail : Trail)
    (found : chronicle.watches[number]? = some watch)
    (kept : chronicle.trails[number]? = some trail)
    (quiet : (chronicle.run world moves).raised = chronicle.raised) :
    (delivered world number chronicle.course moves).length ≤ outstanding chronicle.raised watch := by
  induction moves generalizing chronicle watch trail with
  | nil => exact Nat.zero_le _
  | cons move moves ih =>
      obtain ⟨next, nextTrail, nextFound, nextKept, moved⟩ :=
        step_watchMove world chronicle move number watch trail found kept
      have spent := outstanding_move moved
      change _ + outstanding chronicle.raised next ≤ outstanding chronicle.raised watch at spent
      obtain ⟨same, still⟩ := quiet_cons world move moves chronicle quiet
      have rest := ih (chronicle.step world move) next nextTrail nextFound nextKept still
      rw [same] at rest
      rw [delivered, List.length_append]
      exact Nat.le_trans (Nat.add_le_add_left rest _) spent

/-! ### When the reader has caught up -/

/-- Whether the reader of a watch finds nothing, and will find nothing as things stand: its task
is there and cannot go on. -/
def IsDrained (view : View) (watch : Watch) : Prop :=
  watch.receive.1 = .pending ∧
    ∀ branch, watch.step (Watch.onlyBranch? branch) view = none

theorem isDrained_iff (view : View) (watch : Watch) :
    IsDrained view watch ↔ watch.queue = [] ∧ IsResting view watch := by
  have : Nonempty Kubelet.Branch := ⟨.stop⟩
  obtain ⟨task, seen, queue, present⟩ := watch
  cases queue with
  | cons list rest => simp [IsDrained, Watch.receive]
  | nil =>
      cases task with
      | listing => simp [IsDrained, IsResting, Watch.step]
      | sending list =>
          cases present <;> simp [IsDrained, IsResting, Watch.step, Kubelet.queueCapacity]
      | idle =>
          simp [IsDrained, IsResting, Watch.receive, Watch.isLive, Watch.step, Watch.onlyBranch?]
      | ended => simp [IsDrained, IsResting, Watch.receive, Watch.isLive]

private theorem reads_drain (world : World σ κ) (queue : List (List Device))
    (chronicle : Chronicle σ κ) (number : Nat) (watch : Watch)
    (found : chronicle.watches[number]? = some { watch with queue }) :
    (chronicle.run world (List.replicate queue.length (.read number))).watches[number]? =
        some { watch with queue := [] } ∧
      (chronicle.run world (List.replicate queue.length (.read number))).view =
        chronicle.view := by
  induction queue generalizing chronicle with
  | nil => exact ⟨found, rfl⟩
  | cons list rest ih =>
      obtain ⟨taken, view⟩ := step_read world chronicle number _ found
      obtain ⟨last, same⟩ := ih (chronicle.step world (.read number)) taken
      exact ⟨last, same.trans view⟩

theorem drain_reached (world : World σ κ) (chronicle : Chronicle σ κ)
    (followable : Followable chronicle) (number : Nat) (watch : Watch)
    (found : chronicle.watches[number]? = some watch)
    (unstopped : chronicle.view.stopped = false) (present : watch.readerPresent = true) :
    ∃ moves last, moves ⊆ attend number ∧
      (chronicle.run world moves).watches[number]? = some last ∧
      IsDrained (chronicle.run world moves).view last := by
  obtain ⟨moves, last, attends, view, lastFound, resting⟩ := rest_attended world _ chronicle
    followable number watch found unstopped present (Nat.le_refl _)
  obtain ⟨drained, same⟩ :=
    reads_drain world last.queue (chronicle.run world moves) number last lastFound
  refine ⟨moves ++ List.replicate last.queue.length (.read number), { last with queue := [] },
    ?_, ?_, ?_⟩
  · refine List.append_subset.mpr ⟨attends, ?_⟩
    intro move member
    rw [(List.mem_replicate.mp member).2]
    exact List.mem_cons_self
  · rw [Chronicle.run_append]
    exact drained
  · rw [Chronicle.run_append, same, view, isDrained_iff]
    exact ⟨rfl, resting⟩

theorem attended_quiet (world : World σ κ) (number : Nat) (moves : List (Move σ κ))
    (chronicle : Chronicle σ κ) (attends : moves ⊆ attend number) :
    (chronicle.run world moves).raised = chronicle.raised ∧
      Unrefreshed world chronicle moves := by
  induction moves generalizing chronicle with
  | nil => exact ⟨rfl, trivial⟩
  | cons move moves ih =>
      obtain ⟨first, rest⟩ := List.cons_subset.mp attends
      obtain ⟨quiet, unrefreshed⟩ := ih (chronicle.step world move) rest
      have one : (chronicle.step world move).raised = chronicle.raised ∧
          ¬ Refreshes world chronicle move := by
        rcases List.mem_pair.mp first with rfl | rfl
        · refine ⟨?_, id⟩
          simp only [Chronicle.step, Chronicle.raised, Course.step, Node.read]
          cases chronicle.course.node.watches[number]? <;> rfl
        · exact ⟨rfl, id⟩
      exact ⟨quiet.trans one.1, one.2, unrefreshed⟩

/-! ### Since when the last list is current -/

theorem run_notified (world : World σ κ) (moves : List (Move σ κ)) (chronicle : Chronicle σ κ) :
    ((chronicle.run world moves).raised = chronicle.raised ∧
        (chronicle.run world moves).notified = chronicle.notified) ∨
      (chronicle.raised < (chronicle.run world moves).raised ∧
        chronicle.moment < (chronicle.run world moves).notified) := by
  induction moves generalizing chronicle with
  | nil => exact Or.inl ⟨rfl, rfl⟩
  | cons move moves ih =>
      have more := (step_state world chronicle move).2
      have moment := step_moment world chronicle move
      change (_ ∧ ((chronicle.step world move).run world moves).notified = _) ∨ _
      rcases ih (chronicle.step world move) with ⟨quiet, kept⟩ | ⟨raised, recent⟩
      · by_cases same : (chronicle.step world move).raised = chronicle.raised
        · exact Or.inl ⟨quiet.trans same, kept.trans (step_notified world chronicle move same)⟩
        · have noted : (chronicle.step world move).notified = chronicle.moment + 1 := if_neg same
          right
          change _ < ((chronicle.step world move).run world moves).raised ∧
            _ < ((chronicle.step world move).run world moves).notified
          omega
      · right
        change _ < ((chronicle.step world move).run world moves).raised ∧
          _ < ((chronicle.step world move).run world moves).notified
        omega

theorem run_computed (world : World σ κ) (moves : List (Move σ κ)) (chronicle : Chronicle σ κ)
    (number : Nat) (watch : Watch) (trail : Trail)
    (found : chronicle.watches[number]? = some watch)
    (kept : chronicle.trails[number]? = some trail) :
    ∃ trail', (chronicle.run world moves).trails[number]? = some trail' ∧
      trail.computed <+: trail'.computed := by
  induction moves generalizing chronicle watch trail with
  | nil => exact ⟨trail, kept, List.prefix_rfl⟩
  | cons move moves ih =>
      obtain ⟨next, nextTrail, nextFound, nextKept, step⟩ :=
        step_watch world chronicle move number watch trail found kept
      obtain ⟨last, lastKept, later⟩ := ih (chronicle.step world move) next nextTrail nextFound
        nextKept
      refine ⟨last, lastKept, List.IsPrefix.trans ?_ later⟩
      rcases step with ⟨_, task⟩ | ⟨_, _, same⟩
      · cases task with
        | listed => exact List.prefix_append _ _
        | _ => exact List.prefix_rfl
      · exact ⟨[], by rw [same, List.append_nil]⟩

/-- Everything computed for a drained watch has been handed over. -/
theorem Conserved.drained {view : View} {watch : Watch} {trail : Trail}
    {received : List (List Device)} (conserved : Conserved watch trail received)
    (drained : IsDrained view watch) : trail.computed.map Listing.devices = received := by
  obtain ⟨empty, resting⟩ := (isDrained_iff view watch).mp drained
  have whole := conserved.whole (resting_seen resting).2.1
  rw [empty, resting.1] at whole
  simpa [waiting] using whole

theorem drained_last (world : World σ κ) {chronicle : Chronicle σ κ}
    (followable : Followable chronicle) {number : Nat} {received : List (List Device)}
    (delivering : Delivering chronicle number received) (draining : List (Move σ κ))
    (quiet : (chronicle.run world draining).raised = chronicle.raised)
    (unrefreshed : Unrefreshed world chronicle draining) {last : Watch}
    (found : (chronicle.run world draining).watches[number]? = some last)
    (drained : IsDrained (chronicle.run world draining).view last)
    (current : IsCurrentSince chronicle.inventory chronicle.notified chronicle) :
    ∃ trail listing, (chronicle.run world draining).trails[number]? = some trail ∧
      trail.computed.map Listing.devices =
        received ++ delivered world number chronicle.course draining ∧
      trail.computed.getLast? = some listing ∧ chronicle.notified ≤ listing.moment ∧
      listing.devices = Kubelet.deviceList chronicle.inventory := by
  have followableFinal := followable_run world draining chronicle followable
  have notified : (chronicle.run world draining).notified = chronicle.notified := by
    rcases run_notified world draining chronicle with ⟨_, same⟩ | ⟨more, _⟩
    · exact same
    · omega
  have still := isCurrentSince_run world chronicle.inventory chronicle.notified draining
    chronicle current unrefreshed
  obtain ⟨trail, kept, followed⟩ := followed_of_open followableFinal found
  obtain ⟨listing, lastListing, _sent, recent, _genuine⟩ :=
    resting_last followed ((isDrained_iff _ _).mp drained).2
  rw [notified] at recent
  have conserved := (delivering_run world draining chronicle delivering).conserved last trail
    found kept
  refine ⟨trail, listing, kept, conserved.drained drained, lastListing, recent, ?_⟩
  exact listing_of_isCurrentSince followableFinal still (List.mem_of_getElem? kept)
    (List.mem_of_getLast? lastListing) recent

theorem delivered_short (world : World σ κ) {chronicle : Chronicle σ κ}
    (followable : Followable chronicle) {number : Nat} {received : List (List Device)}
    (delivering : Delivering chronicle number received) (later : List (Move σ κ)) {trail : Trail}
    {listing : Listing}
    (kept : (chronicle.run world later).trails[number]? = some trail)
    (last : trail.computed.getLast? = some listing) (recent : chronicle.moment < listing.moment) :
    received.length < trail.computed.length := by
  have some : trail.computed ≠ [] := by
    intro none
    rw [none] at last
    cases last
  cases found : chronicle.watches[number]? with
  | none =>
      rw [delivering.unopened found]
      exact List.length_pos_of_ne_nil some
  | some watch =>
      obtain ⟨earlier, earlierKept, followed⟩ := followed_of_open followable found
      obtain ⟨trail', kept', grown⟩ :=
        run_computed world later chronicle number watch earlier found earlierKept
      rw [kept] at kept'
      cases kept'
      have few := (delivering.conserved watch earlier found earlierKept).inOrder.length_le
      rw [List.length_map] at few
      rcases Nat.lt_or_ge earlier.computed.length trail.computed.length with less | all
      · exact Nat.lt_of_le_of_lt few less
      · -- Otherwise the list was computed by then, at a moment that had not come yet.
        rw [← grown.eq_of_length (Nat.le_antisymm grown.length_le all)] at last
        obtain ⟨snapshot, past, _⟩ := followed.genuine listing (List.mem_of_getLast? last)
        have inside := (List.getElem?_eq_some_iff.mp past).1
        rw [List.length_append, List.length_singleton] at inside
        change chronicle.earlier.length < _ at recent
        omega

/-- A reader may lag behind as long as it likes.  Four lists are queued for it at most and one
more waits; it is handed the lists as they were computed, none left out and none twice.  When
it reads on until there is nothing for it, which it can unless it is gone or the node stops, it
gets six lists at most if no further notification is raised.  If there is no refresh in the
meantime either, and none has been since the latest notification, then the last list that it
has got is that of the snapshot; and that is among those it gets now, if the notification was
raised while it did not read. -/
theorem slow_reader_catches_up (world : World σ κ) (name : String) (inventory : Inventory)
    (raised : Nat) (provider : σ) (cluster : κ) (moves : List (Move σ κ)) (number : Nat) :
    let start := Chronicle.start name inventory raised provider cluster
    let chronicle := start.run world moves
    let received := delivered world number start.course moves
    ∀ (watch : Watch) (trail : Trail),
      chronicle.watches[number]? = some watch → chronicle.trails[number]? = some trail →
      (watch.queue.length ≤ 4 ∧ (waiting watch.task).length ≤ 1) ∧
      received <+: trail.computed.map Listing.devices ∧
      (watch.readerPresent = true →
        trail.computed.map Listing.devices = received ++ watch.queue ++ waiting watch.task) ∧
      (chronicle.view.stopped = false → watch.readerPresent = true →
        ∃ (draining : List (Move σ κ)) (last : Watch),
          (chronicle.run world draining).raised = chronicle.raised ∧
          Unrefreshed world chronicle draining ∧
          (chronicle.run world draining).watches[number]? = some last ∧
          IsDrained (chronicle.run world draining).view last) ∧
      ∀ draining : List (Move σ κ),
        let final := chronicle.run world draining
        let read := delivered world number chronicle.course draining
        final.raised = chronicle.raised →
        read.length ≤ 6 ∧
        ∀ last : Watch, Unrefreshed world chronicle draining →
          final.watches[number]? = some last → IsDrained final.view last →
          IsCurrentSince chronicle.inventory chronicle.notified chronicle →
          (received ++ read).getLast? = some (Kubelet.deviceList chronicle.inventory) ∧
          ∀ before stalled : List (Move σ κ), moves = before ++ stalled →
            .read number ∉ stalled → (start.run world before).raised < chronicle.raised →
            read.getLast? = some (Kubelet.deviceList chronicle.inventory) := by
  intro start chronicle received watch trail found kept
  have started : Followable start := followable_start name inventory raised provider cluster
  have begun : Delivering start number [] :=
    delivering_start name inventory raised provider cluster number
  have followable : Followable chronicle := followable_run world moves start started
  have delivering : Delivering chronicle number received := delivering_run world moves start begun
  have followed := followable.followed number watch trail found kept
  have conserved := delivering.conserved watch trail found kept
  refine ⟨⟨followed.room, ?_⟩, conserved.inOrder, conserved.whole, ?_, ?_⟩
  · cases watch.task <;> simp [waiting]
  · intro unstopped present
    obtain ⟨draining, last, attends, lastFound, drained⟩ :=
      drain_reached world chronicle followable number watch found unstopped present
    obtain ⟨quiet, unrefreshed⟩ := attended_quiet world number draining chronicle attends
    exact ⟨draining, last, quiet, unrefreshed, lastFound, drained⟩
  · intro draining final read quiet
    have few := outstanding_run world draining chronicle number watch trail found kept quiet
    refine ⟨Nat.le_trans few (outstanding_le chronicle.raised watch followed.room), ?_⟩
    intro last unrefreshed lastFound drained current
    obtain ⟨lastTrail, listing, lastKept, handed, lastListing, recent, devices⟩ :=
      drained_last world followable delivering draining quiet unrefreshed lastFound drained current
    have lastRead : (received ++ read).getLast? = some (Kubelet.deviceList chronicle.inventory) := by
      rw [← handed, List.getLast?_map, lastListing, Option.map_some, devices]
    refine ⟨lastRead, ?_⟩
    intro before stalled split unread raisedSince
    have stalling : chronicle = (start.run world before).run world stalled := by
      rw [← Chronicle.run_append, ← split]
    have nothing : received = delivered world number start.course before := by
      change delivered world number start.course moves = _
      rw [split, delivered_append, delivered_unread world number stalled _ unread,
        List.append_nil]
    have after : (start.run world before).moment < chronicle.notified := by
      rw [stalling] at raisedSince ⊢
      rcases run_notified world stalled (start.run world before) with ⟨same, _⟩ | ⟨_, recent⟩
      · omega
      · exact recent
    have short : received.length < lastTrail.computed.length := by
      rw [nothing]
      refine delivered_short world (followable_run world before start started)
        (delivering_run world before start begun) (stalled ++ draining) ?_ lastListing
        (Nat.lt_of_lt_of_le after recent)
      rw [Chronicle.run_append, ← stalling]
      exact lastKept
    have some : read ≠ [] := by
      intro none
      have all := congrArg List.length handed
      change _ = (received ++ read).length at all
      rw [none, List.append_nil, List.length_map] at all
      omega
    rw [← lastRead, List.getLast?_append_of_ne_nil _ some]

private def laggingWorld : World Inventory.Script Cluster.Stage :=
  ⟨Inventory.scripted, Cluster.staged, fun _ stage => stage, fun _ _ => none⟩

private def oneChip : Inventory :=
  ⟨⟨"910B3", "Ascend910B3", "npu", 65536, 65536, 20, none, []⟩,
    [⟨"npu-0", 0, 0, 0, 0, 65536, 20, 0, true⟩]⟩

private def twoChips : Inventory.Script :=
  { Inventory.Script.quiet "910B3" with
    devices := [(0, ⟨"npu-0", 0, 0, 0, -1, false⟩), (1, ⟨"npu-1", 1, 1, 0, 0, true⟩)] }

private def relist : List (Move Inventory.Script Cluster.Stage) :=
  [.runTask 0 .notification, .runTask 0 .notification, .runTask 0 .notification]

/-- Six notifications without a reading: the queue is full after the third, the fourth has a
list computed that waits, and there is a refresh before the last. -/
private def stall : List (Move Inventory.Script Cluster.Stage) :=
  relist ++ (.notify :: relist) ++ (.notify :: relist) ++ (.notify :: relist) ++
    (.notify :: relist) ++ [.notify, .refresh, .notify]

private def catchUp : List (Move Inventory.Script Cluster.Stage) :=
  [.read 0, .runTask 0 .notification, .runTask 0 .notification, .runTask 0 .notification,
    .read 0, .runTask 0 .notification, .read 0, .read 0, .read 0, .read 0]

private def lagging : Chronicle Inventory.Script Cluster.Stage :=
  (Chronicle.start "node" oneChip 0 twoChips .empty).run laggingWorld ([.subscribe] ++ stall)

theorem six_lists_after_stall :
    let first := Kubelet.deviceList oneChip
    let list : List Device := [⟨"npu-0-0", false, none⟩, ⟨"npu-1-0", true, some 0⟩]
    let read := delivered laggingWorld 0 lagging.course catchUp
    lagging.watches[0]? = some ⟨.sending first, 4, [first, first, first, first], true⟩ ∧
    read = [first, first, first, first, first, list] ∧ read.length ≤ 6 ∧
    read.getLast? = some (Kubelet.deviceList lagging.inventory) := by
  intro first list read
  have found : lagging.watches[0]? =
      some ⟨.sending first, 4, [first, first, first, first], true⟩ := rfl
  obtain ⟨trail, kept⟩ : ∃ trail, lagging.trails[0]? = some trail := ⟨_, rfl⟩
  have claim :=
    slow_reader_catches_up laggingWorld "node" oneChip 0 twoChips .empty ([.subscribe] ++ stall) 0
  have folded : (Chronicle.start "node" oneChip 0 twoChips .empty).run laggingWorld
      ([.subscribe] ++ stall) = lagging := rfl
  dsimp only at claim
  rw [folded] at claim
  obtain ⟨_, _, _, _, caughtUp⟩ := claim _ trail found kept
  obtain ⟨quiet, unrefreshed⟩ :=
    attended_quiet laggingWorld 0 catchUp lagging (by simp [catchUp, attend])
  obtain ⟨few, last⟩ := caughtUp catchUp quiet
  have drainedFound : (lagging.run laggingWorld catchUp).watches[0]? =
      some ⟨.idle, 6, [], true⟩ := rfl
  have drained : IsDrained (lagging.run laggingWorld catchUp).view ⟨.idle, 6, [], true⟩ :=
    (isDrained_iff _ _).mpr ⟨rfl, resting_of_seen rfl rfl⟩
  have now : lagging.notified = lagging.moment := by decide +kernel
  have current : IsCurrentSince lagging.inventory lagging.notified lagging := by
    rw [now]
    exact isCurrentSince_now lagging
  have lists : read = [first, first, first, first, first, list] := rfl
  have raisedSince : 0 < lagging.raised := by
    change 0 < 6
    decide
  have lastRead := (last _ unrefreshed drainedFound drained current).2 [.subscribe] stall rfl
    (by simp [stall, relist]) raisedSince
  exact ⟨found, lists, few, lastRead⟩

end Node
end VirtualNpu
