import VirtualNpu.Proofs.WatchSteps

/-!
No health notification is lost on a watch, and none is answered twice.  The invariant
follows each watch by what its task stands at: the counter that it has seen bounds the
lists that it has computed, and once that counter is the present one its last list is
from a moment not before the latest notification.
-/

namespace VirtualNpu
namespace Node

open Kubelet (Device View Watch)

variable {σ κ : Type}

def IsResting (view : View) (watch : Watch) : Prop :=
  watch.task = .idle ∧ ∀ branch, watch.isReady view branch = false

def listsDue (watch : Watch) : Nat := if watch.task = .listing then 1 else 0

theorem listsDue_listing {watch : Watch} (task : watch.task = .listing) : listsDue watch = 1 :=
  if_pos task

theorem listsDue_sending {watch : Watch} {list : List Device} (task : watch.task = .sending list) :
    listsDue watch = 0 :=
  if_neg (by rw [task]; exact Kubelet.Task.noConfusion)

theorem listsDue_idle {watch : Watch} (task : watch.task = .idle) : listsDue watch = 0 :=
  if_neg (by rw [task]; exact Kubelet.Task.noConfusion)

def HandedOver (trail : Trail) : Kubelet.Task → Prop
  | .listing => trail.sent = trail.computed.map Listing.devices
  | .sending list => trail.computed.map Listing.devices = trail.sent ++ [list]
  | .idle => trail.sent = trail.computed.map Listing.devices
  | .ended => True

def IsGenuine (chronicle : Chronicle σ κ) (listing : Listing) : Prop :=
  ∃ snapshot, chronicle.snapshotAt listing.moment = some snapshot ∧
    listing.devices = Kubelet.deviceList ⟨chronicle.inventory.family, snapshot⟩

def IsCurrent (chronicle : Chronicle σ κ) (trail : Trail) : Prop :=
  ∃ listing, trail.computed.getLast? = some listing ∧ chronicle.notified ≤ listing.moment

structure Followed (chronicle : Chronicle σ κ) (watch : Watch) (trail : Trail) : Prop where
  seen : watch.seen ≤ chronicle.raised
  counted : trail.raisedBefore + trail.computed.length + listsDue watch ≤ watch.seen + 1
  room : watch.queue.length ≤ Kubelet.queueCapacity
  genuine : ∀ listing ∈ trail.computed, IsGenuine chronicle listing
  handedOver : HandedOver trail watch.task
  -- Nothing is known while a task has yet to compute the list that it was woken for.
  current : watch.seen = chronicle.raised → listsDue watch = 0 → watch.task ≠ .ended →
    IsCurrent chronicle trail
  ended : watch.task = .ended →
    chronicle.view.stopped = true ∨ watch.readerPresent = false

structure Followable (chronicle : Chronicle σ κ) : Prop where
  notified : chronicle.notified ≤ chronicle.moment
  paired : chronicle.trails.length = chronicle.watches.length
  followed : ∀ (number : Nat) (watch : Watch) (trail : Trail),
    chronicle.watches[number]? = some watch → chronicle.trails[number]? = some trail →
    Followed chronicle watch trail

/-! ### Moments and snapshots -/

theorem step_moment (world : World σ κ) (chronicle : Chronicle σ κ)
    (move : Move σ κ) : (chronicle.step world move).moment = chronicle.moment + 1 :=
  List.length_append

theorem step_snapshotAt (world : World σ κ) (chronicle : Chronicle σ κ)
    (move : Move σ κ) (moment : Nat) (snapshot : Inventory.Snapshot)
    (found : chronicle.snapshotAt moment = some snapshot) :
    (chronicle.step world move).snapshotAt moment = some snapshot := by
  have inside := (List.getElem?_eq_some_iff.mp found).1
  exact (List.getElem?_append_left inside).trans found

theorem snapshotAt_now (chronicle : Chronicle σ κ) :
    chronicle.snapshotAt chronicle.moment = some chronicle.inventory.snapshot :=
  List.getElem?_concat_length

private theorem genuine_step (world : World σ κ) (chronicle : Chronicle σ κ)
    (move : Move σ κ) (listing : Listing) (genuine : IsGenuine chronicle listing) :
    IsGenuine (chronicle.step world move) listing := by
  obtain ⟨snapshot, found, devices⟩ := genuine
  refine ⟨snapshot, step_snapshotAt world chronicle move _ _ found, ?_⟩
  rw [(step_state world chronicle move).1]
  exact devices

theorem step_notified (world : World σ κ) (chronicle : Chronicle σ κ)
    (move : Move σ κ) (same : (chronicle.step world move).raised = chronicle.raised) :
    (chronicle.step world move).notified = chronicle.notified :=
  if_pos same

private theorem current_step (world : World σ κ) (chronicle : Chronicle σ κ)
    (move : Move σ κ) (trail : Trail)
    (same : (chronicle.step world move).raised = chronicle.raised)
    (current : IsCurrent chronicle trail) : IsCurrent (chronicle.step world move) trail := by
  obtain ⟨listing, last, recent⟩ := current
  refine ⟨listing, last, ?_⟩
  rw [step_notified world chronicle move same]
  exact recent

/-! ### The invariant through a move -/

private theorem followed_kept (world : World σ κ) (chronicle : Chronicle σ κ)
    (move : Move σ κ) (watch watch' : Watch) (trail : Trail)
    (followed : Followed chronicle watch trail) (task : watch'.task = watch.task)
    (seen : watch'.seen = watch.seen) (queue : watch'.queue.length ≤ watch.queue.length)
    (gone : watch.readerPresent = false → watch'.readerPresent = false) :
    Followed (chronicle.step world move) watch' trail := by
  have more := (step_state world chronicle move).2
  have due : listsDue watch' = listsDue watch := by
    unfold listsDue
    rw [task]
  have seenBefore := followed.seen
  refine ⟨?_, ?_, ?_, ?_, ?_, ?_, ?_⟩
  · omega
  · rw [due, seen]
    exact followed.counted
  · exact Nat.le_trans queue followed.room
  · intro listing member
    exact genuine_step world chronicle move listing (followed.genuine listing member)
  · rw [task]
    exact followed.handedOver
  · intro upToDate none running
    have same : (chronicle.step world move).raised = chronicle.raised := by omega
    rw [due] at none
    rw [task] at running
    exact current_step world chronicle move trail same
      (followed.current (by omega) none running)
  · intro ended
    rw [task] at ended
    rcases followed.ended ended with stopped | absent
    · exact Or.inl (step_stopped world chronicle move stopped)
    · exact Or.inr (gone absent)

private theorem followed_reader (world : World σ κ) (chronicle : Chronicle σ κ)
    (move : Move σ κ) (watch watch' : Watch) (trail : Trail)
    (followed : Followed chronicle watch trail) (step : ReaderStep watch watch') :
    Followed (chronicle.step world move) watch' trail := by
  cases step with
  | nothing =>
      exact followed_kept world chronicle move _ _ trail followed rfl rfl (Nat.le_refl _) id
  | took list rest queue =>
      refine followed_kept world chronicle move _ _ trail followed rfl rfl ?_ id
      rw [queue, List.length_cons]
      exact Nat.le_succ _
  | left =>
      exact followed_kept world chronicle move _ _ trail followed rfl rfl (Nat.zero_le _)
        fun _ => rfl

private theorem followed_task (world : World σ κ) (chronicle : Chronicle σ κ)
    (number : Nat) (branch : Kubelet.Branch) (watch watch' : Watch) (trail trail' : Trail)
    (recent : chronicle.notified ≤ chronicle.moment)
    (followed : Followed chronicle watch trail)
    (step : TaskStep chronicle.view chronicle.moment watch trail watch' trail') :
    Followed (chronicle.step world (.runTask number branch)) watch' trail' := by
  have same : (chronicle.step world (.runTask number branch)).raised = chronicle.raised := rfl
  have genuine : ∀ listing ∈ trail.computed,
      IsGenuine (chronicle.step world (.runTask number branch)) listing :=
    fun listing member => genuine_step world chronicle _ listing (followed.genuine listing member)
  have counted := followed.counted
  have seen := followed.seen
  have handed := followed.handedOver
  cases step with
  | blocked =>
      exact followed_kept world chronicle _ _ _ trail followed rfl rfl (Nat.le_refl _) id
  | listed task =>
      rw [listsDue_listing task] at counted
      rw [task] at handed
      have now : IsGenuine (chronicle.step world (.runTask number branch))
          ⟨chronicle.moment, chronicle.view.current⟩ :=
        ⟨chronicle.inventory.snapshot,
          step_snapshotAt world chronicle _ _ _ (snapshotAt_now chronicle), rfl⟩
      refine ⟨seen, ?_, followed.room, ?_, ?_, ?_, Kubelet.Task.noConfusion⟩
      · rw [List.length_append]
        exact counted
      · intro listing member
        rcases List.mem_append.mp member with old | new
        · exact genuine listing old
        · rw [List.mem_singleton.mp new]
          exact now
      · change (trail.computed ++ [_]).map Listing.devices = trail.sent ++ [_]
        rw [List.map_append, ← handed]
        rfl
      · intro _upToDate _none _running
        refine ⟨_, List.getLast?_concat, ?_⟩
        rw [step_notified world chronicle _ same]
        exact recent
  | sent list task present room =>
      rw [task] at handed
      rw [listsDue_sending task] at counted
      refine ⟨seen, counted, ?_, genuine, ?_, ?_, Kubelet.Task.noConfusion⟩
      · rw [List.length_append]
        exact room
      · exact handed.symm
      · intro upToDate _none _running
        exact current_step world chronicle _ trail same
          (followed.current upToDate (listsDue_sending task)
            (by rw [task]; exact Kubelet.Task.noConfusion))
  | abandoned list task absent =>
      rw [listsDue_sending task] at counted
      exact ⟨seen, counted, followed.room, genuine, trivial,
        fun _upToDate _none running => absurd rfl running, fun _ => Or.inr absent⟩
  | woken task unseen =>
      rw [listsDue_idle task] at counted
      rw [task] at handed
      refine ⟨Nat.le_refl _, ?_, followed.room, genuine, handed, ?_, Kubelet.Task.noConfusion⟩
      · -- The list that is now due is paid for by a notification not seen before.
        change watch.seen ≠ chronicle.raised at unseen
        change _ + _ + 1 ≤ chronicle.raised + 1
        omega
      · intro _upToDate due
        cases due
  | quit task cause =>
      rw [listsDue_idle task] at counted
      exact ⟨seen, counted, followed.room, genuine, trivial,
        fun _upToDate _none running => absurd rfl running, fun _ => cause⟩

private theorem followed_opened (chronicle : Chronicle σ κ) :
    Followed chronicle (.opened chronicle.raised) (.start chronicle.raised) := by
  refine ⟨Nat.le_refl _, Nat.le_refl _, Nat.zero_le _, ?_, rfl, ?_, Kubelet.Task.noConfusion⟩
  · intro listing member
    cases member
  · intro _upToDate due
    cases due

theorem followable_step (world : World σ κ) (chronicle : Chronicle σ κ) (move : Move σ κ)
    (followable : Followable chronicle) : Followable (chronicle.step world move) := by
  have recent := followable.notified
  refine ⟨?_, step_trails_length world chronicle move followable.paired, ?_⟩
  · rw [step_moment]
    change (if _ then chronicle.notified else chronicle.moment + 1) ≤ _
    split
    · omega
    · exact Nat.le_refl _
  · intro number watch' trail' found' kept'
    by_cases old : number < chronicle.watches.length
    · obtain ⟨watch, found⟩ : ∃ watch, chronicle.watches[number]? = some watch :=
        ⟨_, List.getElem?_eq_getElem old⟩
      obtain ⟨trail, kept⟩ : ∃ trail, chronicle.trails[number]? = some trail :=
        ⟨_, List.getElem?_eq_getElem (by rw [followable.paired]; exact old)⟩
      have followed := followable.followed number watch trail found kept
      obtain ⟨_, _, foundEq, keptEq, step⟩ :=
        step_watch world chronicle move number watch trail found kept
      rw [foundEq] at found'
      rw [keptEq] at kept'
      cases found'
      cases kept'
      rcases step with ⟨⟨branch, same⟩, step⟩ | ⟨_other, step, same⟩
      · subst same
        exact followed_task world chronicle number branch watch _ trail _ recent followed step
      · subst same
        exact followed_reader world chronicle move watch _ _ followed step
    · obtain ⟨opened, started⟩ := step_opened world chronicle move followable.paired number
        watch' trail' (by omega) found' kept'
      subst opened
      subst started
      exact followed_opened _

theorem followable_run (world : World σ κ) (moves : List (Move σ κ))
    (chronicle : Chronicle σ κ) (followable : Followable chronicle) :
    Followable (chronicle.run world moves) := by
  induction moves generalizing chronicle with
  | nil => exact followable
  | cons move rest ih =>
      exact ih (chronicle.step world move) (followable_step world chronicle move followable)

theorem followable_start (name : String) (inventory : Inventory) (raised : Nat)
    (provider : σ) (cluster : κ) :
    Followable (Chronicle.start name inventory raised provider cluster) := by
  refine ⟨Nat.le_refl _, rfl, ?_⟩
  intro number watch trail found
  cases found

/-- The last list of a resting task has been sent, and is the device list of a snapshot
not older than that of the latest notification. -/
theorem resting_last {chronicle : Chronicle σ κ} {watch : Watch} {trail : Trail}
    (followed : Followed chronicle watch trail) (resting : IsResting chronicle.view watch) :
    ∃ listing, trail.computed.getLast? = some listing ∧
      trail.sent.getLast? = some listing.devices ∧
      chronicle.notified ≤ listing.moment ∧ IsGenuine chronicle listing := by
  obtain ⟨idle, ready⟩ := resting
  have seen : watch.seen = chronicle.view.raised := by
    simpa [Watch.isReady] using ready .notification
  change watch.seen = chronicle.raised at seen
  have handed := followed.handedOver
  rw [idle] at handed
  obtain ⟨listing, last, recent⟩ := followed.current seen (listsDue_idle idle)
    (by rw [idle]; exact Kubelet.Task.noConfusion)
  refine ⟨listing, last, ?_, recent, ?_⟩
  · change trail.sent = _ at handed
    rw [handed, List.getLast?_map, last]
    rfl
  · exact followed.genuine listing (List.mem_of_getLast? last)

end Node
end VirtualNpu
