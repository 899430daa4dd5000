import VirtualNpu.Node.Delivery
import VirtualNpu.Proofs.ReportEffects

/-!
What one move of a node does to a watch and its trail.  Only a step of its own task
changes what the task stands at, and only the reader takes lists or goes away.
-/

namespace VirtualNpu
namespace Node

open Kubelet (Device View Watch)

/-- One step of the task of a watch under a view, with what the trail notes of it. -/
inductive TaskStep (view : View) (moment : Nat) (watch : Watch) (trail : Trail) :
    Watch → Trail → Prop
  | blocked : TaskStep view moment watch trail watch trail
  | listed (task : watch.task = .listing) :
      TaskStep view moment watch trail { watch with task := .sending view.current }
        { trail with computed := trail.computed ++ [⟨moment, view.current⟩] }
  | sent (list : List Device) (task : watch.task = .sending list)
      (present : watch.readerPresent = true)
      (room : watch.queue.length < Kubelet.queueCapacity) :
      TaskStep view moment watch trail
        { watch with task := .idle, queue := watch.queue ++ [list] }
        { trail with sent := trail.sent ++ [list] }
  | abandoned (list : List Device) (task : watch.task = .sending list)
      (absent : watch.readerPresent = false) :
      TaskStep view moment watch trail { watch with task := .ended } trail
  | woken (task : watch.task = .idle) (unseen : watch.seen ≠ view.raised) :
      TaskStep view moment watch trail
        { watch with task := .listing, seen := view.raised } trail
  | quit (task : watch.task = .idle)
      (cause : view.stopped = true ∨ watch.readerPresent = false) :
      TaskStep view moment watch trail { watch with task := .ended } trail

inductive ReaderStep (watch : Watch) : Watch → Prop
  | nothing : ReaderStep watch watch
  | took (list : List Device) (rest : List (List Device)) (queue : watch.queue = list :: rest) :
      ReaderStep watch { watch with queue := rest }
  | left : ReaderStep watch { watch with readerPresent := false, queue := [] }

/-- What a move of the node does to the watch of a number, with what it hands to the reader. -/
inductive WatchMove {σ κ : Type} (number : Nat) (view : View) (moment : Nat) (watch : Watch)
    (trail : Trail) : Move σ κ → Option (List Device) → Watch → Trail → Prop
  | stood {move : Move σ κ} (others : ∀ branch, move ≠ .runTask number branch) :
      WatchMove number view moment watch trail move none watch trail
  | ran (branch : Kubelet.Branch) {watch' : Watch} {trail' : Trail}
      (step : TaskStep view moment watch trail watch' trail') :
      WatchMove number view moment watch trail (.runTask number branch) none watch' trail'
  | took (list : List Device) (rest : List (List Device)) (queue : watch.queue = list :: rest) :
      WatchMove number view moment watch trail (.read number) (some list)
        { watch with queue := rest } trail
  | left : WatchMove number view moment watch trail (.depart number) none watch.depart trail

theorem taskStep_of_step (view : View) (moment : Nat) (branch : Kubelet.Branch)
    (watch : Watch) (trail : Trail) :
    TaskStep view moment watch trail
      ((watch.step (Watch.onlyBranch? branch) view).getD watch)
      (trail.follow moment watch
        ((watch.step (Watch.onlyBranch? branch) view).getD watch)) := by
  obtain ⟨task, seen, queue, present⟩ := watch
  cases task with
  | listing => exact .listed rfl
  | sending list =>
      cases present with
      | false => exact .abandoned list rfl rfl
      | true =>
          by_cases room : queue.length < Kubelet.queueCapacity
          · simp only [Watch.step, Bool.not_true, Bool.false_eq_true, if_false, if_pos room]
            exact .sent list rfl rfl room
          · simp only [Watch.step, Bool.not_true, Bool.false_eq_true, if_false, if_neg room]
            exact .blocked
  | idle =>
      by_cases ready : Watch.isReady view ⟨.idle, seen, queue, present⟩ branch = true
      · simp only [Watch.step, Watch.onlyBranch?, if_pos ready, Option.map_some]
        cases branch with
        | stop => exact .quit rfl (Or.inl ready)
        | departure =>
            refine .quit rfl (Or.inr ?_)
            simpa [Watch.isReady] using ready
        | notification =>
            refine .woken rfl ?_
            simpa [Watch.isReady] using ready
      · simp only [Watch.step, Watch.onlyBranch?, if_neg ready, Option.map_none]
        exact .blocked
  | ended => exact .blocked

variable {σ κ : Type}

/-! ### The rest of the node -/

theorem reportMove_frame (world : World σ κ) (node : Node σ (Cluster.Ledger κ)) :
    (node.reportMove world).watches = node.watches ∧
      (node.reportMove world).stopped = node.stopped ∧
      Registration.Refreshed node.state (node.reportMove world).state := by
  unfold reportMove
  split
  · exact ⟨rfl, rfl, rfl, Or.inl ⟨rfl, rfl⟩⟩
  · rename_i reporter _running
    have effect := (Registration.report_effect world.provider world.client.withLedger
      node.name (world.handshake reporter.due reporter.offset)
      { node.state with
        cluster := (node.state.cluster.inHandsOf .reporter).mapCluster
          (world.clock reporter.due) }).1
    exact ⟨rfl, rfl, effect.family, effect.counted⟩

theorem step_state (world : World σ κ) (chronicle : Chronicle σ κ) (move : Move σ κ) :
    (chronicle.step world move).inventory.family = chronicle.inventory.family ∧
      chronicle.raised ≤ (chronicle.step world move).raised := by
  cases move with
  | refresh =>
      simp only [Chronicle.step, Chronicle.inventory, Chronicle.raised, Course.step,
        Node.refresh]
      split
      · rename_i refreshed after done
        exact ⟨Inventory.refresh_family _ _ _ _ _ done, Nat.le_refl _⟩
      · exact ⟨rfl, Nat.le_refl _⟩
  | notify => exact ⟨rfl, Nat.le_succ _⟩
  | read number =>
      simp only [Chronicle.step, Chronicle.inventory, Chronicle.raised, Course.step, Node.read]
      cases chronicle.course.node.watches[number]? <;> exact ⟨rfl, Nat.le_refl _⟩
  | depart number =>
      simp only [Chronicle.step, Chronicle.inventory, Chronicle.raised, Course.step,
        Node.depart]
      cases chronicle.course.node.watches[number]? <;> exact ⟨rfl, Nat.le_refl _⟩
  | tick =>
      have refreshed := (reportMove_frame world chronicle.course.node).2.2
      refine ⟨refreshed.family, ?_⟩
      change chronicle.course.node.state.raised ≤ (chronicle.course.node.reportMove world).state.raised
      rcases refreshed.counted with ⟨_same, kept⟩ | once
      · exact Nat.le_of_eq kept.symm
      · omega
  | allocate number =>
      simp only [Chronicle.step, Chronicle.inventory, Chronicle.raised, Course.step,
        Course.advance]
      split <;> exact ⟨rfl, Nat.le_refl _⟩
  | _ => exact ⟨rfl, Nat.le_refl _⟩

theorem step_stopped (world : World σ κ) (chronicle : Chronicle σ κ) (move : Move σ κ)
    (stopped : chronicle.view.stopped = true) :
    (chronicle.step world move).view.stopped = true := by
  change (chronicle.course.step world move).node.stopped = true
  change chronicle.course.node.stopped = true at stopped
  cases move with
  | refresh =>
      simp only [Course.step, Node.refresh]
      split <;> exact stopped
  | read number =>
      simp only [Course.step, Node.read]
      cases chronicle.course.node.watches[number]? <;> exact stopped
  | depart number =>
      simp only [Course.step, Node.depart]
      cases chronicle.course.node.watches[number]? <;> exact stopped
  | stop => rfl
  | tick => exact (reportMove_frame world chronicle.course.node).2.1.trans stopped
  | allocate number =>
      simp only [Course.step, Course.advance]
      split <;> exact stopped
  | _ => exact stopped

private theorem set_eq_modify {α : Type} (items : List α) (number : Nat) (item : α)
    (change : α → α) (found : items[number]? = some item) :
    items.set number (change item) = items.modify number change := by
  induction items generalizing number with
  | nil => cases found
  | cons head tail ih =>
      cases number with
      | zero =>
          cases found
          rfl
      | succ number =>
          rw [List.set_cons_succ, List.modify_succ_cons, ih number found]

theorem read_getD (node : Node σ κ) (number : Nat) :
    ((node.read number).map Prod.snd).getD node =
      { node with watches := node.watches.modify number fun watch => watch.receive.2 } := by
  unfold Node.read
  cases found : node.watches[number]? with
  | none =>
      rw [List.modify_eq_self (List.getElem?_eq_none_iff.mp found)]
      rfl
  | some watch =>
      rw [← set_eq_modify _ number watch (fun watch => watch.receive.2) found]
      rfl

theorem depart_getD (node : Node σ κ) (number : Nat) :
    (node.depart number).getD node =
      { node with watches := node.watches.modify number Watch.depart } := by
  unfold Node.depart
  cases found : node.watches[number]? with
  | none =>
      rw [List.modify_eq_self (List.getElem?_eq_none_iff.mp found)]
      rfl
  | some watch =>
      rw [← set_eq_modify _ number watch Watch.depart found]
      rfl

/-- Only tasks, readers and subscriptions concern the watches. -/
theorem step_watches (world : World σ κ) (course : Course σ κ) (move : Move σ κ) :
    (course.step world move).node.watches =
      match move with
      | .subscribe => course.node.watches ++ [.opened course.node.state.raised]
      | .runTask number branch =>
          course.node.watches.modify number fun watch =>
            (watch.step (Watch.onlyBranch? branch) course.node.view).getD watch
      | .read number =>
          course.node.watches.modify number fun watch => watch.receive.2
      | .depart number => course.node.watches.modify number Watch.depart
      | _ => course.node.watches := by
  cases move with
  | refresh =>
      simp only [Course.step, Node.refresh]
      split <;> rfl
  | read number => exact congrArg Node.watches (read_getD course.node number)
  | depart number => exact congrArg Node.watches (depart_getD course.node number)
  | tick => exact (reportMove_frame world course.node).1
  | allocate number =>
      simp only [Course.step, Course.advance]
      split <;> rfl
  | _ => rfl

/-! ### One watch -/

private theorem handed?_read {course : Course σ κ} {number : Nat} {watch : Watch}
    (found : course.node.watches[number]? = some watch) :
    handed? course number (.read number) = watch.queue.head? := by
  simp only [handed?, Node.read, found, Option.map_some, if_true, Watch.receive]
  cases watch.queue with
  | nil => cases watch.isLive <;> rfl
  | cons list rest => rfl

private theorem watchMove_read {view : View} {moment : Nat} {watch : Watch} {trail : Trail}
    (number : Nat) :
    WatchMove number view moment watch trail (.read number : Move σ κ) watch.queue.head?
      watch.receive.2 trail := by
  unfold Watch.receive
  split
  · rename_i list rest queue
    rw [queue]
    exact .took list rest queue
  · rename_i empty
    rw [empty]
    exact .stood (by simp)

theorem step_watchMove (world : World σ κ) (chronicle : Chronicle σ κ) (move : Move σ κ)
    (number : Nat) (watch : Watch) (trail : Trail)
    (found : chronicle.watches[number]? = some watch)
    (followed : chronicle.trails[number]? = some trail) :
    ∃ watch' trail',
      (chronicle.step world move).watches[number]? = some watch' ∧
      (chronicle.step world move).trails[number]? = some trail' ∧
      WatchMove number chronicle.view chronicle.moment watch trail move
        (handed? chronicle.course number move) watch' trail' := by
  have inside : number < chronicle.watches.length := (List.getElem?_eq_some_iff.mp found).1
  have followedInside : number < chronicle.trails.length :=
    (List.getElem?_eq_some_iff.mp followed).1
  have watchesEq := step_watches world chronicle.course move
  change (chronicle.step world move).watches = _ at watchesEq
  rw [watchesEq]
  cases move with
  | subscribe =>
      refine ⟨watch, trail, ?_, ?_, .stood (by simp)⟩
      · exact (List.getElem?_append_left inside).trans found
      · exact (List.getElem?_append_left followedInside).trans followed
  | runTask other branch =>
      dsimp only
      by_cases same : other = number
      · subst other
        have after : (chronicle.course.step world (.runTask number branch)).node.watches[number]? =
            some ((watch.step (Watch.onlyBranch? branch) chronicle.view).getD watch) := by
          rw [step_watches, List.getElem?_modify_eq]
          exact congrArg _ found
        refine ⟨_, _, after, ?_, .ran branch (taskStep_of_step _ _ branch _ trail)⟩
        simp only [Chronicle.step, Chronicle.followWatches, found, after]
        rw [List.getElem?_modify_eq, followed]
        rfl
      · refine ⟨watch, trail, ?_, ?_, .stood (by simp [same])⟩
        · rw [List.getElem?_modify_ne _ _ same]
          exact found
        · simp only [Chronicle.step, Chronicle.followWatches]
          split
          · rw [List.getElem?_modify_ne _ _ same]
            exact followed
          · exact followed
  | read other =>
      by_cases same : other = number
      · subst other
        refine ⟨watch.receive.2, trail, ?_, followed, ?_⟩
        · rw [List.getElem?_modify_eq]
          exact congrArg _ found
        · rw [handed?_read found]
          exact watchMove_read number
      · refine ⟨watch, trail, ?_, followed, ?_⟩
        · rw [List.getElem?_modify_ne _ _ same]
          exact found
        · rw [handed?, if_neg same]
          exact .stood (by simp)
  | depart other =>
      by_cases same : other = number
      · subst other
        refine ⟨watch.depart, trail, ?_, followed, .left⟩
        rw [List.getElem?_modify_eq]
        exact congrArg _ found
      · refine ⟨watch, trail, ?_, followed, .stood (by simp)⟩
        rw [List.getElem?_modify_ne _ _ same]
        exact found
  | _ => exact ⟨watch, trail, found, followed, .stood (by simp)⟩

theorem step_watch (world : World σ κ) (chronicle : Chronicle σ κ) (move : Move σ κ)
    (number : Nat) (watch : Watch) (trail : Trail)
    (found : chronicle.watches[number]? = some watch)
    (followed : chronicle.trails[number]? = some trail) :
    ∃ watch' trail',
      (chronicle.step world move).watches[number]? = some watch' ∧
      (chronicle.step world move).trails[number]? = some trail' ∧
      ((∃ branch, move = .runTask number branch) ∧
          TaskStep chronicle.view chronicle.moment watch trail watch' trail' ∨
        (∀ branch, move ≠ .runTask number branch) ∧ ReaderStep watch watch' ∧
          trail' = trail) := by
  obtain ⟨watch', trail', found', followed', moved⟩ :=
    step_watchMove world chronicle move number watch trail found followed
  refine ⟨watch', trail', found', followed', ?_⟩
  generalize handed? chronicle.course number move = list at moved
  cases moved with
  | stood others => exact Or.inr ⟨others, .nothing, rfl⟩
  | ran branch step => exact Or.inl ⟨⟨branch, rfl⟩, step⟩
  | took list rest queue => exact Or.inr ⟨by simp, .took list rest queue, rfl⟩
  | left => exact Or.inr ⟨by simp, .left, rfl⟩

theorem step_trails_length (world : World σ κ) (chronicle : Chronicle σ κ) (move : Move σ κ)
    (paired : chronicle.trails.length = chronicle.watches.length) :
    (chronicle.step world move).trails.length = (chronicle.step world move).watches.length := by
  have watchesEq := step_watches world chronicle.course move
  change (chronicle.step world move).watches = _ at watchesEq
  change chronicle.trails.length = chronicle.course.node.watches.length at paired
  rw [watchesEq]
  cases move with
  | subscribe =>
      simp only [Chronicle.step, Chronicle.followWatches, List.length_append, paired]
      rfl
  | runTask number branch =>
      simp only [Chronicle.step, Chronicle.followWatches, List.length_modify]
      split
      · rw [List.length_modify]
        exact paired
      · exact paired
  | read number | depart number =>
      rw [List.length_modify]
      exact paired
  | _ => exact paired

theorem step_opened (world : World σ κ) (chronicle : Chronicle σ κ) (move : Move σ κ)
    (paired : chronicle.trails.length = chronicle.watches.length)
    (number : Nat) (watch : Watch) (trail : Trail) (new : chronicle.watches.length ≤ number)
    (found : (chronicle.step world move).watches[number]? = some watch)
    (followed : (chronicle.step world move).trails[number]? = some trail) :
    watch = .opened (chronicle.step world move).raised ∧
      trail = .start (chronicle.step world move).raised := by
  have watchesEq := step_watches world chronicle.course move
  change (chronicle.step world move).watches = _ at watchesEq
  rw [watchesEq] at found
  change chronicle.course.node.watches.length ≤ number at new
  cases move with
  | subscribe =>
      change (chronicle.trails ++ [Trail.start chronicle.raised])[number]? = some trail at followed
      have last : number = chronicle.course.node.watches.length := by
        have inside := (List.getElem?_eq_some_iff.mp found).1
        rw [List.length_append, List.length_singleton] at inside
        omega
      subst last
      rw [List.getElem?_concat_length] at found
      change chronicle.trails.length = chronicle.course.node.watches.length at paired
      rw [← paired, List.getElem?_concat_length] at followed
      cases found
      cases followed
      exact ⟨rfl, rfl⟩
  | runTask other branch | read other | depart other =>
      have inside := (List.getElem?_eq_some_iff.mp found).1
      rw [List.length_modify] at inside
      omega
  | _ =>
      have inside : number < chronicle.course.node.watches.length :=
        (List.getElem?_eq_some_iff.mp found).1
      omega

end Node
end VirtualNpu
