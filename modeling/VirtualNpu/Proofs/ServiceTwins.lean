import Mathlib.Data.List.Forall2
import VirtualNpu.Node.Answers
import VirtualNpu.Node.Likeness
import VirtualNpu.Proofs.WatchSteps

/-!
Two services in alike surroundings answer alike.  They need not have counted the same health
notifications: what a watch has not seen yet is the distance of its counter to that of the node,
and this is what the two have in common.
-/

namespace VirtualNpu
namespace Node

open Kubelet (View Watch)

/-! ### Watches -/

/-- Two watches at the same place, the counters of which differ by what the nodes have counted
more or less before. -/
inductive AlikeWatches (lag lag' : Nat) : Watch → Watch → Prop
  | mk (task : Kubelet.Task) (queue : List (List Kubelet.Device)) (readerPresent : Bool)
      {seen seen' : Nat} (unseen : seen + lag = seen' + lag') :
      AlikeWatches lag lag' ⟨task, seen, queue, readerPresent⟩ ⟨task, seen', queue, readerPresent⟩

structure AlikeViews (lag lag' : Nat) (one other : View) : Prop where
  current : one.current = other.current
  raised : one.raised + lag = other.raised + lag'
  stopped : one.stopped = other.stopped

section
variable {lag lag' : Nat} {one other : Watch}

theorem AlikeWatches.receive (alike : AlikeWatches lag lag' one other) :
    Agree (AlikeWatches lag lag') one.receive other.receive := by
  obtain ⟨task, queue, readerPresent, unseen⟩ := alike
  cases queue with
  | nil => exact ⟨rfl, .mk task [] readerPresent unseen⟩
  | cons list rest => exact ⟨rfl, .mk task rest readerPresent unseen⟩

theorem AlikeWatches.depart (alike : AlikeWatches lag lag' one other) :
    AlikeWatches lag lag' one.depart other.depart := by
  obtain ⟨task, queue, readerPresent, unseen⟩ := alike
  exact .mk task [] false unseen

variable {view view' : View}

theorem AlikeWatches.isReady (alike : AlikeWatches lag lag' one other)
    (views : AlikeViews lag lag' view view') (branch : Kubelet.Branch) :
    one.isReady view branch = other.isReady view' branch := by
  obtain ⟨task, queue, readerPresent, unseen⟩ := alike
  cases branch with
  | stop => exact views.stopped
  | departure => rfl
  | notification =>
      rename_i seen seen'
      -- Both have seen the last notification, or neither: the offsets are the same on both sides.
      have raised := views.raised
      have same : seen = view.raised ↔ seen' = view'.raised := by omega
      simp only [Watch.isReady, ne_eq, same]

theorem AlikeWatches.wake (alike : AlikeWatches lag lag' one other)
    (views : AlikeViews lag lag' view view') (branch : Kubelet.Branch) :
    AlikeWatches lag lag' (one.wake view branch) (other.wake view' branch) := by
  obtain ⟨task, queue, readerPresent, unseen⟩ := alike
  cases branch with
  | stop | departure => exact .mk .ended queue readerPresent unseen
  | notification => exact .mk .listing queue readerPresent views.raised

theorem AlikeWatches.step (alike : AlikeWatches lag lag' one other)
    (views : AlikeViews lag lag' view view') (branch : Kubelet.Branch) :
    AlikeWatches lag lag' ((one.step (Watch.onlyBranch? branch) view).getD one)
      ((other.step (Watch.onlyBranch? branch) view').getD other) := by
  have ready := alike.isReady views branch
  have woken := alike.wake views branch
  obtain ⟨task, queue, readerPresent, unseen⟩ := alike
  cases task with
  | listing =>
      dsimp only [Watch.step]
      rw [views.current]
      exact .mk _ queue readerPresent unseen
  | sending list =>
      dsimp only [Watch.step]
      split
      · exact .mk _ queue readerPresent unseen
      · split
        · exact .mk _ _ readerPresent unseen
        · exact .mk _ queue readerPresent unseen
  | idle =>
      dsimp only [Watch.step, Watch.onlyBranch?]
      rw [← ready]
      split
      · exact woken
      · exact .mk _ queue readerPresent unseen
  | ended => exact .mk _ queue readerPresent unseen

end

/-! ### Lists of watches -/

section
variable {α β : Type} {related : α → α → Prop} {left right : List α}

theorem forall₂_modify {change change' : α → α}
    (keeps : ∀ one other, related one other → related (change one) (change' other))
    (same : List.Forall₂ related left right) (number : Nat) :
    List.Forall₂ related (left.modify number change) (right.modify number change') := by
  induction same generalizing number with
  | nil => cases number <;> exact .nil
  | cons head tail ih =>
      cases number with
      | zero => exact .cons (keeps _ _ head) tail
      | succ number => exact .cons head (ih number)

theorem forall₂_map_getElem? (view : α → β)
    (shows : ∀ one other, related one other → view one = view other)
    (same : List.Forall₂ related left right) (number : Nat) :
    (left[number]?).map view = (right[number]?).map view := by
  induction same generalizing number with
  | nil => rfl
  | cons head tail ih =>
      cases number with
      | zero => exact congrArg some (shows _ _ head)
      | succ number => exact ih number

end

/-! ### Nodes -/

variable {σ κ : Type} {world : World σ κ} {lag lag' : Nat}

structure AlikeStates (likeness : Likeness world) (lag lag' : Nat)
    (one other : Registration.State σ κ) : Prop where
  inventory : one.inventory = other.inventory
  raised : one.raised + lag = other.raised + lag'
  provider : likeness.provider one.provider other.provider
  cluster : likeness.cluster one.cluster other.cluster

/-- Two reporters that keep the same times, each by its own clock. -/
structure AlikeReporters (likeness : Likeness world) (one other : Registration.Reporter) :
    Prop where
  intervals : one.intervals = other.intervals
  offset : one.offset = other.offset
  due : likeness.moment one.due other.due

/-- Two nodes that differ in nothing that anyone could tell. -/
structure AlikeNodes (likeness : Likeness world) (lag lag' : Nat) (one other : Node σ κ) :
    Prop where
  name : one.name = other.name
  state : AlikeStates likeness lag lag' one.state other.state
  watches : List.Forall₂ (AlikeWatches lag lag') one.watches other.watches
  stopped : one.stopped = other.stopped
  reporter : Option.Rel (AlikeReporters likeness) one.reporter other.reporter
  time : likeness.moment one.time other.time

/-! ### Refreshing and reporting -/

section
variable {likeness : Likeness world} {one other : Registration.State σ κ}

theorem AlikeStates.refresh (alike : AlikeStates likeness lag lag' one other) :
    Agree likeness.provider (one.inventory.refresh world.provider one.provider)
      (other.inventory.refresh world.provider other.provider) := by
  obtain ⟨answer, left, right, first, second, after⟩ := (likeness.lists alike.provider).split
  unfold Inventory.refresh
  rw [first, second, alike.inventory]
  cases answer <;> exact ⟨rfl, after⟩

theorem AlikeStates.poll (alike : AlikeStates likeness lag lag' one other) :
    Agree likeness.provider (Inventory.pollUnhealthy world.provider one.provider)
      (Inventory.pollUnhealthy world.provider other.provider) := by
  obtain ⟨answer, left, right, first, second, after⟩ := (likeness.lists alike.provider).split
  unfold Inventory.pollUnhealthy
  rw [first, second]
  cases answer <;> exact ⟨rfl, after⟩

theorem AlikeStates.refreshUnhealthy (alike : AlikeStates likeness lag lag' one other)
    (polled : List UInt32) :
    Agree (AlikeStates likeness lag lag')
      (Registration.refreshUnhealthy world.provider polled one)
      (Registration.refreshUnhealthy world.provider polled other) := by
  obtain ⟨answer, left, right, first, second, after⟩ := alike.refresh.split
  unfold Registration.refreshUnhealthy
  rw [first, second, ← alike.inventory]
  split
  · exact ⟨rfl, alike⟩
  · cases answer with
    | error report => exact ⟨rfl, rfl, alike.raised, after, alike.cluster⟩
    | ok refreshed =>
        refine ⟨rfl, rfl, ?_, after, alike.cluster⟩
        have raised := alike.raised
        change one.raised + 1 + lag = other.raised + 1 + lag'
        omega

/-- Whatever the texts of their handshakes, both publish or neither does. -/
theorem AlikeStates.publish (alike : AlikeStates likeness lag lag' one other) (node : String)
    (offset : Int) {time time' : Nat} (moment : likeness.moment time time') :
    Agree (AlikeStates likeness lag lag')
      (Registration.publish world.client node (world.handshake time offset) one)
      (Registration.publish world.client node (world.handshake time' offset) other) := by
  have speaks := likeness.speaks offset moment
  cases spoken : world.handshake time offset with
  | none =>
      rw [spoken] at speaks
      have silent : world.handshake time' offset = none := by simpa using speaks.symm
      rw [silent]
      exact ⟨rfl, alike⟩
  | some text =>
      rw [spoken] at speaks
      obtain ⟨text', spoken'⟩ := Option.isSome_iff_exists.mp speaks.symm
      obtain ⟨answer, left, right, first, second, after⟩ :=
        (likeness.registers node one.inventory offset moment spoken spoken' alike.cluster).split
      rw [spoken']
      unfold Registration.publish
      dsimp only
      rw [← alike.inventory, first, second]
      cases answer <;> exact ⟨rfl, rfl, alike.raised, alike.provider, after⟩

theorem AlikeStates.report (alike : AlikeStates likeness lag lag' one other) (node : String)
    (offset : Int) {time time' : Nat} (moment : likeness.moment time time') :
    Agree (AlikeStates likeness lag lag')
      (Registration.report world.provider world.client node (world.handshake time offset) one)
      (Registration.report world.provider world.client node (world.handshake time' offset)
        other) := by
  obtain ⟨polled, left, right, first, second, after⟩ := alike.poll.split
  have asked : AlikeStates likeness lag lag' { one with provider := left }
      { other with provider := right } :=
    ⟨alike.inventory, alike.raised, after, alike.cluster⟩
  unfold Registration.report
  rw [first, second]
  cases polled with
  | error report => exact ⟨rfl, asked⟩
  | ok ids =>
      obtain ⟨refreshed, left, right, first, second, after⟩ := (asked.refreshUnhealthy ids).split
      dsimp only
      rw [first, second]
      cases refreshed with
      | error error => exact ⟨rfl, after⟩
      | ok => exact after.publish node offset moment

end

/-! ### Moves -/

section
variable {likeness : Likeness world} {one other : Node σ κ}

theorem AlikeNodes.view (alike : AlikeNodes likeness lag lag' one other) :
    AlikeViews lag lag' one.view other.view where
  current := congrArg Kubelet.deviceList alike.state.inventory
  raised := alike.state.raised
  stopped := alike.stopped

theorem AlikeNodes.setCluster (alike : AlikeNodes likeness lag lag' one other)
    (change change' : κ → κ)
    (keeps : likeness.cluster (change one.state.cluster) (change' other.state.cluster)) :
    AlikeNodes likeness lag lag' (one.setCluster change) (other.setCluster change') :=
  ⟨alike.name,
    ⟨alike.state.inventory, alike.state.raised, alike.state.provider, keeps⟩,
    alike.watches, alike.stopped, alike.reporter, alike.time⟩

theorem AlikeNodes.withWatches (alike : AlikeNodes likeness lag lag' one other)
    {watches watches' : List Watch}
    (same : List.Forall₂ (AlikeWatches lag lag') watches watches') :
    AlikeNodes likeness lag lag' { one with watches } { other with watches := watches' } :=
  ⟨alike.name, alike.state, same, alike.stopped, alike.reporter, alike.time⟩

theorem AlikeNodes.refresh (alike : AlikeNodes likeness lag lag' one other) :
    Agree (AlikeNodes likeness lag lag') (one.refresh world.provider)
      (other.refresh world.provider) := by
  obtain ⟨answer, left, right, first, second, after⟩ := alike.state.refresh.split
  unfold Node.refresh
  rw [first, second]
  have state := alike.state
  cases answer with
  | error report =>
      exact ⟨rfl, alike.name, ⟨state.inventory, state.raised, after, state.cluster⟩,
        alike.watches, alike.stopped, alike.reporter, alike.time⟩
  | ok refreshed =>
      exact ⟨rfl, alike.name, ⟨rfl, state.raised, after, state.cluster⟩,
        alike.watches, alike.stopped, alike.reporter, alike.time⟩

theorem AlikeNodes.startReporter (alike : AlikeNodes likeness lag lag' one other)
    (intervals : Registration.Intervals) (offset : Int) :
    AlikeNodes likeness lag lag' (one.startReporter intervals offset)
      (other.startReporter intervals offset) :=
  ⟨alike.name, alike.state, alike.watches, alike.stopped,
    .some ⟨rfl, rfl, likeness.passes intervals.initial alike.time⟩, alike.time⟩

theorem AlikeNodes.tick (alike : AlikeNodes likeness lag lag' one other)
    {reporter reporter' : Registration.Reporter}
    (reporters : AlikeReporters likeness reporter reporter') :
    AlikeNodes likeness lag lag'
      (one.tick world.provider world.client world.clock world.handshake reporter)
      (other.tick world.provider world.client world.clock world.handshake reporter') := by
  have timed := alike.setCluster _ _ (likeness.ages reporters.due alike.state.cluster)
  obtain ⟨outcome, left, right, first, second, after⟩ :=
    (timed.state.report one.name reporter.offset reporters.due).split
  unfold Node.tick
  rw [← reporters.offset, ← alike.name, ← reporters.intervals]
  dsimp only
  rw [first, second]
  refine ⟨alike.name, after, alike.watches, alike.stopped, ?_, reporters.due⟩
  dsimp only
  cases reporter.intervals.after outcome with
  | none => exact .none
  | some delay =>
      exact .some ⟨rfl, rfl, likeness.passes delay reporters.due⟩

end

/-! ### Courses -/

structure Twins (likeness : Likeness world) (lag lag' : Nat) (one other : Course σ κ) : Prop where
  node : AlikeNodes likeness.withLedger lag lag' one.node other.node
  allocations : one.allocations = other.allocations

section
variable {likeness : Likeness world} {one other : Course σ κ}

theorem Twins.answer? (twins : Twins likeness lag lag' one other) (move : Move σ κ) :
    one.answer? move = other.answer? move := by
  cases move with
  | subscribe => exact congrArg (some ∘ Answer.opened) twins.node.watches.length_eq
  | read number =>
      have same := forall₂_map_getElem? (fun watch => watch.receive.1)
        (fun _ _ alike => (AlikeWatches.receive alike).1) twins.node.watches number
      simp only [Course.answer?, Node.read, Option.map_map]
      exact congrArg (some ∘ Answer.received) same
  | allocate number =>
      unfold Course.answer?
      rw [twins.allocations]
  | _ => rfl

theorem alike_advance (likeness : Likeness world) (inventory : Inventory) (name : String)
    (progress : Kubelet.Progress) {left right : κ} (alike : likeness.cluster left right) :
    Agree likeness.cluster (progress.advance world.client inventory name left)
      (progress.advance world.client inventory name right) := by
  cases progress with
  | lookup containers =>
      obtain ⟨answer, left, right, first, second, after⟩ := (likeness.looksUp name alike).split
      unfold Kubelet.Progress.advance
      dsimp only
      rw [first, second]
      rcases answer with _ | _ | pod <;> exact ⟨rfl, after⟩
  | record pod outcome => exact ⟨rfl, (likeness.records pod _ alike).2⟩
  | release outcome => exact ⟨rfl, (likeness.releases name alike).2⟩
  | done outcome => exact ⟨rfl, alike⟩

theorem Twins.advance (twins : Twins likeness lag lag' one other) (number : Nat) :
    Twins likeness lag lag' (one.advance world number) (other.advance world number) := by
  unfold Course.advance
  rw [← twins.allocations]
  cases one.allocations[number]? with
  | none => exact twins
  | some progress =>
      have calls : Agree likeness.withLedger.cluster
          (progress.advance world.client.withLedger one.node.state.inventory one.node.name
            (one.ledger.inHandsOf (.allocation number)))
          (progress.advance world.client.withLedger one.node.state.inventory one.node.name
            (other.ledger.inHandsOf (.allocation number))) :=
        alike_advance likeness.withLedger _ _ progress twins.node.state.cluster
      obtain ⟨after, left, right, first, second, alike⟩ := calls.split
      rw [← twins.node.state.inventory, ← twins.node.name]
      dsimp only
      rw [first, second]
      exact ⟨twins.node.setCluster (fun _ => left) (fun _ => right) alike, rfl⟩

theorem Twins.reportMove (twins : Twins likeness lag lag' one other) :
    AlikeNodes likeness.withLedger lag lag' (one.node.reportMove world)
      (other.node.reportMove world) := by
  have reporters := twins.node.reporter
  unfold Node.reportMove
  rcases first : one.node.reporter with _ | reporter <;>
    rcases second : other.node.reporter with _ | reporter' <;>
      rw [first, second] at reporters <;> cases reporters
  · exact twins.node
  · rename_i alike
    exact (twins.node.setCluster (.inHandsOf .reporter) (.inHandsOf .reporter)
      twins.node.state.cluster).tick alike

theorem Twins.step (twins : Twins likeness lag lag' one other) (move : Move σ κ)
    (keeps : likeness.Keeps move) :
    Twins likeness lag lag' (one.step world move) (other.step world move) := by
  have node := twins.node
  cases move with
  | provider change =>
      exact ⟨⟨node.name, ⟨node.state.inventory, node.state.raised,
        keeps _ _ node.state.provider, node.state.cluster⟩, node.watches, node.stopped,
        node.reporter, node.time⟩, twins.allocations⟩
  | cluster change => exact ⟨node.setCluster _ _ (keeps _ _ node.state.cluster), twins.allocations⟩
  | refresh => exact ⟨node.refresh.2, twins.allocations⟩
  | notify =>
      refine ⟨⟨node.name, ⟨node.state.inventory, ?_, node.state.provider, node.state.cluster⟩,
        node.watches, node.stopped, node.reporter, node.time⟩, twins.allocations⟩
      have raised := node.state.raised
      change one.node.state.raised + 1 + lag = other.node.state.raised + 1 + lag'
      omega
  | subscribe =>
      have opened : AlikeWatches lag lag' (.opened one.node.state.raised)
          (.opened other.node.state.raised) :=
        .mk .listing [] true node.state.raised
      exact ⟨node.withWatches (List.rel_append node.watches (.cons opened .nil)),
        twins.allocations⟩
  | runTask number branch =>
      refine ⟨node.withWatches (forall₂_modify ?_ node.watches number), twins.allocations⟩
      exact fun _ _ alike => alike.step node.view branch
  | read number =>
      refine ⟨?_, twins.allocations⟩
      change AlikeNodes _ lag lag' (((one.node.read number).map Prod.snd).getD one.node)
        (((other.node.read number).map Prod.snd).getD other.node)
      rw [read_getD, read_getD]
      exact node.withWatches (forall₂_modify (fun _ _ alike => alike.receive.2) node.watches number)
  | depart number =>
      refine ⟨?_, twins.allocations⟩
      change AlikeNodes _ lag lag' ((one.node.depart number).getD one.node)
        ((other.node.depart number).getD other.node)
      rw [depart_getD, depart_getD]
      exact node.withWatches (forall₂_modify (fun _ _ alike => alike.depart) node.watches number)
  | stop =>
      exact ⟨⟨node.name, node.state, node.watches, rfl, node.reporter, node.time⟩,
        twins.allocations⟩
  | startReporter intervals offset =>
      exact ⟨node.startReporter intervals offset, twins.allocations⟩
  | stopReporter =>
      exact ⟨⟨node.name, node.state, node.watches, node.stopped, .none, node.time⟩,
        twins.allocations⟩
  | tick => exact ⟨twins.reportMove, twins.allocations⟩
  | publish annotations =>
      refine ⟨?_, twins.allocations⟩
      change AlikeNodes _ lag lag' (one.node.publishMove world annotations)
        (other.node.publishMove world annotations)
      unfold publishMove
      rw [← node.name]
      exact node.setCluster _ _
        (likeness.publishes one.node.name annotations node.state.cluster).2
  | request containers =>
      exact ⟨node, congrArg (· ++ [Kubelet.Progress.lookup containers]) twins.allocations⟩
  | allocate number => exact twins.advance number

/-- Twins answer alike for as long as their surroundings stay alike. -/
theorem Twins.answers (twins : Twins likeness lag lag' one other) (moves : List (Move σ κ))
    (keeps : ∀ move ∈ moves, likeness.Keeps move) :
    one.answers world moves = other.answers world moves := by
  induction moves generalizing one other with
  | nil => rfl
  | cons move rest ih =>
      have next := twins.step move (keeps move List.mem_cons_self)
      have later := ih next fun later member => keeps later (.tail _ member)
      unfold Course.answers
      rw [twins.answer? move, later]

end

end Node
end VirtualNpu
