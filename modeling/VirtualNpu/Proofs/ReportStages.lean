import VirtualNpu.Cluster.Ledger
import VirtualNpu.Inventory.Listing
import VirtualNpu.Inventory.Scripted
import VirtualNpu.Proofs.ReportEffects
import VirtualNpu.Registration.Underway

/-!
How a report that is not refused by the provider comes to publish: either nothing is unhealthy
in the provider's answer and in the snapshot, or the snapshot is replaced before the
notification is raised.  If the provider answers the same when it is asked again, the snapshot
has the health that the provider reports.
-/

namespace VirtualNpu

variable {σ κ : Type}

namespace Inventory

/-! ### What a provider reports -/

def reportedUnhealthy (devices : List (UInt32 × RawDevice)) : List UInt32 :=
  (devices.filter fun device => !device.2.healthy).map Prod.fst

/-- A provider that, asked twice in a row in a state, does not answer with other devices. -/
def Provider.IsSteady (provider : Provider σ) (state : σ) : Prop :=
  ∀ devices again between after, provider.devices state = (.ok devices, between) →
    provider.devices between = (.ok again, after) → again = devices

theorem isSteady_listed (path : String) (file : ListingFile) : (listed path).IsSteady file := by
  intro devices again between after first second
  have kept : between = file := (congrArg Prod.snd first).symm
  subst kept
  rw [first] at second
  cases second
  rfl

private def heldOf (script : Script) (ids : List UInt32) : List (Option (UInt32 × RawDevice)) :=
  ids.map fun id => (script.devices.find? fun device => device.1 = id).map fun device =>
    (id, device.2)

private theorem queryEach_script (ids : List UInt32) (script after : Script)
    (devices : List (UInt32 × RawDevice))
    (asked : queryEach Script.query ids script = (.ok devices, after)) :
    after = { script with queries := after.queries } ∧ heldOf script ids = devices.map some := by
  induction ids generalizing script devices with
  | nil =>
      cases asked
      exact ⟨rfl, rfl⟩
  | cons id ids ih =>
      rw [queryEach, Script.query] at asked
      by_cases failing : script.failAt = some script.queries
      · simp only [if_pos failing] at asked
        cases asked
      · cases found : script.devices.find? fun device => device.1 = id with
        | none =>
            simp only [if_neg failing, found] at asked
            cases asked
        | some device =>
            simp only [if_neg failing, found] at asked
            rcases others : queryEach Script.query ids
              { script with queries := script.queries + 1 } with ⟨failure | rest, last⟩
            · rw [others] at asked
              cases asked
            · rw [others] at asked
              cases asked
              obtain ⟨counted, held⟩ := ih _ _ others
              refine ⟨counted, ?_⟩
              rw [heldOf, List.map_cons, found, List.map_cons]
              exact congrArg _ held

theorem isSteady_scripted (script : Script) : scripted.IsSteady script := by
  intro devices again between after first second
  change listByQuery Script.logicIds Script.query script = _ at first
  change listByQuery Script.logicIds Script.query between = _ at second
  unfold listByQuery Script.logicIds at first second
  by_cases refused : script.failEnumerate = true
  · simp only [if_pos refused] at first
    cases first
  · simp only [if_neg refused] at first
    obtain ⟨counted, held⟩ := queryEach_script _ _ _ _ first
    rw [counted] at second
    simp only [if_neg refused] at second
    obtain ⟨_, heldAgain⟩ := queryEach_script _ _ _ _ second
    have same : again.map some = devices.map some := heldAgain.symm.trans held
    exact (List.map_inj_right fun _ _ => Option.some.inj).mp same

/-- Whether the health in an inventory is that of the provider's answer: the snapshot is the
answer, or nothing is unhealthy in either. -/
def Reflects (devices : List (UInt32 × RawDevice)) (inventory : Inventory) : Prop :=
  inventory = inventory.replace devices ∨
    (∀ device ∈ devices, device.2.healthy = true) ∧
      ∀ device ∈ inventory.snapshot, device.healthy = true

theorem unhealthy_replace (inventory : Inventory) (devices : List (UInt32 × RawDevice)) :
    (inventory.replace devices).snapshot.unhealthy = reportedUnhealthy devices := by
  unfold replace Snapshot.unhealthy reportedUnhealthy
  rw [List.filter_map, List.map_map]
  rfl

theorem unhealthy_eq_nil_iff (snapshot : Snapshot) :
    snapshot.unhealthy = [] ↔ ∀ device ∈ snapshot, device.healthy = true := by
  simp [Snapshot.unhealthy]

theorem reportedUnhealthy_eq_nil_iff (devices : List (UInt32 × RawDevice)) :
    reportedUnhealthy devices = [] ↔ ∀ device ∈ devices, device.2.healthy = true := by
  simp [reportedUnhealthy]

theorem Reflects.unhealthy {devices : List (UInt32 × RawDevice)} {inventory : Inventory}
    (reflects : Reflects devices inventory) :
    inventory.snapshot.unhealthy = reportedUnhealthy devices := by
  rcases reflects with listed | ⟨reported, known⟩
  · rw [listed]
    exact unhealthy_replace inventory devices
  · rw [(reportedUnhealthy_eq_nil_iff devices).mpr reported,
      (unhealthy_eq_nil_iff inventory.snapshot).mpr known]

end Inventory

namespace Registration

/-! ### From the poll to the publication -/

/-- What a report has made of a state when it comes to publish, by the provider's answer to
its poll. -/
inductive ComesToPublish (provider : Inventory.Provider σ)
    (devices : List (UInt32 × Inventory.RawDevice)) (before : State σ κ) : State σ κ → Prop
  | quiet {after : σ} (asked : provider.devices before.provider = (.ok devices, after))
      (reported : Inventory.reportedUnhealthy devices = [])
      (known : before.inventory.snapshot.unhealthy = []) :
      ComesToPublish provider devices before { before with provider := after }
  | refreshed {again : List (UInt32 × Inventory.RawDevice)} {between after : σ}
      (asked : provider.devices before.provider = (.ok devices, between))
      (seen : ¬ (Inventory.reportedUnhealthy devices = [] ∧
        before.inventory.snapshot.unhealthy = []))
      (listed : provider.devices between = (.ok again, after)) :
      ComesToPublish provider devices before
        { before with
          inventory := before.inventory.replace again
          raised := before.raised + 1
          provider := after }

variable {provider : Inventory.Provider σ} {devices : List (UInt32 × Inventory.RawDevice)}
  {before reached : State σ κ}

theorem isEmpty_and_iff (polled known : List UInt32) :
    (polled.isEmpty && known.isEmpty) = true ↔ polled = [] ∧ known = [] := by
  rw [Bool.and_eq_true, List.isEmpty_iff, List.isEmpty_iff]

theorem comesToPublish_of_report (provider : Inventory.Provider σ) (client : Cluster.Client κ)
    (node : String) (handshake : Option String) (before : State σ κ)
    (polled : (report provider client node handshake before).1 ≠ .failed .poll)
    (refreshed : (report provider client node handshake before).1 ≠ .failed .refresh) :
    ∃ devices reached, ComesToPublish provider devices before reached ∧
      report provider client node handshake before = publish client node handshake reached := by
  unfold report at polled refreshed ⊢
  rcases asked : provider.devices before.provider with ⟨failure | devices, between⟩
  · simp only [Inventory.pollUnhealthy, asked] at polled
    exact absurd rfl polled
  · have answer : Inventory.pollUnhealthy provider before.provider =
        (.ok (Inventory.reportedUnhealthy devices), between) := by
      simp only [Inventory.pollUnhealthy, asked, Inventory.reportedUnhealthy]
    rw [answer] at refreshed ⊢
    have quietIff := isEmpty_and_iff (Inventory.reportedUnhealthy devices)
      before.inventory.snapshot.unhealthy
    by_cases quiet : Inventory.reportedUnhealthy devices = [] ∧
        before.inventory.snapshot.unhealthy = []
    · refine ⟨devices, _, .quiet asked quiet.1 quiet.2, ?_⟩
      simp only [refreshUnhealthy, if_pos (quietIff.mpr quiet)]
    · have seen := fun empty => quiet (quietIff.mp empty)
      rcases again : provider.devices between with ⟨failure | listed, after⟩
      · simp only [refreshUnhealthy, if_neg seen, Inventory.refresh, again] at refreshed
        exact absurd rfl refreshed
      · refine ⟨devices, _, .refreshed asked quiet again, ?_⟩
        simp only [refreshUnhealthy, if_neg seen, Inventory.refresh, again]

/-! ### What is reached -/

theorem ComesToPublish.asked (comes : ComesToPublish provider devices before reached) :
    ∃ after, provider.devices before.provider = (.ok devices, after) := by
  cases comes with
  | quiet asked => exact ⟨_, asked⟩
  | refreshed asked => exact ⟨_, asked⟩

theorem ComesToPublish.cluster (comes : ComesToPublish provider devices before reached) :
    reached.cluster = before.cluster := by
  cases comes <;> rfl

theorem ComesToPublish.reflects (comes : ComesToPublish provider devices before reached)
    (steady : provider.IsSteady before.provider) :
    Inventory.Reflects devices reached.inventory := by
  cases comes with
  | quiet asked reported known =>
      exact Or.inr ⟨(Inventory.reportedUnhealthy_eq_nil_iff devices).mp reported,
        (Inventory.unhealthy_eq_nil_iff _).mp known⟩
  | refreshed asked seen listed =>
      rw [steady _ _ _ _ asked listed]
      exact Or.inl rfl

/-! ### The notification -/

/-- Whether one notification is raised in the course of some states, and that with an
inventory in place that stays. -/
def RaisedOnce (states : Nat → State σ κ) (raised : Nat) (inventory : Inventory) : Prop :=
  ∃ last, (∀ count ≤ last, (states count).raised = raised) ∧
    (∀ count > last, (states count).raised = raised + 1) ∧
    ∀ count ≥ last, (states count).inventory = inventory

def Stage.isNotified : Stage → Bool
  | .compose => true
  | .patch _ => true
  | .done _ => true
  | _ => false

section
variable (provider : Inventory.Provider σ) (client : Cluster.Client κ) (node : String)
  (handshake : Option String)

theorem advance_notified (report : Underway σ κ) (notified : report.stage.isNotified = true) :
    (report.advance provider client node handshake).stage.isNotified = true ∧
      (report.advance provider client node handshake).state.inventory = report.state.inventory ∧
      (report.advance provider client node handshake).state.raised = report.state.raised := by
  obtain ⟨stage, state⟩ := report
  cases stage with
  | poll | compare | refresh | notify => cases notified
  | compose =>
      cases handshake with
      | none => exact ⟨rfl, rfl, rfl⟩
      | some text => exact ⟨rfl, rfl, rfl⟩
  | patch annotations =>
      rw [Underway.advance]
      split <;> exact ⟨rfl, rfl, rfl⟩
  | done outcome => exact ⟨rfl, rfl, rfl⟩

theorem advanceBy_notified (count : Nat) (report : Underway σ κ)
    (notified : report.stage.isNotified = true) :
    (report.advanceBy provider client node handshake count).stage.isNotified = true ∧
      (report.advanceBy provider client node handshake count).state.inventory =
        report.state.inventory ∧
      (report.advanceBy provider client node handshake count).state.raised =
        report.state.raised := by
  induction count generalizing report with
  | zero => exact ⟨notified, rfl, rfl⟩
  | succ count ih =>
      obtain ⟨still, inventory, raised⟩ :=
        advance_notified provider client node handshake report notified
      obtain ⟨stillOn, inventoryOn, raisedOn⟩ := ih _ still
      exact ⟨stillOn, inventoryOn.trans inventory, raisedOn.trans raised⟩

/-! ### Action by action -/

def ChangesAt {α : Type} (values : Nat → α) (moment : Nat) (old new : α) : Prop :=
  (∀ count < moment, values count = old) ∧ ∀ count ≥ moment, values count = new

/-- Whether the snapshot is replaced, the notification raised and the publication made in the
course of some states, one after another and each once. -/
def NotifiesInOrder (states : Nat → State σ κ) (before after : State σ κ) : Prop :=
  ∃ placed notified published, placed < notified ∧ notified < published ∧
    ChangesAt (fun count => (states count).inventory) placed before.inventory after.inventory ∧
    ChangesAt (fun count => (states count).raised) notified before.raised (before.raised + 1) ∧
    ChangesAt (fun count => (states count).cluster) published before.cluster after.cluster

section
variable {provider client node handshake} {α : Type} {part : State σ κ → α} {old new : α}
  {underway next : Underway σ κ}

theorem always_advance (holds : Underway σ κ → Prop)
    (advances : underway.advance provider client node handshake = next) (now : holds underway)
    (later : ∀ count, holds (next.advanceBy provider client node handshake count)) (count : Nat) :
    holds (underway.advanceBy provider client node handshake count) := by
  cases count with
  | zero => exact now
  | succ count =>
      rw [Underway.advanceBy, advances]
      exact later count

theorem ChangesAt.now
    (kept : ∀ count, part (underway.advanceBy provider client node handshake count).state = new) :
    ChangesAt (fun count => part (underway.advanceBy provider client node handshake count).state)
      0 old new :=
  ⟨fun _ early => absurd early (Nat.not_lt_zero _), fun count _ => kept count⟩

theorem ChangesAt.advance {moment : Nat} (unchanged : part underway.state = old)
    (advances : underway.advance provider client node handshake = next)
    (changes : ChangesAt
      (fun count => part (next.advanceBy provider client node handshake count).state)
      moment old new) :
    ChangesAt (fun count => part (underway.advanceBy provider client node handshake count).state)
      (moment + 1) old new := by
  refine ⟨fun count early => ?_, fun count late => ?_⟩
  · cases count with
    | zero => exact unchanged
    | succ count =>
        dsimp only
        rw [Underway.advanceBy, advances]
        exact changes.1 count (Nat.lt_of_succ_lt_succ early)
  · cases count with
    | zero => exact absurd late (Nat.not_succ_le_zero moment)
    | succ count =>
        dsimp only
        rw [Underway.advanceBy, advances]
        exact changes.2 count (Nat.le_of_succ_le_succ late)

end

section
variable {between after : σ} {cause : Report Inventory.Error}
  {again : List (UInt32 × Inventory.RawDevice)} (state : State σ κ)

theorem advance_unanswered (asked : provider.devices state.provider = (.error cause, between)) :
    (Underway.mk .poll state).advance provider client node handshake =
      ⟨.done (.failed .poll), { state with provider := between }⟩ := by
  simp only [Underway.advance, Inventory.pollUnhealthy, asked]

theorem advance_answered (asked : provider.devices state.provider = (.ok devices, between)) :
    (Underway.mk .poll state).advance provider client node handshake =
      ⟨.compare (Inventory.reportedUnhealthy devices), { state with provider := between }⟩ := by
  simp only [Underway.advance, Inventory.pollUnhealthy, asked]
  rfl

theorem advance_quiet (quiet : Inventory.reportedUnhealthy devices = [] ∧
      state.inventory.snapshot.unhealthy = []) :
    (Underway.mk (.compare (Inventory.reportedUnhealthy devices)) state).advance provider client
      node handshake = ⟨.compose, state⟩ :=
  if_pos ((isEmpty_and_iff _ _).mpr quiet)

theorem advance_seen (seen : ¬ (Inventory.reportedUnhealthy devices = [] ∧
      state.inventory.snapshot.unhealthy = [])) :
    (Underway.mk (.compare (Inventory.reportedUnhealthy devices)) state).advance provider client
      node handshake = ⟨.refresh, state⟩ :=
  if_neg fun quiet => seen ((isEmpty_and_iff _ _).mp quiet)

theorem advance_refused (refused : provider.devices state.provider = (.error cause, after)) :
    (Underway.mk .refresh state).advance provider client node handshake =
      ⟨.done (.failed .refresh), { state with provider := after }⟩ := by
  simp only [Underway.advance, Inventory.refresh, refused]

theorem advance_listed (listed : provider.devices state.provider = (.ok again, after)) :
    (Underway.mk .refresh state).advance provider client node handshake =
      ⟨.notify, { state with
        inventory := state.inventory.replace again
        provider := after }⟩ := by
  simp only [Underway.advance, Inventory.refresh, listed]

theorem changesAt_compose :
    ChangesAt
      (fun count => ((Underway.mk .compose state).advanceBy provider client node handshake
        count).state.cluster)
      2 state.cluster (publish client node handshake state).2.cluster := by
  refine ⟨fun count early => ?_, fun count late => ?_⟩
  · have first : count = 0 ∨ count = 1 := by omega
    rcases first with rfl | rfl
    · rfl
    · cases handshake <;> rfl
  · obtain ⟨more, rfl⟩ := Nat.exists_eq_add_of_le' late
    dsimp only
    rw [Underway.advanceBy_compose]

/-- A report that refreshes replaces the snapshot with its third action, raises the notification
with its fourth and publishes with its sixth. -/
theorem notifiesInOrder (asked : provider.devices before.provider = (.ok devices, between))
    (seen : ¬ (Inventory.reportedUnhealthy devices = [] ∧
      before.inventory.snapshot.unhealthy = []))
    (listed : provider.devices between = (.ok again, after)) :
    NotifiesInOrder
      (fun count =>
        ((Underway.mk .poll before).advanceBy provider client node handshake count).state)
      before
      (publish client node handshake { before with
        inventory := before.inventory.replace again
        raised := before.raised + 1
        provider := after }).2 := by
  have polled := advance_answered provider client node handshake before asked
  have compared := advance_seen provider client node handshake
    { before with provider := between } seen
  have refreshed := advance_listed provider client node handshake
    { before with provider := between } listed
  have composed := fun count => advanceBy_notified provider client node handshake count
    ⟨.compose, { before with
      inventory := before.inventory.replace again
      raised := before.raised + 1
      provider := after }⟩ rfl
  refine ⟨3, 4, 6, by omega, by omega, ?_, ?_, ?_⟩
  · rw [publish_state]
    refine .advance rfl polled (.advance rfl compared (.advance rfl refreshed (.now ?_)))
    intro count
    cases count with
    | zero => rfl
    | succ count => exact (composed count).2.1
  · refine .advance rfl polled (.advance rfl compared (.advance rfl refreshed
      (.advance rfl rfl (.now ?_))))
    exact fun count => (composed count).2.2
  · refine .advance rfl polled (.advance rfl compared (.advance rfl refreshed
      (.advance rfl rfl ?_)))
    exact changesAt_compose provider client node handshake _

end

/-- A report that finds other unhealthy devices than the snapshot has them replaces the snapshot
and then raises the notification. -/
theorem ComesToPublish.raisedOnce (comes : ComesToPublish provider devices before reached)
    (differs : Inventory.reportedUnhealthy devices ≠ before.inventory.snapshot.unhealthy) :
    reached.raised = before.raised + 1 ∧
      RaisedOnce
        (fun count =>
          ((Underway.mk .poll before).advanceBy provider client node handshake count).state)
        before.raised reached.inventory := by
  cases comes with
  | quiet asked reported known => exact absurd (reported.trans known.symm) differs
  | refreshed asked seen listed =>
      obtain ⟨placed, notified, _, first, _, inventory, raised, _⟩ :=
        notifiesInOrder provider client node handshake asked seen listed
      rw [publish_state] at inventory
      refine ⟨rfl, notified - 1, fun count early => ?_, fun count late => ?_,
        fun count late => ?_⟩
      · exact raised.1 count (by omega)
      · exact raised.2 count (by omega)
      · exact inventory.2 count (by omega)

end

/-! ### The publication -/

theorem publish_answered (client : Cluster.Client κ) (node : String) (handshake : Option String)
    (state : State σ κ) :
    (publish client node handshake state).1 ≠ .failed .poll ∧
      (publish client node handshake state).1 ≠ .failed .refresh := by
  unfold publish
  cases handshake with
  | none => exact ⟨Outcome.noConfusion, Outcome.noConfusion⟩
  | some text =>
      dsimp only
      split <;> simp

/-- A publication enters one call, with the annotations of the inventory, unless there is no
handshake to publish. -/
theorem publish_entries (client : Cluster.Client κ) (node : String) (handshake : Option String)
    (state : State σ (Cluster.Ledger κ)) :
    (publish client.withLedger node handshake state).2.cluster.entries =
      state.cluster.entries ++ handshake.toList.map fun text =>
        ⟨state.cluster.caller, .patchNodeAnnotations node (nodeAnnotations state.inventory text),
          none⟩ := by
  rw [publish_state]
  cases handshake with
  | none => exact (List.append_nil _).symm
  | some text => rfl

end Registration
end VirtualNpu
