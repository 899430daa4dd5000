import VirtualNpu.Registration.Reporter

/-!
A report under way: the same report action by action, so that what others see of the node
in between can be told.
-/

namespace VirtualNpu
namespace Registration

variable {σ κ : Type}

inductive Stage where
  | poll
  | compare (polled : List UInt32)
  | refresh
  | notify
  | compose
  | patch (annotations : Cluster.Annotations)
  | done (outcome : Outcome)

structure Underway (σ κ : Type) where
  stage : Stage
  state : State σ κ

namespace Underway

def advance (provider : Inventory.Provider σ) (client : Cluster.Client κ) (node : String)
    (handshake : Option String) : Underway σ κ → Underway σ κ
  | ⟨.poll, state⟩ =>
      match Inventory.pollUnhealthy provider state.provider with
      | (.error _, after) => ⟨.done (.failed .poll), { state with provider := after }⟩
      | (.ok polled, after) => ⟨.compare polled, { state with provider := after }⟩
  | ⟨.compare polled, state⟩ =>
      if polled.isEmpty && state.inventory.snapshot.unhealthy.isEmpty then ⟨.compose, state⟩
      else ⟨.refresh, state⟩
  | ⟨.refresh, state⟩ =>
      match state.inventory.refresh provider state.provider with
      | (.error _, after) => ⟨.done (.failed .refresh), { state with provider := after }⟩
      | (.ok inventory, after) => ⟨.notify, { state with inventory, provider := after }⟩
  | ⟨.notify, state⟩ => ⟨.compose, { state with raised := state.raised + 1 }⟩
  | ⟨.compose, state⟩ =>
      match handshake with
      | none => ⟨.done .crashed, state⟩
      | some text => ⟨.patch (nodeAnnotations state.inventory text), state⟩
  | ⟨.patch annotations, state⟩ =>
      match client.patchNodeAnnotations node annotations state.cluster with
      | (.ok _, after) => ⟨.done .published, { state with cluster := after }⟩
      | (.error _, after) => ⟨.done (.failed .publish), { state with cluster := after }⟩
  | ⟨.done outcome, state⟩ => ⟨.done outcome, state⟩

def advanceBy (provider : Inventory.Provider σ) (client : Cluster.Client κ) (node : String)
    (handshake : Option String) : Nat → Underway σ κ → Underway σ κ
  | 0, report => report
  | count + 1, report =>
      advanceBy provider client node handshake count
        (report.advance provider client node handshake)

/-! ### The whole report -/

section
variable (provider : Inventory.Provider σ) (client : Cluster.Client κ) (node : String)
  (handshake : Option String)

theorem advanceBy_done (count : Nat) (outcome : Outcome) (state : State σ κ) :
    (mk (.done outcome) state).advanceBy provider client node handshake count =
      ⟨.done outcome, state⟩ := by
  induction count with
  | zero => rfl
  | succ count ih => exact ih

theorem advanceBy_compose (count : Nat) (state : State σ κ) :
    (mk .compose state).advanceBy provider client node handshake (count + 2) =
      ⟨.done (publish client node handshake state).1,
        (publish client node handshake state).2⟩ := by
  unfold publish
  cases handshake with
  | none => exact advanceBy_done provider client node none (count + 1) .crashed state
  | some text =>
      rcases patched : client.patchNodeAnnotations node (nodeAnnotations state.inventory text)
        state.cluster with ⟨refusal | patched, after⟩
      · simp only [advanceBy, advance, patched]
        exact advanceBy_done provider client node (some text) count (.failed .publish) _
      · simp only [advanceBy, advance, patched]
        exact advanceBy_done provider client node (some text) count .published _

/-- A report is done after six actions at most. -/
theorem advanceBy_six_poll (state : State σ κ) :
    (mk .poll state).advanceBy provider client node handshake 6 =
      ⟨.done (report provider client node handshake state).1,
        (report provider client node handshake state).2⟩ := by
  rcases asked : provider.devices state.provider with ⟨failure | devices, between⟩
  · simp only [report, Inventory.pollUnhealthy, asked, advanceBy, advance]
  · by_cases quiet : (((devices.filter fun device => !device.2.healthy).map Prod.fst).isEmpty &&
        state.inventory.snapshot.unhealthy.isEmpty) = true
    · simp only [report, refreshUnhealthy, Inventory.pollUnhealthy, asked, if_pos quiet]
      rw [advanceBy, advance, Inventory.pollUnhealthy, asked]
      dsimp only
      rw [advanceBy, advance, if_pos quiet]
      exact advanceBy_compose provider client node handshake 2 _
    · simp only [report, refreshUnhealthy, Inventory.pollUnhealthy, asked, if_neg quiet]
      rw [advanceBy, advance, Inventory.pollUnhealthy, asked]
      dsimp only
      rw [advanceBy, advance, if_neg quiet, advanceBy, advance]
      rcases again : provider.devices between with ⟨failure | listed, after⟩
      · simp only [Inventory.refresh, again, advanceBy_done]
      · simp only [Inventory.refresh, again]
        exact advanceBy_compose provider client node handshake 0 _

end

end Underway
end Registration
end VirtualNpu
