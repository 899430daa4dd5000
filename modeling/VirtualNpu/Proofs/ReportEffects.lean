import VirtualNpu.Registration.Reporter

/-!
What one report changes of the state it works on: the inventory and the health counter
together or not at all, and the cluster by one publication at most.
-/

namespace VirtualNpu

variable {σ κ : Type}

namespace Inventory

theorem refresh_family (inventory refreshed : Inventory) (provider : Provider σ)
    (state after : σ) (done : inventory.refresh provider state = (.ok refreshed, after)) :
    refreshed.family = inventory.family := by
  unfold refresh at done
  split at done
  · cases done
  · cases done
    rfl

end Inventory

namespace Registration

theorem publish_state (client : Cluster.Client κ) (node : String)
    (handshake : Option String) (state : State σ κ) :
    (publish client node handshake state).2 =
      { state with
        cluster :=
          match handshake with
          | none => state.cluster
          | some text =>
              (client.patchNodeAnnotations node (nodeAnnotations state.inventory text)
                state.cluster).2 } := by
  unfold publish
  cases handshake with
  | none => rfl
  | some text =>
      dsimp only
      split
      · rename_i done
        rw [done]
      · rename_i failed
        rw [failed]

/-- The snapshot and the health counter as one report leaves them: untouched, or the
snapshot replaced and the counter raised by one. -/
structure Refreshed (before after : State σ κ) : Prop where
  family : after.inventory.family = before.inventory.family
  counted : after.inventory = before.inventory ∧ after.raised = before.raised ∨
    after.raised = before.raised + 1

/-- Refreshing on account of unhealthy devices does not touch the cluster. -/
theorem refreshUnhealthy_effect (provider : Inventory.Provider σ) (polled : List UInt32)
    (state : State σ κ) :
    Refreshed state (refreshUnhealthy provider polled state).2 ∧
      (refreshUnhealthy provider polled state).2.cluster = state.cluster := by
  unfold refreshUnhealthy
  split
  · exact ⟨⟨rfl, Or.inl ⟨rfl, rfl⟩⟩, rfl⟩
  · split
    · exact ⟨⟨rfl, Or.inl ⟨rfl, rfl⟩⟩, rfl⟩
    · rename_i inventory after refreshed
      exact ⟨⟨Inventory.refresh_family _ _ _ _ _ refreshed, Or.inr rfl⟩, rfl⟩

/-- A report refreshes at most once and publishes at most once, in this order. -/
theorem report_effect (provider : Inventory.Provider σ) (client : Cluster.Client κ)
    (node : String) (handshake : Option String) (state : State σ κ) :
    Refreshed state (report provider client node handshake state).2 ∧
      ((report provider client node handshake state).2.cluster = state.cluster ∨
        ∃ annotations,
          (report provider client node handshake state).2.cluster =
            (client.patchNodeAnnotations node annotations state.cluster).2) := by
  unfold report
  split
  · exact ⟨⟨rfl, Or.inl ⟨rfl, rfl⟩⟩, Or.inl rfl⟩
  · rename_i polled after _asked
    have effect := refreshUnhealthy_effect provider polled { state with provider := after }
    split
    · rename_i refused
      rw [refused] at effect
      exact ⟨⟨effect.1.family, effect.1.counted⟩, Or.inl effect.2⟩
    · rename_i refreshed done
      rw [done] at effect
      obtain ⟨kept, same⟩ := effect
      dsimp only at same
      rw [publish_state]
      refine ⟨⟨kept.family, kept.counted⟩, ?_⟩
      cases handshake with
      | none => exact Or.inl same
      | some text =>
          refine Or.inr ⟨nodeAnnotations refreshed.inventory text, ?_⟩
          dsimp only
          rw [same]

end Registration
end VirtualNpu
