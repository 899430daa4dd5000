import VirtualNpu.Plugin.Course
import VirtualNpu.Plugin.Trial

/-!
The diary of a course: its starts with what they have come to, and the cluster calls of the
reporters with the periods that they belong to.  It only looks on.
-/

namespace VirtualNpu
namespace Plugin

variable {σ κ ω : Type}

def World.withCalls (world : World σ κ ω) : World σ (Cluster.Ledger κ) ω :=
  { provider := world.provider
    client := world.client.withLedger
    clock := fun time => .mapCluster (world.clock time)
    handshake := world.handshake
    host := world.host }

/-- A start with its result: the period that it opens, and the machine on which it asks the
kubelet, if it comes to that. -/
structure Opening (ω : Type) where
  period : Nat
  result : Except (Report Error) Unit
  asking : Option ω

structure Reported where
  period : Nat
  entry : Cluster.Entry

structure Diary (σ κ ω : Type) where
  course : Course σ (Cluster.Ledger κ) ω
  starts : List (Opening ω)
  reported : List Reported

def startedBy (world : World σ κ ω) (before : Plugin σ κ (Ledger ω)) :
    Act σ κ ω → List (Opening ω)
  | .call .start =>
      [{ period := before.opened
         result := (start world.provider world.host.withLedger before).1
         asking := before.withoutLedger.askingKubelet? world.host world.provider }]
  | _ => []

/-- The calls that a report has entered.  A reporter belongs to the period opened last. -/
def reportedBy (before after : Plugin σ (Cluster.Ledger κ) (Ledger ω)) :
    Act σ (Cluster.Ledger κ) ω → List Reported
  | .awaitReport =>
      let earlier := before.node.state.cluster.entries
      (after.node.state.cluster.entries.drop earlier.length).map fun entry =>
        ⟨before.opened - 1, entry⟩
  | _ => []

namespace Diary

def start (settings : Settings) (node : Node σ (Cluster.Ledger κ)) (machine : ω) :
    Diary σ κ ω :=
  ⟨.start settings node machine, [], []⟩

def step (world : World σ κ ω) (diary : Diary σ κ ω) (act : Act σ (Cluster.Ledger κ) ω) :
    Diary σ κ ω :=
  let after := diary.course.step world.withCalls act
  { course := after
    starts := diary.starts ++ startedBy world.withCalls diary.course.plugin act
    reported := diary.reported ++ reportedBy diary.course.plugin after.plugin act }

def run (world : World σ κ ω) (acts : List (Act σ (Cluster.Ledger κ) ω))
    (diary : Diary σ κ ω) : Diary σ κ ω :=
  acts.foldl (step world) diary

theorem run_course (world : World σ κ ω) (acts : List (Act σ (Cluster.Ledger κ) ω))
    (diary : Diary σ κ ω) :
    (diary.run world acts).course = diary.course.run world.withCalls acts := by
  induction acts generalizing diary with
  | nil => rfl
  | cons act rest ih => exact ih (diary.step world act)

end Diary
end Plugin
end VirtualNpu
