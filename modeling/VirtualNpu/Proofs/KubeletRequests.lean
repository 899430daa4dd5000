import VirtualNpu.Machine.Basic
import VirtualNpu.Plugin.Trial

/-!
The requests that the kubelet gets.  A host is true to it if a request comes in when one is
brought to where the kubelet listens, and at no other time; the played machine is.
-/

namespace VirtualNpu
namespace Plugin

variable {ω : Type}

/-- A host that brings requests as told: `reaches` says whether the kubelet listens at a path, and
`received` are the requests that it got, in order. -/
structure BringsRequests (host : Host ω) (reaches : String → ω → Bool)
    (received : ω → List Request) : Prop where
  cleared : ∀ path machine, received (host.clear path machine).2 = received machine
  listened : ∀ path period machine,
    received (host.listen path period machine).2 = received machine
  probed : ∀ path machine, received (host.probe path machine).2 = received machine
  registered : ∀ path request machine,
    received (host.register path request machine).2 =
      received machine ++ if reaches path machine then [request] else []

section
variable {σ κ : Type} {host : Host ω} {reaches : String → ω → Bool}
  {received : ω → List Request} (plugin : Plugin σ κ ω)

theorem BringsRequests.probing (brings : BringsRequests host reaches received) :
    received (plugin.probing host).2 = received plugin.machine :=
  (brings.probed _ _).trans ((brings.listened _ _ _).trans (brings.cleared _ _))

theorem BringsRequests.registering (brings : BringsRequests host reaches received) :
    received (plugin.registering host).2 =
      received plugin.machine ++
        if reaches plugin.settings.kubeletSocket (plugin.probing host).2 then [plugin.request]
        else [] := by
  rw [← brings.probing plugin]
  exact brings.registered _ _ _

/-- Only at the last hurdle the kubelet is asked. -/
theorem BringsRequests.stuckAt (brings : BringsRequests host reaches received)
    (hurdle : Hurdle) (early : hurdle ≠ .register) :
    received (plugin.stuckAt host hurdle) = received plugin.machine := by
  cases hurdle with
  | refresh => rfl
  | bind =>
      cases cleared : (plugin.clearing host).1 with
      | false =>
          rw [stuckAt_bind_uncleared cleared]
          exact brings.cleared _ _
      | true =>
          rw [stuckAt_bind_cleared cleared]
          exact (brings.listened _ _ _).trans (brings.cleared _ _)
  | probe => exact brings.probing plugin
  | register => exact absurd rfl early

end
end Plugin

namespace Machine

private theorem act_requests (machine : Machine) (kind : Failing) (files : Option FileTree) :
    (machine.act kind files).2.requests = machine.requests := by
  unfold act
  split <;> rfl

theorem receive_of_kubelet {machine : Machine} {path : String}
    (kubelet : machine.listener? path = some .kubelet) (request : Plugin.Request) :
    machine.receive path request =
      (!machine.refusing && Failing.register ∉ machine.failing,
        { machine with requests := request :: machine.requests }) := by
  unfold receive
  rw [kubelet]

theorem receive_of_other {machine : Machine} {path : String}
    (other : machine.listener? path ≠ some .kubelet) (request : Plugin.Request) :
    machine.receive path request = (false, machine) := by
  unfold receive
  split
  · rename_i kubelet
    exact absurd kubelet other
  · rfl

theorem played_bringsRequests :
    Plugin.BringsRequests played (fun path machine => machine.listener? path == some .kubelet)
      fun machine => machine.requests.reverse where
  cleared _ machine := congrArg List.reverse (act_requests machine _ _)
  listened _ _ machine := congrArg List.reverse (act_requests machine _ _)
  probed _ _ := rfl
  registered path request machine := by
    change (machine.receive path request).2.requests.reverse = _
    by_cases kubelet : machine.listener? path = some .kubelet
    · rw [receive_of_kubelet kubelet, kubelet]
      exact List.reverse_cons
    · rw [receive_of_other kubelet, if_neg (fun same => kubelet (eq_of_beq same)),
        List.append_nil]

end Machine
end VirtualNpu
