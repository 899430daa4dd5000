import VirtualNpu.Cluster.Client
import VirtualNpu.Registration.Entry
import VirtualNpu.Registration.Handshake

/-!
The reporter publishes the devices of a node and a handshake again and again.
While a device is unhealthy, or was at the last look, it refreshes the inventory
first and raises one health notification.
-/

namespace VirtualNpu
namespace Registration

/-- The delays of the reporter in milliseconds: before the first report, after a
report that succeeded, and after one that failed. -/
structure Intervals where
  initial : Nat
  steady : Nat
  onError : Nat
  deriving DecidableEq

/-- A second, then half a minute, and five seconds after a failure. -/
def Intervals.default : Intervals := ⟨1000, 30000, 5000⟩

inductive Error where
  | poll
  | refresh
  | publish
  deriving DecidableEq

def Error.message : Error → String
  | .poll => "Failed to poll device health"
  | .refresh => "Failed to refresh unhealthy devices"
  | .publish => "Failed to publish node annotations"

/-- How a report ended.  Where the handshake leaves the calendar the reporter
itself comes to its end. -/
inductive Outcome where
  | published
  | failed (error : Error)
  | crashed
  deriving DecidableEq

def nodeAnnotations (inventory : Inventory) (handshake : String) :
    Cluster.Annotations :=
  .ofList
    [(Cluster.nodeRegister inventory.family.commonWord, encode (entries inventory)),
      (Cluster.nodeHandshake inventory.family.commonWord, handshake)]

structure State (σ κ : Type) where
  inventory : Inventory
  raised : Nat
  provider : σ
  cluster : κ

def healthCounter (raised : Nat) : UInt64 := UInt64.ofNat raised

variable {σ κ : Type}

/-- Refreshes the inventory and raises a notification, if any device is known to
be unhealthy. -/
def refreshUnhealthy (provider : Inventory.Provider σ) (polled : List UInt32)
    (state : State σ κ) : Except Error Unit × State σ κ :=
  if polled.isEmpty && state.inventory.snapshot.unhealthy.isEmpty then (.ok (), state)
  else
    match state.inventory.refresh provider state.provider with
    | (.error _, after) => (.error .refresh, { state with provider := after })
    | (.ok inventory, after) =>
        (.ok (), { state with inventory, provider := after, raised := state.raised + 1 })

def publish (client : Cluster.Client κ) (node : String) (handshake : Option String)
    (state : State σ κ) : Outcome × State σ κ :=
  match handshake with
  | none => (.crashed, state)
  | some text =>
      match client.patchNodeAnnotations node (nodeAnnotations state.inventory text)
        state.cluster with
      | (.ok _, after) => (.published, { state with cluster := after })
      | (.error _, after) => (.failed .publish, { state with cluster := after })

/-- Makes one report; `handshake` is its text where the calendar has one. -/
def report (provider : Inventory.Provider σ) (client : Cluster.Client κ) (node : String)
    (handshake : Option String) (state : State σ κ) : Outcome × State σ κ :=
  match Inventory.pollUnhealthy provider state.provider with
  | (.error _, after) => (.failed .poll, { state with provider := after })
  | (.ok polled, after) =>
      match refreshUnhealthy provider polled { state with provider := after } with
      | (.error error, refused) => (.failed error, refused)
      | (.ok _, refreshed) => publish client node handshake refreshed

/-- The delay after a report; none follows one that ended the reporter. -/
def Intervals.after (intervals : Intervals) : Outcome → Option Nat
  | .published => some intervals.steady
  | .failed _ => some intervals.onError
  | .crashed => none

/-- A running reporter: its delays, the offset of its handshake in seconds and
the time of its next report in milliseconds. -/
structure Reporter where
  intervals : Intervals
  offset : Int
  due : Nat
  deriving DecidableEq

def Reporter.start (intervals : Intervals) (offset : Int) (now : Nat) : Reporter :=
  ⟨intervals, offset, now + intervals.initial⟩

end Registration
end VirtualNpu
