import VirtualNpu.Inventory.Report

/-!
Where the facts about the chips of a node come from.  A provider answers from a
state of its own, which each question may change.
-/

namespace VirtualNpu
namespace Inventory

/-- What a provider says about one device.  A negative `numa` is an unknown node. -/
structure RawDevice where
  uuid : String
  physicalId : UInt32
  cardId : UInt32
  deviceId : UInt32
  numa : Int32
  healthy : Bool
  deriving DecidableEq

abbrev Answer (σ α : Type) := Except (Report Error) α × σ

/-- A source of device facts with states in `σ`.  `cleanupIdle` tears down the
virtual devices that no container uses any more. -/
structure Provider (σ : Type) where
  chipName : σ → Answer σ String
  logicIds : σ → Answer σ (List UInt32)
  query : UInt32 → σ → Answer σ RawDevice
  devices : σ → Answer σ (List (UInt32 × RawDevice))
  cleanupIdle : σ → Answer σ Unit

/-- Asks for one device after the other; the first failure ends the listing and
is noted with the device it came from. -/
def queryEach {σ : Type} (query : UInt32 → σ → Answer σ RawDevice) :
    List UInt32 → σ → Answer σ (List (UInt32 × RawDevice))
  | [], state => (.ok [], state)
  | id :: rest, state =>
      match query id state with
      | (.error report, after) =>
          (.error (report.note ("listing aborted at device " ++ toString id.toNat)), after)
      | (.ok device, after) =>
          match queryEach query rest after with
          | (.error report, last) => (.error report, last)
          | (.ok devices, last) => (.ok ((id, device) :: devices), last)

def listByQuery {σ : Type} (logicIds : σ → Answer σ (List UInt32))
    (query : UInt32 → σ → Answer σ RawDevice) (state : σ) :
    Answer σ (List (UInt32 × RawDevice)) :=
  match logicIds state with
  | (.error report, after) => (.error report, after)
  | (.ok ids, after) => queryEach query ids after

end Inventory
end VirtualNpu
