import VirtualNpu.Inventory.Provider

/-!
A provider whose answers are given beforehand, with failures placed at will.  It
stands in for a driver when a run is to be followed step by step.
-/

namespace VirtualNpu
namespace Inventory

/-- What a scripted provider answers.  `failAt` is the number of the query that
fails, counted from the last time it was set. -/
structure Script where
  chip : String
  devices : List (UInt32 × RawDevice)
  ids : Option (List UInt32)
  failAt : Option Nat
  queries : Nat
  failEnumerate : Bool
  failCleanup : Bool
  cleanups : Nat

namespace Script

def quiet (chip : String) : Script := ⟨chip, [], none, none, 0, false, false, 0⟩

def logicIds (script : Script) : Answer Script (List UInt32) :=
  if script.failEnumerate then (.error (.of (.enumerate "injected")), script)
  else (.ok (script.ids.getD (script.devices.map Prod.fst)), script)

def query (id : UInt32) (script : Script) : Answer Script RawDevice :=
  let after := { script with queries := script.queries + 1 }
  if script.failAt = some script.queries then
    (.error (.of (.query id "injected")), after)
  else
    match script.devices.find? fun device => device.1 = id with
    | some device => (.ok device.2, after)
    | none => (.error (.of (.query id "unknown device")), after)

def cleanupIdle (script : Script) : Answer Script Unit :=
  let after := { script with cleanups := script.cleanups + 1 }
  if script.failCleanup then (.error (.of (.cleanup "injected")), after)
  else (.ok (), after)

def setHealth (script : Script) (id : UInt32) (healthy : Bool) : Script :=
  match script.devices.findIdx? fun device => device.1 = id with
  | some index =>
      { script with
        devices := script.devices.modify index fun device =>
          (device.1, { device.2 with healthy }) }
  | none => script

def failQuery (script : Script) (n : Option Nat) : Script :=
  { script with failAt := n, queries := 0 }

end Script

def scripted : Provider Script where
  chipName script := (.ok script.chip, script)
  logicIds := Script.logicIds
  query := Script.query
  devices := listByQuery Script.logicIds Script.query
  cleanupIdle := Script.cleanupIdle

end Inventory
end VirtualNpu
