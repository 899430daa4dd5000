import VirtualNpu.Inventory.Provider
import VirtualNpu.Yaml.Content

/-!
The static listing of a node's chips, and the provider that reads it.  The
listing is read anew for every question.
-/

namespace VirtualNpu
namespace Inventory

open Yaml (Reading Content)

structure Listing where
  chipName : String
  devices : List (UInt32 × RawDevice)
  deriving DecidableEq

/-- A text, as which no other kind of value is taken. -/
def textOf? : Content → Option String
  | .text s => some s
  | _ => none

def uint32Of? : Content → Option UInt32
  | .int n => if 0 ≤ n ∧ n ≤ 0xFFFFFFFF then some (UInt32.ofNat n.toNat) else none
  | _ => none

def int32Of? : Content → Option Int32
  | .int n => if -0x80000000 ≤ n ∧ n ≤ 0x7FFFFFFF then some (Int32.ofInt n) else none
  | _ => none

def boolOf? : Content → Option Bool
  | .bool b => some b
  | _ => none

/-- The one value of a field; `some none` if it is left out, and `none` if it is
given twice. -/
def fieldOf? (name : String) (fields : List (String × Content)) : Option (Option Content) :=
  match fields.filter fun field => field.1 = name with
  | [] => some none
  | [(_, content)] => some (some content)
  | _ => none

def requiredField? {α : Type} (name : String) (read : Content → Option α)
    (fields : List (String × Content)) : Option α := do
  match ← fieldOf? name fields with
  | some content => read content
  | none => none

def fieldOr? {α : Type} (name : String) (value : α) (read : Content → Option α)
    (fields : List (String × Content)) : Option α := do
  match ← fieldOf? name fields with
  | some content => read content
  | none => some value

/-- The device that the fields of an entry describe.  Its NUMA node is unknown
and it is healthy unless the entry says otherwise. -/
def RawDevice.ofFields? (fields : List (String × Content)) : Option RawDevice := do
  some
    { uuid := ← requiredField? "uuid" textOf? fields
      physicalId := ← requiredField? "physicalId" uint32Of? fields
      cardId := ← requiredField? "cardId" uint32Of? fields
      deviceId := ← requiredField? "deviceId" uint32Of? fields
      numa := ← fieldOr? "numa" (-1) int32Of? fields
      healthy := ← fieldOr? "healthy" true boolOf? fields }

/-- How deep collections may nest below an entry of the listing. -/
def entryDepth : Nat := 125

def readEntryFrom (document : Yaml.Document) :
    Option UInt32 → List (String × Content) → List (Yaml.Node × Yaml.Node) →
    Reading (Option UInt32 × List (String × Content))
  | logicId, fields, [] => pure (logicId, fields.reverse)
  | logicId, fields, (key, value) :: rest => do
      let name ← document.readText key
      if name = "logicId" then
        match logicId with
        | some _ => failure
        | none =>
            let id ← document.readNat 0xFFFFFFFF value
            readEntryFrom document (some (UInt32.ofNat id)) fields rest
      else
        let content ← document.readContent entryDepth value
        readEntryFrom document logicId ((name, content) :: fields) rest

def readEntry (document : Yaml.Document) (node : Yaml.Node) : Reading (UInt32 × RawDevice) := do
  match ← readEntryFrom document none [] (← document.readEntries node) with
  | (some logicId, fields) =>
      match RawDevice.ofFields? fields with
      | some device => pure (logicId, device)
      | none => failure
  | (none, _) => failure

def readListing (document : Yaml.Document) (node : Yaml.Node) : Reading Listing := do
  match ← document.readFields ["chipName", "devices"] node with
  | [chipName, devices] =>
      let entries (node : Yaml.Node) : Reading (List (UInt32 × RawDevice)) := do
        (← document.readItems node).mapM (readEntry document)
      return { chipName := ← Yaml.Document.required document.readText chipName
               devices := ← Yaml.Document.orDefault [] entries devices }
  | _ => failure

def Listing.parse? (text : String) : Option Listing :=
  Yaml.readDocument? text readListing

abbrev ListingFile := Option String

def readFile (path : String) (file : ListingFile) : Except (Report Error) Listing :=
  match file with
  | none => .error (.of (.enumerate ("cannot read " ++ path)))
  | some text =>
      match Listing.parse? text with
      | some listing => .ok listing
      | none => .error (.of (.enumerate ("cannot parse " ++ path)))

def queryFile (path : String) (logicId : UInt32) (file : ListingFile) :
    Except (Report Error) RawDevice :=
  match readFile path file with
  | .error report => .error (.above (.query logicId "inventory listing unavailable") report)
  | .ok listing =>
      match listing.devices.find? fun device => device.1 = logicId with
      | some device => .ok device.2
      | none => .error (.of (.query logicId "device no longer listed"))

/-- The provider that reads the listing at a path.  It has all devices from one
reading, and nothing to clean up. -/
def listed (path : String) : Provider ListingFile where
  chipName file := ((readFile path file).map Listing.chipName, file)
  logicIds file := ((readFile path file).map fun listing => listing.devices.map Prod.fst, file)
  query logicId file := (queryFile path logicId file, file)
  devices file := ((readFile path file).map Listing.devices, file)
  cleanupIdle file := (.ok (), file)

end Inventory
end VirtualNpu
