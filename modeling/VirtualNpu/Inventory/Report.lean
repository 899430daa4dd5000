/-!
Inventory errors, and reports: an error together with the inventory errors it
rests on and the notes attached on its way up.
-/

namespace VirtualNpu
namespace Inventory

inductive Error where
  | enumerate (message : String)
  | query (logicId : UInt32) (message : String)
  | cleanup (message : String)
  deriving DecidableEq

def Error.message : Error → String
  | .enumerate message => "Failed to enumerate devices: " ++ message
  | .query logicId message =>
      "Failed to query device " ++ toString logicId.toNat ++ ": " ++ message
  | .cleanup message => "Failed to clean up idle devices: " ++ message

end Inventory

/-- An error, the inventory errors beneath it from the top down, and the notes
attached to it. -/
structure Report (ε : Type) where
  error : ε
  causes : List Inventory.Error
  notes : List String
  deriving DecidableEq

namespace Report

def of {ε : Type} (error : ε) : Report ε := ⟨error, [], []⟩

def note {ε : Type} (report : Report ε) (text : String) : Report ε :=
  { report with notes := text :: report.notes }

def above {ε : Type} (error : ε) (report : Report Inventory.Error) : Report ε :=
  ⟨error, report.error :: report.causes, report.notes⟩

end Report
end VirtualNpu
