import VirtualNpu.Supervisor.Run
import VirtualNpu.Text.Basic

/-!
The watch of the plugin directory: which of its reports tell that the kubelet has
come back.
-/

namespace VirtualNpu
namespace Supervisor

structure Change where
  isCreation : Bool
  paths : List String
  deriving DecidableEq

def Change.creates (name : String) (change : Change) : Bool :=
  change.isCreation && change.paths.any fun path => Text.fileName? path == some name

def eventOfReport (socketName : String) : Except String Change → Option Event
  | .ok change => if change.creates socketName then some .socketRecreated else none
  | .error message => some (.watchError message)

end Supervisor
end VirtualNpu
