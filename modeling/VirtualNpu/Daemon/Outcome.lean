import VirtualNpu.Daemon.Setup
import VirtualNpu.Text.Basic

/-!
How the program ends: its exit code, what it prints, and the first line of its
error.
-/

namespace VirtualNpu
namespace Daemon

structure Outcome where
  exitCode : Nat
  output : String
  errorLine : Option String
  deriving DecidableEq

namespace Outcome

def ofUsage (error : CommandLine.Error) : Outcome :=
  ⟨error.exitCode, "", error.message?.map fun message => "error: " ++ Text.firstLine message⟩

def failed (exitCode : Nat) (message : Option String) : Outcome :=
  ⟨exitCode, "", message.map fun message => "Error: " ++ Text.firstLine message⟩

def ofDaemon : Except Failure Unit → Outcome
  | .ok _ => ⟨0, "", none⟩
  | .error failure => failed failure.exitCode failure.message?

def familyLine (family : Config.ChipFamily) : String :=
  family.chipName ++ ": resource " ++ family.resourceName ++ " (" ++ family.commonWord ++ "), "
    ++ toString family.virtualSlots.toNat ++ " virtual devices per chip\n"

def shown (config : Config.DeviceConfig) : String :=
  String.join (config.families.map familyLine) ++ config.render ++ "\n"

def ofConfig (path : String) (text : Option String) : Outcome :=
  match Config.DeviceConfig.load path text with
  | .ok config => ⟨0, shown config, none⟩
  | .error error => failed 1 (some ("invalid device config: " ++ error.message))

end Outcome
end Daemon
end VirtualNpu
