import VirtualNpu.Daemon.Setup
import VirtualNpu.Plugin.Serving
import VirtualNpu.Supervisor.DirectoryWatch

/-!
The daemon: a plugin under a supervisor.
-/

namespace VirtualNpu
namespace Daemon

variable {κ ω : Type}

def plugin (arguments : CommandLine.DaemonArguments) (setup : Setup)
    (listing : Inventory.ListingFile) (cluster : κ) (machine : ω) :
    Plugin Inventory.ListingFile κ ω :=
  Plugin.new
    { directory := arguments.devicePluginDir
      kubeletSocket := arguments.kubeletSocketPath
      intervals := .default
      offset := setup.offset }
    (Node.start arguments.nodeName setup.family listing cluster) machine

inductive Notice where
  | input (taken : Supervisor.Input)
  | watch (report : Except String Supervisor.Change)

def Notice.input? (socketName : String) : Notice → Option Supervisor.Input
  | .input taken => some taken
  | .watch report => (Supervisor.eventOfReport socketName report).map .event

structure Standing (ω : Type) where
  result : Option (Except Failure Unit)
  machine : ω

def run (host : Plugin.Host ω) (surroundings : Surroundings)
    (arguments : CommandLine.DaemonArguments) (notices : List Notice) (cluster : κ)
    (machine : ω) : Standing ω :=
  match setup surroundings arguments with
  | .error failure => ⟨some (.error failure), machine⟩
  | .ok setup =>
      let path := arguments.inventoryFile
      let life := Plugin.lifecycle (Inventory.listed path) host
      let inputs := notices.filterMap (Notice.input? setup.socketName)
      let start := plugin arguments setup (surroundings.read path) cluster machine
      let (phase, after) := Supervisor.run life inputs start
      ⟨phase.result?.map fun result => result.mapError .supervisor, after.machine⟩

end Daemon
end VirtualNpu
