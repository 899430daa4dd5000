import VirtualNpu.Cluster.Kubeconfig
import VirtualNpu.CommandLine.Invocation
import VirtualNpu.Config.Document
import VirtualNpu.Inventory.Listing
import VirtualNpu.Supervisor.Run

/-!
What the daemon finds out before it starts its plugin: the family of the node's
chips, the cluster, and the socket whose creation it watches for.
-/

namespace VirtualNpu
namespace Daemon

inductive Failure where
  | config (error : Config.Error)
  | chipName (error : Inventory.Error)
  | family (error : Config.Error)
  | cluster (error : Cluster.Error)
  | offsetOutOfRange
  | noSocketName
  | watch (directory : String)
  | supervisor (failure : Supervisor.Failure)
  deriving DecidableEq

/-- The wording of a failure.  An offset that is no span of time ends the program
without a word of this kind. -/
def Failure.message? : Failure → Option String
  | .config error => some ("failed to load device config: " ++ error.message)
  | .chipName error => some ("failed to detect chip name: " ++ error.message)
  | .family error => some ("no configuration for this node's chips: " ++ error.message)
  | .cluster error => some ("failed to create Kubernetes client: " ++ error.message)
  | .offsetOutOfRange => none
  | .noSocketName => some "kubelet socket path has no file name"
  | .watch directory => some ("failed to watch " ++ directory)
  | .supervisor failure => some failure.message

def Failure.exitCode : Failure → Nat
  | .offsetOutOfRange => 101
  | _ => 1

structure Surroundings where
  read : String → Option String
  isThere : String → Bool
  home : Option String

structure Setup where
  family : Config.ChipFamily
  cluster : String
  offset : Int
  socketName : String
  deriving DecidableEq

variable (surroundings : Surroundings) (arguments : CommandLine.DaemonArguments)

/-- The name of the node's chips: the one given, else the one listed. -/
def chipName : Except Failure String :=
  match arguments.chipName with
  | some name => .ok name
  | none =>
      let path := arguments.inventoryFile
      ((Inventory.listed path).chipName (surroundings.read path)).1.mapError fun report =>
        .chipName report.error

def family : Except Failure Config.ChipFamily := do
  let path := arguments.configFile
  let config ← (Config.DeviceConfig.load path (surroundings.read path)).mapError .config
  let name ← chipName surroundings arguments
  (config.family name).mapError .family

def clusterAddress : Except Failure String :=
  let reached := match arguments.kubeconfig with
    | some path => Cluster.connect path (surroundings.read path)
    | none => Cluster.connectDefault
        (surroundings.home.bind fun home => surroundings.read (Text.joinPath home ".kube/config"))
  reached.mapError .cluster

/-- Finds out everything in order; the first failure is the one told. -/
def setup : Except Failure Setup := do
  let family ← family surroundings arguments
  let cluster ← clusterAddress surroundings arguments
  let offset ← match arguments.handshakeSpan? with
    | some offset => .ok offset
    | none => .error .offsetOutOfRange
  let socketName ← match Text.fileName? arguments.kubeletSocketPath with
    | some name => .ok name
    | none => .error .noSocketName
  if surroundings.isThere arguments.devicePluginDir then
    return ⟨family, cluster, offset, socketName⟩
  else throw (.watch arguments.devicePluginDir)

end Daemon
end VirtualNpu
