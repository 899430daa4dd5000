import VirtualNpu.Daemon.Outcome
import VirtualNpu.Daemon.Run

/-!
The program: it reads the environment and the files that a command names, and
prints how the command ends.  It opens no sockets.
-/

namespace VirtualNpu

def readText (path : String) : IO (Option String) := do
  try
    return some (← IO.FS.readFile path)
  catch _ => return none

def canOpen (path : String) : IO Bool := do
  try
    let _ ← IO.FS.Handle.mk path .read
    return true
  catch _ => return false

def readEnvironment : IO (String → Option String) := do
  let names := "HOME" :: CommandLine.Command.daemon.flags.filterMap CommandLine.Flag.environmentName
  let values ← names.mapM fun name => return (name, ← IO.getEnv name)
  return fun name => (List.lookup name values).join

def surroundingsOf (arguments : CommandLine.DaemonArguments) (home : Option String) :
    IO Daemon.Surroundings := do
  let kubeconfig := arguments.kubeconfig <|> home.map fun home => Text.joinPath home ".kube/config"
  let paths := [arguments.configFile, arguments.inventoryFile] ++ kubeconfig.toList
  let texts ← paths.mapM fun path => return (path, ← readText path)
  let isThere ← canOpen arguments.devicePluginDir
  return ⟨fun path => (List.lookup path texts).join, fun _ => isThere, home⟩

def carryOut (environment : String → Option String) (arguments : List String) :
    IO Daemon.Outcome := do
  match CommandLine.parse environment arguments with
  | .error error => return .ofUsage error
  | .ok (.showConfig path) => return .ofConfig path (← readText path)
  | .ok (.daemon arguments) =>
      let surroundings ← surroundingsOf arguments (environment "HOME")
      let standing := Daemon.run Plugin.detached surroundings arguments [.input .eventsClosed]
        () ()
      return .ofDaemon (standing.result.getD (.ok ()))

end VirtualNpu

open VirtualNpu in
def main (arguments : List String) : IO UInt32 := do
  let outcome ← carryOut (← readEnvironment) arguments
  IO.print outcome.output
  for line in outcome.errorLine do
    IO.eprintln line
  return UInt32.ofNat outcome.exitCode
