import VirtualNpu.Text.Digits

/-!
The flags of the command line.  Each takes one value, which may come from the
arguments, from an environment variable, or from a default.
-/

namespace VirtualNpu
namespace CommandLine

inductive Flag where
  | configFile
  | nodeName
  | chipName
  | inventoryFile
  | devicePluginDir
  | kubeletSocket
  | kubeconfig
  | handshakeOffset
  | logPath
  deriving DecidableEq

namespace Flag

def name : Flag → String
  | .configFile => "config-file"
  | .nodeName => "node-name"
  | .chipName => "chip-name"
  | .inventoryFile => "inventory-file"
  | .devicePluginDir => "device-plugin-dir"
  | .kubeletSocket => "kubelet-socket"
  | .kubeconfig => "kubeconfig"
  | .handshakeOffset => "handshake-offset-secs"
  | .logPath => "log-path"

def environmentName : Flag → Option String
  | .configFile => some "NPU_DEVICE_CONFIG"
  | .nodeName => some "NODE_NAME"
  | .chipName => some "NPU_CHIP_NAME"
  | .inventoryFile => some "NPU_INVENTORY_FILE"
  | .kubeconfig => some "KUBECONFIG"
  | .handshakeOffset => some "NPU_HANDSHAKE_OFFSET_SECS"
  | .logPath => some "NPU_PLUGIN_LOG_PATH"
  | .devicePluginDir => none
  | .kubeletSocket => none

def default? : Flag → Option String
  | .configFile => some "/etc/npu-device-plugin/device-config.yaml"
  | .inventoryFile => some "/etc/npu-device-plugin/inventory.yaml"
  | .devicePluginDir => some "/var/lib/kubelet/device-plugins"
  | .kubeletSocket => some "kubelet.sock"
  | .handshakeOffset => some "0"
  | .nodeName => none
  | .chipName => none
  | .kubeconfig => none
  | .logPath => none

/-- Whether the value is a path, which is never empty. -/
def isPath : Flag → Bool
  | .configFile => true
  | .inventoryFile => true
  | .devicePluginDir => true
  | .kubeconfig => true
  | .logPath => true
  | _ => false

def shown (flag : Flag) : String :=
  let upper := String.ofList (flag.name.toList.map fun c => if c = '-' then '_' else c.toUpper)
  "--" ++ flag.name ++ " <" ++ upper ++ ">"

end Flag

inductive Command where
  | daemon
  | showConfig
  deriving DecidableEq

namespace Command

def name : Command → String
  | .daemon => "daemon"
  | .showConfig => "show-config"

def ofName? (word : String) : Option Command :=
  [Command.daemon, .showConfig].find? fun command => command.name = word

/-- The flags of a command, in the order in which they are completed. -/
def flags : Command → List Flag
  | .daemon =>
      [.configFile, .nodeName, .chipName, .inventoryFile, .devicePluginDir, .kubeletSocket,
        .kubeconfig, .handshakeOffset, .logPath]
  | .showConfig => [.configFile]

end Command

inductive Error where
  | help
  | version
  | noCommand
  | unknownCommand (word : String)
  | unexpectedArgument (shown : String)
  | unexpectedValue (flag value : String)
  | noValue (flag : Flag)
  | invalidSeconds (flag : Flag) (value : String) (error : Text.NumberError)
  | repeated (flag : Flag)
  | missing (flag : Flag)
  deriving DecidableEq

/-- The first line of an error; help and version are no errors to be told. -/
def Error.message? : Error → Option String
  | .help => none
  | .version => none
  | .noCommand => none
  | .unknownCommand word => some ("unrecognized subcommand '" ++ word ++ "'")
  | .unexpectedArgument shown => some ("unexpected argument '" ++ shown ++ "' found")
  | .unexpectedValue flag value =>
      some ("unexpected value '" ++ value ++ "' for '" ++ flag
        ++ "' found; no more were expected")
  | .noValue flag =>
      some ("a value is required for '" ++ flag.shown ++ "' but none was supplied")
  | .invalidSeconds flag value error =>
      some ("invalid value '" ++ value ++ "' for '" ++ flag.shown ++ "': " ++ error.message)
  | .repeated flag =>
      some ("the argument '" ++ flag.shown ++ "' cannot be used multiple times")
  | .missing _ => some "the following required arguments were not provided:"

def Error.exitCode : Error → Nat
  | .help => 0
  | .version => 0
  | _ => 2

inductive Value where
  | text (s : String)
  | seconds (n : Int)
  deriving DecidableEq

def Flag.read (flag : Flag) (value : String) : Except Error Value :=
  if flag = .handshakeOffset then
    match Text.readSigned64 value.toList with
    | .ok n => .ok (.seconds n)
    | .error error => .error (.invalidSeconds flag value error)
  else if flag.isPath && value.isEmpty then .error (.noValue flag)
  else .ok (.text value)

end CommandLine
end VirtualNpu
