import VirtualNpu.CommandLine.Settings
import VirtualNpu.Registration.Handshake
import VirtualNpu.Text.Basic

/-!
The command that a command line asks for, with all that it is to work with.
-/

namespace VirtualNpu
namespace CommandLine

structure DaemonArguments where
  configFile : String
  nodeName : String
  chipName : Option String
  inventoryFile : String
  devicePluginDir : String
  kubeletSocket : String
  kubeconfig : Option String
  handshakeOffset : Int
  logPath : Option String
  deriving DecidableEq

namespace DaemonArguments

def kubeletSocketPath (arguments : DaemonArguments) : String :=
  Text.joinPath arguments.devicePluginDir arguments.kubeletSocket

def handshakeSpan? (arguments : DaemonArguments) : Option Int :=
  if Registration.isSpan arguments.handshakeOffset then some arguments.handshakeOffset else none

def ofSettings (settings : Settings) : Except Error DaemonArguments := do
  let need (flag : Flag) : Except Error String :=
    match settings.text? flag with
    | some text => .ok text
    | none => .error (.missing flag)
  return { configFile := ← need .configFile
           nodeName := ← need .nodeName
           chipName := settings.text? .chipName
           inventoryFile := ← need .inventoryFile
           devicePluginDir := ← need .devicePluginDir
           kubeletSocket := ← need .kubeletSocket
           kubeconfig := settings.text? .kubeconfig
           handshakeOffset := (settings.seconds? .handshakeOffset).getD 0
           logPath := settings.text? .logPath }

end DaemonArguments

inductive Invocation where
  | daemon (arguments : DaemonArguments)
  | showConfig (configFile : String)
  deriving DecidableEq

def Command.invocation (command : Command) (settings : Settings) : Except Error Invocation :=
  match command with
  | .daemon => (DaemonArguments.ofSettings settings).map .daemon
  | .showConfig =>
      match settings.text? .configFile with
      | some configFile => .ok (.showConfig configFile)
      | none => .error (.missing .configFile)

def isCommandWord (word : String) : Bool :=
  word == "help" || (Command.ofName? word).isSome

/-- The outcome of asking for help about a command.  Commands have no commands of
their own. -/
def helpAbout : List String → Error
  | [] => .help
  | word :: rest =>
      if isCommandWord word then
        match rest with
        | [] => .help
        | next :: _ => .unknownCommand next
      else .unknownCommand word

def Argument.refusal (rest : List String) : Argument → Error
  | .escape =>
      match rest with
      | [] => .noCommand
      | next :: _ =>
          if isCommandWord next then .unexpectedArgument next else .unknownCommand next
  | .long "help" none => .help
  | .long "version" none => .version
  | .long "help" (some value) => .unexpectedValue "--help" value
  | .long "version" (some value) => .unexpectedValue "--version" value
  | .long name _ => .unexpectedArgument ("--" ++ name)
  | .short 'h' => .help
  | .short 'V' => .version
  | .short letter => .unexpectedArgument (String.ofList ['-', letter])
  | .word text => .unknownCommand text

def parse (environment : String → Option String) : List String → Except Error Invocation
  | [] => .error .noCommand
  | word :: rest =>
      match Command.ofName? word with
      | some command => do command.invocation (← command.settings environment rest)
      | none =>
          if word = "help" then .error (helpAbout rest)
          else .error ((Argument.ofText word).refusal rest)

end CommandLine
end VirtualNpu
