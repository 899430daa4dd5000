import VirtualNpu.CommandLine.Flag

/-!
The values of the flags of a command: read from its arguments, and completed from
the environment and the defaults.
-/

namespace VirtualNpu
namespace CommandLine

/-- Flags with their values, the last one set first. -/
abbrev Settings := List (Flag × Value)

namespace Settings

def find? (settings : Settings) (flag : Flag) : Option Value :=
  List.lookup flag settings

def text? (settings : Settings) (flag : Flag) : Option String :=
  match settings.find? flag with
  | some (.text s) => some s
  | _ => none

def seconds? (settings : Settings) (flag : Flag) : Option Int :=
  match settings.find? flag with
  | some (.seconds n) => some n
  | _ => none

def set (settings : Settings) (flag : Flag) (value : String) : Except Error Settings :=
  if (settings.find? flag).isSome then .error (.repeated flag)
  else (flag.read value).map fun read => (flag, read) :: settings

def complete (source : Flag → Option String) (flags : List Flag) (settings : Settings) :
    Except Error Settings :=
  flags.foldlM (fun settings flag =>
    match settings.find? flag, source flag with
    | none, some value => settings.set flag value
    | _, _ => .ok settings) settings

end Settings

/-! ### Arguments -/

inductive Argument where
  /-- two hyphens alone, behind which nothing is a flag -/
  | escape
  | long (name : String) (value : Option String)
  | short (letter : Char)
  | word (text : String)
  deriving DecidableEq

def splitLong (chars : List Char) : Argument :=
  let name := String.ofList (chars.takeWhile (· ≠ '='))
  match chars.dropWhile (· ≠ '=') with
  | [] => .long name none
  | _ :: value => .long name (some (String.ofList value))

/-- What an argument looks like; of short flags only the first matters. -/
def Argument.ofText (text : String) : Argument :=
  match text.toList with
  | ['-', '-'] => .escape
  | '-' :: '-' :: rest => splitLong rest
  | '-' :: letter :: _ => .short letter
  | _ => .word text

/-- The arguments of a command as far as they were read: the flags that are set,
and a flag that is still to be set, with its value if that was read. -/
structure Scan where
  settings : Settings
  pending : Option (Flag × Option String)
  deriving DecidableEq

namespace Scan

def settle (scan : Scan) : Except Error Settings :=
  match scan.pending with
  | none => .ok scan.settings
  | some (flag, none) => .error (.noValue flag)
  | some (flag, some value) => scan.settings.set flag value

def takeFlag (scan : Scan) (flag : Flag) (value : Option String) : Except Error Scan := do
  let settings ← scan.settle
  match value with
  | none => return ⟨settings, some (flag, none)⟩
  | some value => return ⟨← settings.set flag value, none⟩

/-- The help that is asked for, unless the pending flag is at fault. -/
def takeHelp (scan : Scan) : Except Error Scan := do
  let _ ← scan.settle
  throw .help

def takeWord (scan : Scan) (text : String) : Except Error Scan :=
  match scan.pending with
  | some (flag, none) => .ok { scan with pending := some (flag, some text) }
  | _ => .error (.unexpectedArgument text)

/-- Reads an argument.  One that is not known at all is told before any fault of
the pending flag. -/
def take (flags : List Flag) (scan : Scan) : Argument → Except Error Scan
  | .escape => .ok scan
  | .long name value =>
      match flags.find? (·.name = name), name == "help", value with
      | some flag, _, value => scan.takeFlag flag value
      | none, true, none => scan.takeHelp
      | none, true, some value => .error (.unexpectedValue "--help" value)
      | none, false, _ => .error (.unexpectedArgument ("--" ++ name))
  | .short letter =>
      if letter = 'h' then scan.takeHelp
      else .error (.unexpectedArgument (String.ofList ['-', letter]))
  | .word text => scan.takeWord text

/-- Reads arguments in order.  No command takes arguments behind the escape. -/
def run (flags : List Flag) : Scan → List String → Except Error Settings
  | scan, [] => scan.settle
  | scan, text :: rest =>
      match Argument.ofText text, rest with
      | .escape, [] => scan.settle
      | .escape, next :: _ => .error (.unexpectedArgument next)
      | argument, rest => do
          let after ← scan.take flags argument
          run flags after rest

end Scan

/-- The settings of a command: what its arguments say, then the environment, then
the defaults. -/
def Command.settings (command : Command) (environment : String → Option String)
    (arguments : List String) : Except Error Settings := do
  let given ← Scan.run command.flags ⟨[], none⟩ arguments
  let completed ← given.complete (fun flag => flag.environmentName.bind environment) command.flags
  completed.complete Flag.default? command.flags

end CommandLine
end VirtualNpu
