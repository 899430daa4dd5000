import VirtualNpu.Machine.FileTree
import VirtualNpu.Plugin.Host

/-!
A machine that is played: its files, a kubelet that keeps the requests it gets, and
the actions that are told to fail.
-/

namespace VirtualNpu

namespace Machine

inductive Failing where
  | clear
  | listen
  | probe
  | register
  deriving DecidableEq

end Machine

structure Machine where
  files : Machine.FileTree
  failing : List Machine.Failing
  refusing : Bool
  requests : List Plugin.Request

namespace Machine

def ofFiles (files : FileTree) : Machine := ⟨files, [], false, []⟩

/-- Takes over files that an action made, if it was possible and not told to fail. -/
def act (machine : Machine) (kind : Failing) (files : Option FileTree) : Bool × Machine :=
  match files, decide (kind ∈ machine.failing) with
  | some files, false => (true, { machine with files })
  | _, _ => (false, machine)

def listener? (machine : Machine) (path : String) : Option Listener :=
  match machine.files.find? path with
  | some (.socket listener) => some listener
  | _ => none

def period? (machine : Machine) (path : String) : Option Nat :=
  match machine.listener? path with
  | some (.plugin period) => some period
  | _ => none

/-- Brings a request to whoever listens at a path.  A plugin's server takes none. -/
def receive (machine : Machine) (path : String) (request : Plugin.Request) : Bool × Machine :=
  match machine.listener? path with
  | some .kubelet =>
      (!machine.refusing && Failing.register ∉ machine.failing,
        { machine with requests := request :: machine.requests })
  | _ => (false, machine)

def takeRequests (machine : Machine) : List Plugin.Request × Machine :=
  (machine.requests.reverse, { machine with requests := [] })

def played : Plugin.Host Machine where
  clear path machine := machine.act .clear (machine.files.removeFile path)
  listen path period machine := machine.act .listen (machine.files.bindSocket path (.plugin period))
  probe path machine := ((machine.period? path).isSome && Failing.probe ∉ machine.failing, machine)
  register path request machine := machine.receive path request
  listener? path machine := machine.period? path

def putAt (machine : Machine) (path : String) (entry : Entry) : Machine :=
  match machine.files.locate path with
  | some place => { machine with files := machine.files.put place entry }
  | none => machine

def eraseAt (machine : Machine) (path : String) : Machine :=
  match machine.files.locate path with
  | some place => { machine with files := machine.files.erase place }
  | none => machine

end Machine
end VirtualNpu
