/-!
Annotations of pods and nodes, and the keys agreed on with the scheduler.
-/

namespace VirtualNpu
namespace Cluster

/-- Annotations in ascending order of their keys. -/
abbrev Annotations := List (String × String)

namespace Annotations

def insert (key value : String) : Annotations → Annotations
  | [] => [(key, value)]
  | (other, kept) :: rest =>
      if key < other then (key, value) :: (other, kept) :: rest
      else if key = other then (key, value) :: rest
      else (other, kept) :: insert key value rest

/-- Annotations from any order; a key set again takes the later value. -/
def ofList (entries : List (String × String)) : Annotations :=
  entries.foldl (fun annotations entry => insert entry.1 entry.2 annotations) []

def find? (annotations : Annotations) (key : String) : Option String :=
  List.lookup key annotations

def keys (annotations : Annotations) : List String :=
  annotations.map Prod.fst

end Annotations

def domain : String := "vnpu.io"

def nodeLock : String := "vnpu.io/mutex.lock"

/-- Pod annotation with the place of the pod in the bind handshake. -/
def bindPhase : String := "vnpu.io/bind-phase"

def assignedNode : String := "vnpu.io/assigned-node"

/-- Pod annotation with the unix time at which the scheduler bound the pod. -/
def bindTime : String := "vnpu.io/bind-time"

def devicesAllocated (commonWord : String) : String :=
  domain ++ "/" ++ commonWord ++ "-devices-allocated"

def nodeRegister (commonWord : String) : String :=
  domain ++ "/node-register-" ++ commonWord

def nodeHandshake (commonWord : String) : String :=
  domain ++ "/node-handshake-" ++ commonWord

inductive BindPhase where
  | allocating
  | success
  | failed
  deriving DecidableEq

def BindPhase.text : BindPhase → String
  | .allocating => "allocating"
  | .success => "success"
  | .failed => "failed"

end Cluster
end VirtualNpu
