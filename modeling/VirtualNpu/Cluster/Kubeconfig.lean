import VirtualNpu.Cluster.Client
import VirtualNpu.Text.Uri
import VirtualNpu.Yaml.Content

/-!
Kubeconfigs: which cluster the current context is about, and the address of its
server.  A text of several documents is one kubeconfig, in which what comes first
counts.
-/

namespace VirtualNpu
namespace Cluster

open Yaml (Reading)

structure Context where
  cluster : String
  user : String
  deriving DecidableEq

/-- Entries by name; one may have nothing beside its name. -/
abbrev Named (α : Type) := List (String × Option α)

def Named.find? {α : Type} (entries : Named α) (name : String) : Option α :=
  (List.lookup name entries).join

/-- A kubeconfig, as far as it says where the cluster is.  A cluster may leave out
the address of its server. -/
structure Kubeconfig where
  apiVersion : Option String
  kind : Option String
  currentContext : Option String
  contexts : Named Context
  servers : Named (Option String)
  users : Named Unit
  deriving DecidableEq

namespace Kubeconfig

def empty : Kubeconfig := ⟨none, none, none, [], [], []⟩

def server? (config : Kubeconfig) : Option String := do
  let context ← config.contexts.find? (← config.currentContext)
  let server ← config.servers.find? context.cluster
  let _ ← config.users.find? context.user
  server.filter Text.isUri

def agree : Option String → Option String → Bool
  | some a, some b => a == b
  | _, _ => true

def merge (first later : Kubeconfig) : Option Kubeconfig :=
  if agree first.apiVersion later.apiVersion && agree first.kind later.kind then
    some
      { apiVersion := first.apiVersion <|> later.apiVersion
        kind := first.kind <|> later.kind
        currentContext := first.currentContext <|> later.currentContext
        contexts := first.contexts ++ later.contexts
        servers := first.servers ++ later.servers
        users := first.users ++ later.users }
  else none

end Kubeconfig

/-- Reads a text, as which no scalar of another type is taken. -/
def readStrictText (document : Yaml.Document) (node : Yaml.Node) : Reading String := do
  match ← document.readContent 0 node with
  | .text text => pure text
  | _ => failure

def readText? (document : Yaml.Document) : Option Yaml.Node → Reading (Option String) :=
  Yaml.Document.orDefault none (document.readOptional (readStrictText document))

def readMapping (document : Yaml.Document) (names : List String) (node : Yaml.Node) :
    Reading (List (Option Yaml.Node)) := do
  match ← document.resolve node with
  | .mapping tag entries => document.readFields names (.mapping tag entries)
  | _ => failure

def readSequence {α : Type} (document : Yaml.Document) (read : Yaml.Node → Reading α)
    (node : Option Yaml.Node) : Reading (List α) := do
  let items (node : Yaml.Node) : Reading (List α) := do
    (← document.readItems node).mapM read
  return (← Yaml.Document.orDefault none (document.readOptional items) node).getD []

def readNamed {α : Type} (document : Yaml.Document) (key : String)
    (read : Yaml.Node → Reading α) (node : Yaml.Node) : Reading (String × Option α) := do
  match ← readMapping document ["name", key] node with
  | [name, value] =>
      return (← Yaml.Document.required (readStrictText document) name,
        ← Yaml.Document.orDefault none (document.readOptional read) value)
  | _ => failure

def readContext (document : Yaml.Document) (node : Yaml.Node) : Reading Context := do
  match ← readMapping document ["cluster", "user"] node with
  | [cluster, user] =>
      return { cluster := ← Yaml.Document.required (readStrictText document) cluster
               user := ← Yaml.Document.required (readStrictText document) user }
  | _ => failure

def readServer (document : Yaml.Document) (node : Yaml.Node) : Reading (Option String) := do
  match ← readMapping document ["server"] node with
  | [server] => readText? document server
  | _ => failure

def readUser (document : Yaml.Document) (node : Yaml.Node) : Reading Unit := do
  let _ ← readMapping document [] node

def readKubeconfig (document : Yaml.Document) (node : Yaml.Node) : Reading Kubeconfig := do
  let names := ["apiVersion", "kind", "current-context", "contexts", "clusters", "users"]
  match ← readMapping document names node with
  | [apiVersion, kind, current, contexts, clusters, users] =>
      return { apiVersion := ← readText? document apiVersion
               kind := ← readText? document kind
               currentContext := ← readText? document current
               contexts := ← readSequence document
                 (readNamed document "context" (readContext document)) contexts
               servers := ← readSequence document
                 (readNamed document "cluster" (readServer document)) clusters
               users := ← readSequence document
                 (readNamed document "user" (readUser document)) users }
  | _ => failure

def Kubeconfig.parse? (text : String) : Option Kubeconfig := do
  let documents ← Yaml.Document.parseAll? text
  let configs ← documents.mapM fun document => document.readRoot (readKubeconfig document)
  match configs with
  | [] => some .empty
  | first :: rest => rest.foldlM Kubeconfig.merge first

def addressIn? (text : Option String) : Option String :=
  (text.bind Kubeconfig.parse?).bind Kubeconfig.server?

def connect (path : String) (text : Option String) : Except Error String :=
  match addressIn? text with
  | some server => .ok server
  | none => .error (.connectionFailed ("kubeconfig " ++ path))

/-- The address that the user's own kubeconfig leads to.  There is no other way to a
cluster where none is named. -/
def connectDefault (text : Option String) : Except Error String :=
  match addressIn? text with
  | some server => .ok server
  | none => .error (.connectionFailed "in-cluster or default kubeconfig")

end Cluster
end VirtualNpu
