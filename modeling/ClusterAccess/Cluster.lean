import ClusterAccess.Error
import ClusterAccess.Text.Blank

/-!
# Clusters and their endpoints

The control plane publishes up to two connection strings for a cluster. The plain one, which lists
hosts, is preferred; the other needs look-ups of names that cannot go through a proxy.

## Main definitions

* `ClusterKey`: a cluster within a project.
* `ClusterInfo`: what the control plane publishes.
* `Endpoint`: the scheme and hosts to connect to.
* `Endpoint.choose?`: the endpoint of the published strings.
* `Endpoint.resolve`: the outcome of a look-up as an endpoint.
-/
namespace ClusterAccess

structure ClusterKey where
  project : String
  cluster : String
  deriving DecidableEq, Repr

def ClusterKey.render (k : ClusterKey) : String := k.project ++ "/" ++ k.cluster

structure PublishedStrings where
  standard : Option String := none
  srv : Option String := none
  deriving DecidableEq, Repr

structure ClusterInfo where
  name : String
  project : String
  strings : PublishedStrings
  deriving DecidableEq, Repr

inductive Scheme where
  | standard
  | srv
  deriving DecidableEq, Repr

def Scheme.name : Scheme → String
  | .standard => "mongodb"
  | .srv => "mongodb+srv"

/-- Where to connect, without credentials. -/
structure Endpoint where
  scheme : Scheme
  /-- What follows `scheme://`: the hosts, with a path and options if there are any. -/
  hosts : String
  /-- Whether there was no plain form to prefer. -/
  fallback : Bool
  deriving DecidableEq, Repr

/-- `s` without `start`, if it begins so. -/
def withoutStart (start s : String) : String :=
  if start.toList.isPrefixOf s.toList then String.ofList (s.toList.drop start.length) else s

/-- The text without blanks around it, unless nothing is left. -/
def nonBlank? (s : Option String) : Option String :=
  (s.map Text.trimmed).filter fun t => !t.isEmpty

namespace Endpoint

def ofString (scheme : Scheme) (published : String) : Endpoint :=
  ⟨scheme, withoutStart (scheme.name ++ "://") published, scheme = .srv⟩

def choose? (s : PublishedStrings) : Option Endpoint :=
  match nonBlank? s.standard, nonBlank? s.srv with
  | some standard, _ => some (ofString .standard standard)
  | none, some srv => some (ofString .srv srv)
  | none, none => none

/-- The endpoint of a cluster, given what became of looking it up. -/
def resolve (project cluster : String) (found : Except AccessError ClusterInfo) :
    Except AccessError Endpoint :=
  match found with
  | .error e => .error (.resolution project cluster s!"failed to get cluster: {e.message}")
  | .ok info => match choose? info.strings with
    | some endpoint => .ok endpoint
    | none => .error (.resolution project cluster "cluster does not have a connection string")

end Endpoint
end ClusterAccess
