import ClusterAccess.IoError
import ClusterAccess.Json.Token

/-!
# Failures of cluster access

## Main definitions

* `AccessError`: why access to a cluster failed.
* `AccessError.message`: the text of a failure.
* `AccessError.isUnreachable`, `AccessError.isUnauthorized`: the two classes callers ask for.
-/
namespace ClusterAccess

/-- What is said of a text that is not the wanted JSON. -/
def Json.Fault.message : Json.Fault → String
  | .malformed => "not valid JSON"
  | .ended => "unexpected end of the text"
  | .mistyped => "a value has the wrong type, or is missing or repeated"

inductive AccessError where
  | provisioning (project message : String)
  | resolution (project cluster message : String)
  | dialer (message : String)
  | dial (project cluster : String) (attempt : Nat) (message : String)
  | ping (project cluster : String) (attempt : Nat) (message : String)
  | connectExhausted (project cluster : String) (attempts : Nat) (last : AccessError)
  | controlPlane (status : Option Nat) (message : String)
  | random (message : String)
  | driver (message : String)
  | unauthorized (message : String)
  /-- The driver can never handle the target, so retrying is no use. -/
  | unsupported (message : String)
  | cancelled
  | closed
  | invalidSettings (message : String)
  | io (error : IoError)
  | serialization (fault : Json.Fault)
  deriving DecidableEq, Inhabited, Repr

namespace AccessError

def message : AccessError → String
  | provisioning project m => s!"Failed to provision scoped account for project {project}: {m}"
  | resolution project cluster m =>
    s!"Failed to resolve cluster {cluster} in project {project}: {m}"
  | dialer m => s!"Failed to build proxy dialer: {m}"
  | dial project cluster attempt m =>
    s!"Dial to cluster {cluster} in project {project} failed on attempt {attempt}: {m}"
  | ping project cluster attempt m =>
    s!"Ping to cluster {cluster} in project {project} failed on attempt {attempt}: {m}"
  | connectExhausted project cluster attempts last =>
    s!"Could not connect to cluster {cluster} in project {project} after {attempts} attempts: " ++
      last.message
  | controlPlane none m => s!"Control plane request failed: {m}"
  | controlPlane (some status) m => s!"Control plane request failed (HTTP {status}): {m}"
  | random m => s!"Secure random source failed: {m}"
  | driver m => s!"Database driver error: {m}"
  | unauthorized m => s!"Not authorized: {m}"
  | unsupported m => s!"Unsupported connection target: {m}"
  | cancelled => "Operation cancelled"
  | closed => "Connection pool is closed"
  | invalidSettings m => s!"Invalid settings: {m}"
  | io e => s!"IO error: {e.message}"
  | serialization fault => s!"Serialization error: {fault.message}"

/-- The cluster could not be reached; a caller may go on with other clusters. -/
def isUnreachable : AccessError → Bool
  | connectExhausted .. | dial .. | ping .. => true
  | _ => false

/-- The other side refused the account. -/
def isUnauthorized : AccessError → Bool
  | unauthorized _ => true
  | controlPlane (some status) _ => status == 401 || status == 403
  | _ => false

end AccessError
end ClusterAccess
