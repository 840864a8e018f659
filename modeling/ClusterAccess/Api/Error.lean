import ClusterAccess.Api.Payload
import ClusterAccess.Error

/-!
# Failures of the administration interface

## Main definitions

* `ErrorClass`: what a status says about a failure.
* `ApiError`: why a call failed.
* `ApiError.message`: the text of a failure.
* `ApiError.toAccessError`: the failure as callers of the control plane see it.
-/
namespace ClusterAccess.Api

inductive ErrorClass where
  | invalidArgument
  | unauthenticated
  | permissionDenied
  | notFound
  | deadlineExceeded
  | alreadyExists
  | failedPrecondition
  | unavailable
  | unimplemented
  | unknown
  deriving DecidableEq, Repr

namespace ErrorClass

/-- The class of a status other than success. Status 406 means a bad version, 429 too many
requests. -/
def ofStatus (status : Nat) : ErrorClass :=
  match status with
  | 400 | 406 => .invalidArgument
  | 401 => .unauthenticated
  | 403 => .permissionDenied
  | 404 => .notFound
  | 408 => .deadlineExceeded
  | 409 => .alreadyExists
  | 422 => .failedPrecondition
  | 429 | 503 => .unavailable
  | 501 => .unimplemented
  | _ => if 500 ≤ status && status ≤ 599 then .unavailable else .unknown

def message : ErrorClass → String
  | .invalidArgument => "invalid argument"
  | .unauthenticated => "unauthenticated"
  | .permissionDenied => "permission denied"
  | .notFound => "not found"
  | .deadlineExceeded => "deadline exceeded"
  | .alreadyExists => "already exists"
  | .failedPrecondition => "failed precondition"
  | .unavailable => "unavailable"
  | .unimplemented => "unimplemented"
  | .unknown => "unknown"

end ErrorClass

inductive ApiError where
  /-- The interface answered with a status other than success. -/
  | refused (status : Nat) (code : Option String) (detail : String)
  | http (message : String)
  | auth (message : String)
  | invalidUrl (message : String)
  | proxy (message : String)
  | invalidResponse (message : String)
  | json (fault : Json.Fault)
  deriving DecidableEq, Repr

namespace ApiError

def message : ApiError → String
  | refused status code detail =>
    let kind := (ErrorClass.ofStatus status).message
    let code := match code with
      | some c => s!" [{c}]"
      | none => ""
    s!"Atlas API returned HTTP {status} ({kind}){code}: {detail}"
  | http m => s!"HTTP request failed: {m}"
  | auth m => s!"Authentication failed: {m}"
  | invalidUrl m => s!"Invalid URL: {m}"
  | proxy m => s!"Invalid proxy configuration: {m}"
  | invalidResponse m => s!"Unexpected response: {m}"
  | json fault => s!"JSON parse error: {fault.message}"

def status? : ApiError → Option Nat
  | refused status _ _ => some status
  | _ => none

def kind : ApiError → ErrorClass
  | refused status _ _ => .ofStatus status
  | auth _ => .unauthenticated
  | http _ => .unavailable
  | invalidUrl _ | proxy _ => .invalidArgument
  | invalidResponse _ | json _ => .unknown

/-- The failure as callers of the control plane see it. -/
def toAccessError (e : ApiError) : AccessError := .controlPlane e.status? e.message

end ApiError
end ClusterAccess.Api
