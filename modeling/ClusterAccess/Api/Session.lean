import ClusterAccess.Api.Error
import ClusterAccess.Http.Message
import ClusterAccess.Secret

/-!
# Sessions with the administration interface

A session is a world together with what has been exchanged with servers there, and with the token
that was issued last.

## Main definitions

* `Web`: the world's servers, clock and random source.
* `Session`, `Action`: a session, and something done in one.
* `Web.exchange`: sends one request and records what became of it.
* `Web.fetch`: sends a request, and the further ones that redirections ask for.
-/
namespace ClusterAccess.Api

open Http

/-- How a world answers to requests, which may have to go through a proxy. -/
structure Web (σ : Type) where
  answer : Option Url → Request → σ → Reply × σ
  /-- Nanoseconds on a clock that never goes back. -/
  clock : σ → Nat × σ
  /-- A text that was not used before. -/
  nonce : σ → String × σ

structure IssuedToken where
  token : Secret
  /-- The time from which on the token is no longer used, in nanoseconds. -/
  refreshAt : Nat
  deriving DecidableEq

structure Session (σ : Type) where
  world : σ
  issued : Option IssuedToken := none
  /-- All requests so far. -/
  exchanges : List (Request × Reply) := []

/-- Why an action has no result. -/
inductive Failure where
  | error (e : ApiError)
  /-- A point in time or a page number beyond what can be counted. -/
  | overflow
  deriving DecidableEq, Repr

/-- Something done in a session. -/
def Action (σ α : Type) := Session σ → Except Failure α × Session σ

namespace Action

def pure (a : α) : Action σ α := fun s => (.ok a, s)

/-- Goes on with `next` only if the first action succeeds. -/
def bind (t : Action σ α) (next : α → Action σ β) : Action σ β := fun s =>
  match t s with
  | (.ok a, s) => next a s
  | (.error e, s) => (.error e, s)

instance : Monad (Action σ) where
  pure := pure
  bind := bind

def fail (e : ApiError) : Action σ α := fun s => (.error (.error e), s)

def overflow : Action σ α := fun s => (.error .overflow, s)

def ofExcept (f : ε → ApiError) : Except ε α → Action σ α
  | .ok a => pure a
  | .error e => fail (f e)

/-- Does something to the world only. -/
def lift (f : σ → α × σ) : Action σ α := fun s =>
  let (a, world) := f s.world
  (.ok a, { s with world })

def issued : Action σ (Option IssuedToken) := fun s => (.ok s.issued, s)

def setIssued (issued : Option IssuedToken) : Action σ Unit := fun s => (.ok (), { s with issued })

end Action

/-- A failure to get a response. -/
def ofHttp (fault : Http.Fault) : ApiError := .http fault.message

namespace Web

variable (web : Web σ) (proxy : Option Url)

/-- Sends one request. -/
def exchange (r : Request) : Action σ Reply := fun s =>
  let (reply, world) := web.answer proxy r s.world
  (.ok reply, { s with world, exchanges := s.exchanges ++ [(r, reply)] })

/-- Sends a request, and at most so many further ones that redirections ask for. Means of signing in
are left out of a request to another server than that of the request before. -/
def fetchFrom (first : Url) : Nat → Bool → Request → Action σ Response
  | redirects, isForeign, r =>
    if !isWeb r.url then .fail (ofHttp (.unusableUrl r.url))
    else do
      match ← exchange web proxy (if isForeign then r.anonymous else r) with
      | .response response => match r.redirected? response with
        | none => pure response
        | some next => match redirects with
          | 0 => .fail (ofHttp (.tooManyRedirects r.url))
          | redirects + 1 => fetchFrom first redirects (!Request.isSameServer r.url next.url) next
      | _ => .fail (ofHttp (.noAnswer first))

/-- The response to a request, after at most ten redirections. -/
def fetch (r : Request) : Action σ Response := fetchFrom web proxy r.url 10 false r

end Web
end ClusterAccess.Api
