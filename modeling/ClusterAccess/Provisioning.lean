import ClusterAccess.Services

/-!
# Provisioning of accounts

Every call creates one account that deletes itself after a while, even for a project that already
has one.

## Main definitions

* `accountRequest`: what is asked of the control plane.
* `AccountOrder`: the request with all that the credential will need.
* `Services.provision`: creates an account and answers with its credential.
-/
namespace ClusterAccess

open Time

/-- The length of the random part of a username. -/
def identifierLength : Nat := 10

/-- The longest lifetime, in seconds, that a deadline can be reckoned with. -/
def longestLifetime : Nat := 9223372036854775

/-- The request for an account that lives until `deadline`. -/
def accountRequest (settings : AccountSettings) (identifier : String) (password : Secret)
    (deadline : Timestamp) : AccountRequest where
  username := settings.usernameStart ++ identifier
  password := password
  database := settings.authDatabase
  roles := [⟨settings.roleName, settings.roleDatabase⟩]
  description :=
    s!"{settings.descriptionStart}, automatically deleted after {deadline.renderWhole}"
  deleteAfter := deadline

/-- The credential that comes of an account; its name is the one the control plane gave. -/
def Credential.ofAccount (project : String) (password : Secret) (createdAt deadline : Timestamp)
    (account : Account) : Credential where
  username := account.username
  password := password
  createdAt := createdAt
  expiresAt := deadline
  owner := project
  account := account

/-- All that an account is asked for with. -/
structure AccountOrder where
  password : Secret
  createdAt : Timestamp
  deadline : Timestamp
  request : AccountRequest

/-- What the reply to a request for an account comes to. -/
def AccountOrder.credential (order : AccountOrder) (project : String) :
    Outcome Account → Outcome Credential :=
  Outcome.handle fun
    | .ok account => .ok (.ofAccount project order.password order.createdAt order.deadline account)
    | .error e => .failed (.provisioning project e.message)

/-- The policy for the passwords of new accounts. -/
def AccountSettings.passwordPolicy (settings : AccountSettings) : PasswordPolicy :=
  { length := settings.passwordLength }

namespace Services

/-- Draws a password and an identifier for an account. A deadline beyond all dates breaks the call
off. -/
def order (s : Services σ C) (settings : AccountSettings) (project : String) :
    σ → Outcome AccountOrder × σ := fun world =>
  match s.password settings.passwordPolicy world with
  | (.failed e, world) => (.failed (.provisioning project e.message), world)
  | (.aborted, world) => (.aborted, world)
  | (.stuck, world) => (.stuck, world)
  | (.ok password, world) =>
    match s.identifier identifierLength world with
    | (.failed e, world) => (.failed (.provisioning project e.message), world)
    | (.aborted, world) => (.aborted, world)
    | (.stuck, world) => (.stuck, world)
    | (.ok identifier, world) =>
      if longestLifetime < settings.lifetime then
        (.failed (.provisioning project <| "account TTL out of range: " ++
          "Source duration value is out of range for the target type"), world)
      else
        let createdAt := s.clock world
        match createdAt.addSeconds? settings.lifetime with
        | none => (.aborted, world)
        | some deadline =>
          (.ok ⟨password, createdAt, deadline,
            accountRequest settings identifier password deadline⟩, world)

/-- Draws what is needed and asks for an account. The reply is only delayed by the control plane. -/
def provision (s : Services σ C) (settings : AccountSettings) (project : String) :
    Run σ C → Reply (Outcome Credential) × Run σ C := fun r =>
  match Task.begin (.password settings.passwordPolicy) (s.order settings project) r with
  | (.failed e, r) => (.after 0 (.failed e), r)
  | (.aborted, r) => (.after 0 .aborted, r)
  | (.stuck, r) => (.after 0 .stuck, r)
  | (.ok order, r) =>
    let (reply, r) := Task.begin (.createAccount project order.request)
      (s.createAccount project order.request) r
    (reply.map (order.credential project), r)

end Services
end ClusterAccess
