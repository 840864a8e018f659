import ClusterAccess.Secret
import ClusterAccess.Time.Timestamp

/-!
# Database accounts

Accounts that the control plane creates for one project and deletes after a deadline.

## Main definitions

* `Role`, `AccountRequest`: what is asked for.
* `Account`: what the control plane knows of an account.
* `Credential`: the means of signing in that came of a request.
-/
namespace ClusterAccess

open Time

structure Role where
  name : String
  database : String
  deriving DecidableEq, Repr

/-- How an account signs in. -/
inductive AuthMechanism where
  | password
  | awsIam
  | x509
  | ldap
  | oidc
  deriving DecidableEq, Repr

/-- The request for an account. -/
structure AccountRequest where
  username : String
  password : Secret
  /-- The database that checks the password. -/
  database : String
  roles : List Role
  description : String
  deleteAfter : Timestamp
  deriving DecidableEq

structure Account where
  username : String := ""
  project : String := ""
  database : String := ""
  roles : List Role := []
  description : Option String := none
  deleteAfter : Option Timestamp := none
  auth : AuthMechanism := .password
  deriving DecidableEq, Repr

/-- The account that exactly fulfils a request. -/
def AccountRequest.fulfilled (r : AccountRequest) (project : String) : Account :=
  { username := r.username, project, database := r.database, roles := r.roles,
    description := some r.description, deleteAfter := some r.deleteAfter, auth := .password }

def Role.describe (r : Role) : String :=
  Text.record "RoleAssignment"
    [("database_name", Text.quoted r.database), ("role_name", Text.quoted r.name)]

/-- The description of a request shows everything but the password. -/
def AccountRequest.describe (r : AccountRequest) : String :=
  Text.record "ScopedAccountSpec"
    [("username", Text.quoted r.username), ("password", r.password.describe),
     ("database_name", Text.quoted r.database),
     ("roles", "[" ++ ", ".intercalate (r.roles.map Role.describe) ++ "]"),
     ("description", Text.quoted r.description), ("delete_after", r.deleteAfter.render .letter)]

/-- An account's name and password, which only lives in memory. -/
structure Credential where
  username : String
  password : Secret
  createdAt : Timestamp
  expiresAt : Timestamp
  /-- The project for which the account was created. -/
  owner : String
  account : Account
  deriving DecidableEq

namespace Credential

/-- Whether the account's deadline has come. -/
def isExpired (c : Credential) (now : Timestamp) : Bool := c.expiresAt.atOrBefore now

def describe (c : Credential) : String :=
  Text.record "ScopedCredential"
    [("username", Text.quoted c.username), ("password", c.password.describe),
     ("created_at", c.createdAt.render .letter), ("expires_at", c.expiresAt.render .letter),
     ("owner_project_id", Text.quoted c.owner)]

end Credential
end ClusterAccess
