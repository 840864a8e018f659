import ClusterAccess.Account
import ClusterAccess.Cluster
import ClusterAccess.Json.Reader
import ClusterAccess.Json.Writer

/-!
# Payloads of the administration interface

The interface describes database users in a current and in an older shape; both are turned into
accounts.

## Main definitions

* `UserRole`, `User`, `LegacyUser`: database users as they are described.
* `User.toAccount`, `LegacyUser.toAccount`: the account that is meant.
* `createBody`: the body of a request for an account.
* `Page`, `ClusterDescription`, `ErrorBody`, `Token`: the other answers.
-/
namespace ClusterAccess.Api

open Json Time

/-! ## Roles -/

structure UserRole where
  role : String := ""
  database : String := ""
  collection : Option String := none
  deriving DecidableEq, Repr

namespace UserRole

def ofRole (r : Role) : UserRole := ⟨r.name, r.database, none⟩

/-- A role does not tell collections apart. -/
def toRole (r : UserRole) : Role := ⟨r.role, r.database⟩

def fields : List (FieldReader UserRole) := [
  .of "roleName" .required text fun r v => { r with role := v },
  .of "databaseName" .required text fun r v => { r with database := v },
  .of "collectionName" .optionalByName (optional text) fun r v => { r with collection := v }]

def reader : Reader UserRole := record fields {}

def toJson (r : UserRole) : Value :=
  .object ([("roleName", .text r.role), ("databaseName", .text r.database)] ++
    match r.collection with
    | some c => [("collectionName", .text c)]
    | none => [])

end UserRole

def roleFields : List (FieldReader Role) := [
  .of "databaseName" .required text fun r v => { r with database := v },
  .of "roleName" .required text fun r v => { r with name := v }]

def roleReader : Reader Role := record roleFields ⟨"", ""⟩

def roleToJson (r : Role) : Value :=
  .object [("databaseName", .text r.database), ("roleName", .text r.name)]

/-! ## Users -/

/-- A database user in the current shape. -/
structure User where
  username : String := ""
  database : String := ""
  group : Option String := none
  roles : List UserRole := []
  description : Option String := none
  deleteAfter : Option Timestamp := none
  awsIam : Option String := none
  x509 : Option String := none
  ldap : Option String := none
  oidc : Option String := none
  deriving DecidableEq, Repr

/-- A database user in the older shape, which has neither a description nor the newest way of
signing in, and an expiry of any form. -/
structure LegacyUser where
  username : String := ""
  database : String := ""
  group : Option String := none
  roles : List UserRole := []
  deleteAfter : Option String := none
  awsIam : Option String := none
  x509 : Option String := none
  ldap : Option String := none
  deriving DecidableEq, Repr

/-- Whether a way of signing in is in use: it is unless absent or `NONE`. -/
def isUsed (mechanism : Option String) : Bool :=
  match mechanism with
  | some m => m.map Char.toLower != "none"
  | none => false

/-- The first way of signing in that is in use, or else a password. -/
def authMechanism (awsIam x509 ldap oidc : Option String) : AuthMechanism :=
  if isUsed awsIam then .awsIam
  else if isUsed x509 then .x509
  else if isUsed ldap then .ldap
  else if isUsed oidc then .oidc
  else .password

namespace User

def fields : List (FieldReader User) := [
  .of "username" .required text fun u v => { u with username := v },
  .of "databaseName" .required text fun u v => { u with database := v },
  .of "groupId" .optional (optional text) fun u v => { u with group := v },
  .of "roles" .optional (list UserRole.reader) fun u v => { u with roles := v },
  .of "description" .optional (optional text) fun u v => { u with description := v },
  .of "deleteAfterDate" .optional (optional (text.filterMap Timestamp.parseLoosely?))
    fun u v => { u with deleteAfter := v },
  .of "awsIAMType" .optional (optional text) fun u v => { u with awsIam := v },
  .of "x509Type" .optional (optional text) fun u v => { u with x509 := v },
  .of "ldapAuthType" .optional (optional text) fun u v => { u with ldap := v },
  .of "oidcAuthType" .optional (optional text) fun u v => { u with oidc := v }]

def reader : Reader User := record fields {}

/-- A member that is left out if there is no value. -/
def member (name : String) : Option Value → List (String × Value)
  | some v => [(name, v)]
  | none => []

def toJson (u : User) : Value :=
  .object <|
    [("username", .text u.username), ("databaseName", .text u.database)] ++
    member "groupId" (u.group.map .text) ++
    [("roles", .array (u.roles.map UserRole.toJson))] ++
    member "description" (u.description.map .text) ++
    member "deleteAfterDate" (u.deleteAfter.map fun t => .text (t.render .letter)) ++
    member "awsIAMType" (u.awsIam.map .text) ++
    member "x509Type" (u.x509.map .text) ++
    member "ldapAuthType" (u.ldap.map .text) ++
    member "oidcAuthType" (u.oidc.map .text)

/-- The account, in `project` if the description names none. -/
def toAccount (u : User) (project : String) : Account where
  username := u.username
  project := u.group.getD project
  database := u.database
  roles := u.roles.map UserRole.toRole
  description := u.description
  deleteAfter := u.deleteAfter
  auth := authMechanism u.awsIam u.x509 u.ldap u.oidc

end User

namespace LegacyUser

def fields : List (FieldReader LegacyUser) := [
  .of "username" .required text fun u v => { u with username := v },
  .of "databaseName" .required text fun u v => { u with database := v },
  .of "groupId" .optional (optional text) fun u v => { u with group := v },
  .of "roles" .optional (list UserRole.reader) fun u v => { u with roles := v },
  .of "deleteAfterDate" .optional (optional text) fun u v => { u with deleteAfter := v },
  .of "awsIAMType" .optional (optional text) fun u v => { u with awsIam := v },
  .of "x509Type" .optional (optional text) fun u v => { u with x509 := v },
  .of "ldapAuthType" .optional (optional text) fun u v => { u with ldap := v }]

def reader : Reader LegacyUser := record fields {}

/-- The account, in `project` if the description names none. An expiry that is no timestamp counts
as none. -/
def toAccount (u : LegacyUser) (project : String) : Account where
  username := u.username
  project := u.group.getD project
  database := u.database
  roles := u.roles.map UserRole.toRole
  description := none
  deleteAfter := u.deleteAfter.bind Timestamp.parse?
  auth := authMechanism u.awsIam u.x509 u.ldap none

end LegacyUser

/-- The body of a request for an account in `project`. -/
def createBody (project : String) (r : AccountRequest) : Value :=
  .object [("username", .text r.username), ("password", .text r.password.expose),
    ("databaseName", .text r.database), ("groupId", .text project),
    ("roles", .array (r.roles.map fun r => (UserRole.ofRole r).toJson)),
    ("description", .text r.description), ("deleteAfterDate", .text (r.deleteAfter.render .letter))]

/-! ## Other answers -/

/-- One page of a list of users. -/
structure Page where
  results : List LegacyUser := []
  total : Option Nat := none
  deriving DecidableEq, Repr

def Page.fields : List (FieldReader Page) := [
  .of "results" .optional (list LegacyUser.reader) fun p v => { p with results := v },
  .of "totalCount" .optional (optional (natural (UInt64.size - 1))) fun p v =>
    { p with total := v }]

def Page.reader : Reader Page := record fields {}

def stringFields : List (FieldReader PublishedStrings) := [
  .of "standard" .optional (optional text) fun s v => { s with standard := v },
  .of "standardSrv" .optional (optional text) fun s v => { s with srv := v }]

structure ClusterDescription where
  name : String := ""
  group : Option String := none
  state : Option String := none
  strings : Option PublishedStrings := none
  deriving DecidableEq, Repr

namespace ClusterDescription

def fields : List (FieldReader ClusterDescription) := [
  .of "name" .required text fun c v => { c with name := v },
  .of "groupId" .optional (optional text) fun c v => { c with group := v },
  .of "stateName" .optional (optional text) fun c v => { c with state := v },
  .of "connectionStrings" .optional (optional (record stringFields {}))
    fun c v => { c with strings := v }]

def reader : Reader ClusterDescription := record fields {}

/-- What is published for the cluster, in `project` if the description names none. -/
def toInfo (c : ClusterDescription) (project : String) : ClusterInfo :=
  ⟨c.name, c.group.getD project, c.strings.getD {}⟩

end ClusterDescription

structure ErrorBody where
  detail : Option String := none
  code : Option String := none
  reason : Option String := none
  deriving DecidableEq, Repr

def ErrorBody.fields : List (FieldReader ErrorBody) := [
  .of "detail" .optional (optional text) fun b v => { b with detail := v },
  .of "errorCode" .optional (optional text) fun b v => { b with code := v },
  .of "reason" .optional (optional text) fun b v => { b with reason := v }]

def ErrorBody.reader : Reader ErrorBody := record fields {}

structure Token where
  access : String := ""
  expiresIn : Option Nat := none
  type : Option String := none
  deriving DecidableEq, Repr

def Token.fields : List (FieldReader Token) := [
  .of "access_token" .required text fun t v => { t with access := v },
  .of "expires_in" .optional (optional (natural (UInt64.size - 1))) fun t v =>
    { t with expiresIn := v },
  .of "token_type" .optional (optional text) fun t v => { t with type := v }]

def Token.reader : Reader Token := record fields {}

end ClusterAccess.Api
