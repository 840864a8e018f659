import ClusterAccess.ConnectionString.Option

/-!
# Signing in as connection strings say

The user part and the options of a connection string together say how to sign in. Two ways need no
name and no password: by the certificate of the connection, and by an identity of the machine.

## Main definitions

* `isUserPart`: the written form of a name and a password.
* `isSignIn`: whether a user part and some options go together.
-/
namespace ClusterAccess.ConnectionString

/-- Characters that a user part only has escaped. -/
def isReserved (c : Char) : Bool := [':', '/', '?', '#', '[', ']', '@'].contains c

/-- The name in a user part. -/
def userName (s : List Char) : List Char := s.takeWhile (· != ':')

/-- A name and a password, with a colon between them. -/
def isUserPart (s : List Char) : Bool :=
  let name := userName s
  !(name ++ s.drop (name.length + 1)).any isReserved

/-- The pairs of names and values of a sign-in. -/
def properties (value : String) : List (String × String) :=
  (value.toList.splitOn ',').map fun pair =>
    let name := pair.takeWhile (· != ':')
    (String.ofList name, String.ofList (pair.drop (name.length + 1)))

/-- Whether the environment of an identity is known, and has a resource if it needs one. -/
def isIdentity (properties : List (String × String)) : Bool :=
  let hasResource := (properties.lookup "TOKEN_RESOURCE").isSome
  properties.all (fun p => ["ENVIRONMENT", "TOKEN_RESOURCE"].contains p.1) &&
    match properties.reverse.lookup "ENVIRONMENT" with
    | some "azure" | some "gcp" => hasResource
    | some "test" | some "k8s" => !hasResource
    | some _ => false
    | none => !hasResource

/-- Whether a sign-in without a name is possible. -/
def isNameless (mechanism : Option String) (source : Option String)
    (properties : List (String × String)) : Bool :=
  match mechanism with
  | some "MONGODB-X509" => source.all (· == "$external")
  | some "MONGODB-OIDC" => source.all (· == "$external") && isIdentity properties
  | _ => false

/-- Whether a mechanism takes a name and a password. The usual one does. -/
def isNamed (mechanism : Option String) : Bool :=
  mechanism.all fun name => ["SCRAM-SHA-1", "SCRAM-SHA-256", "PLAIN"].contains name

def value? (options : List ConnectionOption) (name : String) : Option String :=
  (options.find? (·.name == name)).map (·.value)

/-- Whether a user part, which may be missing, and some options go together. -/
def isSignIn (user : Option (List Char)) (options : List ConnectionOption) : Bool :=
  let mechanism := value? options "authmechanism"
  let nameless := isNameless mechanism (value? options "authsource")
    (((value? options "authmechanismproperties").map properties).getD [])
  match user with
  | some user => isUserPart user && if (userName user).isEmpty then nameless else isNamed mechanism
  | none => mechanism.isNone || nameless

end ClusterAccess.ConnectionString
