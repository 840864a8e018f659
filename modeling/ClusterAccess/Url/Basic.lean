import ClusterAccess.Net.Address

/-!
# Uniform resource locators

## Main definitions

* `Url`: the parts of a URL, each as it is written, that is with its escapes.
* `Url.render`: the text of a URL.
-/
namespace ClusterAccess

inductive Url.Host where
  | domain (name : String)
  | address (a : Net.Address)
  deriving DecidableEq, Repr

inductive Url.Path where
  /-- A path that does not begin with a slash, as in `mailto:a@b`. -/
  | rootless (text : String)
  /-- Segments, each with a slash before it. -/
  | segments (items : List String)
  deriving DecidableEq, Repr

structure Url where
  scheme : String
  username : String := ""
  password : Option String := none
  host : Option Url.Host := none
  /-- Absent if it is the usual one of the scheme. -/
  port : Option Nat := none
  path : Url.Path := .segments []
  query : Option String := none
  fragment : Option String := none
  deriving DecidableEq, Repr

namespace Url

def defaultPort? (scheme : String) : Option Nat :=
  if scheme == "http" || scheme == "ws" then some 80
  else if scheme == "https" || scheme == "wss" then some 443
  else if scheme == "ftp" then some 21
  else none

/-- The schemes for which every URL has a host and a path. -/
def isSpecial (scheme : String) : Bool := (defaultPort? scheme).isSome || scheme == "file"

def Host.render : Host → String
  | .domain name => name
  | .address (.v6 pieces) => "[" ++ Net.renderV6 pieces ++ "]"
  | .address a => a.render

def Path.render : Path → String
  | .rootless text => text
  | .segments items => String.join (items.map fun s => "/" ++ s)

/-- The part before the host. -/
def renderUser (u : Url) : String :=
  match u.password with
  | some password => u.username ++ ":" ++ password ++ "@"
  | none => if u.username.isEmpty then "" else u.username ++ "@"

def renderPort (u : Url) : String :=
  match u.port with
  | some n => ":" ++ toString n
  | none => ""

def renderAuthority (u : Url) : String :=
  match u.host with
  | some host => "//" ++ u.renderUser ++ host.render ++ u.renderPort
  | none => match u.path with
    -- two slashes would announce a host
    | .segments ("" :: _ :: _) => if u.scheme == "file" then "//" else "/."
    | _ => if u.scheme == "file" then "//" else ""

/-- What an HTTP request asks for: the path and the query. -/
def target (u : Url) : String :=
  u.path.render ++ match u.query with
    | some q => "?" ++ q
    | none => ""

def render (u : Url) : String :=
  u.scheme ++ ":" ++ u.renderAuthority ++ u.target ++ match u.fragment with
    | some f => "#" ++ f
    | none => ""

/-- The port to connect to. -/
def effectivePort (u : Url) : Option Nat := u.port.or (defaultPort? u.scheme)

end Url
end ClusterAccess
