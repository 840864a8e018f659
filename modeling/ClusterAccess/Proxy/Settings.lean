import ClusterAccess.Error
import ClusterAccess.Json.Reader
import ClusterAccess.Json.Writer
import ClusterAccess.Secret
import ClusterAccess.Url.Edit
import ClusterAccess.Url.Parser

/-!
# Proxy settings

## Main definitions

* `ProxySettings`: where the proxy is and how to sign in there.
* `ProxySettings.isEnabled`: whether there is a proxy at all.
* `ProxySettings.credentials`: both halves of the means of signing in, or neither.
* `ProxySettings.url`: the proxy as a URL for HTTP clients.
* `ProxySettings.reader`, `ProxySettings.toJson`: reading and writing; no password is written.
-/
namespace ClusterAccess

structure ProxySettings where
  host : String := ""
  port : Nat := 0
  username : Option String := none
  password : Option Secret := none
  deriving DecidableEq

namespace ProxySettings

/-- An empty host and port 0 both mean that there is no proxy. -/
def isEnabled (p : ProxySettings) : Bool := !p.host.isEmpty && p.port != 0

/-- `host:port`, with brackets around an address that has colons. -/
def address (p : ProxySettings) : String :=
  if p.host.toList.contains ':' && p.host.toList.head? != some '[' then s!"[{p.host}]:{p.port}"
  else s!"{p.host}:{p.port}"

/-- The user and the password; an empty text counts as none. -/
def credentials (p : ProxySettings) : Except AccessError (Option (String × Secret)) :=
  match p.username.filter (!·.isEmpty), p.password.filter (!·.isEmpty) with
  | some user, some password => .ok (some (user, password))
  | none, none => .ok none
  | _, _ => .error (.dialer "proxy username and password must be set together")

/-- The proxy's URL, whose scheme says that the proxy looks up host names; `none` without a
proxy. -/
def url (p : ProxySettings) : Except AccessError (Option Url) :=
  if p.isEnabled then
    match Url.parse ("socks5h://" ++ p.address) with
    | .error fault => .error (.dialer s!"invalid proxy address: {fault.message}")
    | .ok u => match p.credentials with
      | .error e => .error e
      | .ok none => .ok (some u)
      | .ok (some (user, password)) => match u.withCredentials? user password.expose with
        | some u => .ok (some u)
        | none => .error (.dialer "proxy URL rejects a username")
  else .ok none

def describe (p : ProxySettings) : String :=
  Text.record "ProxyConfig"
    [("host", Text.quoted p.host), ("port", toString p.port),
     ("username", Text.quotedOption p.username),
     ("password", match p.password with
       | none => "None"
       | some s => "Some(" ++ s.describe ++ ")")]

def fields : List (Json.FieldReader ProxySettings) := [
  .of "host" .optional Json.text fun p v => { p with host := v },
  .of "port" .optional (Json.natural 65535) fun p v => { p with port := v },
  .of "username" .optional (Json.optional Json.text) fun p v => { p with username := v },
  .of "password" .optional (Json.optional Json.text) fun p v =>
    { p with password := v.map .ofString }]

/-- Reads settings; what is left out is as without a proxy. -/
def reader : Json.Reader ProxySettings := Json.record fields {}

/-- The password is never written. -/
def toJson (p : ProxySettings) : Json.Value :=
  .object [("host", .text p.host), ("port", .natural p.port),
    ("username", .ofOption p.username)]

end ProxySettings
end ClusterAccess
