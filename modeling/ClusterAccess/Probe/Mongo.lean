import ClusterAccess.ConnectionString

/-!
# Clients of the database protocol

Such a client opens its connections itself and looks up names itself, so it cannot be used through
a proxy.

## Main definitions

* `MongoClient`: a client that is set up.
* `MongoClient.connect`: sets up a client, without opening a connection.
* `MongoClient.ping`: asks a server for a sign of life.
-/
namespace ClusterAccess.Probe

structure MongoClient where
  servers : List Server
  deriving DecidableEq, Repr

namespace MongoClient

def hosts (c : MongoClient) : List String := c.servers.map Server.render

def describe (c : MongoClient) : String :=
  Text.record "MongoConnection" [("hosts", Text.quotedList c.hosts)]

/-- Sets up a client for a target whose names have been looked up. Faults of the connection string
are not detailed, because they might show the password. -/
def connect (t : Target) (isProxied : Bool) : Except AccessError MongoClient :=
  if isProxied then
    .error (.unsupported
      s!"{t.redacted} must go through the proxy, which the mongodb driver cannot dial through")
  else
    let rest := withoutStart (t.scheme.name ++ "://") t.uri.expose
    match t.scheme, ConnectionString.parse? rest.toList with
    | .standard, some c => .ok ⟨c.servers⟩
    | _, _ => .error (.driver s!"invalid connection string {t.redacted}")

/-- Some server has to listen. -/
def ping (c : MongoClient) (isListening : Server → Bool) : Except AccessError Unit :=
  if c.servers.any isListening then .ok () else .error (.driver "no server answered")

end MongoClient
end ClusterAccess.Probe
