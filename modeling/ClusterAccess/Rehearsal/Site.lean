import ClusterAccess.Api.Session
import ClusterAccess.Rehearsal.Dials

/-!
# Servers that follow a script

A site is a server for HTTP whose answers are written down beforehand, and a SOCKS5 proxy that leads
to it from port 80 of every host.

## Main definitions

* `Site`: where the servers are, and what the proxy asks for.
* `SiteStage`: the answers still to come, and the tunnels opened by the proxy.
* `Site.web`: the site as the world of an HTTP client.
* `Site.network`: the site as a network for plain connections.
-/
namespace ClusterAccess

open Time Http

structure Site where
  server : String × Nat
  proxy : String × Nat
  /-- What the proxy lets in; without it everyone may use the proxy. -/
  credentials : Option (String × String) := none
  /-- A place that accepts plain connections. -/
  listener : String × Nat

structure SiteStage where
  replies : List Reply := []
  tunnels : List (Socks5.Destination × Nat) := []
  /-- How many nonces were drawn. -/
  nonces : Nat := 0

namespace SiteStage

/-- The headers that a server adds to every answer. -/
def addedHeaders (body : List UInt8) : List (String × String) :=
  [("Content-Length", toString body.length), ("Connection", "close")]

/-- An answer as it arrives: one that is only interim is followed by nothing, and one whose head is
not sound is none. Some statuses rule out a body. -/
def delivered : Reply → Reply
  | .response r =>
    if r.status < 101 || (101 < r.status && r.status < 200) || 999 < r.status then .closed
    else match Head.read? (Head.write (r.headers ++ addedHeaders r.body)) with
      | none => .closed
      | some headers =>
        let hasBody := r.status ≠ 101 && r.status ≠ 204 && r.status ≠ 304
        .response { r with headers, body := if hasBody then r.body else [] }
  | other => other

/-- The next answer; after the last one the server hangs up. -/
def next (w : SiteStage) : Reply × SiteStage :=
  match w.replies with
  | [] => (.closed, w)
  | reply :: rest => (delivered reply, { w with replies := rest })

def nextNonce (w : SiteStage) : String × SiteStage :=
  ("nonce-" ++ toString w.nonces, { w with nonces := w.nonces + 1 })

end SiteStage

namespace Site

variable (s : Site)

/-- Where the proxy is asked to connect to. -/
def destination : Url.Host → Socks5.Destination
  | .address (.v4 a b c d) => .address (.v4 a b c d)
  | host => .domain (Text.utf8Bytes host.render)

/-- Whether the proxy's URL leads to the proxy and has what that asks for. -/
def admits (proxy : Url) : Bool :=
  proxy.host.map Url.Host.render == some s.proxy.1 && proxy.port == some s.proxy.2 &&
    userOf? proxy == s.credentials

def answer (proxy : Option Url) (r : Request) (w : SiteStage) : Reply × SiteStage :=
  match r.url.host, r.url.effectivePort with
  | some host, some port =>
    match proxy with
    | none =>
      if r.url.scheme == "http" && (host.render, port) == s.server then w.next
      else (.unreachable, w)
    | some proxy =>
      if s.admits proxy then
        let w := { w with tunnels := w.tunnels ++ [(destination host, port)] }
        if r.url.scheme == "http" && port = 80 then w.next else (.unreachable, w)
      else (.unreachable, w)
  | _, _ => (.unreachable, w)

/-- The site as seen by an HTTP client at some time. -/
def web (now : Nat) : Api.Web SiteStage where
  answer := s.answer
  clock w := (now, w)
  nonce w := w.nextNonce

/-- What the proxy does with a client that dials through it. -/
def peer (d : ProxyDialer) (host : String) (port : Nat) : Option Socks5.Peer :=
  if d.address == s!"{s.proxy.1}:{s.proxy.2}" then
    let greeting := (Socks5.greeting d.credentials.isSome).length
    let connect := match Socks5.destination? host with
      | some there =>
        [.take (Socks5.connectRequest there port).length, .give [5, 0, 0, 1, 0, 0, 0, 0, 0, 0]]
      | none => []
    let admission : List Socks5.PeerStep := match s.credentials, d.plainCredentials with
      | none, _ => [.give [5, 0]]
      | some _, none => [.give [5, 0xFF]]
      | some expected, some given =>
        let length := ((Socks5.passwordRequest? given.1 given.2).getD []).length
        [.give [5, 2], .take length, .give [1, if given = expected then 0 else 1]]
    some { script := .take greeting :: admission ++ connect }
  else none

/-- Plain connections, through the proxy if there is a dialer for it. -/
def network (dialer : Option ProxyDialer) : Probe.Network SiteStage where
  dial host port w :=
    match dialer with
    | none =>
      (.after 0 (if (host, port) == s.listener then .ok () else .error .refused), w)
    | some d =>
      let (reply, _) := d.dialPeer host port (s.peer d host port)
      match reply, Socks5.destination? host with
      | .after 0 (.ok ()), some there =>
        (reply, { w with tunnels := w.tunnels ++ [(there, port)] })
      | _, _ => (reply, w)

end Site
end ClusterAccess
