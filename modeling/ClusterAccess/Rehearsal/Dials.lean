import ClusterAccess.Probe.Tcp
import ClusterAccess.Proxy.Dialer
import ClusterAccess.Socks5.Client

/-!
# Dials that follow a script

## Main definitions

* `DialScript`: how each dial to a host and port is answered.
* `DialScript.network`: a network that follows a script and remembers the dials.
* `dialCancellable`: a dial that a cancellation may cut short.
* `ProxyDialer.dialPeer`: a dial through a proxy that follows a script.
-/
namespace ClusterAccess

open Time Probe

structure DialCue where
  silent : Bool := false
  delay : Nat := 0
  error : Option IoError := none
  deriving Repr

def DialCue.reply (c : DialCue) : Reply (Except IoError Unit) :=
  if c.silent then .never
  else .after c.delay (match c.error with
    | some e => .error e
    | none => .ok ())

/-- For each host and port, with a bar between them, the answers to the dials in turn; the last
answer holds for all further dials. The key `*` stands for all others. -/
structure DialScript where
  cues : List (String × List DialCue) := []

namespace DialScript

def cue (s : DialScript) (host : String) (port earlier : Nat) : DialCue :=
  let cues := ((s.cues.lookup s!"{host}|{port}").or (s.cues.lookup "*")).getD []
  (cues[earlier]?.or cues.getLast?).getD {}

/-- The world is the list of dials so far. -/
def network (s : DialScript) : Network (List (String × Nat)) where
  dial host port dials :=
    ((s.cue host port (dials.count (host, port))).reply, dials ++ [(host, port)])

end DialScript

/-- A dial that ends when the cancellation comes. -/
def dialCancellable (net : Network σ) (host : String) (port : Nat) (cancelIn : Option Nat)
    (world : σ) : Reply (Except IoError Unit) × σ :=
  let (reply, world) := net.dial host port world
  (reply.unlessCancelled cancelIn (.error (dialCancelled host port)), world)

namespace ProxyDialer

/-- The text for a proxy that takes too long. -/
def tooSlow (d : ProxyDialer) (host : String) (port : Nat) : IoError :=
  ⟨.timedOut, s!"SOCKS5 proxy {d.address} did not open {host}:{port} within {d.timeout.render}"⟩

/-- The user and the password in the clear. -/
def plainCredentials (d : ProxyDialer) : Option (String × String) :=
  d.credentials.map fun (user, password) => (user, password.expose)

/-- Dials through a proxy that follows a script, or that is not there at all. A proxy that keeps the
dialer waiting is given up when the time is over. -/
def dialPeer (d : ProxyDialer) (host : String) (port : Nat) (peer : Option Socks5.Peer) :
    Reply (Except IoError Unit) × Option Socks5.Peer :=
  match peer with
  | none => (.after 0 (.error .refused), none)
  | some peer =>
    match (Socks5.handshake d.plainCredentials host port).meet peer with
    | (some result, peer) => (.after 0 result, some peer)
    | (none, peer) =>
      (Reply.never.within d.timeout.milliseconds (.error (d.tooSlow host port)), some peer)

end ProxyDialer
end ClusterAccess
