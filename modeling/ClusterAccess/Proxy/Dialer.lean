import ClusterAccess.Proxy.Settings
import ClusterAccess.Time.Duration

/-!
# The dialer for a proxy

## Main definitions

* `ProxyDialer`: how to open connections through a proxy.
* `ProxySettings.dialer`: the dialer that settings ask for.
-/
namespace ClusterAccess

structure ProxyDialer where
  address : String
  credentials : Option (String × Secret)
  /-- The limit on reaching the proxy and having it open the connection. -/
  timeout : Time.Duration := .ofSeconds 30
  deriving DecidableEq

namespace ProxyDialer

def describe (d : ProxyDialer) : String :=
  Text.record "Socks5Dialer"
    [("proxy_address", Text.quoted d.address),
     ("authenticated", if d.credentials.isSome then "true" else "false"),
     ("timeout", d.timeout.render)]

end ProxyDialer

/-- The description of a dialer that gives up on cancellation, from that of the dialer within. -/
def describeCancellable (inner : String) : String := Text.record "CancelAware" [("inner", inner)]

/-- The dialer for connections to databases; without a proxy there is none. -/
def ProxySettings.dialer (p : ProxySettings) : Except AccessError (Option ProxyDialer) :=
  if p.isEnabled then
    match p.credentials with
    | .ok credentials => .ok (some { address := p.address, credentials })
    | .error e => .error e
  else .ok none

end ClusterAccess
