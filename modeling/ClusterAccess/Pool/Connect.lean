import ClusterAccess.Pool.Basic

/-!
# Connecting through the pool

## Main definitions

* `PoolConfig`: the services and settings of a pool.
* `PoolConfig.tryConnect`: one connection, tested, or given up again.
* `PoolConfig.retry`: as many attempts as the settings allow.
* `PoolConfig.connect`: the kept credential and connection, or new ones.
-/
namespace ClusterAccess

open Time

structure PoolConfig (σ C : Type) where
  services : Services σ C
  settings : Settings
  delay : RetryDelay

namespace PoolConfig

variable (p : PoolConfig σ C)

/-- Waits before the first attempt, or after the given failed one. -/
def wait (cancelAt : Option Nat) (attempt : Nat) : Task σ C Unit := fun r =>
  let (cut, elapsed) := p.delay.wait attempt (cancelAt.map (· - r.now))
  let r := { r.note (.wait attempt) with now := r.now + elapsed }
  if cut then (.failed .cancelled, r) else (.ok (), r)

/-- Whether no further attempt can help. -/
def isFinal : AccessError → Bool
  | .cancelled | .unsupported _ => true
  | _ => false

/-- A failure of one step of an attempt, unless no other attempt can help. -/
def attemptError (reword : String → AccessError) (e : AccessError) : AccessError :=
  if isFinal e then e else reword e.message

/-- Gives up a connection that failed its test; whether that works does not matter. -/
def discard (c : C) : Task σ C Unit := fun r =>
  match Task.await none (p.services.askDisconnect c) r with
  | (.ok (), r) => (.ok (), r.note (.disconnected c (.ok ())))
  | (.failed e, r) => (.ok (), r.note (.disconnected c (.error e)))
  | other => other

/-- Connects and tests the connection. -/
def tryConnect (cancelAt : Option Nat) (key : ClusterKey) (target : Target)
    (dialer : Option ProxyDialer) (options : ConnectOptions) (attempt : Nat) : Task σ C C :=
  fun r =>
    match Task.await cancelAt (p.services.askConnect target dialer options) r with
    | (.ok c, r) =>
      match Task.await cancelAt (p.services.askPing c) (r.note (.dialed key target (.ok c))) with
      | (.ok (), r) => (.ok c, r.note (.pinged c (.ok ())))
      | (.failed e, r) =>
        match p.discard c (r.note (.pinged c (.error e))) with
        | (.ok (), r) =>
          (.failed (attemptError (.ping key.project key.cluster attempt) e), r)
        | (.failed e, r) => (.failed e, r)
        | (.aborted, r) => (.aborted, r)
        | (.stuck, r) => (.stuck, r)
      | (.aborted, r) => (.aborted, r)
      | (.stuck, r) => (.stuck, r)
    | (.failed e, r) =>
      (.failed (attemptError (.dial key.project key.cluster attempt) e),
        r.note (.dialed key target (.error e)))
    | (.aborted, r) => (.aborted, r)
    | (.stuck, r) => (.stuck, r)

/-- How many attempts are made at most. -/
def maxAttempts : Nat := max 1 p.settings.pool.maxAttempts

/-- The attempts that are left, after each of which there is a wait. -/
def retry (cancelAt : Option Nat) (key : ClusterKey) (target : Target)
    (dialer : Option ProxyDialer) (options : ConnectOptions) (left : Nat) (last : AccessError) :
    Task σ C C := fun r =>
  match left with
  | 0 => (.failed (.connectExhausted key.project key.cluster p.maxAttempts last), r)
  | left + 1 =>
    let attempt := p.maxAttempts - left
    match p.tryConnect cancelAt key target dialer options attempt r with
    | (.failed e, r) =>
      if isFinal e then (.failed e, r)
      else match p.wait cancelAt attempt r with
        | (.ok (), r) => retry cancelAt key target dialer options left e r
        | (.failed e, r) => (.failed e, r)
        | (.aborted, r) => (.aborted, r)
        | (.stuck, r) => (.stuck, r)
    | other => other

/-- The dialer of the settings; what is wrong with them is told together with the cluster. -/
def dialer (key : ClusterKey) : Except AccessError (Option ProxyDialer) :=
  match p.settings.proxy.dialer with
  | .ok d => .ok d
  | .error e =>
    let text := match e with
      | .dialer m => m
      | other => other.message
    .error (.dialer s!"cluster {key.cluster} in project {key.project}: {text}")

/-- The limits for a connection, which are wider through a proxy. -/
def options (dialer : Option ProxyDialer) : ConnectOptions :=
  if dialer.isSome then p.settings.pool.proxiedOptions else p.settings.pool.directOptions

/-- Looks a cluster up and reads off where to connect. -/
def askEndpoint (key : ClusterKey) : Run σ C → Reply (Outcome Endpoint) × Run σ C := fun r =>
  let (reply, r) := Task.begin (.clusterInfo key.project key.cluster)
    (p.services.clusterInfo key.project key.cluster) r
  (reply.map fun found =>
    found.handle fun info => .ofExcept (Endpoint.resolve key.project key.cluster info), r)

/-- A new connection for a credential: wait, look the cluster up, and connect. -/
def openConnection (cancelAt : Option Nat) (key : ClusterKey) (dialer : Option ProxyDialer)
    (credential : Credential) : Task σ C C := do
  p.wait cancelAt 0
  let endpoint ← Task.await cancelAt (p.askEndpoint key)
  let target := Target.assemble endpoint credential
  p.retry cancelAt key target dialer (p.options dialer) p.maxAttempts .cancelled

/-- The kept credential of a project, or a new one, which is kept at once. -/
def credential (cancelAt : Option Nat) (project : String) (pool : Pool C) :
    Run σ C → Outcome Credential × Pool C × Run σ C := fun r =>
  match pool.credential? project with
  | some c => (.ok c, pool, r)
  | none =>
    match Task.await cancelAt (p.services.provision p.settings.account project) r with
    | (.ok c, r) => (.ok c, pool.putCredential project c, r)
    | (other, r) => (other, pool, r)

/-- The credential of a project and a tested connection to a cluster. Wrong proxy settings are told
before anything is created. -/
def connect (cancelAt : Option Nat) (key : ClusterKey) (pool : Pool C) :
    Run σ C → Outcome (Credential × C) × Pool C × Run σ C := fun r =>
  if pool.isClosed then (.failed .closed, pool, r)
  else match p.dialer key with
    | .error e => (.failed e, pool, r)
    | .ok dialer =>
      match p.credential cancelAt key.project pool r with
      | (.ok credential, pool, r) =>
        match pool.connection? key with
        | some c => (.ok (credential, c), pool, r)
        | none =>
          match p.openConnection cancelAt key dialer credential r with
          | (.ok c, r) => (.ok (credential, c), pool.putConnection key c, r)
          | (.failed e, r) => (.failed e, pool, r)
          | (.aborted, r) => (.aborted, pool, r)
          | (.stuck, r) => (.stuck, pool, r)
      | (.failed e, pool, r) => (.failed e, pool, r)
      | (.aborted, pool, r) => (.aborted, pool, r)
      | (.stuck, pool, r) => (.stuck, pool, r)

end PoolConfig
end ClusterAccess
