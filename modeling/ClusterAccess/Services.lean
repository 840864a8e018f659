import ClusterAccess.Password
import ClusterAccess.Proxy.Dialer
import ClusterAccess.Settings.Basic
import ClusterAccess.Target
import ClusterAccess.Time.Reply

/-!
# The services that cluster access is built on

A random source, a clock, the control plane and a database driver, all over one world whose state
they pass on. What is done to them is recorded together with the time at which it began, and what
becomes of connections together with the time at which it is known.

## Main definitions

* `Services`: the operations.
* `Call`: an operation as it was begun.
* `Event`: what becomes of connections, and the waits in between.
* `Run`: the world, the time and the record.
* `Task`: something done in a run; `Task.await` waits for a reply unless cancelled before.
-/
namespace ClusterAccess

open Time

/-- The services, over worlds `σ` and with connections `C`. -/
structure Services (σ C : Type) where
  password : PasswordPolicy → σ → Outcome Secret × σ
  /-- A random identifier of the given length. -/
  identifier : Nat → σ → Outcome String × σ
  clock : σ → Timestamp
  createAccount : String → AccountRequest → σ → Reply (Outcome Account) × σ
  clusterInfo : String → String → σ → Reply (Outcome ClusterInfo) × σ
  connect : Target → Option ProxyDialer → ConnectOptions → σ → Reply (Except AccessError C) × σ
  ping : C → σ → Reply (Except AccessError Unit) × σ
  disconnect : C → σ → Reply (Except AccessError Unit) × σ

inductive Call (C : Type) where
  | password (policy : PasswordPolicy)
  | createAccount (project : String) (request : AccountRequest)
  | clusterInfo (project cluster : String)
  | connect (target : Target) (dialer : Option ProxyDialer) (options : ConnectOptions)
  | ping (connection : C)
  | disconnect (connection : C)

inductive Event (C : Type) where
  /-- A wait begins: before the first attempt, numbered 0, or after a failed one. -/
  | wait (attempt : Nat)
  /-- A dial is over, and the driver hands over a connection or not. -/
  | dialed (key : ClusterKey) (target : Target) (result : Except AccessError C)
  | pinged (connection : C) (result : Except AccessError Unit)
  | disconnected (connection : C) (result : Except AccessError Unit)

/-- A world under way. -/
structure Run (σ C : Type) where
  world : σ
  /-- Milliseconds since the beginning. -/
  now : Nat := 0
  /-- The calls in the order in which they began, each with its time. -/
  calls : List (Nat × Call C) := []
  /-- The events in their order, each with its time. -/
  events : List (Nat × Event C) := []

/-- The run with an event of this moment. -/
def Run.note (e : Event C) (r : Run σ C) : Run σ C := { r with events := r.events ++ [(r.now, e)] }

/-- Something done in a run. -/
def Task (σ C α : Type) := Run σ C → Outcome α × Run σ C

namespace Task

def pure (a : α) : Task σ C α := fun r => (.ok a, r)

def fail (e : AccessError) : Task σ C α := fun r => (.failed e, r)

/-- Goes on with `next` only if the first task succeeds. -/
def bind (t : Task σ C α) (next : α → Task σ C β) : Task σ C β := fun r =>
  match t r with
  | (.ok a, r) => next a r
  | (.failed e, r) => (.failed e, r)
  | (.aborted, r) => (.aborted, r)
  | (.stuck, r) => (.stuck, r)

instance : Monad (Task σ C) where
  pure := pure
  bind := bind

/-- Records a call and begins it. -/
def begin (call : Call C) (f : σ → α × σ) : Run σ C → α × Run σ C := fun r =>
  let (a, world) := f r.world
  (a, { r with world, calls := r.calls ++ [(r.now, call)] })

/-- What waits for ever in the end is never there. -/
def settle : Reply (Outcome α) → Reply (Outcome α)
  | .after _ .stuck => .never
  | reply => reply

/-- Waits for what `start` replies. After the cancellation nothing is started; a cancellation while
waiting ends the wait. -/
def await (cancelAt : Option Nat) (start : Run σ C → Reply (Outcome α) × Run σ C) :
    Task σ C α := fun r =>
  if cancelAt.any (· ≤ r.now) then (.failed .cancelled, r)
  else
    let (reply, r) := start r
    match settle reply with
    | .never => match cancelAt with
      | some t => (.failed .cancelled, { r with now := t })
      | none => (.stuck, r)
    | .after delay outcome =>
      match cancelAt with
      | some t =>
        if t ≤ r.now + delay then (.failed .cancelled, { r with now := t })
        else (outcome, { r with now := r.now + delay })
      | none => (outcome, { r with now := r.now + delay })

/-- Lets time pass. -/
def sleep (milliseconds : Nat) : Task σ C Unit := fun r =>
  (.ok (), { r with now := r.now + milliseconds })

end Task

namespace Services

variable (s : Services σ C)

/-- The reply of a call to the driver or the control plane. -/
def ask (call : Call C) (f : σ → Reply (Except AccessError α) × σ) :
    Run σ C → Reply (Outcome α) × Run σ C := fun r =>
  let (reply, r) := Task.begin call f r
  (reply.map .ofExcept, r)

def askConnect (target : Target) (dialer : Option ProxyDialer) (options : ConnectOptions) :
    Run σ C → Reply (Outcome C) × Run σ C :=
  ask (.connect target dialer options) (s.connect target dialer options)

def askPing (c : C) : Run σ C → Reply (Outcome Unit) × Run σ C := ask (.ping c) (s.ping c)

def askDisconnect (c : C) : Run σ C → Reply (Outcome Unit) × Run σ C :=
  ask (.disconnect c) (s.disconnect c)

end Services
end ClusterAccess
