import ClusterAccess.IoError
import ClusterAccess.Settings.Basic
import ClusterAccess.Target
import ClusterAccess.Time.Reply

/-!
# Testing whether seeds can be reached

A probe opens plain connections to the seeds of a target, without waiting for one before it dials
the next; the first that accepts is enough.

## Main definitions

* `Seed`: a host and port.
* `Seed.parse?`: a seed as it is listed.
* `Network`: what dialing does to a world.
* `race`: the first success among replies, or the last failure.
* `TcpProbe.connect`, `TcpProbe.ping`: the two tests.
* `TcpProbe.disconnect`: gives a probe up, with the connections that it keeps open.
-/
namespace ClusterAccess.Probe

open Time

structure Seed where
  host : String
  port : Nat
  deriving DecidableEq, Repr

namespace Seed

def defaultPort : Nat := 27017

/-- `host:port`, with brackets around a host that has colons. -/
def render (s : Seed) : String :=
  if s.host.toList.contains ':' then s!"[{s.host}]:{s.port}" else s!"{s.host}:{s.port}"

/-- The host and the text of the port, if there is one. After a bracket a port needs a colon right
behind it; anything else there is ignored. -/
def split? (s : List Char) : Option (List Char × Option (List Char)) :=
  match s with
  | '[' :: rest =>
    let host := rest.takeWhile (· != ']')
    match rest.drop host.length with
    | [] => none
    | _ :: ':' :: port => some (host, some port)
    | _ => some (host, none)
  | _ =>
    if s.contains ':' then
      let port := (s.reverse.takeWhile (· != ':')).reverse
      some (s.take (s.length - port.length - 1), some port)
    else some (s, none)

def parse? (text : String) : Option Seed :=
  match split? text.toList with
  | none => none
  | some (host, port) =>
    if host.isEmpty then none
    else match port with
      | none => some ⟨String.ofList host, defaultPort⟩
      | some port =>
        (Text.Numeral.bounded? 65535 (String.ofList port)).map fun n => ⟨String.ofList host, n⟩

end Seed

/-! ## Dialing -/

/-- How the world answers to a dial. -/
structure Network (σ : Type) where
  dial : String → Nat → σ → Reply (Except IoError Unit) × σ

/-- The text for a dial that was cut short by a cancellation. -/
def dialCancelled (host : String) (port : Nat) : IoError :=
  ⟨.interrupted, s!"dial to {host}:{port} cancelled"⟩

/-- A reply that is better than none so far: an earlier success beats a later one, any success beats
a failure, and of failures the last counts. The time of each is kept. -/
def better (best : Option (Nat × Except IoError α)) (delay : Nat) (result : Except IoError α) :
    Nat × Except IoError α :=
  match best, result with
  | none, result => (delay, result)
  | some (t, .ok a), .ok b => if delay < t then (delay, .ok b) else (t, .ok a)
  | some (t, .ok a), .error _ => (t, .ok a)
  | some _, .ok b => (delay, .ok b)
  | some (t, .error e), .error f => if t ≤ delay then (delay, .error f) else (t, .error e)

def raceFrom (best : Option (Nat × Except IoError α)) :
    List (Reply (Except IoError α)) → Option (Nat × Except IoError α)
  | [] => best
  | .never :: rest => raceFrom best rest
  | .after delay result :: rest => raceFrom (some (better best delay result)) rest

/-- The first success, the earlier in the list if two come together. If all fail it is the last
failure, the later in the list if two come together. -/
def race (replies : List (Reply (Except IoError α))) : Reply (Except IoError α) :=
  match raceFrom none replies with
  | none => .never
  | some (delay, .error e) =>
    if replies.any (· matches .never) then .never else .after delay (.error e)
  | some (delay, result) => .after delay result

/-- Whether a dial succeeded at once. -/
def isImmediate : Reply (Except IoError α) → Bool
  | .after 0 (.ok _) => true
  | _ => false

/-- Dials seeds in order, each with so much time, up to one that accepts at once. -/
def dialAll (net : Network σ) (timeout : Duration) :
    List Seed → σ → List (Reply (Except IoError Seed)) × σ
  | [], world => ([], world)
  | seed :: rest, world =>
    let (reply, world) := net.dial seed.host seed.port world
    let late : IoError :=
      ⟨.timedOut, s!"{seed.render} did not answer within {timeout.render}"⟩
    let bounded := (reply.within timeout.milliseconds (.error late)).map (·.map fun _ => seed)
    if isImmediate bounded then ([bounded], world)
    else
      let (others, world) := dialAll net timeout rest world
      (bounded :: others, world)

/-- The first seed to accept a connection. -/
def dialAny (net : Network σ) (timeout : Duration) (seeds : List Seed) (world : σ) :
    Reply (Except IoError Seed) × σ :=
  let (replies, world) := dialAll net timeout seeds world
  (race replies, world)

/-! ## The probe -/

/-- A target that was reached. -/
structure TcpProbe where
  seeds : List Seed
  isProxied : Bool
  selectionTimeout : Duration
  /-- Whether it was given up, after which dialers that can be cancelled no longer dial. -/
  isClosed : Bool := false
  /-- Where the connections lead that are open. -/
  streams : List Seed := []
  deriving DecidableEq, Repr

namespace TcpProbe

def describe (p : TcpProbe) : String :=
  Text.record "ProbeConnection"
    [("seeds", Text.quotedList (p.seeds.map Seed.render)),
     ("proxied", if p.isProxied then "true" else "false")]

/-- The seeds of a target, or what is wrong with it. -/
def seedsOf (t : Target) : Except AccessError (List Seed) :=
  if t.scheme = .srv then
    .error (.unsupported
      s!"{t.redacted} needs an SRV lookup, which a plain TCP check cannot perform")
  else do
    let seeds ← t.seeds.mapM fun raw => match Seed.parse? raw with
      | some seed => .ok seed
      | none => .error (.driver s!"invalid seed host: {raw}")
    if seeds.isEmpty then .error (.driver s!"{t.redacted} lists no hosts") else .ok seeds

/-- Reaches at least one seed of a target. -/
def connect (net : Network σ) (t : Target) (isProxied : Bool) (options : ConnectOptions)
    (world : σ) : Reply (Except AccessError TcpProbe) × σ :=
  match seedsOf t with
  | .error e => (.after 0 (.error e), world)
  | .ok seeds =>
    let (reply, world) := dialAny net options.connectTimeout seeds world
    (reply.map fun
      | .ok seed =>
        .ok { seeds, isProxied, selectionTimeout := options.selectionTimeout, streams := [seed] }
      | .error e => .error (.driver s!"no seed host reachable: {e.message}"), world)

/-- A network that was given up: every dial is cut short. -/
def closedNetwork : Network σ where
  dial host port world := (.after 0 (.error (dialCancelled host port)), world)

/-- How a probe dials: one that was given up lets its dialer cut every dial short. -/
def network (net : Network σ) (p : TcpProbe) : Network σ :=
  if p.isClosed && p.isProxied then closedNetwork else net

/-- Reaches at least one seed once more, and tells which one answered. -/
def reach (net : Network σ) (p : TcpProbe) (world : σ) : Reply (Except AccessError Seed) × σ :=
  let (reply, world) := dialAny (p.network net) p.selectionTimeout p.seeds world
  (reply.map fun
    | .ok seed => .ok seed
    | .error e => .error (.driver s!"no seed host answered: {e.message}"), world)

def ping (net : Network σ) (p : TcpProbe) (world : σ) : Reply (Except AccessError Unit) × σ :=
  let (reply, world) := p.reach net world
  (reply.map fun answer => answer.map fun _ => (), world)

/-- Keeps a connection open. -/
def keep (p : TcpProbe) (seed : Seed) : TcpProbe := { p with streams := p.streams ++ [seed] }

def disconnect (p : TcpProbe) : TcpProbe := { p with isClosed := true, streams := [] }

end TcpProbe
end ClusterAccess.Probe
