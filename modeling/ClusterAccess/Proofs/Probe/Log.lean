import ClusterAccess.Command.Probe
import ClusterAccess.Proofs.Run.Awaiting

/-!
# Logs of connections

Worlds are extended by a log of the connections to database hosts that are opened or tried, and
networks and clients are made to write it. The log shows which way the connections of a prober take.

## Main definitions

* `Opening`: a connection that is opened or tried, with the dialer that it goes through.
* `Logged`: a world with a log.
* `logNetwork`, `logContact`: networks and clients that write the log.
* `Command.DialsSeeds`: what is dialed for plain connections.
* `Command.Prober.Faithful`: probers whose connections all go through the dialer that they are
  given.
* `Command.Prober.Logs`: probers that only keep a log besides what they do anyway.

## Main statements

* `Probe.dialAll_logNetwork`: dials are logged, and else nothing changes.
* `Command.tcpProber_dialsSeeds`, `Command.tcpProber_faithful`: plain connections go through the
  dialer that is given.
* `Command.mongoProber_proxied`, `Command.mongoProber_faithful`: a client that opens its connections
  itself is not set up for a dialer.
-/
namespace ClusterAccess

open Time Probe

variable {σ C : Type}

/-! ## Logs -/

/-- A connection to a database host that is opened or tried. -/
inductive Opening where
  | dial (dialer : Option ProxyDialer) (host : String) (port : Nat)
  /-- By a client that opens its connections itself. -/
  | contact (server : Server)
  deriving DecidableEq

/-- The dialer that the connection goes through; without one it is direct. -/
def Opening.dialer : Opening → Option ProxyDialer
  | dial d _ _ => d
  | contact _ => none

def Probe.Seed.opening (d : Option ProxyDialer) (s : Seed) : Opening := .dial d s.host s.port

theorem Opening.dialer_of_mem {d : Option ProxyDialer} {seeds : List Seed} {x : Opening}
    (mem : x ∈ seeds.map (Seed.opening d)) : x.dialer = d := by
  obtain ⟨s, -, rfl⟩ := List.mem_map.mp mem
  rfl

/-- The seeds of a target, if it has sound ones. -/
def Target.soundSeeds (t : Target) : List Seed := (TcpProbe.seedsOf t).toOption.getD []

/-- A world with the connections so far. -/
structure Logged (σ : Type) where
  world : σ
  log : List Opening := []

namespace Logged

/-- Does something in which no connection is opened. -/
def lift (f : σ → α × σ) (w : Logged σ) : α × Logged σ :=
  let (a, world) := f w.world
  (a, { w with world })

/-- What is left without the log. -/
def erase (x : α × Logged σ) : α × σ := (x.1, x.2.world)

def add (w : Logged σ) (world : σ) (openings : List Opening) : Logged σ :=
  ⟨world, w.log ++ openings⟩

end Logged

/-- Networks that log every dial. -/
def logNetwork (network : Option ProxyDialer → Network σ) (d : Option ProxyDialer) :
    Network (Logged σ) where
  dial host port w :=
    let (reply, world) := (network d).dial host port w.world
    (reply, w.add world [.dial d host port])

/-- Clients that log every server to which they open connections. -/
def logContact (contact : List Server → σ → σ) (servers : List Server) (w : Logged σ) : Logged σ :=
  w.add (contact servers w.world) (servers.map .contact)

/-! ## What is dialed -/

section Dials

variable (network : Option ProxyDialer → Network σ) (d : Option ProxyDialer)

/-- Dials are logged, and else nothing changes. -/
theorem Probe.dialAll_logNetwork (timeout : Duration) (seeds : List Seed) (w : Logged σ) :
    dialAll (logNetwork network d) timeout seeds w =
      ((dialAll (network d) timeout seeds w.world).1,
        w.add (dialAll (network d) timeout seeds w.world).2
          ((seeds.take (dialAll (network d) timeout seeds w.world).1.length).map
            (Seed.opening d))) := by
  induction seeds generalizing w with
  | nil => simp [dialAll, Logged.add]
  | cons seed rest ih =>
    rcases hd : (network d).dial seed.host seed.port w.world with ⟨reply, world⟩
    have dialed : (logNetwork network d).dial seed.host seed.port w =
        (reply, w.add world [seed.opening d]) := by
      simp only [logNetwork, hd, Seed.opening]
    simp only [dialAll, dialed, hd]
    split
    · rfl
    · rw [ih]
      simp [Logged.add]

theorem Probe.dialAny_logNetwork (timeout : Duration) (seeds : List Seed) (w : Logged σ) :
    ∃ n, dialAny (logNetwork network d) timeout seeds w =
      ((dialAny (network d) timeout seeds w.world).1,
        w.add (dialAny (network d) timeout seeds w.world).2
          ((seeds.take n).map (Seed.opening d))) :=
  ⟨_, by rw [dialAny, dialAll_logNetwork]; rfl⟩

/-- Connecting dials seeds of the target. -/
theorem Probe.TcpProbe.connect_logNetwork (t : Target) (isProxied : Bool) (o : ConnectOptions)
    (w : Logged σ) : ∃ n, TcpProbe.connect (logNetwork network d) t isProxied o w =
      ((TcpProbe.connect (network d) t isProxied o w.world).1,
        w.add (TcpProbe.connect (network d) t isProxied o w.world).2
          ((t.soundSeeds.take n).map (Seed.opening d))) := by
  unfold TcpProbe.connect Target.soundSeeds
  cases TcpProbe.seedsOf t with
  | error e => exact ⟨0, by simp [Logged.add]⟩
  | ok seeds =>
    obtain ⟨n, dialed⟩ := dialAny_logNetwork network d o.connectTimeout seeds w
    exact ⟨n, by simp only [dialed]; rfl⟩

/-- A probe keeps the seeds of its target. -/
theorem Probe.TcpProbe.connect_seeds {net : Network σ} {t : Target} {isProxied : Bool}
    {o : ConnectOptions} {w : σ} {delay : Nat} {p : TcpProbe}
    (h : (TcpProbe.connect net t isProxied o w).1 = .after delay (.ok p)) :
    TcpProbe.seedsOf t = .ok p.seeds := by
  unfold TcpProbe.connect at h
  cases hs : TcpProbe.seedsOf t with
  | error e => simp [hs] at h
  | ok seeds =>
    simp only [hs] at h
    obtain ⟨dialed, -, hp⟩ := Reply.map_eq_after.mp h
    cases dialed <;> cases hp
    rfl

/-- A network that was given up answers the same everywhere, and nothing is dialed. -/
theorem Probe.dialAll_closedNetwork {τ : Type} (timeout : Duration) (seeds : List Seed) (w : σ)
    (v : τ) :
    dialAll TcpProbe.closedNetwork timeout seeds w =
      ((dialAll TcpProbe.closedNetwork timeout seeds v).1, w) := by
  induction seeds with
  | nil => rfl
  | cons seed rest ih =>
    simp only [TcpProbe.closedNetwork] at ih
    simp [dialAll, TcpProbe.closedNetwork, Reply.within, Reply.map, Except.map, isImmediate, ih]

/-- Testing dials the seeds of the probe. -/
theorem Probe.TcpProbe.ping_logNetwork (p : TcpProbe) (w : Logged σ) :
    ∃ n, p.ping (logNetwork network d) w =
      ((p.ping (network d) w.world).1,
        w.add (p.ping (network d) w.world).2 ((p.seeds.take n).map (Seed.opening d))) := by
  unfold TcpProbe.ping TcpProbe.reach TcpProbe.network
  by_cases closed : (p.isClosed && p.isProxied) = true
  · refine ⟨0, ?_⟩
    simp only [closed, if_true, dialAny]
    rw [dialAll_closedNetwork _ _ w w.world, dialAll_closedNetwork _ _ w.world w.world]
    simp [Logged.add]
  · obtain ⟨n, dialed⟩ := dialAny_logNetwork network d p.selectionTimeout p.seeds w
    exact ⟨n, by simp only [closed, if_false, Bool.false_eq_true, dialed]⟩

end Dials

/-! ## Probers -/

namespace Command

/-- Probers whose connections all go through the dialer that they are given. -/
structure Prober.Faithful (prober : Prober (Logged σ) C) (dialer : C → Option ProxyDialer) :
    Prop where
  connect (t : Target) (d : Option ProxyDialer) (o : ConnectOptions) (w : Logged σ) :
    ∃ openings, (prober.connect t d o w).2.log = w.log ++ openings ∧
      ∀ x ∈ openings, x.dialer = d
  opened {t : Target} {d : Option ProxyDialer} {o : ConnectOptions} {w : Logged σ} {delay : Nat}
    {c : C} (h : (prober.connect t d o w).1 = .after delay (.ok c)) : dialer c = d
  ping (c : C) (w : Logged σ) :
    ∃ openings, (prober.ping c w).2.log = w.log ++ openings ∧ ∀ x ∈ openings, x.dialer = dialer c
  disconnect (c : C) (w : Logged σ) : (prober.disconnect c w).2.log = w.log

/-- A prober that does what another one does, and keeps a log besides. -/
structure Prober.Logs (prober : Prober (Logged σ) C) (plain : Prober σ C) : Prop where
  connect (t : Target) (d : Option ProxyDialer) (o : ConnectOptions) (w : Logged σ) :
    Logged.erase (prober.connect t d o w) = plain.connect t d o w.world
  ping (c : C) (w : Logged σ) : Logged.erase (prober.ping c w) = plain.ping c w.world
  disconnect (c : C) (w : Logged σ) :
    Logged.erase (prober.disconnect c w) = plain.disconnect c w.world

section Tcp

variable (network : Option ProxyDialer → Network σ)

theorem tcpProber_connect (t : Target) (d : Option ProxyDialer) (o : ConnectOptions)
    (w : Logged σ) :
    ∃ n, (tcpProber (logNetwork network)).connect t d o w =
      (((tcpProber network).connect t d o w.world).1,
        w.add ((tcpProber network).connect t d o w.world).2
          ((t.soundSeeds.take n).map (Seed.opening d))) := by
  obtain ⟨n, dialed⟩ := TcpProbe.connect_logNetwork network d t d.isSome o w
  exact ⟨n, by simp only [tcpProber, dialed]⟩

theorem tcpProber_ping (c : TcpProbe × Option ProxyDialer) (w : Logged σ) :
    ∃ n, (tcpProber (logNetwork network)).ping c w =
      (((tcpProber network).ping c w.world).1,
        w.add ((tcpProber network).ping c w.world).2
          ((c.1.seeds.take n).map (Seed.opening c.2))) :=
  TcpProbe.ping_logNetwork network c.2 c.1 w

/-- What is connected keeps the dialer and the seeds of the target. -/
theorem tcpProber_opened {t : Target} {d : Option ProxyDialer} {o : ConnectOptions} {w : σ}
    {delay : Nat} {c : TcpProbe × Option ProxyDialer}
    (h : ((tcpProber network).connect t d o w).1 = .after delay (.ok c)) :
    c.2 = d ∧ TcpProbe.seedsOf t = .ok c.1.seeds := by
  obtain ⟨found, connected, hc⟩ := Reply.map_eq_after.mp h
  cases found with
  | error e => cases hc
  | ok probe =>
    cases hc
    exact ⟨rfl, TcpProbe.connect_seeds connected⟩

/-- A target whose names have to be looked up is refused before anything is dialed. -/
theorem tcpProber_srv {t : Target} (h : t.scheme = .srv) (d : Option ProxyDialer)
    (o : ConnectOptions) (w : σ) :
    ∃ m, (tcpProber network).connect t d o w = (.after 0 (.error (.unsupported m)), w) :=
  ⟨_, by simp only [tcpProber, TcpProbe.connect, TcpProbe.seedsOf, h, if_true]; rfl⟩

/-- What is dialed for plain connections, and through which dialer. -/
structure DialsSeeds (prober : Prober (Logged σ) (TcpProbe × Option ProxyDialer)) : Prop where
  /-- Connecting dials seeds of the target through the given dialer. -/
  connect (t : Target) (d : Option ProxyDialer) (o : ConnectOptions) (w : Logged σ) :
    ∃ n, (prober.connect t d o w).2.log = w.log ++ (t.soundSeeds.take n).map (Seed.opening d)
  /-- A connection keeps the seeds and the dialer. -/
  opened {t : Target} {d : Option ProxyDialer} {o : ConnectOptions} {w : Logged σ} {delay : Nat}
    {c : TcpProbe × Option ProxyDialer} (h : (prober.connect t d o w).1 = .after delay (.ok c)) :
    c.2 = d ∧ TcpProbe.seedsOf t = .ok c.1.seeds
  /-- Testing a connection dials these seeds through that dialer. -/
  ping (c : TcpProbe × Option ProxyDialer) (w : Logged σ) :
    ∃ n, (prober.ping c w).2.log = w.log ++ (c.1.seeds.take n).map (Seed.opening c.2)
  /-- A target whose names have to be looked up is refused before anything is dialed. -/
  srv {t : Target} (h : t.scheme = .srv) (d : Option ProxyDialer) (o : ConnectOptions)
    (w : Logged σ) : ∃ m, prober.connect t d o w = (.after 0 (.error (.unsupported m)), w)

theorem tcpProber_dialsSeeds : DialsSeeds (tcpProber (logNetwork network)) where
  connect t d o w := by
    obtain ⟨n, dialed⟩ := tcpProber_connect network t d o w
    exact ⟨n, by rw [dialed]; rfl⟩
  opened := tcpProber_opened _
  ping c w := by
    obtain ⟨n, dialed⟩ := tcpProber_ping network c w
    exact ⟨n, by rw [dialed]; rfl⟩
  srv h d o w := tcpProber_srv _ h d o w

theorem tcpProber_faithful : (tcpProber (logNetwork network)).Faithful Prod.snd where
  connect t d o w := by
    obtain ⟨n, dialed⟩ := (tcpProber_dialsSeeds network).connect t d o w
    exact ⟨_, dialed, fun _ => Opening.dialer_of_mem⟩
  opened h := (tcpProber_opened _ h).1
  ping c w := by
    obtain ⟨n, dialed⟩ := (tcpProber_dialsSeeds network).ping c w
    exact ⟨_, dialed, fun _ => Opening.dialer_of_mem⟩
  disconnect _ _ := rfl

theorem tcpProber_logs : (tcpProber (logNetwork network)).Logs (tcpProber network) where
  connect t d o w := by
    obtain ⟨n, dialed⟩ := tcpProber_connect network t d o w
    rw [dialed]
    rfl
  ping c w := by
    obtain ⟨n, dialed⟩ := tcpProber_ping network c w
    rw [dialed]
    rfl
  disconnect _ _ := rfl

end Tcp

section Mongo

variable (isListening : Server → Bool) (contact : List Server → σ → σ)

/-- A client that would have to go through a proxy is not even set up. -/
theorem mongoProber_proxied (t : Target) (d : ProxyDialer) (o : ConnectOptions) (w : σ) :
    ∃ m, (mongoProber isListening contact).connect t (some d) o w =
      (.after 0 (.error (.unsupported m)), w) := ⟨_, rfl⟩

theorem mongoProber_faithful :
    (mongoProber isListening (logContact contact)).Faithful fun _ => none where
  connect t d o w := by
    cases d with
    | some d =>
      obtain ⟨m, refused⟩ := mongoProber_proxied isListening (logContact contact) t d o w
      exact ⟨[], by simp [refused], by simp⟩
    | none =>
      unfold mongoProber
      dsimp only
      split
      · exact ⟨_, rfl, by simp [Opening.dialer]⟩
      · exact ⟨[], by simp, by simp⟩
  opened {t d o w delay c} h := by
    cases d with
    | none => rfl
    | some d => cases h
  ping c w := ⟨_, rfl, by simp [Opening.dialer]⟩
  disconnect _ _ := rfl

theorem mongoProber_logs :
    (mongoProber isListening (logContact contact)).Logs (mongoProber isListening contact) where
  connect t d o w := by
    unfold mongoProber
    dsimp only
    split <;> rfl
  ping _ _ := rfl
  disconnect _ _ := rfl

end Mongo

end Command

end ClusterAccess
