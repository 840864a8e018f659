import ClusterAccess.Proofs.Pool.Prescribed
import ClusterAccess.Proofs.Probe.Log

/-!
# No way around the proxy

A pool asks for connections in the way that the settings prescribe, and a faithful prober makes them
in the way that is asked for, so that all that is logged goes the prescribed way.

## Main definitions

* `Services.logged`, `Services.probing`: services with a log, and with a prober as their driver.
* `PoolConfig.openings`: what is logged while instructions are played.
* `ProxySettings.Carries`: connections that are dialed through the proxy of the settings.

## Main statements

* `PoolConfig.play_logged`: the log changes nothing.
* `PoolConfig.openings_prescribed`: with a faithful prober all connections go the prescribed way.
* `PoolConfig.no_bypass`: with a proxy, no connection to a database host is direct.
-/
namespace ClusterAccess

open Time Probe

variable {σ C D : Type}

/-! ## The prescribed way -/

/-- Every connection so far goes a way that the settings prescribe. -/
def Logged.Prescribed (settings : Settings) (w : Logged σ) : Prop :=
  ∀ x ∈ w.log, ∃ o, settings.Prescribes x.dialer o

theorem Logged.Prescribed.append {settings : Settings} {w w' : Logged σ} {openings : List Opening}
    (h : w.Prescribed settings) (log : w'.log = w.log ++ openings)
    (added : ∀ x ∈ openings, ∃ o, settings.Prescribes x.dialer o) : w'.Prescribed settings := by
  intro x mem
  rw [log, List.mem_append] at mem
  exact mem.elim (h x) (added x)

/-- The connection is dialed through the proxy of the settings, signed in as they say. -/
def ProxySettings.Carries (s : ProxySettings) (x : Opening) : Prop :=
  ∃ credentials host port, s.credentials = .ok credentials ∧
    x = .dial (some { address := s.address, credentials }) host port

/-- Where there is a proxy, the prescribed way goes through it. -/
theorem Settings.Prescribes.carries {settings : Settings} {x : Opening} {o : ConnectOptions}
    (way : settings.Prescribes x.dialer o)
    (enabled : settings.proxy.host ≠ "" ∧ settings.proxy.port ≠ 0) : settings.proxy.Carries x := by
  cases x with
  | contact server =>
    cases way with
    | direct disabled => tauto
  | dial d host port =>
    cases way with
    | direct disabled => tauto
    | proxied _ valid => exact ⟨_, host, port, valid, rfl⟩

/-! ## Pools -/

namespace Services

/-- The services in a world with a log. -/
def logged (base : Services σ D) : Services (Logged σ) D where
  password policy := Logged.lift (base.password policy)
  identifier length := Logged.lift (base.identifier length)
  clock w := base.clock w.world
  createAccount project q := Logged.lift (base.createAccount project q)
  clusterInfo project cluster := Logged.lift (base.clusterInfo project cluster)
  connect t d o := Logged.lift (base.connect t d o)
  ping c := Logged.lift (base.ping c)
  disconnect c := Logged.lift (base.disconnect c)

/-- The services with a prober as their driver. -/
def probing (base : Services σ D) (prober : Command.Prober σ C) : Services σ C :=
  { base with connect := prober.connect, ping := prober.ping, disconnect := prober.disconnect }

variable (base : Services σ D) {prober : Command.Prober (Logged σ) C}
  {dialer : C → Option ProxyDialer}

/-- With a faithful prober all connections go the prescribed way. -/
theorem probing_guards (faithful : prober.Faithful dialer) (settings : Settings) :
    (base.logged.probing prober).Guards settings (Logged.Prescribed settings)
      fun c => ∃ o, settings.Prescribes (dialer c) o where
  password _ _ h := h
  identifier _ _ h := h
  createAccount _ _ _ h := h
  clusterInfo _ _ _ h := h
  connect t d o w way h := by
    obtain ⟨openings, log, through⟩ := faithful.connect t d o w
    refine ⟨h.append log fun x mem => ⟨o, by rw [through x mem]; exact way⟩, ?_⟩
    intro delay c opened
    exact ⟨o, by rw [faithful.opened opened]; exact way⟩
  ping {c w} sound h := by
    obtain ⟨openings, log, through⟩ := faithful.ping c w
    exact h.append log fun x mem => by rw [through x mem]; exact sound
  disconnect {c w} _ h := by
    have log : (prober.disconnect c w).2.log = w.log ++ [] := by simp [faithful.disconnect c w]
    exact h.append log (by simp)

/-- The same but for the log. -/
def erased : Likeness (Logged σ) C σ C where
  secret := Eq
  world w v := w.world = v
  connection := Eq
  way := Eq

/-- Keeping a log changes nothing else. -/
theorem probing_alike {plain : Command.Prober σ C} (logs : prober.Logs plain) :
    (base.logged.probing prober).Alike Services.erased (base.probing plain) where
  password _ _ _ worlds := by
    cases worlds
    exact ⟨.refl _, rfl⟩
  identifier _ _ _ worlds := by
    cases worlds
    exact ⟨rfl, rfl⟩
  clock worlds := by rw [← worlds]; rfl
  createAccount project q q' w w' request worlds := by
    cases worlds
    cases AccountRequest.Alike.eq id request
    exact ⟨rfl, rfl⟩
  clusterInfo _ _ _ _ worlds := by
    cases worlds
    exact ⟨rfl, rfl⟩
  connect {t t' d d' o o' w w'} target way worlds := by
    cases worlds
    cases Target.Alike.eq id target
    cases way
    have same := logs.connect t d o w
    have replies : (prober.connect t d o w).1 = (plain.connect t d o w.world).1 :=
      congrArg Prod.fst same
    refine ⟨?_, congrArg Prod.snd same⟩
    dsimp only [probing]
    rw [replies]
    exact Reply.Alike.refl (fun _ => .refl _) _
  ping {c c' w w'} connection worlds := by
    cases connection
    cases worlds
    exact ⟨congrArg Prod.fst (logs.ping c w), congrArg Prod.snd (logs.ping c w)⟩
  disconnect {c c' w w'} connection worlds := by
    cases connection
    cases worlds
    exact ⟨congrArg Prod.fst (logs.disconnect c w), congrArg Prod.snd (logs.disconnect c w)⟩

end Services

namespace PoolConfig

variable (base : Services σ D) (network : Option ProxyDialer → Network σ)
  (isListening : Server → Bool) (contact : List Server → σ → σ) (settings : Settings)
  (delay : RetryDelay) (world : σ) (instructions : List Instruction)

/-- The connections that are opened or tried while instructions are played on a new pool. -/
def openings (prober : Command.Prober (Logged σ) C) : List Opening :=
  let p : PoolConfig (Logged σ) C := ⟨base.logged.probing prober, settings, delay⟩
  (p.play instructions (.start { world })).2.run.world.log

/-- Whoever plays instructions sees the same with a log as without. -/
theorem play_logged {prober : Command.Prober (Logged σ) C} {plain : Command.Prober σ C}
    (logs : prober.Logs plain) :
    (play ⟨base.logged.probing prober, settings, delay⟩ instructions (.start { world })).1 =
      (play ⟨base.probing plain, settings, delay⟩ instructions (.start world)).1 := by
  have alike : PoolConfig.Alike Services.erased ⟨base.logged.probing prober, settings, delay⟩
      ⟨base.probing plain, settings, delay⟩ :=
    alike_of_settings (Services.probing_alike base logs) rfl rfl fun _ _ _ => rfl
  have start : (PoolState.start ⟨world, []⟩ : PoolState (Logged σ) C).Alike Services.erased
      (.start world) := .start rfl
  have receipts := (alike.play instructions start).1
  exact eq_of_forall₂ receipts fun same => same.eq ⟨id, id, id⟩

theorem openings_prescribed {prober : Command.Prober (Logged σ) C} {dialer : C → Option ProxyDialer}
    (faithful : prober.Faithful dialer) :
    ∀ x ∈ openings base settings delay world instructions prober,
      ∃ o, settings.Prescribes x.dialer o := by
  let p : PoolConfig (Logged σ) C := ⟨base.logged.probing prober, settings, delay⟩
  have guards : p.services.Guards p.settings _ _ :=
    Services.probing_guards base faithful settings
  have start : Logged.Prescribed settings (⟨world, []⟩ : Logged σ) := by
    intro x mem
    cases mem
  exact (play_guarded guards start instructions).1

/-- Connections are asked for in the prescribed way: through the proxy if there is one, and else
directly. What is asked for is done: plain connections go through the dialer that is given, when
they are made and whenever they are tested, and a client that opens its connections itself is not
set up for a dialer. So with a proxy no connection to a database host is direct. -/
theorem no_bypass :
    (∀ time t d o, (time, Call.connect t d o) ∈
        (PoolConfig.play ⟨base, settings, delay⟩ instructions (.start world)).2.run.calls →
      settings.Prescribes d o) ∧
    Command.DialsSeeds (Command.tcpProber (logNetwork network)) ∧
    (∀ t d o w, ∃ m, (Command.mongoProber isListening (logContact contact)).connect t (some d) o w =
      (.after 0 (.error (.unsupported m)), w)) ∧
    (settings.proxy.host ≠ "" ∧ settings.proxy.port ≠ 0 →
      (∀ x ∈ openings base settings delay world instructions
          (Command.tcpProber (logNetwork network)), settings.proxy.Carries x) ∧
        ∀ x ∈ openings base settings delay world instructions
          (Command.mongoProber isListening (logContact contact)), settings.proxy.Carries x) := by
  refine ⟨fun _ _ _ _ call => play_prescribed _ world instructions call,
    Command.tcpProber_dialsSeeds network,
    fun t d o w => Command.mongoProber_proxied isListening (logContact contact) t d o w,
    fun enabled => ⟨fun x mem => ?_, fun x mem => ?_⟩⟩
  · obtain ⟨o, way⟩ := openings_prescribed base settings delay world instructions
      (Command.tcpProber_faithful network) x mem
    exact way.carries enabled
  · obtain ⟨o, way⟩ := openings_prescribed base settings delay world instructions
      (Command.mongoProber_faithful isListening contact) x mem
    exact way.carries enabled

/-- A seed is dialed twice through the proxy: to connect, and to test the connection. -/
theorem no_bypass_twice :
    let settings : Settings := { proxy := { host := "gate", port := 1080 } }
    let network (_ : Option ProxyDialer) : Network Stage := ⟨fun _ _ w => (.after 0 (.ok ()), w)⟩
    let opened := openings smoothRehearsal.services settings smoothRehearsal.pool.delay {}
      [.connect none ⟨"shop", "orders"⟩] (Command.tcpProber (logNetwork network))
    let d : ProxyDialer := { address := "gate:1080", credentials := none }
    opened = [.dial (some d) "orders-00" 27017, .dial (some d) "orders-00" 27017] ∧
      ∀ x ∈ opened, settings.proxy.Carries x := by
  intro settings network opened d
  refine ⟨by decide +kernel, ?_⟩
  obtain ⟨-, -, -, proxied⟩ := no_bypass smoothRehearsal.services network (fun _ => true)
    (fun _ w => w) settings smoothRehearsal.pool.delay {} [.connect none ⟨"shop", "orders"⟩]
  exact (proxied ⟨by decide, by decide⟩).1

end PoolConfig
end ClusterAccess
