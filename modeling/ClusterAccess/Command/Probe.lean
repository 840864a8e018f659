import ClusterAccess.Command.Arguments
import ClusterAccess.Command.Help
import ClusterAccess.Command.Report
import ClusterAccess.Pool.Close
import ClusterAccess.Probe.Mongo
import ClusterAccess.Settings.File

/-!
# The probe

The command creates an account, looks a cluster up and tests whether it answers. Nothing is sent
before all that was asked for has been checked.

## Main definitions

* `Surroundings`: what a probe needs of the world.
* `Prober`: one of the two ways of testing connections.
* `Ending`: how a run of the command ends.
* `run`: the command.
-/
namespace ClusterAccess.Command

open Time

structure Surroundings (σ : Type) where
  web : Api.Web σ
  /-- Plain connections, direct or through a proxy. -/
  network : Option ProxyDialer → Probe.Network σ
  /-- Whether a database server answers. -/
  isListening : Server → Bool
  /-- What clients of the database protocol do when they open connections to servers themselves. -/
  contact : List Server → σ → σ := fun _ world => world
  password : PasswordPolicy → σ → Outcome Secret × σ
  identifier : Nat → σ → Outcome String × σ
  clock : σ → Timestamp

/-! ## Testing connections -/

/-- A way of testing connections `C`. -/
structure Prober (σ C : Type) where
  connect : Target → Option ProxyDialer → ConnectOptions → σ → Reply (Except AccessError C) × σ
  ping : C → σ → Reply (Except AccessError Unit) × σ
  disconnect : C → σ → Reply (Except AccessError Unit) × σ
  /-- Lines about a connection, each a label and a value. -/
  describe : C → List (String × String)

/-- Plain connections, through the dialer if there is one. -/
def tcpProber (network : Option ProxyDialer → Probe.Network σ) :
    Prober σ (Probe.TcpProbe × Option ProxyDialer) where
  connect target dialer options world :=
    let (reply, world) :=
      Probe.TcpProbe.connect (network dialer) target dialer.isSome options world
    (reply.map fun found => found.map fun probe => (probe, dialer), world)
  ping c world := c.1.ping (network c.2) world
  disconnect _ world := (.after 0 (.ok ()), world)
  describe c := [("Hosts", ", ".intercalate (c.1.seeds.map Probe.Seed.render)),
    ("Proxied", if c.1.isProxied then "true" else "false")]

/-- Clients that open their connections themselves, from when they are set up. -/
def mongoProber (isListening : Server → Bool) (contact : List Server → σ → σ) :
    Prober σ Probe.MongoClient where
  connect target dialer _ world :=
    match Probe.MongoClient.connect target dialer.isSome with
    | .ok client => (.after 0 (.ok client), contact client.servers world)
    | .error e => (.after 0 (.error e), world)
  ping c world := (.after 0 (c.ping isListening), contact c.servers world)
  disconnect _ world := (.after 0 (.ok ()), world)
  describe c := [("Hosts", ", ".intercalate c.hosts)]

/-! ## Services over a session -/

/-- Does something to the world of a session. -/
def onWorld (f : σ → α × σ) (s : Api.Session σ) : α × Api.Session σ :=
  let (a, world) := f s.world
  (a, { s with world })

/-- The result of an action, which takes no time. -/
def immediate (action : Api.Action σ α) (s : Api.Session σ) : Reply (Outcome α) × Api.Session σ :=
  let (result, s) := action s
  (.after 0 (match result with
    | .ok a => .ok a
    | .error (.error e) => .failed e.toAccessError
    | .error .overflow => .aborted), s)

/-- The services of a pool that has its accounts from the administration interface. -/
def services (s : Surroundings σ) (client : Api.Client σ) (prober : Prober σ C) :
    Services (Api.Session σ) C where
  password policy := onWorld (s.password policy)
  identifier length := onWorld (s.identifier length)
  clock session := s.clock session.world
  createAccount project request := immediate (client.createAccount project request)
  clusterInfo project cluster := immediate (client.clusterInfo project cluster)
  connect target dialer options := onWorld (prober.connect target dialer options)
  ping c := onWorld (prober.ping c)
  disconnect c := onWorld (prober.disconnect c)

/-! ## The command -/

/-- How a run of the command ends. -/
structure Ending (σ : Type) where
  status : Nat
  /-- The lines written for the user. -/
  output : List String := []
  report : Option Report := none
  files : Storage.Files
  session : Api.Session σ

/-- A label and a value, which begins in the thirteenth column. -/
def line (label value : String) : String :=
  let label := label ++ ":"
  label ++ String.ofList (List.replicate (12 - label.length) ' ') ++ value

/-- What is told of a cluster that answered. -/
def summary (cluster : String) (details : List (String × String)) (credential : Credential) :
    List String :=
  ([("Cluster", cluster)] ++ details ++
    [("Account", credential.username), ("Expires at", credential.expiresAt.render .digits)]).map
    fun (label, value) => line label value

/-- How many milliseconds closing may take. -/
def closeLimit : Nat := 10000

/-- Connects once, and gives the connection up again whatever came of it. -/
def probe (s : Surroundings σ) (client : Api.Client σ) (prober : Prober σ C)
    (settings : Settings) (project cluster : String) (files : Storage.Files)
    (session : Api.Session σ) : Ending σ :=
  let config : PoolConfig (Api.Session σ) C :=
    ⟨services s client prober, settings, settings.pool.retryDelay⟩
  let (outcome, pool, run) := config.connect none ⟨project, cluster⟩ {} { world := session }
  let (_, _, run) := config.close (some (run.now + closeLimit)) pool run
  let session := run.world
  match outcome with
  | .ok (credential, connection) =>
    { status := 0, output := summary cluster (prober.describe connection) credential, files,
      session }
  | .failed e =>
    let report :=
      if e.isUnreachable then Report.because s!"Cluster {cluster} is unreachable" e
      else Report.ofError e
    { status := 1, report := some report, files, session }
  | _ => { status := 101, files, session }

/-- The failure of a check. -/
def refused (files : Storage.Files) (session : Api.Session σ) (report : Report) : Ending σ :=
  { status := 1, report := some report, files, session }

/-- Writes the settings to their file. -/
def writeSettings (a : Arguments) (settings : Settings) (files : Storage.Files)
    (session : Api.Session σ) : Ending σ :=
  match settings.save files a.settingsFile with
  | (.ok (), files) => { status := 0, files, session }
  | (.error e, files) =>
    refused files session (.because s!"Failed to write {a.settingsFile}" (.io e))

/-- Looks for everything that a probe needs, and probes. -/
def checkAndProbe (s : Surroundings σ) (a : Arguments) (settings : Settings)
    (files : Storage.Files) (session : Api.Session σ) : Ending σ :=
  match a.project, a.cluster with
  | some project, some cluster =>
    match a.auth? with
    | none => refused files session ⟨"One of --access-token, --public-key with --private-key, " ++
        "or --client-id with --client-secret is required", []⟩
    | some auth => match Api.Client.create s.web a.base auth settings.proxy with
      | .error e => refused files session ⟨"Failed to create Atlas API client", [e.message]⟩
      | .ok client =>
        if a.driver.usesTcp settings.proxy.isEnabled then
          probe s client (tcpProber s.network) settings project cluster files session
        else
          probe s client (mongoProber s.isListening s.contact) settings project cluster files
            session
  | _, _ => refused files session ⟨"--project-id and --cluster are required", []⟩

def runArguments (s : Surroundings σ) (a : Arguments) (files : Storage.Files)
    (session : Api.Session σ) : Ending σ :=
  match Settings.load files a.settingsFile with
  | .error e =>
    refused files session (.because s!"Failed to load settings from {a.settingsFile}" e)
  | .ok loaded =>
    let settings := a.override loaded
    match settings.validate with
    | .error e => refused files session (.because "Invalid settings" e)
    | .ok () =>
      if a.writesSettings then writeSettings a settings files session
      else checkAndProbe s a settings files session

/-- The command. Arguments that make no sense end it with status 2. -/
def run (s : Surroundings σ) (environment : List (String × String)) (args : List String)
    (files : Storage.Files) (session : Api.Session σ) : Ending σ :=
  match Request.parse? environment args with
  | none => { status := 2, files, session }
  | some .version => { status := 0, output := [versionLine], files, session }
  | some (.help isLong) => { status := 0, output := Help.lines isLong environment, files, session }
  | some (.probe a) => runArguments s a files session

end ClusterAccess.Command
