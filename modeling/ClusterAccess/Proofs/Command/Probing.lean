import ClusterAccess.Proofs.Api.Addressing
import ClusterAccess.Proofs.Command.Layering
import ClusterAccess.Proofs.Pool.Responsive
import ClusterAccess.Proofs.Probe.Race

/-!
# What a run of the command does

The command checks first whether it has everything that it needs. If anything is missing, it does
nothing at all. Otherwise it connects once, and before it ends it has given up every connection that
was opened, whatever came of it.

## Main definitions

* `Command.Arguments.SignsIn`: the first complete means of signing in.
* `Command.IsReport`: the lines that are told of a connection.
* `Command.Obstacle`: what keeps the command from connecting, with what it tells of that.
* `Command.Ready`: all that the command needs to connect.
* `Command.Probed`: how a run goes that connects.

## Main statements

* `Command.responsive_tcp`, `Command.responsive_mongo`: both ways of testing connections answer.
* `Command.probe_probed`: how every run goes that connects.
* `Command.run_clean`: what a run does if anything is missing, and if nothing is.
-/
namespace ClusterAccess.Command

open Time Probe

variable {σ C : Type}

/-! ## Testing connections -/

theorem responsive_tcp (surroundings : Surroundings σ) (client : Api.Client σ) :
    (services surroundings client (tcpProber surroundings.network)).Responsive
      fun c => c.1.seeds ≠ [] where
  connect target dialer options session := by
    have answers : ∃ d x, ((tcpProber surroundings.network).connect target dialer options
        session.world).1 = .after d x := by
      cases listed : TcpProbe.seedsOf target with
      | error e =>
        refine ⟨0, .error e, ?_⟩
        simp only [tcpProber, TcpProbe.connect, listed]
        rfl
      | ok seeds =>
        obtain ⟨d, r, -, connected⟩ := TcpProbe.connect_race listed (surroundings.network dialer)
          dialer.isSome options session.world
        exact ⟨d, _, congrArg (Reply.map _) connected⟩
    obtain ⟨d, x, answer⟩ := answers
    refine ⟨d, x, _, Prod.ext answer rfl, ?_⟩
    rintro c rfl
    exact (TcpProbe.of_seedsOf (tcpProber_opened _ answer).2).1
  ping c session sound := by
    obtain ⟨d, r, -, reached⟩ := TcpProbe.reach_race sound (surroundings.network c.2) session.world
    exact ⟨d, _, _, Prod.ext (congrArg (Reply.map _) reached) rfl⟩
  disconnect _ session := ⟨session, rfl⟩

theorem responsive_mongo (surroundings : Surroundings σ) (client : Api.Client σ) :
    (services surroundings client (mongoProber surroundings.isListening
      surroundings.contact)).Responsive fun _ => True where
  connect target dialer options session := by
    have answers : ∃ x, ((mongoProber surroundings.isListening surroundings.contact).connect target
        dialer options session.world).1 = .after 0 x := by
      simp only [mongoProber]
      cases MongoClient.connect target dialer.isSome <;> exact ⟨_, rfl⟩
    obtain ⟨x, answer⟩ := answers
    exact ⟨0, x, _, Prod.ext answer rfl, fun _ _ => trivial⟩
  ping _ _ _ := ⟨0, _, _, rfl⟩
  disconnect _ session := ⟨session, rfl⟩

/-! ## Reports of connections -/

/-- A line that tells something: its label with a colon, and what is told of it from the thirteenth
column on, or directly behind a label that reaches beyond that. -/
def Tells (told : String × String) (line : String) : Prop :=
  line = told.1 ++ ":" ++ String.ofList (List.replicate (12 - (told.1.length + 1)) ' ') ++ told.2

theorem tells_line (told : String × String) : Tells told (line told.1 told.2) := by
  have length : (told.1 ++ ":").length = told.1.length + 1 := String.length_append _ _
  rw [Tells, line, length]

/-- The lines about a connection: the cluster, what the prober tells, the account and until when it
can be used. -/
def IsReport (cluster : String) (details : List (String × String)) (credential : Credential)
    (lines : List String) : Prop :=
  List.Forall₂ Tells ([("Cluster", cluster)] ++ details ++
    [("Account", credential.username), ("Expires at", credential.expiresAt.render .digits)]) lines

theorem isReport_summary (cluster : String) (details : List (String × String))
    (credential : Credential) :
    IsReport cluster details credential (summary cluster details credential) :=
  List.forall₂_map_right_iff.mpr (List.forall₂_same.mpr fun told _ => tells_line told)

theorem IsReport.ne_nil {cluster : String} {details : List (String × String)}
    {credential : Credential} {lines : List String}
    (h : IsReport cluster details credential lines) : lines ≠ [] := by
  rintro rfl
  cases h

/-! ## One probe -/

/-- What is left of a run that connected, and what is printed. -/
structure Cleaned (describe : C → List (String × String)) (cluster : String)
    (files : Storage.Files) (o : Outcome (Credential × C)) (r r' : Run (Api.Session σ) C)
    (ending : Ending σ) : Prop where
  /-- Disconnect was called once on every connection, in the order in which they were opened. -/
  once : r'.disconnects = r'.opened
  opened : r'.opened = r.opened
  /-- Without a result, nothing was left open. -/
  given_up : (∀ v, o ≠ .ok v) → r.disconnects = r.opened
  unopened : ¬ o.IsAnswer → r.opened = []
  files : ending.files = files
  session : ending.session = r'.world
  printed : ∀ credential c, o = .ok (credential, c) →
    ending.status = 0 ∧ IsReport cluster (describe c) credential ending.output
  unprinted : (∀ v, o ≠ .ok v) → ending.status ≠ 0 ∧ ending.output = []
  printed_iff : ending.output ≠ [] ↔ ∃ v, o = .ok v

/-- A run that connects once, and closes the pool whatever came of that. -/
def Probed (p : PoolConfig (Api.Session σ) C) (describe : C → List (String × String))
    (key : ClusterKey) (files : Storage.Files) (session : Api.Session σ) (ending : Ending σ) :
    Prop :=
  ∃ o pool r r', p.connect none key {} { world := session } = (o, pool, r) ∧
    p.close (some (r.now + closeLimit)) pool r =
      (.ok (), { pool with connections := [], isClosed := true }, r') ∧
    Cleaned describe key.cluster files o r r' ending

/-- The pool of a probe. -/
def config (surroundings : Surroundings σ) (client : Api.Client σ) (prober : Prober σ C)
    (settings : Settings) : PoolConfig (Api.Session σ) C :=
  ⟨services surroundings client prober, settings, settings.pool.retryDelay⟩

theorem probe_probed {surroundings : Surroundings σ} {client : Api.Client σ}
    {prober : Prober σ C} {Sound : C → Prop}
    (responsive : (services surroundings client prober).Responsive Sound) (settings : Settings)
    (project cluster : String) (files : Storage.Files) (session : Api.Session σ) :
    Probed (config surroundings client prober settings) prober.describe ⟨project, cluster⟩ files
      session (probe surroundings client prober settings project cluster files session) := by
  rcases connected : (config surroundings client prober settings).connect none ⟨project, cluster⟩
    {} { world := session } with ⟨o, pool, r⟩
  obtain ⟨r', closed, once, opened, given_up, unopened⟩ :=
    PoolConfig.connect_close (p := config surroundings client prober settings) responsive connected
      (show 0 < closeLimit by decide)
  refine ⟨o, pool, r, r', connected, closed, ?_⟩
  unfold config at connected closed
  unfold probe
  simp only [connected, closed]
  cases o with
  | ok v =>
    have printed := isReport_summary cluster (prober.describe v.2) v.1
    refine ⟨once, opened, given_up, unopened, rfl, rfl, ?_,
      fun noResult => absurd rfl (noResult v), fun _ => ⟨v, rfl⟩, fun _ => printed.ne_nil⟩
    rintro credential c ⟨⟩
    exact ⟨rfl, printed⟩
  | failed e =>
    exact ⟨once, opened, given_up, unopened, rfl, rfl, nofun, fun _ => ⟨nofun, rfl⟩,
      fun printed => absurd rfl printed, nofun⟩
  | aborted | stuck =>
    exact ⟨once, opened, given_up, unopened, rfl, rfl, nofun, fun _ => ⟨nofun, rfl⟩,
      fun printed => absurd rfl printed, nofun⟩

/-! ## Checks -/

/-- The first complete means of signing in: a token, or else both keys, or else both halves of a
service account. -/
inductive Arguments.SignsIn (a : Arguments) : Api.Auth → Prop
  | token {token : String} (given : a.accessToken = some token) :
      SignsIn a (.bearer (.ofString token))
  | keys {key secret : String} (noToken : a.accessToken = none) (first : a.publicKey = some key)
      (second : a.privateKey = some secret) : SignsIn a (.apiKey key (.ofString secret))
  | account {id secret : String} (noToken : a.accessToken = none)
      (noKeys : a.publicKey = none ∨ a.privateKey = none) (first : a.clientId = some id)
      (second : a.clientSecret = some secret) :
      SignsIn a (.serviceAccount id (.ofString secret))

/-- No means of signing in is complete. -/
structure Arguments.CannotSignIn (a : Arguments) : Prop where
  noToken : a.accessToken = none
  noKeys : a.publicKey = none ∨ a.privateKey = none
  noAccount : a.clientId = none ∨ a.clientSecret = none

namespace Arguments

variable {a : Arguments}

theorem SignsIn.auth? {auth : Api.Auth} (h : a.SignsIn auth) : a.auth? = some auth := by
  unfold Arguments.auth?
  cases h with
  | token given => rw [given]
  | keys noToken first second => rw [noToken, first, second]
  | account noToken noKeys first second =>
    rw [noToken, first, second]
    split <;> simp_all

theorem CannotSignIn.auth? (h : a.CannotSignIn) : a.auth? = none := by
  obtain ⟨noToken, noKeys, noAccount⟩ := h
  unfold Arguments.auth?
  rw [noToken]
  split <;> simp_all

theorem signsIn_or_cannot (a : Arguments) : (∃ auth, a.SignsIn auth) ∨ a.CannotSignIn := by
  have halves (x y : Option String) : (∃ s t, x = some s ∧ y = some t) ∨ x = none ∨ y = none := by
    cases x <;> cases y <;> simp
  cases token : a.accessToken with
  | some t => exact .inl ⟨_, .token token⟩
  | none =>
    rcases halves a.publicKey a.privateKey with ⟨_, _, first, second⟩ | noKeys
    · exact .inl ⟨_, .keys token first second⟩
    rcases halves a.clientId a.clientSecret with ⟨_, _, first, second⟩ | noAccount
    · exact .inl ⟨_, .account token noKeys first second⟩
    · exact .inr ⟨token, noKeys, noAccount⟩

end Arguments

/-- The settings of a run: those of the file, with the options put over them. -/
structure Configured (a : Arguments) (files : Storage.Files) (settings : Settings) : Prop where
  loaded : ∃ s, Settings.load files a.settingsFile = .ok s ∧ a.override s = settings
  valid : settings.validate = .ok ()

/-- What keeps the command from connecting, with what it tells of that. -/
inductive Obstacle (surroundings : Surroundings σ) (a : Arguments) (files : Storage.Files) :
    Report → Prop
  | unloaded {e : AccessError} (load : Settings.load files a.settingsFile = .error e) :
      Obstacle surroundings a files
        (.because s!"Failed to load settings from {a.settingsFile}" e)
  | invalid {s : Settings} {e : AccessError} (load : Settings.load files a.settingsFile = .ok s)
      (invalid : (a.override s).validate = .error e) :
      Obstacle surroundings a files (.because "Invalid settings" e)
  | unnamed {settings : Settings} (configured : Configured a files settings)
      (missing : a.project = none ∨ a.cluster = none) :
      Obstacle surroundings a files ⟨"--project-id and --cluster are required", []⟩
  | unsigned {settings : Settings} (configured : Configured a files settings)
      (named : a.project.isSome ∧ a.cluster.isSome) (cannot : a.CannotSignIn) :
      Obstacle surroundings a files ⟨"One of --access-token, --public-key with --private-key, " ++
        "or --client-id with --client-secret is required", []⟩
  | unmade {settings : Settings} {auth : Api.Auth} {e : Api.ApiError}
      (configured : Configured a files settings)
      (named : a.project.isSome ∧ a.cluster.isSome) (signsIn : a.SignsIn auth)
      (made : Api.Client.create surroundings.web a.base auth settings.proxy = .error e) :
      Obstacle surroundings a files ⟨"Failed to create Atlas API client", [e.message]⟩

/-- All that the command needs to connect. -/
structure Ready (surroundings : Surroundings σ) (a : Arguments) (files : Storage.Files)
    (settings : Settings) (key : ClusterKey) (client : Api.Client σ) : Prop where
  configured : Configured a files settings
  project : a.project = some key.project
  cluster : a.cluster = some key.cluster
  signsIn : a.SignsIn client.auth
  made : Api.Client.create surroundings.web a.base client.auth settings.proxy = .ok client

variable {surroundings : Surroundings σ} {a : Arguments} {files : Storage.Files}
  {settings : Settings} {key : ClusterKey} {client : Api.Client σ} {session : Api.Session σ}

theorem Configured.runArguments (configured : Configured a files settings)
    (probes : a.writesSettings = false) (surroundings : Surroundings σ) (session : Api.Session σ) :
    runArguments surroundings a files session =
      checkAndProbe surroundings a settings files session := by
  obtain ⟨⟨s, loaded, rfl⟩, valid⟩ := configured
  rw [runArguments_valid surroundings session loaded valid, if_neg (by simp [probes])]

/-- The probe, with connections tested in the way that was asked for. -/
def chosenProbe (surroundings : Surroundings σ) (a : Arguments) (client : Api.Client σ)
    (settings : Settings) (key : ClusterKey) (files : Storage.Files) (session : Api.Session σ) :
    Ending σ :=
  if a.driver.usesTcp settings.proxy.isEnabled then
    probe surroundings client (tcpProber surroundings.network) settings key.project key.cluster
      files session
  else
    probe surroundings client (mongoProber surroundings.isListening surroundings.contact) settings
      key.project key.cluster files session

theorem checkAndProbe_named (key : ClusterKey) (project : a.project = some key.project)
    (cluster : a.cluster = some key.cluster) :
    checkAndProbe surroundings a settings files session = match a.auth? with
      | none => refused files session ⟨"One of --access-token, --public-key with --private-key, " ++
          "or --client-id with --client-secret is required", []⟩
      | some auth => match Api.Client.create surroundings.web a.base auth settings.proxy with
        | .error e => refused files session ⟨"Failed to create Atlas API client", [e.message]⟩
        | .ok client =>
          chosenProbe surroundings a client settings key files session := by
  unfold checkAndProbe
  rw [project, cluster]
  rfl

/-- Whatever keeps the command from connecting, it does nothing but tell that. -/
theorem Obstacle.runArguments {report : Report} (h : Obstacle surroundings a files report)
    (probes : a.writesSettings = false) (session : Api.Session σ) :
    runArguments surroundings a files session = refused files session report := by
  cases h with
  | unloaded load =>
    unfold Command.runArguments
    rw [load]
  | invalid load invalid => exact runArguments_invalid surroundings session load invalid
  | unnamed configured missing =>
    rw [configured.runArguments probes surroundings session]
    unfold checkAndProbe
    rcases missing with missing | missing <;> rw [missing]
    split <;> simp_all
  | unsigned configured named cannot =>
    obtain ⟨project, given⟩ := Option.isSome_iff_exists.mp named.1
    obtain ⟨cluster, given'⟩ := Option.isSome_iff_exists.mp named.2
    rw [configured.runArguments probes surroundings session,
      checkAndProbe_named ⟨project, cluster⟩ given given', cannot.auth?]
  | unmade configured named signsIn made =>
    obtain ⟨project, given⟩ := Option.isSome_iff_exists.mp named.1
    obtain ⟨cluster, given'⟩ := Option.isSome_iff_exists.mp named.2
    rw [configured.runArguments probes surroundings session,
      checkAndProbe_named ⟨project, cluster⟩ given given', signsIn.auth?]
    dsimp only
    rw [made]

theorem Ready.runArguments (h : Ready surroundings a files settings key client)
    (probes : a.writesSettings = false) (session : Api.Session σ) :
    runArguments surroundings a files session =
      chosenProbe surroundings a client settings key files session := by
  rw [h.configured.runArguments probes surroundings session,
    checkAndProbe_named key h.project h.cluster, h.signsIn.auth?]
  dsimp only
  rw [h.made]

/-- Either something keeps the command from connecting, or it has all that it needs. -/
theorem obstacle_or_ready (surroundings : Surroundings σ) (a : Arguments)
    (files : Storage.Files) : (∃ report, Obstacle surroundings a files report) ∨
      ∃ settings key client, Ready surroundings a files settings key client := by
  cases load : Settings.load files a.settingsFile with
  | error e => exact .inl ⟨_, .unloaded load⟩
  | ok s =>
    cases valid : (a.override s).validate with
    | error e => exact .inl ⟨_, .invalid load valid⟩
    | ok =>
      have configured : Configured a files (a.override s) := ⟨⟨s, load, rfl⟩, valid⟩
      cases project : a.project with
      | none => exact .inl ⟨_, .unnamed configured (.inl project)⟩
      | some project' =>
        cases cluster : a.cluster with
        | none => exact .inl ⟨_, .unnamed configured (.inr cluster)⟩
        | some cluster' =>
          have named : a.project.isSome ∧ a.cluster.isSome := by simp [project, cluster]
          rcases a.signsIn_or_cannot with ⟨auth, signsIn⟩ | cannot
          · cases made : Api.Client.create surroundings.web a.base auth (a.override s).proxy with
            | error e => exact .inl ⟨_, .unmade configured named signsIn made⟩
            | ok client =>
              obtain ⟨-, rfl, -⟩ := Api.Client.create_eq_ok made
              exact .inr ⟨_, ⟨project', cluster'⟩, client,
                ⟨configured, project, cluster, signsIn, made⟩⟩
          · exact .inl ⟨_, .unsigned configured named cannot⟩

/-! ## Runs -/

variable {environment : List (String × String)} {args : List String}

/-- A run that is asked for nothing, or only about itself, does nothing. -/
theorem run_idle (idle : ∀ a, Request.parse? environment args ≠ some (.probe a))
    (surroundings : Surroundings σ) (files : Storage.Files) (session : Api.Session σ) :
    (run surroundings environment args files session).files = files ∧
      (run surroundings environment args files session).session = session := by
  unfold run
  split
  case h_4 a asked => exact absurd asked (idle a)
  all_goals exact ⟨rfl, rfl⟩

/-- A run for which anything is missing tells that, and does nothing else. A run for which nothing
is missing connects once, signed in with the first complete means that it was given, and gives up
all connections before it ends. It prints its report, which tells the cluster, the connection and
the account, if it has connected, and only then; otherwise it prints nothing. -/
theorem run_clean (surroundings : Surroundings σ) (environment : List (String × String))
    (args : List String) (files : Storage.Files) (session : Api.Session σ) :
    ((∀ a, Request.parse? environment args ≠ some (.probe a)) →
      (run surroundings environment args files session).files = files ∧
        (run surroundings environment args files session).session = session) ∧
    ∀ a, Request.parse? environment args = some (.probe a) → a.writesSettings = false →
      (∀ report, Obstacle surroundings a files report →
        run surroundings environment args files session =
          { status := 1, output := [], report := some report, files, session }) ∧
      (∀ settings key client, Ready surroundings a files settings key client →
        if a.driver.usesTcp settings.proxy.isEnabled then
          Probed (config surroundings client (tcpProber surroundings.network) settings)
            (fun c => [("Hosts", ", ".intercalate (c.1.seeds.map Seed.render)),
              ("Proxied", if c.1.isProxied then "true" else "false")])
            key files session (run surroundings environment args files session)
        else
          Probed (config surroundings client
              (mongoProber surroundings.isListening surroundings.contact) settings)
            (fun c => [("Hosts", ", ".intercalate c.hosts)])
            key files session (run surroundings environment args files session)) ∧
      ((∃ report, Obstacle surroundings a files report) ∨
        ∃ settings key client, Ready surroundings a files settings key client) := by
  refine ⟨fun idle => run_idle idle surroundings files session, fun a asked probes => ?_⟩
  rw [run_probe surroundings session asked]
  refine ⟨fun report obstacle => obstacle.runArguments probes session,
    fun settings key client ready => ?_, obstacle_or_ready surroundings a files⟩
  rw [ready.runArguments probes session, chosenProbe]
  split
  · exact probe_probed (responsive_tcp surroundings client) settings _ _ files session
  · exact probe_probed (responsive_mongo surroundings client) settings _ _ files session

/-- An account and a cluster in one. -/
def helpfulText : String :=
  "\x7b\"username\":\"u\",\"databaseName\":\"admin\",\"name\":\"c\"," ++
    "\"connectionStrings\":\x7b\"standard\":\"mongodb://h:1\"\x7d\x7d"

/-- Servers that answer everything with the same text, and accept every connection. -/
def helpful : Surroundings Unit where
  web :=
    { answer := fun _ _ w => (.response { status := 200, body := Text.utf8Bytes helpfulText }, w)
      clock := fun w => (0, w)
      nonce := fun w => ("", w) }
  network _ := ⟨fun _ _ w => (.after 5 (.ok ()), w)⟩
  isListening _ := true
  password _ w := (.ok ⟨"pw"⟩, w)
  identifier _ w := (.ok "X", w)
  clock _ := ⟨0, 0⟩

/-- What the command needs at the least, to connect there. -/
def needed : Arguments :=
  { project := some "p", cluster := some "c", accessToken := some "t", driver := .tcp,
    base := "https://[::1]" }

/-- The arguments that say so. -/
def neededArguments : List String :=
  ["--project-id=p", "--cluster=c", "--access-token=t", "--driver=tcp", "--base-url=https://[::1]"]

/-- With all of the arguments the command connects; without the first one it does nothing. -/
theorem run_clean_helpful : ∃ client, Ready helpful needed {} {} ⟨"p", "c"⟩ client ∧
    (run helpful [] neededArguments {} { world := () }).output = ["Cluster:    c",
      "Hosts:      h:1", "Proxied:    false", "Account:    u",
      "Expires at: 1970-01-01T00:30:00+00:00"] ∧
    Probed (config helpful client (tcpProber helpful.network) {})
      (fun c => [("Hosts", ", ".intercalate (c.1.seeds.map Seed.render)),
        ("Proxied", if c.1.isProxied then "true" else "false")])
      ⟨"p", "c"⟩ {} { world := () } (run helpful [] neededArguments {} { world := () }) ∧
    run helpful [] (neededArguments.drop 1) {} { world := () } =
      { status := 1, output := [], files := {}, session := { world := () },
        report := some ⟨"--project-id and --cluster are required", []⟩ } := by
  have created : (Api.Client.create helpful.web "https://[::1]" (.bearer ⟨"t"⟩)
      {}).toOption.isSome = true := by decide +kernel
  obtain ⟨client, found⟩ := Option.isSome_iff_exists.mp created
  have made := Api.ok_of_toOption found
  have auth : client.auth = .bearer ⟨"t"⟩ := (Api.Client.create_eq_ok made).2.1
  have loaded : Settings.load {} usualFile = .ok {} := Api.ok_of_toOption (by decide +kernel)
  have ready : Ready helpful needed {} {} ⟨"p", "c"⟩ client :=
    ⟨⟨⟨{}, loaded, rfl⟩, rfl⟩, rfl, rfl, auth ▸ .token rfl, auth ▸ made⟩
  have probed := ((run_clean helpful [] neededArguments {} { world := () }).2 needed
    (by decide +kernel) rfl).2.1 _ _ _ ready
  have idle := ((run_clean helpful [] (neededArguments.drop 1) {} { world := () }).2
    { needed with project := none } (by decide +kernel) rfl).1 _
      (.unnamed ⟨⟨{}, loaded, rfl⟩, rfl⟩ (.inl rfl))
  exact ⟨client, ready, by decide +kernel, probed, idle⟩

end ClusterAccess.Command
