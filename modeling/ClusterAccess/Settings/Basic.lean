import ClusterAccess.Proxy.Settings
import ClusterAccess.RetryDelay

/-!
# Settings

## Main definitions

* `Settings`: everything that can be set, with the usual values as defaults.
* `ConnectOptions`: the limits for one connection.
* `Settings.validate`: the constraints that hold between settings.
* `Settings.reader`, `Settings.toJson`: reading and writing.
-/
namespace ClusterAccess

open Time

structure AccountSettings where
  /-- How long an account lives, in seconds. -/
  lifetime : Nat := 1800
  usernameStart : String := "atlas_broker_"
  descriptionStart : String := "Created by atlas-broker"
  roleName : String := "readAnyDatabase"
  roleDatabase : String := "admin"
  authDatabase : String := "admin"
  passwordLength : Nat := 30
  deriving DecidableEq

structure PoolSettings where
  warmUpMs : Nat := 5000
  retryMs : Nat := 2000
  maxAttempts : Nat := 10
  maxPoolSize : Nat := 10
  maxIdleSeconds : Nat := 60
  directConnectSeconds : Nat := 10
  directSelectionSeconds : Nat := 30
  proxiedConnectSeconds : Nat := 60
  proxiedSelectionSeconds : Nat := 60
  deriving DecidableEq

structure Settings where
  version : Nat := 1
  account : AccountSettings := {}
  pool : PoolSettings := {}
  proxy : ProxySettings := {}
  deriving DecidableEq

/-- Limits for one connection. -/
structure ConnectOptions where
  maxPoolSize : Nat
  maxIdle : Duration
  connectTimeout : Duration
  selectionTimeout : Duration
  deriving DecidableEq, Repr

namespace PoolSettings

/-- The limits for connections that reach the cluster directly. -/
def directOptions (p : PoolSettings) : ConnectOptions :=
  ⟨p.maxPoolSize, .ofSeconds p.maxIdleSeconds, .ofSeconds p.directConnectSeconds,
    .ofSeconds p.directSelectionSeconds⟩

/-- The limits for connections through the proxy. -/
def proxiedOptions (p : PoolSettings) : ConnectOptions :=
  ⟨p.maxPoolSize, .ofSeconds p.maxIdleSeconds, .ofSeconds p.proxiedConnectSeconds,
    .ofSeconds p.proxiedSelectionSeconds⟩

def retryDelay (p : PoolSettings) : RetryDelay :=
  { warmUp := .ofMilliseconds p.warmUpMs, retry := .ofMilliseconds p.retryMs }

end PoolSettings

namespace Settings

/-- The first constraint that is broken. A way through the proxy has more steps than the direct
way, so its limits have to be larger. -/
def validate (s : Settings) : Except AccessError Unit :=
  if s.pool.maxAttempts = 0 then
    .error (.invalidSettings "pool.maxAttempts must be at least 1")
  else if s.account.passwordLength < 8 then
    .error (.invalidSettings
      s!"account.passwordLength must be at least 8, got {s.account.passwordLength}")
  else if s.account.lifetime = 0 then
    .error (.invalidSettings "account.ttlSecs must be positive")
  else match s.proxy.credentials with
    | .error e => .error (.invalidSettings s!"proxy: {e.message}")
    | .ok _ =>
      if s.pool.proxiedConnectSeconds ≤ s.pool.directConnectSeconds ||
          s.pool.proxiedSelectionSeconds ≤ s.pool.directSelectionSeconds then
        .error (.invalidSettings "proxied timeouts must be larger than direct timeouts")
      else .ok ()

end Settings

/-! ## Reading and writing -/

/-- The largest numbers of 32 and of 64 bits. -/
def limit32 : Nat := UInt32.size - 1

def limit64 : Nat := UInt64.size - 1

open Json

namespace AccountSettings

def fields : List (FieldReader AccountSettings) := [
  .of "ttlSecs" .optional (natural limit64) fun a v => { a with lifetime := v },
  .of "usernamePrefix" .optional text fun a v => { a with usernameStart := v },
  .of "descriptionLabel" .optional text fun a v => { a with descriptionStart := v },
  .of "roleName" .optional text fun a v => { a with roleName := v },
  .of "roleDatabase" .optional text fun a v => { a with roleDatabase := v },
  .of "authDatabase" .optional text fun a v => { a with authDatabase := v },
  .of "passwordLength" .optional (natural limit64) fun a v => { a with passwordLength := v }]

def reader : Reader AccountSettings := record fields {}

def toJson (a : AccountSettings) : Value :=
  .object [("ttlSecs", .natural a.lifetime), ("usernamePrefix", .text a.usernameStart),
    ("descriptionLabel", .text a.descriptionStart), ("roleName", .text a.roleName),
    ("roleDatabase", .text a.roleDatabase), ("authDatabase", .text a.authDatabase),
    ("passwordLength", .natural a.passwordLength)]

end AccountSettings

namespace PoolSettings

def fields : List (FieldReader PoolSettings) := [
  .of "warmUpDelayMs" .optional (natural limit64) fun p v => { p with warmUpMs := v },
  .of "retryDelayMs" .optional (natural limit64) fun p v => { p with retryMs := v },
  .of "maxAttempts" .optional (natural limit32) fun p v => { p with maxAttempts := v },
  .of "maxPoolSize" .optional (natural limit32) fun p v => { p with maxPoolSize := v },
  .of "maxIdleTimeSecs" .optional (natural limit64) fun p v => { p with maxIdleSeconds := v },
  .of "directConnectTimeoutSecs" .optional (natural limit64) fun p v =>
    { p with directConnectSeconds := v },
  .of "directServerSelectionTimeoutSecs" .optional (natural limit64) fun p v =>
    { p with directSelectionSeconds := v },
  .of "proxiedConnectTimeoutSecs" .optional (natural limit64) fun p v =>
    { p with proxiedConnectSeconds := v },
  .of "proxiedServerSelectionTimeoutSecs" .optional (natural limit64) fun p v =>
    { p with proxiedSelectionSeconds := v }]

def reader : Reader PoolSettings := record fields {}

def toJson (p : PoolSettings) : Value :=
  .object [("warmUpDelayMs", .natural p.warmUpMs), ("retryDelayMs", .natural p.retryMs),
    ("maxAttempts", .natural p.maxAttempts), ("maxPoolSize", .natural p.maxPoolSize),
    ("maxIdleTimeSecs", .natural p.maxIdleSeconds),
    ("directConnectTimeoutSecs", .natural p.directConnectSeconds),
    ("directServerSelectionTimeoutSecs", .natural p.directSelectionSeconds),
    ("proxiedConnectTimeoutSecs", .natural p.proxiedConnectSeconds),
    ("proxiedServerSelectionTimeoutSecs", .natural p.proxiedSelectionSeconds)]

end PoolSettings

namespace Settings

def fields : List (FieldReader Settings) := [
  .of "version" .optional (natural limit32) fun s v => { s with version := v },
  .of "account" .optional AccountSettings.reader fun s v => { s with account := v },
  .of "pool" .optional PoolSettings.reader fun s v => { s with pool := v },
  .of "proxy" .optional ProxySettings.reader fun s v => { s with proxy := v }]

/-- Reads settings; what is left out has its usual value. -/
def reader : Reader Settings := record fields {}

def toJson (s : Settings) : Value :=
  .object [("version", .natural s.version), ("account", s.account.toJson),
    ("pool", s.pool.toJson), ("proxy", s.proxy.toJson)]

end Settings
end ClusterAccess
