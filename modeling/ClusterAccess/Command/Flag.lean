import ClusterAccess.Api.Client

/-!
# Flags of the command

Each flag is given as `--name value` or `--name=value`, once at most, or else by a variable of the
environment. One flag takes no value.

## Main definitions

* `Flag`: a flag with all that is told of it.
* `flags`: the flags in the order in which they are told of.
-/
namespace ClusterAccess.Command

structure Flag where
  name : String
  /-- What it is for. -/
  use : String
  takesValue : Bool := true
  /-- The variable of the environment that stands in for it. -/
  standIn : Option String := none
  /-- Whether the value of that variable is to be kept from sight. -/
  isSecret : Bool := false
  /-- The value that it has when none is given. -/
  usual : Option String := none
  /-- The only values that it has, with what they mean. -/
  choices : List (String × String) := []
  deriving DecidableEq, Repr

/-- The file that settings are read from unless another is given. -/
def usualFile : String := "atlas-broker.json"

/-- The flag that asks for the settings file to be written. -/
def writeFlag : String := "write-default-settings"

def flags : List Flag := [
  { name := "settings", standIn := some "ATLAS_BROKER_SETTINGS", usual := some usualFile,
    use := "Settings file (JSON); defaults are used when it does not exist" },
  { name := writeFlag, takesValue := false,
    use := "Write the effective settings to the settings file and exit" },
  { name := "project-id", standIn := some "ATLAS_PROJECT_ID", use := "Project (group) ID" },
  { name := "cluster", standIn := some "ATLAS_CLUSTER", use := "Cluster name" },
  { name := "base-url", standIn := some "ATLAS_BASE_URL", usual := some Api.defaultBase,
    use := "Admin API base URL" },
  { name := "client-id", standIn := some "ATLAS_CLIENT_ID", use := "Service account client ID" },
  { name := "client-secret", standIn := some "ATLAS_CLIENT_SECRET", isSecret := true,
    use := "Service account client secret" },
  { name := "access-token", standIn := some "ATLAS_ACCESS_TOKEN", isSecret := true,
    use := "Pre-issued access token, used instead of a service account" },
  { name := "public-key", standIn := some "ATLAS_PUBLIC_KEY",
    use := "Programmatic API public key (digest auth)" },
  { name := "private-key", standIn := some "ATLAS_PRIVATE_KEY", isSecret := true,
    use := "Programmatic API private key" },
  { name := "driver", usual := some "auto", use := "How cluster connections are verified",
    choices := [("auto", "mongo when connecting directly, tcp through a proxy"),
      ("mongo", "MongoDB wire protocol; direct connections only"),
      ("tcp", "TCP reachability of the seed hosts")] },
  { name := "proxy-host", standIn := some "ATLAS_PROXY_HOST",
    use := "SOCKS5 proxy host (overrides the settings file)" },
  { name := "proxy-port", standIn := some "ATLAS_PROXY_PORT", use := "SOCKS5 proxy port" },
  { name := "proxy-user", standIn := some "ATLAS_PROXY_USER", use := "SOCKS5 proxy username" },
  { name := "proxy-pass", standIn := some "ATLAS_PROXY_PASS", isSecret := true,
    use := "SOCKS5 proxy password" }]

namespace Flag

def find? (name : String) : Option Flag := flags.find? (·.name == name)

/-- What stands for the value of a flag where it is told of. -/
def valueName (f : Flag) : String :=
  f.name.map fun c => if c == '-' then '_' else c.toUpper

end Flag
end ClusterAccess.Command
