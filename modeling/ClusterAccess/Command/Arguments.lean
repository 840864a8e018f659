import ClusterAccess.Command.Flag
import ClusterAccess.Settings.Basic

/-!
# Arguments of the command

Arguments are read one after the other, and each value is looked at as it comes. A flag that asks
about the command itself ends the reading.

## Main definitions

* `Arguments`: what the command is asked to do.
* `Request.parse?`: the request that the arguments and the environment make.
* `Arguments.override`: settings with the options for the proxy put over them.
* `Arguments.auth?`: the first complete means of signing in.
-/
namespace ClusterAccess.Command

/-- How a connection to a cluster is tested. -/
inductive DriverChoice where
  | auto
  | mongo
  | tcp
  deriving DecidableEq, Repr

namespace DriverChoice

def ofName? : String → Option DriverChoice
  | "auto" => some .auto
  | "mongo" => some .mongo
  | "tcp" => some .tcp
  | _ => none

/-- Whether plain connections are opened for the test; through a proxy there is no other. -/
def usesTcp (d : DriverChoice) (isProxied : Bool) : Bool :=
  match d with
  | .auto => isProxied
  | .mongo => false
  | .tcp => true

end DriverChoice

structure Arguments where
  settingsFile : String := usualFile
  writesSettings : Bool := false
  project : Option String := none
  cluster : Option String := none
  base : String := Api.defaultBase
  clientId : Option String := none
  clientSecret : Option String := none
  accessToken : Option String := none
  publicKey : Option String := none
  privateKey : Option String := none
  driver : DriverChoice := .auto
  proxyHost : Option String := none
  proxyPort : Option Nat := none
  proxyUser : Option String := none
  proxyPassword : Option String := none
  deriving DecidableEq, Repr

/-! ## Reading -/

/-- Whether a text is taken for a flag and not for the value of one. -/
def looksLikeFlag (s : String) : Bool := s != "-" && s.startsWith "-"

/-- A port as it is written by hand. -/
def port? (text : String) : Option Nat :=
  match Text.Numeral.integer? text.toList with
  | some n => if 0 ≤ n && n ≤ 65535 then some n.toNat else none
  | none => none

/-- Whether a flag can have a value. -/
def isProper (name value : String) : Bool :=
  match name with
  | "settings" => !value.isEmpty
  | "driver" => (DriverChoice.ofName? value).isSome
  | "proxy-port" => (port? value).isSome
  | _ => true

/-- What an argument is, apart from the values that stand alone. -/
inductive Piece where
  /-- Flags of one letter; only the first of them matters. -/
  | letters (first : Char)
  /-- A flag with a name, and the value attached to it. -/
  | named (name : String) (attached : Option String)
  | value
  deriving DecidableEq, Repr

def Piece.ofString (s : String) : Piece :=
  match s.toList with
  | '-' :: '-' :: rest =>
    let name := rest.takeWhile (· != '=')
    .named (String.ofList name) ((rest.drop name.length).tail?.map String.ofList)
  | '-' :: first :: _ => .letters first
  | _ => .value

/-- What the arguments say one after the other. -/
inductive Reading where
  | given (values : List (String × String))
  | version
  /-- The help, short or long. -/
  | help (isLong : Bool)
  deriving DecidableEq, Repr

/-- Reads the arguments, behind flags that were read before. -/
def Reading.ofList? (seen : List (String × String)) : List String → Option Reading
  | [] => some (.given seen)
  | arg :: rest =>
    match Piece.ofString arg with
    | .value => none
    | .letters first =>
      if first = 'V' then some .version else if first = 'h' then some (.help false) else none
    | .named "version" none => some .version
    | .named "help" none => some (.help true)
    | .named "" none => if rest.isEmpty then some (.given seen) else none
    | .named name attached =>
      if (seen.lookup name).isSome then none
      else match Flag.find? name with
        | none => none
        | some flag =>
          match flag.takesValue, attached, rest with
          | false, none, rest => ofList? ((name, "") :: seen) rest
          | true, some value, rest =>
            if isProper name value then ofList? ((name, value) :: seen) rest else none
          | true, none, value :: rest =>
            if !looksLikeFlag value && isProper name value then
              ofList? ((name, value) :: seen) rest
            else none
          | _, _, _ => none

/-- The value of a flag, from the arguments if they have it, else from the environment. -/
def valueOf? (given environment : List (String × String)) (name : String) : Option String :=
  (given.lookup name).or
    ((Flag.find? name).bind fun f => f.standIn.bind fun v => environment.lookup v)

def Arguments.ofValues? (given environment : List (String × String)) : Option Arguments :=
  let value := valueOf? given environment
  if flags.all fun f => (value f.name).all (isProper f.name) then some {
    settingsFile := (value "settings").getD usualFile
    writesSettings := (value writeFlag).isSome
    project := value "project-id"
    cluster := value "cluster"
    base := (value "base-url").getD Api.defaultBase
    clientId := value "client-id"
    clientSecret := value "client-secret"
    accessToken := value "access-token"
    publicKey := value "public-key"
    privateKey := value "private-key"
    driver := ((value "driver").bind DriverChoice.ofName?).getD .auto
    proxyHost := value "proxy-host"
    proxyPort := (value "proxy-port").bind port?
    proxyUser := value "proxy-user"
    proxyPassword := value "proxy-pass" }
  else none

/-- What the command is asked for. -/
inductive Request where
  | version
  | help (isLong : Bool)
  | probe (a : Arguments)
  deriving DecidableEq, Repr

/-- The request that the arguments and the environment make, if they make one. -/
def Request.parse? (environment : List (String × String)) (args : List String) :
    Option Request :=
  match Reading.ofList? [] args with
  | none => none
  | some .version => some .version
  | some (.help isLong) => some (.help isLong)
  | some (.given values) => (Arguments.ofValues? values environment).map .probe

/-! ## Use -/

namespace Arguments

/-- Settings with the options for the proxy put over them. -/
def override (a : Arguments) (s : Settings) : Settings :=
  { s with proxy := {
      host := a.proxyHost.getD s.proxy.host
      port := a.proxyPort.getD s.proxy.port
      username := a.proxyUser.or s.proxy.username
      password := (a.proxyPassword.map .ofString).or s.proxy.password } }

/-- A token goes before keys, and keys before a service account. -/
def auth? (a : Arguments) : Option Api.Auth :=
  match a.accessToken, a.publicKey, a.privateKey, a.clientId, a.clientSecret with
  | some token, _, _, _, _ => some (.bearer (.ofString token))
  | none, some key, some secret, _, _ => some (.apiKey key (.ofString secret))
  | none, _, _, some id, some secret => some (.serviceAccount id (.ofString secret))
  | none, _, _, _, _ => none

end Arguments
end ClusterAccess.Command
