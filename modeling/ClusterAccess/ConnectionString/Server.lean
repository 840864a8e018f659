import ClusterAccess.Net.Address
import ClusterAccess.Probe.Tcp
import ClusterAccess.Text.Case

/-!
# Servers of connection strings

## Main definitions

* `Server`: one of the hosts of a connection string.
* `Server.parse?`: a host as it is listed.
* `Server.render`: a host with its port.
-/
namespace ClusterAccess

inductive Server where
  | network (host : String) (port : Nat)
  /-- A socket in the file system. -/
  | file (path : String)
  deriving DecidableEq, Repr

namespace Server

def render : Server → String
  | network host port => s!"{host}:{port}"
  | file path => path

/-- A port other than zero; the usual one if there is none. -/
def port? : Option (List Char) → Option Nat
  | none => some Probe.Seed.defaultPort
  | some digits => (Text.Numeral.bounded? 65535 (String.ofList digits)).filter (· != 0)

/-- What stands behind the bracket of an address: nothing, or a colon and a port. -/
def afterBracket? : List Char → Option Nat
  | [] => port? none
  | ':' :: digits => port? (some digits)
  | _ => none

/-- The shortest form of an address. -/
def addressHost? (s : List Char) : Option String :=
  match Net.parseV6? s with
  | some (.v6 pieces) => some (Net.renderMapped pieces)
  | _ => none

/-- Names of hosts are compared in small letters. -/
def parse? (s : List Char) : Option Server :=
  let text := String.ofList s
  if text.endsWith ".sock" then (Text.Percent.decode? text).map file
  else match s with
    | '[' :: rest =>
      let host := rest.takeWhile (· != ']')
      match addressHost? host, rest.drop host.length with
      | some address, _ :: tail => (afterBracket? tail).map (network address)
      | _, _ => none
    | _ =>
      let host := s.takeWhile (· != ':')
      if host.isEmpty then none
      else (port? (s.drop host.length).tail?).map (network (String.ofList (Text.lowercase host)))

end Server
end ClusterAccess
