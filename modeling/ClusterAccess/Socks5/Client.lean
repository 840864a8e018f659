import ClusterAccess.Net.Address
import ClusterAccess.Socks5.Conversation
import ClusterAccess.Text.Utf8

/-!
# The client's side of SOCKS5

The client offers ways of signing in, signs in if asked to, and has the proxy connect to a host.
Names of hosts are sent as they are, so that the proxy looks them up.

## Main definitions

* `greeting`, `passwordRequest?`, `connectRequest?`: the bytes of the three messages.
* `negotiate`, `connect`: the two parts of the exchange.
* `handshake`: the whole exchange.
-/
namespace ClusterAccess.Socks5

/-- The version that every message begins with. -/
def version : UInt8 := 5

/-- A byte as two lower-case digits. -/
def hexByte (b : UInt8) : String := String.ofList (Text.Hex.byte b)

def greeting (hasCredentials : Bool) : List UInt8 :=
  if hasCredentials then [version, 2, 0, 2] else [version, 1, 0]

/-- User and password, each after its length; both need at least one byte and at most 255. -/
def passwordRequest? (username password : String) : Option (List UInt8) :=
  let user := Text.utf8Bytes username
  let secret := Text.utf8Bytes password
  if 1 ≤ user.length && user.length ≤ 255 && 1 ≤ secret.length && secret.length ≤ 255 then
    some (1 :: UInt8.ofNat user.length :: user ++ UInt8.ofNat secret.length :: secret)
  else none

/-- Where to connect to. -/
inductive Destination where
  | address (a : Net.Address)
  | domain (name : List UInt8)
  deriving DecidableEq, Repr

def Destination.bytes : Destination → List UInt8
  | .address (.v4 a b c d) => [1, a, b, c, d]
  | .address a => 4 :: a.bytes
  | .domain name => 3 :: UInt8.ofNat name.length :: name

/-- A host as an address, with or without brackets, or else as a name of one to 255 bytes. -/
def destination? (host : String) : Option Destination :=
  let inner := host.toList.dropWhile (· == '[')
  let inner := (inner.reverse.dropWhile (· == ']')).reverse
  match Net.Address.parse? inner with
  | some a => some (.address a)
  | none =>
    let name := Text.utf8Bytes host
    if 1 ≤ name.length && name.length ≤ 255 then some (.domain name) else none

/-- A port, most significant byte first. -/
def portBytes (port : Nat) : List UInt8 := [UInt8.ofNat (port / 256), UInt8.ofNat (port % 256)]

def connectRequest (d : Destination) (port : Nat) : List UInt8 :=
  [version, 1, 0] ++ d.bytes ++ portBytes port

/-- What a reply code means. -/
def replyError (code : UInt8) : IoError :=
  let (kind, text) : IoKind × String := match code with
    | 1 => (.other, "general SOCKS server failure")
    | 2 => (.permissionDenied, "connection not allowed by ruleset")
    | 3 => (.other, "network unreachable")
    | 4 => (.other, "host unreachable")
    | 5 => (.connectionRefused, "connection refused")
    | 6 => (.timedOut, "TTL expired")
    | 7 => (.unsupported, "command not supported")
    | 8 => (.unsupported, "address type not supported")
    | _ => (.other, "unknown reply code")
  ⟨kind, s!"SOCKS5 proxy: {text} (0x{hexByte code})"⟩

namespace Conversation

def succeed : Conversation Unit := .done (.ok ())

/-- Reads two bytes. -/
def readTwo (next : UInt8 → UInt8 → Conversation Unit) : Conversation Unit :=
  .read 2 fun
    | [a, b] => next a b
    | _ => .done (.error .endOfStream)

/-- Reads so many bytes and forgets them. -/
def skip (count : Nat) : Conversation Unit := .read count fun _ => succeed

end Conversation

open Conversation

def authenticate (username password : String) : Conversation Unit :=
  match passwordRequest? username password with
  | none => fail .invalidInput "SOCKS5 username and password must be 1-255 bytes"
  | some request =>
    .write request <| readTwo fun _ status =>
      if status = 0 then succeed
      else fail .permissionDenied
        s!"SOCKS5 proxy rejected credentials (status 0x{hexByte status})"

/-- Offers to sign in with a password if there is one, and does what the proxy chooses. -/
def negotiate (credentials : Option (String × String)) : Conversation Unit :=
  .write (greeting credentials.isSome) <| readTwo fun answered method =>
    if answered != version then
      fail .invalidData s!"SOCKS5 proxy answered with version {answered.toNat}"
    else if method = 0 then succeed
    else if method = 2 then
      match credentials with
      | some (username, password) => authenticate username password
      | none =>
        fail .permissionDenied "SOCKS5 proxy requires username/password authentication"
    else if method = 0xFF then
      fail .permissionDenied
        "SOCKS5 proxy accepted none of the offered authentication methods"
    else fail .invalidData s!"SOCKS5 proxy selected unoffered method 0x{hexByte method}"

/-- Passes over the address and port that the proxy names after a success. -/
def skipBound (addressType : UInt8) : Conversation Unit :=
  if addressType = 1 then skip 6
  else if addressType = 4 then skip 18
  else if addressType = 3 then
    .read 1 fun
      | [n] => skip (n.toNat + 2)
      | _ => .done (.error .endOfStream)
  else fail .invalidData s!"SOCKS5 proxy replied with address type {addressType.toNat}"

def readReply : Conversation Unit :=
  .read 4 fun
    | [answered, code, _, addressType] =>
      if answered != version then
        fail .invalidData s!"SOCKS5 proxy replied with version {answered.toNat}"
      else if code != 0 then .done (.error (replyError code))
      else skipBound addressType
    | _ => .done (.error .endOfStream)

/-- Has the proxy connect to a host. -/
def connect (host : String) (port : Nat) : Conversation Unit :=
  match destination? host with
  | none =>
    fail .invalidInput s!"host name length {Text.utf8Length host} not encodable in SOCKS5"
  | some d => .write (connectRequest d port) readReply

def handshake (credentials : Option (String × String)) (host : String) (port : Nat) :
    Conversation Unit :=
  (negotiate credentials).andThen fun _ => connect host port

end ClusterAccess.Socks5
