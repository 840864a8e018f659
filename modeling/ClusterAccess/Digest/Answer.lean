import ClusterAccess.Digest.Challenge
import ClusterAccess.Text.Hex
import ClusterAccess.Text.Utf8

/-!
# Answers to digest challenges

## Main definitions

* `Attempt`: the request for which a challenge is answered.
* `Challenge.response`: the hash that proves knowledge of the password.
* `Challenge.answer`, `Answer.render`: the answer, and its text.
-/
namespace ClusterAccess.Digest

/-- The request for which a challenge is answered, and who makes it. -/
structure Attempt where
  username : String
  password : String
  method : String
  /-- The path and the query. -/
  uri : String
  body : Option (List UInt8)
  /-- A text chosen by the client. -/
  clientNonce : String

/-- The answer that a client gives. -/
structure Answer where
  username : String
  realm : String
  nonce : String
  uri : String
  /-- What is vouched for, and the client's own nonce. -/
  protection : Option (Protection × String)
  response : String
  echo : Option String
  algorithm : Algorithm
  hidesUser : Bool
  deriving DecidableEq, Repr

/-- The hash of texts with colons between them, in hexadecimal digits. -/
def Algorithm.hashOf (a : Algorithm) (parts : List String) : String :=
  String.ofList (Text.Hex.ofBytes (a.hash (Text.utf8Bytes (":".intercalate parts))))

/-- The number of answers with the server's nonce; each nonce is used once. -/
def nonceCount : String := "00000001"

namespace Challenge

/-- The body is vouched for if the server likes that and there is a body. -/
def protection? (c : Challenge) (hasBody : Bool) : Option Protection :=
  c.protections.map fun ps => if ps.contains .body && hasBody then .body else .line

/-- What stands for the user and the password. -/
def userHash (c : Challenge) (a : Attempt) : String :=
  let plain := c.algorithm.hashOf [a.username, c.realm, a.password]
  if c.algorithm.isSession then c.algorithm.hashOf [plain, c.nonce, a.clientNonce] else plain

/-- What stands for the request. -/
def requestHash (c : Challenge) (a : Attempt) : String :=
  match c.protection? a.body.isSome, a.body with
  | some .body, some body =>
    c.algorithm.hashOf
      [a.method, a.uri, String.ofList (Text.Hex.ofBytes (c.algorithm.hash body))]
  | _, _ => c.algorithm.hashOf [a.method, a.uri]

def response (c : Challenge) (a : Attempt) : String :=
  match c.protection? a.body.isSome with
  | some p =>
    c.algorithm.hashOf
      [c.userHash a, c.nonce, nonceCount, a.clientNonce, p.name, c.requestHash a]
  | none => c.algorithm.hashOf [c.userHash a, c.nonce, c.requestHash a]

def answer (c : Challenge) (a : Attempt) : Answer where
  username := if c.hidesUser then c.algorithm.hashOf [a.username, c.realm] else a.username
  realm := c.realm
  nonce := c.nonce
  uri := a.uri
  protection := (c.protection? a.body.isSome).map fun p => (p, a.clientNonce)
  response := c.response a
  echo := c.echo
  algorithm := c.algorithm
  hidesUser := c.hidesUser

end Challenge

/-- Quotes and backslashes are written behind a backslash. -/
def quote (s : String) : String :=
  let escaped := s.toList.flatMap fun c => if c == '"' || c == '\\' then ['\\', c] else [c]
  "\"" ++ String.ofList escaped ++ "\""

/-- The text of an answer. The algorithm is only named where it is not the one of old. -/
def Answer.render (a : Answer) : String :=
  let parts := [("username", quote a.username), ("realm", quote a.realm),
      ("nonce", quote a.nonce), ("uri", quote a.uri)] ++
    (match a.protection with
      | some (p, clientNonce) =>
        [("qop", p.name), ("nc", nonceCount), ("cnonce", quote clientNonce)]
      | none => []) ++
    [("response", quote a.response)] ++
    (match a.echo with
      | some echo => [("opaque", quote echo)]
      | none => []) ++
    (if a.protection.isSome || a.algorithm.function ≠ .md5 then
      [("algorithm", a.algorithm.name)]
    else []) ++
    (if a.hidesUser then [("userhash", "true")] else [])
  "Digest " ++ ", ".intercalate (parts.map fun (name, value) => name ++ "=" ++ value)

end ClusterAccess.Digest
