import ClusterAccess.Hash.Md5
import ClusterAccess.Hash.Sha2
import ClusterAccess.Text.Blank

/-!
# Digest challenges

A server asks a client to prove that it knows a password. The challenge is a list of parameters
`name=value` with commas between them, whose values may stand in quotes.

## Main definitions

* `Algorithm`: how to hash.
* `Challenge`: what a server wants to be hashed.
* `parameters?`: the parameters of a text.
* `Challenge.parse`: the challenge that a text makes.
-/
namespace ClusterAccess.Digest

/-! ## Algorithms -/

inductive HashFunction where
  | md5
  | sha256
  | sha512t256
  deriving DecidableEq, Repr

structure Algorithm where
  function : HashFunction := .md5
  /-- Whether the password's hash takes in the nonces. -/
  isSession : Bool := false
  deriving DecidableEq, Repr

namespace Algorithm

def name (a : Algorithm) : String :=
  (match a.function with
    | .md5 => "MD5"
    | .sha256 => "SHA-256"
    | .sha512t256 => "SHA-512-256") ++ if a.isSession then "-sess" else ""

def all : List Algorithm :=
  [.md5, .sha256, .sha512t256].flatMap fun f => [⟨f, false⟩, ⟨f, true⟩]

def ofName? (name : String) : Option Algorithm := all.find? (·.name == name)

theorem ofName?_name (a : Algorithm) : ofName? a.name = some a := by
  obtain ⟨f, s⟩ := a
  cases f <;> cases s <;> decide

def hash (a : Algorithm) (bytes : List UInt8) : List UInt8 :=
  match a.function with
  | .md5 => Hash.md5 bytes
  | .sha256 => Hash.sha256.hash bytes
  | .sha512t256 => Hash.sha512t256.hash bytes

end Algorithm

/-! ## Challenges -/

/-- What the answer vouches for. -/
inductive Protection where
  /-- The request's first line. -/
  | line
  /-- Its body as well. -/
  | body
  deriving DecidableEq, Repr

namespace Protection

def name : Protection → String
  | line => "auth"
  | body => "auth-int"

def ofName? (name : String) : Option Protection := [line, body].find? (·.name == name)

end Protection

structure Challenge where
  realm : String
  nonce : String
  /-- A text to be sent back. -/
  echo : Option String := none
  algorithm : Algorithm := {}
  /-- What answers may vouch for. In the oldest form of the scheme nothing is said of that. -/
  protections : Option (List Protection) := none
  /-- Whether the user's name is sent as a hash. -/
  hidesUser : Bool := false
  deriving DecidableEq, Repr

inductive Fault where
  | malformed (text : String)
  | missing (name text : String)
  | unknownAlgorithm (name : String)
  | unknownCharset (name : String)
  | unknownProtection (name : String)
  deriving DecidableEq, Repr

def Fault.message : Fault → String
  | .malformed text => "Invalid header syntax: " ++ text
  | .missing name text => "Missing \"" ++ name ++ "\" in header: " ++ text
  | .unknownAlgorithm name => "Unknown algorithm: " ++ name
  | .unknownCharset name => "Bad charset: " ++ name
  | .unknownProtection name => "Bad Qop option: " ++ name

/-! ## Reading -/

/-- Where a reader of parameters is; names and values that are under way stand there reversed. -/
inductive Place where
  | between
  | inName (name : List Char)
  | beforeValue (name : List Char)
  | inQuotes (name value : List Char)
  /-- Behind a backslash. -/
  | escaped (name value : List Char)
  | inPlain (name value : List Char)
  deriving Repr

def parameter (name value : List Char) : String × String :=
  (String.ofList name.reverse, String.ofList value.reverse)

/-- Blanks and commas end a value that does not stand in quotes. -/
def endsPlain (c : Char) : Bool :=
  c == ',' || c == ' ' || c == '\t' || c == '\n' || c == '\r' || c == '\x0c'

def isLetter (c : Char) : Bool := ('A' ≤ c && c ≤ 'Z') || ('a' ≤ c && c ≤ 'z')

/-- The parameters of a text; `none` if it ends in a name or before the end of a value. A name
begins at a letter and runs to the next equals sign. -/
def parameters? : Place → List Char → Option (List (String × String))
  | .between, [] => some []
  | .inPlain name value, [] => some [parameter name value]
  | _, [] => none
  | .between, c :: rest => parameters? (if isLetter c then .inName [c] else .between) rest
  | .inName name, c :: rest =>
    parameters? (if c == '=' then .beforeValue name else .inName (c :: name)) rest
  | .beforeValue name, c :: rest =>
    parameters? (if c == '"' then .inQuotes name [] else .inPlain name [c]) rest
  | .inQuotes name value, c :: rest =>
    if c == '"' then (parameters? .between rest).map (parameter name value :: ·)
    else parameters? (if c == '\\' then .escaped name value else .inQuotes name (c :: value)) rest
  | .escaped name value, c :: rest => parameters? (.inQuotes name (c :: value)) rest
  | .inPlain name value, c :: rest =>
    if endsPlain c then (parameters? .between rest).map (parameter name value :: ·)
    else parameters? (.inPlain name (c :: value)) rest

/-- Of several values of one name the last counts. -/
def lastValue? (name : String) (parameters : List (String × String)) : Option String :=
  parameters.reverse.lookup name

namespace Challenge

def protections? (parameters : List (String × String)) :
    Except Fault (Option (List Protection)) :=
  match lastValue? "qop" parameters with
  | none => .ok none
  | some text => do
    let items ← (text.toList.splitOn ',').mapM fun item =>
      let name := String.ofList (Text.trim item)
      match Protection.ofName? name with
      | some p => .ok p
      | none => .error (.unknownProtection name)
    pure (some items)

def required (name text : String) (parameters : List (String × String)) : Except Fault String :=
  match lastValue? name parameters with
  | some value => .ok value
  | none => .error (.missing name text)

def namedAlgorithm (parameters : List (String × String)) : Except Fault Algorithm :=
  match lastValue? "algorithm" parameters with
  | none => .ok {}
  | some name => match Algorithm.ofName? name with
    | some a => .ok a
    | none => .error (.unknownAlgorithm name)

/-- There is one known way of writing characters as bytes. -/
def checkCharset (parameters : List (String × String)) : Except Fault Unit :=
  match lastValue? "charset" parameters with
  | some charset => if charset = "UTF-8" then .ok () else .error (.unknownCharset charset)
  | none => .ok ()

/-- The challenge of a header, in which the scheme's name may be missing. -/
def parse (header : String) : Except Fault Challenge := do
  let trimmed := Text.trim header.toList
  let scheme := "Digest".toList
  let body := if scheme.isPrefixOf trimmed then trimmed.drop scheme.length else trimmed
  let text := String.ofList body
  match parameters? .between body with
  | none => .error (.malformed text)
  | some parameters =>
    let realm ← required "realm" text parameters
    let nonce ← required "nonce" text parameters
    checkCharset parameters
    let algorithm ← namedAlgorithm parameters
    let protections ← protections? parameters
    pure { realm, nonce, algorithm, protections, echo := lastValue? "opaque" parameters,
           hidesUser := (lastValue? "userhash" parameters).any (·.toLower == "true") }

end Challenge
end ClusterAccess.Digest
