import ClusterAccess.Text.Case
import ClusterAccess.Text.Numeral
import ClusterAccess.Text.Percent

/-!
# Options of connection strings

## Main definitions

* `ValueRange`: the values that an option admits.
* `ConnectionOption`: an option by its name.
* `ConnectionOption.isValid`: whether there is such an option with such a value.
* `ConnectionOption.parseAll?`: the options of a text.
-/
namespace ClusterAccess

inductive ValueRange where
  | flag
  /-- A number without minus sign. -/
  | count (least most : Nat)
  | between (least most : Int)
  | among (values : List String)
  /-- The same in any case. -/
  | amongWords (values : List String)
  /-- Names and values, with colons after the names and commas between the pairs. A pair may be
  half empty or not. -/
  | pairs (halves : Bool)
  | nonempty
  /-- A number from 0 on, or anything that is no number. -/
  | countOrText
  | anything
  deriving DecidableEq, Repr

/-- A whole number of 32 bits. -/
def shortInteger? (v : String) : Option Int :=
  (Text.Numeral.integer? v.toList).filter fun n =>
    Int32.minValue.toInt ≤ n && n ≤ Int32.maxValue.toInt

/-- Whether a text is a name, a colon and a value. -/
def isPair (halves : Bool) (s : List Char) : Bool :=
  let name := s.takeWhile (· != ':')
  match s.drop name.length with
  | _ :: value => halves || (!name.isEmpty && !value.isEmpty)
  | [] => false

def ValueRange.admits : ValueRange → String → Bool
  | flag, v => v == "true" || v == "false"
  | count least most, v => (Text.Numeral.bounded? most v).any (least ≤ ·)
  | between least most, v =>
    (Text.Numeral.integer? v.toList).any fun n => least ≤ n && n ≤ most
  | among values, v => values.contains v
  | amongWords values, v => values.contains (String.ofList (Text.lowercase v.toList))
  | pairs halves, v => (v.toList.splitOn ',').all (isPair halves)
  | nonempty, v => !v.isEmpty
  | countOrText, v => (shortInteger? v).all (0 ≤ ·)
  | anything, _ => true

structure ConnectionOption where
  /-- In small letters. -/
  name : String
  value : String
  deriving DecidableEq, Repr

namespace ConnectionOption

/-- A number of milliseconds. -/
def milliseconds : ValueRange := .count 0 (UInt64.size - 1)

/-- A number of connections or attempts. -/
def connections : ValueRange := .count 0 (UInt32.size - 1)

/-- A number of connections that is not zero. -/
def someConnections : ValueRange := .count 1 (UInt32.size - 1)

/-- The options there are. -/
def ranges : List (String × ValueRange) := [
  ("appname", .anything), ("authsource", .nonempty), ("replicaset", .anything),
  ("readconcernlevel", .anything), ("w", .countOrText),
  ("tlscafile", .anything), ("tlscertificatekeyfile", .anything),
  ("tls", .flag), ("ssl", .flag), ("tlsinsecure", .flag), ("tlsallowinvalidcertificates", .flag),
  ("directconnection", .flag), ("loadbalanced", .flag), ("journal", .flag),
  ("retryreads", .flag), ("retrywrites", .flag), ("enableoverloadretargeting", .flag),
  ("connecttimeoutms", milliseconds), ("localthresholdms", milliseconds),
  ("maxidletimems", milliseconds), ("serverselectiontimeoutms", milliseconds),
  ("waitqueuetimeoutms", milliseconds), ("wtimeoutms", milliseconds),
  ("heartbeatfrequencyms", .count 500 (UInt64.size - 1)),
  ("maxpoolsize", someConnections), ("minpoolsize", connections),
  ("maxconnecting", someConnections), ("maxadaptiveretries", connections),
  ("maxstalenessseconds", .between (-1) Int64.maxValue.toInt),
  ("servermonitoringmode", .amongWords ["stream", "poll", "auto"]),
  ("authmechanism",
    .among ["SCRAM-SHA-1", "SCRAM-SHA-256", "PLAIN", "MONGODB-X509", "MONGODB-OIDC"]),
  ("authmechanismproperties", .pairs false),
  ("readpreference",
    .amongWords ["primary", "secondary", "primarypreferred", "secondarypreferred", "nearest"]),
  ("readpreferencetags", .pairs true),
  ("uuidrepresentation", .amongWords ["csharplegacy", "javalegacy", "pythonlegacy"])]

/-- Tags may be missing altogether. -/
def isValid (o : ConnectionOption) : Bool :=
  (o.name == "readpreferencetags" && o.value.isEmpty) ||
    match ranges.lookup o.name with
    | some range => range.admits o.value
    | none => false

/-- The options of a text. -/
def parseAll? (s : List Char) : Option (List ConnectionOption) :=
  if s.isEmpty then some []
  else (s.splitOn '&').mapM fun item =>
    let name := item.takeWhile (· != '=')
    match item.drop name.length with
    | [] => none
    | _ :: value =>
      some ⟨String.ofList (Text.lowercase name), Text.Percent.decodeLossy (String.ofList value)⟩

/-- Only tags may be given more than once. -/
def isUnrepeated (options : List ConnectionOption) : Bool :=
  let names := (options.map (·.name)).filter (· != "readpreferencetags")
  names.eraseDups.length == names.length

end ConnectionOption
end ClusterAccess
