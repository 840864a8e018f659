import ClusterAccess.Url.Host
import ClusterAccess.Url.Path

/-!
# Reading URLs

A text is cut into its parts, and each part gets escapes for what it may not hold plainly. A text
without a scheme, or with the scheme of a given URL and less than two slashes, says how to go on
from that URL.

## Main definitions

* `Url.parse`: reads a text.
* `Url.resolve`: reads a text found at some URL.
-/
namespace ClusterAccess.Url

/-! ## User, host and port -/

/-- Whether a character ends the part that names user, host and port. -/
def endsAuthority (special : Bool) (c : Char) : Bool :=
  c == '/' || c == '?' || c == '#' || (special && c == '\\')

/-- The host ends at the first colon outside of brackets. -/
def spanHost (inBrackets : Bool) : List Char → List Char × List Char
  | [] => ([], [])
  | c :: rest =>
    if c = ':' && !inBrackets then ([], c :: rest)
    else
      let inBrackets := if c = '[' then true else if c = ']' then false else inBrackets
      let (host, rest) := spanHost inBrackets rest
      (c :: host, rest)

/-- A text cut at the last of the given characters. -/
def cutAtLast (c : Char) (s : List Char) : Option (List Char × List Char) :=
  if s.contains c then
    let after := (s.reverse.takeWhile (· != c)).reverse
    some (s.take (s.length - after.length - 1), after)
  else none

/-- The port after a colon, and what follows it. A backslash ends the port of any URL. -/
def parsePort (scheme : String) (s : List Char) : Except Fault (Option Nat × List Char) :=
  let digits := s.takeWhile Text.Numeral.isDigit
  let rest := s.drop digits.length
  let n := Text.Numeral.value 0 digits
  if 65535 < n || !rest.head?.all (· == '\\') then .error .invalidPort
  else if digits.isEmpty || defaultPort? scheme = some n then .ok (none, rest)
  else .ok (some n, rest)

/-- User, host and port, and what follows the port. -/
def parseAuthority (scheme : String) (s : List Char) (isLast : Bool) :
    Except Fault (Url × List Char) := do
  let special := isSpecial scheme
  let (user, place) := (cutAtLast '@' s).getD ([], s)
  if s == ['@'] && !isLast then throw .emptyHost
  let username := user.takeWhile (· != ':')
  let password := user.drop (username.length + 1)
  let (host, port) := spanHost false place
  if host.isEmpty && special then throw .emptyHost
  let parsed ← if special then parseDomain host else parseName host
  if host.isEmpty && !port.isEmpty then throw .emptyHost
  let (port, rest) ← if port.isEmpty then pure (none, []) else parsePort scheme (port.drop 1)
  if host.isEmpty && !(username.isEmpty && password.isEmpty) then throw .emptyHost
  pure
    ({ scheme, username := encoded keepsUser username,
       password := if password.isEmpty then none else some (encoded keepsUser password),
       host := some parsed, port }, rest)

/-! ## Cutting a text -/

/-- Characters dropped at both ends of a text. -/
def isOuter (c : Char) : Bool := c.toNat ≤ 0x20

def cleaned (s : String) : List Char :=
  ((s.toList.dropWhile isOuter).reverse.dropWhile isOuter).reverse.filter fun c => !isDropped c

def isSchemeChar (c : Char) : Bool :=
  Text.Percent.isAsciiAlphanumeric c || c == '+' || c == '-' || c == '.'

/-- The scheme, in lower case, and what follows its colon. -/
def cutScheme? (s : List Char) : Option (String × List Char) :=
  let scheme := s.takeWhile isSchemeChar
  match s.drop scheme.length with
  | ':' :: rest =>
    if scheme.head?.any isLetter then some (String.ofList (scheme.map Char.toLower), rest) else none
  | _ => none

def isSlash (c : Char) : Bool := c == '/' || c == '\\'

/-- Whether a character ends a path. -/
def endsPath (c : Char) : Bool := c == '?' || c == '#'

/-- The URL with this path, query and fragment. -/
def withRest (u : Url) (path : List Char → Path) (s : List Char) : Url :=
  let before := s.takeWhile (· != '#')
  let main := before.takeWhile (· != '?')
  { u with
    path := path main
    query := (before.drop main.length).tail?.map (encoded (keepsQuery (isSpecial u.scheme)))
    fragment := (s.drop before.length).tail?.map (encoded keepsFragment) }

/-- All that follows two slashes. -/
def parsePlace (scheme : String) (s : List Char) : Except Fault Url :=
  let special := isSpecial scheme
  let authority := s.takeWhile fun c => !endsAuthority special c
  let after := s.drop authority.length
  match parseAuthority scheme authority after.isEmpty with
  | .ok (u, rest) => .ok (u.withRest (parsePath special) (rest ++ after))
  | .error fault => .error fault

/-! ## Files -/

/-- A URL of files, with a host if its path does not begin with a drive. -/
def ofFile (host : Option Host) (s : List Char) : Url :=
  let items := fileSegments (s.takeWhile fun c => !endsPath c)
  let u : Url := { scheme := "file", host := if hasDrive items then none else host }
  u.withRest (fun _ => .segments (withoutEmptyStart items)) s

/-- All that follows two slashes. A drive is no host, and the local host counts as missing. -/
def parseFilePlace (s : List Char) : Except Fault Url :=
  let host := s.takeWhile fun c => !(isSlash c || endsPath c)
  let rest := s.drop host.length
  if isDrive (String.ofList host) then .ok (ofFile none s)
  else if host.isEmpty then .ok (ofFile none rest)
  else match parseDomain host with
    | .error fault => .error fault
    | .ok (.domain "localhost") => .ok (ofFile none rest)
    | .ok host => .ok (ofFile (some host) (if rest.head?.any isSlash then rest.drop 1 else rest))

def parseFile (s : List Char) : Except Fault Url :=
  match s with
  | a :: rest =>
    if !isSlash a then .ok (ofFile none s)
    else if rest.head?.any isSlash then parseFilePlace (rest.drop 1)
    else .ok (ofFile none rest)
  | [] => .ok (ofFile none [])

/-! ## Whole texts -/

/-- All that follows the scheme. -/
def parseAfterScheme (scheme : String) (s : List Char) : Except Fault Url :=
  if scheme = "file" then parseFile s
  else if isSpecial scheme then parsePlace scheme (s.dropWhile isSlash)
  else match s with
    | '/' :: '/' :: rest => parsePlace scheme rest
    | '/' :: rest =>
      .ok (withRest { scheme } (fun path => .segments (parseSegments false path)) rest)
    | _ => .ok (withRest { scheme } (fun path => .rootless (encoded keepsAll path)) s)

def parse (text : String) : Except Fault Url :=
  match cutScheme? (cleaned text) with
  | none => .error .relative
  | some (scheme, rest) => parseAfterScheme scheme rest

/-! ## Texts found at a URL -/

/-- The path meant at the path of these segments. -/
def resolvePath (special : Bool) (items : List String) (s : List Char) : Path :=
  match s with
  | '/' :: rest | '\\' :: rest => .segments (parseSegments special rest)
  | _ => .segments (addSegments items.dropLast (writtenSegments special s))

/-- The URL meant by a text without scheme at a URL whose path has these segments. An empty path
means the same path. Two slashes lead to another host; if one of them is a backslash, more may
follow. -/
def resolveAt (base : Url) (items : List String) (s : List Char) : Except Fault Url :=
  if s.head?.all endsPath then
    let u := base.withRest (fun _ => base.path) s
    .ok (if s.head? == some '?' then u else { u with query := base.query })
  else if 2 ≤ (s.takeWhile isSlash).length then
    match s with
    | '/' :: '/' :: rest => parsePlace base.scheme rest
    | _ => parsePlace base.scheme (s.dropWhile isSlash)
  else .ok (base.withRest (resolvePath (isSpecial base.scheme) items) s)

/-- The URL meant by a text without scheme. -/
def resolveRelative (base : Url) (s : List Char) : Except Fault Url :=
  match base.path with
  | .segments items => resolveAt base items s
  | .rootless _ =>
    if s.head? == some '#' then
      .ok { base.withRest (fun _ => base.path) s with query := base.query }
    else .error .relative

/-- The URL meant by a text that is found at `base`, which is not a file. -/
def resolve (base : Url) (text : String) : Except Fault Url :=
  let s := cleaned text
  match cutScheme? s with
  | none => resolveRelative base s
  | some (scheme, rest) =>
    if scheme = base.scheme && isSpecial scheme && scheme != "file" &&
        (rest.takeWhile isSlash).length < 2 then
      resolveRelative base rest
    else parseAfterScheme scheme rest

end ClusterAccess.Url
