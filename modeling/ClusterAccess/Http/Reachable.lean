import ClusterAccess.Url.Parser

/-!
# URLs that HTTP can handle

A message of HTTP admits fewer URLs than there are. The part with user, host and port has to be
there, and to keep to the characters and colons of such a part.

## Main definitions

* `isAuthority`: whether a text can name a user, host and port.
* `isReachable`: whether a message can hold a URL.
* `isWeb`: whether it can be asked for.
-/
namespace ClusterAccess.Http

/-- Characters of a part with user, host and port, and the percent sign. -/
def isAuthorityChar (c : Char) : Bool :=
  Text.Percent.isUnreserved c || "!#$%&'()*+,:;=?@[]".toList.contains c

/-- What has been seen in a part since the last `@`. -/
structure AuthorityScan where
  /-- Colons since the last bracket that closes. -/
  colons : Nat := 0
  /-- Whether there is a percent sign since the last bracket that closes. -/
  hasPercent : Bool := false
  opened : Bool := false
  closed : Bool := false

/-- There is at most one pair of brackets, and there are at most eight colons in it. -/
def AuthorityScan.read? (s : AuthorityScan) (c : Char) : Option AuthorityScan :=
  if c = ':' then if s.colons < 8 then some { s with colons := s.colons + 1 } else none
  else if c = '[' then if s.hasPercent || s.opened then none else some { s with opened := true }
  else if c = ']' then
    if s.opened && !s.closed then some { s with closed := true, colons := 0, hasPercent := false }
    else none
  else if c = '@' then some { s with colons := 0, hasPercent := false }
  else if c = '%' then some { s with hasPercent := true }
  else if isAuthorityChar c then some s
  else none

/-- Escapes are for users only, and one colon is left for the port. -/
def isAuthority (s : List Char) : Bool :=
  match s.foldlM AuthorityScan.read? {} with
  | some scan =>
    scan.opened == scan.closed && scan.colons ≤ 1 && !scan.hasPercent && !s.isEmpty &&
      s.getLast? != some '@'
  | none => false

/-- The most bytes that the text of a URL may have, and its scheme. -/
def longestUrl : Nat := 65534
def longestScheme : Nat := 64

/-- Whether a message can hold a URL. One without a host passes for a host and port. -/
def isReachable (u : Url) : Bool :=
  u.render.utf8ByteSize ≤ longestUrl &&
    match u.host, u.path with
    | some host, _ =>
      u.scheme.utf8ByteSize ≤ longestScheme &&
        isAuthority (u.renderUser ++ host.render ++ u.renderPort).toList
    | none, .rootless text =>
      u.query.isNone && u.fragment.isNone && !text.toList.contains '/' &&
        isAuthority (u.scheme ++ ":" ++ text).toList
    | none, .segments _ => false

/-- Whether a request for a URL can be made. -/
def isWeb (u : Url) : Bool := (u.scheme == "http" || u.scheme == "https") && isReachable u

/-- The URL as a message holds it: without a fragment, and with a path if it has a host. -/
def messageForm (u : Url) : Url :=
  { u with fragment := none, path := if u.path = .segments [] then .segments [""] else u.path }

end ClusterAccess.Http
