import ClusterAccess.Url.Path

/-!
# Changing URLs

## Main definitions

* `withCredentials?`: replaces the user part.
* `pushSegments?`: adds segments to a path.
* `appendQuery`: adds pairs to a query.
-/
namespace ClusterAccess.Url

/-- Whether a user part can stand in the URL. -/
def canHaveUser (u : Url) : Bool :=
  match u.host with
  | none => false
  | some (.domain "") => false
  | some _ => u.scheme != "file"

/-- The URL with another user and password. -/
def withCredentials? (u : Url) (username password : String) : Option Url :=
  if u.canHaveUser then
    some { u with username := encoded keepsUser username.toList,
                  password := if password.isEmpty then none
                    else some (encoded keepsUser password.toList) }
  else none

/-- The segments without an empty one at the end, unless it is the only one. -/
def dropEmptyLast (items : List String) : List String :=
  if 1 < items.length && items.getLast? == some "" then items.dropLast else items

/-- Adds one segment, in which everything but blanks that URLs drop is taken literally. The names
of the same and the outer directory are left out. -/
def pushSegment (special : Bool) (items : List String) (segment : String) : List String :=
  if segment == "." || segment == ".." then items
  else
    let items := if items = [""] then [] else items
    let kept := segment.toList.filter fun c => !isDropped c
    addSegment items (encoded (keepsSegment special) kept) true

/-- The URL with segments added to its path, if it has segments. -/
def pushSegments? (u : Url) (segments : List String) : Option Url :=
  match u.path with
  | .rootless _ => none
  | .segments items =>
    let items := segments.foldl (pushSegment (isSpecial u.scheme)) (dropEmptyLast items)
    some { u with path := .segments items }

/-- The URL with more in its query, which must be written out already. -/
def appendQuery (u : Url) (more : String) : Url :=
  { u with query := some (match u.query with
    | none => more
    | some q => if q.isEmpty then more else q ++ "&" ++ more) }

end ClusterAccess.Url
