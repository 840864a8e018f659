import ClusterAccess.Url.Basic
import ClusterAccess.Url.Escape

/-!
# Paths of URLs

A path is made of segments. The names for the same and for the outer directory are followed when a
path is read. Drive letters such as `C:` are roots of their own, which no path leaves.

## Main definitions

* `addSegments`: a path with segments added.
* `parseSegments`: the segments of a path, after its first slash.
* `fileSegments`: the same for the paths of files, in which a drive letter ends in a colon.
-/
namespace ClusterAccess.Url

/-- The names for the same and for the outer directory, with points plain or escaped. -/
def isSingleDot (s : String) : Bool := s == "." || s.toLower == "%2e"

def isDoubleDot (s : String) : Bool :=
  let s := s.toLower
  s == ".." || s == "%2e%2e" || s == "%2e." || s == ".%2e"

def isLetter (c : Char) : Bool := ('A' ≤ c && c ≤ 'Z') || ('a' ≤ c && c ≤ 'z')

/-- A letter with a colon or a bar. -/
def isDrive (segment : String) : Bool :=
  match segment.toList with
  | [c, mark] => isLetter c && (mark == ':' || mark == '|')
  | _ => false

/-- Whether the outer directory of a segment is that segment. A backslash may follow a drive. -/
def isRoot (segment : String) : Bool :=
  match segment.toList with
  | c :: mark :: rest => isLetter c && (mark == ':' || mark == '|') && rest.head?.all (· == '\\')
  | _ => false

/-- The segments of the outer directory. -/
def outer (items : List String) : List String :=
  if items.getLast?.any isRoot then items else items.dropLast

/-- Adds a segment to a path. A name for a directory is followed, and leaves an empty segment if it
is the last one. -/
def addSegment (items : List String) (segment : String) (isLast : Bool) : List String :=
  if isDoubleDot segment then outer items ++ (if isLast then [""] else [])
  else if isSingleDot segment then items ++ (if isLast then [""] else [])
  else items ++ [segment]

def addSegments (items : List String) : List String → List String
  | [] => items
  | [last] => addSegment items last true
  | s :: rest => addSegments (addSegment items s false) rest

/-- The segments as they are written. In a special URL a backslash is a slash too. -/
def writtenSegments (special : Bool) (s : List Char) : List String :=
  let s := if special then s.map fun c => if c = '\\' then '/' else c else s
  (s.splitOn '/').map (encoded keepsPath)

/-- The segments of a path, after its first slash. -/
def parseSegments (special : Bool) (s : List Char) : List String :=
  addSegments [] (writtenSegments special s)

/-- The path of a URL with a host; that of a special one is never empty. -/
def parsePath (special : Bool) (s : List Char) : Path :=
  match s with
  | [] => .segments (if special then [""] else [])
  | c :: rest =>
    if c = '/' || (special && c = '\\') then .segments (parseSegments special rest)
    else .segments (parseSegments special s)

/-! ## Paths of files -/

/-- The drive with a colon. -/
def plainDrive (segment : String) : String := String.ofList (segment.toList.take 1 ++ [':'])

/-- A path that is a drive only has that with a colon. -/
def plainRoot (items : List String) : List String :=
  match items with
  | [drive] => if isDrive drive then [plainDrive drive] else [drive]
  | _ => items

def addFileSegments (items : List String) : List String → List String
  | [] => items
  | [last] => plainRoot (addSegment items last true)
  | s :: rest => addFileSegments (plainRoot (addSegment items s false)) rest

/-- The segments of the path of a file, after its first slash. -/
def fileSegments (s : List Char) : List String := addFileSegments [] (writtenSegments true s)

/-- Whether a path begins with a drive. Then it needs no host. -/
def hasDrive (items : List String) : Bool := items.head?.any isDrive

/-- A path without empty segments at its start. -/
def withoutEmptyStart (items : List String) : List String :=
  match items.dropWhile (·.isEmpty) with
  | [] => [""]
  | kept => kept

end ClusterAccess.Url
