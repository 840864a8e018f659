import ClusterAccess.IoError

/-!
# Files

Files and folders as far as reading and writing settings needs them. A place is given by the names
that lead to it from the root; a path also goes through `.` and `..`, and begins at the working
folder unless it begins with a slash.

## Main definitions

* `Files`: what stands at which place, and the working folder.
* `Files.locate`: the place that a path leads to.
* `Files.read`, `Files.write`, `Files.rename`: the operations on files.
* `withExtension`: a path with another extension.
-/
namespace ClusterAccess.Storage

inductive Entry where
  | file (bytes : List UInt8)
  | folder
  deriving DecidableEq, Repr

structure Files where
  /-- Places with what stands there, in no particular order. -/
  entries : List (List String × Entry) := []
  /-- The working folder. -/
  home : List String := []
  deriving DecidableEq, Repr

/-! ## Paths -/

/-- The longest name of a file, in bytes. -/
def longestName : Nat := 255

/-- The longest path, in bytes. -/
def longestPath : Nat := 4095

/-- The parts of a path between its slashes. -/
def parts (path : String) : List String := (path.toList.splitOn '/').map String.ofList

/-- Whether a path can only mean a folder. -/
def endsInSlash (path : String) : Bool := path.toList.getLast? == some '/'

/-- A path without slashes at its end. -/
def withoutSlashes (path : String) : String :=
  String.ofList (path.toList.reverse.dropWhile (· == '/')).reverse

/-- What is left of a path read backwards after parts that stay where they are. -/
def dropIdle : List Char → List Char
  | '/' :: rest => dropIdle rest
  | '.' :: '/' :: rest => dropIdle rest
  | path => path

/-- A file name cut before its last point; a point in front belongs to the name. -/
def stem (name : List Char) : List Char :=
  let cut := (name.reverse.dropWhile (· != '.')).drop 1
  if cut.isEmpty then name else cut.reverse

/-- The path with `extension` in place of the part of its last name after the point. A path that
ends in no name stays as it is. -/
def withExtension (path extension : String) : String :=
  let bare := (dropIdle path.toList.reverse).reverse
  let name := (bare.reverse.takeWhile (· != '/')).reverse
  if name.isEmpty || name == ['.'] || name == ['.', '.'] then path
  else
    let folder := bare.take (bare.length - name.length)
    String.ofList (folder ++ stem name ++ '.' :: extension.toList)

namespace Files

/-! ## Places -/

/-- What stands at a place, if there is anything. -/
def entry? (f : Files) : List String → Option Entry
  | [] => some .folder
  | place => f.entries.lookup place

/-- Goes on from a place by one part of a path. Only a folder leads on. -/
def step (f : Files) (place : List String) (part : String) : Except IoError (List String) :=
  match f.entry? place with
  | none => .error .noSuchFile
  | some (.file _) => .error .notFolder
  | some .folder =>
    if part.isEmpty || part == "." then .ok place
    else if part == ".." then .ok place.dropLast
    else if longestName < part.utf8ByteSize then .error .nameTooLong
    else .ok (place ++ [part])

/-- The place that a path leads to; there need not be anything yet. -/
def locate (f : Files) (path : String) : Except IoError (List String) :=
  if path.toList.contains '\x00' then .error .nulInName
  else if path.isEmpty then .error .noSuchFile
  else if longestPath < path.utf8ByteSize then .error .nameTooLong
  else (parts path).foldlM f.step (if path.startsWith "/" then [] else f.home)

/-- What a path leads to; a path that leads nowhere leads to nothing. -/
def find? (f : Files) (path : String) : Option Entry :=
  match f.locate path with
  | .ok place => f.entry? place
  | .error _ => none

def put (f : Files) (place : List String) (e : Entry) : Files :=
  { f with entries := (place, e) :: f.entries.filter (·.1 != place) }

def erase (f : Files) (place : List String) : Files :=
  { f with entries := f.entries.filter (·.1 != place) }

/-! ## Operations -/

def read (f : Files) (path : String) : Except IoError (List UInt8) :=
  match f.locate path with
  | .error e => .error e
  | .ok place => match f.entry? place with
    | some (.file bytes) => .ok bytes
    | some .folder => .error .directory
    | none => .error .noSuchFile

def write (f : Files) (path : String) (bytes : List UInt8) : Except IoError Files :=
  match f.locate path with
  | .error e => .error e
  | .ok place => match f.entry? place with
    | some .folder => .error .directory
    | _ => .ok (f.put place (.file bytes))

/-- Moves a file over whatever file the new path means. The new path has to end in a name. -/
def rename (f : Files) (source target : String) : Except IoError Files := do
  let old ← f.locate source
  let name := withoutSlashes target
  let new ← f.locate name
  match f.entry? old with
  | some (.file bytes) =>
    if (parts name).getLast?.any fun last => last == "." || last == ".." then .error .busy
    else if endsInSlash target then .error .notFolder
    else if f.entry? new = some .folder then .error .directory
    else .ok ((f.erase old).put new (.file bytes))
  | _ => .error .noSuchFile

end Files
end ClusterAccess.Storage
