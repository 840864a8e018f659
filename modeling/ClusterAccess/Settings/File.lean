import ClusterAccess.Settings.Basic
import ClusterAccess.Storage

/-!
# The settings file

## Main definitions

* `Settings.parse`: settings from the bytes of a file.
* `Settings.load`: settings from a file; without a file all have their usual values.
* `Settings.save`: writes a file in one stroke.
-/
namespace ClusterAccess.Settings

open Storage

def parse (bytes : List UInt8) : Except AccessError Settings :=
  match Text.decode? bytes with
  | none => .error (.io .notText)
  | some content => match Json.read reader (String.ofList content) with
    | .ok s => .ok s
    | .error fault => .error (.serialization fault)

/-- Nothing is validated here, since the proxy's password comes from elsewhere. -/
def load (f : Files) (path : String) : Except AccessError Settings :=
  match f.find? path with
  | none => .ok {}
  | some (.file bytes) => parse bytes
  | some .folder => .error (.io .directory)

/-- The text of a settings file. -/
def fileText (s : Settings) : String := s.toJson.pretty

/-- Writes a file beside the old one and puts it in the old one's place, so that no reader ever
sees a part of it. What was written beside stays there if it cannot be put in place. -/
def save (s : Settings) (f : Files) (path : String) : Except IoError Unit × Files :=
  let draft := withExtension path "tmp"
  match f.write draft (Text.utf8Bytes s.fileText) with
  | .error e => (.error e, f)
  | .ok f => match f.rename draft path with
    | .error e => (.error e, f)
    | .ok f => (.ok (), f)

end ClusterAccess.Settings
