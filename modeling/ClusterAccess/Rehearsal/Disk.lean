import ClusterAccess.Storage

/-!
# A disk to rehearse on

## Main definitions

* `Rehearsal.disk`: a disk with the usual folders, on which the working folder holds some entries.
* `Rehearsal.inWorkingFolder`: what the working folder holds.
-/
namespace ClusterAccess.Rehearsal

open Storage

/-- Folders that are usually found in the root. -/
def usualFolders : List String := [
  "bin", "boot", "dev", "etc", "home", "lib", "lib64", "media", "mnt", "opt", "proc", "root", "run",
  "sbin", "srv", "sys", "tmp", "usr", "var"]

/-- The folder that a rehearsed command works in. -/
def workingFolder : List String := ["tmp", "work"]

/-- Files of the system: an empty device, and texts that hold no settings. -/
def usualFiles : List (List String × Entry) := [
  (["dev", "null"], .file []), (["etc", "passwd"], .file [0x72]), (["etc", "hosts"], .file [0x23])]

def disk (entries : List (String × Entry)) : Files where
  entries := entries.map (fun (name, e) => (workingFolder ++ [name], e)) ++
    (workingFolder, .folder) :: usualFolders.map (fun name => ([name], .folder)) ++ usualFiles
  home := workingFolder

/-- Names with their entries, as far as they stand in the working folder itself. -/
def inWorkingFolder (f : Files) : List (String × Entry) :=
  f.entries.filterMap fun (place, e) => match place.reverse with
    | name :: above => if above.reverse == workingFolder then some (name, e) else none
    | [] => none

end ClusterAccess.Rehearsal
