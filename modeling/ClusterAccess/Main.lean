import ClusterAccess.Command.Probe

/-!
# The command line

The command as a program. It has no network of its own, so that every server is out of reach; it
checks what it is asked for, and reads and writes settings in the working folder.

## Main definitions

* `offline`: a world without servers.
* `main`: the program.
-/
namespace ClusterAccess.Command

/-- A world in which nothing can be reached. The state is what is left of the random bytes. -/
def offline (now : Nat) : Surroundings Entropy where
  web := { answer := fun _ _ w => (.unreachable, w), clock := fun w => (now, w),
           nonce := fun w => ("", w) }
  network _ := { dial := fun _ _ w => (.after 0 (.error .refused), w) }
  isListening _ := false
  password policy w := policy.generate w
  identifier length w := Password.identifier length w
  clock _ := ⟨0, 0⟩

/-- The variables of the environment that the command looks at. -/
def environment : IO (List (String × String)) := do
  let mut found := []
  for name in flags.filterMap (·.standIn) do
    if let some value ← IO.getEnv name then
      found := (name, value) :: found
  return found

/-- The working folder, as far as the settings file is concerned. -/
def workingFolder (path : String) : IO Storage.Files := do
  match Storage.Files.locate {} path with
  | .ok [name] =>
    try
      return { entries := [([name], .file (← IO.FS.readBinFile name).toList)] }
    catch _ => return {}
  | _ => return {}

def settingsPath (request : Option Request) : String :=
  match request with
  | some (.probe a) => a.settingsFile
  | _ => ({} : Arguments).settingsFile

end ClusterAccess.Command

open ClusterAccess ClusterAccess.Command in
def main (args : List String) : IO UInt32 := do
  let env ← environment
  let before ← workingFolder (settingsPath (Request.parse? env args))
  let entropy := (← IO.getRandomBytes 65536).toList
  let ending := run (offline (← IO.monoNanosNow)) env args before { world := Hash.cut 64 entropy }
  for (place, entry) in ending.files.entries do
    if let ([name], .file bytes) := (place, entry) then
      if before.entries.lookup place != some entry then
        IO.FS.writeBinFile name ⟨bytes.toArray⟩
  for line in ending.output do
    IO.println line
  if let some report := ending.report then
    IO.eprint report.render
  return UInt32.ofNat ending.status
