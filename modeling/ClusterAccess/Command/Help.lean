import ClusterAccess.Command.Flag

/-!
# What the command tells of itself

The short help puts what is told of a flag on one line, the long one on as many as it takes.

## Main definitions

* `Help.lines`: the lines of the help.
* `versionLine`: the name of the command, and its version.
-/
namespace ClusterAccess.Command

/-- The name of the command. -/
def commandName : String := "atlas-broker-probe"

/-- The name of the command, and its version. -/
def versionLine : String := commandName ++ " 0.1.0"

namespace Help

def blanks (n : Nat) : String := String.ofList (List.replicate n ' ')

/-- How a flag is given. -/
def heading (f : Flag) : String :=
  blanks 6 ++ "--" ++ f.name ++ if f.takesValue then " <" ++ f.valueName ++ ">" else ""

/-- Particulars of a flag: the variable that stands in for it, with the value it has now, the value
that the flag has when none is given, and in the short help its choices. -/
def particulars (isLong : Bool) (environment : List (String × String)) (f : Flag) :
    List String :=
  let standIn := f.standIn.toList.map fun name =>
    "[env: " ++ name ++
      (if f.isSecret then "" else "=" ++ (environment.lookup name).getD "") ++ "]"
  let usual := f.usual.toList.map fun value => "[default: " ++ value ++ "]"
  let choices :=
    if isLong || f.choices.isEmpty then []
    else ["[possible values: " ++ ", ".intercalate (f.choices.map (·.1)) ++ "]"]
  standIn ++ usual ++ choices

/-- A text moved to the right. -/
def indented (text : String) : List String := (text.splitOn "\n").map (blanks 10 ++ ·)

/-- The choices of a flag, a line each, with what they mean in one column. -/
def choiceLines (f : Flag) : List String :=
  if f.choices.isEmpty then []
  else
    let width := (f.choices.map (·.1.length)).foldl max 0
    ["", blanks 10 ++ "Possible values:"] ++ f.choices.map fun (name, meaning) =>
      blanks 10 ++ "- " ++ name ++ ": " ++ blanks (width - name.length) ++ meaning

/-- What is told of a flag. -/
def entry (isLong : Bool) (environment : List (String × String)) (f : Flag) : List String :=
  let told := particulars isLong environment f
  let text :=
    if told.isEmpty then f.use
    else if isLong then f.use ++ "\n\n" ++ "\n".intercalate told
    else f.use ++ " " ++ " ".intercalate told
  heading f :: indented text ++ if isLong then choiceLines f else []

/-- What is told of the two flags that every command has. -/
def usualEntries (isLong : Bool) : List (List String) :=
  let other := if isLong then "(see a summary with '-h')" else "(see more with '--help')"
  [["  -h, --help", blanks 10 ++ "Print help " ++ other],
    ["  -V, --version", blanks 10 ++ "Print version"]]

/-- The lines of the help. -/
def lines (isLong : Bool) (environment : List (String × String)) : List String :=
  let entries := flags.map (entry isLong environment) ++ usualEntries isLong
  ["Provision a short-lived Atlas database account and verify a cluster is reachable", "",
    "Usage: " ++ commandName ++ " [OPTIONS]", "", "Options:"] ++
  (if isLong then [""] else []).intercalate entries

end Help
end ClusterAccess.Command
