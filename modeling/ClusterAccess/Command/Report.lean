import ClusterAccess.Error

/-!
# Reports of failures

## Main definitions

* `Report`: what went wrong, and the causes of that, each of the next.
* `Report.render`: the text of a report.
-/
namespace ClusterAccess.Command

structure Report where
  message : String
  causes : List String := []
  deriving DecidableEq, Repr

namespace Report

/-- The failure with what lies beneath it. -/
def chain : AccessError → List String
  | .io e => [(AccessError.io e).message, e.message]
  | .serialization fault => [(AccessError.serialization fault).message, fault.message]
  | e => [e.message]

/-- A failure that speaks for itself. -/
def ofError (e : AccessError) : Report :=
  match chain e with
  | message :: causes => ⟨message, causes⟩
  | [] => ⟨e.message, []⟩

/-- What could not be done because of a failure. -/
def because (message : String) (e : AccessError) : Report := ⟨message, chain e⟩

/-- A text of several lines, with blanks in front of all of them but the first. -/
def indented (blanks : Nat) (text : String) : String :=
  (String.ofList ('\n' :: List.replicate blanks ' ')).intercalate (text.splitOn "\n")

/-- A cause alone is indented; several are numbered. -/
def renderCauses : List String → String
  | [] => ""
  | [cause] => "\n\nCaused by:\n    " ++ indented 4 cause
  | causes =>
    let lines := causes.zipIdx.map fun (cause, n) =>
      let number := toString n
      String.ofList (List.replicate (5 - number.length) ' ') ++ number ++ ": " ++ indented 7 cause
    "\n\nCaused by:\n" ++ "\n".intercalate lines

def render (r : Report) : String := "Error: " ++ r.message ++ renderCauses r.causes ++ "\n"

end Report
end ClusterAccess.Command
