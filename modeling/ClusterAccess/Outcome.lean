import ClusterAccess.Error

/-!
# What becomes of a task

## Main definitions

* `Outcome`: a result, a failure, or neither.
* `Outcome.handle`: goes on with a result or a failure.
-/
namespace ClusterAccess

inductive Outcome (α : Type) where
  | ok (value : α)
  | failed (error : AccessError)
  /-- Broken off without an answer. -/
  | aborted
  /-- Waits for ever. -/
  | stuck

namespace Outcome

def ofExcept : Except AccessError α → Outcome α
  | .ok a => .ok a
  | .error e => .failed e

def map (f : α → β) : Outcome α → Outcome β
  | ok a => .ok (f a)
  | failed e => .failed e
  | aborted => .aborted
  | stuck => .stuck

/-- Goes on with a result, good or bad; where there is none, nothing changes that. -/
def handle (next : Except AccessError α → Outcome β) : Outcome α → Outcome β
  | ok a => next (.ok a)
  | failed e => next (.error e)
  | aborted => .aborted
  | stuck => .stuck

end Outcome

end ClusterAccess
