/-!
# Replies that take time

## Main definitions

* `Reply`: a value after a delay in milliseconds, or silence for ever.
* `Reply.within`: a reply that is awaited for a limited time.
* `Reply.unlessCancelled`: a reply that a cancellation may come before.
-/
namespace ClusterAccess.Time

inductive Reply (α : Type) where
  | never
  | after (delay : Nat) (value : α)
  deriving DecidableEq, Repr

namespace Reply

def map (f : α → β) : Reply α → Reply β
  | never => .never
  | after delay a => .after delay (f a)

/-- A reply at the very limit is still in time. -/
def within (limit : Nat) (late : α) : Reply α → Reply α
  | never => .after limit late
  | after delay a => if delay ≤ limit then .after delay a else .after limit late

/-- A cancellation that comes together with the reply goes first. -/
def unlessCancelled (cancelIn : Option Nat) (cancelled : α) (r : Reply α) : Reply α :=
  match cancelIn with
  | none => r
  | some n => match r with
    | never => .after n cancelled
    | after delay a => if n ≤ delay then .after n cancelled else .after delay a

end Reply
end ClusterAccess.Time
