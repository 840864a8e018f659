import ClusterAccess.Time.Duration

/-!
# Waiting between attempts

## Main definitions

* `RetryDelay`: a wait before the first attempt and one after each failed attempt.
* `waitCancellable`: how long a wait lasts that a cancellation may cut short.
* `RetryDelay.wait`: the wait before or after a given attempt.
-/
namespace ClusterAccess

open Time

structure RetryDelay where
  warmUp : Duration
  retry : Duration
  /-- Whether a cancellation cuts a wait short. -/
  cancellable : Bool := false
  deriving DecidableEq, Repr

/-- Waits until `delay` is over or, if earlier, the cancellation comes; `none` if it never does. The
result tells whether the wait was cut short, and how long it took. -/
def waitCancellable (delay : Nat) (cancelIn : Option Nat) : Bool × Nat :=
  match cancelIn with
  | some n => if n ≤ delay then (true, n) else (false, delay)
  | none => (false, delay)

namespace RetryDelay

/-- Attempt 0 stands for the time before the first one. -/
def delay (r : RetryDelay) (attempt : Nat) : Duration :=
  if attempt = 0 then r.warmUp else r.retry

/-- Whether the wait was cancelled, and its length in milliseconds. A wait of no length is over
before it can be cancelled. -/
def wait (r : RetryDelay) (attempt : Nat) (cancelIn : Option Nat) : Bool × Nat :=
  let delay := (r.delay attempt).milliseconds
  if delay = 0 then (false, 0)
  else if r.cancellable then waitCancellable delay cancelIn
  else (false, delay)

end RetryDelay
end ClusterAccess
