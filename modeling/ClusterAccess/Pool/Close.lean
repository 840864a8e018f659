import ClusterAccess.Pool.Connect

/-!
# Closing the pool, and calls that come together

## Main definitions

* `PoolConfig.disconnectAll`: gives connections up one after the other.
* `PoolConfig.close`: gives all connections up and refuses further calls.
* `PoolConfig.connectEach`: calls that come at once are served in their order.
-/
namespace ClusterAccess.PoolConfig

variable (p : PoolConfig σ C)

/-- Gives connections up in turn. All are tried, and the first failure is told; after the
cancellation the rest is dropped without a word. -/
def disconnectAll (cancelAt : Option Nat) (first : Option AccessError) :
    List (ClusterKey × C) → Task σ C Unit
  | [] => fun r => match first with
    | some e => (.failed e, r)
    | none => (.ok (), r)
  | (_, c) :: rest => fun r =>
    match Task.await cancelAt (p.services.askDisconnect c) r with
    | (.ok (), r) => disconnectAll cancelAt first rest (r.note (.disconnected c (.ok ())))
    | (.failed e, r) =>
      disconnectAll cancelAt (first.or (some e)) rest (r.note (.disconnected c (.error e)))
    | (.aborted, r) => (.aborted, r)
    | (.stuck, r) => (.stuck, r)

/-- Closing twice does nothing more. Credentials are kept. -/
def close (cancelAt : Option Nat) (pool : Pool C) :
    Run σ C → Outcome Unit × Pool C × Run σ C := fun r =>
  if pool.isClosed then (.ok (), pool, r)
  else
    let (outcome, r) := p.disconnectAll cancelAt none pool.connections r
    (outcome, { pool with connections := [], isClosed := true }, r)

/-- Calls that come at the same time, each with the time of its cancellation; each waits until the
ones before it are done. -/
def connectEach (calls : List (Option Nat × ClusterKey)) (pool : Pool C) (r : Run σ C) :
    List (Outcome (Credential × C)) × Pool C × Run σ C :=
  match calls with
  | [] => ([], pool, r)
  | (cancelAt, key) :: rest =>
    let (outcome, pool, r) := p.connect cancelAt key pool r
    let (outcomes, pool, r) := connectEach rest pool r
    (outcome :: outcomes, pool, r)

end ClusterAccess.PoolConfig
