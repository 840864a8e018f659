import ClusterAccess.Probe.Tcp

/-!
# Connections that are shared

Whoever connects gets a handle to the probe, and may copy it. All copies lead to the same probe, so
that what is done through one of them is seen through all.

## Main definitions

* `Connections`: probes, and the handles that lead to them.
* `Act`: what can be done with them.
* `Connections.step`: what comes of an act.
-/
namespace ClusterAccess.Probe

open Time

variable {σ D : Type}

/-- Probes, each with the dialer that it was given. -/
structure Connections (D : Type) where
  probes : List (TcpProbe × Option D) := []
  /-- For each handle the place of the probe that it leads to. -/
  handles : List Nat := []
  sound : ∀ place ∈ handles, place < probes.length :=
    by exact fun _ mem => absurd mem List.not_mem_nil

/-- What can be done. New handles are numbered in order. -/
inductive Act (D : Type) where
  | connect (target : Target) (dialer : Option D) (options : ConnectOptions)
  | copy (handle : Nat)
  | ping (handle : Nat)
  | disconnect (handle : Nat)

/-- What was done. -/
inductive Deed where
  | connected
  | copied
  | answered
  | closed
  deriving DecidableEq

namespace Connections

/-- The probe that a handle leads to, with its dialer. -/
def probe? (c : Connections D) (handle : Nat) : Option (TcpProbe × Option D) :=
  c.handles[handle]?.bind fun place => c.probes[place]?

/-- A handle to a new probe. -/
def add (c : Connections D) (probe : TcpProbe × Option D) : Connections D where
  probes := c.probes ++ [probe]
  handles := c.handles ++ [c.probes.length]
  sound place mem := by
    rw [List.length_append, List.length_singleton]
    rcases List.mem_append.mp mem with old | new
    · exact Nat.lt_succ_of_lt (c.sound place old)
    · rw [List.mem_singleton.mp new]
      exact Nat.lt_succ_self _

/-- One more handle to what a handle leads to. -/
def copy (c : Connections D) (handle : Nat) : Connections D where
  probes := c.probes
  handles := c.handles ++ c.handles[handle]?.toList
  sound place mem := by
    rcases List.mem_append.mp mem with old | new
    · exact c.sound place old
    · exact c.sound place (List.mem_of_getElem? (Option.mem_toList.mp new))

/-- Changes the probe that a handle leads to. -/
def update (c : Connections D) (handle : Nat) (f : TcpProbe → TcpProbe) : Connections D where
  probes := c.probes.mapIdx fun place (probe, dialer) =>
    (if c.handles[handle]? = some place then f probe else probe, dialer)
  handles := c.handles
  sound place mem := by
    rw [List.length_mapIdx]
    exact c.sound place mem

/-- What comes of an act, if the handle that it is done with is there. -/
def step (network : Option D → Network σ) (c : Connections D) (act : Act D) (world : σ) :
    Option (Reply (Except AccessError Deed) × Connections D × σ) :=
  match act with
  | .connect target dialer options =>
    let (reply, world) :=
      TcpProbe.connect (network dialer) target dialer.isSome options world
    some (reply.map fun result => result.map fun _ => .connected, match reply with
      | .after _ (.ok probe) => c.add (probe, dialer)
      | _ => c, world)
  | .copy handle => (c.probe? handle).map fun _ => (.after 0 (.ok .copied), c.copy handle, world)
  | .ping handle => (c.probe? handle).map fun (probe, dialer) =>
    let (reply, world) := probe.reach (network dialer) world
    (reply.map fun result => result.map fun _ => .answered, match reply with
      | .after _ (.ok seed) => c.update handle fun probe => probe.keep seed
      | _ => c, world)
  | .disconnect handle => (c.probe? handle).map fun _ =>
    (.after 0 (.ok .closed), c.update handle TcpProbe.disconnect, world)

end Connections
end ClusterAccess.Probe
