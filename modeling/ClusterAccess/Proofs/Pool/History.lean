import ClusterAccess.Proofs.Pool.Drain
import ClusterAccess.Rehearsal.Services
import Mathlib.Logic.Relation

/-!
# Histories of a pool

A pool is used in steps: calls, groups of calls that come together, closing, and time that passes in
between. A step counts once it is finished. The order in which a pool is drained is left open, so
closing may take the connections in any order.

## Main definitions

* `PoolState`: a pool within a run.
* `PoolConfig.Step`, `PoolConfig.Steps`: one finished step, and any number of them.
* `PoolConfig.Reachable`: what a new pool can come to.
* `Rehearsal.pool`, `smoothRehearsal`, `shakyRehearsal`, `lostRehearsal`: pools to try histories on.

## Main statements

* `PoolConfig.Step.preserves`, `PoolConfig.Steps.preserves`: what calls, closing and waiting keep
  holds after all steps.
* `Connected.of_closed`: a closed pool answers calls without doing anything.
-/
namespace ClusterAccess

variable {σ C : Type}

structure PoolState (σ C : Type) where
  pool : Pool C
  run : Run σ C

/-- A new pool in a world. -/
def PoolState.start (world : σ) : PoolState σ C := ⟨{}, { world }⟩

namespace PoolConfig

variable (p : PoolConfig σ C)

/-- A step that is finished, with tokens that may fire at any time or never. -/
inductive Step : PoolState σ C → PoolState σ C → Prop
  | connect {cancelAt : Option Nat} {key : ClusterKey} {pool pool' : Pool C} {r r' : Run σ C}
      {o : Outcome (Credential × C)} (call : p.connect cancelAt key pool r = (o, pool', r'))
      (finished : o ≠ .stuck) : Step ⟨pool, r⟩ ⟨pool', r'⟩
  | together {calls : List (Option Nat × ClusterKey)} {pool pool' : Pool C} {r r' : Run σ C}
      {os : List (Outcome (Credential × C))} (group : p.connectEach calls pool r = (os, pool', r'))
      (finished : .stuck ∉ os) : Step ⟨pool, r⟩ ⟨pool', r'⟩
  | close {cancelAt : Option Nat} {order : List (ClusterKey × C)} {pool pool' : Pool C}
      {r r' : Run σ C} {o : Outcome Unit} (perm : order.Perm pool.connections)
      (close : p.close cancelAt { pool with connections := order } r = (o, pool', r'))
      (finished : o ≠ .stuck) : Step ⟨pool, r⟩ ⟨pool', r'⟩
  | sleep (milliseconds : Nat) (pool : Pool C) (r : Run σ C) :
      Step ⟨pool, r⟩ ⟨pool, (Task.sleep milliseconds r).2⟩

def Steps : PoolState σ C → PoolState σ C → Prop := Relation.ReflTransGen p.Step

def Reachable (s : PoolState σ C) : Prop := ∃ world, p.Steps (.start world) s

variable {p} {s s' s'' : PoolState σ C}

theorem Steps.refl (s : PoolState σ C) : p.Steps s s := Relation.ReflTransGen.refl

theorem Steps.trans (h : p.Steps s s') (h' : p.Steps s' s'') : p.Steps s s'' :=
  Relation.ReflTransGen.trans h h'

theorem Step.steps (h : p.Step s s') : p.Steps s s' := Relation.ReflTransGen.single h

/-- The state after a call. -/
def afterConnect (p : PoolConfig σ C) (cancelAt : Option Nat) (key : ClusterKey)
    (s : PoolState σ C) : PoolState σ C :=
  ⟨(p.connect cancelAt key s.pool s.run).2.1, (p.connect cancelAt key s.pool s.run).2.2⟩

theorem Step.afterConnect {cancelAt : Option Nat} {key : ClusterKey}
    (finished : (p.connect cancelAt key s.pool s.run).1 ≠ .stuck) :
    p.Step s (p.afterConnect cancelAt key s) := .connect rfl finished

theorem connectEach_cons {cancelAt : Option Nat} {key : ClusterKey}
    {rest : List (Option Nat × ClusterKey)} {pool pool' : Pool C} {r r' : Run σ C}
    {os : List (Outcome (Credential × C))}
    (h : p.connectEach ((cancelAt, key) :: rest) pool r = (os, pool', r')) :
    ∃ o pool₁ r₁ os₁, p.connect cancelAt key pool r = (o, pool₁, r₁) ∧
      p.connectEach rest pool₁ r₁ = (os₁, pool', r') ∧ os = o :: os₁ := by
  rcases hc : p.connect cancelAt key pool r with ⟨o, pool₁, r₁⟩
  rcases hr : p.connectEach rest pool₁ r₁ with ⟨os₁, pool₂, r₂⟩
  simp only [connectEach, hc, hr, Prod.mk.injEq] at h
  obtain ⟨rfl, rfl, rfl⟩ := h
  exact ⟨o, pool₁, r₁, os₁, rfl, hr, rfl⟩

/-- A group of calls is served call by call. -/
theorem connectEach_steps {calls : List (Option Nat × ClusterKey)} {pool pool' : Pool C}
    {r r' : Run σ C} {os : List (Outcome (Credential × C))} {Q : PoolState σ C → Prop}
    (call : ∀ {cancelAt key pool pool' r r' o}, Q ⟨pool, r⟩ →
      Connected p cancelAt key pool r o pool' r' → o ≠ .stuck → Q ⟨pool', r'⟩)
    (h : p.connectEach calls pool r = (os, pool', r')) (finished : .stuck ∉ os)
    (start : Q ⟨pool, r⟩) : Q ⟨pool', r'⟩ := by
  induction calls generalizing pool r os with
  | nil =>
    simp only [connectEach, Prod.mk.injEq] at h
    obtain ⟨-, rfl, rfl⟩ := h
    exact start
  | cons first rest ih =>
    obtain ⟨o, pool₁, r₁, os₁, hc, hr, rfl⟩ := connectEach_cons h
    simp only [List.mem_cons, not_or] at finished
    exact ih hr finished.2 (call start (p.connect_connected hc) (Ne.symm finished.1))

/-- A closing pool is emptied in some order; a closed one stays as it is. -/
theorem close_cases {cancelAt : Option Nat} {pool pool' : Pool C} {r r' : Run σ C}
    {o : Outcome Unit} (h : p.close cancelAt pool r = (o, pool', r')) :
    (pool.isClosed = true ∧ o = .ok () ∧ pool' = pool ∧ r' = r) ∨
      (pool.isClosed = false ∧ Drained p cancelAt none pool.connections r o r' ∧
        pool' = { pool with connections := [], isClosed := true }) := by
  unfold close at h
  cases hc : pool.isClosed <;> simp only [hc, if_true, if_false, Bool.false_eq_true] at h
  · rcases hd : p.disconnectAll cancelAt none pool.connections r with ⟨o₁, r₁⟩
    simp only [hd, Prod.mk.injEq] at h
    obtain ⟨rfl, rfl, rfl⟩ := h
    exact .inr ⟨rfl, disconnectAll_drained hd, rfl⟩
  · simp only [Prod.mk.injEq] at h
    obtain ⟨rfl, rfl, rfl⟩ := h
    exact .inl ⟨rfl, rfl, rfl, rfl⟩

/-- Whatever calls, closing and the passing of time keep, every step keeps. -/
theorem Step.preserves {Q : PoolState σ C → Prop}
    (call : ∀ {cancelAt key pool pool' r r' o}, Q ⟨pool, r⟩ →
      Connected p cancelAt key pool r o pool' r' → o ≠ .stuck → Q ⟨pool', r'⟩)
    (close : ∀ {cancelAt order pool pool' r r' o}, Q ⟨pool, r⟩ → order.Perm pool.connections →
      p.close cancelAt { pool with connections := order } r = (o, pool', r') → o ≠ .stuck →
      Q ⟨pool', r'⟩)
    (sleep : ∀ {pool r d}, Q ⟨pool, r⟩ → Q ⟨pool, r.atTime (r.now + d)⟩) (h : p.Step s s')
    (start : Q s) : Q s' := by
  cases h with
  | connect h finished => exact call start (p.connect_connected h) finished
  | together h finished => exact connectEach_steps call h finished start
  | close perm h finished => exact close start perm h finished
  | sleep => exact sleep start

/-- Whatever calls, closing and the passing of time keep, every history keeps. -/
theorem Steps.preserves {Q : PoolState σ C → Prop}
    (call : ∀ {cancelAt key pool pool' r r' o}, Q ⟨pool, r⟩ →
      Connected p cancelAt key pool r o pool' r' → o ≠ .stuck → Q ⟨pool', r'⟩)
    (close : ∀ {cancelAt order pool pool' r r' o}, Q ⟨pool, r⟩ → order.Perm pool.connections →
      p.close cancelAt { pool with connections := order } r = (o, pool', r') → o ≠ .stuck →
      Q ⟨pool', r'⟩)
    (sleep : ∀ {pool r d}, Q ⟨pool, r⟩ → Q ⟨pool, r.atTime (r.now + d)⟩) (h : p.Steps s s')
    (start : Q s) : Q s' := by
  induction h with
  | refl => exact start
  | tail _ step ih => exact step.preserves call close sleep ih

end PoolConfig

/-- A pool over services that follow a script, with the usual settings and no waits. -/
def Rehearsal.pool (r : Rehearsal) : PoolConfig Stage Nat :=
  ⟨r.services, {}, { warmUp := .ofMilliseconds 0, retry := .ofMilliseconds 0 }⟩

/-- Everything succeeds at once. -/
def smoothRehearsal : Rehearsal where
  passwords := .fixed (.ofString "correct horse")
  identifiers n := toString n
  clock := ⟨0, 0⟩

/-- The first connection fails its test. -/
def shakyRehearsal : Rehearsal :=
  { smoothRehearsal with pings := ⟨[("1", { error := some (.driver "no route") })]⟩ }

/-- The control plane refuses the first look-up. -/
def lostRehearsal : Rehearsal :=
  { smoothRehearsal with lookups := ⟨[("1", { error := some (.unsupported "look-up") })]⟩ }

/-- A closed pool refuses a call and does nothing. -/
theorem Connected.of_closed {p : PoolConfig σ C} {cancelAt : Option Nat} {key : ClusterKey}
    {pool pool' : Pool C} {r r' : Run σ C} {o : Outcome (Credential × C)}
    (h : Connected p cancelAt key pool r o pool' r') (isClosed : pool.isClosed = true) :
    o = .failed .closed ∧ pool' = pool ∧ r' = r := by
  cases h with
  | closed => exact ⟨rfl, rfl, rfl⟩
  | misconfigured isOpen => simp [isClosed] at isOpen
  | unprovisioned isOpen => simp [isClosed] at isOpen
  | hit isOpen => simp [isClosed] at isOpen
  | opened isOpen => simp [isClosed] at isOpen
  | unopened isOpen => simp [isClosed] at isOpen

end ClusterAccess
