import ClusterAccess.Proofs.Pool.History
import Mathlib.Data.List.Sort

/-!
# Playing instructions on a pool

A history as a program: a list of instructions is played on a pool, and each of them leaves a
receipt of all that can be seen from outside.

## Main definitions

* `Instruction`: one thing to do with a pool.
* `Answer`, `Receipt`: what an instruction answers, and what else is seen of it.
* `PoolConfig.perform`, `PoolConfig.play`: one instruction, and a list of them.

## Main statements

* `PoolConfig.perform_step`: an instruction that comes to an end is a step.
* `PoolConfig.play_steps`: so what is played without getting stuck is a history.
-/
namespace ClusterAccess

variable {σ C : Type}

inductive Instruction where
  | connect (cancelAt : Option Nat) (key : ClusterKey)
  /-- Calls that come together. -/
  | together (calls : List (Option Nat × ClusterKey))
  /-- Connections are given up by rank; the ranks stand for the order in which the pool happens to
  be drained. -/
  | close (cancelAt : Option Nat) (rank : ClusterKey → Nat)
  | sleep (milliseconds : Nat)

inductive Answer (C : Type) where
  | connected (outcomes : List (Outcome (Credential × C)))
  | closed (outcome : Outcome Unit)
  | slept

def Outcome.isStuck : Outcome α → Bool
  | stuck => true
  | _ => false

@[simp] theorem Outcome.isStuck_iff {o : Outcome α} : o.isStuck = true ↔ o = .stuck := by
  cases o <;> simp [isStuck]

/-- Whether the answer never comes. -/
def Answer.isStuck : Answer C → Bool
  | connected outcomes => outcomes.any (·.isStuck)
  | closed outcome => outcome.isStuck
  | slept => false

/-- What is seen of an instruction. -/
structure Receipt (C : Type) where
  answer : Answer C
  /-- How long it took, in milliseconds. -/
  elapsed : Nat
  /-- How many connections are kept afterwards. -/
  size : Nat
  /-- The calls that were begun, each with its time. -/
  calls : List (Nat × Call C)

/-- The pool with its connections in the order in which they are given up. -/
def Pool.ranked (rank : ClusterKey → Nat) (pool : Pool C) : Pool C :=
  { pool with connections := pool.connections.insertionSort fun x y => rank x.1 ≤ rank y.1 }

namespace PoolConfig

variable (p : PoolConfig σ C)

def perform : Instruction → PoolState σ C → Answer C × PoolState σ C
  | .connect cancelAt key, s =>
    let (outcome, pool, run) := p.connect cancelAt key s.pool s.run
    (.connected [outcome], ⟨pool, run⟩)
  | .together calls, s =>
    let (outcomes, pool, run) := p.connectEach calls s.pool s.run
    (.connected outcomes, ⟨pool, run⟩)
  | .close cancelAt rank, s =>
    let (outcome, pool, run) := p.close cancelAt (s.pool.ranked rank) s.run
    (.closed outcome, ⟨pool, run⟩)
  | .sleep milliseconds, s => (.slept, ⟨s.pool, (Task.sleep milliseconds s.run).2⟩)

/-- The receipt for an answer, when it led from `s` to `s'`. -/
def receipt (answer : Answer C) (s s' : PoolState σ C) : Receipt C :=
  ⟨answer, s'.run.now - s.run.now, s'.pool.size, s'.run.calls.drop s.run.calls.length⟩

/-- Plays instructions, up to one that is never answered. -/
def play : List Instruction → PoolState σ C → List (Receipt C) × PoolState σ C
  | [], s => ([], s)
  | i :: rest, s =>
    let (answer, s') := p.perform i s
    let receipt := receipt answer s s'
    if answer.isStuck then ([receipt], s')
    else
      let (receipts, s'') := play rest s'
      (receipt :: receipts, s'')

variable {p} {s s' : PoolState σ C}

/-- An instruction that comes to an end is a step. -/
theorem perform_step {i : Instruction} {answer : Answer C} (h : p.perform i s = (answer, s'))
    (finished : answer.isStuck = false) : p.Step s s' := by
  cases i with
  | connect cancelAt key =>
    rcases call : p.connect cancelAt key s.pool s.run with ⟨o, pool, run⟩
    simp only [perform, call, Prod.mk.injEq] at h
    obtain ⟨rfl, rfl⟩ := h
    exact .connect call (by rintro rfl; simp [Answer.isStuck, Outcome.isStuck] at finished)
  | together calls =>
    rcases group : p.connectEach calls s.pool s.run with ⟨os, pool, run⟩
    simp only [perform, group, Prod.mk.injEq] at h
    obtain ⟨rfl, rfl⟩ := h
    refine .together group fun stuck => ?_
    have := List.any_eq_true.mpr ⟨_, stuck, Outcome.isStuck_iff.mpr rfl⟩
    simp [Answer.isStuck, this] at finished
  | close cancelAt rank =>
    rcases close : p.close cancelAt (s.pool.ranked rank) s.run with ⟨o, pool, run⟩
    simp only [perform, close, Prod.mk.injEq] at h
    obtain ⟨rfl, rfl⟩ := h
    refine .close (List.perm_insertionSort _ _) close ?_
    rintro rfl
    simp [Answer.isStuck, Outcome.isStuck] at finished
  | sleep milliseconds =>
    simp only [perform, Prod.mk.injEq] at h
    obtain ⟨-, rfl⟩ := h
    exact .sleep milliseconds s.pool s.run

/-- What is played without getting stuck is a history. -/
theorem play_steps {instructions : List Instruction} {receipts : List (Receipt C)}
    (h : p.play instructions s = (receipts, s'))
    (finished : ∀ receipt ∈ receipts, receipt.answer.isStuck = false) : p.Steps s s' := by
  induction instructions generalizing s receipts with
  | nil =>
    simp only [play, Prod.mk.injEq] at h
    obtain ⟨-, rfl⟩ := h
    exact .refl s
  | cons i rest ih =>
    rcases hi : p.perform i s with ⟨answer, s₁⟩
    rcases hr : p.play rest s₁ with ⟨later, s₂⟩
    cases hs : answer.isStuck <;>
      simp only [play, hi, hr, hs, if_true, if_false, Bool.false_eq_true, Prod.mk.injEq] at h <;>
      obtain ⟨rfl, rfl⟩ := h
    · exact (perform_step hi hs).steps.trans (ih hr fun _ mem => finished _ (by simp [mem]))
    · simp [receipt, hs] at finished

end PoolConfig
end ClusterAccess
