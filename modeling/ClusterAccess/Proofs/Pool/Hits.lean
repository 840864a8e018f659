import ClusterAccess.Proofs.Pool.Cache
import Mathlib.Data.List.Infix

/-!
# Calls that the pool answers itself

Once a call for a cluster has succeeded, the pool holds its credential and its connection, and until
it is closed it only adds to what it holds. Later calls for the cluster are answered with the same
two at once, whatever became of other calls in between.

## Main definitions

* `Held`: the pool can answer calls for a cluster itself.
* `PoolConfig.Answered`: a call for a cluster succeeds, alone or among calls that come together.

## Main statements

* `Held.connect`: such a call does nothing.
* `PoolConfig.Steps.extended`: as long as a pool is open, its entries stay where they are.
* `PoolConfig.Answered.stable`: later calls are answered in the same way.
-/
namespace ClusterAccess

variable {σ C : Type} {p : PoolConfig σ C} {s s₁ s₂ : PoolState σ C}

/-- What is added behind a list leaves its items in their places. -/
theorem exists_index_of_prefix {α : Type} {l m : List α} {a : α} (h : l <+: m) (ha : a ∈ l) :
    ∃ i : Nat, l[i]? = some a ∧ m[i]? = some a := by
  obtain ⟨i, hi⟩ := List.mem_iff_getElem?.mp ha
  obtain ⟨added, rfl⟩ := h
  have short : i < l.length := (List.getElem?_eq_some_iff.mp hi).1
  exact ⟨i, hi, (List.getElem?_append_left short).trans hi⟩

/-- The open pool has a credential and a connection for the cluster, and its settings allow for
calls. -/
structure Held (p : PoolConfig σ C) (key : ClusterKey) (credential : Credential) (c : C)
    (pool : Pool C) : Prop where
  isOpen : pool.isClosed = false
  dialer : ∃ d, p.dialer key = .ok d
  credential : pool.credential? key.project = some credential
  connection : pool.connection? key = some c

/-- The second pool has the entries of the first one, and then perhaps more. -/
structure Extended (pool pool' : Pool C) : Prop where
  credentials : pool.credentials <+: pool'.credentials
  connections : pool.connections <+: pool'.connections

theorem Extended.refl (pool : Pool C) : Extended pool pool :=
  ⟨List.prefix_rfl, List.prefix_rfl⟩

theorem Extended.trans {pool pool₁ pool' : Pool C} (h : Extended pool pool₁)
    (h' : Extended pool₁ pool') : Extended pool pool' :=
  ⟨h.credentials.trans h'.credentials, h.connections.trans h'.connections⟩

theorem Served.extended {key : ClusterKey} {asked : List String} {made : List Credential}
    {lost kept : List C} {target : Target} {pool pool' : Pool C} {r r' : Run σ C}
    (h : Served key asked made lost kept target pool pool' r r') : Extended pool pool' :=
  ⟨h.credentials ▸ List.prefix_append _ _, h.connections ▸ List.prefix_append _ _⟩

namespace Held

variable {key : ClusterKey} {credential : Credential} {c : C} {pool pool' : Pool C}

/-- The pool answers the call itself. -/
theorem connect (h : Held p key credential c pool) (cancelAt : Option Nat) (r : Run σ C) :
    p.connect cancelAt key pool r = (.ok (credential, c), pool, r) := by
  obtain ⟨d, dialer⟩ := h.dialer
  simp [PoolConfig.connect, PoolConfig.credential, h.isOpen, dialer, h.credential, h.connection]

/-- The first entry for a key is the one that counts, so that more entries do not matter. -/
theorem extended (h : Held p key credential c pool) (more : Extended pool pool')
    (isOpen : pool'.isClosed = false) : Held p key credential c pool' where
  isOpen := isOpen
  dialer := h.dialer
  credential := by
    obtain ⟨added, credentials⟩ := more.credentials
    have found := h.credential
    unfold Pool.credential? at found ⊢
    rw [← credentials, List.lookup_append, found, Option.some_or]
  connection := by
    obtain ⟨added, connections⟩ := more.connections
    have found := h.connection
    unfold Pool.connection? at found ⊢
    rw [← connections, List.lookup_append, found, Option.some_or]

/-- Other calls do not change the answer. -/
theorem kept (h : Held p key credential c pool) {cancelAt : Option Nat} {key' : ClusterKey}
    {r r' : Run σ C} {o : Outcome (Credential × C)}
    (call : Connected p cancelAt key' pool r o pool' r') (finished : o ≠ .stuck) :
    Held p key credential c pool' := by
  obtain ⟨asked, made, lost, kept, target, served⟩ := call.served finished
  exact h.extended served.extended (served.isClosed.trans h.isOpen)

end Held

/-- A call that succeeds leaves its credential and its connection in the pool. -/
theorem Connected.held {cancelAt : Option Nat} {key : ClusterKey} {credential : Credential} {c : C}
    {pool pool' : Pool C} {r r' : Run σ C}
    (h : Connected p cancelAt key pool r (.ok (credential, c)) pool' r') :
    Held p key credential c pool' := by
  have credited {pool₁ : Pool C} {r₁ : Run σ C}
      (h : Credited p cancelAt key.project pool r (.ok credential) pool₁ r₁) :
      pool₁.credential? key.project = some credential ∧ pool₁.isClosed = pool.isClosed := by
    cases h with
    | kept present => exact ⟨present, rfl⟩
    | made absent => exact ⟨Pool.credential?_putCredential absent credential, rfl⟩
    | refused _ _ noResult => exact absurd rfl (noResult credential)
  cases h with
  | unprovisioned _ _ _ _ passedOn => cases passedOn
  | hit isOpen dialer got present =>
    exact ⟨(credited got).2.trans isOpen, ⟨_, dialer⟩, (credited got).1, present⟩
  | opened isOpen dialer got absent =>
    refine ⟨(credited got).2.trans isOpen, ⟨_, dialer⟩, (credited got).1, ?_⟩
    unfold Pool.connection? at absent ⊢
    simp [Pool.putConnection, List.lookup_append, absent]
  | unopened _ _ _ _ _ passedOn => cases passedOn

namespace PoolConfig

/-- From `s` to `s'` a call for the cluster succeeds, be it one of several that come together. -/
inductive Answered (p : PoolConfig σ C) (key : ClusterKey) (credential : Credential) (c : C)
    (s s' : PoolState σ C) : Prop
  | alone {cancelAt : Option Nat}
      (call : p.connect cancelAt key s.pool s.run = (.ok (credential, c), s'.pool, s'.run))
  | together {calls : List (Option Nat × ClusterKey)} {os : List (Outcome (Credential × C))}
      {cancelAt : Option Nat} (group : p.connectEach calls s.pool s.run = (os, s'.pool, s'.run))
      (finished : .stuck ∉ os) (answer : ((cancelAt, key), .ok (credential, c)) ∈ calls.zip os)

/-- As long as a pool is open, its entries stay where they are. -/
theorem Steps.extended (h : p.Steps s s₁) (isOpen : s₁.pool.isClosed = false) :
    Extended s.pool s₁.pool := by
  refine h.preserves (Q := fun s₁ => s₁.pool.isClosed = false → Extended s.pool s₁.pool)
    ?_ ?_ ?_ (fun _ => .refl _) isOpen
  · intro cancelAt key pool pool' r r' o so call finished isOpen
    obtain ⟨asked, made, lost, kept, target, served⟩ := call.served finished
    exact (so (served.isClosed.symm.trans isOpen)).trans served.extended
  · intro cancelAt order pool pool' r r' o _ _ closing _ isOpen
    rcases close_cases closing with ⟨isClosed, -, rfl, -⟩ | ⟨-, -, rfl⟩
    · exact absurd (isOpen.symm.trans isClosed) Bool.false_ne_true
    · cases isOpen
  · exact id

variable {key : ClusterKey} {credential : Credential} {c : C}

/-- Calls that come together keep what the pool holds. -/
theorem connectEach_held {calls : List (Option Nat × ClusterKey)} {pool pool' : Pool C}
    {r r' : Run σ C} {os : List (Outcome (Credential × C))}
    (group : p.connectEach calls pool r = (os, pool', r')) (finished : .stuck ∉ os)
    (h : Held p key credential c pool) : Held p key credential c pool' :=
  connectEach_steps (Q := fun s => Held p key credential c s.pool)
    (fun held call ended => held.kept call ended) group finished h

theorem connectEach_answered {calls : List (Option Nat × ClusterKey)} {cancelAt : Option Nat}
    {pool pool' : Pool C} {r r' : Run σ C} {os : List (Outcome (Credential × C))}
    (group : p.connectEach calls pool r = (os, pool', r')) (finished : .stuck ∉ os)
    (answer : ((cancelAt, key), .ok (credential, c)) ∈ calls.zip os) :
    Held p key credential c pool' := by
  induction calls generalizing pool r os with
  | nil => cases answer
  | cons first rest ih =>
    obtain ⟨o, pool₁, r₁, os₁, hc, hr, rfl⟩ := connectEach_cons group
    simp only [List.mem_cons, not_or] at finished
    rw [List.zip_cons_cons, List.mem_cons, Prod.mk.injEq] at answer
    rcases answer with ⟨rfl, rfl⟩ | answer
    · exact connectEach_held hr finished.2 (p.connect_connected hc).held
    · exact ih hr finished.2 answer

theorem Answered.held (h : p.Answered key credential c s s₁) : Held p key credential c s₁.pool := by
  cases h with
  | alone call => exact (p.connect_connected call).held
  | together group finished answer => exact connectEach_answered group finished answer

/-- Once a call for a cluster has succeeded, the pool has entries for it, and until it is closed
they stay where they are. Whatever else is done before, every call for the cluster is then answered
with the very same credential and connection, even one that is cancelled; it calls nothing, takes no
time and leaves everything as it is. -/
theorem Answered.stable (h : p.Answered key credential c s s₁) (steps : p.Steps s₁ s₂)
    (isOpen : s₂.pool.isClosed = false) :
    (∃ i : Nat, s₁.pool.credentials[i]? = some (key.project, credential) ∧
        s₂.pool.credentials[i]? = some (key.project, credential)) ∧
      (∃ i : Nat, s₁.pool.connections[i]? = some (key, c) ∧
        s₂.pool.connections[i]? = some (key, c)) ∧
      ∀ cancelAt,
        p.connect cancelAt key s₂.pool s₂.run = (.ok (credential, c), s₂.pool, s₂.run) := by
  have held := h.held
  have more := steps.extended isOpen
  refine ⟨?_, ?_, fun cancelAt => (held.extended more isOpen).connect cancelAt s₂.run⟩
  · exact exists_index_of_prefix more.credentials (Pool.mem_of_credential? held.credential)
  · exact exists_index_of_prefix more.connections (Pool.mem_of_connection? held.connection)

/-- A call in between is cancelled before it makes an account. -/
theorem stable_after_cancelled :
    ∃ s₁ s₂ credential,
      smoothRehearsal.pool.Answered ⟨"shop", "orders"⟩ credential 1 (.start {}) s₁ ∧
      smoothRehearsal.pool.Steps s₁ s₂ ∧ s₂.run.creations.length = 1 ∧
      smoothRehearsal.pool.connect (some 0) ⟨"shop", "orders"⟩ s₂.pool s₂.run =
        (.ok (credential, 1), s₂.pool, s₂.run) := by
  have call : smoothRehearsal.pool.connect none ⟨"shop", "orders"⟩ {} { world := {} } =
      (.ok (_, 1), _, _) := rfl
  have answered : smoothRehearsal.pool.Answered ⟨"shop", "orders"⟩ _ 1 (.start {})
      (smoothRehearsal.pool.afterConnect none ⟨"shop", "orders"⟩ (.start {})) := .alone call
  have step : smoothRehearsal.pool.Step
      (smoothRehearsal.pool.afterConnect none ⟨"shop", "orders"⟩ (.start {}))
      (smoothRehearsal.pool.afterConnect (some 0) ⟨"bank", "loans"⟩
        (smoothRehearsal.pool.afterConnect none ⟨"shop", "orders"⟩ (.start {}))) :=
    .afterConnect nofun
  obtain ⟨-, -, again⟩ := answered.stable step.steps rfl
  exact ⟨_, _, _, answered, step.steps, rfl, again (some 0)⟩

end PoolConfig
end ClusterAccess
