import ClusterAccess.Proofs.Lock
import ClusterAccess.Proofs.Pool.Clock
import ClusterAccess.Proofs.Pool.Hits
import Mathlib.Algebra.GroupWithZero.Nat

/-!
# Calls that come together

A call holds the lock of the pool from its beginning to its end. Calls that come at the same time
are therefore served one after the other, in the order in which they come, and what one of them
leaves in the pool the later ones share.

## Main definitions

* `PoolConfig.IsCut`: calls to the pool, cut into pieces between which others may come to the lock.
* `InTurn`: calls one after the other, each with the time it takes.
* `Shared`: what the calls of a group share.

## Main statements

* `PoolConfig.connectEach_inTurn`: a group takes as long as its calls together.
* `PoolConfig.shared`: every group shares connections and accounts.
* `PoolConfig.together_serialized`: all of this for calls that come to the lock together.
-/
namespace ClusterAccess

variable {σ C : Type} {p : PoolConfig σ C} {s s₁ s' : PoolState σ C} {cancelAt : Option Nat}
  {key : ClusterKey} {calls before : List (Option Nat × ClusterKey)}
  {os : List (Outcome (Credential × C))}

/-- Calls to the pool, cut into pieces. -/
def PoolConfig.IsCut (p : PoolConfig σ C)
    (work : Option Nat × ClusterKey → Work (PoolState σ C) (Outcome (Credential × C))) : Prop :=
  ∀ cancelAt key s, (work (cancelAt, key)).run s =
    ((p.connect cancelAt key s.pool s.run).1, p.afterConnect cancelAt key s)

/-- Calls that are made one after the other, with their outcomes and the time that each takes. -/
inductive InTurn (p : PoolConfig σ C) : List (Option Nat × ClusterKey) → PoolState σ C →
    List (Outcome (Credential × C)) → List Nat → PoolState σ C → Prop
  | done (s : PoolState σ C) : InTurn p [] s [] [] s
  | next {cancelAt : Option Nat} {key : ClusterKey} {rest : List (Option Nat × ClusterKey)}
      {s s₁ s' : PoolState σ C} {o : Outcome (Credential × C)}
      {os : List (Outcome (Credential × C))} {span : Nat} {spans : List Nat}
      (call : p.connect cancelAt key s.pool s.run = (o, s₁.pool, s₁.run))
      (elapsed : s₁.run.now = s.run.now + span) (later : InTurn p rest s₁ os spans s') :
      InTurn p ((cancelAt, key) :: rest) s (o :: os) (span :: spans) s'

theorem InTurn.now_eq {spans : List Nat} (h : InTurn p calls s os spans s') :
    s'.run.now = s.run.now + spans.sum := by
  induction h with
  | done => rfl
  | next _ elapsed _ ih => rw [ih, elapsed, List.sum_cons, Nat.add_assoc]

/-- A call for the cluster has been answered with a success. -/
def Succeeded (answers : List ((Option Nat × ClusterKey) × Outcome (Credential × C)))
    (key : ClusterKey) : Prop :=
  ∃ cancelAt credential c, ((cancelAt, key), .ok (credential, c)) ∈ answers

/-- A call for the cluster has been answered, but not with a success. -/
def Failed (answers : List ((Option Nat × ClusterKey) × Outcome (Credential × C)))
    (key : ClusterKey) : Prop :=
  ∃ cancelAt o, ((cancelAt, key), o) ∈ answers ∧ ∀ result, o ≠ .ok result

/-- In `s₁` it is the turn of a call in the group, and those `before` it were answered with `os`. -/
structure Preceded (p : PoolConfig σ C) (calls : List (Option Nat × ClusterKey)) (s : PoolState σ C)
    (before : List (Option Nat × ClusterKey)) (os : List (Outcome (Credential × C)))
    (s₁ : PoolState σ C) (cancelAt : Option Nat) (key : ClusterKey) : Prop where
  split : ∃ after, calls = before ++ (cancelAt, key) :: after
  served : p.connectEach before s.pool s.run = (os, s₁.pool, s₁.run)

/-- The run after a call that finds no connection: it gets a credential and opens a connection. -/
def PoolConfig.runAfresh (p : PoolConfig σ C) (cancelAt : Option Nat) (key : ClusterKey)
    (dialer : Option ProxyDialer) (s : PoolState σ C) : Run σ C :=
  match p.credential cancelAt key.project s.pool s.run with
  | (.ok credential, _, r) => (p.openConnection cancelAt key dialer credential r).2
  | (_, _, r) => r

/-- What the calls of a group, which leads from `s` to `s'`, share. -/
structure Shared (p : PoolConfig σ C) (calls : List (Option Nat × ClusterKey)) (s : PoolState σ C)
    (os : List (Outcome (Credential × C))) (s' : PoolState σ C) : Prop where
  /-- A cluster has one connection. -/
  connection : ∀ {cancelAt cancelAt' key credential credential' c c'},
    ((cancelAt, key), .ok (credential, c)) ∈ calls.zip os →
    ((cancelAt', key), .ok (credential', c')) ∈ calls.zip os → c = c'
  /-- A project has one credential. -/
  credential : ∀ {cancelAt cancelAt' key key' credential credential' c c'},
    ((cancelAt, key), .ok (credential, c)) ∈ calls.zip os →
    ((cancelAt', key'), .ok (credential', c')) ∈ calls.zip os → key.project = key'.project →
    credential = credential'
  /-- After a success a call adds nothing. -/
  hit : ∀ {before os₁ s₁ cancelAt key}, Preceded p calls s before os₁ s₁ cancelAt key →
    Succeeded (before.zip os₁) key →
    ∃ result, p.connect cancelAt key s₁.pool s₁.run = (.ok result, s₁.pool, s₁.run)
  /-- After failures only, a call does everything itself. -/
  afresh : ∀ {before os₁ s₁ cancelAt key}, Preceded p calls s before os₁ s₁ cancelAt key →
    Failed (before.zip os₁) key → ¬ Succeeded (before.zip os₁) key → s₁.pool.isClosed = false →
    ∀ d, p.dialer key = .ok d → s₁.pool.connection? key = none ∧
      (p.afterConnect cancelAt key s₁).run = p.runAfresh cancelAt key d s₁
  /-- No account is asked for where there is a credential. -/
  account : ∀ {before os₁ s₁ cancelAt key credential},
    Preceded p calls s before os₁ s₁ cancelAt key →
    s₁.pool.credential? key.project = some credential →
    (p.afterConnect cancelAt key s₁).run.creations = s₁.run.creations
  /-- A project has one new credential at most, and none if it had one before. -/
  accounts : ∃ made, s'.pool.credentials = s.pool.credentials ++ made ∧
    (made.map Prod.fst).Nodup ∧ ∀ project ∈ made.map Prod.fst, s.pool.credential? project = none
  /-- The pool grows by the clusters for which it had no connection and a call succeeds. -/
  growth : ∃ fresh : List ClusterKey, fresh.Nodup ∧
    (∀ key, key ∈ fresh ↔ s.pool.connection? key = none ∧ Succeeded (calls.zip os) key) ∧
    s'.pool.size = s.pool.size + fresh.length

theorem Credited.connections_eq {project : String} {pool pool' : Pool C} {r r' : Run σ C}
    {o : Outcome Credential} (h : Credited p cancelAt project pool r o pool' r') :
    pool'.connections = pool.connections := by
  cases h <;> rfl

/-- A call brings no connection for other clusters, and none if it fails. -/
theorem Connected.key_cases {pool pool' : Pool C} {r r' : Run σ C} {o : Outcome (Credential × C)}
    (h : Connected p cancelAt key pool r o pool' r') {key' : ClusterKey}
    (mem : key' ∈ pool'.connections.map Prod.fst) :
    key' ∈ pool.connections.map Prod.fst ∨ key' = key ∧ ∃ result, o = .ok result := by
  cases h with
  | closed => exact .inl mem
  | misconfigured => exact .inl mem
  | unprovisioned => exact .inl mem
  | hit _ _ credited => exact .inl (credited.connections_eq ▸ mem)
  | opened _ _ credited =>
    simp only [Pool.putConnection, credited.connections_eq, List.map_append, List.mem_append] at mem
    exact mem.imp id fun mem => ⟨by simpa using mem, _, rfl⟩
  | unopened _ _ credited => exact .inl (credited.connections_eq ▸ mem)

namespace PoolConfig

theorem connect_run_of_absent {d : Option ProxyDialer} (isOpen : s.pool.isClosed = false)
    (dialer : p.dialer key = .ok d) (absent : s.pool.connection? key = none) :
    (p.afterConnect cancelAt key s).run = p.runAfresh cancelAt key d s := by
  rcases hc : p.credential cancelAt key.project s.pool s.run with ⟨o, pool₁, r₁⟩
  have absent₁ : pool₁.connection? key = none := by
    unfold Pool.connection? at absent ⊢
    rwa [(p.credential_credited hc).connections_eq]
  cases o <;> simp only [afterConnect, connect, runAfresh, isOpen, dialer, hc, absent₁,
    Bool.false_eq_true, if_false]
  rcases p.openConnection cancelAt key d _ r₁ with ⟨_ | _ | _ | _, r₂⟩ <;> rfl

/-- No account is asked for where there is a credential. -/
theorem connect_creations_eq {credential : Credential}
    (present : s.pool.credential? key.project = some credential)
    (ended : (p.connect cancelAt key s.pool s.run).1 ≠ .stuck) :
    (p.afterConnect cancelAt key s).run.creations = s.run.creations := by
  obtain ⟨asked, made, lost, kept, target, served⟩ := (p.connect_connected rfl).served ended
  have creations : (p.afterConnect cancelAt key s).run.creations = _ := served.grown.creations
  rcases served.asked_cases with rfl | ⟨-, absent⟩
  · simpa using creations
  · cases present.symm.trans absent

theorem connectEach_append {rest : List (Option Nat × ClusterKey)} {pool pool' : Pool C}
    {r r' : Run σ C} (h : p.connectEach (before ++ rest) pool r = (os, pool', r')) :
    ∃ os₁ pool₁ r₁ os₂, p.connectEach before pool r = (os₁, pool₁, r₁) ∧
      p.connectEach rest pool₁ r₁ = (os₂, pool', r') ∧ os = os₁ ++ os₂ := by
  induction before generalizing pool r os with
  | nil => exact ⟨[], pool, r, os, rfl, h, rfl⟩
  | cons first before ih =>
    obtain ⟨o, pool₁, r₁, os₁, hc, hr, rfl⟩ := connectEach_cons h
    obtain ⟨os₂, pool₂, r₂, os₃, served, later, rfl⟩ := ih hr
    exact ⟨o :: os₂, pool₂, r₂, os₃, by simp [connectEach, hc, served], later, rfl⟩

theorem connectEach_nil (h : p.connectEach [] s.pool s.run = (os, s'.pool, s'.run)) :
    os = [] ∧ s' = s := by
  obtain ⟨pool, r⟩ := s
  obtain ⟨pool', r'⟩ := s'
  simp only [connectEach, Prod.mk.injEq] at h
  obtain ⟨rfl, rfl, rfl⟩ := h
  exact ⟨rfl, rfl⟩

/-- Serving the pieces of the calls in order is serving the calls in order. -/
theorem IsCut.inOrder_eq
    {work : Option Nat × ClusterKey → Work (PoolState σ C) (Outcome (Credential × C))}
    (cut : p.IsCut work) (group : p.connectEach calls s.pool s.run = (os, s'.pool, s'.run)) :
    Work.inOrder work calls s = (calls.zip os, s') := by
  induction calls generalizing s os with
  | nil =>
    obtain ⟨rfl, rfl⟩ := connectEach_nil group
    rfl
  | cons first rest ih =>
    obtain ⟨o, pool₁, r₁, os₁, call, later, rfl⟩ := connectEach_cons group
    have served : (work first).run s = (o, ⟨pool₁, r₁⟩) := by
      rw [cut first.1 first.2 s, afterConnect, call]
    simp only [Work.inOrder, served, ih (s := ⟨pool₁, r₁⟩) later, List.zip_cons_cons]

/-- A group takes as long as its calls together. -/
theorem connectEach_inTurn (group : p.connectEach calls s.pool s.run = (os, s'.pool, s'.run))
    (finished : .stuck ∉ os) : ∃ spans, InTurn p calls s os spans s' := by
  induction calls generalizing s os with
  | nil =>
    obtain ⟨rfl, rfl⟩ := connectEach_nil group
    exact ⟨[], .done _⟩
  | cons first rest ih =>
    obtain ⟨o, pool₁, r₁, os₁, call, later, rfl⟩ := connectEach_cons group
    simp only [List.mem_cons, not_or] at finished
    obtain ⟨spans, later⟩ := ih (s := ⟨pool₁, r₁⟩) later finished.2
    have forward := (p.connect_connected call).now_le (Ne.symm finished.1)
    exact ⟨(r₁.now - s.run.now) :: spans, .next call (Nat.add_sub_of_le forward).symm later⟩

section Groups

variable (group : p.connectEach calls s.pool s.run = (os, s'.pool, s'.run))
  (finished : .stuck ∉ os)

include group finished

/-- A group only adds to the pool. -/
theorem connectEach_extended :
    Extended s.pool s'.pool ∧ s'.pool.isClosed = s.pool.isClosed := by
  refine connectEach_steps (Q := fun s₁ => Extended s.pool s₁.pool ∧
    s₁.pool.isClosed = s.pool.isClosed) ?_ group finished ⟨.refl _, rfl⟩
  rintro cancelAt key pool pool' r r' o ⟨more, same⟩ call finished
  obtain ⟨asked, made, lost, kept, target, served⟩ := call.served finished
  exact ⟨more.trans served.extended, served.isClosed.trans same⟩

/-- The pool answers all calls of a group for a cluster that it has. -/
theorem connectEach_hits {credential : Credential} {c : C} (held : Held p key credential c s.pool)
    {o : Outcome (Credential × C)} (answer : ((cancelAt, key), o) ∈ calls.zip os) :
    o = .ok (credential, c) := by
  induction calls generalizing s os with
  | nil => cases answer
  | cons first rest ih =>
    obtain ⟨o₁, pool₁, r₁, os₁, call, later, rfl⟩ := connectEach_cons group
    simp only [List.mem_cons, not_or] at finished
    rw [List.zip_cons_cons, List.mem_cons, Prod.mk.injEq] at answer
    rcases answer with ⟨rfl, rfl⟩ | answer
    · exact (Prod.mk.inj (call.symm.trans (held.connect cancelAt s.run))).1
    · have held₁ := held.kept (p.connect_connected call) (Ne.symm finished.1)
      exact ih (s := ⟨pool₁, r₁⟩) later finished.2 held₁ answer

/-- A cluster has a connection after a group only if it had one before or a call brought one. -/
theorem connectEach_key_cases (mem : key ∈ s'.pool.connections.map Prod.fst) :
    key ∈ s.pool.connections.map Prod.fst ∨ Succeeded (calls.zip os) key := by
  induction calls generalizing s os with
  | nil =>
    obtain ⟨rfl, rfl⟩ := connectEach_nil group
    exact .inl mem
  | cons first rest ih =>
    obtain ⟨o₁, pool₁, r₁, os₁, call, later, rfl⟩ := connectEach_cons group
    simp only [List.mem_cons, not_or] at finished
    rcases ih (s := ⟨pool₁, r₁⟩) later finished.2 with mem | ⟨cancelAt, credential, c, answer⟩
    · refine ((p.connect_connected call).key_cases mem).imp id ?_
      rintro ⟨rfl, ⟨credential, c⟩, rfl⟩
      exact ⟨first.1, credential, c, List.mem_cons_self⟩
    · exact .inr ⟨cancelAt, credential, c, List.mem_cons_of_mem _ answer⟩

theorem connectEach_reachable (reachable : p.Reachable s) : p.Reachable s' := by
  obtain ⟨world, steps⟩ := reachable
  exact ⟨world, steps.trans (Step.together group finished).steps⟩

/-- A project has one new credential at most, and none if it had one before. -/
theorem connectEach_accounts (reachable : p.Reachable s) :
    ∃ made, s'.pool.credentials = s.pool.credentials ++ made ∧ (made.map Prod.fst).Nodup ∧
      ∀ project ∈ made.map Prod.fst, s.pool.credential? project = none := by
  obtain ⟨made, credentials⟩ := (connectEach_extended group finished).1.credentials
  -- Projects are told apart afterwards, so that what was added is new.
  have nodup := (connectEach_reachable group finished reachable).cached.projects
  rw [← credentials, List.map_append, List.nodup_append] at nodup
  obtain ⟨-, nodup, new⟩ := nodup
  exact ⟨made, credentials.symm, nodup, fun project mem =>
    Pool.credential?_eq_none.mpr fun old => new _ old _ mem rfl⟩

/-- The pool grows by the clusters for which it had no connection and a call succeeds. -/
theorem connectEach_growth (reachable : p.Reachable s) :
    ∃ fresh : List ClusterKey, fresh.Nodup ∧
      (∀ key, key ∈ fresh ↔ s.pool.connection? key = none ∧ Succeeded (calls.zip os) key) ∧
      s'.pool.size = s.pool.size + fresh.length := by
  obtain ⟨added, connections⟩ := (connectEach_extended group finished).1.connections
  have nodup := (connectEach_reachable group finished reachable).cached.keys
  rw [← connections, List.map_append, List.nodup_append] at nodup
  obtain ⟨-, nodup, new⟩ := nodup
  refine ⟨added.map Prod.fst, nodup, fun key => ⟨?_, ?_⟩, by simp [Pool.size, ← connections]⟩
  · intro mem
    have absent : key ∉ s.pool.connections.map Prod.fst := fun old => new _ old _ mem rfl
    have present : key ∈ s'.pool.connections.map Prod.fst := by
      rw [← connections, List.map_append]
      exact List.mem_append_right _ mem
    exact ⟨Pool.connection?_eq_none.mpr absent,
      (connectEach_key_cases group finished present).resolve_left absent⟩
  · rintro ⟨absent, cancelAt, credential, c, answer⟩
    have held := connectEach_answered group finished answer
    have present := List.mem_map_of_mem (f := Prod.fst) (Pool.mem_of_connection? held.connection)
    rw [← connections, List.map_append, List.mem_append] at present
    exact present.resolve_left (Pool.connection?_eq_none.mp absent)

end Groups
end PoolConfig

/-- A cluster that an open pool has a connection for is one that it can answer calls for. -/
theorem Cached.held (h : Cached s) (isOpen : s.pool.isClosed = false) {d : Option ProxyDialer}
    (dialer : p.dialer key = .ok d) (mem : key ∈ s.pool.connections.map Prod.fst) :
    ∃ credential c, Held p key credential c s.pool := by
  cases hc : s.pool.connection? key with
  | none => exact absurd mem (Pool.connection?_eq_none.mp hc)
  | some c =>
    obtain ⟨credential, -, present, -⟩ := h.tested key c (Pool.mem_of_connection? hc)
    exact ⟨credential, c, isOpen, ⟨d, dialer⟩, present, hc⟩

namespace Preceded

variable {os₁ : List (Outcome (Credential × C))}

/-- In a group that ends, everything before the call has ended, and the call ends. -/
theorem finished (h : Preceded p calls s before os₁ s₁ cancelAt key)
    (group : p.connectEach calls s.pool s.run = (os, s'.pool, s'.run)) (finished : .stuck ∉ os) :
    .stuck ∉ os₁ ∧ (p.connect cancelAt key s₁.pool s₁.run).1 ≠ .stuck := by
  obtain ⟨after, rfl⟩ := h.split
  obtain ⟨os₂, pool₂, r₂, os₃, served, later, rfl⟩ := PoolConfig.connectEach_append group
  obtain ⟨rfl, rfl, rfl⟩ : os₂ = os₁ ∧ pool₂ = s₁.pool ∧ r₂ = s₁.run := by
    simpa using served.symm.trans h.served
  obtain ⟨o, pool₃, r₃, os₄, call, -, rfl⟩ := PoolConfig.connectEach_cons later
  simp only [List.mem_append, List.mem_cons, not_or] at finished
  exact ⟨finished.1, by rw [call]; exact Ne.symm finished.2.1⟩

theorem hit (h : Preceded p calls s before os₁ s₁ cancelAt key) (ended : .stuck ∉ os₁)
    (success : Succeeded (before.zip os₁) key) :
    ∃ result, p.connect cancelAt key s₁.pool s₁.run = (.ok result, s₁.pool, s₁.run) := by
  obtain ⟨cancelAt', credential, c, answer⟩ := success
  have held := PoolConfig.connectEach_answered h.served ended answer
  exact ⟨_, held.connect cancelAt s₁.run⟩

/-- Where a call failed and none succeeded there is no connection: had there been one before the
group, it would have been the answer. -/
theorem absent (h : Preceded p calls s before os₁ s₁ cancelAt key) (ended : .stuck ∉ os₁)
    (cached : Cached s) (failure : Failed (before.zip os₁) key)
    (noSuccess : ¬ Succeeded (before.zip os₁) key) (isOpen : s₁.pool.isClosed = false)
    {d : Option ProxyDialer} (dialer : p.dialer key = .ok d) :
    s₁.pool.connection? key = none := by
  refine Pool.connection?_eq_none.mpr fun mem => ?_
  have same := (PoolConfig.connectEach_extended h.served ended).2
  have old := (PoolConfig.connectEach_key_cases h.served ended mem).resolve_right noSuccess
  obtain ⟨credential, c, held⟩ := cached.held (same.symm.trans isOpen) dialer old
  obtain ⟨cancelAt', o, answer, failed⟩ := failure
  exact failed _ (PoolConfig.connectEach_hits h.served ended held answer)

end Preceded

namespace PoolConfig

/-- The calls of every group that ends share connections and accounts. -/
theorem shared (reachable : p.Reachable s)
    (group : p.connectEach calls s.pool s.run = (os, s'.pool, s'.run)) (finished : .stuck ∉ os) :
    Shared p calls s os s' where
  connection first second := by
    have held := connectEach_answered group finished first
    have held' := connectEach_answered group finished second
    exact Option.some.inj (held.connection.symm.trans held'.connection)
  credential first second same := by
    have held := connectEach_answered group finished first
    have held' := connectEach_answered group finished second
    exact Option.some.inj (held.credential.symm.trans (same ▸ held'.credential))
  hit turn success := turn.hit (turn.finished group finished).1 success
  afresh turn failure noSuccess isOpen d dialer := by
    have absent := turn.absent (turn.finished group finished).1 reachable.cached failure noSuccess
      isOpen dialer
    exact ⟨absent, connect_run_of_absent isOpen dialer absent⟩
  account turn present := connect_creations_eq present (turn.finished group finished).2
  accounts := connectEach_accounts group finished reachable
  growth := connectEach_growth group finished reachable

/-- Calls that come to the lock of the pool together, however they are cut into pieces, and however
the pieces of the one that holds the lock and the arrivals of the others alternate, are served in
their order. As long as no call waits for ever, everything comes to an end; then each call has the
outcome that it has when they are made one after the other, the pool and everything that was called
are the same, and the time is what these calls take together. The calls share connections and
accounts. -/
theorem together_serialized
    {work : Option Nat × ClusterKey → Work (PoolState σ C) (Outcome (Credential × C))}
    (cut : p.IsCut work) (reachable : p.Reachable s)
    (group : p.connectEach calls s.pool s.run = (os, s'.pool, s'.run)) (finished : .stuck ∉ os) :
    (WellFounded fun g' g => Gathering.Move work (· ≠ .stuck) g g') ∧
      (∀ g, Relation.ReflTransGen (Gathering.Move work (· ≠ .stuck)) (.start calls s) g →
        (∃ g', Gathering.Move work (· ≠ .stuck) g g') ∨ g = .allLeft (calls.zip os) s') ∧
      (∃ spans, InTurn p calls s os spans s' ∧ s'.run.now = s.run.now + spans.sum) ∧
      Shared p calls s os s' := by
  have served := cut.inOrder_eq group
  refine ⟨Gathering.moves_end _ _, ?_, ?_, shared reachable group finished⟩
  · intro g moves
    have finish : ∀ result ∈ (Work.inOrder work calls s).1, result.2 ≠ .stuck := by
      rw [served]
      rintro ⟨call, o⟩ mem rfl
      exact finished (List.of_mem_zip mem).2
    have key := Gathering.moves_outcome finish moves
    rwa [served] at key
  · obtain ⟨spans, inTurn⟩ := connectEach_inTurn group finished
    exact ⟨spans, inTurn, inTurn.now_eq⟩

/-- Calls in two pieces: others may come to the lock before anything is done, and afterwards. -/
def inTwo (p : PoolConfig σ C) (call : Option Nat × ClusterKey) :
    Work (PoolState σ C) (Outcome (Credential × C)) :=
  .piece id fun _ => .piece (p.afterConnect call.1 call.2) fun s =>
    .done (p.connect call.1 call.2 s.pool s.run).1

/-- The first of three calls for a cluster fails after an account was made; the second one opens a
connection for that account, and the third one shares it. -/
theorem together_serialized_lost :
    ∃ calls e credential s', calls = List.replicate 3 (none, ⟨"shop", "orders"⟩) ∧
      s'.run.creations = ["shop"] ∧ s'.pool.connections = [(⟨"shop", "orders"⟩, 1)] ∧
      ∀ g, Relation.ReflTransGen (Gathering.Move lostRehearsal.pool.inTwo (· ≠ .stuck))
          (.start calls (.start {})) g →
        (∃ g', Gathering.Move lostRehearsal.pool.inTwo (· ≠ .stuck) g g') ∨
          g = .allLeft (calls.zip [.failed e, .ok (credential, 1), .ok (credential, 1)]) s' := by
  have cut : lostRehearsal.pool.IsCut lostRehearsal.pool.inTwo := fun _ _ _ => rfl
  have reachable : lostRehearsal.pool.Reachable (.start {}) := ⟨{}, .refl _⟩
  have group : lostRehearsal.pool.connectEach (List.replicate 3 (none, ⟨"shop", "orders"⟩))
      {} { world := {} } = ([.failed _, .ok (_, 1), .ok (_, 1)], _, _) := rfl
  obtain ⟨-, served, -, -⟩ :=
    @together_serialized _ _ _ (.start {}) ⟨_, _⟩ _ _ _ cut reachable group (by simp)
  exact ⟨_, _, _, _, rfl, rfl, rfl, served⟩

end PoolConfig
end ClusterAccess
