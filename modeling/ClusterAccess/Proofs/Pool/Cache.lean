import ClusterAccess.Proofs.Pool.Counting
import ClusterAccess.Proofs.Uri
import Mathlib.Data.List.Nodup

/-!
# What the pool keeps

A project has one credential and a cluster has one tested connection, which was opened with that
credential. Credentials last for ever, and connections until the pool is closed.

## Main definitions

* `Cached`: what holds of the credentials and connections of a pool at any time.

## Main statements

* `PoolConfig.Reachable.cached`: it holds after every history.
* `PoolConfig.Steps.credential_kept`: a credential is never replaced, and no second account is asked
  for.
* `PoolConfig.Reachable.cache_sound`: all of this together, with connections told apart by their
  dials.
-/
namespace ClusterAccess

variable {σ C : Type} {p : PoolConfig σ C} {s s' : PoolState σ C}

/-- The credentials and connections of a pool, as far as the record bears them out. -/
structure Cached (s : PoolState σ C) : Prop where
  projects : (s.pool.credentials.map Prod.fst).Nodup
  owner : ∀ project credential, (project, credential) ∈ s.pool.credentials →
    credential.owner = project
  keys : (s.pool.connections.map Prod.fst).Nodup
  /-- A connection was opened for its cluster with the credential of the project, and it passed its
  test. -/
  tested : ∀ key c, (key, c) ∈ s.pool.connections → ∃ credential endpoint,
    s.pool.credential? key.project = some credential ∧
      (key, .assemble endpoint credential, c) ∈ s.run.openings ∧ c ∈ s.run.passed
  emptied : s.pool.isClosed = true → s.pool.connections = []

theorem Pool.credential?_eq_none {pool : Pool C} {project : String} :
    pool.credential? project = none ↔ project ∉ pool.credentials.map Prod.fst := by
  simp only [credential?, List.lookup_eq_none_iff, List.mem_map]
  grind

theorem Pool.connection?_eq_none {pool : Pool C} {key : ClusterKey} :
    pool.connection? key = none ↔ key ∉ pool.connections.map Prod.fst := by
  simp only [connection?, List.lookup_eq_none_iff, List.mem_map]
  grind

theorem Pool.mem_of_credential? {pool : Pool C} {project : String} {c : Credential}
    (h : pool.credential? project = some c) : (project, c) ∈ pool.credentials := by
  obtain ⟨before, after, split, -⟩ := List.lookup_eq_some_iff.mp h
  rw [split]
  simp

theorem Pool.mem_of_connection? {pool : Pool C} {key : ClusterKey} {c : C}
    (h : pool.connection? key = some c) : (key, c) ∈ pool.connections := by
  obtain ⟨before, after, split, -⟩ := List.lookup_eq_some_iff.mp h
  rw [split]
  simp

namespace Served

variable {key : ClusterKey} {asked : List String} {made : List Credential} {lost kept : List C}
  {target : Target} {pool pool' : Pool C} {r r' : Run σ C}

/-- A call keeps the credentials that there are. -/
theorem credential_kept (h : Served key asked made lost kept target pool pool' r r')
    {project : String} {c : Credential} (hc : pool.credential? project = some c) :
    pool'.credential? project = some c := by
  unfold Pool.credential? at hc ⊢
  rw [h.credentials, List.lookup_append, hc]
  rfl

/-- For a project with a credential no account is asked for. -/
theorem creations_kept (h : Served key asked made lost kept target pool pool' r r')
    {project : String} {c : Credential} (hc : pool.credential? project = some c) :
    r'.creations.count project = r.creations.count project := by
  rw [h.grown.creations, List.count_append]
  rcases h.asked_cases with rfl | ⟨rfl, absent⟩
  · rfl
  · have other : key.project ≠ project := by
      rintro rfl
      simp [hc] at absent
    simp [other]

theorem cached (h : Served key asked made lost kept target pool pool' r r')
    (hs : Cached ⟨pool, r⟩) : Cached ⟨pool', r'⟩ where
  projects := by
    simp only [h.credentials, List.map_append]
    rcases h.made_cases with rfl | ⟨c, rfl, -, absent⟩
    · simpa using hs.projects
    · rw [Pool.credential?_eq_none] at absent
      rw [List.map_cons, List.map_nil, List.map_cons, List.map_nil, ← List.concat_eq_append,
        List.nodup_concat]
      exact ⟨absent, hs.projects⟩
  owner project credential mem := by
    simp only [h.credentials, List.mem_append] at mem
    rcases mem with mem | mem
    · exact hs.owner project credential mem
    · rcases h.made_cases with rfl | ⟨c, rfl, owner, -⟩
      · simp at mem
      · obtain ⟨rfl, rfl⟩ : project = key.project ∧ credential = c := by simpa using mem
        exact owner
  keys := by
    simp only [h.connections, List.map_append]
    rcases h.kept_cases with rfl | ⟨c, credential, endpoint, rfl, -, absent, -⟩
    · simpa using hs.keys
    · rw [Pool.connection?_eq_none] at absent
      rw [List.map_cons, List.map_nil, List.map_cons, List.map_nil, ← List.concat_eq_append,
        List.nodup_concat]
      exact ⟨absent, hs.keys⟩
  tested key' c mem := by
    simp only [h.connections, List.mem_append] at mem
    simp only [h.grown.openings, h.grown.passed]
    rcases mem with mem | mem
    · obtain ⟨credential, endpoint, present, opened, passed⟩ := hs.tested key' c mem
      exact ⟨credential, endpoint, h.credential_kept present, List.mem_append_left _ opened,
        List.mem_append_left _ passed⟩
    · rcases h.kept_cases with rfl | ⟨c, credential, endpoint, rfl, -, -, present, rfl⟩
      · simp at mem
      · obtain ⟨rfl, rfl⟩ : key' = key ∧ _ = c := by simpa using mem
        exact ⟨credential, endpoint, present, by simp, by simp⟩
  emptied isClosed := by
    rw [show _ = pool.isClosed from h.isClosed] at isClosed
    simp only [h.connections]
    rcases h.kept_cases with rfl | ⟨c, credential, endpoint, rfl, isOpen, -⟩
    · simpa using hs.emptied isClosed
    · simp [isOpen] at isClosed

end Served

/-- No two clusters share the connection of one dial. -/
theorem Cached.key_unique {n : PoolState (σ × Nat) (Numbered C)} (h : Cached n)
    (counted : Counted n.run) {key key' : ClusterKey} {c c' : Numbered C}
    (mem : (key, c) ∈ n.pool.connections) (mem' : (key', c') ∈ n.pool.connections)
    (same : c.number = c'.number) : key = key' := by
  obtain ⟨credential, endpoint, -, opened, -⟩ := h.tested key c mem
  obtain ⟨credential', endpoint', -, opened', -⟩ := h.tested key' c' mem'
  have dialed := counted.dialed _ _ _ opened
  rw [same, counted.dialed _ _ _ opened'] at dialed
  simpa using congrArg (·.1) (Option.some.inj dialed).symm

namespace PoolConfig

/-- In every state that a pool comes to, what it keeps is borne out by the record. -/
theorem Reachable.cached (h : p.Reachable s) : Cached s := by
  obtain ⟨world, steps⟩ := h
  refine steps.preserves (Q := Cached) ?_ ?_ ?_ ?_
  · intro cancelAt key pool pool' r r' o hs call finished
    obtain ⟨asked, made, lost, kept, target, served⟩ := call.served finished
    exact served.cached hs
  · intro cancelAt order pool pool' r r' o hs perm closing finished
    rcases close_cases closing with ⟨isClosed, -, rfl, rfl⟩ | ⟨-, -, rfl⟩
    · have none : order = [] := (hs.emptied isClosed ▸ perm).eq_nil
      subst none
      exact ⟨hs.projects, hs.owner, List.nodup_nil, by simp, fun _ => rfl⟩
    · exact ⟨hs.projects, hs.owner, List.nodup_nil, by simp, fun _ => rfl⟩
  · exact fun hs => ⟨hs.projects, hs.owner, hs.keys, hs.tested, hs.emptied⟩
  · exact ⟨List.nodup_nil, by simp [PoolState.start], List.nodup_nil, by simp [PoolState.start],
      fun _ => rfl⟩

/-- Once there is a credential for a project, it stays, and no account is asked for any more. -/
theorem Steps.credential_kept (h : p.Steps s s') {project : String} {c : Credential}
    (hc : s.pool.credential? project = some c) :
    s'.pool.credential? project = some c ∧
      s'.run.creations.count project = s.run.creations.count project := by
  refine h.preserves (Q := fun s' => s'.pool.credential? project = some c ∧
    s'.run.creations.count project = s.run.creations.count project) ?_ ?_ ?_ ⟨hc, rfl⟩
  · rintro cancelAt key pool pool' r r' o ⟨kept, count⟩ call finished
    obtain ⟨asked, made, lost, given, target, served⟩ := call.served finished
    exact ⟨served.credential_kept kept, (served.creations_kept kept).trans count⟩
  · rintro cancelAt order pool pool' r r' o ⟨kept, count⟩ perm closing finished
    rcases close_cases closing with ⟨-, -, rfl, rfl⟩ | ⟨-, drained, rfl⟩
    · exact ⟨kept, count⟩
    · obtain ⟨gone, skipped, -, emptied, -⟩ := drained.split finished
      exact ⟨kept, by rw [emptied.creations]; exact count⟩
  · exact id

/-- After every history: a project has at most one credential, its own, which lasts and saves every
further account; a cluster with a connection has a credential; a connection comes of a dial for its
cluster, the URI of which spells the username and the password of that credential, and passed its
test, and no dial serves two clusters; and a closed pool has no connections. -/
theorem Reachable.cache_sound (h : p.Reachable s) :
    (s.pool.credentials.map Prod.fst).Nodup ∧
      (∀ project credential, s.pool.credential? project = some credential →
        credential.owner = project ∧ ∀ s', p.Steps s s' →
          s'.pool.credential? project = some credential ∧
            s'.run.creations.count project = s.run.creations.count project) ∧
      (s.pool.isClosed = true → s.pool.connections = []) ∧
      ∃ n, p.NumberedReachable n ∧ n.forget = s ∧
        (n.pool.connections.map Prod.fst).Nodup ∧
        (∀ key c, (key, c) ∈ n.pool.connections → ∃ credential endpoint target,
          s.pool.credential? key.project = some credential ∧
            target = .assemble endpoint credential ∧
            target.username = credential.username ∧
            Uri.Spells endpoint credential target.uri.expose ∧
            n.run.dials[c.number]? = some (some key, target) ∧
            (key, target, c) ∈ n.run.openings ∧ c ∈ n.run.passed) ∧
        ∀ key c key' c', (key, c) ∈ n.pool.connections → (key', c') ∈ n.pool.connections →
          c.number = c'.number → key = key' := by
  obtain ⟨n, hn, rfl⟩ := h.numbered
  have cached : Cached n := hn.reachable.cached
  have counted := hn.counted
  refine ⟨cached.projects, ?_, ?_, n, hn, rfl, cached.keys, ?_, ?_⟩
  · intro project credential present
    refine ⟨cached.owner project credential (Pool.mem_of_credential? present), ?_⟩
    exact fun s' steps => steps.credential_kept present
  · intro isClosed
    rw [PoolState.forget, Pool.connections_forget, cached.emptied isClosed, List.map_nil]
  · intro key c mem
    obtain ⟨credential, endpoint, present, opened, passed⟩ := cached.tested key c mem
    exact ⟨credential, endpoint, _, present, rfl, rfl, Target.spells_assemble endpoint credential,
      counted.dialed _ _ _ opened, opened, passed⟩
  · exact fun key c key' c' => cached.key_unique counted

/-- The first call of a pool brings a credential, which then stays. -/
theorem cache_sound_first_call :
    ∃ s, smoothRehearsal.pool.Reachable s ∧ s.pool.connections = [(⟨"shop", "orders"⟩, 1)] ∧
      ∃ credential, s.pool.credential? "shop" = some credential ∧ credential.owner = "shop" ∧
        ∀ s', smoothRehearsal.pool.Steps s s' → s'.pool.credential? "shop" = some credential := by
  have step : smoothRehearsal.pool.Step (.start {})
      (smoothRehearsal.pool.afterConnect none ⟨"shop", "orders"⟩ (.start {})) :=
    .afterConnect nofun
  have reachable : smoothRehearsal.pool.Reachable _ := ⟨{}, step.steps⟩
  obtain ⟨owner, kept⟩ := reachable.cache_sound.2.1 "shop" _ rfl
  exact ⟨_, reachable, rfl, _, rfl, owner, fun s' steps => (kept s' steps).1⟩

end PoolConfig
end ClusterAccess
