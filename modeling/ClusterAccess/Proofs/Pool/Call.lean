import ClusterAccess.Proofs.Pool.Attempt

/-!
# Calls as derivations

The ways in which opening a connection, getting a credential and a whole call to the pool can go.

## Main definitions

* `Opened`, `Credited`, `Connected`: the ways of `openConnection`, `credential` and `connect`.

## Main statements

* `PoolConfig.connect_connected`: every call goes one of these ways.
-/
namespace ClusterAccess

open Time

variable {σ C α β : Type}

/-- A new connection: the wait is cancelled, the cluster cannot be found, or attempts are made. -/
inductive Opened (p : PoolConfig σ C) (cancelAt : Option Nat) (key : ClusterKey)
    (dialer : Option ProxyDialer) (credential : Credential) (r : Run σ C) :
    Outcome C → Run σ C → Prop
  | unstarted {r' : Run σ C} (wait : p.wait cancelAt 0 r = (.failed .cancelled, r')) :
      Opened p cancelAt key dialer credential r (.failed .cancelled) r'
  | unresolved {r₁ r' : Run σ C} {o₁ : Outcome Endpoint} {o : Outcome C}
      (wait : p.wait cancelAt 0 r = (.ok (), r₁))
      (lookUp : Task.await cancelAt (p.askEndpoint key) r₁ = (o₁, r')) (passedOn : o₁.PassedOn o) :
      Opened p cancelAt key dialer credential r o r'
  | attempted {r₁ r₂ r' : Run σ C} {endpoint : Endpoint} {o : Outcome C}
      (wait : p.wait cancelAt 0 r = (.ok (), r₁))
      (lookUp : Task.await cancelAt (p.askEndpoint key) r₁ = (.ok endpoint, r₂))
      (attempts : Retried p cancelAt key (.assemble endpoint credential) dialer
        (p.options dialer) p.maxAttempts .cancelled r₂ o r') :
      Opened p cancelAt key dialer credential r o r'

/-- A credential: the one that is kept, a new one, or none. -/
inductive Credited (p : PoolConfig σ C) (cancelAt : Option Nat) (project : String) (pool : Pool C)
    (r : Run σ C) : Outcome Credential → Pool C → Run σ C → Prop
  | kept {c : Credential} (present : pool.credential? project = some c) :
      Credited p cancelAt project pool r (.ok c) pool r
  | made {c : Credential} {r' : Run σ C} (absent : pool.credential? project = none)
      (provision : Task.await cancelAt (p.services.provision p.settings.account project) r =
        (.ok c, r')) :
      Credited p cancelAt project pool r (.ok c) (pool.putCredential project c) r'
  | refused {o : Outcome Credential} {r' : Run σ C} (absent : pool.credential? project = none)
      (provision : Task.await cancelAt (p.services.provision p.settings.account project) r =
        (o, r')) (noResult : ∀ c, o ≠ .ok c) :
      Credited p cancelAt project pool r o pool r'

/-- A call to the pool. -/
inductive Connected (p : PoolConfig σ C) (cancelAt : Option Nat) (key : ClusterKey)
    (pool : Pool C) (r : Run σ C) : Outcome (Credential × C) → Pool C → Run σ C → Prop
  | closed (isClosed : pool.isClosed = true) :
      Connected p cancelAt key pool r (.failed .closed) pool r
  | misconfigured {e : AccessError} (isOpen : pool.isClosed = false)
      (dialer : p.dialer key = .error e) :
      Connected p cancelAt key pool r (.failed e) pool r
  | unprovisioned {d : Option ProxyDialer} {o₁ : Outcome Credential}
      {o : Outcome (Credential × C)} {r' : Run σ C} (isOpen : pool.isClosed = false)
      (dialer : p.dialer key = .ok d) (absent : pool.credential? key.project = none)
      (provision : Task.await cancelAt (p.services.provision p.settings.account key.project) r =
        (o₁, r')) (passedOn : o₁.PassedOn o) :
      Connected p cancelAt key pool r o pool r'
  | hit {d : Option ProxyDialer} {credential : Credential} {c : C} {pool₁ : Pool C}
      {r₁ : Run σ C} (isOpen : pool.isClosed = false) (dialer : p.dialer key = .ok d)
      (credited : Credited p cancelAt key.project pool r (.ok credential) pool₁ r₁)
      (present : pool₁.connection? key = some c) :
      Connected p cancelAt key pool r (.ok (credential, c)) pool₁ r₁
  | opened {d : Option ProxyDialer} {credential : Credential} {c : C} {pool₁ : Pool C}
      {r₁ r₂ : Run σ C} (isOpen : pool.isClosed = false) (dialer : p.dialer key = .ok d)
      (credited : Credited p cancelAt key.project pool r (.ok credential) pool₁ r₁)
      (absent : pool₁.connection? key = none)
      (opening : Opened p cancelAt key d credential r₁ (.ok c) r₂) :
      Connected p cancelAt key pool r (.ok (credential, c)) (pool₁.putConnection key c) r₂
  | unopened {d : Option ProxyDialer} {credential : Credential} {o₁ : Outcome C}
      {o : Outcome (Credential × C)} {pool₁ : Pool C} {r₁ r₂ : Run σ C}
      (isOpen : pool.isClosed = false) (dialer : p.dialer key = .ok d)
      (credited : Credited p cancelAt key.project pool r (.ok credential) pool₁ r₁)
      (absent : pool₁.connection? key = none)
      (opening : Opened p cancelAt key d credential r₁ o₁ r₂) (passedOn : o₁.PassedOn o) :
      Connected p cancelAt key pool r o pool₁ r₂

/-- Without a credential the pool is as before. -/
theorem Credited.absent_of_ne_ok {p : PoolConfig σ C} {cancelAt : Option Nat} {project : String}
    {pool pool' : Pool C} {r r' : Run σ C} {o : Outcome Credential}
    (h : Credited p cancelAt project pool r o pool' r') (noResult : ∀ c, o ≠ .ok c) :
    pool.credential? project = none ∧ pool' = pool ∧
      Task.await cancelAt (p.services.provision p.settings.account project) r = (o, r') := by
  cases h with
  | kept => exact absurd rfl (noResult _)
  | made => exact absurd rfl (noResult _)
  | refused absent provision => exact ⟨absent, rfl, provision⟩

namespace PoolConfig

variable (p : PoolConfig σ C)

theorem dialer_error {key : ClusterKey} {e : AccessError} (h : p.dialer key = .error e) :
    ∃ m, e = .dialer m := by
  unfold dialer at h
  split at h
  · cases h
  · cases h
    exact ⟨_, rfl⟩

theorem openConnection_opened {cancelAt : Option Nat} {key : ClusterKey}
    {dialer : Option ProxyDialer} {credential : Credential} {r r' : Run σ C} {o : Outcome C}
    (h : p.openConnection cancelAt key dialer credential r = (o, r')) :
    Opened p cancelAt key dialer credential r o r' := by
  unfold openConnection at h
  simp only [bind, Task.bind] at h
  rcases hw : p.wait cancelAt 0 r with ⟨o₁, r₁⟩
  rcases (p.wait_cases hw).1 with rfl | rfl <;> simp only [hw] at h
  · rcases hl : Task.await cancelAt (p.askEndpoint key) r₁ with ⟨_ | _ | _ | _, r₂⟩ <;>
      simp only [hl] at h
    · exact .attempted hw hl (p.retry_retried h)
    all_goals
      obtain ⟨rfl, rfl⟩ := Prod.mk.inj h
      exact .unresolved hw hl (by constructor)
  · obtain ⟨rfl, rfl⟩ := Prod.mk.inj h
    exact .unstarted hw

theorem credential_credited {cancelAt : Option Nat} {project : String} {pool pool' : Pool C}
    {r r' : Run σ C} {o : Outcome Credential}
    (h : p.credential cancelAt project pool r = (o, pool', r')) :
    Credited p cancelAt project pool r o pool' r' := by
  unfold credential at h
  split at h
  next c present =>
    obtain ⟨rfl, rfl, rfl⟩ : o = .ok c ∧ pool' = pool ∧ r' = r := by simpa [eq_comm] using h
    exact .kept present
  next absent =>
    split at h
    next c r₁ provision =>
      simp only [Prod.mk.injEq] at h
      obtain ⟨rfl, rfl, rfl⟩ := h
      exact .made absent provision
    next o₁ r₁ noResult provision =>
      simp only [Prod.mk.injEq] at h
      obtain ⟨rfl, rfl, rfl⟩ := h
      exact .refused absent provision fun c hc => noResult c hc

theorem connect_connected {cancelAt : Option Nat} {key : ClusterKey} {pool pool' : Pool C}
    {r r' : Run σ C} {o : Outcome (Credential × C)}
    (h : p.connect cancelAt key pool r = (o, pool', r')) :
    Connected p cancelAt key pool r o pool' r' := by
  unfold connect at h
  cases hclosed : pool.isClosed <;> simp only [hclosed, if_true, if_false, Bool.false_eq_true] at h
  case true =>
    obtain ⟨rfl, rfl, rfl⟩ : o = .failed .closed ∧ pool' = pool ∧ r' = r := by
      simpa [eq_comm] using h
    exact .closed hclosed
  rcases hd : p.dialer key with e | d <;> simp only [hd] at h
  · obtain ⟨rfl, rfl, rfl⟩ : o = .failed e ∧ pool' = pool ∧ r' = r := by simpa [eq_comm] using h
    exact .misconfigured hclosed hd
  rcases hc : p.credential cancelAt key.project pool r with ⟨o₁, pool₁, r₁⟩
  have credited := p.credential_credited hc
  cases o₁ <;> simp only [hc] at h
  case ok credential =>
    cases hp : pool₁.connection? key <;> simp only [hp] at h
    case some c =>
      obtain ⟨rfl, rfl, rfl⟩ : o = .ok (credential, c) ∧ pool' = pool₁ ∧ r' = r₁ := by
        simpa [eq_comm] using h
      exact .hit hclosed hd credited hp
    rcases ho : p.openConnection cancelAt key d credential r₁ with ⟨_ | _ | _ | _, r₂⟩ <;>
      simp only [ho, Prod.mk.injEq] at h <;> obtain ⟨rfl, rfl, rfl⟩ := h
    · exact .opened hclosed hd credited hp (p.openConnection_opened ho)
    all_goals exact .unopened hclosed hd credited hp (p.openConnection_opened ho) (by constructor)
  all_goals
    obtain ⟨absent, rfl, provision⟩ := credited.absent_of_ne_ok (by simp)
    simp only [Prod.mk.injEq] at h
    obtain ⟨rfl, rfl, rfl⟩ := h
    exact .unprovisioned hclosed hd absent provision (by constructor)

end PoolConfig
end ClusterAccess
