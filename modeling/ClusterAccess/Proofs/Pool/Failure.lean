import ClusterAccess.Proofs.Pool.Growth
import ClusterAccess.Proofs.Pool.History

/-!
# Failed calls

A call that fails leaves the connections of the pool as they were; at most the project has got its
credential. What the call fails with tells where the failure comes from. Failures of the random
source and of the control plane are only quoted in the text of another failure, and those of the
driver end the call as they are only if no other attempt can help.

## Main definitions

* `Fired`: the cancellation has come.
* `Unprovisioned`, `Unresolved`: why there is no account, and why there is no endpoint.
* `DialFails`, `PingFails`: what the driver failed with in the end.
* `Cause`: what a call can fail with, each time with its reason.

## Main statements

* `Retried.cause`, `Opened.cause`, `Connected.cause`: every failure has a cause.
* `PoolConfig.connect_failed`: what a failed call leaves behind.
-/
namespace ClusterAccess

open Time

variable {σ C α : Type}

/-! ## Where failures come from -/

/-- The cancellation comes by `now`. -/
def Fired (cancelAt : Option Nat) (now : Nat) : Prop := ∃ t, cancelAt = some t ∧ t ≤ now

/-- Why no account comes about between two worlds, and what is said of it. -/
inductive Unprovisioned (s : Services σ C) (settings : AccountSettings) (project : String)
    (w w' : σ) : String → Prop
  | password {e : AccessError} (fails : s.password settings.passwordPolicy w = (.failed e, w')) :
      Unprovisioned s settings project w w' e.message
  | identifier {password : Secret} {w₁ : σ} {e : AccessError}
      (drawn : s.password settings.passwordPolicy w = (.ok password, w₁))
      (fails : s.identifier identifierLength w₁ = (.failed e, w')) :
      Unprovisioned s settings project w w' e.message
  | lifetime (tooLong : longestLifetime < settings.lifetime) :
      Unprovisioned s settings project w w' ("account TTL out of range: " ++
        "Source duration value is out of range for the target type")
  | account {order : AccountOrder} {w₁ : σ} {d : Nat} {e : AccessError}
      (drawn : s.order settings project w = (.ok order, w₁))
      (fails : s.createAccount project order.request w₁ = (.after d (.failed e), w')) :
      Unprovisioned s settings project w w' e.message

/-- Why a look-up that leads to `w'` yields no endpoint, and what is said of it. -/
inductive Unresolved (s : Services σ C) (key : ClusterKey) (w' : σ) : String → Prop
  | lookUp {w : σ} {d : Nat} {e : AccessError}
      (fails : s.clusterInfo key.project key.cluster w = (.after d (.failed e), w')) :
      Unresolved s key w' s!"failed to get cluster: {e.message}"
  | unpublished {w : σ} {d : Nat} {info : ClusterInfo}
      (found : s.clusterInfo key.project key.cluster w = (.after d (.ok info), w'))
      (none : Endpoint.choose? info.strings = none) :
      Unresolved s key w' "cluster does not have a connection string"

/-- The driver fails with `e` to open a connection, and that leads to `w'`. -/
def DialFails (s : Services σ C) (w' : σ) (e : AccessError) : Prop :=
  ∃ target dialer options w d, s.connect target dialer options w = (.after d (.error e), w')

/-- A connection fails its test with `e`, and giving it up leads to `w'`. -/
def PingFails (s : Services σ C) (w' : σ) (e : AccessError) : Prop :=
  ∃ c w d w₁, s.ping c w = (.after d (.error e), w₁) ∧ (s.disconnect c w₁).2 = w'

/-- What can keep a call that has a credential from a new connection, and leave the run in `r'`. -/
inductive Unopened (p : PoolConfig σ C) (cancelAt : Option Nat) (key : ClusterKey) (r' : Run σ C) :
    AccessError → Prop
  | fired (fired : Fired cancelAt r'.now) : Unopened p cancelAt key r' .cancelled
  | unresolved {m : String} (why : Unresolved p.services key r'.world m) :
      Unopened p cancelAt key r' (.resolution key.project key.cluster m)
  /-- The driver itself says that it was cancelled. -/
  | cancelled (driver : DialFails p.services r'.world .cancelled ∨
      PingFails p.services r'.world .cancelled) : Unopened p cancelAt key r' .cancelled
  | unsupported {m : String} (driver : DialFails p.services r'.world (.unsupported m) ∨
      PingFails p.services r'.world (.unsupported m)) :
      Unopened p cancelAt key r' (.unsupported m)
  /-- The last attempt opened no connection. -/
  | undialed {e : AccessError} (driver : DialFails p.services r'.world e)
      (retryable : PoolConfig.isFinal e = false) :
      Unopened p cancelAt key r' (.connectExhausted key.project key.cluster p.maxAttempts
        (.dial key.project key.cluster p.maxAttempts e.message))
  /-- The connection of the last attempt failed its test. -/
  | untested {e : AccessError} (driver : PingFails p.services r'.world e)
      (retryable : PoolConfig.isFinal e = false) :
      Unopened p cancelAt key r' (.connectExhausted key.project key.cluster p.maxAttempts
        (.ping key.project key.cluster p.maxAttempts e.message))

/-- What a call can fail with that finds the pool in `r` and leaves it in `r'`. -/
inductive Cause (p : PoolConfig σ C) (cancelAt : Option Nat) (key : ClusterKey) (pool : Pool C)
    (r r' : Run σ C) : AccessError → Prop
  | closed (isClosed : pool.isClosed = true) : Cause p cancelAt key pool r r' .closed
  | misconfigured {m : String} (dialer : p.dialer key = .error (.dialer m)) :
      Cause p cancelAt key pool r r' (.dialer m)
  | fired (fired : Fired cancelAt r'.now) : Cause p cancelAt key pool r r' .cancelled
  | unprovisioned {m : String}
      (why : Unprovisioned p.services p.settings.account key.project r.world r'.world m) :
      Cause p cancelAt key pool r r' (.provisioning key.project m)
  | unopened {e : AccessError} (why : Unopened p cancelAt key r' e) :
      Cause p cancelAt key pool r r' e

/-- Whether a call that fails so may have got a credential before. -/
def AccessError.mayFollowCredential : AccessError → Bool
  | cancelled | resolution .. | unsupported _ | connectExhausted .. => true
  | _ => false

def Call.isForAccount : Call C → Bool
  | password _ | createAccount .. => true
  | _ => false

/-! ## Failed waits -/

/-- A wait that fails was cancelled, or it fails with the reply. -/
theorem Awaited.failed_cases {cancelAt : Option Nat} {r started r' : Run σ C}
    {reply : Reply (Outcome α)} {e : AccessError}
    (h : Awaited cancelAt r reply started (.failed e) r') :
    (e = .cancelled ∧ Fired cancelAt r'.now) ∨
      ∃ d, reply = .after d (.failed e) ∧ r'.world = started.world := by
  cases h with
  | late cancel before => exact .inl ⟨rfl, _, cancel, before⟩
  | cut cancel => exact .inl ⟨rfl, _, cancel, Nat.le_refl _⟩
  | answered answer => exact .inr ⟨_, answer, rfl⟩

theorem Task.await_ask_failed {cancelAt : Option Nat} {call : Call C}
    {f : σ → Reply (Except AccessError α) × σ} {r r' : Run σ C} {e : AccessError}
    (h : Task.await cancelAt (Services.ask call f) r = (.failed e, r')) :
    (e = .cancelled ∧ Fired cancelAt r'.now) ∨
      ∃ d, f r.world = (.after d (.error e), r'.world) := by
  rcases (Task.await_ask h).failed_cases with fired | ⟨d, answer, world⟩
  · exact .inl fired
  · obtain ⟨x, replied, hx⟩ := Reply.map_eq_after.mp answer
    obtain rfl := Outcome.ofExcept_eq_failed.mp hx
    exact .inr ⟨d, Prod.ext replied world.symm⟩

theorem Services.order_failed {s : Services σ C} {settings : AccountSettings} {project : String}
    {w w' : σ} {e : AccessError} (h : s.order settings project w = (.failed e, w')) :
    ∃ m, e = .provisioning project m ∧ Unprovisioned s settings project w w' m := by
  unfold order at h
  rcases drawn : s.password settings.passwordPolicy w with ⟨password | e₁ | _ | _, w₁⟩ <;>
    simp only [drawn, Prod.mk.injEq, Outcome.failed.injEq, reduceCtorEq, false_and] at h
  · rcases named : s.identifier identifierLength w₁ with ⟨identifier | e₂ | _ | _, w₂⟩ <;>
      simp only [named, Prod.mk.injEq, Outcome.failed.injEq, reduceCtorEq, false_and] at h
    · split at h
      next tooLong =>
        obtain ⟨rfl, -⟩ : _ = e ∧ _ := by simpa using h
        exact ⟨_, rfl, .lifetime tooLong⟩
      next => split at h <;> simp at h
    · obtain ⟨rfl, rfl⟩ := h
      exact ⟨_, rfl, .identifier drawn named⟩
  · obtain ⟨rfl, rfl⟩ := h
    exact ⟨_, rfl, .password drawn⟩

variable {p : PoolConfig σ C} {cancelAt : Option Nat} {key : ClusterKey} {target : Target}
  {dialer : Option ProxyDialer} {options : ConnectOptions} {attempt left : Nat}
  {last e : AccessError} {credential : Credential} {pool pool' : Pool C} {r r' : Run σ C}

/-- Without an account, the call was cancelled, or the failure is quoted. -/
theorem PoolConfig.await_provision_failed {project : String}
    (h : Task.await cancelAt (p.services.provision p.settings.account project) r =
      (.failed e, r')) :
    (e = .cancelled ∧ Fired cancelAt r'.now) ∨
      (∃ m, e = .provisioning project m ∧
        Unprovisioned p.services p.settings.account project r.world r'.world m) := by
  obtain ⟨reply, started, provisioned, awaited⟩ := p.await_provision h
  rcases awaited.failed_cases with fired | ⟨d, answer, world⟩
  · exact .inl fired
  · rw [world]
    cases provisioned with
    | early drawn passedOn =>
      cases answer
      cases passedOn
      exact .inr (Services.order_failed drawn)
    | @asked order w drawn =>
      obtain ⟨o, replied, told⟩ := Reply.map_eq_after.mp answer
      cases o <;> simp only [AccountOrder.credential, Outcome.handle, reduceCtorEq] at told
      cases told
      exact .inr ⟨_, rfl, .account drawn (Prod.ext replied rfl)⟩

/-- Without an endpoint, the call was cancelled, or the failure is quoted. -/
theorem PoolConfig.await_askEndpoint_failed
    (h : Task.await cancelAt (p.askEndpoint key) r = (.failed e, r')) :
    (e = .cancelled ∧ Fired cancelAt r'.now) ∨
      ∃ m, e = .resolution key.project key.cluster m ∧ Unresolved p.services key r'.world m := by
  rcases (p.await_askEndpoint h).failed_cases with fired | ⟨d, answer, world⟩
  · exact .inl fired
  · rw [PoolConfig.askEndpoint_eq] at answer
    obtain ⟨o, replied, told⟩ := Reply.map_eq_after.mp answer
    have found : p.services.clusterInfo key.project key.cluster r.world = (.after d o, r'.world) :=
      Prod.ext replied world.symm
    cases o with
    | ok info =>
      rcases chosen : Endpoint.choose? info.strings with _ | endpoint <;>
        simp only [Outcome.handle, Endpoint.resolve, chosen, Outcome.ofExcept, reduceCtorEq,
          Outcome.failed.injEq] at told
      subst told
      exact .inr ⟨_, rfl, .unpublished found chosen⟩
    | failed e' =>
      simp only [Outcome.handle, Endpoint.resolve, Outcome.ofExcept, Outcome.failed.injEq] at told
      subst told
      exact .inr ⟨_, rfl, .lookUp found⟩
    | aborted => cases told
    | stuck => cases told

/-! ## Failed attempts -/

/-- An attempt that fails was cancelled, or it fails with what the driver says. -/
theorem Attempted.failed_cases
    (h : Attempted p cancelAt key target dialer options attempt r (.failed e) r') :
    (e = .cancelled ∧ Fired cancelAt r'.now) ∨
      (∃ e₁, DialFails p.services r'.world e₁ ∧
        e = PoolConfig.attemptError (.dial key.project key.cluster attempt) e₁) ∨
      ∃ e₁, PingFails p.services r'.world e₁ ∧
        e = PoolConfig.attemptError (.ping key.project key.cluster attempt) e₁ := by
  cases h with
  | undialed dial =>
    rcases Task.await_ask_failed dial with ⟨rfl, fired⟩ | ⟨d, replied⟩
    · exact .inl ⟨rfl, fired⟩
    · exact .inr (.inl ⟨_, ⟨_, _, _, _, d, replied⟩, rfl⟩)
  | @failed c _ r₁ r₂ _ x dial ping discard =>
    obtain ⟨d, w, given, rfl⟩ := Task.await_disconnect discard
    rcases Task.await_ask_failed ping with ⟨rfl, t, cancel, before⟩ | ⟨d', replied⟩
    · exact .inl ⟨rfl, t, cancel, Nat.le_trans before (Nat.le_add_right _ _)⟩
    · exact .inr (.inr ⟨_, ⟨c, _, d', _, replied, congrArg Prod.snd given⟩, rfl⟩)

/-- What an attempt fails with that is the last one. -/
theorem Attempted.unopened
    (h : Attempted p cancelAt key target dialer options attempt r (.failed e) r')
    (final : PoolConfig.isFinal e = true) : Unopened p cancelAt key r' e := by
  have told {reword : String → AccessError} {e₁ : AccessError}
      (worded : ∀ m, PoolConfig.isFinal (reword m) = false)
      (he : e = PoolConfig.attemptError reword e₁) : e = e₁ := by
    unfold PoolConfig.attemptError at he
    split at he
    · exact he
    · simp [he, worded] at final
  rcases h.failed_cases with ⟨rfl, fired⟩ | ⟨e₁, driver, he⟩ | ⟨e₁, driver, he⟩
  · exact .fired fired
  · obtain rfl := told (fun _ => rfl) he
    rcases PoolConfig.isFinal_cases final with rfl | ⟨m, rfl⟩
    · exact .cancelled (.inl driver)
    · exact .unsupported (.inl driver)
  · obtain rfl := told (fun _ => rfl) he
    rcases PoolConfig.isFinal_cases final with rfl | ⟨m, rfl⟩
    · exact .cancelled (.inr driver)
    · exact .unsupported (.inr driver)

/-- Once the attempts are used up, the failure of the last one is told. -/
theorem Attempted.unopened_exhausted {r₁ : Run σ C}
    (h : Attempted p cancelAt key target dialer options p.maxAttempts r (.failed e) r₁)
    (retryable : PoolConfig.isFinal e = false) (world : r'.world = r₁.world) :
    Unopened p cancelAt key r'
      (.connectExhausted key.project key.cluster p.maxAttempts e) := by
  have told {reword : String → AccessError} {e₁ : AccessError}
      (he : e = PoolConfig.attemptError reword e₁) :
      e = reword e₁.message ∧ PoolConfig.isFinal e₁ = false := by
    unfold PoolConfig.attemptError at he
    split at he
    next final => simp [he, final] at retryable
    next retryable => exact ⟨he, by simpa using retryable⟩
  rcases h.failed_cases with ⟨rfl, -⟩ | ⟨e₁, driver, he⟩ | ⟨e₁, driver, he⟩
  · cases retryable
  · obtain ⟨rfl, other⟩ := told he
    exact .undialed (world ▸ driver) other
  · obtain ⟨rfl, other⟩ := told he
    exact .untested (world ▸ driver) other

/-- A wait is only cut short by the cancellation, and ends with it. -/
theorem RetryDelay.wait_cut {delay : RetryDelay} {cancelIn : Option Nat}
    (h : (delay.wait attempt cancelIn).1 = true) :
    cancelIn = some (delay.wait attempt cancelIn).2 := by
  unfold wait waitCancellable at h ⊢
  dsimp only at h ⊢
  cases cancelIn <;> grind

/-- A wait that fails was cancelled. -/
theorem PoolConfig.wait_failed (h : p.wait cancelAt attempt r = (.failed e, r')) :
    e = .cancelled ∧ Fired cancelAt r'.now := by
  rw [wait_eq, Prod.mk.injEq] at h
  obtain ⟨failed, rfl⟩ := h
  split at failed
  next cut =>
    have ends := RetryDelay.wait_cut cut
    obtain ⟨t, cancel, left⟩ := Option.map_eq_some_iff.mp ends
    refine ⟨by cases failed; rfl, t, cancel, ?_⟩
    rw [Run.atTime_now, ← left]
    omega
  next => cases failed

theorem Retried.unopened
    (h : Retried p cancelAt key target dialer options left last r (.failed e) r')
    (attempts : 0 < left) : Unopened p cancelAt key r' e := by
  generalize failed : Outcome.failed e = o at h
  induction h with
  | exhausted => cases attempts
  | ended attempt final =>
    subst failed
    exact attempt.unopened (final e rfl)
  | cancelled _ _ wait =>
    cases failed
    exact .fired (PoolConfig.wait_failed wait).2
  | @again left _ _ _ _ _ _ _ attempt retryable wait rest ih =>
    cases left with
    | zero =>
      cases rest
      cases failed
      obtain ⟨-, elapsed, rfl⟩ := p.wait_cases wait
      exact attempt.unopened_exhausted retryable rfl
    | succ left => exact ih (Nat.succ_pos left) failed

theorem Opened.unopened (h : Opened p cancelAt key dialer credential r (.failed e) r') :
    Unopened p cancelAt key r' e := by
  cases h with
  | unstarted wait => exact .fired (PoolConfig.wait_failed wait).2
  | unresolved _ lookUp passedOn =>
    cases passedOn
    rcases PoolConfig.await_askEndpoint_failed lookUp with ⟨rfl, fired⟩ | ⟨m, rfl, why⟩
    · exact .fired fired
    · exact .unresolved why
  | attempted _ _ attempts => exact attempts.unopened p.maxAttempts_pos

/-! ## Failed calls -/

theorem Cause.isUnreachable_iff (h : Cause p cancelAt key pool r r' e) :
    e.isUnreachable = true ↔
      ∃ last, e = .connectExhausted key.project key.cluster p.maxAttempts last := by
  cases h with
  | unopened why => cases why <;> simp [AccessError.isUnreachable]
  | _ => simp [AccessError.isUnreachable]

theorem Cause.isUnauthorized_eq (h : Cause p cancelAt key pool r r' e) :
    e.isUnauthorized = false := by
  cases h with
  | unopened why => cases why <;> rfl
  | _ => rfl

theorem Unopened.mayFollowCredential (h : Unopened p cancelAt key r' e) :
    e.mayFollowCredential = true := by
  cases h <;> rfl

/-- A failed call leaves the pool as it was, or it has got the credential for its project. -/
theorem Connected.failed_pool (h : Connected p cancelAt key pool r (.failed e) pool' r') :
    pool' = pool ∨ ∃ credential, pool' = pool.putCredential key.project credential ∧
      pool.credential? key.project = none ∧ credential.owner = key.project ∧
      e.mayFollowCredential = true := by
  cases h with
  | closed => exact .inl rfl
  | misconfigured => exact .inl rfl
  | unprovisioned => exact .inl rfl
  | unopened _ _ credited _ opening passedOn =>
    cases passedOn
    cases credited with
    | kept => exact .inl rfl
    | made absent provision =>
      have owner := (PoolConfig.await_provision_grown provision).2 _ rfl
      exact .inr ⟨_, rfl, absent, owner, opening.unopened.mayFollowCredential⟩
    | refused _ _ noResult => exact absurd rfl (noResult _)

theorem Connected.cause (h : Connected p cancelAt key pool r (.failed e) pool' r') :
    Cause p cancelAt key pool r r' e := by
  cases h with
  | closed isClosed => exact .closed isClosed
  | misconfigured _ dialer =>
    obtain ⟨m, rfl⟩ := p.dialer_error dialer
    exact .misconfigured dialer
  | unprovisioned _ _ _ provision passedOn =>
    cases passedOn
    rcases PoolConfig.await_provision_failed provision with ⟨rfl, fired⟩ | ⟨m, rfl, why⟩
    · exact .fired fired
    · exact .unprovisioned why
  | unopened _ _ _ _ opening passedOn =>
    cases passedOn
    exact .unopened opening.unopened

/-- A call that fails before it asks for anything takes no time. -/
theorem Connected.failed_at_once (h : Connected p cancelAt key pool r (.failed e) pool' r')
    (early : e = .closed ∨ ∃ m, e = .dialer m) : r' = r := by
  cases h with
  | closed => rfl
  | misconfigured => rfl
  | unprovisioned _ _ _ provision passedOn =>
    cases passedOn
    rcases PoolConfig.await_provision_failed provision with ⟨rfl, -⟩ | ⟨m, rfl, -⟩ <;> simp at early
  | unopened _ _ _ _ opening passedOn =>
    cases passedOn
    have late := opening.unopened.mayFollowCredential
    rcases early with rfl | ⟨m, rfl⟩ <;> cases late

/-- Provisioning only calls for a password and an account. -/
theorem PoolConfig.await_provision_calls {project : String} {o : Outcome Credential}
    (h : Task.await cancelAt (p.services.provision p.settings.account project) r = (o, r')) :
    r'.events = r.events ∧
      ∃ cs, r'.calls = r.calls ++ cs ∧ ∀ c ∈ cs, c.2.isForAccount = true := by
  obtain ⟨reply, started, provisioned, awaited⟩ := p.await_provision h
  have adds : started.events = r.events ∧
      ∃ cs, started.calls = r.calls ++ cs ∧ ∀ c ∈ cs, c.2.isForAccount = true := by
    refine ⟨provisioned.events_eq, ?_⟩
    cases provisioned with
    | early => exact ⟨[_], rfl, by simp [Call.isForAccount]⟩
    | asked => exact ⟨_, List.append_assoc _ [_] [_], by simp [Call.isForAccount]⟩
  cases awaited with
  | late => exact ⟨rfl, [], by simp, by simp⟩
  | cut => exact adds
  | answered => exact adds
  | silent => exact adds

/-- A call that gets no account neither looks the cluster up nor dials. -/
theorem Connected.unprovisioned_calls {project m : String}
    (h : Connected p cancelAt key pool r (.failed (.provisioning project m)) pool' r') :
    r'.events = r.events ∧
      ∃ cs, r'.calls = r.calls ++ cs ∧ ∀ c ∈ cs, c.2.isForAccount = true := by
  cases h with
  | misconfigured _ dialer =>
    obtain ⟨m', h⟩ := p.dialer_error dialer
    cases h
  | unprovisioned _ _ _ provision => exact PoolConfig.await_provision_calls provision
  | unopened _ _ _ _ opening passedOn =>
    cases passedOn
    cases opening.unopened.mayFollowCredential

/-- A failed call leaves the connections of the pool and whether it is closed as they were, and it
adds at most the credential of its project, if there was none. Every failure has one of the causes,
whatever the services fail with. A closed pool and wrong proxy settings are told at once; without an
account nothing is looked up and no connection is opened; and only used up attempts count as an
unreachable cluster. -/
theorem PoolConfig.connect_failed (h : p.connect cancelAt key pool r = (.failed e, pool', r')) :
    pool'.connections = pool.connections ∧ pool'.isClosed = pool.isClosed ∧
      (pool'.credentials = pool.credentials ∨
        ∃ credential, pool'.credentials = pool.credentials ++ [(key.project, credential)] ∧
          pool.credential? key.project = none ∧ credential.owner = key.project ∧
          e.mayFollowCredential = true) ∧
      Cause p cancelAt key pool r r' e ∧
      ((e = .closed ∨ ∃ m, e = .dialer m) → r' = r) ∧
      (∀ project m, e = .provisioning project m → r'.events = r.events ∧
        ∃ cs, r'.calls = r.calls ++ cs ∧ ∀ c ∈ cs, c.2.isForAccount = true) ∧
      (e.isUnreachable = true ↔
        ∃ last, e = .connectExhausted key.project key.cluster p.maxAttempts last) ∧
      e.isUnauthorized = false := by
  have failed := p.connect_connected h
  have cause := failed.cause
  refine ⟨?_, ?_, ?_, cause, failed.failed_at_once, ?_, ?_, ?_⟩
  · rcases failed.failed_pool with rfl | ⟨credential, rfl, -⟩ <;> rfl
  · rcases failed.failed_pool with rfl | ⟨credential, rfl, -⟩ <;> rfl
  · rcases failed.failed_pool with rfl | ⟨credential, rfl, absent, owner, follows⟩
    · exact .inl rfl
    · exact .inr ⟨credential, rfl, absent, owner, follows⟩
  · rintro project m rfl
    exact failed.unprovisioned_calls
  · exact cause.isUnreachable_iff
  · exact cause.isUnauthorized_eq

/-- The failure of the control plane is quoted, and the credential is kept. -/
theorem connect_failed_lookup :
    ∃ pool r credential, lostRehearsal.pool.connect none ⟨"shop", "orders"⟩ {} { world := {} } =
        (.failed (.resolution "shop" "orders"
          "failed to get cluster: Unsupported connection target: look-up"), pool, r) ∧
      pool.connections = [] ∧ pool.credentials = [("shop", credential)] ∧
      Cause lostRehearsal.pool none ⟨"shop", "orders"⟩ {} { world := {} } r
        (.resolution "shop" "orders"
          "failed to get cluster: Unsupported connection target: look-up") := by
  have call : lostRehearsal.pool.connect none ⟨"shop", "orders"⟩ {} { world := {} } =
      (.failed (.resolution "shop" "orders"
        "failed to get cluster: Unsupported connection target: look-up"), _, _) := rfl
  obtain ⟨connections, -, -, cause, -⟩ := PoolConfig.connect_failed call
  exact ⟨_, _, _, call, connections, rfl, cause⟩

end ClusterAccess
