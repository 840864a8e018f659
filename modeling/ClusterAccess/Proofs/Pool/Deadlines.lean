import ClusterAccess.Proofs.Pool.Failure
import ClusterAccess.Proofs.Settings.Validation

/-!
# Deadlines of accounts

An account is asked for with the date at which it deletes itself. A lifetime with which no deadline
can be reckoned is refused. A deadline behind the last date breaks the call off instead. In neither
case is anything asked of the control plane.

## Main definitions

* `Services.Drawn`: what an account is named and guarded with.
* `Services.BreaksOff`: why provisioning has no answer at all.
* `Services.Provisions`: what comes of provisioning, by the deadline.

## Main statements

* `Timestamp.inRange_add_iff`: the last second of all dates.
* `Services.provisions`: provisioning goes by the deadline.
* `PoolConfig.provisioning_law`: so does every call that needs an account.
-/
namespace ClusterAccess

open Time

/-! ## Dates -/

/-- The last date ends with second 8210266876799. -/
theorem Time.Timestamp.inRange_add_iff {seconds : Int} (dated : inRange seconds = true) (n : Nat) :
    inRange (seconds + n) = true ↔ seconds + n ≤ 8210266876799 := by
  have first : firstDay = -96465292 := by decide
  have last : lastDay = 95026236 := by decide
  simp only [inRange, first, last, Bool.and_eq_true, decide_eq_true_eq, secondsPerDay] at dated ⊢
  omega

theorem Time.Timestamp.addSeconds?_eq_none {t : Timestamp} {n : Nat} :
    t.addSeconds? n = none ↔ inRange (t.seconds + n) = false := by
  unfold addSeconds?
  split <;> simp_all

/-! ## Orders -/

variable {σ C : Type}

namespace Services

/-- A password is drawn, and then an identifier. -/
structure Drawn (s : Services σ C) (settings : AccountSettings) (w : σ) (password : Secret)
    (w₁ : σ) (identifier : String) (w' : σ) : Prop where
  password : s.password settings.passwordPolicy w = (.ok password, w₁)
  identifier : s.identifier identifierLength w₁ = (.ok identifier, w')

/-- What is said of a lifetime that is too long. -/
def lifetimeFault : String :=
  "account TTL out of range: Source duration value is out of range for the target type"

variable {s : Services σ C} {settings : AccountSettings} {project : String} {w w₁ w' : σ}
  {password : Secret} {identifier : String}

namespace Drawn

theorem order (drawn : s.Drawn settings w password w₁ identifier w') :
    s.order settings project w =
      if longestLifetime < settings.lifetime then
        (.failed (.provisioning project lifetimeFault), w')
      else match (s.clock w').addSeconds? settings.lifetime with
        | none => (.aborted, w')
        | some deadline => (.ok ⟨password, s.clock w', deadline,
            accountRequest settings identifier password deadline⟩, w') := by
  unfold Services.order
  rw [drawn.password]
  dsimp only
  rw [drawn.identifier]
  rfl

theorem order_tooLong (drawn : s.Drawn settings w password w₁ identifier w')
    (tooLong : longestLifetime < settings.lifetime) :
    s.order settings project w = (.failed (.provisioning project lifetimeFault), w') := by
  rw [drawn.order, if_pos tooLong]

theorem order_undated (drawn : s.Drawn settings w password w₁ identifier w')
    (short : settings.lifetime ≤ longestLifetime)
    (undated : (s.clock w').addSeconds? settings.lifetime = none) :
    s.order settings project w = (.aborted, w') := by
  rw [drawn.order, if_neg (Nat.not_lt.mpr short), undated]

theorem order_dated (drawn : s.Drawn settings w password w₁ identifier w')
    (short : settings.lifetime ≤ longestLifetime) {deadline : Timestamp}
    (dated : (s.clock w').addSeconds? settings.lifetime = some deadline) :
    s.order settings project w = (.ok ⟨password, s.clock w', deadline,
      accountRequest settings identifier password deadline⟩, w') := by
  rw [drawn.order, if_neg (Nat.not_lt.mpr short), dated]

end Drawn

/-- Why no order is made, and none is refused. -/
inductive Unordered (s : Services σ C) (settings : AccountSettings) (w : σ) : Prop
  | password {w₁ : σ} (breaks : s.password settings.passwordPolicy w = (.aborted, w₁))
  | identifier {password : Secret} {w₁ w' : σ}
      (drawn : s.password settings.passwordPolicy w = (.ok password, w₁))
      (breaks : s.identifier identifierLength w₁ = (.aborted, w'))
  /-- The deadline is behind the last date. -/
  | undated {password : Secret} {w₁ : σ} {identifier : String} {w' : σ}
      (drawn : s.Drawn settings w password w₁ identifier w')
      (short : settings.lifetime ≤ longestLifetime)
      (undated : (s.clock w').addSeconds? settings.lifetime = none)

theorem order_aborted_iff :
    (s.order settings project w).1 = .aborted ↔ s.Unordered settings w := by
  constructor
  · intro broken
    unfold order at broken
    rcases drawn : s.password settings.passwordPolicy w with ⟨password | e | _ | _, w₁⟩ <;>
      simp only [drawn, reduceCtorEq] at broken
    · rcases named : s.identifier identifierLength w₁ with ⟨identifier | e | _ | _, w'⟩ <;>
        simp only [named, reduceCtorEq] at broken
      · split at broken
        · cases broken
        next short =>
          split at broken
          next undated => exact .undated ⟨drawn, named⟩ (Nat.not_lt.mp short) undated
          next => cases broken
      · exact .identifier drawn named
    · exact .password drawn
  · rintro (breaks | ⟨drawn, breaks⟩ | ⟨drawn, short, undated⟩)
    · rw [order, breaks]
    · rw [order, drawn]
      dsimp only
      rw [breaks]
    · rw [drawn.order_undated short undated]

/-! ## Provisioning -/

/-- Why provisioning has no answer at all. -/
inductive BreaksOff (s : Services σ C) (settings : AccountSettings) (project : String) (w : σ) :
    Prop
  | unordered (why : s.Unordered settings w)
  /-- The control plane breaks off. -/
  | account {order : AccountOrder} {w' : σ} {d : Nat}
      (ordered : s.order settings project w = (.ok order, w'))
      (breaks : (s.createAccount project order.request w').1 = .after d .aborted)

theorem provision_of_not_ok {o : Outcome AccountOrder} {o' : Outcome Credential} {r : Run σ C}
    (ordered : s.order settings project r.world = (o, w')) (passedOn : o.PassedOn o') :
    s.provision settings project r =
      (.after 0 o', r.begun (.password settings.passwordPolicy) w') := by
  unfold provision Task.begin
  rw [ordered]
  cases passedOn <;> rfl

theorem provision_of_ok {order : AccountOrder} {r : Run σ C}
    (ordered : s.order settings project r.world = (.ok order, w')) :
    s.provision settings project r =
      ((s.createAccount project order.request w').1.map (order.credential project),
        (r.begun (.password settings.passwordPolicy) w').begun
          (.createAccount project order.request) (s.createAccount project order.request w').2) := by
  unfold provision Task.begin
  rw [ordered]
  rfl

theorem provision_aborted_iff {r : Run σ C} :
    (∃ d, (s.provision settings project r).1 = .after d .aborted) ↔
      s.BreaksOff settings project r.world := by
  rcases ordered : s.order settings project r.world with ⟨o, w'⟩
  constructor
  · rintro ⟨d, broken⟩
    cases o with
    | ok order =>
      rw [provision_of_ok ordered] at broken
      obtain ⟨reply, replied, told⟩ := Reply.map_eq_after.mp broken
      cases reply <;> simp only [AccountOrder.credential, Outcome.handle, reduceCtorEq] at told
      exact .account ordered replied
    | aborted => exact .unordered (order_aborted_iff.mp (congrArg Prod.fst ordered))
    | failed e =>
      rw [provision_of_not_ok ordered (.failed e)] at broken
      cases broken
    | stuck =>
      rw [provision_of_not_ok ordered .stuck] at broken
      cases broken
  · rintro (why | ⟨ordered', breaks⟩)
    · obtain rfl : o = .aborted :=
        (congrArg Prod.fst ordered).symm.trans (order_aborted_iff.mpr why)
      exact ⟨0, by rw [provision_of_not_ok ordered .aborted]⟩
    · exact ⟨_, by rw [provision_of_ok ordered', breaks]; rfl⟩

/-- Whatever provisioning answers, an account or a failure, is about the project. -/
theorem provision_answers {r : Run σ C} {d : Nat} {o : Outcome Credential}
    (reply : (s.provision settings project r).1 = .after d o) :
    (∃ c, o = .ok c ∧ c.owner = project) ∨ (∃ m, o = .failed (.provisioning project m)) ∨
      o = .aborted ∨ o = .stuck := by
  cases o with
  | ok c => exact .inl ⟨c, rfl, (s.provision_provisioned settings project r).owner reply⟩
  | aborted => exact .inr (.inr (.inl rfl))
  | stuck => exact .inr (.inr (.inr rfl))
  | failed e =>
    refine .inr (.inl ?_)
    rcases ordered : s.order settings project r.world with ⟨order | e' | _ | _, w'⟩
    · rw [provision_of_ok ordered] at reply
      obtain ⟨o, -, told⟩ := Reply.map_eq_after.mp reply
      cases o <;> simp only [AccountOrder.credential, Outcome.handle, reduceCtorEq] at told
      cases told
      exact ⟨_, rfl⟩
    · rw [provision_of_not_ok ordered (.failed e')] at reply
      cases reply
      obtain ⟨m, rfl, -⟩ := order_failed ordered
      exact ⟨m, rfl⟩
    · rw [provision_of_not_ok ordered .aborted] at reply
      cases reply
    · rw [provision_of_not_ok ordered .stuck] at reply
      cases reply

/-- What comes of provisioning, by the deadline. -/
structure Provisions (s : Services σ C) (settings : AccountSettings) (project : String)
    (r : Run σ C) : Prop where
  /-- A deadline that has a date is asked for, and the control plane decides. -/
  dated : ∀ password w₁ identifier w' deadline,
    s.Drawn settings r.world password w₁ identifier w' → settings.lifetime ≤ longestLifetime →
    (s.clock w').addSeconds? settings.lifetime = some deadline →
    ∃ order : AccountOrder, order.deadline = deadline ∧
      order.request = accountRequest settings identifier password deadline ∧
      s.provision settings project r =
        ((s.createAccount project order.request w').1.map (order.credential project),
          (r.begun (.password settings.passwordPolicy) w').begun
            (.createAccount project order.request) (s.createAccount project order.request w').2)
  /-- A lifetime that is too long to reckon with is refused, and no account is asked for. -/
  tooLong : ∀ password w₁ identifier w', s.Drawn settings r.world password w₁ identifier w' →
    longestLifetime < settings.lifetime →
    s.provision settings project r = (.after 0 (.failed (.provisioning project lifetimeFault)),
      r.begun (.password settings.passwordPolicy) w')
  /-- A deadline without a date is not told of, and no account is asked for. -/
  undated : ∀ password w₁ identifier w', s.Drawn settings r.world password w₁ identifier w' →
    settings.lifetime ≤ longestLifetime → (s.clock w').addSeconds? settings.lifetime = none →
    s.provision settings project r =
      (.after 0 .aborted, r.begun (.password settings.passwordPolicy) w')
  /-- There is no date for the deadline if it is behind the last second of all dates. -/
  late : ∀ w, Timestamp.inRange (s.clock w).seconds = true →
    ((s.clock w).addSeconds? settings.lifetime = none ↔
      8210266876799 < (s.clock w).seconds + settings.lifetime)
  breaksOff : (∃ d, (s.provision settings project r).1 = .after d .aborted) ↔
    s.BreaksOff settings project r.world
  answers : ∀ d o, (s.provision settings project r).1 = .after d o →
    (∃ c, o = .ok c ∧ c.owner = project) ∨ (∃ m, o = .failed (.provisioning project m)) ∨
      o = .aborted ∨ o = .stuck

theorem provisions (s : Services σ C) (settings : AccountSettings) (project : String)
    (r : Run σ C) : s.Provisions settings project r where
  dated _ _ _ _ _ drawn short dated :=
    ⟨_, rfl, rfl, provision_of_ok (drawn.order_dated short dated)⟩
  tooLong _ _ _ _ drawn tooLong := provision_of_not_ok (drawn.order_tooLong tooLong) (.failed _)
  undated _ _ _ _ drawn short undated :=
    provision_of_not_ok (drawn.order_undated short undated) .aborted
  late w dated := by
    rw [Timestamp.addSeconds?_eq_none, ← Bool.not_eq_true, Timestamp.inRange_add_iff dated]
    omega
  breaksOff := provision_aborted_iff
  answers _ _ := provision_answers

end Services

/-! ## Calls to the pool -/

variable {p : PoolConfig σ C} {cancelAt : Option Nat} {key : ClusterKey} {pool pool' : Pool C}
  {r r' : Run σ C}

/-- Attempts have a result or fail, or the driver keeps silent. -/
theorem Retried.ne_aborted {target : Target} {dialer : Option ProxyDialer}
    {options : ConnectOptions} {left : Nat} {last : AccessError} {o : Outcome C}
    (h : Retried p cancelAt key target dialer options left last r o r') : o ≠ .aborted := by
  induction h with
  | exhausted | cancelled => nofun
  | ended attempt => cases attempt <;> nofun
  | again _ _ _ _ ih => exact ih

namespace PoolConfig

theorem await_provision_aborted {project : String}
    (h : Task.await cancelAt (p.services.provision p.settings.account project) r =
      (.aborted, r')) : p.services.BreaksOff p.settings.account project r.world := by
  have provisioned := p.services.provision_provisioned p.settings.account project r
  have awaited := Task.await_awaited cancelAt _ r provisioned.now_eq
  rw [h] at awaited
  cases awaited with
  | answered answer => exact Services.provision_aborted_iff.mp ⟨_, answer⟩

theorem await_askEndpoint_aborted (h : Task.await cancelAt (p.askEndpoint key) r = (.aborted, r')) :
    ∃ d, (p.services.clusterInfo key.project key.cluster r.world).1 = .after d .aborted := by
  cases p.await_askEndpoint h with
  | answered answer =>
    rw [askEndpoint_eq] at answer
    obtain ⟨o, replied, told⟩ := Reply.map_eq_after.mp answer
    cases o <;> simp only [Outcome.handle, Outcome.ofExcept_ne_aborted, reduceCtorEq] at told
    exact ⟨_, replied⟩

/-- A call is only broken off where it needs an account and gets no answer, or by the control plane
that is asked for the cluster. -/
theorem connect_aborted (h : p.connect cancelAt key pool r = (.aborted, pool', r')) :
    pool.credential? key.project = none ∧
        p.services.BreaksOff p.settings.account key.project r.world ∨
      ∃ w d, (p.services.clusterInfo key.project key.cluster w).1 = .after d .aborted := by
  cases p.connect_connected h with
  | unprovisioned isOpen dialer absent provision passedOn =>
    cases passedOn
    exact .inl ⟨absent, await_provision_aborted provision⟩
  | unopened isOpen dialer credited absent opening passedOn =>
    cases passedOn
    cases opening with
    | unresolved wait lookUp passedOn =>
      cases passedOn
      exact .inr ⟨_, await_askEndpoint_aborted lookUp⟩
    | attempted wait lookUp attempts => exact absurd rfl attempts.ne_aborted

/-- A call that needs an account is broken off together with provisioning. -/
theorem connect_of_breaksOff (p : PoolConfig σ C) (cancelAt : Option Nat) (key : ClusterKey)
    (pool : Pool C) (r : Run σ C) {dialer : Option ProxyDialer} {d : Nat}
    (isOpen : pool.isClosed = false) (dials : p.dialer key = .ok dialer)
    (absent : pool.credential? key.project = none)
    (breaks : (p.services.provision p.settings.account key.project r).1 = .after d .aborted)
    (inTime : ∀ t, cancelAt = some t → r.now + d < t) :
    ∃ r', p.connect cancelAt key pool r = (.aborted, pool, r') := by
  have provisioned := p.services.provision_provisioned p.settings.account key.project r
  have awaited := Task.await_of_inTime (Prod.ext breaks rfl) nofun provisioned.now_eq inTime
  unfold connect credential
  simp only [isOpen, dials, absent, awaited]
  exact ⟨_, rfl⟩

/-- Provisioning has an answer, an account or a failure that names the project, unless a service
breaks off or the deadline has no date. In the last case every call that needs an account is broken
off with it, although a lifetime that is even longer is refused. Valid settings may have either;
they may also ask for passwords for which the system's generator breaks off. -/
theorem provisioning_law (p : PoolConfig σ C) (cancelAt : Option Nat) (key : ClusterKey)
    (pool : Pool C) (r : Run σ C) :
    p.services.Provisions p.settings.account key.project r ∧
    (∀ pool' r', p.connect cancelAt key pool r = (.aborted, pool', r') →
      pool.credential? key.project = none ∧
          p.services.BreaksOff p.settings.account key.project r.world ∨
        ∃ w d, (p.services.clusterInfo key.project key.cluster w).1 = .after d .aborted) ∧
    (∀ dialer d, pool.isClosed = false → p.dialer key = .ok dialer →
      pool.credential? key.project = none →
      (p.services.provision p.settings.account key.project r).1 = .after d .aborted →
      (∀ t, cancelAt = some t → r.now + d < t) →
      ∃ r', p.connect cancelAt key pool r = (.aborted, pool, r')) ∧
    ∀ entropy, (p.settings.account.passwordPolicy.generate entropy).1 = .aborted ↔
      Password.longestText < p.settings.account.passwordLength :=
  ⟨p.services.provisions _ _ r, fun _ _ => connect_aborted,
    fun _ _ => p.connect_of_breaksOff cancelAt key pool r, PasswordPolicy.generate_aborted_iff⟩

/-- A pool whose accounts live for so many seconds. -/
def lastingPool (lifetime : Nat) : PoolConfig Stage Nat :=
  { smoothRehearsal.pool with settings := { account := { lifetime } } }

theorem lastingPool_drawn (lifetime : Nat) : (lastingPool lifetime).services.Drawn
    (lastingPool lifetime).settings.account {} (.ofString "correct horse") {} "1" {} :=
  ⟨rfl, rfl⟩

/-- An account that is asked for when the clock begins is to be given up an hour later. -/
theorem provisioning_law_hour : (lastingPool 3600).settings.validate = .ok () ∧
    ∃ c, ((lastingPool 3600).services.provision (lastingPool 3600).settings.account "shop"
        { world := {} }).1 = .after 0 (.ok c) ∧ c.expiresAt = ⟨3600, 0⟩ ∧ c.owner = "shop" := by
  refine ⟨rfl, ?_⟩
  obtain ⟨provisions, -⟩ := (lastingPool 3600).provisioning_law none ⟨"shop", "orders"⟩ {}
    { world := {} }
  obtain ⟨order, deadline, -, asked⟩ := provisions.dated _ _ _ _ ⟨3600, 0⟩ (lastingPool_drawn 3600)
    (by decide) (by decide)
  exact ⟨_, congrArg Prod.fst asked, deadline, rfl⟩

/-- Accounts that are to live for 2^53 seconds, which valid settings may ask for: there is no
answer, and no account is asked for. -/
theorem provision_breaks_off : (lastingPool 9007199254740992).settings.validate = .ok () ∧
    (lastingPool 9007199254740992).services.provision
        (lastingPool 9007199254740992).settings.account "shop" { world := {} } =
      (.after 0 .aborted, ({ world := {} } : Run Stage Nat).begun (.password {}) {}) ∧
    ((lastingPool 9007199254740992).connect none ⟨"shop", "orders"⟩ {} { world := {} }).1 =
      .aborted := by
  have law := (lastingPool 9007199254740992).services.provisions
    (lastingPool 9007199254740992).settings.account "shop" { world := {} }
  have breaks := law.undated _ _ _ _ (lastingPool_drawn 9007199254740992) (by decide) (by decide)
  have call := (lastingPool 9007199254740992).connect_of_breaksOff none ⟨"shop", "orders"⟩ {}
    { world := {} } rfl rfl rfl (congrArg Prod.fst breaks) nofun
  obtain ⟨r', call⟩ := call
  exact ⟨rfl, breaks, congrArg Prod.fst call⟩

end PoolConfig
end ClusterAccess
