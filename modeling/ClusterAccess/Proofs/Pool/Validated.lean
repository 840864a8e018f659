import ClusterAccess.Proofs.Pool.Failure
import ClusterAccess.Proofs.Settings.Validation

/-!
# Pools with valid settings

A call dials a target at most as often as the settings allow, whatever becomes of the call, and an
unreachable cluster was dialed exactly so often. Passwords are asked for with the policy of the
settings only. So whoever checks the settings first is spared the failures that come of settings
alone.

## Main definitions

* `Dialed`: how often a part of a run dials a target.

## Main statements

* `PoolConfig.retry_dialed`: the dials of all attempts.
* `PoolConfig.connect_bounded`: the dials and the passwords of a whole call.
* `PoolConfig.Reachable.policies`: the passwords of a whole run.
* `PoolConfig.valid_settings_suffice`: what valid settings grant in a pool.
-/
namespace ClusterAccess

open Time

variable {σ C α : Type}

/-- From `r` to `r'` a target is dialed `n` times, no cluster is looked up, and no password is asked
for. -/
structure Dialed (target : Target) (n : Nat) (r r' : Run σ C) : Prop where
  lookedUp : r'.lookedUp = r.lookedUp
  dials : r'.dials = r.dials ++ List.replicate n (r.lookedUp, target)
  policies : r'.policies = r.policies

namespace Dialed

variable {target : Target} {n n' : Nat} {r r₁ r' : Run σ C}

theorem refl (target : Target) (r : Run σ C) : Dialed target 0 r r := ⟨rfl, by simp, rfl⟩

theorem trans (h : Dialed target n r r₁) (h' : Dialed target n' r₁ r') :
    Dialed target (n + n') r r' where
  lookedUp := h'.lookedUp.trans h.lookedUp
  dials := by
    rw [h'.dials, h.dials, h.lookedUp, List.append_assoc, List.replicate_append_replicate]
  policies := h'.policies.trans h.policies

theorem atTime (h : Dialed target n r r') (t : Nat) : Dialed target n r (r'.atTime t) :=
  ⟨h.lookedUp, h.dials, h.policies⟩

theorem note (h : Dialed target n r r') (e : Event C) : Dialed target n r (r'.note e) :=
  ⟨h.lookedUp, h.dials, h.policies⟩

theorem dial (r : Run σ C) (target : Target) (dialer : Option ProxyDialer)
    (options : ConnectOptions) (w : σ) :
    Dialed target 1 r (r.begun (.connect target dialer options) w) :=
  ⟨by simp [Run.lookedUp, Call.follow], by simp [Run.dials, Run.lookedUp, Call.follow],
    by simp [Call.policy?]⟩

/-- A call that neither dials nor looks a cluster up nor asks for a password. -/
theorem begun (r : Run σ C) {call : Call C} (follows : call.follow r.followed = r.followed)
    (policy : call.policy? = none) (w : σ) : Dialed target 0 r (r.begun call w) :=
  ⟨by simp [Run.lookedUp, follows], by simp [Run.dials, follows], by simp [policy]⟩

end Dialed

variable {cancelAt : Option Nat} {target : Target} {dialer : Option ProxyDialer}
  {options : ConnectOptions} {r r' : Run σ C}

/-- Whatever becomes of a wait, only its start may have dialed, and it comes about unless it is
cancelled before. -/
theorem Awaited.dialed {reply : Reply (Outcome α)} {started : Run σ C} {o : Outcome α} {n : Nat}
    (h : Awaited cancelAt r reply started o r') (hs : Dialed target n r started) :
    (o = .failed .cancelled ∧ Dialed target 0 r r') ∨ Dialed target n r r' := by
  cases h with
  | late => exact .inl ⟨rfl, .refl target r⟩
  | cut => exact .inr (hs.atTime _)
  | answered => exact .inr (hs.atTime _)
  | silent => exact .inr hs

/-- A wait for a call that does not dial. -/
theorem Task.await_undialed {call : Call C} {f : σ → Reply (Except AccessError α) × σ}
    {o : Outcome α} (h : Task.await cancelAt (Services.ask call f) r = (o, r'))
    (follows : call.follow r.followed = r.followed) (policy : call.policy? = none) :
    Dialed target 0 r r' :=
  ((Task.await_ask h).dialed (.begun r follows policy _)).elim (·.2) id

namespace PoolConfig

variable {p : PoolConfig σ C} {key : ClusterKey} {credential : Credential} {pool pool' : Pool C}

theorem wait_dialed {attempt : Nat} {o : Outcome Unit} (h : p.wait cancelAt attempt r = (o, r')) :
    Dialed target 0 r r' := by
  obtain ⟨-, elapsed, rfl⟩ := p.wait_cases h
  exact ((Dialed.refl target r).note _).atTime _

theorem discard_dialed {c : C} {o : Outcome Unit} (h : p.discard c r = (o, r')) :
    Dialed target 0 r r' := by
  unfold discard at h
  rcases hd : Task.await none (p.services.askDisconnect c) r with ⟨_ | _ | _ | _, r₁⟩ <;>
    have gone : Dialed target 0 r r₁ := Task.await_undialed hd rfl rfl <;>
    simp only [hd, Prod.mk.injEq] at h <;> obtain ⟨-, rfl⟩ := h
  · exact gone.note _
  · exact gone.note _
  · exact gone
  · exact gone

/-- A dial is made unless it is cancelled before. -/
theorem await_dial {o : Outcome C}
    (h : Task.await cancelAt (p.services.askConnect target dialer options) r = (o, r')) :
    (o = .failed .cancelled ∧ Dialed target 0 r r') ∨ Dialed target 1 r r' :=
  (Task.await_ask h).dialed (.dial r target dialer options _)

/-- One attempt dials at most once, and exactly once if another attempt may follow. -/
theorem tryConnect_dialed {attempt : Nat} {o : Outcome C}
    (h : p.tryConnect cancelAt key target dialer options attempt r = (o, r')) :
    ∃ n ≤ 1, Dialed target n r r' ∧ ∀ e, o = .failed e → isFinal e = false → n = 1 := by
  -- Nothing but the dial itself dials.
  have once (dialed : Dialed target 1 r r') :
      ∃ n ≤ 1, Dialed target n r r' ∧ ∀ e, o = .failed e → isFinal e = false → n = 1 :=
    ⟨1, Nat.le_refl 1, dialed, fun _ _ _ => rfl⟩
  unfold tryConnect at h
  split at h
  next c r₁ dial =>
    have dialed : Dialed target 1 r r₁ := (await_dial dial).resolve_left (by simp)
    have tested {o : Outcome Unit} {r₂ : Run σ C}
        (ping : Task.await cancelAt (p.services.askPing c) (r₁.note (.dialed key target (.ok c))) =
          (o, r₂)) : Dialed target 1 r r₂ :=
      (dialed.note _).trans (Task.await_undialed ping rfl rfl)
    split at h
    next r₂ ping =>
      obtain ⟨-, rfl⟩ := Prod.mk.inj h
      exact once ((tested ping).note _)
    next e r₂ ping =>
      rcases hd : p.discard c (r₂.note (.pinged c (.error e))) with ⟨o₃, r₃⟩
      have gone : Dialed target 1 r r₃ := ((tested ping).note _).trans (discard_dialed hd)
      rw [hd] at h
      cases o₃ <;> obtain ⟨-, rfl⟩ := Prod.mk.inj h <;> exact once gone
    next r₂ ping =>
      obtain ⟨-, rfl⟩ := Prod.mk.inj h
      exact once (tested ping)
    next r₂ ping =>
      obtain ⟨-, rfl⟩ := Prod.mk.inj h
      exact once (tested ping)
  next e r₁ dial =>
    obtain ⟨rfl, rfl⟩ := Prod.mk.inj h
    rcases await_dial dial with ⟨cancelled, undialed⟩ | dialed
    · obtain rfl := Outcome.failed.inj cancelled
      refine ⟨0, Nat.zero_le 1, undialed.note _, ?_⟩
      rintro _ ⟨⟩ retryable
      cases retryable
    · exact once (dialed.note _)
  next r₁ dial =>
    obtain ⟨-, rfl⟩ := Prod.mk.inj h
    exact once ((await_dial dial).resolve_left (by simp))
  next r₁ dial =>
    obtain ⟨-, rfl⟩ := Prod.mk.inj h
    exact once ((await_dial dial).resolve_left (by simp))

/-- The attempts that are left dial at most so often, and exactly so often if they are used up. -/
theorem retry_dialed {left : Nat} {last : AccessError} {o : Outcome C}
    (h : p.retry cancelAt key target dialer options left last r = (o, r')) :
    ∃ n ≤ left, Dialed target n r r' ∧
      ∀ project cluster attempts last',
        o = .failed (.connectExhausted project cluster attempts last') →
          attempts = p.maxAttempts ∧ n = left := by
  induction left generalizing last r with
  | zero =>
    obtain ⟨rfl, rfl⟩ := Prod.mk.inj h
    refine ⟨0, Nat.le_refl 0, .refl target r, ?_⟩
    rintro _ _ _ _ ⟨⟩
    exact ⟨rfl, rfl⟩
  | succ left ih =>
    rcases tried : p.tryConnect cancelAt key target dialer options (p.maxAttempts - left) r
      with ⟨o₁, r₁⟩
    obtain ⟨n, once, dialed, retried⟩ := tryConnect_dialed tried
    simp only [retry, tried] at h
    split at h
    next e r₁ failed =>
      obtain ⟨rfl, rfl⟩ := Prod.mk.inj failed
      split at h
      next final =>
        obtain ⟨rfl, rfl⟩ := Prod.mk.inj h
        refine ⟨n, by omega, dialed, ?_⟩
        rintro _ _ _ _ ⟨⟩
        cases final
      next retryable =>
        obtain rfl := retried e rfl (by simpa using retryable)
        rcases waited : p.wait cancelAt (p.maxAttempts - left) r₁ with ⟨o₂, r₂⟩
        have dialed := dialed.trans (wait_dialed waited)
        rcases (p.wait_cases waited).1 with rfl | rfl <;> simp only [waited] at h
        · obtain ⟨m, most, rest, exhausted⟩ := ih h
          refine ⟨1 + m, by omega, dialed.trans rest, fun _ _ _ _ told => ?_⟩
          obtain ⟨attempts, all⟩ := exhausted _ _ _ _ told
          exact ⟨attempts, by omega⟩
        · obtain ⟨rfl, rfl⟩ := Prod.mk.inj h
          exact ⟨1, by omega, dialed, by simp⟩
    next other =>
      obtain ⟨rfl, rfl⟩ := Prod.mk.inj h
      refine ⟨n, by omega, dialed, fun _ _ _ _ told => ?_⟩
      exact absurd (by rw [told]) (other _ r₁)

/-! ## Whole calls -/

/-- A look-up neither dials nor asks for a password, and its cluster is the one looked up last. -/
theorem await_askEndpoint_dialed {o : Outcome Endpoint}
    (h : Task.await cancelAt (p.askEndpoint key) r = (o, r')) :
    r'.dials = r.dials ∧ r'.policies = r.policies ∧
      (o ≠ .failed .cancelled → r'.lookedUp = some key) := by
  cases p.await_askEndpoint h with
  | late => exact ⟨rfl, rfl, fun started => absurd rfl started⟩
  | cut => simp [Run.dials, Run.lookedUp, Call.follow, Call.policy?]
  | answered => simp [Run.dials, Run.lookedUp, Call.follow, Call.policy?]
  | silent => simp [Run.dials, Run.lookedUp, Call.follow, Call.policy?]

end PoolConfig

/-- What comes of a call for `key` that dials `target` so often and asks for passwords as `drawn`
says: it dials at most as often as it may, and exactly so often if it has used up its attempts. -/
structure Bounded (p : PoolConfig σ C) (key : ClusterKey) (drawn : List PasswordPolicy)
    (target : Target) (n : Nat) (o : Outcome α) (r r' : Run σ C) : Prop where
  most : n ≤ p.maxAttempts
  dials : r'.dials = r.dials ++ List.replicate n (some key, target)
  policies : r'.policies = r.policies ++ drawn
  exhausted : ∀ project cluster attempts last,
    o = .failed (.connectExhausted project cluster attempts last) →
      attempts = p.maxAttempts ∧ n = p.maxAttempts

namespace Bounded

variable {p : PoolConfig σ C} {key : ClusterKey} {drawn : List PasswordPolicy} {n : Nat}
  {o : Outcome α} {β : Type} {o' : Outcome β} {r₁ : Run σ C}

/-- A call that does not come to dialing. -/
theorem idle (dials : r'.dials = r.dials) (policies : r'.policies = r.policies ++ drawn)
    (unexhausted : ∀ project cluster attempts last,
      o ≠ .failed (.connectExhausted project cluster attempts last)) :
    ∃ target n, Bounded p key drawn target n o r r' :=
  ⟨⟨.standard, "", "", .ofString ""⟩, 0, Nat.zero_le _, by simp [dials], policies,
    fun _ _ _ _ told => absurd told (unexhausted _ _ _ _)⟩

/-- The attempts of a call come after what getting the credential asked for. -/
theorem after (h : Bounded p key [] target n o r₁ r') (dials : r₁.dials = r.dials)
    (policies : r₁.policies = r.policies ++ drawn)
    (same : ∀ project cluster attempts last,
      o' = .failed (.connectExhausted project cluster attempts last) →
        o = .failed (.connectExhausted project cluster attempts last)) :
    Bounded p key drawn target n o' r r' where
  most := h.most
  dials := by rw [h.dials, dials]
  policies := by rw [h.policies, policies, List.append_nil]
  exhausted _ _ _ _ told := h.exhausted _ _ _ _ (same _ _ _ _ told)

end Bounded

namespace PoolConfig

variable {p : PoolConfig σ C} {key : ClusterKey} {credential : Credential} {pool pool' : Pool C}

/-- A new connection is dialed for the cluster that it is for. -/
theorem openConnection_bounded {o : Outcome C}
    (h : p.openConnection cancelAt key dialer credential r = (o, r')) :
    ∃ target n, Bounded p key [] target n o r r' := by
  simp only [openConnection, bind, Task.bind] at h
  rcases waited : p.wait cancelAt 0 r with ⟨o₀, r₁⟩
  have warm : Dialed (.assemble ⟨.standard, "", false⟩ credential) 0 r r₁ := wait_dialed waited
  have warm_dials : r₁.dials = r.dials := by simpa using warm.dials
  rcases (p.wait_cases waited).1 with rfl | rfl <;> simp only [waited] at h
  case inr =>
    obtain ⟨rfl, rfl⟩ := Prod.mk.inj h
    exact Bounded.idle warm_dials (by simp [warm.policies]) (by simp)
  rcases found : Task.await cancelAt (p.askEndpoint key) r₁ with ⟨o₁, r₂⟩
  obtain ⟨dials, policies, lookedUp⟩ := await_askEndpoint_dialed found
  have dials : r₂.dials = r.dials := dials.trans warm_dials
  have policies : r₂.policies = r.policies ++ [] := by rw [policies, warm.policies, List.append_nil]
  cases o₁ with
  | ok endpoint =>
    simp only [found] at h
    obtain ⟨n, most, dialed, exhausted⟩ := retry_dialed h
    exact ⟨.assemble endpoint credential, n, most,
      by rw [dialed.dials, lookedUp (by simp), dials], by rw [dialed.policies, policies], exhausted⟩
  | failed e =>
    simp only [found] at h
    obtain ⟨rfl, rfl⟩ := Prod.mk.inj h
    refine Bounded.idle dials policies ?_
    rintro _ _ _ _ ⟨⟩
    rcases await_askEndpoint_failed found with ⟨cancelled, -⟩ | ⟨m, unresolved, -⟩
    · cases cancelled
    · cases unresolved
  | aborted =>
    simp only [found] at h
    obtain ⟨rfl, rfl⟩ := Prod.mk.inj h
    exact Bounded.idle dials policies (by simp)
  | stuck =>
    simp only [found] at h
    obtain ⟨rfl, rfl⟩ := Prod.mk.inj h
    exact Bounded.idle dials policies (by simp)

/-- Getting a credential dials nothing, and a password is asked for with the policy of the settings
if it is asked for at all. -/
theorem await_provision_policies {project : String} {o : Outcome Credential}
    (h : Task.await cancelAt (p.services.provision p.settings.account project) r = (o, r')) :
    r'.dials = r.dials ∧
      (r'.policies = r.policies ∨
        r'.policies = r.policies ++ [p.settings.account.passwordPolicy]) := by
  obtain ⟨reply, started, provisioned, awaited⟩ := p.await_provision h
  have drawn : started.dials = r.dials ∧
      started.policies = r.policies ++ [p.settings.account.passwordPolicy] := by
    cases provisioned <;> simp [Run.dials, Call.follow, Call.policy?]
  cases awaited with
  | late => exact ⟨rfl, .inl rfl⟩
  | cut => exact ⟨drawn.1, .inr drawn.2⟩
  | answered => exact ⟨drawn.1, .inr drawn.2⟩
  | silent => exact ⟨drawn.1, .inr drawn.2⟩

theorem credential_policies {project : String} {o : Outcome Credential}
    (h : Credited p cancelAt project pool r o pool' r') :
    r'.dials = r.dials ∧ ∃ drawn ⊆ [p.settings.account.passwordPolicy],
      r'.policies = r.policies ++ drawn := by
  have quiet (h : r'.dials = r.dials ∧ (r'.policies = r.policies ∨
      r'.policies = r.policies ++ [p.settings.account.passwordPolicy])) :
      r'.dials = r.dials ∧ ∃ drawn ⊆ [p.settings.account.passwordPolicy],
        r'.policies = r.policies ++ drawn := by
    obtain ⟨dials, none | one⟩ := h
    · exact ⟨dials, [], by simp, by rw [none, List.append_nil]⟩
    · exact ⟨dials, _, List.Subset.refl _, one⟩
  cases h with
  | kept => exact quiet ⟨rfl, .inl rfl⟩
  | made _ provision => exact quiet (await_provision_policies provision)
  | refused _ provision => exact quiet (await_provision_policies provision)

/-- Whatever becomes of a call, it is bounded, and passwords are asked for with the policy of the
settings. -/
theorem connect_bounded {o : Outcome (Credential × C)}
    (h : p.connect cancelAt key pool r = (o, pool', r')) :
    ∃ drawn ⊆ [p.settings.account.passwordPolicy], ∃ target n,
      Bounded p key drawn target n o r r' := by
  unfold connect at h
  split at h
  · obtain ⟨rfl, -, rfl⟩ : _ = o ∧ pool = pool' ∧ r = r' := by simpa using h
    exact ⟨[], by simp, Bounded.idle rfl (by simp) (by simp)⟩
  split at h
  next e misconfigured =>
    obtain ⟨rfl, -, rfl⟩ : _ = o ∧ pool = pool' ∧ r = r' := by simpa using h
    obtain ⟨m, rfl⟩ := dialer_error p misconfigured
    exact ⟨[], by simp, Bounded.idle rfl (by simp) (by simp)⟩
  next d _ =>
    rcases got : p.credential cancelAt key.project pool r with ⟨o₁, pool₁, r₁⟩
    have credited := p.credential_credited got
    obtain ⟨dials, drawn, within, policies⟩ := credential_policies credited
    refine ⟨drawn, within, ?_⟩
    rw [got] at h
    cases o₁ with
    | ok credential =>
      dsimp only at h
      split at h
      next c _ =>
        obtain ⟨rfl, -, rfl⟩ : _ = o ∧ pool₁ = pool' ∧ r₁ = r' := by simpa using h
        exact Bounded.idle dials policies (by simp)
      next =>
        rcases opening : p.openConnection cancelAt key d credential r₁ with ⟨o₂, r₂⟩
        obtain ⟨target, n, bounded⟩ := openConnection_bounded opening
        rw [opening] at h
        refine ⟨target, n, ?_⟩
        cases o₂ <;> simp only [Prod.mk.injEq] at h <;> obtain ⟨rfl, -, rfl⟩ := h <;>
          exact bounded.after dials policies (by simp)
    | failed e =>
      obtain ⟨rfl, -, rfl⟩ : _ = o ∧ pool₁ = pool' ∧ r₁ = r' := by simpa using h
      obtain ⟨-, -, provision⟩ := credited.absent_of_ne_ok (by simp)
      refine Bounded.idle dials policies ?_
      rcases await_provision_failed provision with ⟨rfl, -⟩ | ⟨m, rfl, -⟩ <;> simp
    | aborted =>
      obtain ⟨rfl, -, rfl⟩ : _ = o ∧ pool₁ = pool' ∧ r₁ = r' := by simpa using h
      exact Bounded.idle dials policies (by simp)
    | stuck =>
      obtain ⟨rfl, -, rfl⟩ : _ = o ∧ pool₁ = pool' ∧ r₁ = r' := by simpa using h
      exact Bounded.idle dials policies (by simp)

/-! ## Whole runs -/

/-- No other policies were asked for than there were before, and that of the settings. -/
theorem connect_policies {o : Outcome (Credential × C)}
    (h : p.connect cancelAt key pool r = (o, pool', r'))
    (start : ∀ policy ∈ r.policies, policy = p.settings.account.passwordPolicy) :
    ∀ policy ∈ r'.policies, policy = p.settings.account.passwordPolicy := by
  obtain ⟨drawn, within, _, _, bounded⟩ := connect_bounded h
  intro policy mem
  rw [bounded.policies, List.mem_append] at mem
  exact mem.elim (start policy) fun new => List.mem_singleton.mp (within new)

theorem connectEach_policies {calls : List (Option Nat × ClusterKey)}
    {os : List (Outcome (Credential × C))} (h : p.connectEach calls pool r = (os, pool', r'))
    (start : ∀ policy ∈ r.policies, policy = p.settings.account.passwordPolicy) :
    ∀ policy ∈ r'.policies, policy = p.settings.account.passwordPolicy := by
  induction calls generalizing pool r os with
  | nil =>
    obtain ⟨-, -, rfl⟩ : [] = os ∧ pool = pool' ∧ r = r' := by simpa [connectEach] using h
    exact start
  | cons first rest ih =>
    obtain ⟨o, pool₁, r₁, os₁, call, later, rfl⟩ := connectEach_cons h
    exact ih later (connect_policies call start)

end PoolConfig

theorem Drained.policies {p : PoolConfig σ C} {first : Option AccessError}
    {connections : List (ClusterKey × C)} {o : Outcome Unit}
    (h : Drained p cancelAt first connections r o r') : r'.policies = r.policies := by
  have nowhere : Target := ⟨.standard, "", "", .ofString ""⟩
  have quiet {c : C} {r r' : Run σ C} {o : Outcome Unit}
      (disconnect : Task.await cancelAt (p.services.askDisconnect c) r = (o, r')) :
      Dialed nowhere 0 r r' := Task.await_undialed disconnect rfl rfl
  induction h with
  | done => rfl
  | next disconnect _ ih => exact ih.trans (quiet disconnect).policies
  | silent disconnect => exact (quiet disconnect).policies

namespace PoolConfig

variable {p : PoolConfig σ C} {key : ClusterKey} {pool pool' : Pool C}

theorem Step.policies {s s' : PoolState σ C} (h : p.Step s s')
    (start : ∀ policy ∈ s.run.policies, policy = p.settings.account.passwordPolicy) :
    ∀ policy ∈ s'.run.policies, policy = p.settings.account.passwordPolicy := by
  cases h with
  | connect call => exact connect_policies call start
  | together group => exact connectEach_policies group start
  | close _ close =>
    rcases close_cases close with ⟨-, -, -, rfl⟩ | ⟨-, drained, -⟩
    · exact start
    · rw [drained.policies]
      exact start
  | sleep => exact start

/-- In a whole run, passwords are asked for with the policy of the settings only. -/
theorem Reachable.policies {s : PoolState σ C} (h : p.Reachable s) :
    ∀ policy ∈ s.run.policies, policy = p.settings.account.passwordPolicy := by
  obtain ⟨world, steps⟩ := h
  induction steps with
  | refl => nofun
  | tail _ step ih => exact step.policies ih

/-! ## Valid settings -/

/-- A way through a dialer is given more time than a direct one. -/
theorem options_lt (valid : p.settings.Valid) (d : ProxyDialer) :
    (p.options none).connectTimeout.milliseconds <
        (p.options (some d)).connectTimeout.milliseconds ∧
      (p.options none).selectionTimeout.milliseconds <
        (p.options (some d)).selectionTimeout.milliseconds :=
  ⟨Nat.mul_lt_mul_of_pos_left valid.connect (by decide),
    Nat.mul_lt_mul_of_pos_left valid.selection (by decide)⟩

/-- With valid settings no call ever fails for the proxy's settings. -/
theorem connect_ne_dialer (valid : p.settings.Valid) {o : Outcome (Credential × C)}
    (h : p.connect cancelAt key pool r = (o, pool', r')) (m : String) :
    o ≠ .failed (.dialer m) := by
  rintro rfl
  cases (p.connect_connected h).cause with
  | misconfigured dialer =>
    obtain ⟨d, found⟩ := valid.dialer
    rw [PoolConfig.dialer, found] at dialer
    cases dialer
  | unopened why => cases why

/-- With valid settings, the pool makes as many attempts as they say. -/
theorem maxAttempts_eq (valid : p.settings.Valid) : p.maxAttempts = p.settings.pool.maxAttempts :=
  Nat.max_eq_right valid.attempts

/-- Valid settings suffice for a pool. No call fails for the proxy's settings; a call dials one
target at most as often as the settings say, and an unreachable cluster was dialed exactly so often,
which is what the failure tells. Every password is asked for with a policy that can be fulfilled,
and a connection through a dialer is given more time than one without. Settings whose proxy cannot
be dialed are not valid. -/
theorem valid_settings_suffice (p : PoolConfig σ C) (valid : p.settings.validate = .ok ()) :
    (∀ cancelAt key pool pool' (r r' : Run σ C) o,
      p.connect cancelAt key pool r = (o, pool', r') →
        (∀ m, o ≠ .failed (.dialer m)) ∧
        (∃ target n, n ≤ p.settings.pool.maxAttempts ∧
          r'.dials = r.dials ++ List.replicate n (some key, target) ∧
          ∀ project cluster attempts last,
            o = .failed (.connectExhausted project cluster attempts last) →
              attempts = p.settings.pool.maxAttempts ∧ n = p.settings.pool.maxAttempts ∧ 1 ≤ n) ∧
        ∃ drawn, r'.policies = r.policies ++ drawn ∧
          ∀ policy ∈ drawn, ∀ entropy m,
            (policy.generate entropy).1 ≠ .failed (.invalidSettings m)) ∧
    (∀ s, p.Reachable s → ∀ policy ∈ s.run.policies, ∀ entropy m,
      (policy.generate entropy).1 ≠ .failed (.invalidSettings m)) ∧
    (∀ d, (p.options none).connectTimeout.milliseconds <
        (p.options (some d)).connectTimeout.milliseconds ∧
      (p.options none).selectionTimeout.milliseconds <
        (p.options (some d)).selectionTimeout.milliseconds) ∧
    ∀ (s : Settings) (e : AccessError), s.proxy.dialer = .error e →
      ∃ m, s.validate = .error (.invalidSettings m) := by
  have valid : p.settings.Valid := Settings.validate_eq_ok_iff.mp valid
  have covered {policy : PasswordPolicy} (same : policy = p.settings.account.passwordPolicy)
      (entropy : Entropy) (m : String) :
      (policy.generate entropy).1 ≠ .failed (.invalidSettings m) := by
    subst same
    exact PasswordPolicy.generate_covers valid.covers entropy m
  refine ⟨fun cancelAt key pool pool' r r' o call => ?_, fun s reachable policy mem => ?_,
    options_lt valid, fun s e => Settings.validate_of_dialer_error⟩
  · obtain ⟨drawn, within, target, n, bounded⟩ := connect_bounded call
    have attempts := maxAttempts_eq valid
    refine ⟨connect_ne_dialer valid call, ⟨target, n, attempts ▸ bounded.most, bounded.dials, ?_⟩,
      drawn, bounded.policies, fun policy mem => covered (List.mem_singleton.mp (within mem))⟩
    intro project cluster made last told
    obtain ⟨all, dials⟩ := bounded.exhausted project cluster made last told
    have one := valid.attempts
    exact ⟨all.trans attempts, dials.trans attempts, by omega⟩
  · exact covered (reachable.policies policy mem)

/-- The usual settings at their limits, with a proxy. -/
def tightSettings : Settings where
  account := { passwordLength := 8 }
  pool := { maxAttempts := 3, proxiedConnectSeconds := 11, proxiedSelectionSeconds := 31 }
  proxy := { host := "proxy.internal", port := 1080 }

/-- A pool whose driver opens no connection. -/
def refusedPool : PoolConfig Stage Nat :=
  { ({ smoothRehearsal with
        connects := ⟨[("*", { error := some (.dialer "refused") })]⟩ } : Rehearsal).pool with
    settings := tightSettings }

/-- The driver's own complaints about a dialer do not count as wrong settings. -/
theorem valid_settings_suffice_refused :
    ∃ last r pool target, refusedPool.connect none ⟨"shop", "orders"⟩ {} { world := {} } =
        (.failed (.connectExhausted "shop" "orders" 3 last), pool, r) ∧
      r.dials = List.replicate 3 (some ⟨"shop", "orders"⟩, target) := by
  have call : refusedPool.connect none ⟨"shop", "orders"⟩ {} { world := {} } =
      (.failed (.connectExhausted "shop" "orders" 3 _), _, _) := rfl
  obtain ⟨calls, -⟩ := refusedPool.valid_settings_suffice rfl
  obtain ⟨-, ⟨target, n, -, dials, exhausted⟩, -⟩ := calls _ _ _ _ _ _ _ call
  obtain ⟨-, rfl, -⟩ := exhausted _ _ _ _ rfl
  exact ⟨_, _, _, target, call, dials⟩

end PoolConfig
end ClusterAccess
