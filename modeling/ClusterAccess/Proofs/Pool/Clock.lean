import ClusterAccess.Proofs.Pool.Growth

/-!
# The clock during calls

No part of a call sets the clock back, so that the time a call takes is the difference of two
readings.

## Main statements

* `Awaited.now_le`: a wait for a reply ends later than it began.
* `Connected.now_le`: so does a whole call.
-/
namespace ClusterAccess

open Time

variable {σ C α : Type} {p : PoolConfig σ C} {cancelAt : Option Nat} {key : ClusterKey}
  {pool pool' : Pool C} {r r' : Run σ C}

theorem Awaited.now_le {reply : Reply (Outcome α)} {started : Run σ C} {o : Outcome α}
    (h : Awaited cancelAt r reply started o r') (now : started.now = r.now) : r.now ≤ r'.now := by
  cases h with
  | late => exact Nat.le_refl _
  | cut _ after => exact Nat.le_of_lt after
  | answered => exact Nat.le_add_right _ _
  | silent => exact Nat.le_of_eq now.symm

theorem Task.await_ask_now_le {call : Call C} {f : σ → Reply (Except AccessError α) × σ}
    {o : Outcome α} (h : Task.await cancelAt (Services.ask call f) r = (o, r')) :
    r.now ≤ r'.now :=
  (Task.await_ask h).now_le rfl

theorem PoolConfig.wait_now_le {attempt : Nat} {o : Outcome Unit}
    (h : p.wait cancelAt attempt r = (o, r')) : r.now ≤ r'.now := by
  obtain ⟨-, elapsed, rfl⟩ := p.wait_cases h
  exact Nat.le_add_right _ _

theorem Attempted.now_le {target : Target} {dialer : Option ProxyDialer} {options : ConnectOptions}
    {attempt : Nat} {o : Outcome C}
    (h : Attempted p cancelAt key target dialer options attempt r o r') (ho : o ≠ .stuck) :
    r.now ≤ r'.now := by
  cases h with
  | undialed dial => simpa using Task.await_ask_now_le dial
  | passed dial ping =>
    have dialed := Task.await_ask_now_le dial
    have pinged := Task.await_ask_now_le ping
    simp only [Run.note_now] at pinged ⊢
    exact Nat.le_trans dialed pinged
  | failed dial ping discard =>
    have dialed := Task.await_ask_now_le dial
    have pinged := Task.await_ask_now_le ping
    have discarded := Task.await_ask_now_le discard
    simp only [Run.note_now] at pinged discarded ⊢
    exact Nat.le_trans dialed (Nat.le_trans pinged discarded)
  | silent => exact absurd rfl ho

theorem Retried.now_le {target : Target} {dialer : Option ProxyDialer} {options : ConnectOptions}
    {left : Nat} {last : AccessError} {o : Outcome C}
    (h : Retried p cancelAt key target dialer options left last r o r') (ho : o ≠ .stuck) :
    r.now ≤ r'.now := by
  induction h with
  | exhausted => exact Nat.le_refl _
  | ended attempt => exact attempt.now_le ho
  | cancelled attempt _ wait =>
    exact Nat.le_trans (attempt.now_le (by simp)) (PoolConfig.wait_now_le wait)
  | again attempt _ wait _ ih =>
    exact Nat.le_trans (attempt.now_le (by simp))
      (Nat.le_trans (PoolConfig.wait_now_le wait) (ih ho))

theorem Opened.now_le {dialer : Option ProxyDialer} {credential : Credential} {o : Outcome C}
    (h : Opened p cancelAt key dialer credential r o r') (ho : o ≠ .stuck) : r.now ≤ r'.now := by
  cases h with
  | unstarted wait => exact PoolConfig.wait_now_le wait
  | unresolved wait lookUp =>
    exact Nat.le_trans (PoolConfig.wait_now_le wait) ((p.await_askEndpoint lookUp).now_le rfl)
  | attempted wait lookUp attempts =>
    exact Nat.le_trans (PoolConfig.wait_now_le wait)
      (Nat.le_trans ((p.await_askEndpoint lookUp).now_le rfl) (attempts.now_le ho))

theorem PoolConfig.await_provision_now_le {project : String} {o : Outcome Credential}
    (h : Task.await cancelAt (p.services.provision p.settings.account project) r = (o, r')) :
    r.now ≤ r'.now := by
  obtain ⟨reply, started, provisioned, awaited⟩ := p.await_provision h
  exact awaited.now_le provisioned.now_eq

theorem Credited.now_le {project : String} {o : Outcome Credential}
    (h : Credited p cancelAt project pool r o pool' r') : r.now ≤ r'.now := by
  cases h with
  | kept => exact Nat.le_refl _
  | made _ provision => exact PoolConfig.await_provision_now_le provision
  | refused _ provision => exact PoolConfig.await_provision_now_le provision

/-- A call that ends does so later than it began. -/
theorem Connected.now_le {o : Outcome (Credential × C)}
    (h : Connected p cancelAt key pool r o pool' r') (ho : o ≠ .stuck) : r.now ≤ r'.now := by
  cases h with
  | closed => exact Nat.le_refl _
  | misconfigured => exact Nat.le_refl _
  | unprovisioned _ _ _ provision => exact PoolConfig.await_provision_now_le provision
  | hit _ _ credited => exact credited.now_le
  | opened _ _ credited _ opening =>
    exact Nat.le_trans credited.now_le (opening.now_le (by simp))
  | unopened _ _ credited _ opening passedOn =>
    exact Nat.le_trans credited.now_le (opening.now_le (mt passedOn.stuck_iff.mp ho))

end ClusterAccess
