import ClusterAccess.Proofs.Run.Awaiting

/-!
# Attempts and retries as derivations

The ways in which one attempt and the attempts of one call can go, as inductive relations with one
constructor for each way. What holds of every attempt is proved by cases on the first, and what
holds of all attempts together by induction on the second.

## Main definitions

* `Attempted`: one attempt, from a run to its outcome and the run afterwards.
* `Retried`: the attempts that are left.

## Main statements

* `PoolConfig.tryConnect_attempted`, `PoolConfig.retry_retried`: the pool follows the relations.
-/
namespace ClusterAccess

open Time

variable {σ C : Type}

namespace PoolConfig

variable (p : PoolConfig σ C)

theorem wait_eq (cancelAt : Option Nat) (attempt : Nat) (r : Run σ C) :
    p.wait cancelAt attempt r =
      (if (p.delay.wait attempt (cancelAt.map (· - r.now))).1 then .failed .cancelled else .ok (),
        (r.note (.wait attempt)).atTime
          (r.now + (p.delay.wait attempt (cancelAt.map (· - r.now))).2)) := by
  unfold wait
  dsimp only
  split <;> rfl

/-- A wait is over at some later time, and at worst it was cancelled. -/
theorem wait_cases {cancelAt : Option Nat} {attempt : Nat} {r r' : Run σ C} {o : Outcome Unit}
    (h : p.wait cancelAt attempt r = (o, r')) :
    (o = .ok () ∨ o = .failed .cancelled) ∧
      ∃ elapsed, r' = (r.note (.wait attempt)).atTime (r.now + elapsed) := by
  rw [wait_eq, Prod.mk.injEq] at h
  refine ⟨?_, _, h.2.symm⟩
  by_cases cut : (p.delay.wait attempt (cancelAt.map (· - r.now))).1
  · exact .inr (by simpa [cut] using h.1.symm)
  · exact .inl (by simpa [cut] using h.1.symm)

theorem maxAttempts_pos : 0 < p.maxAttempts :=
  Nat.lt_of_lt_of_le Nat.zero_lt_one (Nat.le_max_left _ _)

theorem isFinal_cases {e : AccessError} (h : isFinal e = true) :
    e = .cancelled ∨ ∃ m, e = .unsupported m := by
  cases e <;> simp [isFinal] at h ⊢

end PoolConfig

/-- One attempt to connect: no connection, a connection that passes its test, or one that fails it
and is given up. The last way, without an outcome, is open only where the driver may keep silent. -/
inductive Attempted (p : PoolConfig σ C) (cancelAt : Option Nat) (key : ClusterKey)
    (target : Target) (dialer : Option ProxyDialer) (options : ConnectOptions) (attempt : Nat)
    (r : Run σ C) : Outcome C → Run σ C → Prop
  | undialed {e : AccessError} {r₁ : Run σ C}
      (dial : Task.await cancelAt (p.services.askConnect target dialer options) r =
        (.failed e, r₁)) :
      Attempted p cancelAt key target dialer options attempt r
        (.failed (PoolConfig.attemptError (.dial key.project key.cluster attempt) e))
        (r₁.note (.dialed key target (.error e)))
  | passed {c : C} {r₁ r₂ : Run σ C}
      (dial : Task.await cancelAt (p.services.askConnect target dialer options) r = (.ok c, r₁))
      (ping : Task.await cancelAt (p.services.askPing c) (r₁.note (.dialed key target (.ok c))) =
        (.ok (), r₂)) :
      Attempted p cancelAt key target dialer options attempt r (.ok c)
        (r₂.note (.pinged c (.ok ())))
  | failed {c : C} {e : AccessError} {r₁ r₂ r₃ : Run σ C} {x : Except AccessError Unit}
      (dial : Task.await cancelAt (p.services.askConnect target dialer options) r = (.ok c, r₁))
      (ping : Task.await cancelAt (p.services.askPing c) (r₁.note (.dialed key target (.ok c))) =
        (.failed e, r₂))
      (discard : Task.await none (p.services.askDisconnect c) (r₂.note (.pinged c (.error e))) =
        (.ofExcept x, r₃)) :
      Attempted p cancelAt key target dialer options attempt r
        (.failed (PoolConfig.attemptError (.ping key.project key.cluster attempt) e))
        (r₃.note (.disconnected c x))
  | silent {r' : Run σ C}
      (may : cancelAt = none ∨ ∃ c world, (p.services.disconnect c world).1 = .never) :
      Attempted p cancelAt key target dialer options attempt r .stuck r'

/-- A wait for a driver's reply to a single call is never broken off. -/
theorem Task.await_ask_ne_aborted {cancelAt : Option Nat} {call : Call C} {α : Type}
    {f : σ → Reply (Except AccessError α) × σ} {r r' : Run σ C} :
    Task.await cancelAt (Services.ask call f) r ≠ (.aborted, r') := by
  intro h
  cases Task.await_ask h with
  | answered answer _ =>
    obtain ⟨x, -, hx⟩ := Reply.map_eq_after.mp answer
    exact Outcome.ofExcept_ne_aborted hx

/-- Only a wait that nothing cancels, for a reply that never comes, lasts for ever. -/
theorem Task.await_ask_stuck {cancelAt : Option Nat} {call : Call C} {α : Type}
    {f : σ → Reply (Except AccessError α) × σ} {r r' : Run σ C}
    (h : Task.await cancelAt (Services.ask call f) r = (.stuck, r')) :
    cancelAt = none ∧ (f r.world).1 = .never := by
  cases Task.await_ask h with
  | answered _ settled => exact absurd rfl settled
  | silent cancel answer =>
    rw [Task.settle_ofExcept] at answer
    exact ⟨cancel, Reply.map_eq_never.mp answer⟩

namespace PoolConfig

variable (p : PoolConfig σ C)

theorem tryConnect_attempted {cancelAt : Option Nat} {key : ClusterKey} {target : Target}
    {dialer : Option ProxyDialer} {options : ConnectOptions} {attempt : Nat} {r r' : Run σ C}
    {o : Outcome C} (h : p.tryConnect cancelAt key target dialer options attempt r = (o, r')) :
    Attempted p cancelAt key target dialer options attempt r o r' := by
  unfold tryConnect at h
  split at h
  next c r₁ dial =>
    split at h
    next r₂ ping =>
      obtain ⟨rfl, rfl⟩ := Prod.mk.inj h
      exact .passed dial ping
    next e r₂ ping =>
      unfold discard at h
      rcases hd : Task.await none (p.services.askDisconnect c) (r₂.note (.pinged c (.error e)))
        with ⟨_ | e' | _ | _, r₃⟩ <;> simp only [hd, Prod.mk.injEq] at h
      · obtain ⟨rfl, rfl⟩ := h
        exact .failed (x := .ok ()) dial ping hd
      · obtain ⟨rfl, rfl⟩ := h
        exact .failed (x := .error e') dial ping hd
      · exact absurd hd Task.await_ask_ne_aborted
      · obtain ⟨rfl, rfl⟩ := h
        exact .silent (.inr ⟨_, _, (Task.await_ask_stuck hd).2⟩)
    next r₂ ping => exact absurd ping Task.await_ask_ne_aborted
    next r₂ ping =>
      obtain ⟨rfl, rfl⟩ := Prod.mk.inj h
      exact .silent (.inl (Task.await_ask_stuck ping).1)
  next e r₁ dial =>
    obtain ⟨rfl, rfl⟩ := Prod.mk.inj h
    exact .undialed dial
  next r₁ dial => exact absurd dial Task.await_ask_ne_aborted
  next r₁ dial =>
    obtain ⟨rfl, rfl⟩ := Prod.mk.inj h
    exact .silent (.inl (Task.await_ask_stuck dial).1)

end PoolConfig

/-- The attempts that are left, as `left`, after a failure `last`. -/
inductive Retried (p : PoolConfig σ C) (cancelAt : Option Nat) (key : ClusterKey)
    (target : Target) (dialer : Option ProxyDialer) (options : ConnectOptions) :
    Nat → AccessError → Run σ C → Outcome C → Run σ C → Prop
  | exhausted (last : AccessError) (r : Run σ C) :
      Retried p cancelAt key target dialer options 0 last r
        (.failed (.connectExhausted key.project key.cluster p.maxAttempts last)) r
  | ended {left : Nat} {last : AccessError} {r r' : Run σ C} {o : Outcome C}
      (attempt : Attempted p cancelAt key target dialer options (p.maxAttempts - left) r o r')
      (final : ∀ e, o = .failed e → PoolConfig.isFinal e) :
      Retried p cancelAt key target dialer options (left + 1) last r o r'
  | cancelled {left : Nat} {last e : AccessError} {r r₁ r' : Run σ C}
      (attempt : Attempted p cancelAt key target dialer options (p.maxAttempts - left) r
        (.failed e) r₁)
      (retryable : PoolConfig.isFinal e = false)
      (wait : p.wait cancelAt (p.maxAttempts - left) r₁ = (.failed .cancelled, r')) :
      Retried p cancelAt key target dialer options (left + 1) last r (.failed .cancelled) r'
  | again {left : Nat} {last e : AccessError} {r r₁ r₂ r' : Run σ C} {o : Outcome C}
      (attempt : Attempted p cancelAt key target dialer options (p.maxAttempts - left) r
        (.failed e) r₁)
      (retryable : PoolConfig.isFinal e = false)
      (wait : p.wait cancelAt (p.maxAttempts - left) r₁ = (.ok (), r₂))
      (rest : Retried p cancelAt key target dialer options left e r₂ o r') :
      Retried p cancelAt key target dialer options (left + 1) last r o r'

theorem PoolConfig.retry_retried (p : PoolConfig σ C) {cancelAt : Option Nat} {key : ClusterKey}
    {target : Target} {dialer : Option ProxyDialer} {options : ConnectOptions} {left : Nat}
    {last : AccessError} {r r' : Run σ C} {o : Outcome C}
    (h : p.retry cancelAt key target dialer options left last r = (o, r')) :
    Retried p cancelAt key target dialer options left last r o r' := by
  induction left generalizing last r with
  | zero =>
    simp only [retry, Prod.mk.injEq] at h
    obtain ⟨rfl, rfl⟩ := h
    exact .exhausted last r
  | succ left ih =>
    rcases ht : p.tryConnect cancelAt key target dialer options (p.maxAttempts - left) r
      with ⟨o₁, r₁⟩
    have attempt := p.tryConnect_attempted ht
    simp only [retry, ht] at h
    split at h
    next e r₁ he =>
      obtain ⟨rfl, rfl⟩ := Prod.mk.inj he
      split at h
      next final =>
        obtain ⟨rfl, rfl⟩ := Prod.mk.inj h
        exact .ended attempt (by simp [final])
      next retryable =>
        rcases hw : p.wait cancelAt (p.maxAttempts - left) r₁ with ⟨o₂, r₂⟩
        have retryable : isFinal e = false := by simpa using retryable
        rcases (p.wait_cases hw).1 with rfl | rfl <;> simp only [hw] at h
        · exact .again attempt retryable hw (ih h)
        · obtain ⟨rfl, rfl⟩ := Prod.mk.inj h
          exact .cancelled attempt retryable hw
    next other =>
      obtain ⟨rfl, rfl⟩ := Prod.mk.inj h
      exact .ended attempt fun e he => absurd (by rw [he]) (other e r₁)

end ClusterAccess
