import ClusterAccess.Proofs.Pool.Drain

/-!
# Drivers that always answer

If a driver answers every call, then attempts that nothing cancels come to an end. A call that ends
without an answer has then not opened any connection, and closing the pool right after a call gives
up whatever that left open.

## Main definitions

* `Services.Responsive`: a driver that always answers, and gives connections up at once.
* `Outcome.IsAnswer`: a result or a failure.

## Main statements

* `PoolConfig.connect_left`: what a call leaves open.
* `PoolConfig.disconnectAll_at_once`: a drain that gives all connections up.
* `PoolConfig.connect_close`: a call, and closing the pool after it.
-/
namespace ClusterAccess

open Time

variable {σ C α : Type}

/-- The driver answers every call, and gives connections up at once. The connections that it hands
over are sound, which is all that it needs to answer when they are tested. -/
structure Services.Responsive (s : Services σ C) (Sound : C → Prop) : Prop where
  connect : ∀ target dialer options w, ∃ d x w',
    s.connect target dialer options w = (.after d x, w') ∧ ∀ c, x = .ok c → Sound c
  ping : ∀ c w, Sound c → ∃ d x w', s.ping c w = (.after d x, w')
  disconnect : ∀ c w, ∃ w', s.disconnect c w = (.after 0 (.ok ()), w')

/-- A result or a failure. -/
def Outcome.IsAnswer (o : Outcome α) : Prop := o ≠ .aborted ∧ o ≠ .stuck

theorem Outcome.IsAnswer.ok (a : α) : (Outcome.ok a).IsAnswer := ⟨nofun, nofun⟩

theorem Outcome.IsAnswer.failed (e : AccessError) : (Outcome.failed e : Outcome α).IsAnswer :=
  ⟨nofun, nofun⟩

/-- A call without a result keeps no connection. -/
theorem Connected.unkept {p : PoolConfig σ C} {cancelAt : Option Nat} {key : ClusterKey}
    {pool pool' : Pool C} {r r' : Run σ C} {o : Outcome (Credential × C)}
    (h : Connected p cancelAt key pool r o pool' r') (noResult : ∀ v, o ≠ .ok v) :
    pool'.connections = pool.connections ∧ pool'.isClosed = pool.isClosed := by
  cases h with
  | closed | misconfigured | unprovisioned => exact ⟨rfl, rfl⟩
  | hit | opened => exact absurd rfl (noResult _)
  | unopened _ _ credited =>
    obtain ⟨_, _, served, -⟩ := credited.served ⟨.standard, "", "", .ofString ""⟩
    exact ⟨by simpa using served.connections, served.isClosed⟩

namespace PoolConfig

variable {p : PoolConfig σ C} {Sound : C → Prop} (responsive : p.services.Responsive Sound)
  {key : ClusterKey} {pool pool' : Pool C} {r r' : Run σ C}

include responsive

/-! ## Calls -/

theorem discard_eq_ok (c : C) (r : Run σ C) : ∃ r', p.discard c r = (.ok (), r') := by
  obtain ⟨w, gone⟩ := responsive.disconnect c r.world
  have given : Task.await none (p.services.askDisconnect c) r = _ := Task.await_ask_of_after gone
  unfold discard
  rw [given]
  exact ⟨_, rfl⟩

theorem sound_of_dial {target : Target} {dialer : Option ProxyDialer} {options : ConnectOptions}
    {c : C} (dial : Task.await none (p.services.askConnect target dialer options) r = (.ok c, r')) :
    Sound c := by
  obtain ⟨d, x, w, dialed, sound⟩ := responsive.connect target dialer options r.world
  have same := (Prod.mk.inj (dial.symm.trans (Task.await_ask_of_after dialed))).1
  exact sound c (Outcome.ofExcept_eq_ok.mp same.symm)

section

variable (key) (target : Target) (dialer : Option ProxyDialer) (options : ConnectOptions)

theorem tryConnect_isAnswer (attempt : Nat) (r : Run σ C) :
    (p.tryConnect none key target dialer options attempt r).1.IsAnswer := by
  rcases tried : p.tryConnect none key target dialer options attempt r with ⟨o, r'⟩
  unfold tryConnect at tried
  split at tried
  next c r₁ dial =>
    split at tried
    · cases tried
      exact .ok c
    next e r₂ ping =>
      obtain ⟨r₃, discarded⟩ := discard_eq_ok responsive c (r₂.note (.pinged c (.error e)))
      rw [discarded] at tried
      cases tried
      exact .failed _
    next ping => exact absurd ping Task.await_ask_ne_aborted
    next ping =>
      obtain ⟨d, x, w, pinged⟩ := responsive.ping c r₁.world (sound_of_dial responsive dial)
      have silent : (p.services.ping c r₁.world).1 = .never := (Task.await_ask_stuck ping).2
      rw [pinged] at silent
      cases silent
  next e r₁ dial =>
    cases tried
    exact .failed _
  next dial => exact absurd dial Task.await_ask_ne_aborted
  next dial =>
    obtain ⟨d, x, w, dialed, -⟩ := responsive.connect target dialer options r.world
    have silent := (Task.await_ask_stuck dial).2
    rw [dialed] at silent
    cases silent

theorem retry_isAnswer (left : Nat) (last : AccessError) (r : Run σ C) :
    (p.retry none key target dialer options left last r).1.IsAnswer := by
  induction left generalizing last r with
  | zero => exact .failed _
  | succ left ih =>
    have answer := tryConnect_isAnswer responsive key target dialer options
      (p.maxAttempts - left) r
    unfold retry
    dsimp only
    rcases tried : p.tryConnect none key target dialer options (p.maxAttempts - left) r with
      ⟨c | e | _ | _, r₁⟩ <;> rw [tried] at answer
    · exact .ok c
    · dsimp only
      split
      · exact .failed e
      · rcases waited : p.wait none (p.maxAttempts - left) r₁ with ⟨o, r₂⟩
        rcases (p.wait_cases waited).1 with rfl | rfl
        · exact ih e r₂
        · exact .failed _
    · exact absurd rfl answer.1
    · exact absurd rfl answer.2

end

/-- A new connection that is broken off was not opened. -/
theorem openConnection_broken_off {dialer : Option ProxyDialer} {credential : Credential}
    {o : Outcome C} (h : p.openConnection none key dialer credential r = (o, r'))
    (broken : ¬ o.IsAnswer) : Grown [] [] [] [] r r' := by
  unfold openConnection at h
  simp only [bind, Task.bind] at h
  rcases hw : p.wait none 0 r with ⟨o₁, r₁⟩
  have waited := wait_grown hw
  rcases (p.wait_cases hw).1 with rfl | rfl <;> simp only [hw] at h
  · rcases hl : Task.await none (p.askEndpoint key) r₁ with ⟨endpoint | _ | _ | _, r₂⟩ <;>
      simp only [hl] at h
    · have answer := retry_isAnswer responsive key (.assemble endpoint credential) dialer
        (p.options dialer) p.maxAttempts .cancelled r₂
      rw [h] at answer
      exact absurd answer broken
    all_goals
      obtain ⟨-, rfl⟩ := Prod.mk.inj h
      exact waited.trans ((p.await_askEndpoint hl).unchanged rfl rfl)
  · obtain ⟨-, rfl⟩ := Prod.mk.inj h
    exact waited

/-- A call that is broken off has opened nothing. -/
theorem connect_broken_off {o : Outcome (Credential × C)}
    (h : p.connect none key pool r = (o, pool', r')) (broken : ¬ o.IsAnswer) :
    ∃ asked, Grown asked [] [] [] r r' := by
  unfold connect at h
  split at h
  · simp only [Prod.mk.injEq] at h
    obtain ⟨-, -, rfl⟩ := h
    exact ⟨[], .refl r⟩
  split at h
  · simp only [Prod.mk.injEq] at h
    obtain ⟨-, -, rfl⟩ := h
    exact ⟨[], .refl r⟩
  next d _ =>
    rcases hc : p.credential none key.project pool r with ⟨o₁, pool₁, r₁⟩
    obtain ⟨asked, _, served, -⟩ :=
      (p.credential_credited hc).served ⟨.standard, "", "", .ofString ""⟩
    cases o₁ <;> simp only [hc] at h
    case ok credential =>
      cases hp : pool₁.connection? key <;> simp only [hp] at h
      case some c =>
        simp only [Prod.mk.injEq] at h
        obtain ⟨rfl, -⟩ := h
        exact absurd (.ok _) broken
      rcases ho : p.openConnection none key d credential r₁ with ⟨o₂, r₂⟩
      have unopened := openConnection_broken_off responsive ho
      cases o₂ <;> simp only [ho, Prod.mk.injEq] at h <;> obtain ⟨rfl, -, rfl⟩ := h
      case ok c => exact absurd (.ok _) broken
      case failed e => exact absurd (.failed e) broken
      case aborted | stuck =>
        refine ⟨asked, ?_⟩
        simpa using served.grown.trans (unopened (by simp [Outcome.IsAnswer]))
    all_goals
      simp only [Prod.mk.injEq] at h
      obtain ⟨-, -, rfl⟩ := h
      exact ⟨asked, served.grown⟩

/-- What a call opens is given up or, if there is a result, kept by the pool. A call that is broken
off opens nothing. -/
theorem connect_left {o : Outcome (Credential × C)}
    (h : p.connect none key pool r = (o, pool', r')) :
    ∃ asked lost kept target, Grown asked ((lost ++ kept).map (key, target, ·)) kept lost r r' ∧
      pool'.connections = pool.connections ++ kept.map (key, ·) ∧
      pool'.isClosed = pool.isClosed ∧ ((∀ v, o ≠ .ok v) → kept = []) ∧
      (¬ o.IsAnswer → lost ++ kept = []) := by
  have connected := p.connect_connected h
  by_cases answer : o.IsAnswer
  · obtain ⟨asked, _, lost, kept, target, served⟩ := connected.served answer.2
    refine ⟨asked, lost, kept, target, served.grown, served.connections, served.isClosed,
      fun noResult => ?_, fun broken => absurd answer broken⟩
    have unkept := served.connections.symm.trans (connected.unkept noResult).1
    simpa using unkept
  · -- Whatever breaks a call off comes before its first attempt.
    have noResult : ∀ v, o ≠ .ok v := by
      rintro v rfl
      exact answer (.ok v)
    obtain ⟨asked, grown⟩ := connect_broken_off responsive h answer
    obtain ⟨same, isClosed⟩ := connected.unkept noResult
    exact ⟨asked, [], [], ⟨.standard, "", "", .ofString ""⟩, grown, by simp [same], isClosed,
      fun _ => rfl, fun _ => rfl⟩

/-! ## Closing -/

theorem disconnectAll_at_once {t : Nat} (conns : List (ClusterKey × C)) (inTime : r.now < t) :
    ∃ r', p.disconnectAll (some t) none conns r = (.ok (), r') ∧
      Emptied (conns.map Prod.snd) r r' := by
  induction conns generalizing r with
  | nil => exact ⟨r, rfl, rfl, rfl, rfl, rfl, by simp⟩
  | cons kc rest ih =>
    obtain ⟨key, c⟩ := kc
    obtain ⟨w, gone⟩ := responsive.disconnect c r.world
    have given : Task.await (some t) (p.services.askDisconnect c) r =
        (.ok (), (r.begun (.disconnect c) w).atTime r.now) := by
      refine Task.await_of_inTime (d := 0) ?_ nofun rfl fun t' same => ?_
      · rw [Services.askDisconnect, Services.ask_eq, gone]
        rfl
      · cases same
        exact inTime
    obtain ⟨r', drained, emptied⟩ := ih
      (r := ((r.begun (.disconnect c) w).atTime r.now).note (.disconnected c (.ok ()))) inTime
    refine ⟨r', ?_, emptied.cons⟩
    unfold disconnectAll
    rw [given]
    exact drained

/-- Closing the pool right after the first call gives up what that left open, so that disconnect is
called once on every connection, in the order in which they were opened. -/
theorem connect_close {world : σ} {pool : Pool C} {limit : Nat} {o : Outcome (Credential × C)}
    (h : p.connect none key {} { world } = (o, pool, r)) (some_time : 0 < limit) :
    ∃ r', p.close (some (r.now + limit)) pool r =
        (.ok (), { pool with connections := [], isClosed := true }, r') ∧
      r'.disconnects = r'.opened ∧ r'.opened = r.opened ∧
      ((∀ v, o ≠ .ok v) → r.disconnects = r.opened) ∧ (¬ o.IsAnswer → r.opened = []) := by
  obtain ⟨asked, lost, kept, target, grown, connections, isOpen, unkept, unopened⟩ :=
    connect_left responsive h
  have opened : r.opened = lost ++ kept := by
    rw [Run.opened, grown.openings]
    simp [Run.openings, Function.comp_def]
  have given : r.disconnects = lost := by
    rw [grown.disconnects]
    rfl
  have pooled : pool.connections.map Prod.snd = kept := by simp [connections, Function.comp_def]
  obtain ⟨r', drained, emptied⟩ := disconnectAll_at_once responsive (r := r)
    pool.connections (t := r.now + limit) (Nat.lt_add_of_pos_right some_time)
  have same : r'.opened = r.opened := by rw [Run.opened, emptied.openings, Run.opened]
  refine ⟨r', ?_, ?_, same, fun noResult => ?_, fun broken => ?_⟩
  · unfold close
    rw [isOpen, if_neg Bool.false_ne_true, drained]
  · rw [emptied.disconnects, given, pooled, same, opened]
  · rw [given, opened, unkept noResult, List.append_nil]
  · rw [opened, unopened broken]

end PoolConfig
end ClusterAccess
