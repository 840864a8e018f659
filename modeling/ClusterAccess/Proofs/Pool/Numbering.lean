import ClusterAccess.Proofs.Pool.History
import Mathlib.Data.List.Perm.Basic

/-!
# Numbered connections

A driver may hand over the same handle twice, so that a handle does not tell connections apart. Here
every connection carries the number of the dial that opened it. The pool cannot see the numbers:
whatever it does with numbered connections is, numbers apart, what it does with plain ones.

## Main definitions

* `Numbered`: a connection with the number of its dial.
* `PoolConfig.numbered`: the pool over a driver that numbers what it hands over.
* `Run.forget`, `Pool.forget`, `PoolState.forget`: without the numbers.

## Main statements

* `PoolConfig.connect_forget`, `PoolConfig.close_forget`: the numbers change nothing.
* `PoolConfig.Reachable.numbered`: every state of a pool is one of its numbered pool, numbers apart.
-/
namespace ClusterAccess

open Time

variable {σ C D α β : Type}

structure Numbered (C : Type) where
  /-- How many dials came before. -/
  number : Nat
  connection : C

/-- The same services, where the world also counts the dials. -/
def Services.numbered (s : Services σ C) : Services (σ × Nat) (Numbered C) where
  password policy w := ((s.password policy w.1).1, ((s.password policy w.1).2, w.2))
  identifier length w := ((s.identifier length w.1).1, ((s.identifier length w.1).2, w.2))
  clock w := s.clock w.1
  createAccount project request w :=
    ((s.createAccount project request w.1).1, ((s.createAccount project request w.1).2, w.2))
  clusterInfo project cluster w :=
    ((s.clusterInfo project cluster w.1).1, ((s.clusterInfo project cluster w.1).2, w.2))
  connect target dialer options w :=
    ((s.connect target dialer options w.1).1.map (Except.map (Numbered.mk w.2)),
      ((s.connect target dialer options w.1).2, w.2 + 1))
  ping c w := ((s.ping c.connection w.1).1, ((s.ping c.connection w.1).2, w.2))
  disconnect c w := ((s.disconnect c.connection w.1).1, ((s.disconnect c.connection w.1).2, w.2))

/-- The same pool, in which connections are told apart by the dials that opened them. -/
def PoolConfig.numbered (p : PoolConfig σ C) : PoolConfig (σ × Nat) (Numbered C) :=
  ⟨p.services.numbered, p.settings, p.delay⟩

def Call.map (f : C → D) : Call C → Call D
  | password policy => .password policy
  | createAccount project request => .createAccount project request
  | clusterInfo project cluster => .clusterInfo project cluster
  | connect target dialer options => .connect target dialer options
  | ping c => .ping (f c)
  | disconnect c => .disconnect (f c)

def Event.map (f : C → D) : Event C → Event D
  | wait attempt => .wait attempt
  | dialed key target result => .dialed key target (result.map f)
  | pinged c result => .pinged (f c) result
  | disconnected c result => .disconnected (f c) result

/-- The run without the numbers. -/
def Run.forget (r : Run (σ × Nat) (Numbered C)) : Run σ C where
  world := r.world.1
  now := r.now
  calls := r.calls.map fun (t, call) => (t, call.map Numbered.connection)
  events := r.events.map fun (t, event) => (t, event.map Numbered.connection)

def Pool.forget (pool : Pool (Numbered C)) : Pool C where
  credentials := pool.credentials
  connections := pool.connections.map fun (key, c) => (key, c.connection)
  isClosed := pool.isClosed

def PoolState.forget (s : PoolState (σ × Nat) (Numbered C)) : PoolState σ C :=
  ⟨s.pool.forget, s.run.forget⟩

/-! ## The numbers change nothing -/

namespace Outcome

@[simp] theorem map_id (o : Outcome α) : o.map id = o := by cases o <;> rfl

@[simp] theorem map_ok (f : α → β) (a : α) : (ok a).map f = .ok (f a) := rfl

@[simp] theorem map_failed (f : α → β) (e : AccessError) : (failed e).map f = .failed e := rfl

@[simp] theorem map_aborted (f : α → β) : (aborted : Outcome α).map f = .aborted := rfl

@[simp] theorem map_stuck (f : α → β) : (stuck : Outcome α).map f = .stuck := rfl

end Outcome

namespace Run

variable (r : Run (σ × Nat) (Numbered C))

@[simp] theorem forget_world : r.forget.world = r.world.1 := rfl

@[simp] theorem forget_now : r.forget.now = r.now := rfl

@[simp] theorem forget_begun (call : Call (Numbered C)) (w : σ × Nat) :
    (r.begun call w).forget = r.forget.begun (call.map Numbered.connection) w.1 := by
  simp [forget, begun]

@[simp] theorem forget_note (e : Event (Numbered C)) :
    (r.note e).forget = r.forget.note (e.map Numbered.connection) := by
  simp [forget, note]

@[simp] theorem forget_atTime (t : Nat) : (r.atTime t).forget = r.forget.atTime t := rfl

end Run

theorem Task.settle_map (f : α → β) (reply : Reply (Outcome α)) :
    settle (reply.map (Outcome.map f)) = (settle reply).map (Outcome.map f) := by
  rcases reply with _ | ⟨d, _ | _ | _ | _⟩ <;> rfl

/-- If starting an operation means the same without numbers, so does waiting for it. -/
theorem Task.await_forget {cancelAt : Option Nat}
    {start' : Run (σ × Nat) (Numbered C) → Reply (Outcome α) × Run (σ × Nat) (Numbered C)}
    {start : Run σ C → Reply (Outcome β) × Run σ C} (f : α → β)
    (r : Run (σ × Nat) (Numbered C))
    (h : start r.forget = ((start' r).1.map (Outcome.map f), (start' r).2.forget)) :
    await cancelAt start r.forget =
      ((await cancelAt start' r).1.map f, (await cancelAt start' r).2.forget) := by
  unfold await
  rw [h]
  rcases start' r with ⟨reply, started⟩
  simp only [settle_map]
  cases cancelAt with
  | none => cases settle reply <;> simp [Reply.map, Run.forget]
  | some t =>
    by_cases late : t ≤ r.now
    · simp [late]
    · cases settle reply with
      | never => simp [Reply.map, late, Run.forget]
      | after d o => by_cases hd : t ≤ started.now + d <;> simp [Reply.map, late, Run.forget, hd]

/-- A wait whose reply holds no connection means the same without numbers. -/
theorem Task.await_forget_id {cancelAt : Option Nat}
    {start' : Run (σ × Nat) (Numbered C) → Reply (Outcome α) × Run (σ × Nat) (Numbered C)}
    {start : Run σ C → Reply (Outcome α) × Run σ C} (r : Run (σ × Nat) (Numbered C))
    (h : start r.forget = ((start' r).1, (start' r).2.forget)) :
    await cancelAt start r.forget =
      ((await cancelAt start' r).1, (await cancelAt start' r).2.forget) := by
  have same : (start' r).1.map (Outcome.map id) = (start' r).1 := by
    cases (start' r).1 <;> simp [Reply.map]
  have key : await cancelAt start r.forget = ((await cancelAt start' r).1.map id, _) :=
    await_forget id r (by rw [h, same])
  simpa using key

namespace Pool

variable (pool : Pool (Numbered C))

theorem credential?_forget (project : String) :
    pool.forget.credential? project = pool.credential? project := rfl

theorem isClosed_forget : pool.forget.isClosed = pool.isClosed := rfl

theorem connections_forget :
    pool.forget.connections = pool.connections.map (Prod.map id Numbered.connection) := rfl

theorem connection?_forget (key : ClusterKey) :
    pool.forget.connection? key = (pool.connection? key).map Numbered.connection := by
  unfold connection?
  rw [connections_forget]
  induction pool.connections with
  | nil => rfl
  | cons kc rest ih =>
    obtain ⟨k, c⟩ := kc
    by_cases h : key == k <;> simp [List.lookup_cons, h, ih]

end Pool

namespace PoolConfig

variable (p : PoolConfig σ C) {cancelAt : Option Nat} {key : ClusterKey} {target : Target}
  {dialer : Option ProxyDialer} {options : ConnectOptions} (r : Run (σ × Nat) (Numbered C))

theorem wait_forget (attempt : Nat) :
    p.wait cancelAt attempt r.forget =
      ((p.numbered.wait cancelAt attempt r).1, (p.numbered.wait cancelAt attempt r).2.forget) := by
  rw [wait_eq, wait_eq]
  simp only [numbered, Run.forget_now, Run.forget_atTime, Run.forget_note]
  rfl

theorem await_connect_forget :
    Task.await cancelAt (p.services.askConnect target dialer options) r.forget =
      ((Task.await cancelAt (p.numbered.services.askConnect target dialer options) r).1.map
        Numbered.connection,
      (Task.await cancelAt (p.numbered.services.askConnect target dialer options) r).2.forget) := by
  apply Task.await_forget
  simp only [Services.askConnect, Services.ask_eq, Run.forget_begun, Run.forget_world]
  refine Prod.ext ?_ rfl
  simp only [numbered, Services.numbered]
  rcases (p.services.connect target dialer options r.world.1).1 with _ | ⟨d, _ | _⟩ <;> rfl

theorem await_ping_forget (c : Numbered C) :
    Task.await cancelAt (p.services.askPing c.connection) r.forget =
      ((Task.await cancelAt (p.numbered.services.askPing c) r).1,
        (Task.await cancelAt (p.numbered.services.askPing c) r).2.forget) := by
  apply Task.await_forget_id
  simp only [Services.askPing, Services.ask_eq, Run.forget_begun]
  rfl

theorem await_disconnect_forget (c : Numbered C) :
    Task.await cancelAt (p.services.askDisconnect c.connection) r.forget =
      ((Task.await cancelAt (p.numbered.services.askDisconnect c) r).1,
        (Task.await cancelAt (p.numbered.services.askDisconnect c) r).2.forget) := by
  apply Task.await_forget_id
  simp only [Services.askDisconnect, Services.ask_eq, Run.forget_begun]
  rfl

theorem discard_forget (c : Numbered C) :
    p.discard c.connection r.forget =
      ((p.numbered.discard c r).1, (p.numbered.discard c r).2.forget) := by
  unfold discard
  rw [await_disconnect_forget]
  rcases Task.await none (p.numbered.services.askDisconnect c) r with ⟨_ | _ | _ | _, r₁⟩ <;>
    simp [Event.map]

theorem tryConnect_forget (attempt : Nat) :
    p.tryConnect cancelAt key target dialer options attempt r.forget =
      ((p.numbered.tryConnect cancelAt key target dialer options attempt r).1.map
        Numbered.connection,
      (p.numbered.tryConnect cancelAt key target dialer options attempt r).2.forget) := by
  unfold tryConnect
  rw [await_connect_forget]
  rcases Task.await cancelAt (p.numbered.services.askConnect target dialer options) r
    with ⟨c | e | _ | _, r₁⟩
  case ok =>
    have noted : r₁.forget.note (.dialed key target (.ok c.connection)) =
        (r₁.note (.dialed key target (.ok c))).forget := by simp [Event.map, Except.map]
    simp only [Outcome.map_ok, noted, await_ping_forget]
    rcases Task.await cancelAt (p.numbered.services.askPing c)
      (r₁.note (.dialed key target (.ok c))) with ⟨_ | e | _ | _, r₂⟩
    case failed =>
      have noted : r₂.forget.note (.pinged c.connection (.error e)) =
          (r₂.note (.pinged c (.error e))).forget := by simp [Event.map]
      simp only [noted, discard_forget]
      rcases p.numbered.discard c (r₂.note (.pinged c (.error e))) with ⟨_ | _ | _ | _, r₃⟩ <;> simp
    all_goals simp [Event.map]
  all_goals simp [Event.map, Except.map]

theorem retry_forget (left : Nat) (last : AccessError) :
    p.retry cancelAt key target dialer options left last r.forget =
      ((p.numbered.retry cancelAt key target dialer options left last r).1.map
        Numbered.connection,
      (p.numbered.retry cancelAt key target dialer options left last r).2.forget) := by
  induction left generalizing last r with
  | zero => rfl
  | succ left ih =>
    simp only [retry]
    rw [tryConnect_forget, show p.numbered.maxAttempts = p.maxAttempts from rfl]
    rcases p.numbered.tryConnect cancelAt key target dialer options (p.maxAttempts - left) r
      with ⟨_ | e | _ | _, r₁⟩
    case failed =>
      simp only [Outcome.map_failed]
      split
      · rfl
      · rw [wait_forget]
        rcases p.numbered.wait cancelAt (p.maxAttempts - left) r₁ with ⟨_ | _ | _ | _, r₂⟩
        · exact ih r₂ e
        all_goals rfl
    all_goals rfl

theorem openConnection_forget (credential : Credential) :
    p.openConnection cancelAt key dialer credential r.forget =
      ((p.numbered.openConnection cancelAt key dialer credential r).1.map Numbered.connection,
        (p.numbered.openConnection cancelAt key dialer credential r).2.forget) := by
  have lookUp (r : Run (σ × Nat) (Numbered C)) :
      Task.await cancelAt (p.askEndpoint key) r.forget =
        ((Task.await cancelAt (p.numbered.askEndpoint key) r).1,
          (Task.await cancelAt (p.numbered.askEndpoint key) r).2.forget) := by
    apply Task.await_forget_id
    exact Prod.ext rfl (r.forget_begun (.clusterInfo key.project key.cluster)
      (p.numbered.services.clusterInfo key.project key.cluster r.world).2).symm
  unfold openConnection
  simp only [bind, Task.bind]
  rw [wait_forget]
  rcases p.numbered.wait cancelAt 0 r with ⟨_ | _ | _ | _, r₁⟩
  · simp only [lookUp]
    rcases Task.await cancelAt (p.numbered.askEndpoint key) r₁ with ⟨_ | _ | _ | _, r₂⟩
    · exact p.retry_forget r₂ _ _
    all_goals rfl
  all_goals rfl

/-- Drawing for an account does not touch the count. -/
theorem order_numbered (project : String) (w : σ × Nat) :
    p.numbered.services.order p.settings.account project w =
      ((p.services.order p.settings.account project w.1).1,
        ((p.services.order p.settings.account project w.1).2, w.2)) := by
  simp only [Services.order, numbered, Services.numbered]
  rcases p.services.password p.settings.account.passwordPolicy w.1 with ⟨_ | _ | _ | _, w₁⟩
  case ok =>
    simp only
    rcases p.services.identifier identifierLength w₁ with ⟨_ | _ | _ | _, w₂⟩
    case ok =>
      simp only
      split
      · rfl
      · rcases (p.services.clock w₂).addSeconds? p.settings.account.lifetime with _ | deadline <;>
          rfl
    all_goals rfl
  all_goals rfl

theorem await_provision_forget (project : String) :
    Task.await cancelAt (p.services.provision p.settings.account project) r.forget =
      ((Task.await cancelAt (p.numbered.services.provision p.settings.account project) r).1,
        (Task.await cancelAt (p.numbered.services.provision p.settings.account project)
          r).2.forget) := by
  apply Task.await_forget_id
  simp only [Services.provision, Task.begin, order_numbered, Run.forget_world]
  rcases p.services.order p.settings.account project r.world.1 with ⟨_ | _ | _ | _, w₁⟩ <;>
    simp [Run.forget, Call.map, numbered, Services.numbered]

theorem credential_forget (project : String) (pool : Pool (Numbered C)) :
    p.credential cancelAt project pool.forget r.forget =
      ((p.numbered.credential cancelAt project pool r).1,
        (p.numbered.credential cancelAt project pool r).2.1.forget,
        (p.numbered.credential cancelAt project pool r).2.2.forget) := by
  unfold credential
  rw [Pool.credential?_forget]
  rcases pool.credential? project with _ | c
  · simp only [await_provision_forget, show p.numbered.settings = p.settings from rfl]
    rcases Task.await cancelAt (p.numbered.services.provision p.settings.account project) r
      with ⟨_ | _ | _ | _, r₁⟩ <;> rfl
  · rfl

theorem connect_forget (pool : Pool (Numbered C)) :
    p.connect cancelAt key pool.forget r.forget =
      ((p.numbered.connect cancelAt key pool r).1.map (Prod.map id Numbered.connection),
        (p.numbered.connect cancelAt key pool r).2.1.forget,
        (p.numbered.connect cancelAt key pool r).2.2.forget) := by
  unfold connect
  rw [Pool.isClosed_forget, show p.numbered.dialer key = p.dialer key from rfl, credential_forget]
  cases pool.isClosed
  case true => rfl
  cases p.dialer key
  case error => rfl
  rcases p.numbered.credential cancelAt key.project pool r with ⟨_ | _ | _ | _, pool₁, r₁⟩
  case ok dialer credential =>
    simp only [Pool.connection?_forget]
    rcases pool₁.connection? key with _ | c
    · simp only [Option.map_none, openConnection_forget]
      rcases p.numbered.openConnection cancelAt key dialer credential r₁
        with ⟨_ | _ | _ | _, r₂⟩ <;> simp [Pool.putConnection, Pool.forget]
    · simp
  all_goals rfl

theorem connectEach_forget (calls : List (Option Nat × ClusterKey)) (pool : Pool (Numbered C)) :
    p.connectEach calls pool.forget r.forget =
      ((p.numbered.connectEach calls pool r).1.map (Outcome.map (Prod.map id Numbered.connection)),
        (p.numbered.connectEach calls pool r).2.1.forget,
        (p.numbered.connectEach calls pool r).2.2.forget) := by
  induction calls generalizing pool r with
  | nil => rfl
  | cons call rest ih => simp only [connectEach, connect_forget, ih, List.map_cons]

theorem disconnectAll_forget (first : Option AccessError)
    (conns : List (ClusterKey × Numbered C)) :
    p.disconnectAll cancelAt first (conns.map (Prod.map id Numbered.connection)) r.forget =
      ((p.numbered.disconnectAll cancelAt first conns r).1,
        (p.numbered.disconnectAll cancelAt first conns r).2.forget) := by
  induction conns generalizing first r with
  | nil => cases first <;> rfl
  | cons kc rest ih =>
    obtain ⟨key, c⟩ := kc
    simp only [List.map_cons, Prod.map_apply, disconnectAll, await_disconnect_forget]
    rcases Task.await cancelAt (p.numbered.services.askDisconnect c) r with ⟨_ | e | _ | _, r₁⟩
    · simpa [Event.map] using ih (r₁.note (.disconnected c (.ok ()))) first
    · simpa [Event.map] using ih (r₁.note (.disconnected c (.error e))) (first.or (some e))
    all_goals rfl

theorem close_forget (pool : Pool (Numbered C)) :
    p.close cancelAt pool.forget r.forget =
      ((p.numbered.close cancelAt pool r).1, (p.numbered.close cancelAt pool r).2.1.forget,
        (p.numbered.close cancelAt pool r).2.2.forget) := by
  unfold close
  rw [Pool.isClosed_forget]
  cases pool.isClosed
  · rw [Pool.connections_forget, disconnectAll_forget]
    rfl
  · rfl

end PoolConfig

/-! ## Histories with numbers -/

namespace PoolConfig

variable {p : PoolConfig σ C}

theorem Step.numbered {s s' : PoolState σ C} (h : p.Step s s')
    {n : PoolState (σ × Nat) (Numbered C)} (hn : n.forget = s) :
    ∃ n', p.numbered.Step n n' ∧ n'.forget = s' := by
  obtain ⟨pool, r⟩ := n
  subst hn
  cases h with
  | @connect cancelAt key _ _ _ _ _ call finished =>
    rcases hc : p.numbered.connect cancelAt key pool r with ⟨o, pool', r'⟩
    have same := (p.connect_forget r pool).symm.trans call
    simp only [hc, Prod.mk.injEq] at same
    obtain ⟨rfl, rfl, rfl⟩ := same
    refine ⟨⟨pool', r'⟩, .connect hc ?_, rfl⟩
    rintro rfl
    exact finished rfl
  | @together calls _ _ _ _ _ group finished =>
    rcases hc : p.numbered.connectEach calls pool r with ⟨os, pool', r'⟩
    have same := (p.connectEach_forget r calls pool).symm.trans group
    simp only [hc, Prod.mk.injEq] at same
    obtain ⟨rfl, rfl, rfl⟩ := same
    refine ⟨⟨pool', r'⟩, .together hc ?_, rfl⟩
    exact fun stuck => finished (List.mem_map.mpr ⟨_, stuck, rfl⟩)
  | @close cancelAt _ _ _ _ _ _ perm close finished =>
    -- An order of the plain connections comes of an order of the numbered ones.
    obtain ⟨order, rfl, perm'⟩ := (congrFun₂ (List.eq_map_comp_perm _) _ _).mpr perm
    rcases hc : p.numbered.close cancelAt { pool with connections := order } r with ⟨o, pool', r'⟩
    have same := (p.close_forget r { pool with connections := order }).symm.trans close
    simp only [hc, Prod.mk.injEq] at same
    obtain ⟨rfl, rfl, rfl⟩ := same
    exact ⟨⟨pool', r'⟩, .close perm' hc finished, rfl⟩
  | sleep milliseconds =>
    exact ⟨⟨pool, (Task.sleep milliseconds r).2⟩, .sleep milliseconds pool r, rfl⟩

/-- Every history is one of the numbered pool, numbers apart. -/
theorem Steps.numbered {s s' : PoolState σ C} (h : p.Steps s s')
    {n : PoolState (σ × Nat) (Numbered C)} (hn : n.forget = s) :
    ∃ n', p.numbered.Steps n n' ∧ n'.forget = s' := by
  induction h with
  | refl => exact ⟨n, .refl n, hn⟩
  | tail _ step ih =>
    obtain ⟨n₁, steps, h₁⟩ := ih
    obtain ⟨n', last, h'⟩ := step.numbered h₁
    exact ⟨n', steps.trans last.steps, h'⟩

/-- What a new numbered pool can come to, where the count begins with its first dial. -/
def NumberedReachable (p : PoolConfig σ C) (n : PoolState (σ × Nat) (Numbered C)) : Prop :=
  ∃ world, p.numbered.Steps (.start (world, 0)) n

theorem NumberedReachable.reachable {n : PoolState (σ × Nat) (Numbered C)}
    (h : p.NumberedReachable n) : p.numbered.Reachable n := by
  obtain ⟨world, steps⟩ := h
  exact ⟨(world, 0), steps⟩

theorem NumberedReachable.steps {n n' : PoolState (σ × Nat) (Numbered C)}
    (h : p.NumberedReachable n) (h' : p.numbered.Steps n n') : p.NumberedReachable n' := by
  obtain ⟨world, steps⟩ := h
  exact ⟨world, steps.trans h'⟩

/-- Every state of a pool is one of its numbered pool, numbers apart. -/
theorem Reachable.numbered {s : PoolState σ C} (h : p.Reachable s) :
    ∃ n, p.NumberedReachable n ∧ n.forget = s := by
  obtain ⟨world, steps⟩ := h
  have start : (PoolState.start (C := Numbered C) (world, 0)).forget = .start world := rfl
  obtain ⟨n, steps', forget⟩ := Steps.numbered steps start
  exact ⟨n, ⟨world, steps'⟩, forget⟩

end PoolConfig
end ClusterAccess
