import ClusterAccess.Proofs.Pool.Play
import ClusterAccess.Proofs.Run.Likeness

/-!
# Pools that are alike

Two pools whose services answer alike are played alike, as long as the dialers of their settings
are. The proof goes through the pool function by function: none of them looks at what a likeness
leaves open.

## Main definitions

* `PoolConfig.Alike`, `Pool.Alike`, `PoolState.Alike`: the same up to a likeness.
* `Answer.Alike`, `Receipt.Alike`: what is seen of an instruction, up to a likeness.

## Main statements

* `PoolConfig.alike_of_settings`: pools with the same settings need services that are alike.
* `PoolConfig.Alike.connect`, `PoolConfig.Alike.connectEach`, `PoolConfig.Alike.close`: what the
  functions of the pool preserve.
* `PoolConfig.Alike.play`: what is played on pools that are alike is alike.
-/
namespace ClusterAccess

open Time

variable {σ σ' C C' α β κ : Type} {L : Likeness σ C σ' C'}

/-! ## Pools -/

structure Pool.Alike (L : Likeness σ C σ' C') (pool : Pool C) (pool' : Pool C') : Prop where
  credentials : List.Forall₂ (Keyed (Credential.Alike L.secret)) pool.credentials pool'.credentials
  connections : List.Forall₂ (Keyed L.connection) pool.connections pool'.connections
  isClosed : pool.isClosed = pool'.isClosed

/-- Pools over services that are alike, which differ in their settings at most in how connections
are made. -/
structure PoolConfig.Alike (L : Likeness σ C σ' C') (p : PoolConfig σ C) (p' : PoolConfig σ' C') :
    Prop where
  services : p.services.Alike L p'.services
  account : p.settings.account = p'.settings.account
  attempts : p.maxAttempts = p'.maxAttempts
  delay : p.delay = p'.delay
  dialer (key : ClusterKey) :
    (∃ e, p.dialer key = .error e ∧ p'.dialer key = .error e) ∨
      ∃ d d', p.dialer key = .ok d ∧ p'.dialer key = .ok d' ∧
        L.way (d, p.options d) (d', p'.options d')

/-- With the same settings on both sides, the dialers are the same. -/
theorem PoolConfig.alike_of_settings {p : PoolConfig σ C} {p' : PoolConfig σ' C'}
    (services : p.services.Alike L p'.services) (settings : p.settings = p'.settings)
    (delay : p.delay = p'.delay)
    (way : ∀ key d, p.dialer key = .ok d → L.way (d, p.options d) (d, p.options d)) :
    p.Alike L p' where
  services := services
  account := by rw [settings]
  attempts := by rw [maxAttempts, maxAttempts, settings]
  delay := delay
  dialer key := by
    have dialer : p'.dialer key = p.dialer key := by unfold PoolConfig.dialer; rw [settings]
    have options (d : Option ProxyDialer) : p'.options d = p.options d := by
      rw [PoolConfig.options, PoolConfig.options, settings]
    cases hd : p.dialer key with
    | error e => exact .inl ⟨e, rfl, dialer.trans hd⟩
    | ok d => exact .inr ⟨d, d, rfl, dialer.trans hd, by rw [options]; exact way key d hd⟩

theorem Keyed.lookup [BEq κ] {V : α → β → Prop} {l : List (κ × α)} {l' : List (κ × β)}
    (h : List.Forall₂ (Keyed V) l l') (k : κ) : Option.Rel V (l.lookup k) (l'.lookup k) := by
  induction h with
  | nil => exact .none
  | @cons x y l l' same _ ih =>
    obtain ⟨kx, a⟩ := x
    obtain ⟨ky, b⟩ := y
    obtain ⟨rfl, values⟩ := same
    simp only [List.lookup_cons]
    split
    · exact .some values
    · exact ih

namespace Pool.Alike

variable {pool : Pool C} {pool' : Pool C'}

theorem size (h : pool.Alike L pool') : pool.size = pool'.size := h.connections.length_eq

theorem putCredential (h : pool.Alike L pool') (project : String) {c c' : Credential}
    (same : c.Alike L.secret c') :
    (pool.putCredential project c).Alike L (pool'.putCredential project c') :=
  ⟨List.rel_append h.credentials (.cons ⟨rfl, same⟩ .nil), h.connections, h.isClosed⟩

theorem putConnection (h : pool.Alike L pool') (key : ClusterKey) {c : C} {c' : C'}
    (same : L.connection c c') :
    (pool.putConnection key c).Alike L (pool'.putConnection key c') :=
  ⟨h.credentials, List.rel_append h.connections (.cons ⟨rfl, same⟩ .nil), h.isClosed⟩

theorem orderedInsert {V : α → β → Prop} (rank : κ → Nat) {x : κ × α} {y : κ × β}
    {l : List (κ × α)} {l' : List (κ × β)} (first : Keyed V x y)
    (h : List.Forall₂ (Keyed V) l l') :
    List.Forall₂ (Keyed V) (l.orderedInsert (fun x y => rank x.1 ≤ rank y.1) x)
      (l'.orderedInsert (fun x y => rank x.1 ≤ rank y.1) y) := by
  induction h with
  | nil => exact .cons first .nil
  | cons same rest ih =>
    simp only [List.orderedInsert_cons, ← first.1, ← same.1]
    split
    · exact .cons first (.cons same rest)
    · exact .cons same ih

theorem insertionSort {V : α → β → Prop} (rank : κ → Nat) {l : List (κ × α)} {l' : List (κ × β)}
    (h : List.Forall₂ (Keyed V) l l') :
    List.Forall₂ (Keyed V) (l.insertionSort fun x y => rank x.1 ≤ rank y.1)
      (l'.insertionSort fun x y => rank x.1 ≤ rank y.1) := by
  induction h with
  | nil => exact .nil
  | cons same _ ih => exact orderedInsert rank same ih

theorem ranked (h : pool.Alike L pool') (rank : ClusterKey → Nat) :
    (pool.ranked rank).Alike L (pool'.ranked rank) :=
  ⟨h.credentials, insertionSort rank h.connections, h.isClosed⟩

end Pool.Alike

/-- A pool and a run that are left behind by an outcome. -/
def Pool.Both (L : Likeness σ C σ' C') (V : α → β → Prop) (x : α × Pool C × Run σ C)
    (y : β × Pool C' × Run σ' C') : Prop :=
  V x.1 y.1 ∧ x.2.1.Alike L y.2.1 ∧ x.2.2.Alike L y.2.2

theorem Pool.Both.exists {V : α → β → Prop} {x : α × Pool C × Run σ C}
    {y : β × Pool C' × Run σ' C'} (h : Pool.Both L V x y) :
    ∃ a pool r b pool' r', x = (a, pool, r) ∧ y = (b, pool', r') ∧ V a b ∧ pool.Alike L pool' ∧
      r.Alike L r' :=
  ⟨x.1, x.2.1, x.2.2, y.1, y.2.1, y.2.2, rfl, rfl, h.1, h.2.1, h.2.2⟩

/-- What a call gives back, up to a likeness. -/
def Likeness.Result (L : Likeness σ C σ' C') (x : Credential × C) (y : Credential × C') : Prop :=
  x.1.Alike L.secret y.1 ∧ L.connection x.2 y.2

inductive Answer.Alike (L : Likeness σ C σ' C') : Answer C → Answer C' → Prop
  | connected {os : List (Outcome (Credential × C))} {os' : List (Outcome (Credential × C'))}
      (h : List.Forall₂ (Outcome.Alike L.Result) os os') :
      Alike L (.connected os) (.connected os')
  | closed {o o' : Outcome Unit} (h : Outcome.Alike Eq o o') : Alike L (.closed o) (.closed o')
  | slept : Alike L .slept .slept

structure PoolState.Alike (L : Likeness σ C σ' C') (s : PoolState σ C) (s' : PoolState σ' C') :
    Prop where
  pool : s.pool.Alike L s'.pool
  run : s.run.Alike L s'.run

structure Receipt.Alike (L : Likeness σ C σ' C') (x : Receipt C) (y : Receipt C') : Prop where
  answer : x.answer.Alike L y.answer
  elapsed : x.elapsed = y.elapsed
  size : x.size = y.size
  calls : List.Forall₂ (Keyed (Call.Alike L)) x.calls y.calls

theorem Outcome.Alike.isStuck_eq {V : α → β → Prop} {o : Outcome α} {o' : Outcome β}
    (h : Outcome.Alike V o o') : o.isStuck = o'.isStuck := by
  cases h <;> rfl

theorem Answer.Alike.isStuck_eq {a : Answer C} {a' : Answer C'} (h : a.Alike L a') :
    a.isStuck = a'.isStuck := by
  cases h with
  | slept => rfl
  | closed h => exact h.isStuck_eq
  | connected h =>
    simp only [Answer.isStuck]
    induction h with
    | nil => rfl
    | cons first _ ih => rw [List.any_cons, List.any_cons, first.isStuck_eq, ih]

theorem Answer.Alike.eq {L : Likeness σ C σ' C} (exact : L.Exact) {a a' : Answer C}
    (h : a.Alike L a') : a = a' := by
  have results {x y : Credential × C} (h : L.Result x y) : x = y :=
    Prod.ext (h.1.eq exact.secret) (exact.connection h.2)
  cases h with
  | slept => rfl
  | closed h => rw [h.eq id]
  | connected h => rw [eq_of_forall₂ h fun same => same.eq results]

theorem Receipt.Alike.eq {L : Likeness σ C σ' C} (exact : L.Exact) {x y : Receipt C}
    (h : x.Alike L y) : x = y := by
  have answers : x.answer = y.answer := h.answer.eq exact
  have calls : x.calls = y.calls :=
    eq_of_forall₂ h.calls fun same => Prod.ext same.1 (same.2.eq exact)
  obtain ⟨-, elapsed, size, -⟩ := h
  cases x
  cases y
  simp_all

namespace PoolState.Alike

variable {s s₁ : PoolState σ C} {s' s₁' : PoolState σ' C'}

theorem start {w : σ} {w' : σ'} (worlds : L.world w w') :
    (PoolState.start w : PoolState σ C).Alike L (.start w' : PoolState σ' C') :=
  ⟨⟨.nil, .nil, rfl⟩, worlds, rfl, .nil⟩

theorem receipt {a : Answer C} {a' : Answer C'} (answers : a.Alike L a') (before : s.Alike L s')
    (after : s₁.Alike L s₁') :
    (PoolConfig.receipt a s s₁).Alike L (PoolConfig.receipt a' s' s₁') where
  answer := answers
  elapsed := by simp only [PoolConfig.receipt, before.run.now, after.run.now]
  size := after.pool.size
  calls := by
    simp only [PoolConfig.receipt, before.run.calls.length_eq]
    exact List.forall₂_drop _ after.run.calls

end PoolState.Alike

namespace PoolConfig.Alike

variable {p : PoolConfig σ C} {p' : PoolConfig σ' C'}

/-! ## One attempt -/

theorem wait (h : p.Alike L p') (cancelAt : Option Nat) (attempt : Nat) :
    Task.Alike L Eq (p.wait cancelAt attempt) (p'.wait cancelAt attempt) := by
  intro r r' runs
  have waited := (runs.note (.wait attempt) (.wait attempt)).atTime
    (r.now + (p.delay.wait attempt (cancelAt.map (· - r.now))).2)
  rw [wait_eq, wait_eq, ← h.delay, ← runs.now]
  split
  · exact ⟨.failed _, waited⟩
  · exact ⟨.ok rfl, waited⟩

theorem discard (h : p.Alike L p') {c : C} {c' : C'} (same : L.connection c c') :
    Task.Alike L Eq (p.discard c) (p'.discard c') := by
  intro r r' runs
  obtain ⟨o, r, o', r', hd, hd', outcomes, runs⟩ :=
    (Task.Alike.await (h.services.askDisconnect same) none runs).exists
  unfold PoolConfig.discard
  rw [hd, hd']
  cases outcomes with
  | ok => exact ⟨.ok rfl, runs.note _ _⟩
  | failed e => exact ⟨.ok rfl, runs.note _ _⟩
  | aborted => exact ⟨.aborted, runs⟩
  | stuck => exact ⟨.stuck, runs⟩

theorem tryConnect (h : p.Alike L p') (cancelAt : Option Nat) (key : ClusterKey) {t t' : Target}
    {d d' : Option ProxyDialer} {o o' : ConnectOptions} (target : t.Alike L.secret t')
    (way : L.way (d, o) (d', o')) (attempt : Nat) :
    Task.Alike L L.connection (p.tryConnect cancelAt key t d o attempt)
      (p'.tryConnect cancelAt key t' d' o' attempt) := by
  intro r r' runs
  obtain ⟨x, r, x', r', hd, hd', dials, runs⟩ :=
    (Task.Alike.await (h.services.askConnect target way) cancelAt runs).exists
  unfold PoolConfig.tryConnect
  rw [hd, hd']
  cases dials with
  | failed e => exact ⟨.failed _, runs.note _ _⟩
  | aborted => exact ⟨.aborted, runs⟩
  | stuck => exact ⟨.stuck, runs⟩
  | @ok c c' same =>
    obtain ⟨x, r, x', r', hp, hp', pings, runs⟩ :=
      (Task.Alike.await (h.services.askPing same) cancelAt
        (runs.note (.dialed key t (.ok c)) (.dialed key t' (.ok c')))).exists
    dsimp only
    rw [hp, hp']
    cases pings with
    | ok => exact ⟨.ok same, runs.note _ _⟩
    | aborted => exact ⟨.aborted, runs⟩
    | stuck => exact ⟨.stuck, runs⟩
    | failed e =>
      obtain ⟨x, r, x', r', hg, hg', givenUp, runs⟩ :=
        (h.discard same (runs.note (.pinged c (.error e)) (.pinged c' (.error e)))).exists
      dsimp only
      rw [hg, hg']
      cases givenUp with
      | ok => exact ⟨.failed _, runs⟩
      | failed e => exact ⟨.failed e, runs⟩
      | aborted => exact ⟨.aborted, runs⟩
      | stuck => exact ⟨.stuck, runs⟩

/-! ## A call -/

theorem retry (h : p.Alike L p') (cancelAt : Option Nat) (key : ClusterKey) {t t' : Target}
    {d d' : Option ProxyDialer} {o o' : ConnectOptions} (target : t.Alike L.secret t')
    (way : L.way (d, o) (d', o')) (left : Nat) (last : AccessError) :
    Task.Alike L L.connection (p.retry cancelAt key t d o left last)
      (p'.retry cancelAt key t' d' o' left last) := by
  -- The last failure decides the end, and it is the same on both sides.
  induction left generalizing last with
  | zero =>
    intro r r' runs
    simp only [PoolConfig.retry, h.attempts]
    exact ⟨.failed _, runs⟩
  | succ left ih =>
    intro r r' runs
    obtain ⟨x, r, x', r', ht, ht', attempts, runs⟩ :=
      (h.tryConnect cancelAt key target way (p.maxAttempts - left) runs).exists
    simp only [PoolConfig.retry, ← h.attempts]
    rw [ht, ht']
    cases attempts with
    | ok same => exact ⟨.ok same, runs⟩
    | aborted => exact ⟨.aborted, runs⟩
    | stuck => exact ⟨.stuck, runs⟩
    | failed e =>
      dsimp only
      split
      · exact ⟨.failed e, runs⟩
      · obtain ⟨x, r, x', r', hw, hw', waits, runs⟩ :=
          (h.wait cancelAt (p.maxAttempts - left) runs).exists
        rw [hw, hw']
        cases waits with
        | ok => exact ih e runs
        | failed e => exact ⟨.failed e, runs⟩
        | aborted => exact ⟨.aborted, runs⟩
        | stuck => exact ⟨.stuck, runs⟩

theorem askEndpoint (h : p.Alike L p') (key : ClusterKey) :
    Start.Alike L Eq (p.askEndpoint key) (p'.askEndpoint key) := by
  intro r r' runs
  obtain ⟨replies, worlds⟩ := h.services.clusterInfo key.project key.cluster runs.world
  refine ⟨?_, runs.begun (.clusterInfo key.project key.cluster) worlds⟩
  unfold PoolConfig.askEndpoint Task.begin
  dsimp only
  rw [replies]
  exact Reply.Alike.refl .refl _

theorem openConnection (h : p.Alike L p') (cancelAt : Option Nat) (key : ClusterKey)
    {d d' : Option ProxyDialer} (way : L.way (d, p.options d) (d', p'.options d'))
    {c c' : Credential} (credentials : c.Alike L.secret c') :
    Task.Alike L L.connection (p.openConnection cancelAt key d c)
      (p'.openConnection cancelAt key d' c') := by
  refine Task.Alike.bind (h.wait cancelAt 0) fun _ => ?_
  refine Task.Alike.bind (Task.Alike.await (h.askEndpoint key) cancelAt) ?_
  rintro endpoint _ rfl
  rw [← h.attempts]
  exact h.retry cancelAt key (.assemble endpoint credentials) way _ _

theorem credential (h : p.Alike L p') (cancelAt : Option Nat) (project : String) {pool : Pool C}
    {pool' : Pool C'} {r : Run σ C} {r' : Run σ' C'} (pools : pool.Alike L pool')
    (runs : r.Alike L r') :
    Pool.Both L (Outcome.Alike (Credential.Alike L.secret)) (p.credential cancelAt project pool r)
      (p'.credential cancelAt project pool' r') := by
  have kept := Keyed.lookup pools.credentials project
  unfold PoolConfig.credential Pool.credential?
  generalize pool.credentials.lookup project = c, pool'.credentials.lookup project = c' at kept
  cases kept with
  | some same => exact ⟨.ok same, pools, runs⟩
  | none =>
    obtain ⟨x, r, x', r', hp, hp', orders, runs⟩ := (Task.Alike.await
      (h.services.provision p.settings.account project) cancelAt runs).exists
    dsimp only
    rw [← h.account, hp, hp']
    cases orders with
    | ok same => exact ⟨.ok same, pools.putCredential project same, runs⟩
    | failed e => exact ⟨.failed e, pools, runs⟩
    | aborted => exact ⟨.aborted, pools, runs⟩
    | stuck => exact ⟨.stuck, pools, runs⟩

theorem connect (h : p.Alike L p') (cancelAt : Option Nat) (key : ClusterKey) {pool : Pool C}
    {pool' : Pool C'} {r : Run σ C} {r' : Run σ' C'} (pools : pool.Alike L pool')
    (runs : r.Alike L r') :
    Pool.Both L (Outcome.Alike L.Result) (p.connect cancelAt key pool r)
      (p'.connect cancelAt key pool' r') := by
  unfold PoolConfig.connect
  rw [← pools.isClosed]
  split
  · exact ⟨.failed .closed, pools, runs⟩
  rcases h.dialer key with ⟨e, hd, hd'⟩ | ⟨d, d', hd, hd', way⟩ <;> rw [hd, hd']
  · exact ⟨.failed e, pools, runs⟩
  obtain ⟨x, pool, r, x', pool', r', hc, hc', credentials, pools, runs⟩ :=
    (h.credential cancelAt key.project pools runs).exists
  dsimp only
  rw [hc, hc']
  cases credentials with
  | failed e => exact ⟨.failed e, pools, runs⟩
  | aborted => exact ⟨.aborted, pools, runs⟩
  | stuck => exact ⟨.stuck, pools, runs⟩
  | ok credentials =>
    have kept := Keyed.lookup pools.connections key
    unfold Pool.connection?
    dsimp only
    generalize pool.connections.lookup key = c, pool'.connections.lookup key = c' at kept
    cases kept with
    | some same => exact ⟨.ok ⟨credentials, same⟩, pools, runs⟩
    | none =>
      obtain ⟨x, r, x', r', ho, ho', openings, runs⟩ :=
        (h.openConnection cancelAt key way credentials runs).exists
      dsimp only
      rw [ho, ho']
      cases openings with
      | ok same => exact ⟨.ok ⟨credentials, same⟩, pools.putConnection key same, runs⟩
      | failed e => exact ⟨.failed e, pools, runs⟩
      | aborted => exact ⟨.aborted, pools, runs⟩
      | stuck => exact ⟨.stuck, pools, runs⟩

/-! ## Groups of calls, and closing -/

theorem connectEach (h : p.Alike L p') (calls : List (Option Nat × ClusterKey)) {pool : Pool C}
    {pool' : Pool C'} {r : Run σ C} {r' : Run σ' C'} (pools : pool.Alike L pool')
    (runs : r.Alike L r') :
    Pool.Both L (List.Forall₂ (Outcome.Alike L.Result)) (p.connectEach calls pool r)
      (p'.connectEach calls pool' r') := by
  induction calls generalizing pool pool' r r' with
  | nil => exact ⟨.nil, pools, runs⟩
  | cons call rest ih =>
    obtain ⟨cancelAt, key⟩ := call
    obtain ⟨first, pools, runs⟩ := h.connect cancelAt key pools runs
    obtain ⟨others, pools, runs⟩ := ih pools runs
    exact ⟨.cons first others, pools, runs⟩

theorem disconnectAll (h : p.Alike L p') (cancelAt : Option Nat) (first : Option AccessError)
    {l : List (ClusterKey × C)} {l' : List (ClusterKey × C')}
    (connections : List.Forall₂ (Keyed L.connection) l l') :
    Task.Alike L Eq (p.disconnectAll cancelAt first l) (p'.disconnectAll cancelAt first l') := by
  induction connections generalizing first with
  | nil =>
    intro r r' runs
    cases first with
    | none => exact ⟨.ok rfl, runs⟩
    | some e => exact ⟨.failed e, runs⟩
  | @cons x y l l' same _ ih =>
    intro r r' runs
    obtain ⟨o, r, o', r', hd, hd', outcomes, runs⟩ :=
      (Task.Alike.await (h.services.askDisconnect same.2) cancelAt runs).exists
    simp only [PoolConfig.disconnectAll, hd, hd']
    cases outcomes with
    | ok => exact ih _ (runs.note _ _)
    | failed e => exact ih _ (runs.note _ _)
    | aborted => exact ⟨.aborted, runs⟩
    | stuck => exact ⟨.stuck, runs⟩

theorem close (h : p.Alike L p') (cancelAt : Option Nat) {pool : Pool C} {pool' : Pool C'}
    {r : Run σ C} {r' : Run σ' C'} (pools : pool.Alike L pool') (runs : r.Alike L r') :
    Pool.Both L (Outcome.Alike Eq) (p.close cancelAt pool r) (p'.close cancelAt pool' r') := by
  unfold PoolConfig.close
  rw [← pools.isClosed]
  split
  · exact ⟨.ok rfl, pools, runs⟩
  · obtain ⟨outcomes, runs⟩ := h.disconnectAll cancelAt none pools.connections runs
    exact ⟨outcomes, ⟨pools.credentials, .nil, rfl⟩, runs⟩

/-! ## Instructions -/

theorem perform (h : p.Alike L p') (i : Instruction) {s : PoolState σ C} {s' : PoolState σ' C'}
    (states : s.Alike L s') :
    (p.perform i s).1.Alike L (p'.perform i s').1 ∧
      (p.perform i s).2.Alike L (p'.perform i s').2 := by
  obtain ⟨pools, runs⟩ := states
  cases i with
  | connect cancelAt key =>
    obtain ⟨outcomes, pools, runs⟩ := h.connect cancelAt key pools runs
    exact ⟨.connected (.cons outcomes .nil), pools, runs⟩
  | together calls =>
    obtain ⟨outcomes, pools, runs⟩ := h.connectEach calls pools runs
    exact ⟨.connected outcomes, pools, runs⟩
  | close cancelAt rank =>
    obtain ⟨outcomes, pools, runs⟩ := h.close cancelAt (pools.ranked rank) runs
    exact ⟨.closed outcomes, pools, runs⟩
  | sleep milliseconds =>
    exact ⟨.slept, pools, runs.world, congrArg (· + milliseconds) runs.now, runs.calls⟩

theorem play (h : p.Alike L p') (instructions : List Instruction) {s : PoolState σ C}
    {s' : PoolState σ' C'} (states : s.Alike L s') :
    List.Forall₂ (Receipt.Alike L) (p.play instructions s).1 (p'.play instructions s').1 ∧
      (p.play instructions s).2.Alike L (p'.play instructions s').2 := by
  induction instructions generalizing s s' with
  | nil => exact ⟨.nil, states⟩
  | cons i rest ih =>
    obtain ⟨answers, after⟩ := h.perform i states
    have receipts := PoolState.Alike.receipt answers states after
    -- Both sides get stuck at the same instruction.
    simp only [PoolConfig.play, ← answers.isStuck_eq]
    split
    · exact ⟨.cons receipts .nil, after⟩
    · obtain ⟨later, final⟩ := ih after
      exact ⟨.cons receipts later, final⟩

end PoolConfig.Alike
end ClusterAccess
