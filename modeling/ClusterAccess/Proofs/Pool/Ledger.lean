import ClusterAccess.Proofs.Pool.Cache

/-!
# The ledger of connections

What becomes of every connection that the driver ever handed over. It is kept, or it was given up
once, or closing the pool dropped it because the cancellation came before its turn.

## Main definitions

* `Balanced`: an open pool keeps what passed its test and has given up what failed it.
* `Closing`: the pool is closed, taking the connections in some order.
* `Skipped`: a connection whose turn did not come while the pool was closed.
* `Fate`: the three things that can become of a connection.

## Main statements

* `Served.balanced`: calls keep the balance.
* `PoolConfig.Steps.balanced_or_closed`: a pool is balanced until it is closed, and afterwards
  nothing happens to its connections.
* `PoolConfig.Reachable.ledger`: every connection has exactly one fate.
-/
namespace ClusterAccess

open PoolConfig

variable {σ C : Type} {p : PoolConfig σ C} {s s' before after : PoolState σ C}

/-- Every connection has been tested; those that passed are kept, and disconnect was called once on
each of those that failed. -/
structure Balanced (s : PoolState σ C) : Prop where
  opened : s.run.opened.Perm (s.run.passed ++ s.run.failed)
  kept : s.pool.connections.map Prod.snd = s.run.passed
  lost : s.run.disconnects = s.run.failed

theorem Served.balanced {key : ClusterKey} {asked : List String} {made : List Credential}
    {lost kept : List C} {target : Target} {pool pool' : Pool C} {r r' : Run σ C}
    (h : Served key asked made lost kept target pool pool' r r') (hs : Balanced ⟨pool, r⟩) :
    Balanced ⟨pool', r'⟩ where
  opened := by
    have opened : r'.opened = r.opened ++ (lost ++ kept) := by
      simp [Run.opened, h.grown.openings, Function.comp_def]
    have shuffled : (r.passed ++ r.failed ++ (lost ++ kept)).Perm
        (r.passed ++ kept ++ (r.failed ++ lost)) := by
      classical
      refine List.perm_iff_count.mpr fun c => ?_
      simp only [List.count_append]
      omega
    simp only [opened, h.grown.passed, h.grown.failed]
    exact (hs.opened.append_right _).trans shuffled
  kept := by simp [h.connections, h.grown.passed, ← hs.kept, Function.comp_def]
  lost := by simpa only [h.grown.disconnects, h.grown.failed] using congrArg (· ++ lost) hs.lost

/-- An open pool is closed, and its connections are taken in the given order. -/
structure Closing (p : PoolConfig σ C) (cancelAt : Option Nat) (order : List (ClusterKey × C))
    (before after : PoolState σ C) : Prop where
  isOpen : before.pool.isClosed = false
  perm : order.Perm before.pool.connections
  close : ∃ o, o ≠ .stuck ∧
    p.close cancelAt { before.pool with connections := order } before.run =
      (o, after.pool, after.run)

/-- Nothing more has happened to the connections of a pool that was closed in `after`. -/
structure Settled (after s : PoolState σ C) : Prop where
  isClosed : s.pool.isClosed = true
  connections : s.pool.connections = []
  openings : s.run.openings = after.run.openings
  disconnects : s.run.disconnects = after.run.disconnects

namespace PoolConfig

theorem Step.settled (h : p.Step s s') (hs : Settled after s) : Settled after s' := by
  refine h.preserves (Q := Settled after) ?_ ?_ ?_ hs
  · intro cancelAt key pool pool' r r' o hs call _
    obtain ⟨-, rfl, rfl⟩ := call.of_closed hs.isClosed
    exact hs
  · intro cancelAt order pool pool' r r' o hs perm closing _
    have none : order = [] := (hs.connections ▸ perm).eq_nil
    rcases close_cases closing with ⟨-, -, rfl, rfl⟩ | ⟨isOpen, -⟩
    · exact ⟨hs.isClosed, none, hs.openings, hs.disconnects⟩
    · exact absurd (isOpen.symm.trans hs.isClosed) Bool.false_ne_true
  · exact fun hs => ⟨hs.isClosed, hs.connections, hs.openings, hs.disconnects⟩

/-- While a pool stays open it is balanced. -/
theorem Step.balanced (h : p.Step s s') (isOpen : s.pool.isClosed = false) (hs : Balanced s) :
    (s'.pool.isClosed = false ∧ Balanced s') ∨ ∃ cancelAt order, Closing p cancelAt order s s' := by
  have call {cancelAt key pool pool' r r' o} (hs : pool.isClosed = false ∧ Balanced ⟨pool, r⟩)
      (call : Connected p cancelAt key pool r o pool' r') (finished : o ≠ .stuck) :
      pool'.isClosed = false ∧ Balanced ⟨pool', r'⟩ := by
    obtain ⟨asked, made, lost, kept, target, served⟩ := call.served finished
    exact ⟨served.isClosed.trans hs.1, served.balanced hs.2⟩
  cases h with
  | connect h finished => exact .inl (call ⟨isOpen, hs⟩ (p.connect_connected h) finished)
  | together h finished =>
    exact .inl (connectEach_steps (Q := fun s => s.pool.isClosed = false ∧ Balanced s)
      call h finished ⟨isOpen, hs⟩)
  | close perm h finished => exact .inr ⟨_, _, isOpen, perm, _, finished, h⟩
  | sleep => exact .inl ⟨isOpen, hs.opened, hs.kept, hs.lost⟩

end PoolConfig

namespace Closing

variable {cancelAt : Option Nat} {order : List (ClusterKey × C)}

theorem settled (h : Closing p cancelAt order before after) : Settled after after := by
  obtain ⟨o, -, closing⟩ := h.close
  rcases close_cases closing with ⟨isClosed, -⟩ | ⟨-, -, closed⟩
  · exact absurd (h.isOpen.symm.trans isClosed) Bool.false_ne_true
  · exact ⟨by rw [closed], by rw [closed], rfl, rfl⟩

/-- Closing gives connections up until the cancellation comes, and drops the rest. -/
theorem split (h : Closing p cancelAt order before after) :
    ∃ gone skipped, order = gone ++ skipped ∧ Emptied (gone.map Prod.snd) before.run after.run ∧
      ∀ earlier kc later, skipped = earlier ++ kc :: later →
        ∃ t, cancelAt = some t ∧ t ≤ p.turn cancelAt (gone ++ earlier) before.run := by
  obtain ⟨o, finished, closing⟩ := h.close
  rcases close_cases closing with ⟨isClosed, -⟩ | ⟨-, drained, -⟩
  · exact absurd (h.isOpen.symm.trans isClosed) Bool.false_ne_true
  · obtain ⟨gone, skipped, split, emptied, -, late⟩ := drained.split finished
    exact ⟨gone, skipped, split, emptied, late⟩

end Closing

/-- A pool is balanced as long as it is open. Once it is closed nothing happens to its connections
any more. -/
theorem PoolConfig.Steps.balanced_or_closed {world : σ} (h : p.Steps (.start world) s) :
    (s.pool.isClosed = false ∧ Balanced s) ∨
      ∃ before after cancelAt order, p.Steps (.start world) before ∧ Balanced before ∧
        Closing p cancelAt order before after ∧ p.Steps after s ∧ Settled after s := by
  induction h with
  | refl => exact .inl ⟨rfl, .refl [], rfl, rfl⟩
  | @tail s s' steps step ih =>
    rcases ih with ⟨isOpen, balanced⟩ | ⟨before, after, cancelAt, order, reached, hb, hc, since, hs⟩
    · rcases step.balanced isOpen balanced with stays | ⟨cancelAt, order, closing⟩
      · exact .inl stays
      · exact .inr ⟨s, s', cancelAt, order, steps, balanced, closing, .refl s', closing.settled⟩
    · exact .inr ⟨before, after, cancelAt, order, reached, hb, hc, since.trans step.steps,
        step.settled hs⟩

/-- A call that succeeds leaves its connection in the pool. -/
theorem Connected.pooled {cancelAt : Option Nat} {key : ClusterKey} {credential : Credential}
    {c : C} {pool pool' : Pool C} {r r' : Run σ C}
    (h : Connected p cancelAt key pool r (.ok (credential, c)) pool' r') :
    (key, c) ∈ pool'.connections := by
  cases h with
  | unprovisioned _ _ _ _ passedOn => cases passedOn
  | hit _ _ _ present => exact Pool.mem_of_connection? present
  | opened => exact List.mem_append_right _ (List.mem_singleton_self _)
  | unopened _ _ _ _ _ passedOn => cases passedOn

/-! ## The fate of a connection -/

/-- The connection was kept when the pool was closed, and the cancellation came before its turn. -/
inductive Skipped (p : PoolConfig σ C) (n : PoolState (σ × Nat) (Numbered C)) (c : Numbered C) :
    Prop
  | mk {before after : PoolState (σ × Nat) (Numbered C)} {key : ClusterKey} {t : Nat}
      {earlier later : List (ClusterKey × Numbered C)} (reached : p.NumberedReachable before)
      (closing : Closing p.numbered (some t) (earlier ++ (key, c) :: later) before after)
      (late : t ≤ p.numbered.turn (some t) earlier before.run)
      (since : p.numbered.Steps after n)

/-- How often disconnect was called on a connection. -/
def PoolState.timesDisconnected (n : PoolState (σ × Nat) (Numbered C)) (c : Numbered C) : Nat :=
  (n.run.disconnects.map Numbered.number).count c.number

/-- What can become of a connection. -/
inductive Fate where
  | pooled
  | disconnected
  | dropped

def Fate.Holds (p : PoolConfig σ C) (n : PoolState (σ × Nat) (Numbered C)) (c : Numbered C) :
    Fate → Prop
  | pooled => (∃! key, (key, c) ∈ n.pool.connections) ∧ n.timesDisconnected c = 0
  | disconnected => (∀ key, (key, c) ∉ n.pool.connections) ∧ n.timesDisconnected c = 1
  | dropped =>
    (∀ key, (key, c) ∉ n.pool.connections) ∧ n.timesDisconnected c = 0 ∧ Skipped p n c

variable {n : PoolState (σ × Nat) (Numbered C)} {c : Numbered C}

/-- A connection cannot have two fates. -/
theorem Fate.Holds.unique {a b : Fate} (ha : a.Holds p n c) (hb : b.Holds p n c) : a = b := by
  cases a <;> cases b <;> simp only [Holds] at ha hb
  case pooled.dropped =>
    obtain ⟨key, mem, -⟩ := ha.1
    exact absurd mem (hb.1 key)
  case dropped.pooled =>
    obtain ⟨key, mem, -⟩ := hb.1
    exact absurd mem (ha.1 key)
  all_goals first | rfl | omega

theorem Fate.existsUnique_of {a : Fate} (h : a.Holds p n c) : ∃! fate : Fate, fate.Holds p n c :=
  ⟨a, h, fun _ hb => hb.unique h⟩

/-- No two connections that the driver handed over bear the same number. -/
theorem Counted.nodup {r : Run (σ × Nat) (Numbered C)} (h : Counted r) :
    (r.opened.map Numbered.number).Nodup :=
  h.increasing.imp Nat.ne_of_lt

/-- Of the connections, those on which disconnect was not called are told apart by their numbers
from those on which it was, once. -/
theorem Counted.timesDisconnected_cases {left : List (Numbered C)} (h : Counted n.run)
    (all : n.run.opened.Perm (left ++ n.run.disconnects)) (hc : c ∈ n.run.opened) :
    (c ∈ left ∧ n.timesDisconnected c = 0) ∨ (c ∉ left ∧ n.timesDisconnected c = 1) := by
  have nodup : (left.map Numbered.number ++ n.run.disconnects.map Numbered.number).Nodup := by
    rw [← List.map_append]
    exact (all.map Numbered.number).nodup h.nodup
  obtain ⟨-, nodupGone, apart⟩ := List.nodup_append.mp nodup
  rcases List.mem_append.mp (all.mem_iff.mp hc) with mem | mem
  · refine .inl ⟨mem, List.count_eq_zero.mpr fun gone => ?_⟩
    exact apart _ (List.mem_map_of_mem mem) _ gone rfl
  · refine .inr ⟨fun stays => ?_, List.count_eq_one_of_mem nodupGone (List.mem_map_of_mem mem)⟩
    exact apart _ (List.mem_map_of_mem stays) _ (List.mem_map_of_mem mem) rfl

/-- In a balanced pool a connection is pooled, or it was given up. -/
theorem Balanced.fate (h : Balanced n) (counted : Counted n.run) (cached : Cached n)
    (hc : c ∈ n.run.opened) : ∃! fate : Fate, fate.Holds p n c := by
  have all : n.run.opened.Perm (n.pool.connections.map Prod.snd ++ n.run.disconnects) := by
    rw [h.kept, h.lost]
    exact h.opened
  rcases counted.timesDisconnected_cases all hc with ⟨mem, times⟩ | ⟨gone, times⟩
  · obtain ⟨⟨key, c⟩, pooled, rfl⟩ := List.mem_map.mp mem
    have unique : ∃! key, (key, c) ∈ n.pool.connections :=
      ⟨key, pooled, fun key' mem' => cached.key_unique counted mem' pooled rfl⟩
    exact Fate.existsUnique_of (a := .pooled) ⟨unique, times⟩
  · have unpooled : ∀ key, (key, c) ∉ n.pool.connections :=
      fun key mem => gone (List.mem_map_of_mem mem)
    exact Fate.existsUnique_of (a := .disconnected) ⟨unpooled, times⟩

/-- Once a balanced pool has been closed, a connection was given up, or it was dropped. -/
theorem Closing.fate {before after : PoolState (σ × Nat) (Numbered C)} {cancelAt : Option Nat}
    {order : List (ClusterKey × Numbered C)} (reached : p.NumberedReachable before)
    (balanced : Balanced before) (closing : Closing p.numbered cancelAt order before after)
    (since : p.numbered.Steps after n) (settled : Settled after n) (counted : Counted n.run)
    (hc : c ∈ n.run.opened) : ∃! fate : Fate, fate.Holds p n c := by
  obtain ⟨gone, skipped, rfl, emptied, late⟩ := closing.split
  have unpooled : ∀ key, (key, c) ∉ n.pool.connections := by simp [settled.connections]
  have all : n.run.opened.Perm (skipped.map Prod.snd ++ n.run.disconnects) := by
    have passed : before.run.passed.Perm (gone.map Prod.snd ++ skipped.map Prod.snd) := by
      rw [← balanced.kept, ← List.map_append]
      exact (closing.perm.map Prod.snd).symm
    have opened : n.run.opened = before.run.opened := by
      rw [Run.opened, settled.openings, emptied.openings, ← Run.opened]
    rw [opened, settled.disconnects, emptied.disconnects, balanced.lost]
    refine (balanced.opened.trans (passed.append_right _)).trans ?_
    rw [List.append_assoc, ← List.append_assoc (skipped.map Prod.snd)]
    exact List.perm_append_comm
  rcases counted.timesDisconnected_cases all hc with ⟨mem, times⟩ | ⟨-, times⟩
  · obtain ⟨⟨key, c⟩, dropped, rfl⟩ := List.mem_map.mp mem
    obtain ⟨earlier, later, rfl⟩ := List.append_of_mem dropped
    obtain ⟨t, rfl, turn⟩ := late earlier (key, c) later rfl
    rw [← List.append_assoc] at closing
    exact Fate.existsUnique_of (a := .dropped) ⟨unpooled, times, .mk reached closing turn since⟩
  · exact Fate.existsUnique_of (a := .disconnected) ⟨unpooled, times⟩

namespace PoolConfig

/-- Every connection that was ever handed over has exactly one fate. -/
theorem NumberedReachable.fate (h : p.NumberedReachable n) (hc : c ∈ n.run.opened) :
    ∃! fate : Fate, fate.Holds p n c := by
  have counted := h.counted
  have cached : Cached n := h.reachable.cached
  obtain ⟨world, steps⟩ := h
  rcases steps.balanced_or_closed with ⟨-, balanced⟩ |
    ⟨before, after, cancelAt, order, reached, balanced, closing, since, settled⟩
  · exact balanced.fate counted cached hc
  · exact Closing.fate ⟨world, reached⟩ balanced closing since settled counted hc

/-- An open pool keeps the connections that it has. -/
theorem Steps.connection_kept (h : p.Steps s s') {key : ClusterKey} {c : C}
    (mem : (key, c) ∈ s.pool.connections) (isOpen : s'.pool.isClosed = false) :
    (key, c) ∈ s'.pool.connections := by
  refine h.preserves (Q := fun s' => s'.pool.isClosed = false → (key, c) ∈ s'.pool.connections)
    ?_ ?_ ?_ (fun _ => mem) isOpen
  · intro cancelAt key' pool pool' r r' o kept call finished isOpen
    obtain ⟨asked, made, lost, given, target, served⟩ := call.served finished
    rw [served.connections]
    exact List.mem_append_left _ (kept (served.isClosed.symm.trans isOpen))
  · intro cancelAt order pool pool' r r' o _ _ closing _ isOpen
    rcases close_cases closing with ⟨isClosed, -, rfl, -⟩ | ⟨-, -, rfl⟩
    · exact absurd (isOpen.symm.trans isClosed) Bool.false_ne_true
    · cases isOpen
  · exact fun kept isOpen => kept isOpen

/-- After every history: every connection that the driver ever handed over has exactly one fate. An
attempt gives up what it opened, unless that is its result, and each connection once; and a
connection that a call returns is not given up before the pool is closed. -/
theorem Reachable.ledger (h : p.Reachable s) :
    ∃ n, p.NumberedReachable n ∧ n.forget = s ∧
      (∀ c ∈ n.run.opened, ∃! fate : Fate, fate.Holds p n c) ∧
      (∀ cancelAt key target dialer options attempt r o r',
        p.numbered.tryConnect cancelAt key target dialer options attempt r = (o, r') →
        o ≠ .stuck → ∃ lost, lost.length ≤ 1 ∧ r'.opened = r.opened ++ (lost ++ o.toList) ∧
          r'.failed = r.failed ++ lost ∧ r'.disconnects = r.disconnects ++ lost) ∧
      ∀ cancelAt key credential c pool' r',
        p.numbered.connect cancelAt key n.pool n.run = (.ok (credential, c), pool', r') →
        ∀ n', p.numbered.Steps ⟨pool', r'⟩ n' → n'.pool.isClosed = false →
          n'.timesDisconnected c = 0 := by
  obtain ⟨n, hn, rfl⟩ := h.numbered
  refine ⟨n, hn, rfl, fun c hc => hn.fate hc, ?_, ?_⟩
  · intro cancelAt key target dialer options attempt r o r' attempted finished
    obtain ⟨lost, once, grown⟩ := (p.numbered.tryConnect_attempted attempted).grown finished
    refine ⟨lost, once, ?_, grown.failed, grown.disconnects⟩
    simp [Run.opened, grown.openings, Function.comp_def]
  · intro cancelAt key credential c pool' r' call n' steps isOpen
    have step : p.numbered.Step n ⟨pool', r'⟩ := .connect call (by simp)
    have hn' : p.NumberedReachable n' := hn.steps (step.steps.trans steps)
    have kept := steps.connection_kept (p.numbered.connect_connected call).pooled isOpen
    obtain ⟨_, _, -, opened, -⟩ := hn'.reachable.cached.tested key c kept
    obtain ⟨fate, holds, -⟩ := hn'.fate (List.mem_map_of_mem opened)
    cases fate with
    | pooled => exact holds.2
    | disconnected => exact absurd kept (holds.1 key)
    | dropped => exact absurd kept (holds.1 key)

/-- The first connection fails its test and is given up; the second one is kept. -/
theorem ledger_second_attempt :
    ∃ s, shakyRehearsal.pool.Reachable s ∧ s.run.opened = [1, 2] ∧ s.run.disconnects = [1] ∧
      ∃ n, n.forget = s ∧
        ∀ c ∈ n.run.opened, ∃! fate : Fate, fate.Holds shakyRehearsal.pool n c := by
  have step : shakyRehearsal.pool.Step (.start {})
      (shakyRehearsal.pool.afterConnect none ⟨"shop", "orders"⟩ (.start {})) :=
    .afterConnect nofun
  have reachable : shakyRehearsal.pool.Reachable _ := ⟨{}, step.steps⟩
  obtain ⟨n, -, forget, fate, -⟩ := reachable.ledger
  exact ⟨_, reachable, rfl, rfl, n, forget, fate⟩

end PoolConfig
end ClusterAccess
