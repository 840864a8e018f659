import ClusterAccess.Proofs.Pool.History

/-!
# Closing the pool

Closing empties the pool for good. It takes the connections in any order and disconnects those whose
turn comes before the cancellation; a failure does not stop it, and the first one is its result.

## Main definitions

* `TurnEnd`: what becomes of a connection when its turn comes.
* `PoolConfig.Faultless`, `PoolConfig.FirstFault`: nothing goes wrong in a drain, or something does
  for the first time.

## Main statements

* `Drained.result`: the result of a drain tells which.
* `PoolConfig.Steps.of_closed`: in a closed pool nothing but time moves.
* `PoolConfig.close_exact`: what closing does, what it tells, and what comes after it.
-/
namespace ClusterAccess

open Time

variable {σ C : Type} {p : PoolConfig σ C} {s s' : PoolState σ C} {cancelAt : Option Nat}
  {r r' : Run σ C}

/-- What becomes of a connection whose turn comes in `r`. -/
inductive TurnEnd (s : Services σ C) (cancelAt : Option Nat) (c : C) (r : Run σ C) :
    Except AccessError Unit → Prop
  | answered {d : Nat} {x : Except AccessError Unit}
      (reply : (s.disconnect c r.world).1 = .after d x)
      (inTime : ∀ t, cancelAt = some t → r.now + d < t) : TurnEnd s cancelAt c r x
  | cutOff {t : Nat} (fires : cancelAt = some t) (begun : r.now < t)
      (slow : ∀ d x, (s.disconnect c r.world).1 = .after d x → t ≤ r.now + d) :
      TurnEnd s cancelAt c r (.error .cancelled)
  | skipped {t : Nat} (fires : cancelAt = some t) (before : t ≤ r.now) :
      TurnEnd s cancelAt c r (.error .cancelled)

/-- There is only one end for each turn. -/
theorem TurnEnd.unique {s : Services σ C} {c : C} {x y : Except AccessError Unit}
    (hx : TurnEnd s cancelAt c r x) (hy : TurnEnd s cancelAt c r y) : x = y := by
  have early {d : Nat} {x : Except AccessError Unit}
      (reply : (s.disconnect c r.world).1 = .after d x)
      (inTime : ∀ t, cancelAt = some t → r.now + d < t) {y : Except AccessError Unit}
      (hy : TurnEnd s cancelAt c r y) : x = y := by
    cases hy with
    | answered reply' => exact (Reply.after.inj (reply.symm.trans reply')).2
    | cutOff fires _ slow => exact absurd (slow _ _ reply) (Nat.not_le.mpr (inTime _ fires))
    | skipped fires before =>
      have := inTime _ fires
      omega
  cases hx with
  | answered reply inTime => exact early reply inTime hy
  | cutOff fires begun slow =>
    cases hy with
    | answered reply inTime => exact (early reply inTime (.cutOff fires begun slow)).symm
    | _ => rfl
  | skipped fires before =>
    cases hy with
    | answered reply inTime => exact (early reply inTime (.skipped fires before)).symm
    | _ => rfl

theorem Task.await_disconnect_end {s : Services σ C} {c : C} {x : Except AccessError Unit}
    (h : Task.await cancelAt (s.askDisconnect c) r = (.ofExcept x, r')) :
    TurnEnd s cancelAt c r x := by
  generalize ho : Outcome.ofExcept x = o at h
  cases Task.await_ask h with
  | late cancel before =>
    obtain rfl := Outcome.ofExcept_eq_failed.mp ho
    exact .skipped cancel before
  | @cut t cancel after =>
    obtain rfl := Outcome.ofExcept_eq_failed.mp ho
    refine .cutOff cancel after fun d x reply => Nat.le_of_not_lt fun fast => ?_
    -- A reply before the cancellation would have ended the wait at another time.
    have inTime : ∀ t', cancelAt = some t' → r.now + d < t' := by
      rintro t' rfl
      cases cancel
      omega
    have asked : s.askDisconnect c r = (.after d (.ofExcept x),
        r.begun (.disconnect c) (s.disconnect c r.world).2) := by
      rw [Services.askDisconnect, Services.ask_eq, reply]
      rfl
    have answered := Task.await_of_inTime asked Outcome.ofExcept_ne_stuck rfl inTime
    have now : t = r.now + d := congrArg Run.now (Prod.mk.inj (h.symm.trans answered)).2
    omega
  | answered answer _ inTime =>
    obtain ⟨y, reply, hy⟩ := Reply.map_eq_after.mp answer
    obtain rfl := Outcome.ofExcept_injective (ho.trans hy.symm)
    exact .answered reply inTime
  | silent => cases x <;> cases ho

namespace PoolConfig

/-- Every connection is disconnected without a failure. -/
def Faultless (p : PoolConfig σ C) (cancelAt : Option Nat) (order : List (ClusterKey × C))
    (r : Run σ C) : Prop :=
  ∀ before kc after, order = before ++ kc :: after →
    TurnEnd p.services cancelAt kc.2 (p.runAtTurn cancelAt before r) (.ok ())

/-- What goes wrong first when connections are disconnected in the given order. -/
def FirstFault (p : PoolConfig σ C) (cancelAt : Option Nat) (order : List (ClusterKey × C))
    (r : Run σ C) (e : AccessError) : Prop :=
  ∃ before kc after, order = before ++ kc :: after ∧ p.Faultless cancelAt before r ∧
    TurnEnd p.services cancelAt kc.2 (p.runAtTurn cancelAt before r) (.error e)

variable {key : ClusterKey} {c : C} {rest : List (ClusterKey × C)} {x : Except AccessError Unit}
  {r₁ : Run σ C}

theorem faultless_nil : p.Faultless cancelAt [] r := by
  rintro before kc after h
  simp at h

theorem not_firstFault_nil {e : AccessError} : ¬ p.FirstFault cancelAt [] r e := by
  rintro ⟨before, kc, after, h, -⟩
  simp at h

theorem faultless_cons
    (disconnect : Task.await cancelAt (p.services.askDisconnect c) r = (.ofExcept x, r₁)) :
    p.Faultless cancelAt ((key, c) :: rest) r ↔
      x = .ok () ∧ p.Faultless cancelAt rest (r₁.note (.disconnected c x)) := by
  constructor
  · intro h
    refine ⟨(Task.await_disconnect_end disconnect).unique (h [] (key, c) rest rfl), ?_⟩
    rintro before kc after rfl
    rw [← runAtTurn_cons disconnect]
    exact h ((key, c) :: before) kc after rfl
  · rintro ⟨rfl, h⟩ (_ | ⟨kc₀, before⟩) kc after hb
    · obtain ⟨rfl, -⟩ := List.cons.inj hb
      exact Task.await_disconnect_end disconnect
    · obtain ⟨rfl, tail⟩ := List.cons.inj hb
      rw [runAtTurn_cons disconnect]
      exact h before kc after tail

theorem firstFault_cons {e : AccessError}
    (disconnect : Task.await cancelAt (p.services.askDisconnect c) r = (.ofExcept x, r₁)) :
    p.FirstFault cancelAt ((key, c) :: rest) r e ↔
      x = .error e ∨ x = .ok () ∧ p.FirstFault cancelAt rest (r₁.note (.disconnected c x)) e := by
  constructor
  · rintro ⟨_ | ⟨kc₀, before⟩, kc, after, hb, faultless, fault⟩
    · obtain ⟨rfl, -⟩ := List.cons.inj hb
      exact .inl ((Task.await_disconnect_end disconnect).unique fault)
    · obtain ⟨rfl, tail⟩ := List.cons.inj hb
      obtain ⟨ok, faultless⟩ := (faultless_cons disconnect).mp faultless
      rw [runAtTurn_cons disconnect] at fault
      exact .inr ⟨ok, before, kc, after, tail, faultless, fault⟩
  · rintro (rfl | ⟨ok, before, kc, after, rfl, faultless, fault⟩)
    · exact ⟨[], (key, c), rest, rfl, faultless_nil, Task.await_disconnect_end disconnect⟩
    · refine ⟨(key, c) :: before, kc, after, rfl, ?_, ?_⟩
      · exact (faultless_cons disconnect).mpr ⟨ok, faultless⟩
      · rwa [runAtTurn_cons disconnect]

end PoolConfig

namespace Drained

variable {first : Option AccessError} {conns : List (ClusterKey × C)} {o : Outcome Unit}

/-- A drain that does not end waits for a connection for which there is no answer. -/
theorem stuck (h : Drained p cancelAt first conns r o r') (ho : o = .stuck) :
    cancelAt = none ∧ ∃ kc ∈ conns, ∃ w, (p.services.disconnect kc.2 w).1 = .never := by
  induction h with
  | done first => cases first <;> cases ho
  | next _ _ ih =>
    obtain ⟨token, kc, mem, silent⟩ := ih ho
    exact ⟨token, kc, List.mem_cons_of_mem _ mem, silent⟩
  | silent disconnect =>
    obtain ⟨token, silent⟩ := Task.await_ask_stuck disconnect
    exact ⟨token, _, List.mem_cons_self, _, silent⟩

/-- The first failure is told at the end. -/
theorem failed_of_first (h : Drained p cancelAt first conns r o r') (ho : o ≠ .stuck)
    {e : AccessError} (hf : first = some e) : o = .failed e := by
  induction h with
  | done => rw [hf]; rfl
  | next _ _ ih => exact ih ho (by rw [hf]; rfl)
  | silent => exact absurd rfl ho

/-- A drain without a failure so far succeeds if nothing goes wrong, and otherwise it tells what
goes wrong first. -/
theorem result (h : Drained p cancelAt first conns r o r') (ho : o ≠ .stuck) (hf : first = none) :
    (o = .ok () ↔ p.Faultless cancelAt conns r) ∧
      (∀ e, o = .failed e ↔ p.FirstFault cancelAt conns r e) ∧ o ≠ .aborted := by
  induction h with
  | done =>
    subst hf
    simp [PoolConfig.faultless_nil, PoolConfig.not_firstFault_nil]
  | @next first key c rest r r₁ r' x o disconnect later ih =>
    subst hf
    simp only [PoolConfig.faultless_cons disconnect, PoolConfig.firstFault_cons disconnect]
    rcases x with e | ⟨⟩
    · simp [later.failed_of_first ho rfl]
    · simpa using ih ho rfl
  | silent => exact absurd rfl ho

end Drained

/-- The pool gives every call the same answer, does nothing when it is closed again, and has no
connection. -/
structure Refusing (p : PoolConfig σ C) (s : PoolState σ C) : Prop where
  connect : ∀ cancelAt key,
    p.connect cancelAt key s.pool s.run = (.failed .closed, s.pool, s.run)
  together : ∀ calls,
    p.connectEach calls s.pool s.run = (calls.map fun _ => .failed .closed, s.pool, s.run)
  close : ∀ cancelAt order, order.Perm s.pool.connections →
    p.close cancelAt { s.pool with connections := order } s.run = (.ok (), s.pool, s.run)
  size : s.pool.size = 0

namespace PoolConfig

theorem refusing_of_closed (isClosed : s.pool.isClosed = true) (empty : s.pool.connections = []) :
    Refusing p s where
  connect cancelAt key := by simp [connect, isClosed]
  together calls := by
    induction calls with
    | nil => rfl
    | cons call rest ih => simp [connectEach, connect, isClosed, ih]
  close cancelAt order perm := by
    have same : order = s.pool.connections := by rw [empty] at perm ⊢; exact perm.eq_nil
    rw [same, PoolConfig.close, if_pos isClosed]
  size := by simp [Pool.size, empty]

/-- In a closed pool nothing but time moves. -/
theorem Steps.of_closed (h : p.Steps s s') (isClosed : s.pool.isClosed = true)
    (empty : s.pool.connections = []) :
    ∃ t, s.run.now ≤ t ∧ s' = ⟨s.pool, s.run.atTime t⟩ := by
  refine h.preserves (Q := fun s' => ∃ t, s.run.now ≤ t ∧ s' = ⟨s.pool, s.run.atTime t⟩)
    ?_ ?_ ?_ ⟨_, Nat.le_refl _, rfl⟩
  · rintro cancelAt key pool pool' r r' o ⟨t, ht, hs⟩ call _
    obtain ⟨rfl, rfl⟩ := PoolState.mk.inj hs
    obtain ⟨-, rfl, rfl⟩ := call.of_closed isClosed
    exact ⟨t, ht, rfl⟩
  · rintro cancelAt order pool pool' r r' o ⟨t, ht, hs⟩ perm closing _
    obtain ⟨rfl, rfl⟩ := PoolState.mk.inj hs
    have again := (refusing_of_closed (p := p) (s := ⟨s.pool, s.run.atTime t⟩) isClosed empty).close
      cancelAt order perm
    obtain ⟨-, rfl, rfl⟩ := closing.symm.trans again
    exact ⟨t, ht, rfl⟩
  · rintro pool r d ⟨t, ht, hs⟩
    obtain ⟨rfl, rfl⟩ := PoolState.mk.inj hs
    exact ⟨t + d, Nat.le_add_right_of_le ht, rfl⟩

/-- Closing an open pool, whatever the order of its connections, empties it and keeps the
credentials. It ends unless nothing cancels it and a connection does not answer. It disconnects once
each the connections whose turn comes before the cancellation, which are all if there is none. It
succeeds if each one is disconnected without a failure, and otherwise tells the first failure. From
then on only time moves, and the pool refuses everything. -/
theorem close_exact {order : List (ClusterKey × C)} {o : Outcome Unit} {pool' : Pool C}
    (isOpen : s.pool.isClosed = false) (perm : order.Perm s.pool.connections)
    (h : p.close cancelAt { s.pool with connections := order } s.run = (o, pool', r')) :
    pool' = { s.pool with connections := [], isClosed := true } ∧
      (o = .stuck → cancelAt = none ∧
        ∃ kc ∈ s.pool.connections, ∃ w, (p.services.disconnect kc.2 w).1 = .never) ∧
      (o ≠ .stuck →
        (∃ gone skipped, order = gone ++ skipped ∧ Emptied (gone.map Prod.snd) s.run r' ∧
          (cancelAt = none → gone = order) ∧
          (∀ before kc after, gone = before ++ kc :: after →
            ∀ t, cancelAt = some t → p.turn cancelAt before s.run < t) ∧
          ∀ before kc after, skipped = before ++ kc :: after →
            ∀ t, cancelAt = some t → t ≤ p.turn cancelAt (gone ++ before) s.run) ∧
        (o = .ok () ↔ p.Faultless cancelAt order s.run) ∧
        (∀ e, o = .failed e ↔ p.FirstFault cancelAt order s.run e) ∧ o ≠ .aborted) ∧
      ∀ s', p.Steps ⟨pool', r'⟩ s' →
        (∃ t, r'.now ≤ t ∧ s' = ⟨pool', r'.atTime t⟩) ∧ Refusing p s' := by
  rcases close_cases h with ⟨isClosed, -⟩ | ⟨-, drained, rfl⟩
  · exact absurd (isOpen.symm.trans isClosed) Bool.false_ne_true
  refine ⟨rfl, ?_, fun finished => ⟨?_, drained.result finished rfl⟩, ?_⟩
  · intro stuck
    obtain ⟨token, kc, mem, silent⟩ := drained.stuck stuck
    exact ⟨token, kc, perm.mem_iff.mp mem, silent⟩
  · obtain ⟨gone, skipped, rfl, emptied, inTime, tooLate⟩ := drained.split finished
    refine ⟨gone, skipped, rfl, emptied, ?_, inTime, ?_⟩
    · intro never
      cases skipped with
      | nil => simp
      | cons kc after =>
        obtain ⟨t, fires, -⟩ := tooLate [] kc after rfl
        cases never.symm.trans fires
    · intro before kc after split t fires
      obtain ⟨t', fires', late⟩ := tooLate before kc after split
      cases fires.symm.trans fires'
      exact late
  · intro s' steps
    obtain ⟨t, later, rfl⟩ := steps.of_closed rfl rfl
    exact ⟨⟨t, later, rfl⟩, refusing_of_closed rfl rfl⟩

end PoolConfig

/-- The second connection is not given up, and the first one slowly. -/
def reluctantRehearsal : Rehearsal :=
  { smoothRehearsal with
    disconnects := ⟨[("1", { delay := 7 }),
      ("2", { error := some (.driver "busy"), delay := 3 })]⟩ }

/-- Three calls have been answered. -/
def reluctantState : PoolState Stage Nat :=
  let (_, pool, r) := reluctantRehearsal.pool.connectEach
    [(none, ⟨"shop", "orders"⟩), (none, ⟨"shop", "stock"⟩), (none, ⟨"bank", "loans"⟩)]
    {} { world := {} }
  ⟨pool, r⟩

/-- The connection that is not given up comes first, the slow one is cut off, and the turn of the
third one does not come. -/
theorem close_exact_cut_off :
    ∃ order pool' r', reluctantRehearsal.pool.Reachable reluctantState ∧
      order.Perm reluctantState.pool.connections ∧ order.map Prod.snd = [2, 1, 3] ∧
      reluctantRehearsal.pool.close (some 5) { reluctantState.pool with connections := order }
        reluctantState.run = (.failed (.driver "busy"), pool', r') ∧
      r'.disconnects = [2, 1] ∧
      reluctantRehearsal.pool.FirstFault (some 5) order reluctantState.run (.driver "busy") ∧
      ∀ s', reluctantRehearsal.pool.Steps ⟨pool', r'⟩ s' → Refusing reluctantRehearsal.pool s' := by
  have group : reluctantRehearsal.pool.connectEach
      [(none, ⟨"shop", "orders"⟩), (none, ⟨"shop", "stock"⟩), (none, ⟨"bank", "loans"⟩)]
      {} { world := {} } =
      ([.ok (_, 1), .ok (_, 2), .ok (_, 3)], reluctantState.pool, reluctantState.run) := rfl
  have step : reluctantRehearsal.pool.Step (.start {}) reluctantState :=
    .together group (by simp)
  have perm : [(⟨"shop", "stock"⟩, 2), (⟨"shop", "orders"⟩, 1), (⟨"bank", "loans"⟩, 3)].Perm
      reluctantState.pool.connections := .swap _ _ _
  have closing : reluctantRehearsal.pool.close (some 5) { reluctantState.pool with connections :=
      [(⟨"shop", "stock"⟩, 2), (⟨"shop", "orders"⟩, 1), (⟨"bank", "loans"⟩, 3)] }
      reluctantState.run = (.failed (.driver "busy"), _, _) := rfl
  obtain ⟨-, -, finished, after⟩ := PoolConfig.close_exact rfl perm closing
  obtain ⟨-, -, failed, -⟩ := finished nofun
  exact ⟨_, _, _, ⟨{}, step.steps⟩, perm, rfl, closing, rfl, (failed _).mp rfl,
    fun s' steps => (after s' steps).2⟩

end ClusterAccess
