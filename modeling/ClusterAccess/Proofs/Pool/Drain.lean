import ClusterAccess.Proofs.Pool.Growth

/-!
# Draining the pool

Closing gives connections up in some order, one after the other. Those whose turn comes before the
cancellation are disconnected, and the rest is dropped.

## Main definitions

* `PoolConfig.turn`, `PoolConfig.runAtTurn`: when the turn of a connection comes, and the run then.
* `Drained`: the ways in which a drain can go.

## Main statements

* `PoolConfig.disconnectAll_drained`: every drain goes one of these ways.
* `Drained.split`: the connections that are disconnected come first, and time divides them from
  those that are dropped.
-/
namespace ClusterAccess

open Time

variable {σ C : Type} {p : PoolConfig σ C} {cancelAt : Option Nat} {r r' : Run σ C}

/-- The time at which the turn comes of the connection behind `before`. -/
def PoolConfig.turn (p : PoolConfig σ C) (cancelAt : Option Nat) (before : List (ClusterKey × C))
    (r : Run σ C) : Nat :=
  (p.disconnectAll cancelAt none before r).2.now

/-- What is wrong, if anything. -/
def failure? : Except AccessError Unit → Option AccessError
  | .ok () => none
  | .error e => some e

/-- A drain after a first failure `first`, if there was one. -/
inductive Drained (p : PoolConfig σ C) (cancelAt : Option Nat) :
    Option AccessError → List (ClusterKey × C) → Run σ C → Outcome Unit → Run σ C → Prop
  | done (first : Option AccessError) (r : Run σ C) :
      Drained p cancelAt first [] r (first.elim (.ok ()) .failed) r
  | next {first : Option AccessError} {key : ClusterKey} {c : C} {rest : List (ClusterKey × C)}
      {r r₁ r' : Run σ C} {x : Except AccessError Unit} {o : Outcome Unit}
      (disconnect : Task.await cancelAt (p.services.askDisconnect c) r = (.ofExcept x, r₁))
      (later : Drained p cancelAt (first.or (failure? x)) rest (r₁.note (.disconnected c x)) o r') :
      Drained p cancelAt first ((key, c) :: rest) r o r'
  | silent {first : Option AccessError} {key : ClusterKey} {c : C} {rest : List (ClusterKey × C)}
      {r r₁ : Run σ C}
      (disconnect : Task.await cancelAt (p.services.askDisconnect c) r = (.stuck, r₁)) :
      Drained p cancelAt first ((key, c) :: rest) r .stuck r₁

theorem PoolConfig.disconnectAll_drained {first : Option AccessError}
    {conns : List (ClusterKey × C)} {o : Outcome Unit}
    (h : p.disconnectAll cancelAt first conns r = (o, r')) :
    Drained p cancelAt first conns r o r' := by
  induction conns generalizing first r with
  | nil =>
    cases first <;> simp only [disconnectAll, Prod.mk.injEq] at h <;> obtain ⟨rfl, rfl⟩ := h
    · exact .done none r
    · exact .done (some _) r
  | cons kc rest ih =>
    obtain ⟨key, c⟩ := kc
    unfold disconnectAll at h
    rcases hd : Task.await cancelAt (p.services.askDisconnect c) r with ⟨_ | e | _ | _, r₁⟩ <;>
      simp only [hd] at h
    · exact .next (x := .ok ()) hd (by simpa [failure?] using ih h)
    · exact .next (x := .error e) hd (ih h)
    · exact absurd hd Task.await_ask_ne_aborted
    · obtain ⟨rfl, rfl⟩ := Prod.mk.inj h
      exact .silent hd

/-- The failures so far do not change how the drain goes on. -/
theorem PoolConfig.disconnectAll_run (first : Option AccessError) (conns : List (ClusterKey × C)) :
    (p.disconnectAll cancelAt first conns r).2 = (p.disconnectAll cancelAt none conns r).2 := by
  induction conns generalizing first r with
  | nil => cases first <;> rfl
  | cons kc rest ih =>
    unfold disconnectAll
    rcases Task.await cancelAt (p.services.askDisconnect kc.2) r with ⟨_ | e | _ | _, r₁⟩
    · exact ih first
    · exact (ih _).trans (ih (some e)).symm
    all_goals rfl

/-- The run when the turn comes of the connection behind `before`. -/
def PoolConfig.runAtTurn (p : PoolConfig σ C) (cancelAt : Option Nat)
    (before : List (ClusterKey × C)) (r : Run σ C) : Run σ C :=
  (p.disconnectAll cancelAt none before r).2

theorem PoolConfig.runAtTurn_cons {key : ClusterKey} {c : C} {before : List (ClusterKey × C)}
    {x : Except AccessError Unit} {r₁ : Run σ C}
    (disconnect : Task.await cancelAt (p.services.askDisconnect c) r = (.ofExcept x, r₁)) :
    p.runAtTurn cancelAt ((key, c) :: before) r =
      p.runAtTurn cancelAt before (r₁.note (.disconnected c x)) := by
  unfold runAtTurn
  rcases x with e | ⟨⟩
  · simp only [disconnectAll, disconnect, Outcome.ofExcept]
    rw [disconnectAll_run]
  · simp only [disconnectAll, disconnect, Outcome.ofExcept]

theorem PoolConfig.turn_cons {key : ClusterKey} {c : C} {before : List (ClusterKey × C)}
    {x : Except AccessError Unit} {r₁ : Run σ C}
    (disconnect : Task.await cancelAt (p.services.askDisconnect c) r = (.ofExcept x, r₁)) :
    p.turn cancelAt ((key, c) :: before) r =
      p.turn cancelAt before (r₁.note (.disconnected c x)) :=
  congrArg Run.now (runAtTurn_cons disconnect)

/-- A disconnect in a drain is either called in time or not at all. -/
theorem Task.await_disconnect_cases {s : Services σ C} {c : C} {o : Outcome Unit}
    (h : Task.await cancelAt (s.askDisconnect c) r = (o, r')) (ho : o ≠ .stuck) :
    (∃ t, cancelAt = some t ∧ t ≤ r.now ∧ o = .failed .cancelled ∧ r' = r) ∨
      (∀ t, cancelAt = some t → r.now < t) ∧
        ∃ w t, r.now ≤ t ∧ r' = (r.begun (.disconnect c) w).atTime t := by
  cases Task.await_ask h with
  | late cancel before => exact .inl ⟨_, cancel, before, rfl, rfl⟩
  | cut cancel after =>
    refine .inr ⟨?_, _, _, Nat.le_of_lt after, rfl⟩
    rintro t' rfl
    cases cancel
    exact after
  | @answered d _ answer _ inTime =>
    exact .inr ⟨fun t ht => by have := inTime t ht; omega, _, _, by omega, rfl⟩
  | silent => exact absurd rfl ho

/-- What a drain leaves alone. -/
structure Emptied (gone : List C) (r r' : Run σ C) : Prop where
  creations : r'.creations = r.creations
  openings : r'.openings = r.openings
  passed : r'.passed = r.passed
  failed : r'.failed = r.failed
  disconnects : r'.disconnects = r.disconnects ++ gone

/-- After the cancellation nothing is disconnected any more, and no time passes. -/
theorem Drained.late {first : Option AccessError} {conns : List (ClusterKey × C)} {o : Outcome Unit}
    {t : Nat} (h : Drained p (some t) first conns r o r') (ht : t ≤ r.now) :
    Emptied [] r r' ∧ r'.now = r.now := by
  induction h with
  | done first r => exact ⟨⟨rfl, rfl, rfl, rfl, by simp⟩, rfl⟩
  | next disconnect later ih =>
    rcases Task.await_disconnect_cases disconnect Outcome.ofExcept_ne_stuck with
      ⟨-, -, -, -, rfl⟩ | ⟨early, -⟩
    · obtain ⟨h, now⟩ := ih ht
      exact ⟨⟨by simp [h.creations], by simp [h.openings, Event.opening?],
        by simp [h.passed, Event.passed?], by simp [h.failed, Event.failed?],
        by simp [h.disconnects]⟩, by simp [now]⟩
    · have := early t rfl
      omega
  | silent disconnect => exact absurd (Task.await_ask_stuck disconnect).1 (by simp)

theorem Emptied.cons {c : C} {gone : List C} {w : σ} {t : Nat} {x : Except AccessError Unit}
    (h : Emptied gone (((r.begun (.disconnect c) w).atTime t).note (.disconnected c x)) r') :
    Emptied (c :: gone) r r' :=
  ⟨by simp [h.creations, Call.creation?], by simp [h.openings, Event.opening?],
    by simp [h.passed, Event.passed?], by simp [h.failed, Event.failed?],
    by simp [h.disconnects, Call.disconnect?]⟩

theorem Drained.now_le {first : Option AccessError} {conns : List (ClusterKey × C)}
    {o : Outcome Unit} (h : Drained p cancelAt first conns r o r') : r.now ≤ r'.now := by
  induction h with
  | done => exact Nat.le_refl _
  | next disconnect _ ih =>
    rcases Task.await_disconnect_cases disconnect Outcome.ofExcept_ne_stuck with
      ⟨-, -, -, -, rfl⟩ | ⟨-, w, t, ht, rfl⟩
    · exact ih
    · exact Nat.le_trans ht ih
  | silent disconnect =>
    cases Task.await_ask disconnect with
    | answered answer =>
      obtain ⟨x, -, hx⟩ := Reply.map_eq_after.mp answer
      exact absurd hx Outcome.ofExcept_ne_stuck
    | silent => exact Nat.le_refl _

theorem PoolConfig.now_le_turn (before : List (ClusterKey × C)) :
    r.now ≤ p.turn cancelAt before r := by
  have drained : Drained p cancelAt none before r (p.disconnectAll cancelAt none before r).1
      (p.disconnectAll cancelAt none before r).2 := disconnectAll_drained rfl
  exact drained.now_le

/-- A drain gives up the connections whose turn comes before the cancellation, and only those. -/
theorem Drained.split {first : Option AccessError} {conns : List (ClusterKey × C)}
    {o : Outcome Unit} (h : Drained p cancelAt first conns r o r') (ho : o ≠ .stuck) :
    ∃ gone skipped, conns = gone ++ skipped ∧ Emptied (gone.map Prod.snd) r r' ∧
      (∀ before kc after, gone = before ++ kc :: after →
        ∀ t, cancelAt = some t → p.turn cancelAt before r < t) ∧
      (∀ before kc after, skipped = before ++ kc :: after →
        ∃ t, cancelAt = some t ∧ t ≤ p.turn cancelAt (gone ++ before) r) := by
  induction h with
  | done first r => exact ⟨[], [], rfl, ⟨rfl, rfl, rfl, rfl, by simp⟩, by simp, by simp⟩
  | @next first key c rest r r₁ r' x o disconnect later ih =>
    rcases Task.await_disconnect_cases disconnect Outcome.ofExcept_ne_stuck with
      ⟨t, rfl, ht, -, -⟩ | ⟨early, w, t, -, rfl⟩
    · -- The cancellation has come, so that this connection and all others are dropped.
      have all : Drained p (some t) first ((key, c) :: rest) r o r' := .next disconnect later
      refine ⟨[], (key, c) :: rest, rfl, by simpa using (all.late ht).1, by simp, ?_⟩
      intro before kc after _
      exact ⟨t, rfl, Nat.le_trans ht (PoolConfig.now_le_turn _)⟩
    · obtain ⟨gone, skipped, rfl, emptied, inTime, tooLate⟩ := ih ho
      refine ⟨(key, c) :: gone, skipped, rfl, emptied.cons, ?_, ?_⟩
      · rintro (_ | ⟨kc₀, before⟩) kc after hb t' ht'
        · exact early t' ht'
        · simp only [List.cons_append, List.cons.injEq] at hb
          obtain ⟨rfl, hb⟩ := hb
          rw [PoolConfig.turn_cons disconnect]
          exact inTime before kc after hb t' ht'
      · intro before kc after hs
        rw [List.cons_append, PoolConfig.turn_cons disconnect]
        exact tooLate before kc after hs
  | silent => exact absurd rfl ho

end ClusterAccess
