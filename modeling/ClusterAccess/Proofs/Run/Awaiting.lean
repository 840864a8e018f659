import ClusterAccess.Pool.Close
import Mathlib.Tactic.Simps.Basic

/-!
# Waiting for replies

Every wait for a reply ends in one of four ways. Proofs about the pool take these ways apart instead
of opening `Task.await`.

## Main definitions

* `Run.begun`, `Run.atTime`: a run after a call has begun, and at another time.
* `Outcome.PassedOn`: a failure that becomes the failure of what it is part of.
* `Awaited`: the ways in which a wait can end.

## Main statements

* `Task.await_awaited`: a wait ends in one of these ways.
-/
namespace ClusterAccess

open Time

variable {σ C α β : Type}

namespace Run

/-- The run when a call has just begun. -/
@[simps] def begun (r : Run σ C) (call : Call C) (world : σ) : Run σ C :=
  { r with world, calls := r.calls ++ [(r.now, call)] }

/-- The run at another time. -/
@[simps] def atTime (r : Run σ C) (time : Nat) : Run σ C := { r with now := time }

@[simp] theorem note_world (r : Run σ C) (e : Event C) : (r.note e).world = r.world := rfl

@[simp] theorem note_now (r : Run σ C) (e : Event C) : (r.note e).now = r.now := rfl

@[simp] theorem note_calls (r : Run σ C) (e : Event C) : (r.note e).calls = r.calls := rfl

@[simp] theorem note_events (r : Run σ C) (e : Event C) :
    (r.note e).events = r.events ++ [(r.now, e)] := rfl

end Run

namespace Outcome

@[simp] theorem ofExcept_eq_ok {x : Except AccessError α} {a : α} :
    ofExcept x = .ok a ↔ x = .ok a := by
  cases x <;> simp [ofExcept]

@[simp] theorem ofExcept_eq_failed {x : Except AccessError α} {e : AccessError} :
    ofExcept x = .failed e ↔ x = .error e := by
  cases x <;> simp [ofExcept]

@[simp] theorem ofExcept_ne_aborted {x : Except AccessError α} : ofExcept x ≠ .aborted := by
  cases x <;> simp [ofExcept]

@[simp] theorem ofExcept_ne_stuck {x : Except AccessError α} : ofExcept x ≠ .stuck := by
  cases x <;> simp [ofExcept]

theorem ofExcept_injective : Function.Injective (@ofExcept α) := by
  intro x y h
  cases x <;> cases y <;> simp_all [ofExcept]

/-- The second outcome is the first one, which is no result. -/
inductive PassedOn : Outcome α → Outcome β → Prop
  | failed (e : AccessError) : PassedOn (.failed e) (.failed e)
  | aborted : PassedOn .aborted .aborted
  | stuck : PassedOn .stuck .stuck

end Outcome

theorem Time.Reply.map_eq_after {f : α → β} {reply : Reply α} {d : Nat} {b : β} :
    reply.map f = .after d b ↔ ∃ a, reply = .after d a ∧ f a = b := by
  cases reply <;> simp [Reply.map, and_assoc, eq_comm]

@[simp] theorem Time.Reply.map_eq_never {f : α → β} {reply : Reply α} :
    reply.map f = .never ↔ reply = .never := by
  cases reply <;> simp [Reply.map]

/-- How a wait ends that was started in `r`, where starting it gave `reply` and led to `started`. -/
inductive Awaited (cancelAt : Option Nat) (r : Run σ C) (reply : Reply (Outcome α))
    (started : Run σ C) : Outcome α → Run σ C → Prop
  /-- The cancellation came first, so nothing was started. -/
  | late {t : Nat} (cancel : cancelAt = some t) (before : t ≤ r.now) :
      Awaited cancelAt r reply started (.failed .cancelled) r
  /-- The cancellation came before the reply. -/
  | cut {t : Nat} (cancel : cancelAt = some t) (after : r.now < t) :
      Awaited cancelAt r reply started (.failed .cancelled) (started.atTime t)
  | answered {d : Nat} {o : Outcome α} (answer : reply = .after d o) (settled : o ≠ .stuck)
      (inTime : ∀ t, cancelAt = some t → r.now + d < t) :
      Awaited cancelAt r reply started o (started.atTime (r.now + d))
  | silent (cancel : cancelAt = none) (answer : Task.settle reply = .never) :
      Awaited cancelAt r reply started .stuck started

theorem Services.ask_eq (call : Call C) (f : σ → Reply (Except AccessError α) × σ) (r : Run σ C) :
    Services.ask call f r =
      ((f r.world).1.map .ofExcept, r.begun call (f r.world).2) := rfl

namespace Task

theorem settle_after {d : Nat} {o : Outcome α} (h : o ≠ .stuck) :
    settle (.after d o) = .after d o := by
  cases o with
  | stuck => exact absurd rfl h
  | _ => rfl

theorem settle_ofExcept (reply : Reply (Except AccessError α)) :
    settle (reply.map .ofExcept) = reply.map .ofExcept := by
  cases reply with
  | never => rfl
  | after d x => exact settle_after Outcome.ofExcept_ne_stuck

theorem settle_cases (reply : Reply (Outcome α)) :
    settle reply = .never ∨ ∃ d o, reply = .after d o ∧ o ≠ .stuck ∧ settle reply = .after d o := by
  rcases reply with _ | ⟨d, o⟩
  · exact .inl rfl
  · by_cases h : o = .stuck
    · exact .inl (by rw [h]; rfl)
    · exact .inr ⟨d, o, rfl, h, settle_after h⟩

theorem await_awaited (cancelAt : Option Nat) (start : Run σ C → Reply (Outcome α) × Run σ C)
    (r : Run σ C) (now : (start r).2.now = r.now) :
    Awaited cancelAt r (start r).1 (start r).2 (await cancelAt start r).1
      (await cancelAt start r).2 := by
  unfold await
  rcases hs : start r with ⟨reply, started⟩
  simp only [hs] at now ⊢
  rcases settle_cases reply with silent | ⟨d, o, rfl, settled, replied⟩
  · cases hc : cancelAt with
    | none => simpa [silent] using Awaited.silent rfl silent
    | some t =>
      by_cases ht : t ≤ r.now
      · simpa [ht] using Awaited.late rfl ht
      · have h : Awaited (some t) r reply started (.failed .cancelled) (started.atTime t) :=
          .cut rfl (by omega)
        simpa [ht, silent, Run.atTime] using h
  · cases hc : cancelAt with
    | none =>
      have h : Awaited none r (.after d o) started o (started.atTime (r.now + d)) :=
        .answered rfl settled (by simp)
      simpa [replied, now, Run.atTime] using h
    | some t =>
      by_cases ht : t ≤ r.now
      · simpa [ht] using Awaited.late rfl ht
      · by_cases hd : t ≤ r.now + d
        · have h : Awaited (some t) r (.after d o) started (.failed .cancelled)
              (started.atTime t) := .cut rfl (by omega)
          simpa [ht, replied, now, hd, Run.atTime] using h
        · have h : Awaited (some t) r (.after d o) started o (started.atTime (r.now + d)) :=
            .answered rfl settled (by simp; omega)
          simpa [ht, replied, now, hd, Run.atTime] using h

/-- A wait for the reply to a single call. -/
theorem await_ask {cancelAt : Option Nat} {call : Call C}
    {f : σ → Reply (Except AccessError α) × σ} {r r' : Run σ C} {o : Outcome α}
    (h : await cancelAt (Services.ask call f) r = (o, r')) :
    Awaited cancelAt r ((f r.world).1.map .ofExcept) (r.begun call (f r.world).2) o r' := by
  have key := await_awaited cancelAt (Services.ask call f) r rfl
  rw [h] at key
  exact key

/-- A reply that comes before the cancellation is the result. -/
theorem await_of_inTime {cancelAt : Option Nat} {start : Run σ C → Reply (Outcome α) × Run σ C}
    {r started : Run σ C} {d : Nat} {o : Outcome α} (h : start r = (.after d o, started))
    (settled : o ≠ .stuck) (now : started.now = r.now)
    (inTime : ∀ t, cancelAt = some t → r.now + d < t) :
    await cancelAt start r = (o, started.atTime (r.now + d)) := by
  cases hc : cancelAt with
  | none => simp [await, h, settle_after settled, now, Run.atTime]
  | some t =>
    have late := inTime t hc
    have early : ¬ t ≤ r.now := by omega
    simp [await, h, settle_after settled, now, early, Nat.not_le.mpr late, Run.atTime]

/-- A reply that comes, and that nothing cancels, is the result. -/
theorem await_of_after {start : Run σ C → Reply (Outcome α) × Run σ C} {r started : Run σ C}
    {d : Nat} {o : Outcome α} (h : start r = (.after d o, started)) (settled : o ≠ .stuck)
    (now : started.now = r.now) : await none start r = (o, started.atTime (r.now + d)) :=
  await_of_inTime h settled now (by simp)

theorem await_ask_of_after {call : Call C} {f : σ → Reply (Except AccessError α) × σ}
    {r : Run σ C} {d : Nat} {x : Except AccessError α} {w : σ}
    (h : f r.world = (.after d x, w)) :
    await none (Services.ask call f) r = (.ofExcept x, (r.begun call w).atTime (r.now + d)) := by
  refine await_of_after ?_ Outcome.ofExcept_ne_stuck rfl
  rw [Services.ask_eq, h]
  rfl

end Task
end ClusterAccess
