import Mathlib.Logic.Relation
import Mathlib.Order.RelClasses

/-!
# A fair lock

Callers come one after the other to a lock around a shared state. One of them holds it, the others
wait in line, and the first in line has it next. What the holder does falls into pieces, and others
may come between any two of them.

In whatever order things happen, the callers are served as if each one had come when the one before
it was done. What there is to do never grows, so that nobody waits for ever.

## Main definitions

* `Work`: what a caller does while it holds the lock.
* `Gathering`, `Gathering.Move`: callers at a lock, and what can happen next.
* `Work.inOrder`: the callers are served one after the other.

## Main statements

* `Gathering.Move.outcome`: no move changes what comes of it all.
* `Gathering.Move.remaining`: every move is one of the moves that are left.
* `Gathering.moves_end`, `Gathering.moves_outcome`: moves come to an end, and what the end is.
-/
namespace ClusterAccess

variable {A S β : Type}

/-- What is left to do with a shared state, in pieces. -/
inductive Work (S β : Type) where
  | done (result : β)
  /-- Changes the state at once; what comes then depends on what the state was. -/
  | piece (act : S → S) (next : S → Work S β)

namespace Work

/-- Does everything that is left. -/
def run : Work S β → S → β × S
  | done b, s => (b, s)
  | piece act next, s => (next s).run (act s)

/-- How many pieces are left. -/
def pieces : Work S β → S → Nat
  | done _, _ => 0
  | piece act next, s => (next s).pieces (act s) + 1

/-- Serves the callers one after the other. -/
def inOrder (work : A → Work S β) : List A → S → List (A × β) × S
  | [], s => ([], s)
  | a :: rest, s =>
    let (b, s) := (work a).run s
    let (results, s) := inOrder work rest s
    ((a, b) :: results, s)

/-- How many pieces there are until all callers are served, where leaving counts as one. -/
def cost (work : A → Work S β) : List A → S → Nat
  | [], _ => 0
  | a :: rest, s => (work a).pieces s + 1 + cost work rest ((work a).run s).2

end Work

/-- Callers at a lock. -/
structure Gathering (A S β : Type) where
  /-- The callers still to come, in their order. -/
  coming : List A
  /-- The callers that wait in line. -/
  queue : List A
  /-- The caller that has the lock, and what is left for it to do. -/
  holder : Option (A × Work S β)
  /-- The callers that have left, each with its result. -/
  left : List (A × β)
  shared : S

namespace Gathering

/-- Nobody has come yet. -/
def start (callers : List A) (s : S) : Gathering A S β := ⟨callers, [], none, [], s⟩

/-- Everybody has left. -/
def allLeft (results : List (A × β)) (s : S) : Gathering A S β := ⟨[], [], none, results, s⟩

variable (work : A → Work S β) (ends : β → Prop)

/-- What can happen at a lock. A caller whose result does not end keeps the lock for ever. -/
inductive Move : Gathering A S β → Gathering A S β → Prop
  /-- A caller comes to the free lock. -/
  | enter {a : A} {coming : List A} {left : List (A × β)} {s : S} :
      Move ⟨a :: coming, [], none, left, s⟩ ⟨coming, [], some (a, work a), left, s⟩
  /-- A caller comes while the lock is taken. -/
  | wait {a : A} {coming queue : List A} {holder : A × Work S β} {left : List (A × β)} {s : S} :
      Move ⟨a :: coming, queue, some holder, left, s⟩
        ⟨coming, queue ++ [a], some holder, left, s⟩
  /-- The holder does its next piece. -/
  | act {a : A} {coming queue : List A} {f : S → S} {next : S → Work S β} {left : List (A × β)}
      {s : S} :
      Move ⟨coming, queue, some (a, .piece f next), left, s⟩
        ⟨coming, queue, some (a, next s), left, f s⟩
  /-- The holder leaves, and nobody waits. -/
  | leave {a : A} {coming : List A} {b : β} {left : List (A × β)} {s : S} (finished : ends b) :
      Move ⟨coming, [], some (a, .done b), left, s⟩ ⟨coming, [], none, left ++ [(a, b)], s⟩
  /-- The holder leaves, and the first in line has the lock. -/
  | pass {a first : A} {coming queue : List A} {b : β} {left : List (A × β)} {s : S}
      (finished : ends b) :
      Move ⟨coming, first :: queue, some (a, .done b), left, s⟩
        ⟨coming, queue, some (first, work first), left ++ [(a, b)], s⟩

variable {work ends} {g g' : Gathering A S β}

/-- What comes of it when everybody is served in order. -/
def outcome (work : A → Work S β) (g : Gathering A S β) : List (A × β) × S :=
  let (served, s) := match g.holder with
    | none => (g.left, g.shared)
    | some (a, w) => (g.left ++ [(a, (w.run g.shared).1)], (w.run g.shared).2)
  let (results, s) := Work.inOrder work (g.queue ++ g.coming) s
  (served ++ results, s)

/-- How many moves are left. -/
def remaining (work : A → Work S β) (g : Gathering A S β) : Nat :=
  g.coming.length + match g.holder with
    | none => Work.cost work (g.queue ++ g.coming) g.shared
    | some (_, w) =>
      w.pieces g.shared + 1 + Work.cost work (g.queue ++ g.coming) (w.run g.shared).2

/-- No move changes what comes of it all. -/
theorem Move.outcome (h : Move work ends g g') : g'.outcome work = g.outcome work := by
  cases h <;> simp [Gathering.outcome, Work.inOrder, Work.run]

/-- Every move is one of the moves that are left. -/
theorem Move.remaining (h : Move work ends g g') : g'.remaining work + 1 = g.remaining work := by
  cases h <;> simp [Gathering.remaining, Work.cost, Work.run, Work.pieces] <;> omega

/-- Nobody waits at a free lock. -/
theorem Move.queue_of_free (h : Move work ends g g') (free : g'.holder = none) :
    g'.queue = [] := by
  cases h <;> simp at free ⊢

/-- Unless everybody has left, there is a next move. -/
theorem exists_move_or_allLeft (queue : g.holder = none → g.queue = [])
    (finish : ∀ result ∈ (g.outcome work).1, ends result.2) :
    (∃ g', Move work ends g g') ∨ g = .allLeft (g.outcome work).1 (g.outcome work).2 := by
  obtain ⟨coming, queue', holder, left, s⟩ := g
  rcases holder with _ | ⟨a, w⟩
  · obtain rfl : queue' = [] := queue rfl
    rcases coming with _ | ⟨a, coming⟩
    · exact .inr (by simp [allLeft, outcome, Work.inOrder])
    · exact .inl ⟨_, .enter⟩
  rcases w with b | ⟨f, next⟩
  · have finished : ends b := finish (a, b) (by simp [outcome, Work.run])
    rcases queue' with _ | ⟨first, queue'⟩
    · exact .inl ⟨_, .leave finished⟩
    · exact .inl ⟨_, .pass finished⟩
  · exact .inl ⟨_, .act⟩

variable (work ends)

/-- There is no endless sequence of moves. -/
theorem moves_end : WellFounded fun g' g : Gathering A S β => Move work ends g g' := by
  refine Subrelation.wf ?_ (measure (remaining work)).wf
  intro g' g h
  have := h.remaining
  show g'.remaining work < g.remaining work
  omega

variable {work ends}

/-- Whatever has happened to the callers so far, it goes on until all of them have left with the
results that they get one after the other. -/
theorem moves_outcome {callers : List A} {s : S}
    (finish : ∀ result ∈ (Work.inOrder work callers s).1, ends result.2)
    (h : Relation.ReflTransGen (Move work ends) (start callers s) g) :
    (∃ g', Move work ends g g') ∨
      g = .allLeft (Work.inOrder work callers s).1 (Work.inOrder work callers s).2 := by
  have invariant : g.outcome work = Work.inOrder work callers s ∧
      (g.holder = none → g.queue = []) := by
    induction h with
    | refl => simp [outcome, start]
    | tail _ move ih => exact ⟨move.outcome.trans ih.1, move.queue_of_free⟩
  have key := exists_move_or_allLeft invariant.2 (by rwa [invariant.1])
  rwa [invariant.1] at key

end Gathering
end ClusterAccess
