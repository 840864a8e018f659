import ClusterAccess.Proofs.Run.Awaiting
import Mathlib.Data.List.Forall2

/-!
# Runs that are alike

Two runs are compared call by call. What may differ is left to a likeness: the passwords of
accounts, the worlds, the connections, and the ways in which connections are made. Everything else
has to be the same, the times and the failures among it.

## Main definitions

* `Likeness`: what counts as alike on two sides.
* `Likeness.Exact`: alike means equal, except for the worlds.
* `Outcome.Alike`, `Reply.Alike`, `Credential.Alike`, `Target.Alike`, `Call.Alike`, `Run.Alike`: the
  same up to a likeness.
* `Services.Alike`: services that answer alike as long as they are used alike.
* `Task.Alike`, `Start.Alike`: what leads from runs that are alike to others.

## Main statements

* `Task.Alike.await`: waits for replies that are alike end alike.
* `Services.Alike.provision`: provisioning is alike.
-/
namespace ClusterAccess

open Time

/-- What counts as alike on two sides. -/
structure Likeness (σ C σ' C' : Type) where
  /-- For the passwords of accounts. -/
  secret : Secret → Secret → Prop
  world : σ → σ' → Prop
  connection : C → C' → Prop
  /-- For the dialer and the limits with which connections are made. -/
  way : Option ProxyDialer × ConnectOptions → Option ProxyDialer × ConnectOptions → Prop

variable {σ σ' C C' α α' β β' κ : Type}

/-! ## Values -/

/-- Values under the same key. -/
def Keyed (V : α → β → Prop) (x : κ × α) (y : κ × β) : Prop := x.1 = y.1 ∧ V x.2 y.2

theorem eq_of_forall₂ {V : α → α → Prop} {l l' : List α} (h : List.Forall₂ V l l')
    (same : ∀ {a b}, V a b → a = b) : l = l' := by
  rw [← List.forall₂_eq_eq_eq]
  exact h.imp fun _ _ => same

theorem map_eq_of_forall₂ {V : α → β → Prop} {f : α → κ} {g : β → κ} {l : List α} {l' : List β}
    (h : List.Forall₂ V l l') (same : ∀ {a b}, V a b → f a = g b) : l.map f = l'.map g := by
  rw [← List.forall₂_eq_eq_eq, List.forall₂_map_left_iff, List.forall₂_map_right_iff]
  exact h.imp fun _ _ => same

namespace Outcome

inductive Alike (V : α → β → Prop) : Outcome α → Outcome β → Prop
  | ok {a : α} {b : β} (h : V a b) : Alike V (.ok a) (.ok b)
  | failed (e : AccessError) : Alike V (.failed e) (.failed e)
  | aborted : Alike V .aborted .aborted
  | stuck : Alike V .stuck .stuck

theorem Alike.eq {V : α → α → Prop} (same : ∀ {a b}, V a b → a = b) {o o' : Outcome α}
    (h : Alike V o o') : o = o' := by
  cases h with
  | ok h => rw [same h]
  | _ => rfl

theorem Alike.refl (o : Outcome α) : Alike Eq o o := by
  cases o <;> constructor
  rfl

end Outcome

inductive Time.Reply.Alike (V : α → β → Prop) : Reply α → Reply β → Prop
  | never : Alike V .never .never
  | after (delay : Nat) {a : α} {b : β} (h : V a b) : Alike V (.after delay a) (.after delay b)

theorem Time.Reply.Alike.map {V : α → β → Prop} {W : α' → β' → Prop} {f : α → α'} {g : β → β'}
    {x : Reply α} {y : Reply β} (h : Reply.Alike V x y) (step : ∀ {a b}, V a b → W (f a) (g b)) :
    Reply.Alike W (x.map f) (y.map g) := by
  cases h with
  | never => exact .never
  | after d h => exact .after d (step h)

theorem Time.Reply.Alike.refl {V : α → α → Prop} (same : ∀ a, V a a) (x : Reply α) :
    Reply.Alike V x x := by
  cases x with
  | never => exact .never
  | after d a => exact .after d (same a)

/-- The same request but for the password. -/
structure AccountRequest.Alike (S : Secret → Secret → Prop) (q q' : AccountRequest) : Prop where
  password : S q.password q'.password
  rest : q' = { q with password := q'.password }

/-- The same credential but for the password. -/
structure Credential.Alike (S : Secret → Secret → Prop) (c c' : Credential) : Prop where
  password : S c.password c'.password
  rest : c' = { c with password := c'.password }

theorem AccountRequest.Alike.eq {S : Secret → Secret → Prop} (same : ∀ {a b}, S a b → a = b)
    {q q' : AccountRequest} (h : q.Alike S q') : q = q' := by
  rw [h.rest, ← same h.password]

theorem Credential.Alike.eq {S : Secret → Secret → Prop} (same : ∀ {a b}, S a b → a = b)
    {c c' : Credential} (h : c.Alike S c') : c = c' := by
  rw [h.rest, ← same h.password]

/-- Targets at the same endpoint, for credentials that are alike. -/
inductive Target.Alike (S : Secret → Secret → Prop) : Target → Target → Prop
  | assemble (e : Endpoint) {c c' : Credential} (h : c.Alike S c') :
      Alike S (.assemble e c) (.assemble e c')

theorem Target.Alike.eq {S : Secret → Secret → Prop} (same : ∀ {a b}, S a b → a = b)
    {t t' : Target} (h : t.Alike S t') : t = t' := by
  cases h with
  | assemble e h => rw [h.eq same]

/-! ## Runs -/

inductive Call.Alike (L : Likeness σ C σ' C') : Call C → Call C' → Prop
  | password (policy : PasswordPolicy) : Alike L (.password policy) (.password policy)
  | createAccount (project : String) {q q' : AccountRequest} (request : q.Alike L.secret q') :
      Alike L (.createAccount project q) (.createAccount project q')
  | clusterInfo (project cluster : String) :
      Alike L (.clusterInfo project cluster) (.clusterInfo project cluster)
  | connect {t t' : Target} {d d' : Option ProxyDialer} {o o' : ConnectOptions}
      (target : t.Alike L.secret t') (way : L.way (d, o) (d', o')) :
      Alike L (.connect t d o) (.connect t' d' o')
  | ping {c : C} {c' : C'} (connection : L.connection c c') : Alike L (.ping c) (.ping c')
  | disconnect {c : C} {c' : C'} (connection : L.connection c c') :
      Alike L (.disconnect c) (.disconnect c')

/-- Alike means equal, except for the worlds. -/
structure Likeness.Exact (L : Likeness σ C σ' C) : Prop where
  secret {a b : Secret} (h : L.secret a b) : a = b
  connection {c c' : C} (h : L.connection c c') : c = c'
  way {x y : Option ProxyDialer × ConnectOptions} (h : L.way x y) : x = y

theorem Call.Alike.eq {L : Likeness σ C σ' C} (exact : L.Exact) {call call' : Call C}
    (h : call.Alike L call') : call = call' := by
  cases h with
  | password => rfl
  | createAccount _ request => rw [request.eq exact.secret]
  | clusterInfo => rfl
  | connect target way =>
    obtain ⟨rfl, rfl⟩ := Prod.mk.inj (exact.way way)
    rw [target.eq exact.secret]
  | ping connection => rw [exact.connection connection]
  | disconnect connection => rw [exact.connection connection]

structure Run.Alike (L : Likeness σ C σ' C') (r : Run σ C) (r' : Run σ' C') : Prop where
  world : L.world r.world r'.world
  now : r.now = r'.now
  calls : List.Forall₂ (Keyed (Call.Alike L)) r.calls r'.calls

namespace Run.Alike

variable {L : Likeness σ C σ' C'} {r : Run σ C} {r' : Run σ' C'}

theorem atTime (h : r.Alike L r') (t : Nat) : (r.atTime t).Alike L (r'.atTime t) :=
  ⟨h.world, rfl, h.calls⟩

/-- Events are not compared. -/
theorem note (h : r.Alike L r') (e : Event C) (e' : Event C') : (r.note e).Alike L (r'.note e') :=
  ⟨h.world, h.now, h.calls⟩

theorem begun (h : r.Alike L r') {call : Call C} {call' : Call C'} (calls : call.Alike L call')
    {w : σ} {w' : σ'} (worlds : L.world w w') :
    (r.begun call w).Alike L (r'.begun call' w') where
  world := worlds
  now := h.now
  calls := List.rel_append h.calls (.cons ⟨h.now, calls⟩ .nil)

end Run.Alike

/-- A value with the world that it leaves behind. -/
def Likeness.Both (L : Likeness σ C σ' C') (V : α → β → Prop) (x : α × σ) (y : β × σ') : Prop :=
  V x.1 y.1 ∧ L.world x.2 y.2

/-- A value with the run that it leaves behind. -/
def Run.Both (L : Likeness σ C σ' C') (V : α → β → Prop) (x : α × Run σ C) (y : β × Run σ' C') :
    Prop :=
  V x.1 y.1 ∧ x.2.Alike L y.2

theorem Likeness.Both.exists {L : Likeness σ C σ' C'} {V : α → β → Prop} {x : α × σ} {y : β × σ'}
    (h : L.Both V x y) : ∃ a w b w', x = (a, w) ∧ y = (b, w') ∧ V a b ∧ L.world w w' :=
  ⟨x.1, x.2, y.1, y.2, rfl, rfl, h.1, h.2⟩

theorem Run.Both.exists {L : Likeness σ C σ' C'} {V : α → β → Prop} {x : α × Run σ C}
    {y : β × Run σ' C'} (h : Run.Both L V x y) :
    ∃ a r b r', x = (a, r) ∧ y = (b, r') ∧ V a b ∧ r.Alike L r' :=
  ⟨x.1, x.2, y.1, y.2, rfl, rfl, h.1, h.2⟩

/-- Tasks that lead from runs that are alike to outcomes and runs that are. -/
def Task.Alike (L : Likeness σ C σ' C') (V : α → β → Prop) (t : Task σ C α) (t' : Task σ' C' β) :
    Prop :=
  ∀ {r r'}, r.Alike L r' → Run.Both L (Outcome.Alike V) (t r) (t' r')

/-- The same for beginnings, which lead to replies. -/
def Start.Alike (L : Likeness σ C σ' C') (V : α → β → Prop)
    (start : Run σ C → Reply (Outcome α) × Run σ C)
    (start' : Run σ' C' → Reply (Outcome β) × Run σ' C') : Prop :=
  ∀ {r r'}, r.Alike L r' → Run.Both L (Reply.Alike (Outcome.Alike V)) (start r) (start' r')

namespace Task.Alike

variable {L : Likeness σ C σ' C'} {V : α → β → Prop} {W : α' → β' → Prop}

theorem settle {x : Reply (Outcome α)} {y : Reply (Outcome β)}
    (h : Reply.Alike (Outcome.Alike V) x y) :
    Reply.Alike (Outcome.Alike V) (Task.settle x) (Task.settle y) := by
  cases h with
  | never => exact .never
  | after d h =>
    cases h with
    | ok h => exact .after d (.ok h)
    | failed e => exact .after d (.failed e)
    | aborted => exact .after d .aborted
    | stuck => exact .never

/-- Waits for replies that are alike end alike. -/
theorem await {start : Run σ C → Reply (Outcome α) × Run σ C}
    {start' : Run σ' C' → Reply (Outcome β) × Run σ' C'} (h : Start.Alike L V start start')
    (cancelAt : Option Nat) :
    Task.Alike L V (Task.await cancelAt start) (Task.await cancelAt start') := by
  intro r r' runs
  obtain ⟨x, r₁, y, r₁', hs, hs', replies, started⟩ := (h runs).exists
  have settled := settle replies
  -- Both sides look at the same clock, so a cancellation comes too late on both or on neither.
  have now : r₁'.now = r₁.now := started.now.symm
  simp only [Task.await, hs, hs', ← runs.now, now]
  by_cases late : cancelAt.any (· ≤ r.now) = true
  · simp only [late, if_true]
    exact ⟨.failed _, runs⟩
  simp only [late, if_false, Bool.false_eq_true]
  generalize Task.settle x = x, Task.settle y = y at settled
  cases settled with
  | never =>
    cases cancelAt with
    | none => exact ⟨.stuck, started⟩
    | some t => exact ⟨.failed _, started.atTime t⟩
  | after d outcomes =>
    cases cancelAt with
    | none => exact ⟨outcomes, started.atTime _⟩
    | some t =>
      by_cases cut : t ≤ r₁.now + d
      · simp only [cut, if_true]
        exact ⟨.failed _, started.atTime t⟩
      · simp only [cut, if_false]
        exact ⟨outcomes, started.atTime _⟩

theorem bind {t : Task σ C α} {t' : Task σ' C' β} {next : α → Task σ C α'}
    {next' : β → Task σ' C' β'} (h : Task.Alike L V t t')
    (later : ∀ {a b}, V a b → Task.Alike L W (next a) (next' b)) :
    Task.Alike L W (t >>= next) (t' >>= next') := by
  intro r r' runs
  obtain ⟨o, r₁, o', r₁', ht, ht', outcomes, runs⟩ := (h runs).exists
  simp only [Bind.bind, Task.bind, ht, ht']
  cases outcomes with
  | ok values => exact later values runs
  | failed e => exact ⟨.failed e, runs⟩
  | aborted => exact ⟨.aborted, runs⟩
  | stuck => exact ⟨.stuck, runs⟩

end Task.Alike

/-! ## Services -/

/-- Services that answer alike as long as they are used alike. -/
structure Services.Alike (L : Likeness σ C σ' C') (s : Services σ C) (s' : Services σ' C') :
    Prop where
  password (policy : PasswordPolicy) {w : σ} {w' : σ'} (worlds : L.world w w') :
    L.Both (Outcome.Alike L.secret) (s.password policy w) (s'.password policy w')
  identifier (length : Nat) {w : σ} {w' : σ'} (worlds : L.world w w') :
    L.Both Eq (s.identifier length w) (s'.identifier length w')
  clock {w : σ} {w' : σ'} (worlds : L.world w w') : s.clock w = s'.clock w'
  createAccount (project : String) {q q' : AccountRequest} {w : σ} {w' : σ'}
    (request : q.Alike L.secret q') (worlds : L.world w w') :
    L.Both Eq (s.createAccount project q w) (s'.createAccount project q' w')
  clusterInfo (project cluster : String) {w : σ} {w' : σ'} (worlds : L.world w w') :
    L.Both Eq (s.clusterInfo project cluster w) (s'.clusterInfo project cluster w')
  connect {t t' : Target} {d d' : Option ProxyDialer} {o o' : ConnectOptions} {w : σ} {w' : σ'}
    (target : t.Alike L.secret t') (way : L.way (d, o) (d', o')) (worlds : L.world w w') :
    L.Both (Reply.Alike fun x y => Outcome.Alike L.connection (.ofExcept x) (.ofExcept y))
      (s.connect t d o w) (s'.connect t' d' o' w')
  ping {c : C} {c' : C'} {w : σ} {w' : σ'} (connection : L.connection c c')
    (worlds : L.world w w') : L.Both Eq (s.ping c w) (s'.ping c' w')
  disconnect {c : C} {c' : C'} {w : σ} {w' : σ'} (connection : L.connection c c')
    (worlds : L.world w w') : L.Both Eq (s.disconnect c w) (s'.disconnect c' w')

/-- What is equal is alike. -/
theorem Likeness.Both.replies {L : Likeness σ C σ' C'} {x : Reply (Except AccessError α) × σ}
    {y : Reply (Except AccessError α) × σ'} (h : L.Both Eq x y) :
    L.Both (Reply.Alike fun x y => Outcome.Alike Eq (.ofExcept x) (.ofExcept y)) x y := by
  refine ⟨?_, h.2⟩
  rw [h.1]
  exact Reply.Alike.refl (fun _ => .refl _) _

/-- A call to the driver that is made and answered alike. -/
theorem Start.Alike.ask {L : Likeness σ C σ' C'} {V : α → β → Prop} {call : Call C}
    {call' : Call C'} {f : σ → Reply (Except AccessError α) × σ}
    {f' : σ' → Reply (Except AccessError β) × σ'} (calls : call.Alike L call')
    (answers : ∀ {w w'}, L.world w w' →
      L.Both (Reply.Alike fun x y => Outcome.Alike V (.ofExcept x) (.ofExcept y)) (f w) (f' w')) :
    Start.Alike L V (Services.ask call f) (Services.ask call' f') := by
  intro r r' runs
  obtain ⟨replies, worlds⟩ := answers runs.world
  exact ⟨replies.map id, runs.begun calls worlds⟩

namespace Services.Alike

variable {L : Likeness σ C σ' C'} {s : Services σ C} {s' : Services σ' C'}

theorem askConnect (h : s.Alike L s') {t t' : Target} {d d' : Option ProxyDialer}
    {o o' : ConnectOptions} (target : t.Alike L.secret t') (way : L.way (d, o) (d', o')) :
    Start.Alike L L.connection (s.askConnect t d o) (s'.askConnect t' d' o') :=
  Start.Alike.ask (.connect target way) fun worlds => h.connect target way worlds

theorem askPing (h : s.Alike L s') {c : C} {c' : C'} (connection : L.connection c c') :
    Start.Alike L Eq (s.askPing c) (s'.askPing c') :=
  Start.Alike.ask (.ping connection) fun worlds => (h.ping connection worlds).replies

theorem askDisconnect (h : s.Alike L s') {c : C} {c' : C'} (connection : L.connection c c') :
    Start.Alike L Eq (s.askDisconnect c) (s'.askDisconnect c') :=
  Start.Alike.ask (.disconnect connection) fun worlds => (h.disconnect connection worlds).replies

/-! ## Provisioning -/

/-- The same order but for the password. -/
structure Order (S : Secret → Secret → Prop) (x y : AccountOrder) : Prop where
  password : S x.password y.password
  createdAt : x.createdAt = y.createdAt
  deadline : x.deadline = y.deadline
  request : x.request.Alike S y.request

/-- What comes of an account is the same but for the password. -/
theorem Order.credential {S : Secret → Secret → Prop} {x y : AccountOrder} (h : Order S x y)
    (project : String) (o : Outcome Account) :
    Outcome.Alike (Credential.Alike S) (x.credential project o) (y.credential project o) := by
  cases o with
  | ok account =>
    refine .ok ⟨h.password, ?_⟩
    rw [Credential.ofAccount, Credential.ofAccount, h.createdAt, h.deadline]
  | failed e => exact .failed _
  | aborted => exact .aborted
  | stuck => exact .stuck

theorem order (h : s.Alike L s') (settings : AccountSettings) (project : String) {w : σ} {w' : σ'}
    (worlds : L.world w w') :
    L.Both (Outcome.Alike (Order L.secret)) (s.order settings project w)
      (s'.order settings project w') := by
  obtain ⟨o, w, o', w', hp, hp', passwords, worlds⟩ :=
    (h.password settings.passwordPolicy worlds).exists
  unfold Services.order
  rw [hp, hp']
  cases passwords with
  | failed e => exact ⟨.failed _, worlds⟩
  | aborted => exact ⟨.aborted, worlds⟩
  | stuck => exact ⟨.stuck, worlds⟩
  | ok secrets =>
    obtain ⟨o, w, _, w', hi, hi', rfl, worlds⟩ := (h.identifier identifierLength worlds).exists
    dsimp only
    rw [hi, hi']
    cases o with
    | failed e => exact ⟨.failed _, worlds⟩
    | aborted => exact ⟨.aborted, worlds⟩
    | stuck => exact ⟨.stuck, worlds⟩
    | ok identifier =>
      dsimp only
      rw [h.clock worlds]
      split
      · exact ⟨.failed _, worlds⟩
      · split
        · exact ⟨.aborted, worlds⟩
        · exact ⟨.ok ⟨secrets, rfl, rfl, ⟨secrets, rfl⟩⟩, worlds⟩

theorem provision (h : s.Alike L s') (settings : AccountSettings) (project : String) :
    Start.Alike L (Credential.Alike L.secret) (s.provision settings project)
      (s'.provision settings project) := by
  intro r r' runs
  obtain ⟨o, w, o', w', ho, ho', orders, worlds⟩ := (h.order settings project runs.world).exists
  have begun := runs.begun (.password settings.passwordPolicy) worlds
  unfold Services.provision Task.begin
  rw [ho, ho']
  cases orders with
  | failed e => exact ⟨.after 0 (.failed e), begun⟩
  | aborted => exact ⟨.after 0 .aborted, begun⟩
  | stuck => exact ⟨.after 0 .stuck, begun⟩
  | @ok order order' same =>
    obtain ⟨replies, worlds⟩ := h.createAccount project same.request worlds
    refine ⟨?_, begun.begun (.createAccount project same.request) worlds⟩
    dsimp only [Run.begun]
    rw [replies]
    refine (Reply.Alike.refl (fun _ => rfl) _).map ?_
    rintro o _ rfl
    exact same.credential project o

end Services.Alike
end ClusterAccess
