import ClusterAccess.Proofs.Api.Static
import ClusterAccess.Proofs.Api.Turns

/-!
# Tokens over whole sessions

Calls are made one after the other, and each takes as many turns as it has requests. Every turn is
lawful after all turns before it, those of earlier calls included.

## Main definitions

* `Client.Lawfully`: turns of which each is lawful after those before it.
* `Client.Told`, `Client.Recounted`: the turns of a call, and of calls one after the other.

## Main statements

* `Client.perform_told`: the requests of a call are lawful turns.
* `Client.token_law`: so are those of all calls.
-/
namespace ClusterAccess.Api

open Http

variable {σ : Type}

namespace Client

variable {c : Client σ} {id : String} {secret : Secret} {s s' : Session (σ × List Note)}

/-! ## One call -/

/-- Every turn is lawful after those before it. -/
def Lawfully (c : Client σ) (id : String) (secret : Secret) (turns : List Turn) : Prop :=
  ∀ past t rest, turns = past ++ t :: rest → c.Lawful id secret past t

theorem Lawfully.snoc {past : List Turn} {t : Turn} (before : c.Lawfully id secret past)
    (lawful : c.Lawful id secret past t) : c.Lawfully id secret (past ++ [t]) := by
  intro past' u rest split
  rcases append_singleton_eq_split split with ⟨rfl, rfl, rfl⟩ | ⟨rest, rfl, rfl⟩
  · exact lawful
  · exact before _ _ _ rfl

/-- What is done for a call: its requests, one after the other. -/
structure Told (c : Client σ) (call : Call) (answer : Except Failure Answer) (turns : List Turn) :
    Prop where
  requests : ∀ url, c.endpoint call.segments = .ok url →
    turns ≠ [] ∧ ∀ n t, turns[n]? = some t → t.request = call.request url n
  misplaced : ∀ e, c.endpoint call.segments = .error e → turns = []
  /-- A failure to get a token ends the call. -/
  failed : ∀ before t after, turns = before ++ t :: after → t.HasFailed →
    after = [] ∧ ∃ f, answer = .error f

/-- The requests of a call from some number on are lawful turns. -/
theorem Course.turns {call : Call} {url : Url} {n : Nat} {pieces : List call.Piece}
    {f : Option Failure} {past : List Turn} (auth : c.auth = .serviceAccount id secret)
    (plain : ∀ n r, call.request url n = .ok r → r.authorization = [])
    (course : c.noted.Course call url n s pieces f s') (lawfully : c.Lawfully id secret past)
    (stands : Stands past s.issued) :
    ∃ turns, turns ≠ [] ∧ c.Lawfully id secret (past ++ turns) ∧
      Stands (past ++ turns) s'.issued ∧ s'.world.2 = s.world.2 ++ turns.flatMap Turn.notes ∧
      (∀ k t, turns[k]? = some t → t.request = call.request url (n + k)) ∧
      ∀ before t after, turns = before ++ t :: after → t.HasFailed → after = [] ∧ f ≠ none := by
  -- a turn whose request has an answer has not failed
  have unfailed {past : List Turn} {t : Turn} {piece : call.Piece}
      (lawful : c.Lawful id secret past t) (outcome : .ok piece =
        t.outcome.bind fun response => (verdict call.reader response).mapError .error) :
      ¬ t.HasFailed := by
    intro failed
    obtain ⟨-, ⟨f, lost⟩, -⟩ := lawful.failed failed
    rw [lost] at outcome
    cases outcome
  have single {t : Turn} {before after : List Turn} {u : Turn}
      (split : [t] = before ++ u :: after) : after = [] ∧ u = t := by
    have split : [] ++ [t] = before ++ u :: after := split
    rcases append_singleton_eq_split split with ⟨rfl, -, rfl⟩ | ⟨_, -, none⟩
    · exact ⟨rfl, rfl⟩
    · simp at none
  induction course generalizing past with
  | failed send | ended send | uncounted send =>
    obtain ⟨t, request, notes, lawful, stands', outcome⟩ := send_turn auth (plain _) stands send
    refine ⟨[t], by simp, lawfully.snoc lawful, stands', by simpa using notes, ?_, ?_⟩
    · intro k u at_
      cases k with
      | zero => cases at_; exact request
      | succ k => cases at_
    · intro before u after split failed
      obtain ⟨rfl, rfl⟩ := single split
      first
        | exact absurd failed (unfailed lawful outcome)
        | exact ⟨rfl, by simp⟩
  | next send rest ih =>
    obtain ⟨t, request, notes, lawful, stands', outcome⟩ := send_turn auth (plain _) stands send
    obtain ⟨turns, -, lawfully', stands'', notes', requests, ends⟩ :=
      ih (lawfully.snoc lawful) stands'
    rw [List.append_assoc, List.singleton_append] at lawfully' stands''
    refine ⟨t :: turns, by simp, lawfully', stands'', by simp [notes', notes], ?_, ?_⟩
    · intro k u at_
      cases k with
      | zero => cases at_; exact request
      | succ k => rw [requests k u at_, Nat.add_right_comm, Nat.add_assoc]
    · intro before u after split failed
      cases before with
      | nil =>
        obtain ⟨rfl, rfl⟩ := List.cons.inj split
        exact absurd failed (unfailed lawful outcome)
      | cons _ before =>
        obtain ⟨rfl, rfl⟩ := List.cons.inj split
        exact ends before u after rfl failed

/-- The requests of a call are lawful turns. -/
theorem perform_told {call : Call} {o : Except Failure Answer} {past : List Turn}
    (auth : c.auth = .serviceAccount id secret) (user : userOf? c.base = none)
    (lawfully : c.Lawfully id secret past) (stands : Stands past s.issued)
    (h : c.noted.perform call s = (o, s')) :
    ∃ turns, c.Told call o turns ∧ c.Lawfully id secret (past ++ turns) ∧
      Stands (past ++ turns) s'.issued ∧ s'.world.2 = s.world.2 ++ turns.flatMap Turn.notes := by
  have told {url : Url} {pieces : List call.Piece} {f : Option Failure}
      (place : c.endpoint call.segments = .ok url)
      (course : c.noted.Course call url 0 s pieces f s') (failed : f ≠ none → ∃ f, o = .error f) :
      ∃ turns, c.Told call o turns ∧ c.Lawfully id secret (past ++ turns) ∧
        Stands (past ++ turns) s'.issued ∧
          s'.world.2 = s.world.2 ++ turns.flatMap Turn.notes := by
    obtain ⟨turns, some, lawfully', stands', notes, requests, ends⟩ :=
      course.turns auth (fun _ _ => request_unsigned user place) lawfully stands
    refine ⟨turns, ⟨?_, ?_, ?_⟩, lawfully', stands', notes⟩
    · intro url' place'
      rw [place] at place'
      cases place'
      exact ⟨some, fun n t at_ => by rw [requests n t at_, Nat.zero_add]⟩
    · intro e misplaced
      rw [place] at misplaced
      cases misplaced
    · intro before t after split vain
      obtain ⟨rfl, ended⟩ := ends before t after split vain
      exact ⟨rfl, failed ended⟩
  cases perform_performed h with
  | misplaced place =>
    refine ⟨[], ⟨?_, fun _ _ => rfl, by simp⟩, by simpa, by simpa, by simp⟩
    intro url place'
    rw [show c.noted.endpoint call.segments = .ok url from place'] at place
    cases place
  | failed place course => exact told place course fun _ => ⟨_, rfl⟩
  | done place course => exact told place course (absurd rfl)

/-! ## Calls one after the other -/

/-- What is done for calls one after the other. -/
inductive Recounted (c : Client σ) :
    List Call → List (Except Failure Answer) → List (List Turn) → Prop
  | nil : Recounted c [] [] []
  | cons {call : Call} {calls : List Call} {answer : Except Failure Answer}
      {answers : List (Except Failure Answer)} {turns : List Turn} {rest : List (List Turn)}
      (told : c.Told call answer turns) (later : Recounted c calls answers rest) :
      Recounted c (call :: calls) (answer :: answers) (turns :: rest)

theorem converse_recounted (calls : List Call) {past : List Turn}
    (auth : c.auth = .serviceAccount id secret) (user : userOf? c.base = none)
    (lawfully : c.Lawfully id secret past) (stands : Stands past s.issued) :
    ∃ turns, c.Recounted calls (c.noted.converse calls s).1 turns ∧
      c.Lawfully id secret (past ++ turns.flatten) ∧
      Stands (past ++ turns.flatten) (c.noted.converse calls s).2.issued ∧
      (c.noted.converse calls s).2.world.2 =
        s.world.2 ++ turns.flatten.flatMap Turn.notes := by
  induction calls generalizing s past with
  | nil => exact ⟨[], .nil, by simpa, by simpa [converse], by simp [converse]⟩
  | cons call calls ih =>
    rw [converse_cons]
    rcases performed : c.noted.perform call s with ⟨answer, s₁⟩
    obtain ⟨turns, told, lawfully', stands', notes⟩ :=
      perform_told auth user lawfully stands performed
    obtain ⟨rest, later, lawfully'', stands'', notes'⟩ := ih lawfully' stands'
    refine ⟨turns :: rest, .cons told later, ?_, ?_, ?_⟩
    · rwa [List.flatten_cons, ← List.append_assoc]
    · rwa [List.flatten_cons, ← List.append_assoc]
    · rw [notes', notes, List.flatten_cons, List.flatMap_append, List.append_assoc]

/-- What is done for tokens over calls one after the other. -/
structure Tokened (c : Client σ) (id : String) (secret : Secret) (calls : List Call)
    (answers : List (Except Failure Answer)) (s : Session (σ × List Note))
    (turns : List (List Turn)) : Prop where
  recounted : c.Recounted calls answers turns
  lawfully : c.Lawfully id secret turns.flatten
  /-- The turns leave nothing out. -/
  notes : s.world.2 = turns.flatten.flatMap Turn.notes
  stands : Stands turns.flatten s.issued

/-- Over all calls of a client with a service account, every request has the token that was issued
last, and a token is asked for exactly if there was none, if it was refused, or if its time is over;
a client of another kind never asks for one. -/
theorem token_law (user : userOf? c.base = none) (calls : List Call) (w : σ) :
    c.converse calls { world := w } =
      ((c.noted.converse calls { world := (w, []) }).1,
        (c.noted.converse calls { world := (w, []) }).2.forget) ∧
    (∀ id secret, c.auth = .serviceAccount id secret → ∃ turns,
      c.Tokened id secret calls (c.noted.converse calls { world := (w, []) }).1
        (c.noted.converse calls { world := (w, []) }).2 turns) ∧
    ((∀ id secret, c.auth ≠ .serviceAccount id secret) →
      (∀ note ∈ (c.noted.converse calls { world := (w, []) }).2.world.2, note.IsOfInterface) ∧
      (c.noted.converse calls { world := (w, []) }).2.issued = none) := by
  refine ⟨c.converse_forgets calls { world := (w, []) }, fun id secret auth => ?_, fun auth => ?_⟩
  · have lawfully : c.Lawfully id secret [] := by
      intro past t rest split
      simp at split
    have stands : Stands [] none := ⟨iff_of_true rfl (.inl rfl), by simp⟩
    obtain ⟨turns, recounted, lawfully, stands, notes⟩ :=
      converse_recounted calls (s := { world := (w, []) }) auth user lawfully stands
    exact ⟨turns, recounted, lawfully, notes, stands⟩
  · obtain ⟨notes, added, ofInterface, issued⟩ :=
      converse_static auth calls { world := (w, []) }
    rw [added]
    exact ⟨ofInterface, issued rfl⟩

/-- A service account whose tokens are all refused. -/
def refusedAccount : Client Unit where
  web :=
    { answer := fun _ r w =>
        (.response (if r.accept = "application/json" then
          { status := 200, body := Text.utf8Bytes "\x7b\"access_token\":\"t\"\x7d" }
        else { status := 401 }), w)
      clock := fun w => (5, w)
      nonce := fun w => ("", w) }
  auth := .serviceAccount "id" ⟨"secret"⟩
  base := { scheme := "https", host := some (.domain "host"), path := .segments [""] }
  tokenUrl := { scheme := "https", host := some (.domain "host"), path := .segments ["token"] }
  proxy := none

/-- Twice a token is asked for, the clock is read, and a request is refused. -/
theorem token_law_refused : userOf? refusedAccount.base = none ∧ ∃ answers s turns,
    refusedAccount.noted.converse [.lookUp "p" "c", .lookUp "p" "d"] { world := ((), []) } =
      (answers, s) ∧
    refusedAccount.Tokened "id" ⟨"secret"⟩ [.lookUp "p" "c", .lookUp "p" "d"] answers s turns ∧
    s.world.2.map (fun note => match note with
      | .sent r _ => r.accept
      | .read now => toString now
      | .drew nonce => nonce) =
        ["application/json", "5", versionedJson, "application/json", "5", versionedJson] := by
  have user : userOf? refusedAccount.base = none := by decide +kernel
  obtain ⟨turns, tokened⟩ := (token_law user [.lookUp "p" "c", .lookUp "p" "d"] ()).2.1
    "id" ⟨"secret"⟩ rfl
  exact ⟨user, _, _, turns, rfl, tokened, by decide +kernel⟩

end Client
end ClusterAccess.Api
