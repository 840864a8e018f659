import ClusterAccess.Proofs.Api.Notes

/-!
# Turns of a client with a service account

A client with a service account has a token issued when there is none that it may use: none was
issued yet, or the last one was refused, or its time is over. What has happened so far decides that;
the token that is kept says no more.

## Main definitions

* `Issue`, `Exchange`, `Turn`: a token, how one was asked for, and what was done for one request.
* `lastIssue?`, `RefusedSince`: what the turns so far say of tokens.
* `Client.Lawful`: what has to be done at a turn.
* `Stands`: the token that is kept is the one that the turns tell of.

## Main statements

* `Client.send_turn`: a request is a lawful turn.
-/
namespace ClusterAccess.Api

open Http

variable {σ α : Type}

/-! ## Turns -/

/-- A token that was issued. -/
structure Issue where
  token : Secret
  /-- For how many seconds the token lives, if that was said. -/
  lifetime : Option Nat
  /-- When the answer with the token had been read, in nanoseconds. -/
  completed : Nat
  deriving DecidableEq

namespace Issue

/-- For how many seconds the token is used: up to one minute before its end. -/
def seconds (i : Issue) : Nat :=
  match i.lifetime with
  | some lifetime => lifetime - 60
  | none => 3540

/-- From when on the token is not used. -/
def due (i : Issue) : Nat := i.completed + i.seconds * 1000000000

/-- Whether the clock goes that far. -/
def isCountable (i : Issue) : Bool := i.completed / 1000000000 + i.seconds < UInt64.size / 2

def kept (i : Issue) : IssuedToken := ⟨i.token, i.due⟩

theorem refreshTime?_eq (i : Issue) :
    Client.refreshTime? i.completed i.lifetime = if i.isCountable then some i.due else none := by
  have seconds : i.lifetime.getD Client.usualLifetime - Client.refreshMargin = i.seconds := by
    unfold seconds
    cases i.lifetime <;> rfl
  have last : Client.lastSecond = UInt64.size / 2 - 1 := rfl
  have size : 0 < UInt64.size / 2 := by decide
  have countable : i.completed / Client.nanosecondsPerSecond + i.seconds ≤ Client.lastSecond ↔
      i.isCountable = true := by
    rw [isCountable, decide_eq_true_iff, last, Client.nanosecondsPerSecond]
    omega
  simp only [Client.refreshTime?, seconds, countable]
  rfl

end Issue

/-- The messages that ask for a token, what becomes of them, and the token if there is one. -/
structure Exchange where
  hops : List (Request × Reply)
  outcome : Except ApiError Response
  issue : Option Issue

namespace Exchange

/-- What a request for a token comes to. -/
inductive Ends : Except ApiError Response → Option Issue → Prop
  | granted {response : Response} {answer : Token} (completed : Nat)
      (success : isSuccess response.status = true)
      (read : Json.readBytes Token.reader response.body = .ok answer) :
      Ends (.ok response) (some ⟨.ofString answer.access, answer.expiresIn, completed⟩)
  | refused {outcome : Except ApiError Response} (unread : ∀ response, outcome = .ok response →
      isSuccess response.status = true →
        ∀ answer, Json.readBytes Token.reader response.body ≠ .ok answer) : Ends outcome none

/-- The token that is gained, unless the clock ends before its time is over. -/
def gain? (e : Exchange) : Option Issue := e.issue.filter (·.isCountable)

def notes (e : Exchange) : List Note :=
  Note.ofHops e.hops ++ e.issue.toList.map fun i => .read i.completed

end Exchange

/-- What is done for one request. -/
structure Turn where
  request : Except Http.Fault Request
  /-- What the clock showed before, if it was read. -/
  clock : Option Nat
  /-- How a token was asked for, if one was. -/
  exchange : Option Exchange
  /-- The messages of the request itself. -/
  hops : List (Request × Reply)
  outcome : Except Failure Response

namespace Turn

def notes (t : Turn) : List Note :=
  t.clock.toList.map .read ++ (t.exchange.toList.flatMap Exchange.notes ++ Note.ofHops t.hops)

def gain? (t : Turn) : Option Issue := t.exchange.bind Exchange.gain?

/-- A token was asked for in vain. -/
def HasFailed (t : Turn) : Prop := ∃ e, t.exchange = some e ∧ e.gain? = none

/-- The interface refused the token. -/
def IsRefused (t : Turn) : Prop := ∃ response, t.outcome = .ok response ∧ response.status = 401

theorem not_isRefused {t : Turn} {f : Failure} (lost : t.outcome = .error f) : ¬ t.IsRefused := by
  rintro ⟨response, got, -⟩
  rw [lost] at got
  cases got

end Turn

/-- The token that was issued last. -/
def lastIssue? (past : List Turn) : Option Issue := past.reverse.findSome? Turn.gain?

/-- The interface refused a token, and none was issued after that. -/
def RefusedSince (past : List Turn) : Prop :=
  ∃ before t after, past = before ++ t :: after ∧ t.IsRefused ∧ ∀ u ∈ after, u.gain? = none

/-- What has to be done for a request after some turns. -/
structure Client.Lawful (c : Client σ) (id : String) (secret : Secret) (past : List Turn)
    (t : Turn) : Prop where
  /-- The clock is only read where it matters. -/
  clock_iff : t.clock.isSome ↔ lastIssue? past ≠ none ∧ ¬ RefusedSince past
  exchange_iff : t.exchange.isSome ↔ lastIssue? past = none ∨ RefusedSince past ∨
    ∃ i now, lastIssue? past = some i ∧ t.clock = some now ∧ i.due ≤ now
  asks : ∀ e, t.exchange = some e →
    Delivery (c.tokenRequest id secret) e.hops e.outcome ∧ Exchange.Ends e.outcome e.issue
  /-- A failure leaves everything as it was. -/
  failed : t.HasFailed → t.hops = [] ∧ (∃ f, t.outcome = .error f) ∧
    lastIssue? (past ++ [t]) = lastIssue? past ∧ (RefusedSince (past ++ [t]) ↔ RefusedSince past)
  sends : ¬ t.HasFailed → ∃ i, lastIssue? (past ++ [t]) = some i ∧
    (∃ outcome, Delivery (bearing i.token t.request) t.hops outcome ∧
      t.outcome = outcome.mapError .error) ∧
    (∀ hop ∈ t.hops.head?, hop.1.authorization = ["Bearer " ++ i.token.expose]) ∧
    ∀ hop ∈ t.hops, (hop.1.authorization = ["Bearer " ++ i.token.expose] ∨
      hop.1.authorization = []) ∧ hop.1.accept = versionedJson

/-! ## One turn -/

/-- How a token was asked for, and what the session keeps of that. -/
structure Client.Exchanged (c : Client σ) (id : String) (secret : Secret)
    (s : Session (σ × List Note)) (e : Exchange) (o : Except Failure Secret)
    (s' : Session (σ × List Note)) : Prop where
  delivery : Delivery (c.tokenRequest id secret) e.hops e.outcome
  ends : Exchange.Ends e.outcome e.issue
  notes : s'.world.2 = s.world.2 ++ e.notes
  gained : ∀ i, e.gain? = some i → o = .ok i.token ∧ s'.issued = some i.kept
  failed : e.gain? = none → (∃ f, o = .error f) ∧ s'.issued = s.issued

/-- The session after the clock was read. -/
def Session.timed (s : Session (σ × List Note)) (world : σ) (now : Nat) : Session (σ × List Note) :=
  { s with world := (world, s.world.2 ++ [.read now]) }

namespace Client

variable {c : Client σ} {id : String} {secret : Secret} {s s' : Session (σ × List Note)}

theorem clock_noted (s : Session (σ × List Note)) :
    ∃ now world, Action.lift c.noted.web.clock s = (.ok now, s.timed world now) :=
  ⟨_, _, rfl⟩

/-- A response is no token, or one that is kept as long as the clock goes that far. -/
theorem tokenOf_apply (response : Response) (s : Session (σ × List Note)) :
    ((∀ answer, isSuccess response.status = true →
        Json.readBytes Token.reader response.body ≠ .ok answer) ∧
      ∃ f, c.noted.tokenOf response s = (.error f, s)) ∨
    ∃ i world, Exchange.Ends (.ok response) (some i) ∧
      c.noted.tokenOf response s = if i.isCountable
        then (.ok i.token, { s.timed world i.completed with issued := some i.kept })
        else (.error .overflow, s.timed world i.completed) := by
  unfold tokenOf
  cases success : isSuccess response.status with
  | false => exact .inl ⟨by simp, _, rfl⟩
  | true =>
    cases read : Json.readBytes Token.reader response.body with
    | error fault => exact .inl ⟨by simp, _, rfl⟩
    | ok answer =>
      obtain ⟨now, world, asked⟩ := c.clock_noted s
      let i : Issue := ⟨.ofString answer.access, answer.expiresIn, now⟩
      have time : refreshTime? now answer.expiresIn = if i.isCountable then some i.due else none :=
        i.refreshTime?_eq
      refine .inr ⟨i, world, .granted now success read, ?_⟩
      refine (Action.bind_of_ok asked).trans ?_
      rw [time]
      cases i.isCountable <;> rfl

theorem issueToken_exchanged {o : Except Failure Secret}
    (h : c.noted.issueToken id secret s = (o, s')) :
    ∃ e, c.Exchanged id secret s e o s' := by
  rw [issueToken_eq] at h
  cases made : c.tokenRequest id secret with
  | error fault =>
    rw [show c.noted.tokenRequest id secret = .error fault from made] at h
    obtain ⟨rfl, rfl⟩ := Prod.mk.inj h
    refine ⟨⟨[], .error (ofHttp fault), none⟩, ?_, .refused (by simp), ?_, by simp [Exchange.gain?],
      fun _ => ⟨⟨_, rfl⟩, rfl⟩⟩
    · rw [made]
      exact .unmade
    · simp [Exchange.notes, Note.ofHops]
  | ok r =>
    rw [show c.noted.tokenRequest id secret = .ok r from made, Action.ofExcept_ok,
      Action.bind_of_ok (Action.pure_apply _ _)] at h
    obtain ⟨hops, outcome, world, trail, fetched⟩ := c.fetch_trail r s
    have delivery : Delivery (c.tokenRequest id secret) hops outcome := made ▸ .sent trail
    have refused {f : Failure} (unread : ∀ response, outcome = .ok response →
        isSuccess response.status = true →
          ∀ answer, Json.readBytes Token.reader response.body ≠ .ok answer) :
        c.Exchanged id secret s ⟨hops, outcome, none⟩ (.error f) (s.sent world hops) :=
      ⟨delivery, .refused unread, by simp [Session.sent, Exchange.notes], by simp [Exchange.gain?],
        fun _ => ⟨⟨_, rfl⟩, rfl⟩⟩
    cases outcome with
    | error e =>
      rw [Action.bind_of_error fetched] at h
      obtain ⟨rfl, rfl⟩ := Prod.mk.inj h
      exact ⟨_, refused (by simp)⟩
    | ok response =>
      rw [Action.bind_of_ok fetched] at h
      rcases c.tokenOf_apply response (s.sent world hops) with
        ⟨unread, f, failed⟩ | ⟨i, world', granted, kept⟩
      · rw [failed] at h
        obtain ⟨rfl, rfl⟩ := Prod.mk.inj h
        refine ⟨_, refused fun _ got success answer => ?_⟩
        cases got
        exact unread answer success
      · rw [kept] at h
        cases countable : i.isCountable <;> rw [countable] at h <;>
          obtain ⟨rfl, rfl⟩ := Prod.mk.inj h
        · exact ⟨⟨hops, .ok response, some i⟩, delivery, granted,
            by simp [Exchange.notes, Session.timed, Session.sent],
            by simp [Exchange.gain?, countable], fun _ => ⟨⟨_, rfl⟩, rfl⟩⟩
        · exact ⟨⟨hops, .ok response, some i⟩, delivery, granted,
            by simp [Exchange.notes, Session.timed, Session.sent],
            by simp [Exchange.gain?, countable], by simp [Exchange.gain?, countable]⟩

end Client

/-- How a client comes by a token. -/
inductive Client.Signed (c : Client σ) (id : String) (secret : Secret)
    (s : Session (σ × List Note)) : Option Nat → Option Exchange → Except Failure Secret →
    Session (σ × List Note) → Prop
  | first {e : Exchange} {o : Except Failure Secret} {s' : Session (σ × List Note)}
      (absent : s.issued = none) (exchanged : c.Exchanged id secret s e o s') :
      Signed c id secret s none (some e) o s'
  | kept {token : IssuedToken} {now : Nat} {world : σ} (stands : s.issued = some token)
      (inTime : now < token.refreshAt) :
      Signed c id secret s (some now) none (.ok token.token) (s.timed world now)
  | due {token : IssuedToken} {now : Nat} {world : σ} {e : Exchange}
      {o : Except Failure Secret} {s' : Session (σ × List Note)}
      (stands : s.issued = some token) (late : token.refreshAt ≤ now)
      (exchanged : c.Exchanged id secret (s.timed world now) e o s') :
      Signed c id secret s (some now) (some e) o s'

/-- What is kept is what the turns say. -/
structure Stands (past : List Turn) (issued : Option IssuedToken) : Prop where
  absent : issued = none ↔ lastIssue? past = none ∨ RefusedSince past
  kept : ∀ token, issued = some token → ∃ i, lastIssue? past = some i ∧ token = i.kept

theorem lastIssue?_append (past : List Turn) (t : Turn) :
    lastIssue? (past ++ [t]) = t.gain?.or (lastIssue? past) := by
  simp [lastIssue?, List.findSome?_cons]
  cases t.gain? <;> rfl

/-- The last element of a list is split off with nothing behind it, and the others with that. -/
theorem append_singleton_eq_split {before after xs : List α} {a b : α}
    (split : xs ++ [a] = before ++ b :: after) :
    after = [] ∧ before = xs ∧ b = a ∨ ∃ rest, after = rest ++ [a] ∧ xs = before ++ b :: rest := by
  rcases List.eq_nil_or_concat after with rfl | ⟨rest, last, rfl⟩
  · obtain ⟨rfl, ends⟩ := List.append_inj' split rfl
    exact .inl ⟨rfl, rfl, (List.cons.inj ends).1.symm⟩
  · rw [List.concat_eq_append, ← List.cons_append, ← List.append_assoc] at split
    obtain ⟨rfl, ends⟩ := List.append_inj' split rfl
    exact .inr ⟨rest, by rw [List.concat_eq_append, (List.cons.inj ends).1], rfl⟩

theorem refusedSince_append {past : List Turn} {t : Turn} :
    RefusedSince (past ++ [t]) ↔ t.IsRefused ∨ t.gain? = none ∧ RefusedSince past := by
  constructor
  · rintro ⟨before, u, after, split, refused, unissued⟩
    rcases append_singleton_eq_split split with ⟨rfl, rfl, rfl⟩ | ⟨rest, rfl, rfl⟩
    · exact .inl refused
    · exact .inr ⟨unissued t (by simp), before, u, rest, rfl, refused,
        fun v mem => unissued v (List.mem_append_left _ mem)⟩
  · rintro (refused | ⟨unissued, before, u, after, rfl, refused, none⟩)
    · exact ⟨past, t, [], rfl, refused, by simp⟩
    · refine ⟨before, u, after ++ [t], by simp, refused, fun v mem => ?_⟩
      rcases List.mem_append.mp mem with mem | mem
      · exact none v mem
      · rwa [List.mem_singleton.mp mem]

/-- A token that was asked for in vain leaves the one that was issued before. -/
theorem Turn.HasFailed.lastIssue? {t : Turn} (failed : t.HasFailed) (past : List Turn) :
    Api.lastIssue? (past ++ [t]) = Api.lastIssue? past := by
  obtain ⟨e, asked, vain⟩ := failed
  rw [lastIssue?_append, gain?, asked, Option.bind_some, vain, Option.none_or]

theorem Turn.HasFailed.refusedSince {t : Turn} (failed : t.HasFailed) (past : List Turn)
    (unrefused : ¬ t.IsRefused) : RefusedSince (past ++ [t]) ↔ RefusedSince past := by
  obtain ⟨e, asked, vain⟩ := failed
  rw [refusedSince_append, gain?, asked, Option.bind_some, vain]
  simp [unrefused]

theorem Stands.turn {past : List Turn} {issued issued' : Option IssuedToken}
    (stands : Stands past issued) (t : Turn) (refused : t.IsRefused → issued' = none)
    (unrefused : ¬ t.IsRefused → issued' = (t.gain?.map Issue.kept).or issued) :
    Stands (past ++ [t]) issued' := by
  by_cases h : t.IsRefused
  · rw [refused h]
    exact ⟨by simp [refusedSince_append, h], nofun⟩
  · rw [unrefused h]
    constructor
    · rw [lastIssue?_append, refusedSince_append]
      cases t.gain? <;> simp [h, stands.absent]
    · rw [lastIssue?_append]
      cases gain : t.gain? with
      | none => simpa using stands.kept
      | some i => simp [eq_comm]

namespace Client

variable {c : Client σ} {id : String} {secret : Secret} {s s' : Session (σ × List Note)}

theorem currentToken_signed {o : Except Failure Secret}
    (h : c.noted.currentToken id secret s = (o, s')) :
    ∃ clock exchange, c.Signed id secret s clock exchange o s' := by
  unfold currentToken at h
  rw [Action.bind_of_ok (show Action.issued s = (.ok s.issued, s) from rfl)] at h
  cases issued : s.issued with
  | none =>
    rw [issued] at h
    obtain ⟨e, exchanged⟩ := issueToken_exchanged h
    exact ⟨_, _, .first issued exchanged⟩
  | some token =>
    rw [issued] at h
    obtain ⟨now, world, asked⟩ := c.clock_noted s
    dsimp only at h
    rw [Action.bind_of_ok asked] at h
    by_cases inTime : now < token.refreshAt
    · rw [if_pos inTime] at h
      obtain ⟨rfl, rfl⟩ := Prod.mk.inj h
      exact ⟨_, _, .kept issued inTime⟩
    · rw [if_neg inTime] at h
      obtain ⟨e, exchanged⟩ := issueToken_exchanged h
      exact ⟨_, _, .due issued (Nat.le_of_not_lt inTime) exchanged⟩

/-- After signing in, the request is sent with the token. -/
theorem receive_signed (auth : c.auth = .serviceAccount id secret) (r : Except Http.Fault Request) :
    ∃ clock exchange o s₁, c.Signed id secret s clock exchange o s₁ ∧ match o with
      | .error f => c.noted.receive r s = (.error f, s₁)
      | .ok token => ∃ hops outcome world, Delivery (bearing token r) hops outcome ∧
        c.noted.receive r s = (outcome.mapError .error, s₁.sent world hops) := by
  rcases current : c.noted.currentToken id secret s with ⟨o, s₁⟩
  obtain ⟨clock, exchange, signed⟩ := currentToken_signed current
  refine ⟨clock, exchange, o, s₁, signed, ?_⟩
  have credentials : c.noted.credentials s = (o.map .bearer, s₁) := by
    unfold credentials
    rw [show c.noted.auth = .serviceAccount id secret from auth]
    dsimp only
    rw [Action.map_apply, current]
  cases o with
  | error f => exact Action.bind_of_error credentials
  | ok token =>
    dsimp only
    unfold receive
    rw [Action.bind_of_ok credentials]
    dsimp only
    rw [← bearing]
    cases made : bearing token r with
    | error fault =>
      refine ⟨[], _, s₁.world.1, .unmade, ?_⟩
      rw [Session.sent_nil]
      rfl
    | ok r' =>
      obtain ⟨hops, outcome, world, trail, fetched⟩ := c.fetch_trail r' s₁
      exact ⟨hops, outcome, world, .sent trail, fetched⟩

namespace Signed

variable {past : List Turn} {clock : Option Nat} {exchange : Option Exchange}
  {o : Except Failure Secret}

theorem notes (signed : c.Signed id secret s clock exchange o s') : s'.world.2 = s.world.2 ++
    (clock.toList.map .read ++ exchange.toList.flatMap Exchange.notes) := by
  cases signed with
  | first _ exchanged => simp [exchanged.notes]
  | kept => simp [Session.timed]
  | due _ _ exchanged => simp [exchanged.notes, Session.timed]

theorem issued (signed : c.Signed id secret s clock exchange o s') :
    s'.issued = ((exchange.bind Exchange.gain?).map Issue.kept).or s.issued := by
  have taken {s : Session (σ × List Note)} {e : Exchange}
      (exchanged : c.Exchanged id secret s e o s') :
      s'.issued = (e.gain?.map Issue.kept).or s.issued := by
    cases gain : e.gain? with
    | none => exact (exchanged.failed gain).2
    | some i => exact (exchanged.gained i gain).2
  cases signed with
  | first _ exchanged => exact taken exchanged
  | kept => rfl
  | due _ _ exchanged => exact (taken exchanged :)

theorem asks (signed : c.Signed id secret s clock exchange o s') : ∀ e, exchange = some e →
    Delivery (c.tokenRequest id secret) e.hops e.outcome ∧ Exchange.Ends e.outcome e.issue := by
  intro e asked
  cases signed with
  | first _ exchanged => cases asked; exact ⟨exchanged.delivery, exchanged.ends⟩
  | kept => cases asked
  | due _ _ exchanged => cases asked; exact ⟨exchanged.delivery, exchanged.ends⟩

theorem failed (signed : c.Signed id secret s clock exchange o s') :
    (∃ e, exchange = some e ∧ e.gain? = none) → ∃ f, o = .error f := by
  rintro ⟨e, asked, vain⟩
  cases signed with
  | first _ exchanged => cases asked; exact (exchanged.failed vain).1
  | kept => cases asked
  | due _ _ exchanged => cases asked; exact (exchanged.failed vain).1

/-- Without a failure the token is the one that was issued last. -/
theorem token (signed : c.Signed id secret s clock exchange o s') (stands : Stands past s.issued) :
    ¬ (∃ e, exchange = some e ∧ e.gain? = none) →
      ∃ i, (exchange.bind Exchange.gain?).or (lastIssue? past) = some i ∧ o = .ok i.token := by
  intro unfailed
  have taken {s : Session (σ × List Note)} {e : Exchange} (asked : exchange = some e)
      (exchanged : c.Exchanged id secret s e o s') :
      ∃ i, (exchange.bind Exchange.gain?).or (lastIssue? past) = some i ∧ o = .ok i.token := by
    cases gain : e.gain? with
    | none => exact absurd ⟨e, asked, gain⟩ unfailed
    | some i => exact ⟨i, by simp [asked, gain], (exchanged.gained i gain).1⟩
  cases signed with
  | first _ exchanged => exact taken rfl exchanged
  | kept issued =>
    obtain ⟨i, last, rfl⟩ := stands.kept _ issued
    exact ⟨i, last, rfl⟩
  | due _ _ exchanged => exact taken rfl exchanged

theorem clock_iff (signed : c.Signed id secret s clock exchange o s')
    (stands : Stands past s.issued) :
    clock.isSome ↔ lastIssue? past ≠ none ∧ ¬ RefusedSince past := by
  rw [ne_eq, ← not_or, ← stands.absent]
  cases signed with
  | first absent => simp [absent]
  | kept issued | due issued => simp [issued]

theorem exchange_iff (signed : c.Signed id secret s clock exchange o s')
    (stands : Stands past s.issued) :
    exchange.isSome ↔ lastIssue? past = none ∨ RefusedSince past ∨
      ∃ i now, lastIssue? past = some i ∧ clock = some now ∧ i.due ≤ now := by
  rw [← or_assoc, ← stands.absent]
  cases signed with
  | first absent => simp [absent]
  | kept issued inTime =>
    obtain ⟨i, last, rfl⟩ := stands.kept _ issued
    simp only [issued, last, Option.isSome_none, Bool.false_eq_true, reduceCtorEq, false_or,
      false_iff, Option.some.injEq]
    rintro ⟨_, _, rfl, rfl, late⟩
    exact Nat.not_le_of_lt inTime late
  | due issued late =>
    obtain ⟨i, last, rfl⟩ := stands.kept _ issued
    exact iff_of_true rfl (.inr ⟨i, _, last, rfl, late⟩)

end Signed

/-- All messages of a request with a token have that or nothing. -/
theorem bears {token : Secret} {r : Except Http.Fault Request} {hops : List (Request × Reply)}
    {outcome : Except ApiError Response} (plain : ∀ r', r = .ok r' → r'.authorization = [])
    (delivery : Delivery (bearing token r) hops outcome) :
    (∀ hop ∈ hops.head?, hop.1.authorization = ["Bearer " ++ token.expose]) ∧
      ∀ hop ∈ hops, (hop.1.authorization = ["Bearer " ++ token.expose] ∨
        hop.1.authorization = []) ∧ hop.1.accept = versionedJson := by
  generalize made : bearing token r = borne at delivery
  cases delivery with
  | unmade => simp
  | sent trail =>
    obtain ⟨r₀, rfl, rfl⟩ := bearing_eq_ok made
    have authorization := plain r₀ rfl
    constructor
    · intro hop mem
      have head := trail.head
      rw [show hops.head? = some hop from mem] at head
      split at head
      · rw [show hop.1 = _ from Option.some.inj head]
        simp [leaving, authorization, bearerAuthorization]
      · cases head
    · have keeps := trail.keeps
      rwa [authorization] at keeps

/-- A request is a lawful turn. -/
theorem send_turn {past : List Turn} {reader : Json.Reader α} {r : Except Http.Fault Request}
    {o : Except Failure α} (auth : c.auth = .serviceAccount id secret)
    (plain : ∀ r', r = .ok r' → r'.authorization = []) (stands : Stands past s.issued)
    (h : c.noted.send reader r s = (o, s')) :
    ∃ t : Turn, t.request = r ∧ s'.world.2 = s.world.2 ++ t.notes ∧ c.Lawful id secret past t ∧
      Stands (past ++ [t]) s'.issued ∧
      o = t.outcome.bind fun response => (verdict reader response).mapError .error := by
  obtain ⟨clock, exchange, token, s₁, signed, received⟩ := receive_signed (s := s) auth r
  cases token with
  | error f =>
    rw [send_failed received] at h
    obtain ⟨rfl, rfl⟩ := Prod.mk.inj h
    let t : Turn := ⟨r, clock, exchange, [], .error f⟩
    refine ⟨t, rfl, by simp [signed.notes, Turn.notes, t, Note.ofHops], ?_, ?_, rfl⟩
    · exact {
        clock_iff := signed.clock_iff stands
        exchange_iff := signed.exchange_iff stands
        asks := signed.asks
        failed := fun failed => ⟨rfl, ⟨f, rfl⟩, Turn.HasFailed.lastIssue? failed past,
          Turn.HasFailed.refusedSince failed past (Turn.not_isRefused rfl)⟩
        sends := fun unfailed => by
          obtain ⟨_, _, got⟩ := signed.token stands unfailed
          cases got }
    · exact stands.turn t (absurd · (Turn.not_isRefused rfl)) fun _ => signed.issued
  | ok token =>
    obtain ⟨hops, outcome, world, delivery, received⟩ := received
    let t : Turn := ⟨r, clock, exchange, hops, outcome.mapError .error⟩
    have lawful : c.Lawful id secret past t := {
      clock_iff := signed.clock_iff stands
      exchange_iff := signed.exchange_iff stands
      asks := signed.asks
      failed := fun failed => by
        obtain ⟨_, got⟩ := signed.failed failed
        cases got
      sends := fun unfailed => by
        obtain ⟨i, last, got⟩ := signed.token stands unfailed
        cases got
        exact ⟨i, (lastIssue?_append past t).trans last, ⟨outcome, delivery, rfl⟩,
          bears plain delivery⟩ }
    have notes : (s₁.sent world hops).world.2 = s.world.2 ++ t.notes := by
      simp [Session.sent, signed.notes, Turn.notes, t]
    cases outcome with
    | error e =>
      rw [send_failed received] at h
      obtain ⟨rfl, rfl⟩ := Prod.mk.inj h
      exact ⟨t, rfl, notes, lawful,
        stands.turn t (absurd · (Turn.not_isRefused rfl)) fun _ => signed.issued, rfl⟩
    | ok response =>
      rw [send_received received] at h
      obtain ⟨rfl, rfl⟩ := Prod.mk.inj h
      refine ⟨t, rfl, by rw [Session.after_world, notes], lawful, stands.turn t ?_ ?_, rfl⟩
      · rintro ⟨_, got, status⟩
        cases got
        simp [Session.after, status]
      · intro unrefused
        have status : response.status ≠ 401 := fun status => unrefused ⟨response, rfl, status⟩
        rw [Session.after, if_neg status]
        exact signed.issued

end Client
end ClusterAccess.Api
