import ClusterAccess.Proofs.Api.Messages
import ClusterAccess.Proofs.Digest.Answer

/-!
# Requests that answer a challenge

A client with a key sends each request without authorization. If the server answers with a
challenge, the client sends the same request once more, with the answer.

## Main definitions

* `Client.challenge?`: the challenge of a response.
* `Client.attempt`: what a challenge is answered for.
* `Client.Challenged`: how a request goes on after a challenge.
* `Client.Replayed`: how a request can go, message by message.
* `Round`: the messages of a request, and what comes of them.

## Main statements

* `Client.receive_replayed`: a request goes in one of these ways.
* `Client.digest_law`: so does every request of a call.
-/
namespace ClusterAccess.Api

open Http

variable {σ α : Type}

namespace Client

/-- The challenge of a response, if there is one that can be read. -/
def challenge? (response : Response) : Option Digest.Challenge :=
  ((response.header? "www-authenticate").filter isReadable).bind fun header =>
    (Digest.Challenge.parse header).toOption

/-- What a challenge is answered for: the request as it is sent. -/
def attempt (username : String) (password : Secret) (r : Request) (clientNonce : String) :
    Digest.Attempt :=
  { username, password := password.expose, method := r.method.name, uri := r.url.target,
    body := r.body.map fun body => Text.utf8Bytes body.text, clientNonce }

/-- How a request can go, with its messages, what comes of them, and the world after that. -/
inductive Replayed (c : Client σ) (username : String) (password : Secret) (w : σ) :
    Except Http.Fault Request → List (Request × Reply) → Except ApiError Response → σ → Prop
  | unmade {fault : Http.Fault} :
      Replayed c username password w (.error fault) [] (.error (ofHttp fault)) w
  | unusable {r : Request} (unusable : isWeb r.url = false) :
      Replayed c username password w (.ok r) [] (.error (ofHttp (.unusableUrl r.url))) w
  | lost {r : Request} {reply : Reply} {w' : σ} (usable : isWeb r.url = true)
      (answer : c.web.answer c.proxy r w = (reply, w'))
      (lost : ∀ response, reply ≠ .response response) :
      Replayed c username password w (.ok r) [(r, reply)] (.error (ofHttp (.noAnswer r.url))) w'
  | accepted {r : Request} {first : Response} {w' : σ} (usable : isWeb r.url = true)
      (answer : c.web.answer c.proxy r w = (.response first, w')) (status : first.status ≠ 401) :
      Replayed c username password w (.ok r) [(r, .response first)] (.ok first) w'
  | unanswered {r : Request} {first : Response} {w₁ w' : σ} {message : String}
      (usable : isWeb r.url = true) (answer : c.web.answer c.proxy r w = (.response first, w₁))
      (status : first.status = 401)
      (vain : ∀ challenge, challenge? first = some challenge → isHeaderText
        (challenge.answer (attempt username password r (c.web.nonce w₁).1)).render = false) :
      Replayed c username password w (.ok r) [(r, .response first)] (.error (.auth message)) w'
  | answered {r : Request} {first : Response} {challenge : Digest.Challenge} {header : String}
      {fields : List (String × String)} {second : Reply} {w₁ w' : σ} (usable : isWeb r.url = true)
      (answer : c.web.answer c.proxy r w = (.response first, w₁)) (status : first.status = 401)
      (challenged : challenge? first = some challenge)
      (written : header =
        (challenge.answer (attempt username password r (c.web.nonce w₁).1)).render)
      (writable : isHeaderText header = true) (read : Digest.fields? header = some fields)
      (proves : challenge.Proves (attempt username password r (c.web.nonce w₁).1) fields)
      (again : c.web.answer c.proxy { r with authorization := [header] } (c.web.nonce w₁).2 =
        (second, w')) :
      Replayed c username password w (.ok r)
        [(r, .response first), ({ r with authorization := [header] }, second)]
        (outcomeOf r.url second) w'

variable {c : Client σ} {username : String} {password : Secret} {s : Session σ}

/-- How a request goes on after status 401: it ends, or it is sent once more with an answer. -/
inductive Challenged (c : Client σ) (username : String) (password : Secret) (r : Request)
    (first : Response) (s : Session σ) : Except Failure Response × Session σ → Prop
  | vain {message : String} {world : σ} (vain : ∀ challenge, challenge? first = some challenge →
      isHeaderText (digestAuthorization challenge username password (c.web.nonce s.world).1 r) =
        false) :
      Challenged c username password r first s
        (.error (.error (.auth message)), { s with world })
  | answered {challenge : Digest.Challenge} {header : String}
      (challenged : challenge? first = some challenge)
      (written : header =
        digestAuthorization challenge username password (c.web.nonce s.world).1 r)
      (writable : isHeaderText header = true) :
      Challenged c username password r first s
        (c.fetch { r with authorization := [header] } { s with world := (c.web.nonce s.world).2 })

theorem fetchWithDigest_challenged {r : Request} {first : Response} {s₁ : Session σ}
    (fetched : c.fetch r s = (.ok first, s₁)) (status : first.status = 401) :
    c.Challenged username password r first s₁ (c.fetchWithDigest username password r s) := by
  unfold fetchWithDigest
  rw [Action.bind_of_ok fetched, if_neg (not_not_intro status)]
  cases found : (first.header? "www-authenticate").filter isReadable with
  | none => exact .vain (by simp [challenge?, found])
  | some value =>
    dsimp only
    cases parsed : Digest.Challenge.parse value with
    | error fault => exact .vain (by simp [challenge?, found, parsed, Except.toOption])
    | ok challenge =>
      have challenged : challenge? first = some challenge := by
        simp [challenge?, found, parsed, Except.toOption]
      have lifted : Action.lift c.web.nonce s₁ =
          (.ok (c.web.nonce s₁.world).1, { s₁ with world := (c.web.nonce s₁.world).2 }) := rfl
      dsimp only
      rw [Action.bind_of_ok lifted]
      split
      next writable => exact .answered challenged rfl writable
      next unwritable =>
        refine .vain fun other same => ?_
        cases same.symm.trans challenged
        simpa using unwritable

/-- After status 401, a challenge that can be answered is answered. -/
theorem answerChallenge_replayed (direct : c.NeverRedirected) {r : Request} {first : Response}
    {w₁ : σ} (usable : isWeb r.url = true)
    (answer : c.web.answer c.proxy r s.world = (.response first, w₁))
    (status : first.status = 401) :
    ∃ messages outcome w', c.Replayed username password s.world (.ok r) messages outcome w' ∧
      c.fetchWithDigest username password r s = (outcome.mapError .error,
        { s with world := w', exchanges := s.exchanges ++ messages }) := by
  have fetched := fetch_direct usable answer fun response same =>
    direct r s.world response (by rw [answer, same])
  generalize result : c.fetchWithDigest username password r s = o
  cases result ▸ fetchWithDigest_challenged fetched status with
  | vain vain => exact ⟨_, _, _, .unanswered usable answer status vain, rfl⟩
  | @answered challenge header challenged written writable =>
    obtain ⟨fields, read, proves⟩ :=
      challenge.answer_proves (attempt username password r (c.web.nonce w₁).1)
    let next : Request := { r with authorization := [header] }
    rcases again : c.web.answer c.proxy next (c.web.nonce w₁).2 with ⟨second, w'⟩
    have fetched' := fetch_direct (r := next)
      (s := { s.exchanged w₁ r (.response first) with world := (c.web.nonce w₁).2 }) usable again
      fun response replied => direct next _ response (by rw [again, replied])
    refine ⟨_, _, _, .answered usable answer status challenged written writable
      (written ▸ read) proves again, ?_⟩
    refine fetched'.trans ?_
    simp [Session.exchanged, next]

theorem fetchWithDigest_replayed (direct : c.NeverRedirected) (r : Request) :
    ∃ messages outcome w', c.Replayed username password s.world (.ok r) messages outcome w' ∧
      c.fetchWithDigest username password r s = (outcome.mapError .error,
        { s with world := w', exchanges := s.exchanges ++ messages }) := by
  cases usable : isWeb r.url with
  | false =>
    have fetched : c.fetch r s = (.error (.error (ofHttp (.unusableUrl r.url))), s) := by
      unfold fetch Web.fetch
      rw [Web.fetchFrom_unusable usable]
      rfl
    refine ⟨[], _, s.world, .unusable usable, ?_⟩
    rw [fetchWithDigest, Action.bind_of_error fetched, List.append_nil]
    rfl
  | true =>
    rcases answer : c.web.answer c.proxy r s.world with ⟨reply, w₁⟩
    have fetched := fetch_direct usable answer fun response same =>
      direct r s.world response (by rw [answer, same])
    cases reply with
    | closed | unreachable =>
      refine ⟨_, _, w₁, .lost usable answer (by simp), ?_⟩
      rw [fetchWithDigest, Action.bind_of_error fetched]
      rfl
    | response first =>
      by_cases status : first.status = 401
      · exact answerChallenge_replayed direct usable answer status
      · refine ⟨_, _, w₁, .accepted usable answer status, ?_⟩
        rw [fetchWithDigest, Action.bind_of_ok fetched, if_pos status]
        rfl

theorem receive_replayed (auth : c.auth = .apiKey username password) (direct : c.NeverRedirected)
    (r : Except Http.Fault Request) : ∃ messages outcome w',
      c.Replayed username password s.world (r.map fun r => { r with accept := versionedJson })
        messages outcome w' ∧
      c.receive r s = (outcome.mapError .error,
        { s with world := w', exchanges := s.exchanges ++ messages }) := by
  rw [receive_digest auth]
  cases r with
  | error fault => exact ⟨[], _, s.world, .unmade, by rw [List.append_nil]; rfl⟩
  | ok r => exact fetchWithDigest_replayed direct _

end Client

/-! ## Calls -/

/-- The messages of a request, and what comes of them. -/
structure Round where
  messages : List (Request × Reply)
  outcome : Except ApiError Response

/-- What the interface says in the end. -/
def Round.result (reader : Json.Reader α) (round : Round) : Except Failure α :=
  (round.outcome.bind (verdict reader)).mapError .error

/-- Why there are no more requests: nothing more is needed, or the last one failed. -/
def Stop (reader : Json.Reader α) (rounds : List Round) (pieces : List α) : Option Failure → Prop
  | none => rounds.map (·.result reader) = pieces.map .ok
  | some f => rounds.getLast?.map (·.result reader) = some (.error f) ∨ f = .overflow

/-- What a call makes of its requests. -/
inductive Call.Concludes (call : Call) (rounds : List Round) : Except Failure Answer → Prop
  | done {pieces : List call.Piece} {answer : Answer} (stop : Stop call.reader rounds pieces none)
      (yields : call.Yields pieces answer) : Concludes call rounds (.ok answer)
  | failed {pieces : List call.Piece} {f : Failure}
      (stop : Stop call.reader rounds pieces (some f)) : Concludes call rounds (.error f)

namespace Client

variable {c : Client σ} {username : String} {password : Secret} {s s' : Session σ}

/-- A request, made in some world. -/
def Replays (c : Client σ) (username : String) (password : Secret)
    (r : Except Http.Fault Request) (round : Round) : Prop :=
  ∃ w w', c.Replayed username password w (r.map fun r => { r with accept := versionedJson })
    round.messages round.outcome w'

theorem send_replays {o : Except Failure α} {reader : Json.Reader α} {r : Except Http.Fault Request}
    (auth : c.auth = .apiKey username password) (direct : c.NeverRedirected)
    (h : c.send reader r s = (o, s')) :
    ∃ round, c.Replays username password r round ∧
      s'.exchanges = s.exchanges ++ round.messages ∧ o = round.result reader := by
  obtain ⟨messages, outcome, w', replayed, received⟩ := receive_replayed (s := s) auth direct r
  refine ⟨⟨messages, outcome⟩, ⟨_, w', replayed⟩, ?_⟩
  cases outcome with
  | error e =>
    rw [send_failed received] at h
    obtain ⟨rfl, rfl⟩ := Prod.mk.inj h
    exact ⟨rfl, rfl⟩
  | ok response =>
    rw [send_received received] at h
    obtain ⟨rfl, rfl⟩ := Prod.mk.inj h
    exact ⟨Session.after_exchanges _ _, rfl⟩

theorem Course.rounds {call : Call} {url : Url} {n : Nat} {pieces : List call.Piece}
    {f : Option Failure} (auth : c.auth = .apiKey username password) (direct : c.NeverRedirected)
    (course : c.Course call url n s pieces f s') :
    ∃ rounds : List Round, rounds ≠ [] ∧
      s'.exchanges = s.exchanges ++ rounds.flatMap (·.messages) ∧
      (∀ k round, rounds[k]? = some round →
        c.Replays username password (call.request url (n + k)) round) ∧
      Stop call.reader rounds pieces f := by
  have single {n : Nat} {round : Round}
      (replays : c.Replays username password (call.request url n) round) (k : Nat) (round' : Round)
      (at_ : [round][k]? = some round') :
      c.Replays username password (call.request url (n + k)) round' := by
    cases k with
    | zero => cases at_; exact replays
    | succ k => cases at_
  induction course with
  | failed send =>
    obtain ⟨round, replays, exchanges, result⟩ := send_replays auth direct send
    exact ⟨[round], by simp, by simpa using exchanges, single replays, .inl (by simp [← result])⟩
  | ended send =>
    obtain ⟨round, replays, exchanges, result⟩ := send_replays auth direct send
    exact ⟨[round], by simp, by simpa using exchanges, single replays, by simp [Stop, ← result]⟩
  | uncounted send =>
    obtain ⟨round, replays, exchanges, result⟩ := send_replays auth direct send
    exact ⟨[round], by simp, by simpa using exchanges, single replays, .inr rfl⟩
  | @next n _ _ _ _ _ f send rest ih =>
    obtain ⟨round, replays, exchanges, result⟩ := send_replays auth direct send
    obtain ⟨rounds, some, exchanges', later, ends⟩ := ih
    refine ⟨round :: rounds, by simp, by simp [exchanges', exchanges], fun k round' at_ => ?_, ?_⟩
    · cases k with
      | zero => cases at_; exact replays
      | succ k => exact Nat.add_right_comm n 1 k ▸ later k round' at_
    · cases f with
      | none => simpa [Stop, ← result] using ends
      | some f => rwa [Stop, List.getLast?_cons_of_ne_nil some]

/-- How a call goes, request by request. -/
structure Made (c : Client σ) (username : String) (password : Secret) (call : Call)
    (s : Session σ) (o : Except Failure Answer) (s' : Session σ) (url : Url) (rounds : List Round) :
    Prop where
  place : c.endpoint call.segments = .ok url
  some : rounds ≠ []
  exchanges : s'.exchanges = s.exchanges ++ rounds.flatMap (·.messages)
  /-- At first nobody signs in. -/
  unsigned : ∀ n r, call.request url n = .ok r → r.authorization = []
  replays : ∀ n round, rounds[n]? = .some round →
    c.Replays username password (call.request url n) round
  concludes : call.Concludes rounds o

/-- Every request of a call goes out without authorization, and once more with the answer to a
challenge if there is one that can be answered; the call is concluded from the last responses. -/
theorem digest_law (auth : c.auth = .apiKey username password) (user : userOf? c.base = none)
    (direct : c.NeverRedirected) (call : Call) (s : Session σ) :
    (∃ e, c.endpoint call.segments = .error e ∧ c.perform call s = (.error (.error e), s)) ∨
      ∃ url rounds,
        c.Made username password call s (c.perform call s).1 (c.perform call s).2 url rounds := by
  rcases performed : c.perform call s with ⟨o, s'⟩
  have made {url : Url} {pieces : List call.Piece} {f : Option Failure}
      (place : c.endpoint call.segments = .ok url) (course : c.Course call url 0 s pieces f s')
      (concludes : ∀ rounds, Stop call.reader rounds pieces f → call.Concludes rounds o) :
      ∃ url rounds, c.Made username password call s o s' url rounds := by
    obtain ⟨rounds, some, exchanges, replays, stop⟩ := course.rounds auth direct
    exact ⟨url, rounds, place, some, exchanges, fun n r => request_unsigned user place,
      fun n round at_ => Nat.zero_add n ▸ replays n round at_, concludes rounds stop⟩
  cases perform_performed performed with
  | misplaced place => exact .inl ⟨_, place, rfl⟩
  | failed place course => exact .inr (made place course fun _ => .failed)
  | done place course yields => exact .inr (made place course fun _ stop => .done stop yields)

/-- A client that is asked for a digest by a server that has nothing. -/
def challenged (scheme challenge : String) : Client Unit where
  web :=
    { answer := fun _ r w => (.response (if r.authorization = [] then
          { status := 401, headers := [("WWW-Authenticate", challenge)] }
        else { status := 404 }), w)
      clock := fun w => (0, w)
      nonce := fun w => ("c", w) }
  auth := .apiKey "public" ⟨"private"⟩
  base := { scheme, host := some (.domain "host"), path := .segments [""] }
  tokenUrl := { scheme, host := some (.domain "host"), path := .segments ["token"] }
  proxy := none

theorem challenged_neverRedirected (scheme challenge : String) :
    (challenged scheme challenge).NeverRedirected := by
  have name : ("WWW-Authenticate".toLower == "location") = false := by decide +kernel
  intro r w response answer
  have replied : Reply.response (if r.authorization = [] then
      { status := 401, headers := [("WWW-Authenticate", challenge)] }
    else { status := 404 }) = .response response := answer
  cases replied
  refine redirected?_of_unlocated ?_
  split <;> simp [Response.header?, name]

/-- A request that is answered once and asked for again. -/
theorem digest_law_challenged :
    (challenged "https" "Digest realm=\"r\", nonce=\"n\", qop=\"auth\"").NeverRedirected ∧
    ∃ o s' url rounds,
      (challenged "https" "Digest realm=\"r\", nonce=\"n\", qop=\"auth\"").Made "public" ⟨"private"⟩
        (.lookUp "p" "c") { world := () } o s' url rounds ∧ s'.exchanges.length = 2 := by
  have direct := challenged_neverRedirected "https" "Digest realm=\"r\", nonce=\"n\", qop=\"auth\""
  refine ⟨direct, ?_⟩
  rcases digest_law rfl (by decide +kernel) direct (.lookUp "p" "c") { world := () } with
    ⟨e, place, -⟩ | ⟨url, rounds, made⟩
  · have pushed : ((challenged "https" "Digest realm=\"r\", nonce=\"n\", qop=\"auth\"").endpoint
        (Call.lookUp "p" "c").segments).toOption.isSome = true := by decide +kernel
    rw [place] at pushed
    cases pushed
  · exact ⟨_, _, url, rounds, made, by decide +kernel⟩

/-- The fields of all headers that a client sends to look up a cluster. -/
def sentFields (c : Client Unit) : List (List (Option (List (String × String)))) :=
  (c.perform (.lookUp "p" "c") { world := () }).2.exchanges.map fun message =>
    message.1.authorization.map Digest.fields?

/-- Not every header has the user's name, and not every server can find out what was hashed: a
server may want the name to be hidden, or may want the client's nonce to be hashed but not to be
told. If the place is not on the web, nothing is sent at all. -/
theorem digest_exceptions :
    (sentFields (challenged "https" "Digest realm=\"r\", nonce=\"n\", userhash=true")).map
        (·.map (·.bind (Digest.lastValue? "username"))) =
      [[], [some "57db08e9ddfebfae74d5f4cf803bceb6"]] ∧
    (sentFields (challenged "https" "Digest realm=\"r\", nonce=\"n\", algorithm=MD5-sess")).map
        (·.map fun fields => (fields.bind (Digest.lastValue? "response"),
          fields.bind (Digest.expected? ⟨.md5, true⟩ "public" "private" "GET" []))) =
      [[], [(some "be7d31e50e8d577dda9519b76dce3d8d", none)]] ∧
    sentFields (challenged "ftp" "Digest realm=\"r\", nonce=\"n\"") = [] := by
  refine ⟨?_, ?_, ?_⟩ <;> decide +kernel

end Client
end ClusterAccess.Api
