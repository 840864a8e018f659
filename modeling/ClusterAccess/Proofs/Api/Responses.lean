import ClusterAccess.Command.Probe
import ClusterAccess.Proofs.Api.Lasting
import ClusterAccess.Proofs.Api.Notes
import ClusterAccess.Proofs.Api.Replay

/-!
# What is heard of a request

A request ends with a final response: after redirections, and signed in. If it has none, then it
was not sent or nothing came back; or there was no token for it, or no answer to a challenge.

## Main definitions

* `lastResponse?`, `Http.Response.IsRejection`: the last response of a call, and what rejects it.
* `Client.HasToken`, `Client.Tokenless`: what is heard when there is a token, and when there is
  none.
* `Client.Judged`, `Client.Unheard`: a final response, and why there is none.

## Main statements

* `Trail.lastResponse?_ok`, `Trail.lastResponse?_error`: the last response to a request.
* `Client.currentToken_heard`: there is a token, or a reason why not.
* `Client.receive_heard`: a request has a final response, or there is a reason why not.
-/
namespace ClusterAccess

namespace Http

/-- The response, if there is one. -/
def Reply.response? : Reply → Option Response
  | .response r => some r
  | _ => none

/-- The credentials are not accepted, or not sufficient. -/
def Response.IsRejection (r : Response) : Prop := r.status = 401 ∨ r.status = 403

instance (r : Response) : Decidable r.IsRejection := inferInstanceAs (Decidable (_ ∨ _))

end Http

namespace Api

open Http

variable {σ α : Type}

/-! ## The last response -/

/-- The last response among some messages. -/
def lastResponse? (messages : List (Request × Reply)) : Option Response :=
  (messages.filterMap fun message => message.2.response?).getLast?

section

variable {messages : List (Request × Reply)} {r : Request} {response : Response}

@[simp] theorem lastResponse?_nil : lastResponse? [] = none := rfl

theorem lastResponse?_append (messages more : List (Request × Reply)) :
    lastResponse? (messages ++ more) = (lastResponse? more).or (lastResponse? messages) := by
  simp [lastResponse?]

theorem lastResponse?_lost {reply : Reply} (lost : ∀ response, reply ≠ .response response) :
    lastResponse? [(r, reply)] = none := by
  cases reply with
  | response response => cases lost response rfl
  | closed => rfl
  | unreachable => rfl

theorem not_isRejection_of_success (success : isSuccess response.status = true) :
    ¬ response.IsRejection := by
  rintro (status | status) <;> rw [status] at success <;> cases success

/-- Redirections are no rejections. -/
theorem not_isRejection_of_redirected {next : Request} (h : r.redirected? response = some next) :
    ¬ response.IsRejection := by
  obtain ⟨url, ⟨status, -⟩ | ⟨status, -⟩⟩ := redirected?_eq_some h <;>
    rintro (rejected | rejected) <;> rw [rejected] at status <;> simp at status

end

namespace Trail

variable {first : Url} {foreign : Bool} {r : Request} {hops : List (Request × Reply)}

/-- A request ends with the last response. -/
theorem lastResponse?_ok {response : Response} (h : Trail first foreign r hops (.ok response)) :
    lastResponse? hops = some response := by
  generalize outcome : Except.ok response = o at h
  induction h with
  | unusable | lost | exhausted => cases outcome
  | answered => cases outcome; rfl
  | redirected usable elsewhere rest ih =>
    rw [← List.singleton_append, lastResponse?_append, ih outcome, Option.some_or]

/-- What was heard of a request that fails are redirections. -/
theorem lastResponse?_error {e : ApiError} (h : Trail first foreign r hops (.error e))
    {response : Response} (last : lastResponse? hops = some response) :
    ¬ response.IsRejection := by
  generalize outcome : Except.error e = o at h
  induction h with
  | unusable => cases last
  | lost usable lost => rw [lastResponse?_lost lost] at last; cases last
  | answered => cases outcome
  | exhausted usable elsewhere =>
    cases last
    exact not_isRejection_of_redirected elsewhere
  | @redirected foreign r next redirection hops o usable elsewhere rest ih =>
    rw [← List.singleton_append, lastResponse?_append, Option.or_eq_some_iff] at last
    rcases last with later | ⟨-, itself⟩
    · exact ih later outcome
    · cases itself
      exact not_isRejection_of_redirected elsewhere

/-- A request fails with a failure to get a response. -/
theorem error_eq {e : ApiError} (h : Trail first foreign r hops (.error e)) :
    ∃ fault, e = ofHttp fault := by
  generalize outcome : Except.error e = o at h
  induction h with
  | unusable | lost | exhausted => cases outcome; exact ⟨_, rfl⟩
  | answered => cases outcome
  | redirected usable elsewhere rest ih => exact ih outcome

end Trail

theorem Delivery.lastResponse?_ok {made : Except Http.Fault Request}
    {hops : List (Request × Reply)} {response : Response}
    (h : Delivery made hops (.ok response)) : lastResponse? hops = some response := by
  cases h with
  | sent trail => exact trail.lastResponse?_ok

theorem Delivery.lastResponse?_error {made : Except Http.Fault Request}
    {hops : List (Request × Reply)} {e : ApiError} (h : Delivery made hops (.error e))
    {response : Response} (last : lastResponse? hops = some response) :
    ¬ response.IsRejection := by
  cases h with
  | unmade => cases last
  | sent trail => exact trail.lastResponse?_error last

/-! ## Requests without notes -/

/-- The session after some messages, in another state of the world. -/
def Session.heard (s : Session σ) (world : σ) (messages : List (Request × Reply)) : Session σ :=
  { s with world, exchanges := s.exchanges ++ messages }

@[simp] theorem Session.heard_exchanges (s : Session σ) (world : σ)
    (messages : List (Request × Reply)) :
    (s.heard world messages).exchanges = s.exchanges ++ messages := rfl

/-- Nothing is sent. -/
def IsSilent (t : Action σ α) : Prop := t.Keeps fun s s' => s'.exchanges = s.exchanges

theorem silence_lasting : Lasting fun s s' : Session σ => s'.exchanges = s.exchanges :=
  ⟨fun _ => rfl, fun first later => later.trans first⟩

namespace Client

variable (c : Client σ)

/-- A request, and the messages that it takes. -/
theorem fetch_hops (r : Request) (s : Session σ) : ∃ hops outcome world,
    Trail r.url false r hops outcome ∧
      c.fetch r s = (outcome.mapError .error, s.heard world hops) := by
  let noted : Session (σ × List Note) :=
    { world := (s.world, []), issued := s.issued, exchanges := s.exchanges }
  obtain ⟨hops, outcome, world, trail, fetched⟩ := c.fetch_trail r noted
  refine ⟨hops, outcome, world, trail, ?_⟩
  have forgotten := c.fetch_forgets r noted
  rw [fetched] at forgotten
  exact forgotten

/-! ## Tokens -/

/-- What the clock shows in a session. -/
def now (s : Session σ) : Nat := (c.web.clock s.world).1

/-- The session after a look at the clock. -/
def later (s : Session σ) : Session σ := { s with world := (c.web.clock s.world).2 }

theorem lift_clock (s : Session σ) : Action.lift c.web.clock s = (.ok (c.now s), c.later s) := rfl

theorem tokenOf_silent (response : Response) : IsSilent (c.tokenOf response) := by
  unfold tokenOf
  refine .ite (silence_lasting.fail _) ?_
  cases Json.readBytes Token.reader response.body with
  | error => exact silence_lasting.fail _
  | ok answer =>
    refine silence_lasting.bind (fun _ => rfl) fun now => ?_
    cases refreshTime? now answer.expiresIn with
    | none => exact fun _ => rfl
    | some refreshAt => exact silence_lasting.bind (fun _ => rfl) fun _ => silence_lasting.pure _

variable {c : Client σ} {r : Except Http.Fault Request} {id : String} {secret : Secret}
  {s : Session σ}

/-- What was heard before there is a token: nothing, or at last the response that grants it. -/
inductive HasToken (made : Except Http.Fault Request) : List (Request × Reply) → Prop
  | kept : HasToken made []
  | granted {hops : List (Request × Reply)} {response : Response}
      (delivery : Delivery made hops (.ok response)) (success : isSuccess response.status = true) :
      HasToken made hops

/-- Why there is no token: nothing was heard, or it is refused, unreadable, or cannot be kept. -/
inductive Tokenless (made : Except Http.Fault Request) (hops : List (Request × Reply)) :
    Failure → Prop
  | unheard {e : ApiError} (delivery : Delivery made hops (.error e)) :
      Tokenless made hops (.error e)
  | refused {response : Response} (delivery : Delivery made hops (.ok response))
      (failure : isSuccess response.status = false) :
      Tokenless made hops (.error (.auth s!"token endpoint returned HTTP {response.status}"))
  | unreadable {response : Response} {fault : Json.Fault}
      (delivery : Delivery made hops (.ok response)) (success : isSuccess response.status = true)
      (read : Json.readBytes Token.reader response.body = .error fault) :
      Tokenless made hops (.error (ofHttp .undecodable))
  | endless {response : Response} {answer : Token} (delivery : Delivery made hops (.ok response))
      (success : isSuccess response.status = true)
      (read : Json.readBytes Token.reader response.body = .ok answer) :
      Tokenless made hops .overflow

/-- What was heard, with a token or why there is none. -/
def TokenHeard (made : Except Http.Fault Request) (hops : List (Request × Reply)) :
    Except Failure Secret → Prop
  | .ok _ => HasToken made hops
  | .error f => Tokenless made hops f

theorem tokenOf_heard {made : Except Http.Fault Request} {hops : List (Request × Reply)}
    {response : Response} (delivery : Delivery made hops (.ok response)) :
    TokenHeard made hops (c.tokenOf response s).1 := by
  cases success : isSuccess response.status with
  | false =>
    rw [tokenOf, if_pos (by simp [success])]
    exact .refused delivery success
  | true =>
    cases read : Json.readBytes Token.reader response.body with
    | error fault =>
      rw [tokenOf, if_neg (by simp [success]), read]
      exact .unreadable delivery success read
    | ok answer =>
      rw [tokenOf, if_neg (by simp [success]), read]
      dsimp only
      rw [Action.bind_of_ok (c.lift_clock s)]
      cases refreshTime? (c.now s) answer.expiresIn with
      | none => exact .endless delivery success read
      | some refreshAt => exact .granted delivery success

theorem issueToken_heard (c : Client σ) (id : String) (secret : Secret) (s : Session σ) :
    ∃ hops, (c.issueToken id secret s).2.exchanges = s.exchanges ++ hops ∧
      TokenHeard (c.tokenRequest id secret) hops (c.issueToken id secret s).1 := by
  rw [issueToken_eq]
  cases made : c.tokenRequest id secret with
  | error fault => exact ⟨[], (List.append_nil _).symm, .unheard .unmade⟩
  | ok request =>
    obtain ⟨hops, outcome, world, trail, fetched⟩ := c.fetch_hops request s
    refine ⟨hops, ?_⟩
    rw [Action.ofExcept_ok, Action.bind_of_ok (Action.pure_apply _ _)]
    cases outcome with
    | error e =>
      rw [Action.bind_of_error fetched]
      exact ⟨rfl, .unheard (.sent trail)⟩
    | ok response =>
      rw [Action.bind_of_ok fetched]
      exact ⟨c.tokenOf_silent response _, tokenOf_heard (.sent trail)⟩

/-- There is a token, or a reason why not. -/
theorem currentToken_heard (c : Client σ) (id : String) (secret : Secret) (s : Session σ) :
    ∃ hops, (c.currentToken id secret s).2.exchanges = s.exchanges ++ hops ∧
      TokenHeard (c.tokenRequest id secret) hops (c.currentToken id secret s).1 := by
  unfold currentToken
  rw [Action.bind_of_ok (show Action.issued s = (.ok s.issued, s) from rfl)]
  cases s.issued with
  | none => exact c.issueToken_heard id secret s
  | some issued =>
    dsimp only
    rw [Action.bind_of_ok (c.lift_clock s)]
    split
    · exact ⟨[], (List.append_nil _).symm, .kept⟩
    · exact c.issueToken_heard id secret (c.later s)

/-! ## Requests -/

/-- The header with which a challenge is answered. -/
def Answers (username : String) (password : Secret) (r : Request) (first : Response)
    (header : String) : Prop :=
  ∃ challenge nonce, challenge? first = some challenge ∧
    header = digestAuthorization challenge username password nonce r ∧ isHeaderText header = true

/-- The last response is one to the request itself, signed in as the client can. -/
inductive Judged (c : Client σ) (r : Except Http.Fault Request) (response : Response) :
    List (Request × Reply) → Prop
  | bearer {token : Secret} {hops : List (Request × Reply)} (auth : c.auth = .bearer token)
      (delivery : Delivery (bearing token r) hops (.ok response)) : Judged c r response hops
  | issued {id : String} {secret token : Secret} {before hops : List (Request × Reply)}
      (auth : c.auth = .serviceAccount id secret)
      (delivery : Delivery (bearing token r) hops (.ok response)) :
      Judged c r response (before ++ hops)
  /-- The first attempt is enough. -/
  | unchallenged {username : String} {password : Secret} {unsigned : Request}
      {hops : List (Request × Reply)} (auth : c.auth = .apiKey username password)
      (made : r.map (fun r => { r with accept := versionedJson }) = .ok unsigned)
      (trail : Trail unsigned.url false unsigned hops (.ok response))
      (status : response.status ≠ 401) : Judged c r response hops
  | answered {username : String} {password : Secret} {unsigned : Request} {first : Response}
      {header : String} {hops again : List (Request × Reply)}
      (auth : c.auth = .apiKey username password)
      (made : r.map (fun r => { r with accept := versionedJson }) = .ok unsigned)
      (trail : Trail unsigned.url false unsigned hops (.ok first)) (status : first.status = 401)
      (answers : Answers username password unsigned first header)
      (trail' : Trail unsigned.url false { unsigned with authorization := [header] } again
        (.ok response)) : Judged c r response (hops ++ again)

/-- Why there is no final response to the signed request. -/
inductive Unheard (c : Client σ) (r : Except Http.Fault Request) :
    List (Request × Reply) → Failure → Prop
  | bearer {token : Secret} {hops : List (Request × Reply)} {e : ApiError}
      (auth : c.auth = .bearer token) (delivery : Delivery (bearing token r) hops (.error e)) :
      Unheard c r hops (.error e)
  | tokenless {id : String} {secret : Secret} {hops : List (Request × Reply)} {f : Failure}
      (auth : c.auth = .serviceAccount id secret)
      (tokenless : Tokenless (c.tokenRequest id secret) hops f) : Unheard c r hops f
  | issued {id : String} {secret token : Secret} {before hops : List (Request × Reply)}
      {e : ApiError} (auth : c.auth = .serviceAccount id secret)
      (hasToken : HasToken (c.tokenRequest id secret) before)
      (delivery : Delivery (bearing token r) hops (.error e)) :
      Unheard c r (before ++ hops) (.error e)
  | unsigned {username : String} {password : Secret} {hops : List (Request × Reply)}
      {e : ApiError} (auth : c.auth = .apiKey username password)
      (delivery : Delivery (r.map fun r => { r with accept := versionedJson }) hops (.error e)) :
      Unheard c r hops (.error e)
  /-- The request is challenged, and the challenge cannot be answered. -/
  | challenged {username : String} {password : Secret} {unsigned : Request} {first : Response}
      {hops : List (Request × Reply)} {message : String} (auth : c.auth = .apiKey username password)
      (made : r.map (fun r => { r with accept := versionedJson }) = .ok unsigned)
      (trail : Trail unsigned.url false unsigned hops (.ok first)) (status : first.status = 401)
      (vain : ∀ challenge, challenge? first = some challenge → ∃ nonce,
        isHeaderText (digestAuthorization challenge username password nonce unsigned) = false) :
      Unheard c r hops (.error (.auth message))
  | answered {username : String} {password : Secret} {unsigned : Request} {first : Response}
      {header : String} {hops again : List (Request × Reply)} {e : ApiError}
      (auth : c.auth = .apiKey username password)
      (made : r.map (fun r => { r with accept := versionedJson }) = .ok unsigned)
      (trail : Trail unsigned.url false unsigned hops (.ok first)) (status : first.status = 401)
      (answers : Answers username password unsigned first header)
      (trail' : Trail unsigned.url false { unsigned with authorization := [header] } again
        (.error e)) : Unheard c r (hops ++ again) (.error e)

/-- The messages of a request, with its final response or why there is none. -/
def Heard (c : Client σ) (r : Except Http.Fault Request) (messages : List (Request × Reply)) :
    Except Failure Response → Prop
  | .ok response => c.Judged r response messages
  | .error f => c.Unheard r messages f

theorem Judged.lastResponse?_eq {response : Response} {messages : List (Request × Reply)}
    (h : c.Judged r response messages) : lastResponse? messages = some response := by
  cases h with
  | bearer auth delivery => exact delivery.lastResponse?_ok
  | issued auth delivery => rw [lastResponse?_append, delivery.lastResponse?_ok, Option.some_or]
  | unchallenged auth made trail => exact trail.lastResponse?_ok
  | answered auth made trail status answers trail' =>
    rw [lastResponse?_append, trail'.lastResponse?_ok, Option.some_or]

/-- A failure without a final response is none of the interface. -/
theorem Unheard.status?_eq_none {messages : List (Request × Reply)} {e : ApiError}
    (h : c.Unheard r messages (.error e)) : e.status? = none := by
  have lost {first : Url} {foreign : Bool} {r : Request} {hops : List (Request × Reply)}
      {e : ApiError} (trail : Trail first foreign r hops (.error e)) : e.status? = none := by
    obtain ⟨fault, rfl⟩ := trail.error_eq
    rfl
  have unsent {made : Except Http.Fault Request} {hops : List (Request × Reply)} {e : ApiError}
      (delivery : Delivery made hops (.error e)) : e.status? = none := by
    cases delivery with
    | unmade => rfl
    | sent trail => exact lost trail
  cases h with
  | bearer _ delivery | issued _ _ delivery | unsigned _ delivery => exact unsent delivery
  | challenged => rfl
  | answered _ _ _ _ _ trail' => exact lost trail'
  | tokenless _ tokenless =>
    cases tokenless with
    | unheard delivery => exact unsent delivery
    | refused | unreadable => rfl

theorem receive_account {id : String} {secret : Secret} (auth : c.auth = .serviceAccount id secret)
    (r : Except Http.Fault Request) : c.receive r = c.currentToken id secret >>= fun token =>
      .ofExcept ofHttp (bearing token r) >>= c.fetch := by
  unfold receive credentials
  rw [auth]
  dsimp only
  rw [Action.bind_assoc]
  rfl

/-- The messages of a request with a token, and what becomes of it. -/
theorem bearing_hops (token : Secret) (r : Except Http.Fault Request) (s : Session σ) :
    ∃ hops outcome world, Delivery (bearing token r) hops outcome ∧
      (.ofExcept ofHttp (bearing token r) >>= c.fetch) s =
        (outcome.mapError .error, s.heard world hops) := by
  cases made : bearing token r with
  | error fault =>
    refine ⟨[], _, s.world, .unmade, ?_⟩
    simp only [Session.heard, List.append_nil]
    rfl
  | ok signed =>
    obtain ⟨hops, outcome, world, trail, fetched⟩ := c.fetch_hops signed s
    exact ⟨hops, outcome, world, .sent trail, fetched⟩

theorem fetchWithDigest_heard {username : String} {password : Secret} {unsigned : Request}
    (auth : c.auth = .apiKey username password)
    (made : r.map (fun r => { r with accept := versionedJson }) = .ok unsigned) (s : Session σ) :
    ∃ messages, (c.fetchWithDigest username password unsigned s).2.exchanges =
        s.exchanges ++ messages ∧
      c.Heard r messages (c.fetchWithDigest username password unsigned s).1 := by
  obtain ⟨hops, outcome, world, trail, fetched⟩ := c.fetch_hops unsigned s
  cases outcome with
  | error e =>
    rw [fetchWithDigest, Action.bind_of_error fetched]
    exact ⟨hops, rfl, .unsigned auth (made ▸ .sent trail)⟩
  | ok first =>
    by_cases status : first.status = 401
    · generalize result : c.fetchWithDigest username password unsigned s = o
      cases result ▸ fetchWithDigest_challenged fetched status with
      | vain vain =>
        exact ⟨hops, rfl, .challenged auth made trail status fun other same => ⟨_, vain other same⟩⟩
      | @answered challenge header challenged written writable =>
        obtain ⟨again, outcome, world', trail', fetched'⟩ := c.fetch_hops
          { unsigned with authorization := [header] }
          { s.heard world hops with world := (c.web.nonce (s.heard world hops).world).2 }
        have answers : Answers username password unsigned first header :=
          ⟨challenge, _, challenged, written, writable⟩
        rw [fetched']
        refine ⟨hops ++ again, by simp, ?_⟩
        cases outcome with
        | ok response => exact .answered auth made trail status answers trail'
        | error e => exact .answered auth made trail status answers trail'
    · rw [fetchWithDigest, Action.bind_of_ok fetched, if_pos status]
      exact ⟨hops, rfl, .unchallenged auth made trail status⟩

/-- A request has a final response, or there is a reason why not. -/
theorem receive_heard (c : Client σ) (r : Except Http.Fault Request) (s : Session σ) :
    ∃ messages, (c.receive r s).2.exchanges = s.exchanges ++ messages ∧
      c.Heard r messages (c.receive r s).1 := by
  cases auth : c.auth with
  | bearer token =>
    rw [receive_bearer auth]
    obtain ⟨hops, outcome, world, delivery, received⟩ := bearing_hops (c := c) token r s
    rw [received]
    cases outcome with
    | ok response => exact ⟨hops, rfl, .bearer auth delivery⟩
    | error e => exact ⟨hops, rfl, .bearer auth delivery⟩
  | serviceAccount id secret =>
    rw [receive_account auth]
    obtain ⟨before, exchanges, heard⟩ := c.currentToken_heard id secret s
    rcases granted : c.currentToken id secret s with ⟨f | token, s₁⟩ <;>
      rw [granted] at exchanges heard
    · rw [Action.bind_of_error granted]
      exact ⟨before, exchanges, .tokenless auth heard⟩
    · rw [Action.bind_of_ok granted]
      obtain ⟨hops, outcome, world, delivery, received⟩ := bearing_hops (c := c) token r s₁
      rw [received]
      refine ⟨before ++ hops, ?_, ?_⟩
      · rw [Session.heard_exchanges, exchanges, List.append_assoc]
      · cases outcome with
        | ok response => exact .issued auth delivery
        | error e => exact .issued auth heard delivery
  | apiKey username password =>
    rw [receive_digest auth]
    cases made : r.map fun r => { r with accept := versionedJson } with
    | error fault => exact ⟨[], (List.append_nil _).symm, .unsigned auth (made ▸ .unmade)⟩
    | ok unsigned => exact fetchWithDigest_heard auth made s

end Client
end Api
end ClusterAccess
