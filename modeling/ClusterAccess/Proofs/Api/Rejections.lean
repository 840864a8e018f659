import ClusterAccess.Proofs.Api.Responses

/-!
# Rejected credentials

The interface rejects a request with status 401 or 403. If that is its answer to the request itself,
callers of the control plane are told so. If there was no token for the request, or no answer to a
challenge, they are told that signing in failed, but the status is lost on the way.

## Main definitions

* `Client.Unjudged`: a rejection that is not a final response.
* `Client.Reports`: what a call to the control plane tells of a rejection.

## Main statements

* `Client.receive_rejected`: how a request is rejected.
* `Command.services_report`: what comes of that.
-/
namespace ClusterAccess

namespace Api

open Http

variable {σ α : Type}

namespace Client

/-! ## Requests -/

variable {c : Client σ}

/-- The last response is a rejection, but not of the signed request: there is no token for it, or
the challenge cannot be answered, or nothing more is heard after the answer. -/
inductive Unjudged (c : Client σ) (r : Except Http.Fault Request) (response : Response) :
    List (Request × Reply) → ApiError → Prop
  | token {id : String} {secret : Secret} {hops : List (Request × Reply)}
      (auth : c.auth = .serviceAccount id secret)
      (delivery : Delivery (c.tokenRequest id secret) hops (.ok response)) :
      Unjudged c r response hops (.auth s!"token endpoint returned HTTP {response.status}")
  | challenge {username : String} {password : Secret} {unsigned : Request}
      {hops : List (Request × Reply)} {message : String} (auth : c.auth = .apiKey username password)
      (made : r.map (fun r => { r with accept := versionedJson }) = .ok unsigned)
      (trail : Trail unsigned.url false unsigned hops (.ok response))
      (status : response.status = 401) (vain : ∀ challenge, challenge? response = some challenge →
        ∃ nonce, isHeaderText (digestAuthorization challenge username password nonce unsigned) =
          false) : Unjudged c r response hops (.auth message)
  | lost {username : String} {password : Secret} {unsigned : Request} {header : String}
      {hops again : List (Request × Reply)} {fault : Http.Fault}
      (auth : c.auth = .apiKey username password)
      (made : r.map (fun r => { r with accept := versionedJson }) = .ok unsigned)
      (trail : Trail unsigned.url false unsigned hops (.ok response))
      (status : response.status = 401)
      (answers : Answers username password unsigned response header)
      (trail' : Trail unsigned.url false { unsigned with authorization := [header] } again
        (.error (ofHttp fault))) (unheard : lastResponse? again = none) :
      Unjudged c r response (hops ++ again) (ofHttp fault)

/-- A rejection at the end of some messages, with what becomes of the request. -/
def Rejected (c : Client σ) (r : Except Http.Fault Request) (messages : List (Request × Reply))
    (outcome : Except Failure Response) : Prop :=
  ∀ response, lastResponse? messages = some response → response.IsRejection →
    c.Judged r response messages ∧ outcome = .ok response ∨
    ∃ e, c.Unjudged r response messages e ∧ outcome = .error (.error e)

/-- Without a final response, a rejection is one of the token request, or a challenge. -/
theorem Unheard.rejected {r : Except Http.Fault Request} {messages : List (Request × Reply)}
    {f : Failure} (h : c.Unheard r messages f) {response : Response}
    (last : lastResponse? messages = some response) (rejection : response.IsRejection) :
    ∃ e, c.Unjudged r response messages e ∧ f = .error e := by
  cases h with
  | bearer auth delivery | unsigned auth delivery =>
    exact absurd rejection (delivery.lastResponse?_error last)
  | tokenless auth tokenless =>
    cases tokenless with
    | unheard delivery => exact absurd rejection (delivery.lastResponse?_error last)
    | refused delivery =>
      cases last.symm.trans delivery.lastResponse?_ok
      exact ⟨_, .token auth delivery, rfl⟩
    | unreadable delivery success | endless delivery success =>
      cases last.symm.trans delivery.lastResponse?_ok
      exact absurd rejection (not_isRejection_of_success success)
  | issued auth hasToken delivery =>
    rw [lastResponse?_append, Option.or_eq_some_iff] at last
    rcases last with later | ⟨-, earlier⟩
    · exact absurd rejection (delivery.lastResponse?_error later)
    -- Nothing was heard of the request itself, so that this is the response with the token.
    · cases hasToken with
      | kept => cases earlier
      | granted granted success =>
        cases earlier.symm.trans granted.lastResponse?_ok
        exact absurd rejection (not_isRejection_of_success success)
  | challenged auth made trail status vain =>
    cases last.symm.trans trail.lastResponse?_ok
    exact ⟨_, .challenge auth made trail status vain, rfl⟩
  | @answered username password unsigned first header hops again e auth made trail status answers
      trail' =>
    rw [lastResponse?_append, Option.or_eq_some_iff] at last
    rcases last with later | ⟨silent, earlier⟩
    · exact absurd rejection (trail'.lastResponse?_error later)
    · cases earlier.symm.trans trail.lastResponse?_ok
      obtain ⟨fault, rfl⟩ := trail'.error_eq
      exact ⟨_, .lost auth made trail status answers trail' silent, rfl⟩

theorem Heard.rejected {r : Except Http.Fault Request} {messages : List (Request × Reply)}
    {outcome : Except Failure Response} (h : c.Heard r messages outcome) :
    c.Rejected r messages outcome := by
  intro response last rejection
  cases outcome with
  | ok answer =>
    have judged : c.Judged r answer messages := h
    cases last.symm.trans judged.lastResponse?_eq
    exact .inl ⟨judged, rfl⟩
  | error f =>
    have unheard : c.Unheard r messages f := h
    obtain ⟨e, unjudged, rfl⟩ := unheard.rejected last rejection
    exact .inr ⟨e, unjudged, rfl⟩

/-- How a request ends if the last thing heard of it is a rejection. -/
theorem receive_rejected (c : Client σ) (r : Except Http.Fault Request) (s : Session σ) :
    ∃ messages, (c.receive r s).2.exchanges = s.exchanges ++ messages ∧
      c.Rejected r messages (c.receive r s).1 := by
  obtain ⟨messages, exchanges, heard⟩ := c.receive_heard r s
  exact ⟨messages, exchanges, heard.rejected⟩

/-! ## Calls -/

/-- What a call to the control plane tells of a rejection that is the last thing heard: all of it if
the request itself was judged, and otherwise nothing that lets the caller know. -/
def Reports (c : Client σ) (call : Call) (s : Session σ)
    (answer : Time.Reply (Outcome α) × Session σ) : Prop :=
  ∃ messages, answer.2.exchanges = s.exchanges ++ messages ∧
    ∀ response, lastResponse? messages = some response → response.IsRejection →
      ∃ url e, c.endpoint call.segments = .ok url ∧
        answer.1 = .after 0 (.failed e.toAccessError) ∧
        (c.Judged (call.request url 0) response messages ∧
            e = refusal response.status response.text ∧
            e.kind = .ofStatus response.status ∧ e.toAccessError.isUnauthorized = true ∨
          c.Unjudged (call.request url 0) response messages e ∧
            e.toAccessError.isUnauthorized = false)

theorem Unjudged.not_isUnauthorized {c : Client σ} {r : Except Http.Fault Request}
    {response : Response} {messages : List (Request × Reply)} {e : ApiError}
    (h : c.Unjudged r response messages e) : e.toAccessError.isUnauthorized = false := by
  cases h <;> rfl

theorem refusal_isUnauthorized {response : Response} (rejection : response.IsRejection) :
    (refusal response.status response.text).toAccessError.isUnauthorized = true := by
  rcases rejection with status | status <;>
    simp [refusal, ApiError.toAccessError, ApiError.status?, AccessError.isUnauthorized, status]

/-- A call with a single request reports what comes of that. -/
theorem reports_single (c : Client σ) (call : Call) (value : call.Piece → α) (s : Session σ) :
    c.Reports call s (Command.immediate (do
      let url ← Action.ofExcept id (c.endpoint call.segments)
      let piece ← c.send call.reader (call.request url 0)
      return value piece) s) := by
  unfold Command.immediate
  cases place : c.endpoint call.segments with
  | error e => exact ⟨[], (List.append_nil _).symm, fun _ last => by cases last⟩
  | ok url =>
    obtain ⟨messages, exchanges, rejected⟩ := c.receive_rejected (call.request url 0) s
    rw [Action.ofExcept_ok, Action.bind_of_ok (Action.pure_apply _ _), Action.map_apply]
    rcases received : c.receive (call.request url 0) s with ⟨f | answer, s₁⟩ <;>
      rw [received] at exchanges rejected
    · rw [send_failed received]
      refine ⟨messages, exchanges, fun response last rejection => ?_⟩
      rcases rejected response last rejection with ⟨-, impossible⟩ | ⟨e, unjudged, failed⟩
      · cases impossible
      · cases failed
        exact ⟨url, e, place, rfl, .inr ⟨unjudged, unjudged.not_isUnauthorized⟩⟩
    · rw [send_received received]
      refine ⟨messages, ?_, fun response last rejection => ?_⟩
      · exact (Session.after_exchanges _ _).trans exchanges
      rcases rejected response last rejection with ⟨judged, same⟩ | ⟨e, -, impossible⟩
      · cases same
        have refused : verdict call.reader answer =
            .error (refusal answer.status answer.text) :=
          if_neg (fun success => not_isRejection_of_success success rejection)
        refine ⟨url, _, place, by rw [refused]; rfl, .inl ⟨judged, rfl, rfl, ?_⟩⟩
        exact refusal_isUnauthorized rejection
      · cases impossible

end Client
end Api

/-- Whoever asks the control plane is told of every rejection of the request itself, with its
status. A rejection of the account for which there should be a token, or one that leaves the
challenge unanswered, is told as a failure to sign in, and not as a lack of authorization. -/
theorem Command.services_report {σ C : Type} (surroundings : Surroundings σ)
    (c : Api.Client σ) (prober : Prober σ C) (s : Api.Session σ) :
    (∀ project request, c.Reports (.create project request) s
      ((services surroundings c prober).createAccount project request s)) ∧
    ∀ project cluster, c.Reports (.lookUp project cluster) s
      ((services surroundings c prober).clusterInfo project cluster s) :=
  ⟨fun project request => c.reports_single (.create project request) (·.toAccount project) s,
    fun project cluster => c.reports_single (.lookUp project cluster) (·.toInfo project) s⟩

/-- A client whom every server answers with the same status. -/
def Api.Client.rebuffed (auth : Api.Auth) (status : Nat) : Api.Client Unit where
  web :=
    { answer := fun _ _ w => (.response { status }, w)
      clock := fun w => (0, w)
      nonce := fun w => ("c", w) }
  auth
  base := { scheme := "https", host := some (.domain "host"), path := .segments [""] }
  tokenUrl := { scheme := "https", host := some (.domain "host"), path := .segments ["token"] }
  proxy := none

/-- A client on its own. -/
def Command.alone (c : Api.Client Unit) : Surroundings Unit where
  web := c.web
  network _ := ⟨fun _ _ w => (.never, w)⟩
  isListening _ := false
  password _ w := (.stuck, w)
  identifier _ w := (.stuck, w)
  clock _ := ⟨0, 0⟩

/-- What becomes of a cluster that is looked up. -/
def Command.lookUp (c : Api.Client Unit) : Time.Reply (Outcome ClusterInfo) × Api.Session Unit :=
  (services (alone c) c (tcpProber (alone c).network)).clusterInfo "p" "c" { world := () }

/-- The failure that a caller is told of, and the last response before. -/
def Command.told (c : Api.Client Unit) : Option AccessError × Option Http.Response :=
  ((match (lookUp c).1 with
    | .after 0 (.failed e) => some e
    | _ => none), Api.lastResponse? (lookUp c).2.exchanges)

/-- A token that is not allowed to do something: the caller is told. -/
theorem Command.services_report_forbidden :
    ∃ e, told (.rebuffed (.bearer ⟨"t"⟩) 403) = (some e, some { status := 403 }) ∧
      e.isUnauthorized = true := by
  obtain ⟨messages, exchanges, reports⟩ := (services_report (alone _)
    (.rebuffed (.bearer ⟨"t"⟩) 403) (tcpProber (alone _).network) { world := () }).2 "p" "c"
  have heard : (told (.rebuffed (.bearer ⟨"t"⟩) 403)).2 = some { status := 403 } := by
    decide +kernel
  have last : Api.lastResponse? messages = some { status := 403 } := by
    rw [← heard, told, lookUp, exchanges, List.nil_append]
  obtain ⟨url, e, -, reply, ⟨-, -, -, unauthorized⟩ | ⟨unjudged, -⟩⟩ :=
    reports _ last (.inr rfl)
  · refine ⟨e.toAccessError, Prod.ext ?_ heard, unauthorized⟩
    rw [told, lookUp, reply]
    rfl
  · cases unjudged <;> contradiction

/-- A token that is refused, and a challenge that cannot be answered, come from rejected
credentials. The failures are of the class for these, but the caller is not told that they are. -/
theorem Command.services_report_status_lost :
    told (.rebuffed (.serviceAccount "id" ⟨"secret"⟩) 401) =
        (some (Api.ApiError.auth "token endpoint returned HTTP 401").toAccessError,
          some { status := 401 }) ∧
      (Api.ApiError.auth "token endpoint returned HTTP 401").kind = .unauthenticated ∧
      (Api.ApiError.auth "token endpoint returned HTTP 401").toAccessError.isUnauthorized = false ∧
      told (.rebuffed (.apiKey "public" ⟨"private"⟩) 401) =
        (some (Api.ApiError.auth "401 without a digest challenge").toAccessError,
          some { status := 401 }) ∧
      (Api.ApiError.auth "401 without a digest challenge").kind = .unauthenticated ∧
      (Api.ApiError.auth "401 without a digest challenge").toAccessError.isUnauthorized =
        false := by
  refine ⟨?_, rfl, rfl, ?_, rfl, rfl⟩ <;> decide +kernel

end ClusterAccess
