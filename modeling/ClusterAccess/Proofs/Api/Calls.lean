import ClusterAccess.Api.Client

/-!
# Calls to the administration interface

A call finds its place and then sends requests there, one after the other, until it has what it
needs or one of them fails. What holds of every request is carried to calls by induction on their
course.

## Main definitions

* `Call`, `Client.perform`: the calls as data, and what a client does for one.
* `Call.request`, `Call.plain`: the requests of a call.
* `Client.tokenOf`: what is made of a response to a request for a token.
* `Client.receive`, `verdict`: the two halves of a request, to get a response and to judge it.
* `Client.Course`, `Client.Performed`: how the requests of a call can go.
* `Client.converse`: calls one after the other.

## Main statements

* `Client.send_received`, `Client.send_failed`: a request in its two halves.
* `Client.perform_performed`: every call is performed in one of these ways.
-/
namespace ClusterAccess.Api

open Http

variable {σ α β ε : Type}

/-! ## Actions -/

namespace Action

variable {s s' : Session σ} {t : Action σ α} {next : α → Action σ β}

@[simp]
theorem pure_apply (a : α) (s : Session σ) : (Pure.pure a : Action σ α) s = (.ok a, s) := rfl

@[simp] theorem fail_apply (e : ApiError) (s : Session σ) :
    (fail e : Action σ α) s = (.error (.error e), s) := rfl

theorem bind_apply (t : Action σ α) (next : α → Action σ β) (s : Session σ) :
    (t >>= next) s = match t s with
      | (.ok a, s) => next a s
      | (.error e, s) => (.error e, s) := rfl

theorem bind_of_ok {a : α} (h : t s = (.ok a, s')) : (t >>= next) s = next a s' := by
  rw [bind_apply, h]

theorem bind_of_error {f : Failure} (h : t s = (.error f, s')) :
    (t >>= next) s = (.error f, s') := by
  rw [bind_apply, h]

theorem map_apply (f : α → β) (t : Action σ α) (s : Session σ) :
    (t >>= fun a => Pure.pure (f a)) s = ((t s).1.map f, (t s).2) := by
  rw [bind_apply]
  rcases t s with ⟨_ | _, s'⟩ <;> rfl

theorem bind_assoc {γ : Type} (t : Action σ α) (next : α → Action σ β) (last : β → Action σ γ) :
    t >>= next >>= last = t >>= fun a => next a >>= last := by
  funext s
  simp only [bind_apply]
  rcases t s with ⟨_ | _, s'⟩ <;> rfl

@[simp] theorem ofExcept_ok (f : ε → ApiError) (a : α) :
    (ofExcept f (.ok a) : Action σ α) = Pure.pure a := rfl

end Action

theorem ok_of_toOption {x : Except ε α} {a : α} (h : x.toOption = some a) : x = .ok a := by
  cases x with
  | error => cases h
  | ok => exact congrArg Except.ok (Option.some.inj h)

/-! ## The calls -/

inductive Call where
  | create (project : String) (request : AccountRequest)
  | lookUp (project cluster : String)
  | list (project : String)

inductive Answer where
  | account (a : Account)
  | cluster (info : ClusterInfo)
  | accounts (found : List Account)
  deriving DecidableEq, Repr

def Client.perform (c : Client σ) : Call → Action σ Answer
  | .create project request => do return .account (← c.createAccount project request)
  | .lookUp project cluster => do return .cluster (← c.clusterInfo project cluster)
  | .list project => do return .accounts (← c.accounts project)

namespace Call

/-- The segments of a call's place, behind those that all places have. -/
def segments : Call → List String
  | create project _ | list project => ["groups", project, "databaseUsers"]
  | lookUp project cluster => ["groups", project, "clusters", cluster]

/-- The request for a page of the list at `url`, counted from zero. -/
def pageRequest (url : Url) (n : Nat) : Except Http.Fault Request :=
  (Request.start .get url).map fun r =>
    { r with url := r.url.appendQuery (Client.pageQuery (n + 1)) }

/-- The requests of a call that is made at `url`, counted from zero. -/
def request (url : Url) (n : Nat) : Call → Except Http.Fault Request
  | create project request => (Request.start .post url).map fun r =>
    { r with body := some ⟨"application/json", (createBody project request).compact⟩ }
  | lookUp _ _ => Request.start .get url
  | list _ => pageRequest url n

/-- What one request of a call is answered with. -/
abbrev Piece : Call → Type
  | create _ _ => User
  | lookUp _ _ => ClusterDescription
  | list _ => Page

def reader : (call : Call) → Json.Reader call.Piece
  | create _ _ => User.reader
  | lookUp _ _ => ClusterDescription.reader
  | list _ => Page.reader

/-- What a call makes of the answers to its requests. -/
inductive Yields : (call : Call) → List call.Piece → Answer → Prop
  | account {project : String} {request : AccountRequest} {user : User} :
      Yields (create project request) [user] (.account (user.toAccount project))
  | cluster {project cluster : String} {found : ClusterDescription} :
      Yields (lookUp project cluster) [found] (.cluster (found.toInfo project))
  | accounts {project : String} {pages : List Page} :
      Yields (list project) pages
        (.accounts (pages.flatMap fun page => page.results.map (·.toAccount project)))

end Call

/-! ## Places -/

/-- The place of a call differs from the base in its path only. -/
theorem join_keeps {base url : Url} {segments : List String} (h : join base segments = .ok url) :
    ∃ path, url = { base with path } := by
  unfold join Url.pushSegments? at h
  split at h
  next u pushed =>
    split at pushed
    · cases pushed
    · cases pushed
      cases h
      exact ⟨_, rfl⟩
  next => cases h

theorem userOf?_of_join {base url : Url} {segments : List String}
    (h : join base segments = .ok url) : userOf? url = userOf? base := by
  obtain ⟨path, rfl⟩ := join_keeps h
  rfl

/-- The request itself that is made at a place without a user part. -/
def Call.plain (url : Url) (n : Nat) : Call → Request
  | create project request =>
    { method := .post, url,
      body := some ⟨"application/json", (createBody project request).compact⟩ }
  | lookUp _ _ => { method := .get, url }
  | list _ => { method := .get, url := url.appendQuery (Client.pageQuery (n + 1)) }

theorem Call.request_of_unsigned {url : Url} (user : userOf? url = none) (call : Call) (n : Nat) :
    call.request url n =
      if Request.namesHost url then .ok (call.plain url n) else .error (.unusableUrl url) := by
  have start (method : Method) : Request.start method url =
      if Request.namesHost url then .ok { method, url } else .error (.unusableUrl url) := by
    unfold Request.start
    rw [user]
  cases call <;> cases named : Request.namesHost url <;>
    simp only [request, pageRequest, plain, start, named] <;> rfl

/-- A place without a user part is asked without authorization. -/
theorem Client.request_unsigned {c : Client σ} {call : Call} {url : Url} {n : Nat} {r : Request}
    (user : userOf? c.base = none) (place : c.endpoint call.segments = .ok url)
    (h : call.request url n = .ok r) : r.authorization = [] := by
  rw [Call.request_of_unsigned ((userOf?_of_join place).trans user)] at h
  split at h <;> cases h
  cases call <;> rfl

/-! ## One request -/

/-- What is made of a response. -/
def verdict (reader : Json.Reader α) (response : Response) : Except ApiError α :=
  if isSuccess response.status then (Json.read reader response.text).mapError .json
  else .error (Client.refusal response.status response.text)

theorem ne_unauthorized_of_success {status : Nat} (success : isSuccess status = true) :
    status ≠ 401 := by
  rintro rfl
  cases success

/-- After status 401 no token stands any more. -/
def Session.after (s : Session σ) (response : Response) : Session σ :=
  if response.status = 401 then { s with issued := none } else s

@[simp] theorem Session.after_exchanges (s : Session σ) (response : Response) :
    (s.after response).exchanges = s.exchanges := by
  unfold after
  split <;> rfl

@[simp] theorem Session.after_world (s : Session σ) (response : Response) :
    (s.after response).world = s.world := by
  unfold after
  split <;> rfl

/-- The request with a token. -/
def bearing (token : Secret) (r : Except Http.Fault Request) : Except Http.Fault Request :=
  (r.map fun r => { r with accept := versionedJson }).bind
    (·.authorized (bearerAuthorization token.expose))

theorem bearing_eq_ok {token : Secret} {r : Except Http.Fault Request} {r' : Request}
    (h : bearing token r = .ok r') : ∃ r₀, r = .ok r₀ ∧ r' = { r₀ with
      accept := versionedJson
      authorization := r₀.authorization ++ [bearerAuthorization token.expose] } := by
  cases r with
  | error fault => cases h
  | ok r =>
    simp only [bearing, Except.map, Except.bind, Request.authorized] at h
    split at h <;> cases h
    exact ⟨r, rfl, rfl⟩

namespace Client

variable (c : Client σ)

/-- Signs in, sends a request and waits for the response. -/
def receive (r : Except Http.Fault Request) : Action σ Response := do
  let r := r.map fun r => { r with accept := versionedJson }
  match ← c.credentials with
  | .bearer token => do
    let r ← .ofExcept ofHttp (r.bind (·.authorized (bearerAuthorization token.expose)))
    c.fetch r
  | .digest username password => do
    let r ← .ofExcept ofHttp r
    c.fetchWithDigest username password r

/-- What is made of a response to a request for a token. -/
def tokenOf (response : Response) : Action σ Secret :=
  if !isSuccess response.status then
    .fail (.auth s!"token endpoint returned HTTP {response.status}")
  else match Json.readBytes Token.reader response.body with
    | .error _ => .fail (ofHttp .undecodable)
    | .ok answer => do
      let now ← .lift c.web.clock
      match refreshTime? now answer.expiresIn with
      | some refreshAt =>
        let token : Secret := .ofString answer.access
        Action.setIssued (some ⟨token, refreshAt⟩)
        pure token
      | none => Action.overflow

variable {c} in
theorem issueToken_eq {id : String} {secret : Secret} : c.issueToken id secret =
    .ofExcept ofHttp (c.tokenRequest id secret) >>= fun r => c.fetch r >>= c.tokenOf := by
  unfold issueToken tokenOf
  rfl

variable {c} in
theorem receive_bearer {token : Secret} (auth : c.auth = .bearer token)
    (r : Except Http.Fault Request) :
    c.receive r = .ofExcept ofHttp (bearing token r) >>= c.fetch := by
  unfold receive credentials
  rw [auth]
  rfl

variable {c} in
theorem receive_digest {username : String} {password : Secret}
    (auth : c.auth = .apiKey username password) (r : Except Http.Fault Request) :
    c.receive r = .ofExcept ofHttp (r.map fun r => { r with accept := versionedJson }) >>=
      c.fetchWithDigest username password := by
  unfold receive credentials
  rw [auth]
  rfl

theorem conclude_apply (reader : Json.Reader α) (response : Response) (s : Session σ) :
    conclude reader response s = ((verdict reader response).mapError .error, s.after response) := by
  unfold conclude verdict Session.after
  by_cases success : isSuccess response.status = true
  · rw [if_pos success, if_pos success, if_neg (ne_unauthorized_of_success success)]
    cases Json.read reader response.text <;> rfl
  · rw [if_neg success, if_neg success]
    by_cases status : response.status = 401 <;> simp [status, Action.bind_apply] <;> rfl

variable {c} {reader : Json.Reader α} {r : Except Http.Fault Request} {s s' : Session σ}

theorem send_eq : c.send reader r = c.receive r >>= conclude reader := by
  unfold send receive
  dsimp only
  rw [Action.bind_assoc]
  refine congrArg (c.credentials >>= ·) (funext fun credentials => ?_)
  cases credentials <;> exact (Action.bind_assoc _ _ _).symm

/-- A request with a response is judged by that. -/
theorem send_received {response : Response} (h : c.receive r s = (.ok response, s')) :
    c.send reader r s = ((verdict reader response).mapError .error, s'.after response) := by
  rw [send_eq, Action.bind_of_ok h, conclude_apply]

theorem send_failed {f : Failure} (h : c.receive r s = (.error f, s')) :
    c.send reader r s = (.error f, s') := by
  rw [send_eq, Action.bind_of_error h]

/-! ## The requests of a call -/

/-- The requests of a call from some number on, with the answers to them, and why there are no more:
the last one failed, or nothing more was needed. -/
inductive Course (c : Client σ) (call : Call) (url : Url) :
    Nat → Session σ → List call.Piece → Option Failure → Session σ → Prop
  | failed {n : Nat} {s s' : Session σ} {f : Failure}
      (send : c.send call.reader (call.request url n) s = (.error f, s')) :
      Course c call url n s [] (some f) s'
  | ended {n : Nat} {s s' : Session σ} {piece : call.Piece}
      (send : c.send call.reader (call.request url n) s = (.ok piece, s')) :
      Course c call url n s [piece] none s'
  | next {n : Nat} {s s₁ s' : Session σ} {piece : call.Piece} {pieces : List call.Piece}
      {f : Option Failure} (send : c.send call.reader (call.request url n) s = (.ok piece, s₁))
      (rest : Course c call url (n + 1) s₁ pieces f s') :
      Course c call url n s (piece :: pieces) f s'
  /-- The requests can be counted no further. -/
  | uncounted {n : Nat} {s s' : Session σ} {piece : call.Piece}
      (send : c.send call.reader (call.request url n) s = (.ok piece, s')) :
      Course c call url n s [piece] (some .overflow) s'

/-- How a call can go. -/
inductive Performed (c : Client σ) (call : Call) (s : Session σ) :
    Except Failure Answer → Session σ → Prop
  | misplaced {e : ApiError} (place : c.endpoint call.segments = .error e) :
      Performed c call s (.error (.error e)) s
  | failed {url : Url} {pieces : List call.Piece} {f : Failure} {s' : Session σ}
      (place : c.endpoint call.segments = .ok url)
      (course : Course c call url 0 s pieces (some f) s') : Performed c call s (.error f) s'
  | done {url : Url} {pieces : List call.Piece} {answer : Answer} {s' : Session σ}
      (place : c.endpoint call.segments = .ok url)
      (course : Course c call url 0 s pieces none s') (yields : call.Yields pieces answer) :
      Performed c call s (.ok answer) s'

/-- A call with a single request. -/
theorem perform_single {call : Call} {value : call.Piece → Answer} {o : Except Failure Answer}
    (yields : ∀ piece, call.Yields [piece] (value piece))
    (h : (do
      let url ← Action.ofExcept id (c.endpoint call.segments)
      let piece ← c.send call.reader (call.request url 0)
      return value piece) s = (o, s')) : c.Performed call s o s' := by
  cases place : c.endpoint call.segments with
  | error e =>
    rw [place] at h
    obtain ⟨rfl, rfl⟩ := Prod.mk.inj h
    exact .misplaced place
  | ok url =>
    rw [place, Action.ofExcept_ok, Action.bind_of_ok (Action.pure_apply _ _),
      Action.map_apply] at h
    rcases send : c.send call.reader (call.request url 0) s with ⟨f | piece, s₁⟩ <;>
      rw [send] at h <;> obtain ⟨rfl, rfl⟩ := Prod.mk.inj h
    · exact .failed place (.failed send)
    · exact .done place (.ended send) (yields piece)

theorem accountsFrom_succ (project : String) (url : Url) (pages n : Nat) (found : List Account) :
    c.accountsFrom project url (pages + 1) (n + 1) found =
      c.send (Call.list project).reader ((Call.list project).request url n) >>= fun page =>
        let found := found ++ page.results.map (·.toAccount project)
        if isLast page found.length then pure found
        else c.accountsFrom project url pages (n + 2) found := rfl

theorem accountsFrom_course {project : String} {url : Url} {pages n : Nat} {found : List Account}
    {o : Except Failure (List Account)}
    (h : c.accountsFrom project url (pages + 1) (n + 1) found s = (o, s')) :
    ∃ pieces f, c.Course (.list project) url n s pieces f s' ∧
      match f with
      | some f => o = .error f
      | none => o = .ok
        (found ++ pieces.flatMap fun page => page.results.map (·.toAccount project)) := by
  induction pages generalizing n found s
  all_goals
    rw [accountsFrom_succ, Action.bind_apply] at h
    rcases send : c.send (Call.list project).reader ((Call.list project).request url n) s with
      ⟨f | page, s₁⟩ <;> rw [send] at h <;> dsimp only at h
  case zero.error | succ.error =>
    obtain ⟨rfl, rfl⟩ := Prod.mk.inj h
    exact ⟨[], _, .failed send, rfl⟩
  all_goals split at h
  case zero.ok.isTrue | succ.ok.isTrue =>
    obtain ⟨rfl, rfl⟩ := Prod.mk.inj h
    exact ⟨[page], _, .ended send, by simp⟩
  case zero.ok.isFalse =>
    obtain ⟨rfl, rfl⟩ := Prod.mk.inj h
    exact ⟨[page], _, .uncounted send, rfl⟩
  case succ.ok.isFalse pages ih _ =>
    obtain ⟨pieces, f, course, ending⟩ := ih h
    refine ⟨page :: pieces, f, .next send course, ?_⟩
    cases f <;> simpa using ending

theorem accounts_of_place {project : String} {url : Url}
    (place : c.endpoint (Call.list project).segments = .ok url) :
    c.accounts project = c.accountsFrom project url (UInt64.size - 1) 1 [] := by
  unfold accounts
  rw [show c.endpoint ["groups", project, "databaseUsers"] = .ok url from place]
  rfl

theorem accounts_of_misplaced {project : String} {e : ApiError}
    (place : c.endpoint (Call.list project).segments = .error e) :
    c.accounts project = .fail e := by
  unfold accounts
  rw [show c.endpoint ["groups", project, "databaseUsers"] = .error e from place]
  rfl

/-- Every call is performed in one of these ways. -/
theorem perform_performed {call : Call} {o : Except Failure Answer}
    (h : c.perform call s = (o, s')) : c.Performed call s o s' := by
  cases call with
  | create project request =>
    refine perform_single (fun _ => .account) (h ▸ ?_)
    simp only [perform, createAccount, Action.bind_assoc]
    rfl
  | lookUp project cluster =>
    refine perform_single (fun _ => .cluster) (h ▸ ?_)
    simp only [perform, clusterInfo, Action.bind_assoc]
    rfl
  | list project =>
    rw [perform, Action.map_apply] at h
    cases place : c.endpoint (Call.list project).segments with
    | error e =>
      rw [accounts_of_misplaced place] at h
      obtain ⟨rfl, rfl⟩ := Prod.mk.inj h
      exact .misplaced place
    | ok url =>
      rw [accounts_of_place place] at h
      rcases found : c.accountsFrom project url (UInt64.size - 1) 1 [] s with ⟨o₁, s₁⟩
      rw [found] at h
      obtain ⟨rfl, rfl⟩ := Prod.mk.inj h
      obtain ⟨pieces, f, course, ending⟩ := accountsFrom_course found
      cases f with
      | some f =>
        obtain rfl := ending
        exact .failed place course
      | none =>
        obtain rfl := ending
        exact .done place course .accounts

/-! ## Calls one after the other -/

/-- Calls one after the other, with an answer to each of them. -/
def converse (c : Client σ) : List Call → Session σ → List (Except Failure Answer) × Session σ
  | [], s => ([], s)
  | call :: calls, s =>
    let (answer, s) := c.perform call s
    let (answers, s) := c.converse calls s
    (answer :: answers, s)

theorem converse_cons (c : Client σ) (call : Call) (calls : List Call) (s : Session σ) :
    c.converse (call :: calls) s =
      ((c.perform call s).1 :: (c.converse calls (c.perform call s).2).1,
        (c.converse calls (c.perform call s).2).2) := rfl

end Client
end ClusterAccess.Api
