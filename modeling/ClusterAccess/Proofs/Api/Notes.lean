import ClusterAccess.Proofs.Api.Messages

/-!
# Notes of what a world was asked

Any world can be made to note down what it is asked and what it answers. A client cannot tell the
difference, so the notes show what happens between it and the world as it is.

## Main definitions

* `Note`, `Web.noted`, `Client.noted`: a world that takes notes, and a client in it.
* `Action.Forgets`: an action with the notes left out.

## Main statements

* `Client.perform_forgets`: taking notes changes nothing.
* `Client.fetch_trail`: what is noted of a request.
-/
namespace ClusterAccess.Api

open Http

variable {σ α β ε : Type}

/-! ## Worlds that take notes -/

/-- One thing that a world was asked, with its answer. -/
inductive Note where
  | sent (r : Request) (reply : Reply)
  | read (now : Nat)
  | drew (nonce : String)
  deriving DecidableEq

def Web.noted (web : Web σ) : Web (σ × List Note) where
  answer proxy r w :=
    let (reply, world) := web.answer proxy r w.1
    (reply, world, w.2 ++ [.sent r reply])
  clock w :=
    let (now, world) := web.clock w.1
    (now, world, w.2 ++ [.read now])
  nonce w :=
    let (nonce, world) := web.nonce w.1
    (nonce, world, w.2 ++ [.drew nonce])

/-- The client in a world that takes notes. -/
def Client.noted (c : Client σ) : Client (σ × List Note) :=
  { web := c.web.noted, auth := c.auth, base := c.base, tokenUrl := c.tokenUrl, proxy := c.proxy }

/-- The session without the notes. -/
def Session.forget (s : Session (σ × List Note)) : Session σ :=
  { world := s.world.1, issued := s.issued, exchanges := s.exchanges }

/-- What the first action does is what the second one does, but for the notes. -/
def Action.Forgets (noted : Action (σ × List Note) α) (plain : Action σ α) : Prop :=
  ∀ s, plain s.forget = ((noted s).1, (noted s).2.forget)

namespace Action.Forgets

theorem pure (a : α) :
    Forgets (Pure.pure a : Action (σ × List Note) α) (Pure.pure a : Action σ α) :=
  fun _ => rfl

theorem fail (e : ApiError) : Forgets (.fail e : Action (σ × List Note) α) (.fail e : Action σ α) :=
  fun _ => rfl

theorem overflow : Forgets (.overflow : Action (σ × List Note) α) (.overflow : Action σ α) :=
  fun _ => rfl

theorem ofExcept (f : ε → ApiError) (o : Except ε α) :
    Forgets (.ofExcept f o : Action (σ × List Note) α) (.ofExcept f o : Action σ α) := by
  cases o
  · exact fail _
  · exact pure _

theorem issued : Forgets (.issued : Action (σ × List Note) _) (.issued : Action σ _) := fun _ => rfl

theorem setIssued (issued : Option IssuedToken) :
    Forgets (.setIssued issued : Action (σ × List Note) _) (.setIssued issued : Action σ _) :=
  fun _ => rfl

theorem clock (web : Web σ) : Forgets (.lift web.noted.clock) (.lift web.clock) := fun _ => rfl

theorem nonce (web : Web σ) : Forgets (.lift web.noted.nonce) (.lift web.nonce) := fun _ => rfl

theorem exchange (web : Web σ) (proxy : Option Url) (r : Request) :
    Forgets (web.noted.exchange proxy r) (web.exchange proxy r) := fun _ => rfl

theorem bind {t' : Action (σ × List Note) α} {t : Action σ α}
    {next' : α → Action (σ × List Note) β} {next : α → Action σ β} (first : Forgets t' t)
    (then_ : ∀ a, Forgets (next' a) (next a)) : Forgets (t' >>= next') (t >>= next) := by
  intro s
  rw [bind_apply, bind_apply, first s]
  rcases t' s with ⟨f | a, s₁⟩
  · rfl
  · exact then_ a s₁

theorem ite {p : Prop} [Decidable p] {t' u' : Action (σ × List Note) α} {t u : Action σ α}
    (yes : Forgets t' t) (no : Forgets u' u) :
    Forgets (if p then t' else u') (if p then t else u) := by
  split
  · exact yes
  · exact no

end Action.Forgets

open Api.Action (Forgets)

theorem Web.follow_forgets {first : Url} {r : Request}
    {go' : Request → Action (σ × List Note) Response} {go : Request → Action σ Response}
    (next : ∀ r, Forgets (go' r) (go r)) (reply : Reply) :
    Forgets (follow first r go' reply) (follow first r go reply) := by
  unfold follow
  cases reply with
  | response response =>
    dsimp only
    cases r.redirected? response with
    | none => exact .pure _
    | some r => exact next r
  | _ => exact .fail _

theorem Web.fetchFrom_forgets (web : Web σ) (proxy : Option Url) (first : Url) (redirects : Nat)
    (foreign : Bool) (r : Request) :
    Forgets (web.noted.fetchFrom proxy first redirects foreign r)
      (web.fetchFrom proxy first redirects foreign r) := by
  induction redirects generalizing foreign r <;> cases usable : isWeb r.url
  case zero.false | succ.false =>
    rw [fetchFrom_unusable usable, fetchFrom_unusable usable]
    exact .fail _
  case zero.true =>
    rw [fetchFrom_zero usable, fetchFrom_zero usable]
    exact .bind (.exchange web proxy _) (follow_forgets fun _ => .fail _)
  case succ.true redirects ih =>
    rw [fetchFrom_succ usable, fetchFrom_succ usable]
    exact .bind (.exchange web proxy _) (follow_forgets fun next => ih _ next)

namespace Client

variable (c : Client σ)

theorem fetch_forgets (r : Request) : Forgets (c.noted.fetch r) (c.fetch r) :=
  c.web.fetchFrom_forgets _ _ _ _ _

theorem issueToken_forgets (id : String) (secret : Secret) :
    Forgets (c.noted.issueToken id secret) (c.issueToken id secret) := by
  unfold issueToken
  refine .bind (.ofExcept _ _) fun r => .bind (c.fetch_forgets r) fun response =>
    .ite (.fail _) ?_
  cases Json.readBytes Token.reader response.body with
  | error => exact .fail _
  | ok answer =>
    refine .bind (.clock c.web) fun now => ?_
    cases refreshTime? now answer.expiresIn with
    | none => exact .overflow
    | some refreshAt => exact .bind (.setIssued _) fun _ => .pure _

theorem currentToken_forgets (id : String) (secret : Secret) :
    Forgets (c.noted.currentToken id secret) (c.currentToken id secret) := by
  unfold currentToken
  refine .bind .issued fun issued => ?_
  cases issued with
  | none => exact c.issueToken_forgets id secret
  | some issued =>
    exact .bind (.clock c.web) fun now => .ite (.pure _) (c.issueToken_forgets id secret)

theorem credentials_forgets : Forgets c.noted.credentials c.credentials := by
  unfold credentials
  rw [show c.noted.auth = c.auth from rfl]
  cases c.auth with
  | bearer => exact .pure _
  | apiKey => exact .pure _
  | serviceAccount id secret => exact .bind (c.currentToken_forgets id secret) fun _ => .pure _

theorem fetchWithDigest_forgets (username : String) (password : Secret) (r : Request) :
    Forgets (c.noted.fetchWithDigest username password r)
      (c.fetchWithDigest username password r) := by
  unfold fetchWithDigest
  refine .bind (c.fetch_forgets r) fun first => .ite (.pure _) ?_
  cases (first.header? "www-authenticate").filter isReadable with
  | none => exact .fail _
  | some header =>
    dsimp only
    cases Digest.Challenge.parse header with
    | error fault => exact .fail _
    | ok challenge =>
      exact .bind (.nonce c.web) fun _ => .ite (c.fetch_forgets _) (.fail _)

theorem receive_forgets (r : Except Http.Fault Request) :
    Forgets (c.noted.receive r) (c.receive r) := by
  unfold receive
  refine .bind c.credentials_forgets fun credentials => ?_
  cases credentials with
  | bearer token => exact .bind (.ofExcept _ _) c.fetch_forgets
  | digest username password =>
    exact .bind (.ofExcept _ _) (c.fetchWithDigest_forgets username password)

theorem conclude_forgets (reader : Json.Reader α) (response : Response) :
    Forgets (conclude (σ := σ × List Note) reader response) (conclude reader response) := by
  unfold conclude
  exact .ite (.ofExcept _ _) (.ite (.bind (.setIssued _) fun _ => .fail _) (.fail _))

theorem send_forgets (reader : Json.Reader α) (r : Except Http.Fault Request) :
    Forgets (c.noted.send reader r) (c.send reader r) := by
  rw [send_eq, send_eq]
  exact .bind (c.receive_forgets r) (conclude_forgets reader)

theorem accountsFrom_forgets (project : String) (url : Url) (pages page : Nat)
    (found : List Account) : Forgets (c.noted.accountsFrom project url pages page found)
      (c.accountsFrom project url pages page found) := by
  induction pages generalizing page found with
  | zero => exact .overflow
  | succ pages ih =>
    unfold accountsFrom
    exact .bind (c.send_forgets _ _) fun _ => .ite (.pure _) (ih _ _)

/-- Taking notes changes nothing. -/
theorem perform_forgets (call : Call) : Forgets (c.noted.perform call) (c.perform call) := by
  cases call with
  | create project request =>
    exact .bind (.bind (.ofExcept _ _) fun _ => .bind (c.send_forgets _ _) fun _ => .pure _)
      fun _ => .pure _
  | lookUp project cluster =>
    exact .bind (.bind (.ofExcept _ _) fun _ => .bind (c.send_forgets _ _) fun _ => .pure _)
      fun _ => .pure _
  | list project =>
    exact .bind (.bind (.ofExcept _ _) fun _ => c.accountsFrom_forgets _ _ _ _ _) fun _ => .pure _

theorem converse_forgets (calls : List Call) (s : Session (σ × List Note)) :
    c.converse calls s.forget =
      ((c.noted.converse calls s).1, (c.noted.converse calls s).2.forget) := by
  induction calls generalizing s with
  | nil => rfl
  | cons call calls ih =>
    rw [converse_cons, converse_cons, c.perform_forgets call s]
    dsimp only
    rw [ih]

end Client

/-! ## The messages of a request -/

/-- The notes of messages. -/
def Note.ofHops (hops : List (Request × Reply)) : List Note := hops.map fun hop => .sent hop.1 hop.2

/-- The session after some messages. -/
def Session.sent (s : Session (σ × List Note)) (world : σ) (hops : List (Request × Reply)) :
    Session (σ × List Note) :=
  { s with world := (world, s.world.2 ++ Note.ofHops hops), exchanges := s.exchanges ++ hops }

@[simp] theorem Session.sent_nil (s : Session (σ × List Note)) : s.sent s.world.1 [] = s := by
  simp [sent, Note.ofHops]

@[simp] theorem Session.sent_sent (s : Session (σ × List Note)) (world world' : σ)
    (hops hops' : List (Request × Reply)) :
    (s.sent world hops).sent world' hops' = s.sent world' (hops ++ hops') := by
  simp [sent, Note.ofHops]

theorem Web.exchange_noted (web : Web σ) (proxy : Option Url) (r : Request)
    (s : Session (σ × List Note)) :
    ∃ reply world, web.noted.exchange proxy r s = (.ok reply, s.sent world [(r, reply)]) :=
  ⟨_, _, rfl⟩

/-- One message, and what comes after it. -/
theorem Web.follow_trail {web : Web σ} {proxy : Option Url} {first : Url} {foreign : Bool}
    {r : Request} {go : Request → Action (σ × List Note) Response} (usable : isWeb r.url = true)
    (goes : ∀ response next s, r.redirected? response = some next → ∃ hops outcome world,
      Trail first foreign r ((leaving foreign r, .response response) :: hops) outcome ∧
        go next s = (outcome.mapError .error, s.sent world hops)) (s : Session (σ × List Note)) :
    ∃ hops outcome world, Trail first foreign r hops outcome ∧
      (web.noted.exchange proxy (leaving foreign r) >>= follow first r go) s =
        (outcome.mapError .error, s.sent world hops) := by
  obtain ⟨reply, world, asked⟩ := web.exchange_noted proxy (leaving foreign r) s
  rw [Action.bind_of_ok asked]
  cases reply with
  | response response =>
    cases elsewhere : r.redirected? response with
    | none =>
      rw [follow_final elsewhere]
      exact ⟨_, _, world, .answered usable elsewhere, rfl⟩
    | some next =>
      rw [follow_elsewhere elsewhere]
      obtain ⟨hops, outcome, world', trail, gone⟩ := goes response next
        (s.sent world [(leaving foreign r, .response response)]) elsewhere
      exact ⟨_, outcome, world', trail, by rw [gone, Session.sent_sent, List.singleton_append]⟩
  | closed => exact ⟨_, _, world, .lost usable (by simp), rfl⟩
  | unreachable => exact ⟨_, _, world, .lost usable (by simp), rfl⟩

theorem Web.fetchFrom_trail (web : Web σ) (proxy : Option Url) (first : Url) (redirects : Nat)
    (foreign : Bool) (r : Request) (s : Session (σ × List Note)) :
    ∃ hops outcome world, Trail first foreign r hops outcome ∧
      web.noted.fetchFrom proxy first redirects foreign r s =
        (outcome.mapError .error, s.sent world hops) := by
  induction redirects generalizing foreign r s <;> cases usable : isWeb r.url
  case zero.false | succ.false =>
    refine ⟨[], _, s.world.1, .unusable usable, ?_⟩
    rw [fetchFrom_unusable usable, Session.sent_nil]
    rfl
  case zero.true =>
    rw [fetchFrom_zero usable]
    exact follow_trail usable (fun _ _ s elsewhere =>
      ⟨[], _, s.world.1, .exhausted usable elsewhere, by rw [Session.sent_nil]; rfl⟩) s
  case succ.true redirects ih =>
    rw [fetchFrom_succ usable]
    refine follow_trail usable (fun response next s elsewhere => ?_) s
    obtain ⟨hops, outcome, world, trail, fetched⟩ :=
      ih (!Request.isSameServer r.url next.url) next s
    exact ⟨hops, outcome, world, .redirected usable elsewhere trail, fetched⟩

/-- What is noted of a request are its messages. -/
theorem Client.fetch_trail (c : Client σ) (r : Request) (s : Session (σ × List Note)) :
    ∃ hops outcome world, Trail r.url false r hops outcome ∧
      c.noted.fetch r s = (outcome.mapError .error, s.sent world hops) :=
  c.web.fetchFrom_trail _ _ _ _ _ _

end ClusterAccess.Api
