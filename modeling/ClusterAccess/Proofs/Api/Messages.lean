import ClusterAccess.Proofs.Api.Calls

/-!
# The messages of a request

A request may be answered by a redirection, so that it takes several messages until there is a
response.

## Main definitions

* `Trail`, `Delivery`: the messages of a request, with what becomes of them in the end.
* `Web.follow`: what is done after one message.
* `Client.NeverRedirected`: each request has one message at most.

## Main statements

* `redirected?_eq_some`: what a redirection asks for.
* `Trail.head`, `Trail.keeps`: which messages there are.
* `Web.fetchFrom_zero`, `Web.fetchFrom_succ`: what a client does for one message.
-/
namespace ClusterAccess.Api

open Http

variable {σ : Type}

/-- The request as it goes to another server, or to the same one as the one before. -/
def leaving (foreign : Bool) (r : Request) : Request := if foreign then r.anonymous else r

/-- The messages of a request: itself, and what redirections ask for instead, with what becomes of
them in the end. -/
inductive Trail (first : Url) :
    Bool → Request → List (Request × Reply) → Except ApiError Response → Prop
  | unusable {foreign : Bool} {r : Request} (unusable : isWeb r.url = false) :
      Trail first foreign r [] (.error (ofHttp (.unusableUrl r.url)))
  | lost {foreign : Bool} {r : Request} {reply : Reply} (usable : isWeb r.url = true)
      (lost : ∀ response, reply ≠ .response response) :
      Trail first foreign r [(leaving foreign r, reply)] (.error (ofHttp (.noAnswer first)))
  | answered {foreign : Bool} {r : Request} {response : Response} (usable : isWeb r.url = true)
      (final : r.redirected? response = none) :
      Trail first foreign r [(leaving foreign r, .response response)] (.ok response)
  | exhausted {foreign : Bool} {r next : Request} {response : Response}
      (usable : isWeb r.url = true) (elsewhere : r.redirected? response = some next) :
      Trail first foreign r [(leaving foreign r, .response response)]
        (.error (ofHttp (.tooManyRedirects r.url)))
  | redirected {foreign : Bool} {r next : Request} {response : Response}
      {hops : List (Request × Reply)} {outcome : Except ApiError Response}
      (usable : isWeb r.url = true) (elsewhere : r.redirected? response = some next)
      (rest : Trail first (!Request.isSameServer r.url next.url) next hops outcome) :
      Trail first foreign r ((leaving foreign r, .response response) :: hops) outcome

/-- A redirection asks for the same thing elsewhere, or for something simpler. -/
theorem redirected?_eq_some {r next : Request} {response : Response}
    (h : r.redirected? response = some next) : ∃ url,
      response.status ∈ [301, 302, 303] ∧ next = { r with url, method := .get, body := none } ∨
        response.status ∈ [307, 308] ∧ next = { r with url } := by
  obtain ⟨location, -, resolved⟩ := Option.bind_eq_some_iff.mp h
  obtain ⟨there, -, guarded⟩ := Option.bind_eq_some_iff.mp resolved
  obtain ⟨-, -, chosen⟩ := Option.bind_eq_some_iff.mp guarded
  clear h resolved guarded
  refine ⟨messageForm there, ?_⟩
  split at chosen <;> cases chosen
  case h_1 status | h_2 status | h_3 status => exact .inl ⟨by simp [status], rfl⟩
  case h_4 status | h_5 status => exact .inr ⟨by simp [status], rfl⟩

namespace Trail

variable {first : Url} {foreign : Bool} {r : Request} {hops : List (Request × Reply)}
  {outcome : Except ApiError Response}

/-- The first message is the request itself, if there can be any. -/
theorem head (h : Trail first foreign r hops outcome) :
    hops.head?.map Prod.fst = if isWeb r.url then some (leaving foreign r) else none := by
  cases h with
  | unusable unusable => simp [unusable]
  | lost usable => simp [usable]
  | answered usable => simp [usable]
  | exhausted usable => simp [usable]
  | redirected usable => simp [usable]

/-- All messages ask for the same, signed in as the request or not at all. -/
theorem keeps (h : Trail first foreign r hops outcome) : ∀ hop ∈ hops,
    (hop.1.authorization = r.authorization ∨ hop.1.authorization = []) ∧
      hop.1.accept = r.accept := by
  have itself (foreign : Bool) (r : Request) :
      ((leaving foreign r).authorization = r.authorization ∨
        (leaving foreign r).authorization = []) ∧ (leaving foreign r).accept = r.accept := by
    cases foreign
    · exact ⟨.inl rfl, rfl⟩
    · exact ⟨.inr rfl, rfl⟩
  induction h with
  | unusable => simp
  | lost | answered | exhausted =>
    intro hop mem
    obtain rfl := List.mem_singleton.mp mem
    exact itself _ _
  | redirected usable elsewhere rest ih =>
    obtain ⟨url, ⟨-, rfl⟩ | ⟨-, rfl⟩⟩ := redirected?_eq_some elsewhere
    all_goals
      intro hop mem
      rcases List.mem_cons.mp mem with rfl | mem
      · exact itself _ _
      · exact ih hop mem

end Trail

/-- The messages of a request that may turn out not to be one. -/
inductive Delivery : Except Http.Fault Request → List (Request × Reply) →
    Except ApiError Response → Prop
  | unmade {fault : Http.Fault} : Delivery (.error fault) [] (.error (ofHttp fault))
  | sent {r : Request} {hops : List (Request × Reply)} {outcome : Except ApiError Response}
      (trail : Trail r.url false r hops outcome) : Delivery (.ok r) hops outcome

/-! ## Sending messages -/

namespace Web

/-- What a client makes of a reply, where `go` goes on after a redirection. -/
def follow (first : Url) (r : Request) (go : Request → Action σ Response) :
    Reply → Action σ Response
  | .response response => match r.redirected? response with
    | none => pure response
    | some next => go next
  | _ => .fail (ofHttp (.noAnswer first))

theorem follow_final {first : Url} {r : Request} {go : Request → Action σ Response}
    {response : Response} (final : r.redirected? response = none) :
    follow first r go (.response response) = pure response := by
  simp only [follow, final]

theorem follow_elsewhere {first : Url} {r next : Request} {go : Request → Action σ Response}
    {response : Response} (elsewhere : r.redirected? response = some next) :
    follow first r go (.response response) = go next := by
  simp only [follow, elsewhere]

variable {web : Web σ} {proxy : Option Url} {first : Url} {redirects : Nat} {foreign : Bool}
  {r : Request}

theorem fetchFrom_unusable (unusable : isWeb r.url = false) :
    web.fetchFrom proxy first redirects foreign r = .fail (ofHttp (.unusableUrl r.url)) := by
  unfold fetchFrom
  simp [unusable]

theorem fetchFrom_zero (usable : isWeb r.url = true) :
    web.fetchFrom proxy first 0 foreign r = web.exchange proxy (leaving foreign r) >>=
      follow first r fun _ => .fail (ofHttp (.tooManyRedirects r.url)) := by
  unfold fetchFrom
  rw [usable]
  refine congrArg (web.exchange proxy (leaving foreign r) >>= ·) (funext fun reply => ?_)
  cases reply <;> rfl

theorem fetchFrom_succ (usable : isWeb r.url = true) :
    web.fetchFrom proxy first (redirects + 1) foreign r = web.exchange proxy (leaving foreign r) >>=
      follow first r fun next =>
        web.fetchFrom proxy first redirects (!Request.isSameServer r.url next.url) next := by
  conv => lhs; unfold fetchFrom
  rw [usable]
  refine congrArg (web.exchange proxy (leaving foreign r) >>= ·) (funext fun reply => ?_)
  cases reply <;> rfl

end Web

/-! ## Requests that are not redirected -/

/-- The session after a message. -/
def Session.exchanged (s : Session σ) (world : σ) (r : Request) (reply : Reply) : Session σ :=
  { s with world, exchanges := s.exchanges ++ [(r, reply)] }

/-- What a reply is to a request that is not redirected. -/
def outcomeOf (url : Url) : Reply → Except ApiError Response
  | .response response => .ok response
  | _ => .error (ofHttp (.noAnswer url))

/-- All is well after a success, so that there is nothing more to ask for. -/
theorem redirected?_of_success {r : Request} {response : Response}
    (success : isSuccess response.status = true) : r.redirected? response = none := by
  have bounds : 200 ≤ response.status ∧ response.status ≤ 299 := by
    simpa [isSuccess] using success
  rw [Option.eq_none_iff_forall_ne_some]
  intro next elsewhere
  obtain ⟨url, ⟨status, -⟩ | ⟨status, -⟩⟩ := redirected?_eq_some elsewhere <;>
    simp only [List.mem_cons, List.not_mem_nil, or_false] at status <;> omega

theorem redirected?_of_unlocated {r : Request} {response : Response}
    (h : response.header? "location" = none) : r.redirected? response = none := by
  rw [Option.eq_none_iff_forall_ne_some]
  intro next elsewhere
  obtain ⟨location, there, -⟩ := Option.bind_eq_some_iff.mp elsewhere
  cases h.symm.trans there

/-- No response asks for another request. -/
def Client.NeverRedirected (c : Client σ) : Prop :=
  ∀ r w response, (c.web.answer c.proxy r w).1 = .response response →
    r.redirected? response = none

theorem Client.fetch_direct {c : Client σ} {r : Request} {reply : Reply} {s : Session σ} {world : σ}
    (usable : isWeb r.url = true) (answer : c.web.answer c.proxy r s.world = (reply, world))
    (final : ∀ response, reply = .response response → r.redirected? response = none) :
    c.fetch r s = ((outcomeOf r.url reply).mapError .error, s.exchanged world r reply) := by
  have asked : c.web.exchange c.proxy r s = (.ok reply, s.exchanged world r reply) := by
    simp only [Web.exchange, answer]
    rfl
  unfold fetch Web.fetch
  rw [Web.fetchFrom_succ usable]
  refine (Action.bind_of_ok asked).trans ?_
  cases reply with
  | response response =>
    rw [Web.follow_final (final response rfl)]
    rfl
  | _ => rfl

end ClusterAccess.Api
