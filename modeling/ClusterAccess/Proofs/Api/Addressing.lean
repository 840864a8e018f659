import ClusterAccess.Proofs.Api.Lasting
import ClusterAccess.Proofs.Api.Messages
import ClusterAccess.Proofs.Url.Paths

/-!
# Where calls are made

The place of a call is found from the base by adding segments, of which some are names that a caller
may choose. Literal names are read back from the place, so that no two of them lead to one place.

## Main definitions

* `Call.names`: the names that a caller chooses.
* `Visited`, `Client.SendsTo`: where messages are sent, and where a call sends its messages.
* `Client.Addressed`: the place of a call, and what is read back from it.

## Main statements

* `Client.perform_visited`: all messages of a call are sent there.
* `Client.create_eq_ok`: what a client is made of.
* `Client.addressing_law`: the places of all calls of a client.
-/
namespace ClusterAccess.Api

open Http Url

variable {σ α : Type}

/-! ## Where messages are sent -/

/-- All messages between two sessions were sent to places of some kind. -/
def Visited (place : Url → Prop) (s s' : Session σ) : Prop :=
  ∃ messages, s'.exchanges = s.exchanges ++ messages ∧ ∀ m ∈ messages, place m.1.url

theorem Visited.same {place : Url → Prop} {s s' : Session σ} (h : s'.exchanges = s.exchanges) :
    Visited place s s' :=
  ⟨[], by rw [h, List.append_nil], by simp⟩

theorem Visited.lasting (place : Url → Prop) : Lasting (Visited (σ := σ) place) where
  refl s := .same rfl
  trans := by
    rintro s₁ s₂ s₃ ⟨messages, added, there⟩ ⟨messages', added', there'⟩
    refine ⟨messages ++ messages', by rw [added', added, List.append_assoc], ?_⟩
    exact List.forall_mem_append.mpr ⟨there, there'⟩

/-- The same place, perhaps with another user part. -/
def SamePlace (url there : Url) : Prop :=
  ∃ username password, there = { url with username, password }

theorem samePlace_of_start {method : Method} {url : Url} {r : Request}
    (h : Request.start method url = .ok r) : SamePlace url r.url := by
  unfold Request.start at h
  split at h
  · cases h
    split
    · exact ⟨_, _, rfl⟩
    · exact ⟨_, _, rfl⟩
  · cases h

namespace Client

variable {c : Client σ} {place : Url → Prop}

theorem fetch_visited (direct : c.NeverRedirected) {r : Request} (there : place r.url) :
    (c.fetch r).Keeps (Visited place) := by
  intro s
  cases usable : isWeb r.url with
  | false =>
    have fetched : c.fetch r = .fail (ofHttp (.unusableUrl r.url)) := Web.fetchFrom_unusable usable
    rw [fetched]
    exact .same rfl
  | true =>
    rw [fetch_direct usable rfl fun response same => direct r s.world response same]
    exact ⟨_, rfl, by simpa using there⟩

theorem samePlace_of_tokenRequest {id : String} {secret : Secret} {r : Request}
    (h : c.tokenRequest id secret = .ok r) : SamePlace c.tokenUrl r.url := by
  unfold tokenRequest at h
  cases started : Request.start .post c.tokenUrl with
  | error fault =>
    rw [started] at h
    cases h
  | ok r₀ =>
    rw [started] at h
    simp only [Bind.bind, Except.bind, Request.authorized] at h
    split at h
    · cases h
    next r₁ authorized =>
      split at authorized <;> cases authorized
      cases h
      exact (samePlace_of_start started :)

theorem credentials_visited (direct : c.NeverRedirected)
    (there : ∀ url, SamePlace c.tokenUrl url → place url) :
    c.credentials.Keeps (Visited place) := by
  have lasting := Visited.lasting (σ := σ) place
  have issue (id : String) (secret : Secret) : (c.issueToken id secret).Keeps (Visited place) := by
    unfold issueToken
    refine lasting.ofExcept_bind fun r made => lasting.bind
      (fetch_visited direct (there _ (samePlace_of_tokenRequest made))) fun response =>
        .ite (lasting.fail _) ?_
    cases Json.readBytes Token.reader response.body with
    | error => exact lasting.fail _
    | ok answer =>
      refine lasting.bind (fun s => .same rfl) fun now => ?_
      cases refreshTime? now answer.expiresIn with
      | none => exact fun s => .same rfl
      | some refreshAt => exact lasting.bind (fun s => .same rfl) fun _ => lasting.pure _
  unfold credentials
  cases c.auth with
  | bearer => exact lasting.pure _
  | apiKey => exact lasting.pure _
  | serviceAccount id secret =>
    refine lasting.bind ?_ fun _ => lasting.pure _
    unfold currentToken
    refine lasting.bind (fun s => .same rfl) fun issued => ?_
    cases issued with
    | none => exact issue id secret
    | some issued =>
      exact lasting.bind (fun s => .same rfl) fun now => .ite (lasting.pure _) (issue id secret)

end Client

/-- Where a request of a call goes that has its place at `url`. -/
def Call.AsksAt (call : Call) (url there : Url) : Prop :=
  ∃ n, SamePlace (call.plain url n).url there

theorem Call.asksAt_of_request {call : Call} {url : Url} {n : Nat} {r : Request}
    (h : call.request url n = .ok r) : call.AsksAt url r.url := by
  have made {method : Method} {change : Request → Request}
      (h : (Request.start method url).map change = .ok r) :
      ∃ r₀, SamePlace url r₀.url ∧ change r₀ = r := by
    cases started : Request.start method url with
    | error fault =>
      rw [started] at h
      cases h
    | ok r₀ =>
      rw [started] at h
      cases h
      exact ⟨r₀, samePlace_of_start started, rfl⟩
  cases call with
  | create project request =>
    obtain ⟨r₀, there, rfl⟩ := made h
    exact ⟨n, there⟩
  | lookUp project cluster => exact ⟨n, samePlace_of_start h⟩
  | list project =>
    obtain ⟨r₀, ⟨username, password, there⟩, rfl⟩ := made h
    refine ⟨n, username, password, ?_⟩
    dsimp only
    rw [there]
    rfl

namespace Client

variable {c : Client σ}

/-- Where messages go for a call with its place at `url`: there, or to where tokens are issued. -/
def SendsTo (c : Client σ) (call : Call) (url there : Url) : Prop :=
  call.AsksAt url there ∨ SamePlace c.tokenUrl there

/-- All messages of a call are sent to its place, or to where tokens are issued. -/
theorem perform_visited (direct : c.NeverRedirected) {call : Call} {url : Url}
    (place : c.endpoint call.segments = .ok url) (s : Session σ) :
    Visited (c.SendsTo call url) s (c.perform call s).2 := by
  have allows : c.Allows (Visited (c.SendsTo call url)) fun r => c.SendsTo call url r.url :=
    { Visited.lasting _ with
      credentials := credentials_visited direct fun _ => .inr
      fetch := fun there => fetch_visited direct there
      nonce := fun s => .same rfl
      forget := fun s => .same rfl }
  refine allows.perform (fun url' n r place' made authorization => .inl ?_) s
  rw [place] at place'
  cases place'
  exact (Call.asksAt_of_request made :)

end Client

/-! ## Places -/

/-- The names that a caller chooses. -/
def Call.names : Call → List String
  | create project _ | list project => [project]
  | lookUp project cluster => [project, cluster]

theorem Call.literal_segments {call : Call} :
    (∀ n ∈ call.segments, Literal n) ↔ ∀ n ∈ call.names, Literal n := by
  have fixed : Literal "groups" ∧ Literal "databaseUsers" ∧ Literal "clusters" := by
    decide +kernel
  cases call <;> simp [segments, names, fixed]

namespace Client

/-- The place of a call, below a base whose path has the segments `items`. -/
structure Addressed (c : Client σ) (items : List String) (call : Call) (url : Url)
    (added : List String) : Prop where
  place : c.endpoint call.segments = .ok url
  /-- Nothing but the path comes from the call. -/
  kept : url = { c.base with path := url.path }
  pieces : url.path.pieces = "" :: stem items ++ added
  /-- What was added is read back if all names are literal, and only then. -/
  read_iff : added.map Text.Percent.decode? =
    (["api", "atlas", "v2"] ++ call.segments).map some ↔ ∀ n ∈ call.names, Literal n

variable {c : Client σ}

theorem addressed {items : List String} (path : c.base.path = .segments items) (whole : Whole items)
    (call : Call) : ∃ url added, c.Addressed items call url added := by
  obtain ⟨added, pushed, whole', read_iff⟩ := pushSegments?_pushed path (by decide)
    (by decide +kernel : Literal "api" ∧ Literal "atlas") ("v2" :: call.segments)
  have stemWhole : Whole (stem items) := fun i mem => whole i (stem_subset items mem)
  refine ⟨{ c.base with path := .segments (stem items ++ added) }, added, ?_, rfl, ?_, ?_⟩
  · unfold endpoint join
    rw [List.cons_append, List.cons_append, List.singleton_append, pushed]
  · exact Path.pieces_segments (stemWhole.append whole')
  · rw [← Call.literal_segments]
    refine read_iff.trans ?_
    rw [List.forall_mem_cons]
    exact and_iff_right (by decide +kernel)

/-- What a client is made of. -/
theorem create_eq_ok {web : Web σ} {text : String} {auth : Auth} {proxy : ProxySettings}
    (made : create web text auth proxy = .ok c) :
    c.web = web ∧ c.auth = auth ∧ Url.parse text = .ok c.base ∧
      join c.base ["api", "oauth", "token"] = .ok c.tokenUrl := by
  unfold create at made
  cases parsed : Url.parse text with
  | error fault =>
    rw [parsed] at made
    cases made
  | ok base =>
    rw [parsed] at made
    simp only [Except.mapError, Bind.bind, Except.bind] at made
    split at made
    · cases made
    split at made
    · cases made
    next joined =>
      cases made
      exact ⟨rfl, rfl, rfl, joined⟩

/-- The base of a client has segments, or else none could be added. -/
theorem segments_of_create {web : Web σ} {text : String} {auth : Auth} {proxy : ProxySettings}
    (made : create web text auth proxy = .ok c) :
    ∃ items, c.base.path = .segments items ∧ Whole items := by
  obtain ⟨-, -, parsed, joined⟩ := create_eq_ok made
  cases path : c.base.path with
  | rootless text => simp [join, pushSegments?, path] at joined
  | segments items => exact ⟨items, rfl, whole_of_parse parsed items path⟩

/-- Below the base of a client, every call has a place of its own, from which its names are read
back if they are literal. -/
theorem addressing_law {web : Web σ} {text : String} {auth : Auth} {proxy : ProxySettings}
    (made : create web text auth proxy = .ok c) :
    ∃ items, c.base.path = .segments items ∧ c.base.path.pieces = "" :: items ∧
      (∀ call, ∃ url added, c.Addressed items call url added ∧
        (c.NeverRedirected → ∀ s, Visited (c.SendsTo call url) s (c.perform call s).2)) ∧
      ∀ (call call' : Call) url url', c.endpoint call.segments = .ok url →
        c.endpoint call'.segments = .ok url' → (∀ n ∈ call.names ++ call'.names, Literal n) →
          url.path.render = url'.path.render → call.segments = call'.segments := by
  obtain ⟨items, path, whole⟩ := segments_of_create made
  refine ⟨items, path, path ▸ Path.pieces_segments whole, fun call => ?_,
    fun call call' url url' place place' literal same => ?_⟩
  · obtain ⟨url, added, addressed⟩ := addressed path whole call
    exact ⟨url, added, addressed, fun direct => perform_visited direct addressed.place⟩
  · have read (call : Call) (url : Url) (place : c.endpoint call.segments = .ok url)
        (literal : ∀ n ∈ call.names, Literal n) : ∃ added,
        url.path.pieces = "" :: stem items ++ added ∧
        added.map Text.Percent.decode? = (["api", "atlas", "v2"] ++ call.segments).map some := by
      obtain ⟨url', added, addressed⟩ := addressed path whole call
      cases place.symm.trans addressed.place
      exact ⟨added, addressed.pieces, addressed.read_iff.mpr literal⟩
    obtain ⟨literal, literal'⟩ := List.forall_mem_append.mp literal
    obtain ⟨added, pieces, names⟩ := read call url place literal
    obtain ⟨added', pieces', names'⟩ := read call' url' place' literal'
    have samePieces : url.path.pieces = url'.path.pieces := by rw [Path.pieces, same, Path.pieces]
    rw [pieces, pieces', List.append_cancel_left_eq] at samePieces
    rw [samePieces, names', List.map_inj_right fun _ _ => Option.some.inj,
      List.append_cancel_left_eq] at names
    exact names.symm

/-- A world in which nothing is found. -/
def nowhere : Web Unit where
  answer _ _ w := (.response { status := 404 }, w)
  clock w := (0, w)
  nonce w := ("", w)

theorem neverRedirected_of_nowhere {c : Client Unit} (web : c.web = nowhere) :
    c.NeverRedirected := by
  intro r w response answer
  rw [web] at answer
  cases answer
  exact redirected?_of_unlocated rfl

/-- The host of the local machine, with this path. -/
def localBase (items : List String) : Url :=
  { scheme := "https", host := some (.address (.v6 [0, 0, 0, 0, 0, 0, 0, 1])),
    path := .segments items }

theorem exists_client (text : String) (items : List String)
    (created : (create nowhere text (.bearer ⟨"t"⟩) {}).toOption.map (·.base) =
      some (localBase items)) :
    ∃ c : Client Unit,
      create nowhere text (.bearer ⟨"t"⟩) {} = .ok c ∧ c.base = localBase items := by
  cases made : create nowhere text (.bearer ⟨"t"⟩) {} with
  | error e =>
    rw [made] at created
    cases created
  | ok c =>
    rw [made] at created
    exact ⟨c, rfl, Option.some.inj created⟩

/-- A name with a slash and a blank, below a base with a path. -/
theorem addressing_law_escaped : ∃ c : Client Unit,
    create nowhere "https://[::1]/v1/" (.bearer ⟨"t"⟩) {} = .ok c ∧ c.NeverRedirected ∧
    ∃ url added, c.Addressed ["v1", ""] (.lookUp "p" "a/b c") url added ∧
      url.target = "/v1/api/atlas/v2/groups/p/clusters/a%2Fb%20c" ∧
      Visited (c.SendsTo (.lookUp "p" "a/b c") url) { world := () }
        (c.perform (.lookUp "p" "a/b c") { world := () }).2 := by
  obtain ⟨c, made, base⟩ := exists_client "https://[::1]/v1/" ["v1", ""]
    (by decide +kernel)
  obtain ⟨items, path, -, calls, -⟩ := addressing_law made
  rw [base] at path
  cases path
  have direct := neverRedirected_of_nowhere (create_eq_ok made).1
  obtain ⟨url, added, addressed, visited⟩ := calls (.lookUp "p" "a/b c")
  refine ⟨c, made, direct, url, added, addressed, ?_, visited direct _⟩
  have place : (c.endpoint (Call.lookUp "p" "a/b c").segments).toOption.map Url.target =
      some "/v1/api/atlas/v2/groups/p/clusters/a%2Fb%20c" := by
    unfold endpoint
    rw [base]
    decide +kernel
  rw [addressed.place] at place
  exact Option.some.inj place

/-- What is asked for at the place of a call. -/
def target? (c : Client σ) (call : Call) : Option String :=
  (c.endpoint call.segments).toOption.map Url.target

/-- A name may be cut, left out or followed, so that calls with different names share one place, and
a cluster is looked up where accounts are listed. -/
theorem places_shared : ∃ c : Client Unit,
    create nowhere "https://[::1]" (.bearer ⟨"t"⟩) {} = .ok c ∧
    c.target? (.lookUp "p" "a\tb") = some "/api/atlas/v2/groups/p/clusters/ab" ∧
    c.target? (.lookUp "p" "ab") = some "/api/atlas/v2/groups/p/clusters/ab" ∧
    c.target? (.lookUp "p" "..") = some "/api/atlas/v2/groups/p/clusters" ∧
    c.target? (.lookUp "p" "..\t") = some "/api/atlas/v2/groups/p/" ∧
    c.target? (.lookUp ".." "databaseUsers") = some "/api/atlas/v2/groups/clusters/databaseUsers" ∧
    c.target? (.list "clusters") = some "/api/atlas/v2/groups/clusters/databaseUsers" := by
  obtain ⟨c, made, base⟩ := exists_client "https://[::1]" [""]
    (by decide +kernel)
  refine ⟨c, made, ?_⟩
  unfold target? endpoint
  rw [base]
  decide +kernel

end Client
end ClusterAccess.Api
