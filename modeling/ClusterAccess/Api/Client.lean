import ClusterAccess.Api.Auth
import ClusterAccess.Api.Session
import ClusterAccess.Digest.Answer
import ClusterAccess.Proxy.Settings

/-!
# The client of the administration interface

## Main definitions

* `Client`, `Client.create`: a client for the interface at some URL.
* `Client.credentials`: what to sign in with; service accounts are given tokens.
* `Client.send`: a request, answered with a value.
* `Client.createAccount`, `Client.clusterInfo`, `Client.accounts`: the calls.
-/
namespace ClusterAccess.Api

open Http

structure Client (σ : Type) where
  web : Web σ
  auth : Auth
  base : Url
  /-- Where tokens are issued. -/
  tokenUrl : Url
  proxy : Option Url

/-- The public interface. -/
def defaultBase : String := "https://cloud.mongodb.com"

/-- How the client names itself. -/
def userAgent : String := "atlas-broker/0.1.0"

/-- The media type of answers, which fixes the version of the interface. -/
def versionedJson : String := "application/vnd.atlas.2025-03-12+json"

/-- A URL with segments added to its path. -/
def join (base : Url) (segments : List String) : Except ApiError Url :=
  match base.pushSegments? segments with
  | some u => .ok u
  | none => .error (.invalidUrl s!"{base.render} cannot be a base URL")

namespace Client

/-- A client for the interface at `base`. If there is a proxy, and its URL is one that HTTP can
handle, all requests go through it. -/
def create (web : Web σ) (base : String) (auth : Auth) (proxy : ProxySettings) :
    Except ApiError (Client σ) := do
  let base ← (Url.parse base).mapError fun fault => .invalidUrl s!"{base}: {fault.message}"
  let proxy ← proxy.url.mapError fun e => .proxy e.message
  let tokenUrl ← join base ["api", "oauth", "token"]
  pure { web, auth, base, tokenUrl, proxy := proxy.filter isReachable }

variable (c : Client σ)

def endpoint (segments : List String) : Except ApiError Url :=
  join c.base (["api", "atlas", "v2"] ++ segments)

def fetch (r : Request) : Action σ Response := c.web.fetch c.proxy r

/-! ## Signing in -/

/-- What a single request is signed in with. -/
inductive Credentials where
  | bearer (token : Secret)
  | digest (username : String) (password : Secret)
  deriving DecidableEq

def nanosecondsPerSecond : Nat := 1000000000

/-- Tokens are given up so many seconds before they expire. -/
def refreshMargin : Nat := 60

/-- How many seconds a token lives if that is not said. -/
def usualLifetime : Nat := 3600

/-- The last second on the clock. -/
def lastSecond : Nat := UInt64.size / 2 - 1

/-- The time at which a token is given up that is issued now; `none` beyond the end of the clock. -/
def refreshTime? (now : Nat) (expiresIn : Option Nat) : Option Nat :=
  let seconds := expiresIn.getD usualLifetime - refreshMargin
  if now / nanosecondsPerSecond + seconds ≤ lastSecond then
    some (now + seconds * nanosecondsPerSecond)
  else none

/-- The request for a token. -/
def tokenRequest (id : String) (secret : Secret) : Except Http.Fault Request := do
  let r ← Request.start .post c.tokenUrl
  let r ← r.authorized (basicAuthorization id secret.expose)
  pure { r with
    accept := "application/json"
    body := some ⟨"application/x-www-form-urlencoded", "grant_type=client_credentials"⟩ }

/-- Has a token issued and keeps it. -/
def issueToken (id : String) (secret : Secret) : Action σ Secret := do
  let r ← .ofExcept ofHttp (c.tokenRequest id secret)
  let response ← c.fetch r
  if !isSuccess response.status then
    .fail (.auth s!"token endpoint returned HTTP {response.status}")
  else match Json.readBytes Token.reader response.body with
    | .error _ => .fail (ofHttp .undecodable)
    | .ok answer => do
      let now ← .lift c.web.clock
      match refreshTime? now answer.expiresIn with
      | some refreshAt =>
        let token : Secret := .ofString answer.access
        Action.setIssued (some ⟨token, refreshAt⟩)
        pure token
      | none => Action.overflow

/-- The token that was issued last, or else a new one if the time has come to give that up. -/
def currentToken (id : String) (secret : Secret) : Action σ Secret := do
  match ← Action.issued with
  | none => c.issueToken id secret
  | some issued =>
    let now ← .lift c.web.clock
    if now < issued.refreshAt then pure issued.token else c.issueToken id secret

def credentials : Action σ Credentials :=
  match c.auth with
  | .bearer token => pure (.bearer token)
  | .apiKey publicKey privateKey => pure (.digest publicKey privateKey)
  | .serviceAccount id secret => do return .bearer (← c.currentToken id secret)

/-! ## Requests -/

/-- Whether a header value can be read as text. -/
def isReadable (value : String) : Bool :=
  value.toList.all fun c => c == '\t' || (0x20 ≤ c.toNat && c.toNat < 0x7F)

/-- The authorization for a request that was answered with a challenge. -/
def digestAuthorization (challenge : Digest.Challenge) (username : String) (password : Secret)
    (clientNonce : String) (r : Request) : String :=
  (challenge.answer {
    username, password := password.expose, method := r.method.name, uri := r.url.target,
    body := r.body.map fun b => Text.utf8Bytes b.text, clientNonce }).render

/-- Sends a request first without authorization, and then once more to answer a challenge. -/
def fetchWithDigest (username : String) (password : Secret) (r : Request) :
    Action σ Response := do
  let first ← c.fetch r
  if first.status ≠ 401 then pure first
  else match (first.header? "www-authenticate").filter isReadable with
    | none => .fail (.auth "401 without a digest challenge")
    | some header => match Digest.Challenge.parse header with
      | .error fault => .fail (.auth s!"unusable digest challenge: {fault.message}")
      | .ok challenge => do
        let clientNonce ← .lift c.web.nonce
        let authorization := digestAuthorization challenge username password clientNonce r
        if isHeaderText authorization then c.fetch { r with authorization := [authorization] }
        else .fail (.auth "failed to parse header value")

/-- What is said of a response other than success: the detail, or else the reason, or else the text
itself, or else the usual phrase. -/
def refusal (status : Nat) (text : String) : ApiError :=
  let body := match Json.read ErrorBody.reader text with
    | .ok body => body
    | .error _ => {}
  let said := (body.detail.or body.reason).filter (!·.isEmpty)
  let written := some (Text.trimmed text) |>.filter (!·.isEmpty)
  .refused status body.code ((said.or written).getD ((reason? status).getD "no details"))

/-- The value of a response. After status 401 the issued token is forgotten. -/
def conclude (reader : Json.Reader α) (response : Response) : Action σ α :=
  if isSuccess response.status then .ofExcept .json (Json.read reader response.text)
  else do
    if response.status = 401 then Action.setIssued none
    .fail (refusal response.status response.text)

/-- Signs in and sends a request. -/
def send (reader : Json.Reader α) (r : Except Http.Fault Request) : Action σ α := do
  let r := r.map fun r => { r with accept := versionedJson }
  let response ← match ← c.credentials with
    | .bearer token => do
      let r ← .ofExcept ofHttp (r.bind (·.authorized (bearerAuthorization token.expose)))
      c.fetch r
    | .digest username password => do
      let r ← .ofExcept ofHttp r
      c.fetchWithDigest username password r
  conclude reader response

/-! ## Calls -/

/-- Creates an account in a project. -/
def createAccount (project : String) (request : AccountRequest) : Action σ Account := do
  let url ← .ofExcept id (c.endpoint ["groups", project, "databaseUsers"])
  let body : Body := ⟨"application/json", (createBody project request).compact⟩
  let user ← c.send User.reader ((Request.start .post url).map fun r => { r with body })
  pure (user.toAccount project)

/-- Looks up a cluster. -/
def clusterInfo (project cluster : String) : Action σ ClusterInfo := do
  let url ← .ofExcept id (c.endpoint ["groups", project, "clusters", cluster])
  let found ← c.send ClusterDescription.reader (Request.start .get url)
  pure (found.toInfo project)

/-- How many users a full page has. -/
def pageSize : Nat := 100

def pageQuery (page : Nat) : String :=
  s!"pageNum={page}&itemsPerPage={pageSize}&includeCount=true"

/-- Whether the page with so many users is the last, when there are `count` up to there. -/
def isLast (page : Page) (count : Nat) : Bool :=
  page.results.length < pageSize || page.total.any (· ≤ count)

/-- The accounts of the pages from `page` on, behind those found before. -/
def accountsFrom (project : String) (url : Url) :
    Nat → Nat → List Account → Action σ (List Account)
  | 0, _, _ => Action.overflow
  | pages + 1, page, found => do
    let request := (Request.start .get url).map fun r =>
      { r with url := r.url.appendQuery (pageQuery page) }
    let answer ← c.send Page.reader request
    let found := found ++ answer.results.map (·.toAccount project)
    if isLast answer found.length then pure found
    else accountsFrom project url pages (page + 1) found

/-- All accounts of a project, page by page. -/
def accounts (project : String) : Action σ (List Account) := do
  let url ← .ofExcept id (c.endpoint ["groups", project, "databaseUsers"])
  c.accountsFrom project url (UInt64.size - 1) 1 []

end Client
end ClusterAccess.Api
