import ClusterAccess.Proofs.Api.Responses
import ClusterAccess.Proofs.Api.Turns

/-!
# How long a token is used

A token is used until shortly before its end, which is counted on the clock from when the token was
issued. The clock has an end as well. A token that is to be used beyond that cannot be kept, and
whoever asked for it gets nothing at all.

## Main definitions

* `Client.Needs`: there is no token, or its time is over.
* `Client.Granted`: a client needs a token, and is sent one.
* `Client.issue`: the token that it was sent.

## Main statements

* `Client.granted_of_overflow`: who runs into the end of the clock was sent a token.
* `Client.token_lifetimes`: a token is kept if its time ends on the clock, and only then.
-/
namespace ClusterAccess.Api

open Http

variable {σ α : Type}

namespace Client

variable (c : Client σ)

/-- There is no token, or its time is over; with the session after that was found out. -/
inductive Needs (s : Session σ) : Session σ → Prop
  | first (absent : s.issued = none) : Needs s s
  | due {token : IssuedToken} (stands : s.issued = some token)
      (late : token.refreshAt ≤ c.now s) : Needs s (c.later s)

/-- A client needs a token, asks for it, and is sent one. -/
inductive Granted (id : String) (secret : Secret) (s : Session σ) (answer : Token)
    (s' : Session σ) : Prop
  | intro {s₀ : Session σ} {r : Request} {response : Response} (needs : c.Needs s s₀)
      (made : c.tokenRequest id secret = .ok r) (fetched : c.fetch r s₀ = (.ok response, s'))
      (success : isSuccess response.status = true)
      (read : Json.readBytes Token.reader response.body = .ok answer)

/-- The token that was sent, as it is issued in a session. -/
def issue (answer : Token) (s : Session σ) : Issue :=
  ⟨.ofString answer.access, answer.expiresIn, c.now s⟩

variable {c} {id : String} {secret : Secret} {s s₀ s' : Session σ} {answer : Token}

/-! ## The token of a response -/

theorem tokenOf_granted {response : Response} (success : isSuccess response.status = true)
    (read : Json.readBytes Token.reader response.body = .ok answer) :
    c.tokenOf response s = if (c.issue answer s).isCountable
      then (.ok (c.issue answer s).token, { c.later s with issued := (c.issue answer s).kept })
      else (.error .overflow, c.later s) := by
  have time : refreshTime? (c.now s) answer.expiresIn =
      if (c.issue answer s).isCountable then some (c.issue answer s).due else none :=
    (c.issue answer s).refreshTime?_eq
  unfold tokenOf
  rw [if_neg (by simp [success]), read]
  refine (Action.bind_of_ok (c.lift_clock s)).trans ?_
  rw [time]
  cases (c.issue answer s).isCountable <;> rfl

/-! ## Coming by a token -/

theorem Needs.currentToken (needs : c.Needs s s₀) :
    c.currentToken id secret s = c.issueToken id secret s₀ := by
  unfold Client.currentToken
  rw [Action.bind_of_ok (show Action.issued s = (.ok s.issued, s) from rfl)]
  cases needs with
  | first absent => rw [absent]
  | due stands late =>
    rw [stands]
    refine (Action.bind_of_ok (c.lift_clock s)).trans ?_
    rw [if_neg (Nat.not_lt_of_le late)]

theorem Needs.issued (needs : c.Needs s s₀) : s₀.issued = s.issued := by
  cases needs <;> rfl

/-- Whoever needs no token uses the one that was issued last. -/
theorem currentToken_kept {token : IssuedToken} (stands : s.issued = some token)
    (inTime : c.now s < token.refreshAt) :
    c.currentToken id secret s = (.ok token.token, c.later s) := by
  unfold currentToken
  rw [Action.bind_of_ok (show Action.issued s = (.ok s.issued, s) from rfl), stands]
  refine (Action.bind_of_ok (c.lift_clock s)).trans ?_
  rw [if_pos inTime]
  rfl

theorem needs_or_kept (c : Client σ) (s : Session σ) :
    (∃ s₀, c.Needs s s₀) ∨ ∃ token, s.issued = some token ∧ c.now s < token.refreshAt := by
  cases issued : s.issued with
  | none => exact .inl ⟨s, .first issued⟩
  | some token =>
    rcases Nat.lt_or_ge (c.now s) token.refreshAt with inTime | late
    · exact .inr ⟨token, rfl, inTime⟩
    · exact .inl ⟨_, .due issued late⟩

theorem issueToken_made {r : Request} (made : c.tokenRequest id secret = .ok r) :
    c.issueToken id secret s = (c.fetch r >>= c.tokenOf) s := by
  rw [issueToken_eq, made]
  rfl

namespace Granted

variable (granted : c.Granted id secret s answer s')
include granted

theorem currentToken : c.currentToken id secret s = if (c.issue answer s').isCountable
      then (.ok (c.issue answer s').token, { c.later s' with issued := (c.issue answer s').kept })
      else (.error .overflow, c.later s') := by
  obtain ⟨needs, made, fetched, success, read⟩ := granted
  rw [needs.currentToken, issueToken_made made, Action.bind_of_ok fetched,
    tokenOf_granted success read]

/-- A token that is sent does not replace the one before until it is kept. -/
theorem issued : s'.issued = s.issued := by
  obtain ⟨needs, -, fetched, -, -⟩ := granted
  obtain ⟨hops, outcome, world, -, heard⟩ := c.fetch_hops _ _
  rw [fetched] at heard
  rw [(Prod.mk.inj heard).2, ← needs.issued]
  rfl

end Granted

/-- Only a token that is sent can be one that cannot be kept. -/
theorem granted_of_overflow (overflow : (c.currentToken id secret s).1 = .error .overflow) :
    ∃ answer s', c.Granted id secret s answer s' := by
  rcases c.needs_or_kept s with ⟨s₀, needs⟩ | ⟨token, stands, inTime⟩
  · rw [needs.currentToken] at overflow
    cases made : c.tokenRequest id secret with
    | error fault =>
      rw [issueToken_eq, made] at overflow
      cases overflow
    | ok r =>
      obtain ⟨hops, outcome, world, trail, fetched⟩ := c.fetch_hops r s₀
      rw [issueToken_made made] at overflow
      cases outcome with
      | error e =>
        rw [Action.bind_of_error fetched] at overflow
        cases overflow
      | ok response =>
        rw [Action.bind_of_ok fetched] at overflow
        have heard := tokenOf_heard (c := c) (s := s₀.heard world hops)
          (show Delivery (.ok r) hops (.ok response) from .sent trail)
        rw [overflow] at heard
        cases heard with
        | @endless other answer delivery success read =>
          cases delivery.lastResponse?_ok.symm.trans trail.lastResponse?_ok
          exact ⟨answer, _, needs, made, fetched, success, read⟩
  · rw [currentToken_kept stands inTime] at overflow
    cases overflow

/-! ## Signing in -/

theorem credentials_serviceAccount (auth : c.auth = .serviceAccount id secret) (s : Session σ) :
    c.credentials s =
      ((c.currentToken id secret s).1.map .bearer, (c.currentToken id secret s).2) := by
  unfold credentials
  rw [auth]
  exact Action.map_apply _ _ s

/-- A client that cannot sign in sends nothing. -/
theorem send_of_credentials {reader : Json.Reader α} {r : Except Http.Fault Request} {f : Failure}
    (h : c.credentials s = (.error f, s')) : c.send reader r s = (.error f, s') :=
  send_failed (Action.bind_of_error h)

theorem isCountable_issue {answer : Token} : (c.issue answer s).isCountable = true ↔
    c.now s / 1000000000 + (c.issue answer s).seconds < UInt64.size / 2 := decide_eq_true_iff

theorem Granted.kept (auth : c.auth = .serviceAccount id secret)
    (granted : c.Granted id secret s answer s')
    (ends : c.now s' / 1000000000 + (c.issue answer s').seconds < UInt64.size / 2) :
    c.credentials s = (.ok (.bearer (.ofString answer.access)),
      { c.later s' with issued := (c.issue answer s').kept }) := by
  rw [credentials_serviceAccount auth, granted.currentToken, if_pos (isCountable_issue.mpr ends)]
  rfl

theorem Granted.lost (auth : c.auth = .serviceAccount id secret)
    (granted : c.Granted id secret s answer s')
    (endless : ¬ c.now s' / 1000000000 + (c.issue answer s').seconds < UInt64.size / 2) :
    c.credentials s = (.error .overflow, c.later s') := by
  rw [credentials_serviceAccount auth, granted.currentToken,
    if_neg fun countable => endless (isCountable_issue.mp countable)]
  rfl

/-- A token that a client is sent is kept if its time ends on the clock, and the client signs in
with it until then. If its time does not end on the clock, the client fails, and so does every
request for which it was to sign in; what was kept before stays. Nothing else makes it fail in this
way. -/
theorem token_lifetimes (auth : c.auth = .serviceAccount id secret) (s : Session σ) :
    (∀ answer s', c.Granted id secret s answer s' →
      if c.now s' / 1000000000 + (c.issue answer s').seconds < UInt64.size / 2 then
        c.credentials s = (.ok (.bearer (.ofString answer.access)),
          { c.later s' with issued := (c.issue answer s').kept }) ∧
        ∀ s₂ : Session σ, s₂.issued = some (c.issue answer s').kept →
          c.now s₂ < c.now s' + (c.issue answer s').seconds * 1000000000 →
          c.credentials s₂ = (.ok (.bearer (.ofString answer.access)), c.later s₂)
      else c.credentials s = (.error .overflow, c.later s') ∧ (c.later s').issued = s.issued ∧
        ∀ (α : Type) (reader : Json.Reader α) (r : Except Http.Fault Request),
          c.send reader r s = (.error .overflow, c.later s')) ∧
    ((c.credentials s).1 = .error .overflow → ∃ answer s', c.Granted id secret s answer s' ∧
      UInt64.size / 2 ≤ c.now s' / 1000000000 + (c.issue answer s').seconds) := by
  refine ⟨fun answer s' granted => ?_, fun overflow => ?_⟩
  · split
    next ends =>
      refine ⟨granted.kept auth ends, fun s₂ stands inTime => ?_⟩
      rw [credentials_serviceAccount auth, currentToken_kept stands inTime]
      rfl
    next endless =>
      have failed := granted.lost auth endless
      exact ⟨failed, granted.issued, fun _ _ _ => send_of_credentials failed⟩
  · have failed : (c.currentToken id secret s).1 = .error .overflow := by
      rw [credentials_serviceAccount auth] at overflow
      cases current : (c.currentToken id secret s).1 with
      | error f => simpa [current, Except.map] using overflow
      | ok token => simp [current, Except.map] at overflow
    obtain ⟨answer, s', granted⟩ := granted_of_overflow failed
    refine ⟨answer, s', granted, Nat.le_of_not_lt fun ends => ?_⟩
    rw [granted.kept auth ends] at overflow
    cases overflow

/-- A grant of a token that lives for so many seconds. -/
def grant (lifetime : Nat) : Response where
  status := 200
  body := Text.utf8Bytes
    ("\x7b\"access_token\":\"t\",\"expires_in\":" ++ toString lifetime ++ "\x7d")

/-- A service account that is sent such tokens, when the clock shows five seconds. -/
def grantedAccount (lifetime : Nat) : Client Unit where
  web :=
    { answer := fun _ _ w => (.response (grant lifetime), w)
      clock := fun w => (5000000000, w)
      nonce := fun w => ("", w) }
  auth := .serviceAccount "id" ⟨"secret"⟩
  base := { scheme := "https", host := some (.domain "host"), path := .segments [""] }
  tokenUrl := { scheme := "https", host := some (.domain "host"), path := .segments ["token"] }
  proxy := none

/-- Its request for a token. -/
def grantRequest : Request where
  method := .post
  url := { scheme := "https", host := some (.domain "host"), path := .segments ["token"] }
  accept := "application/json"
  authorization := ["Basic aWQ6c2VjcmV0"]
  body := some ⟨"application/x-www-form-urlencoded", "grant_type=client_credentials"⟩

/-- The session after the first token was sent. -/
def grantedSession (lifetime : Nat) : Session Unit :=
  { world := (), exchanges := [(grantRequest, .response (grant lifetime))] }

theorem grantedAccount_granted (lifetime : Nat)
    (read : Json.readBytes Token.reader (grant lifetime).body =
      .ok { access := "t", expiresIn := some lifetime }) :
    (grantedAccount lifetime).Granted "id" ⟨"secret"⟩ { world := () }
      { access := "t", expiresIn := some lifetime } (grantedSession lifetime) := by
  have made : (grantedAccount lifetime).tokenRequest "id" ⟨"secret"⟩ = .ok grantRequest := by
    apply ok_of_toOption
    rw [tokenRequest, show (grantedAccount lifetime).tokenUrl = grantRequest.url from rfl]
    decide +kernel
  have fetched : (grantedAccount lifetime).fetch grantRequest { world := () } =
      (.ok (grant lifetime), grantedSession lifetime) :=
    fetch_direct (by decide +kernel) rfl fun _ same =>
      Reply.response.inj same ▸ redirected?_of_success rfl
  exact .intro (.first rfl) made fetched rfl read

/-- A token for an hour is used for 59 minutes. -/
theorem token_lifetimes_hour :
    (grantedAccount 3600).auth = .serviceAccount "id" ⟨"secret"⟩ ∧
    (grantedAccount 3600).credentials { world := () } =
      (.ok (.bearer ⟨"t"⟩),
        { grantedSession 3600 with issued := some ⟨⟨"t"⟩, 3545000000000⟩ }) := by
  have granted := grantedAccount_granted 3600 (ok_of_toOption (by decide +kernel))
  have law := (token_lifetimes rfl { world := () }).1 _ _ granted
  rw [if_pos (by decide)] at law
  exact ⟨rfl, law.1⟩

/-- A token that lives for as long as can be said is sent, and the client has no credentials. -/
theorem credentials_overflow :
    (grantedAccount 18446744073709551615).Granted "id" ⟨"secret"⟩ { world := () }
      { access := "t", expiresIn := some 18446744073709551615 }
      (grantedSession 18446744073709551615) ∧
    (grantedAccount 18446744073709551615).credentials { world := () } =
      (.error .overflow, grantedSession 18446744073709551615) := by
  have granted := grantedAccount_granted 18446744073709551615
    (ok_of_toOption (by decide +kernel))
  exact ⟨granted, granted.lost rfl (by decide)⟩

end Client
end ClusterAccess.Api
