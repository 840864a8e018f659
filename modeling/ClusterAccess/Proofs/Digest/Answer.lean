import ClusterAccess.Proofs.Digest.Header

/-!
# What a server finds in a digest answer

A server that knows the password hashes what an answer says of the request, and compares the result
with the hash that the answer brings.

## Main definitions

* `expectedUser?`, `expected?`: the hash that a server expects, from the fields of a header.
* `Challenge.Proves`: what a header shows to the server that made the challenge.

## Main statements

* `Challenge.answer_proves`: an answer shows that.
-/
namespace ClusterAccess.Digest

/-- What stands for the user and the password, from the fields of a header. -/
def expectedUser? (algorithm : Algorithm) (username password : String)
    (fields : List (String × String)) : Option String := do
  let realm ← lastValue? "realm" fields
  let plain := algorithm.hashOf [username, realm, password]
  if algorithm.isSession then do
    let nonce ← lastValue? "nonce" fields
    let clientNonce ← lastValue? "cnonce" fields
    some (algorithm.hashOf [plain, nonce, clientNonce])
  else some plain

/-- The hash that a server expects. It knows the user's name and password and the request; the rest
it takes from the fields of the header. -/
def expected? (algorithm : Algorithm) (username password method : String) (body : List UInt8)
    (fields : List (String × String)) : Option String := do
  let user ← expectedUser? algorithm username password fields
  let nonce ← lastValue? "nonce" fields
  let uri ← lastValue? "uri" fields
  match lastValue? "qop" fields with
  | none => some (algorithm.hashOf [user, nonce, algorithm.hashOf [method, uri]])
  | some protection => do
    let count ← lastValue? "nc" fields
    let clientNonce ← lastValue? "cnonce" fields
    let request :=
      if protection = "auth-int" then
        [method, uri, String.ofList (Text.Hex.ofBytes (algorithm.hash body))]
      else [method, uri]
    some (algorithm.hashOf [user, nonce, count, clientNonce, protection, algorithm.hashOf request])

namespace Challenge

/-- What the fields of a header show to the server that made the challenge. -/
structure Proves (c : Challenge) (a : Attempt) (fields : List (String × String)) : Prop where
  /-- The user is named as the server wants it. -/
  username : lastValue? "username" fields =
    some (if c.hidesUser then c.algorithm.hashOf [a.username, c.realm] else a.username)
  hidesUser : lastValue? "userhash" fields = if c.hidesUser then some "true" else none
  realm : lastValue? "realm" fields = some c.realm
  nonce : lastValue? "nonce" fields = some c.nonce
  uri : lastValue? "uri" fields = some a.uri
  echo : lastValue? "opaque" fields = c.echo
  /-- An algorithm that is not named is the one of old. -/
  algorithm : ((lastValue? "algorithm" fields).bind Algorithm.ofName? = some c.algorithm) ∨
    lastValue? "algorithm" fields = none ∧ c.algorithm.function = .md5
  /-- Something is vouched for if the server has said what it may be. -/
  protection : (lastValue? "qop" fields).isSome = c.protections.isSome
  /-- The hash is right if the server can know the client's nonce. -/
  response : c.protections.isSome = true ∨ c.algorithm.isSession = false →
    ∃ response, lastValue? "response" fields = some response ∧
      expected? c.algorithm a.username a.password a.method (a.body.getD []) fields = some response

/-- The body is vouched for only if there is one. -/
theorem requestHash_eq (c : Challenge) (a : Attempt) :
    c.requestHash a = c.algorithm.hashOf (if c.protection? a.body.isSome = some .body then
      [a.method, a.uri, String.ofList (Text.Hex.ofBytes (c.algorithm.hash (a.body.getD [])))]
    else [a.method, a.uri]) := by
  unfold requestHash protection?
  cases c.protections with
  | none => rfl
  | some ps =>
    cases a.body with
    | none => simp
    | some body => by_cases offered : Protection.body ∈ ps <;> simp [offered]

theorem expectedUser?_of_told {c : Challenge} {a : Attempt} {fields : List (String × String)}
    (told : (c.answer a).Told fields)
    (known : c.protections.isSome = true ∨ c.algorithm.isSession = false) :
    expectedUser? c.algorithm a.username a.password fields = some (c.userHash a) := by
  unfold expectedUser? userHash
  rw [told.realm, told.nonce, told.clientNonce]
  cases session : c.algorithm.isSession with
  | false => rfl
  | true =>
    have offered : c.protections.isSome = true := by simpa [session] using known
    obtain ⟨ps, protections⟩ := Option.isSome_iff_exists.mp offered
    simp only [answer, protection?, protections]
    rfl

/-- The server hashes the same as the client. -/
theorem expected?_of_told {c : Challenge} {a : Attempt} {fields : List (String × String)}
    (told : (c.answer a).Told fields)
    (known : c.protections.isSome = true ∨ c.algorithm.isSession = false) :
    expected? c.algorithm a.username a.password a.method (a.body.getD []) fields =
      some (c.response a) := by
  unfold expected?
  rw [expectedUser?_of_told told known, told.nonce, told.uri, told.protection, told.count,
    told.clientNonce, response, requestHash_eq]
  simp only [answer]
  cases c.protection? a.body.isSome with
  | none => rfl
  | some p => cases p <;> rfl

/-- An answer shows that the request comes from somebody who knows the password. -/
theorem answer_proves (c : Challenge) (a : Attempt) :
    ∃ fields, fields? (c.answer a).render = some fields ∧ c.Proves a fields := by
  have told := (c.answer a).told
  refine ⟨_, fields?_render _, ?_⟩
  exact {
    username := told.username
    hidesUser := told.hidesUser
    realm := told.realm
    nonce := told.nonce
    uri := told.uri
    echo := told.echo
    algorithm := by
      rw [told.algorithm]
      split
      next => exact .inl (Algorithm.ofName?_name _)
      next unnamed =>
        refine .inr ⟨rfl, ?_⟩
        simp only [Bool.or_eq_true, decide_eq_true_eq, ne_eq, not_or, Decidable.not_not] at unnamed
        exact unnamed.2
    protection := by
      rw [told.protection, answer, protection?]
      cases c.protections <;> rfl
    response := fun known => ⟨c.response a, told.response, expected?_of_told told known⟩ }

end Challenge
end ClusterAccess.Digest
