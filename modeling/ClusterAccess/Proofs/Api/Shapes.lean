import ClusterAccess.Proofs.Api.Calls
import ClusterAccess.Proofs.Json.Following
import ClusterAccess.Proofs.Time.Strict

/-!
# Users in both shapes

An object that describes a user in the current shape describes one in the older shape, too. Both
users come to accounts that differ in little: the older shape knows neither descriptions nor the
newest way of signing in, and it has an expiry only if that is told in the strict form.

## Main definitions

* `OpensObject`: texts whose value can only be an object.
* `User.Matches`: what both shapes have is the same.

## Main statements

* `User.matches_of_read`: what is read in both shapes matches.
* `shapes_alike`: the accounts of both shapes.
-/
namespace ClusterAccess.Api

open Json Time

/-! ## Both shapes -/

/-- Blanks, and then the brace of an object. -/
def OpensObject (text : String) : Prop :=
  ∃ blanks rest, text.toList = blanks ++ '{' :: rest ∧ ∀ c ∈ blanks, isSpace c = true

theorem OpensObject.tokens_eq {text : String} (h : OpensObject text) :
    ∃ ts, tokens text = .mark .openObject :: ts := by
  obtain ⟨blanks, rest, chars, spaces⟩ := h
  rw [tokens, chars]
  clear chars
  induction blanks with
  | nil => exact ⟨_, rfl⟩
  | cons c blanks ih =>
    rw [List.forall_mem_cons] at spaces
    obtain ⟨ts, same⟩ := ih spaces.2
    exact ⟨ts, by simp [tokensFrom, step, start, spaces.1, same]⟩

/-- A user in the current shape and one in the older shape, with the same members as far as both can
have them. The expiry that the current shape has is read of the text that the older one has. -/
structure User.Matches (u : User) (v : LegacyUser) : Prop where
  username : u.username = v.username
  database : u.database = v.database
  group : u.group = v.group
  roles : u.roles = v.roles
  awsIam : u.awsIam = v.awsIam
  x509 : u.x509 = v.x509
  ldap : u.ldap = v.ldap
  deleteAfter : Option.Rel (fun t date => Timestamp.parseLoosely? date = some t) u.deleteAfter
    v.deleteAfter

/-- A member that both shapes have and read alike. -/
theorem extends_shared {α : Type} {name : String} {presence : Presence} {r : Reader α}
    {set : User → α → User} {set' : LegacyUser → α → LegacyUser} {fs : List (FieldReader User)}
    {gs : List (FieldReader LegacyUser)}
    (keeps : ∀ u v a, u.Matches v → (set u a).Matches (set' v a))
    (rest : Extends User.Matches fs gs) :
    Extends User.Matches (.of name presence r set :: fs) (.of name presence r set' :: gs) := by
  refine .shared rfl rfl (fun u v same => ?_) rest
  exact (Follows.refl r).map fun a _ related => related ▸ keeps u v a same

/-- A text that only the current shape has. -/
theorem extends_text {name : String} {presence : Presence} {set : User → Option String → User}
    {fs : List (FieldReader User)} {gs : List (FieldReader LegacyUser)}
    (absent : isFor gs name = false) (keeps : ∀ u v a, u.Matches v → (set u a).Matches v)
    (rest : Extends User.Matches fs gs) :
    Extends User.Matches (.of name presence (optional text) set :: fs) gs := by
  refine .extra absent (fun u v same => ?_) rest
  intro ts u' rest read
  obtain ⟨a, found, rfl⟩ := Reader.map_eq_ok.mp read
  obtain ⟨⟨⟩, passed, -⟩ := Follows.skip_optional_text ts a rest found
  exact ⟨(), passed, keeps u v a same⟩

theorem User.extends_fields : Extends User.Matches User.fields LegacyUser.fields := by
  refine extends_shared (fun _ _ _ same => { same with username := rfl }) ?_
  refine extends_shared (fun _ _ _ same => { same with database := rfl }) ?_
  refine extends_shared (fun _ _ _ same => { same with group := rfl }) ?_
  refine extends_shared (fun _ _ _ same => { same with roles := rfl }) ?_
  refine extends_text (by decide) (fun _ _ _ same => { same with }) ?_
  refine .shared rfl rfl (fun u v same => ?expiry) ?_
  case expiry =>
    exact (Follows.filterMap text Timestamp.parseLoosely?).optional.map fun _ _ related =>
      { same with deleteAfter := related }
  refine extends_shared (fun _ _ _ same => { same with awsIam := rfl }) ?_
  refine extends_shared (fun _ _ _ same => { same with x509 := rfl }) ?_
  refine extends_shared (fun _ _ _ same => { same with ldap := rfl }) ?_
  exact extends_text (by decide) (fun _ _ _ same => { same with }) .nil

/-- Whatever object is read as a user in the current shape is read in the older one, too. -/
theorem User.matches_of_read {text : String} (object : OpensObject text) {u : User}
    (read : Json.read User.reader text = .ok u) :
    ∃ v, Json.read LegacyUser.reader text = .ok v ∧ u.Matches v := by
  obtain ⟨ts, opened⟩ := object.tokens_eq
  unfold Json.read readAll at read ⊢
  rw [opened] at read ⊢
  split at read
  · cases read
  next found =>
    cases read
    have initial : User.Matches {} {} := ⟨rfl, rfl, rfl, rfl, rfl, rfl, rfl, .none⟩
    obtain ⟨v, followed, same⟩ := User.extends_fields.record initial found
    refine ⟨v, ?_, same⟩
    unfold LegacyUser.reader
    rw [followed]
  · cases read

/-! ## Accounts -/

/-- The newest way of signing in counts only if no other is in use. -/
theorem authMechanism_none (awsIam x509 ldap oidc : Option String) :
    authMechanism awsIam x509 ldap none =
      if authMechanism awsIam x509 ldap oidc = .oidc then .password
      else authMechanism awsIam x509 ldap oidc := by
  have unused : isUsed none = false := rfl
  unfold authMechanism
  cases isUsed awsIam <;> cases isUsed x509 <;> cases isUsed ldap <;> cases isUsed oidc <;>
    simp [unused]

/-- An expiry in the strict form is the same in both shapes. One in any other form is known in the
current shape only. -/
theorem User.Matches.deleteAfter_eq {u : User} {v : LegacyUser} (same : u.Matches v)
    {date : String} (given : v.deleteAfter = some date) (project : String) :
    ∃ t, (u.toAccount project).deleteAfter = some t ∧
      (Timestamp.IsStrict date → (v.toAccount project).deleteAfter = some t) ∧
      (¬ Timestamp.IsStrict date → (v.toAccount project).deleteAfter = none) := by
  have expiry := same.deleteAfter
  have legacy : (v.toAccount project).deleteAfter = Timestamp.parse? date := by
    rw [LegacyUser.toAccount, given, Option.bind_some]
  rw [given] at expiry
  rw [legacy]
  generalize current : u.deleteAfter = o at expiry
  cases expiry with
  | @some t _ loosely =>
    refine ⟨t, current, ?_, Timestamp.parse?_eq_none_iff.mpr⟩
    rintro ⟨t', strict⟩
    rw [strict.parseLoosely?_eq] at loosely
    rw [Timestamp.parse?_eq_some_iff, ← Option.some.inj loosely]
    exact strict

/-- An object that is read in the current shape is read in the older one, and both accounts are the
same but for what the older shape does not know. There is no description, a password where the
newest way of signing in is in use, and an expiry only if that is told in the strict form. -/
theorem shapes_alike {text : String} (object : OpensObject text) {u : User}
    (read : Json.read User.reader text = .ok u) :
    ∃ v, Json.read LegacyUser.reader text = .ok v ∧ ∀ project,
      v.toAccount project = { u.toAccount project with
        description := none
        auth := if (u.toAccount project).auth = .oidc then .password
          else (u.toAccount project).auth
        deleteAfter := (v.toAccount project).deleteAfter } ∧
      (v.deleteAfter = none →
        (u.toAccount project).deleteAfter = none ∧ (v.toAccount project).deleteAfter = none) ∧
      ∀ date, v.deleteAfter = some date → ∃ t, (u.toAccount project).deleteAfter = some t ∧
        (Timestamp.IsStrict date → (v.toAccount project).deleteAfter = some t) ∧
        (¬ Timestamp.IsStrict date → (v.toAccount project).deleteAfter = none) := by
  obtain ⟨v, read', same⟩ := User.matches_of_read object read
  refine ⟨v, read', fun project => ⟨?_, fun absent => ?_, fun date given => ?_⟩⟩
  · have auth := authMechanism_none u.awsIam u.x509 u.ldap u.oidc
    simp only [LegacyUser.toAccount, User.toAccount, ← same.username, ← same.database,
      ← same.group, ← same.roles, ← same.awsIam, ← same.x509, ← same.ldap, auth]
    rfl
  · have expiry := same.deleteAfter
    rw [absent] at expiry
    generalize current : u.deleteAfter = o at expiry
    cases expiry
    exact ⟨current, by rw [LegacyUser.toAccount, absent, Option.bind_none]⟩
  · exact same.deleteAfter_eq given project

/-- A user who signs in in the newest way, and whose expiry has blanks. -/
def federatedText : String :=
  " \x7b\"username\":\"ada\",\"databaseName\":\"admin\",\"oidcAuthType\":\"USER\"," ++
    "\"awsIAMType\":\"None\",\"description\":\"d\",\"deleteAfterDate\":\"2026-1-1 0:0:0Z\"\x7d"

def federatedUser : User where
  username := "ada"
  database := "admin"
  description := some "d"
  deleteAfter := some ⟨1767225600, 0⟩
  awsIam := some "None"
  oidc := some "USER"

theorem shapes_alike_federated : OpensObject federatedText ∧
    Json.read User.reader federatedText = .ok federatedUser ∧
    ∃ v, Json.read LegacyUser.reader federatedText = .ok v ∧ v.toAccount "shop" =
      { username := "ada", project := "shop", database := "admin" } := by
  have object : OpensObject federatedText :=
    ⟨[' '], federatedText.toList.drop 2, by decide +kernel, List.forall_mem_singleton.mpr rfl⟩
  have read : Json.read User.reader federatedText = .ok federatedUser :=
    ok_of_toOption (by decide +kernel)
  obtain ⟨v, read', alike⟩ := shapes_alike object read
  refine ⟨object, read, v, read', ?_⟩
  obtain ⟨same, -, told⟩ := alike "shop"
  have date : v.deleteAfter = some "2026-1-1 0:0:0Z" := by
    have found : (Json.read LegacyUser.reader federatedText).toOption.bind (·.deleteAfter) =
        some "2026-1-1 0:0:0Z" := by decide +kernel
    rwa [read'] at found
  obtain ⟨t, -, -, loose⟩ := told _ date
  have notStrict : ¬ Timestamp.IsStrict "2026-1-1 0:0:0Z" :=
    Timestamp.parse?_eq_none_iff.mp (by decide)
  rw [same, loose notStrict]
  decide +kernel

end ClusterAccess.Api
