import ClusterAccess.Proofs.Password
import ClusterAccess.Proofs.Pool.Deadlines
import ClusterAccess.Proofs.Run.Record
import ClusterAccess.Proofs.Time.Strict

/-!
# Orders of accounts

Nothing is asked of the control plane before all is there that an account needs. Then there is one
request, in which everything fits together, and the credential keeps to it. Only the name is what
the control plane says that it is.

## Main definitions

* `Services.DrawsIdentifiers`: services whose identifiers are random texts.
* `Run.requests`: the accounts that were asked for.
* `AccountRequest.Suits`, `Credential.Suits`: what an account is asked for with, and what is kept of
  it.
* `Services.Refuses`: provisioning that fails before an account is asked for.
* `Services.Orders`: what comes of provisioning.

## Main statements

* `Password.of_identifier`: an identifier has as many characters as it should, of the right kinds.
* `Services.orders_law`: provisioning asks for one account that suits the settings, or for none.
-/
namespace ClusterAccess

open Time

variable {σ C : Type}

/-! ## Identifiers -/

namespace Password

/-- An identifier is a text of upper-case letters and digits. -/
theorem of_identifier {length : Nat} {e e' : Entropy} {identifier : String}
    (drawn : Password.identifier length e = (.ok identifier, e')) :
    identifier.toList.length = length ∧
      ∀ c ∈ identifier.toList, 'A' ≤ c ∧ c ≤ 'Z' ∨ '0' ≤ c ∧ c ≤ '9' := by
  have kinds : identifierAlphabet.all
      fun c => 'A' ≤ c ∧ c ≤ 'Z' ∨ '0' ≤ c ∧ c ≤ '9' := by decide
  have plain : identifierAlphabet.all (·.toNat < 128) := by decide
  have filled : 0 < (ascii identifierAlphabet).length := by decide
  have characters := text_drawn filled length e
  rcases found : text (ascii identifierAlphabet) length e with ⟨o, rest⟩
  rw [found] at characters
  simp only [Password.identifier, found] at drawn
  cases o <;> cases drawn
  obtain ⟨enough, all⟩ := characters.text_eq fun c mem =>
    of_decide_eq_true (List.all_eq_true.mp plain c mem)
  rw [String.toList_ofList]
  refine ⟨enough, fun c mem => ?_⟩
  simpa only [decide_eq_true_eq] using List.all_eq_true.mp kinds c (all c mem)

end Password

/-- Services whose identifiers are drawn from random bytes. -/
def Services.DrawsIdentifiers (s : Services σ C) : Prop :=
  ∀ length w identifier w', s.identifier length w = (.ok identifier, w') →
    ∃ e e', Password.identifier length e = (.ok identifier, e')

/-! ## Requests -/

def Call.request? : Call C → Option (String × AccountRequest)
  | createAccount project request => some (project, request)
  | _ => none

/-- The accounts that were asked for, each with its project. -/
def Run.requests (r : Run σ C) : List (String × AccountRequest) :=
  r.calls.filterMap (·.2.request?)

theorem Run.requests_begun (r : Run σ C) (call : Call C) (w : σ) :
    (r.begun call w).requests = r.requests ++ call.request?.toList := by
  simp only [requests, begun, List.filterMap_append, List.filterMap_cons]
  cases call.request? <;> rfl

/-- A request that suits the settings, for an account that is to be created at `createdAt`. -/
structure AccountRequest.Suits (q : AccountRequest) (settings : AccountSettings)
    (password : Secret) (createdAt : Timestamp) : Prop where
  username : ∃ tail : List Char, q.username = settings.usernameStart ++ String.ofList tail ∧
    tail.length = 10 ∧ ∀ c ∈ tail, 'A' ≤ c ∧ c ≤ 'Z' ∨ '0' ≤ c ∧ c ≤ '9'
  password : q.password = password
  database : q.database = settings.authDatabase
  roles : q.roles = [⟨settings.roleName, settings.roleDatabase⟩]
  deleteAfter : q.deleteAfter = { createdAt with seconds := createdAt.seconds + settings.lifetime }
  /-- The description ends with the deadline to the second. -/
  description : ∃ text told,
    q.description = settings.descriptionStart ++ ", automatically deleted after " ++ text ∧
    Timestamp.parseLoosely? text = some told ∧
    told.instant = q.deleteAfter.instant / 1000000000 * 1000000000 ∧
    (0 ≤ q.deleteAfter.date.year → q.deleteAfter.date.year ≤ 9999 →
      Timestamp.StrictText text.toList told)

/-- A credential that suits the request for its account, and the account that came of it. -/
structure Credential.Suits (c : Credential) (settings : AccountSettings) (project : String)
    (q : AccountRequest) (createdAt : Timestamp) (account : Account) : Prop where
  password : c.password = q.password
  createdAt : c.createdAt = createdAt
  expiresAt : c.expiresAt = q.deleteAfter
  lifetime : c.createdAt.addSeconds? settings.lifetime = some c.expiresAt
  owner : c.owner = project
  username : c.username = account.username
  account : c.account = account

theorem Time.Timestamp.of_addSeconds? {t u : Timestamp} {n : Nat}
    (later : t.addSeconds? n = some u) :
    u = { t with seconds := t.seconds + n } ∧ inRange u.seconds = true := by
  unfold addSeconds? at later
  split at later
  next dated =>
    cases later
    exact ⟨rfl, dated⟩
  · cases later

namespace Services

variable {s : Services σ C} {settings : AccountSettings} {project : String} {w w₁ w' : σ}
  {password : Secret} {identifier : String} {deadline : Timestamp}

/-- Everything in a request fits together. -/
theorem Drawn.suits (drawn : s.Drawn settings w password w₁ identifier w')
    (draws : s.DrawsIdentifiers) (clock : (s.clock w').IsRepresentable)
    (dated : (s.clock w').addSeconds? settings.lifetime = some deadline) :
    (accountRequest settings identifier password deadline).Suits settings password
      (s.clock w') := by
  obtain ⟨e, e', random⟩ := draws _ _ _ _ drawn.identifier
  obtain ⟨length, kinds⟩ := Password.of_identifier random
  obtain ⟨later, range⟩ := Timestamp.of_addSeconds? dated
  have representable : deadline.IsRepresentable := ⟨range, by rw [later]; exact clock.2⟩
  constructor
  case username =>
    refine ⟨identifier.toList, ?_, length, kinds⟩
    rw [String.ofList_toList]
    rfl
  case deleteAfter => exact later
  case description =>
    refine ⟨deadline.renderWhole, deadline.whole.settled, rfl,
      Timestamp.parseLoosely?_renderWhole representable, ?_,
      Timestamp.strictText_renderWhole representable⟩
    rw [Timestamp.instant_settled, Timestamp.instant_whole]
    rfl
  all_goals rfl

/-- Provisioning fails with a message, and no account is asked for. -/
def Refuses (s : Services σ C) (settings : AccountSettings) (project : String) (r : Run σ C)
    (message : String) : Prop :=
  ∃ r', s.provision settings project r =
    (.after 0 (.failed (.provisioning project message)), r') ∧ r'.requests = r.requests

theorem refuses_of_order_failed {r : Run σ C} {message : String}
    (ordered : s.order settings project r.world = (.failed (.provisioning project message), w')) :
    s.Refuses settings project r message := by
  refine ⟨_, provision_of_not_ok ordered (.failed _), ?_⟩
  rw [Run.requests_begun]
  exact List.append_nil _

/-- Every failure names the project and tells its cause. -/
theorem provision_failed {r : Run σ C} {delay : Nat} {e : AccessError}
    (reply : (s.provision settings project r).1 = .after delay (.failed e)) :
    ∃ message w', e = .provisioning project message ∧
      Unprovisioned s settings project r.world w' message := by
  rcases ordered : s.order settings project r.world with ⟨order | e' | _ | _, w'⟩
  · rw [provision_of_ok ordered] at reply
    obtain ⟨o, answer, told⟩ := Reply.map_eq_after.mp reply
    cases o <;> simp only [AccountOrder.credential, Outcome.handle, reduceCtorEq] at told
    cases told
    exact ⟨_, _, rfl, .account ordered (Prod.ext answer rfl)⟩
  · rw [provision_of_not_ok ordered (.failed e')] at reply
    cases reply
    obtain ⟨message, rfl, why⟩ := order_failed ordered
    exact ⟨message, w', rfl, why⟩
  · rw [provision_of_not_ok ordered .aborted] at reply
    cases reply
  · rw [provision_of_not_ok ordered .stuck] at reply
    cases reply

/-- What comes of provisioning, by what the password, the identifier and the lifetime are like. -/
structure Orders (s : Services σ C) (settings : AccountSettings) (project : String)
    (r : Run σ C) : Prop where
  noPassword : ∀ e w₁, s.password settings.passwordPolicy r.world = (.failed e, w₁) →
    s.Refuses settings project r e.message
  noIdentifier : ∀ password w₁ e w',
    s.password settings.passwordPolicy r.world = (.ok password, w₁) →
    s.identifier identifierLength w₁ = (.failed e, w') → s.Refuses settings project r e.message
  /-- No deadline can be reckoned with the lifetime. -/
  tooLong : ∀ password w₁ identifier w', s.Drawn settings r.world password w₁ identifier w' →
    longestLifetime < settings.lifetime → s.Refuses settings project r lifetimeFault
  /-- There is one request, and the control plane decides. -/
  asked : ∀ password w₁ identifier w' deadline,
    s.Drawn settings r.world password w₁ identifier w' → settings.lifetime ≤ longestLifetime →
    (s.clock w').addSeconds? settings.lifetime = some deadline →
    ∃ q, q.Suits settings password (s.clock w') ∧
      (s.provision settings project r).2.requests = r.requests ++ [(project, q)] ∧
      (∀ delay account, (s.createAccount project q w').1 = .after delay (.ok account) →
        ∃ c, (s.provision settings project r).1 = .after delay (.ok c) ∧
          c.Suits settings project q (s.clock w') account) ∧
      ∀ delay e, (s.createAccount project q w').1 = .after delay (.failed e) →
        (s.provision settings project r).1 =
          .after delay (.failed (.provisioning project e.message))
  failed : ∀ delay e, (s.provision settings project r).1 = .after delay (.failed e) →
    ∃ message w', e = .provisioning project message ∧
      Unprovisioned s settings project r.world w' message

/-- Provisioning asks for one account, in a request that suits the settings, or for none if there is
no password, no identifier or no deadline. The credential suits the request, whatever else the
control plane says of the account, and every failure is about the project. -/
theorem orders_law (s : Services σ C) (settings : AccountSettings) (project : String) (r : Run σ C)
    (draws : s.DrawsIdentifiers) (clock : ∀ w, (s.clock w).IsRepresentable) :
    s.Orders settings project r where
  noPassword e w₁ fails := by
    apply refuses_of_order_failed
    rw [order, fails]
  noIdentifier password w₁ e w' drawn fails := by
    apply refuses_of_order_failed
    rw [order, drawn]
    dsimp only
    rw [fails]
  tooLong password w₁ identifier w' drawn long :=
    refuses_of_order_failed (drawn.order_tooLong long)
  asked password w₁ identifier w' deadline drawn short dated := by
    have suits := drawn.suits draws (clock w') dated
    have ordered : s.order settings project r.world = _ := drawn.order_dated short dated
    have provisioned := provision_of_ok ordered
    refine ⟨_, suits, ?_, ?_, ?_⟩
    · rw [provisioned, Run.requests_begun, Run.requests_begun]
      simp only [Call.request?, Option.toList_none, List.append_nil, Option.toList_some]
    · intro delay account answer
      rw [provisioned, answer]
      exact ⟨_, rfl, rfl, rfl, rfl, dated, rfl, rfl, rfl⟩
    · intro delay e answer
      rw [provisioned, answer]
      rfl
  failed _ _ := provision_failed

/-- Services that succeed, with identifiers from bytes that are all the same. -/
def steadyServices : Services Stage Nat :=
  { smoothRehearsal.services with
    identifier := fun length w =>
      ((Password.identifier length (List.replicate length (List.replicate 64 0))).1, w) }

/-- When the clock begins, an account is asked for that lives for half an hour. -/
theorem orders_law_steady :
    ∃ q c, (steadyServices.provision {} "shop" { world := {} }).2.requests = [("shop", q)] ∧
      (steadyServices.provision {} "shop" { world := {} }).1 = .after 0 (.ok c) ∧
      q.deleteAfter = ⟨1800, 0⟩ ∧ c.expiresAt = ⟨1800, 0⟩ ∧ c.owner = "shop" := by
  have draws : steadyServices.DrawsIdentifiers := by
    intro length w identifier w' drawn
    have random : (Password.identifier length
        (List.replicate length (List.replicate 64 0))).1 = .ok identifier := congrArg Prod.fst drawn
    exact ⟨_, _, Prod.ext random rfl⟩
  have clock (w : Stage) : (steadyServices.clock w).IsRepresentable :=
    (by decide : Timestamp.IsRepresentable ⟨0, 0⟩)
  obtain ⟨q, suits, requests, answered, -⟩ :=
    (orders_law steadyServices {} "shop" { world := {} } draws clock).asked
      (.ofString "correct horse") {} "AAAAAAAAAA" {} ⟨1800, 0⟩ ⟨rfl, rfl⟩ (by decide) (by decide)
  obtain ⟨c, reply, kept⟩ := answered 0 _ rfl
  exact ⟨q, c, requests, reply, suits.deleteAfter, kept.expiresAt.trans suits.deleteAfter,
    kept.owner⟩

end Services
end ClusterAccess
