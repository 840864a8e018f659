import ClusterAccess.Api.Payload
import ClusterAccess.Proofs.Json.Reading
import ClusterAccess.Proofs.Time.Reading

/-!
# The request for an account and its answer

The answer to a request for an account describes the account as the request does, but for the
password. So the request itself, read as an answer, tells the account that was asked for.

## Main definitions

* `Value.without`: an object without the member of a name.
* `passwordReader`: reads the password out of a request.
* `echo`: the user that a request describes.

## Main statements

* `reads_echo`: a request is read as this user, with its password and without.
* `createBody_agrees`: the account is the one that was asked for, and the password is the request's.
-/
namespace ClusterAccess

/-- An object without the member of a name. -/
def Json.Value.without (name : String) : Json.Value → Json.Value
  | .object members => .object (members.filter (·.1 != name))
  | v => v

namespace Api

open Json Time

variable {project : String} {r : AccountRequest}

/-! ## Numbers -/

theorem UserRole.countable (r : UserRole) : r.toJson.Countable := by
  refine .object ?_
  cases r.collection with
  | none | some name => simp [Value.Countable.text]

theorem countable_without {v : Value} (countable : v.Countable) (name : String) :
    (v.without name).Countable := by
  cases countable with
  | object all => exact .object fun m mem => all m (List.mem_filter.mp mem).1
  | null => exact .null
  | boolean b => exact .boolean b
  | natural small => exact .natural small
  | text s => exact .text s
  | array all => exact .array all

theorem countable_createBody (project : String) (r : AccountRequest) :
    (createBody project r).Countable := by
  refine .object ?_
  simp only [List.forall_mem_cons]
  refine ⟨.text _, .text _, .text _, .text _, .array ?_, .text _, .text _, nofun⟩
  simp only [List.mem_map, forall_exists_index, and_imp, forall_apply_eq_imp_iff₂]
  exact fun role _ => (UserRole.ofRole role).countable

/-! ## Users -/

theorem UserRole.reads (r : UserRole) : Reads UserRole.reader r.toJson r := by
  obtain ⟨role, database, collection⟩ := r
  cases collection with
  | none =>
    exact Fields.reads_record
      (.set (reads_text _) <| .set (reads_text _) <| .absent (by decide) <| .nil _) (by decide)
  | some name =>
    exact Fields.reads_record
      (.set (reads_text _) <| .set (reads_text _) <|
        .set ((reads_text name).optional nofun) <| .nil _) (by decide)

/-- The user that a request describes. -/
def echo (project : String) (r : AccountRequest) : User where
  username := r.username
  database := r.database
  group := some project
  roles := r.roles.map UserRole.ofRole
  description := some r.description
  deleteAfter := some r.deleteAfter.settled

/-- A request is read as the user that it describes, if it has the members of a user in order. -/
theorem reads_echo (representable : r.deleteAfter.IsRepresentable)
    {members : List (String × Value)} (known : members.filter (isKnown User.fields) =
      [("username", .text r.username), ("databaseName", .text r.database),
        ("groupId", .text project),
        ("roles", .array (r.roles.map fun role => (UserRole.ofRole role).toJson)),
        ("description", .text r.description),
        ("deleteAfterDate", .text (r.deleteAfter.render .letter))]) :
    Reads User.reader (.object members) (echo project r) := by
  have roles : Reads (list UserRole.reader)
      (.array (r.roles.map fun role => (UserRole.ofRole role).toJson))
      (r.roles.map UserRole.ofRole) :=
    reads_list fun role _ => (UserRole.ofRole role).reads
  have deadline : Reads (text.filterMap Timestamp.parseLoosely?)
      (.text (r.deleteAfter.render .letter)) r.deleteAfter.settled :=
    (reads_text _).filterMap (Timestamp.parseLoosely?_render representable)
  refine Fields.reads_known ?_ (by decide)
  rw [known]
  exact .set (reads_text _) <| .set (reads_text _) <|
    .set ((reads_text _).optional nofun) <| .set roles <|
    .set ((reads_text _).optional nofun) <| .set (deadline.optional nofun) <|
    .absent (by decide) <| .absent (by decide) <| .absent (by decide) <| .absent (by decide) <|
    .nil _

theorem toAccount_echo (project : String) (r : AccountRequest) (fallback : String) :
    (echo project r).toAccount fallback =
      { r.fulfilled project with deleteAfter := some r.deleteAfter.settled } := by
  simp [User.toAccount, echo, AccountRequest.fulfilled, Function.comp_def, UserRole.toRole,
    UserRole.ofRole, authMechanism, isUsed]

/-! ## Requests -/

/-- Reads the password out of a request. -/
def passwordReader : Reader String :=
  record [.of "password" .required text fun _ password => password] ""

theorem reads_password (project : String) (r : AccountRequest) :
    Reads passwordReader (createBody project r) r.password.expose :=
  Fields.reads_known (.set (reads_text _) <| .nil _) (by decide)

/-- A request for an account, read as its answer, describes the account that was asked for, whether
or not the password is left out, and its password is the one that was asked for. A deadline in a
leap second in the middle of a minute is the same instant, but counted from the second after it. -/
theorem createBody_agrees (project : String) (r : AccountRequest)
    (representable : r.deleteAfter.IsRepresentable) :
    (∀ body ∈ [createBody project r, (createBody project r).without "password"],
      ∃ user deadline, Json.read User.reader body.compact = .ok user ∧
        (∀ fallback, user.toAccount fallback =
          { r.fulfilled project with deleteAfter := some deadline }) ∧
        deadline.instant = r.deleteAfter.instant ∧
        (r.deleteAfter.nanos < 1000000000 ∨ r.deleteAfter.seconds % 60 = 59 →
          deadline = r.deleteAfter)) ∧
    Json.read passwordReader (createBody project r).compact = .ok r.password.expose := by
  have countable := countable_createBody project r
  refine ⟨fun body mem => ⟨echo project r, r.deleteAfter.settled, ?_, toAccount_echo project r,
    Timestamp.instant_settled _, Timestamp.settled_eq_self⟩,
    (reads_password project r).read_compact countable⟩
  simp only [List.mem_cons, List.not_mem_nil, or_false] at mem
  rcases mem with rfl | rfl
  · exact (reads_echo representable rfl).read_compact countable
  · exact (reads_echo representable rfl).read_compact (countable_without countable "password")

/-- The request for an account until the leap second at the end of a minute in the year 10000. -/
def leapRequest : AccountRequest where
  username := "reader"
  password := .ofString "\\ \"\u2028"
  database := "admin"
  roles := [⟨"readAnyDatabase", "admin"⟩, ⟨"read", "sample"⟩]
  description := ""
  deleteAfter := ⟨253402300859, 1999999999⟩

theorem createBody_agrees_leap_second :
    leapRequest.deleteAfter.IsRepresentable ∧
      leapRequest.deleteAfter.render .letter = "+10000-01-01T00:00:60.999999999Z" ∧
      ∃ user, Json.read User.reader (createBody "p1" leapRequest).compact = .ok user ∧
        user.toAccount "p2" = leapRequest.fulfilled "p1" := by
  have representable : leapRequest.deleteAfter.IsRepresentable := by decide
  obtain ⟨user, deadline, read, account, -, proper⟩ :=
    (createBody_agrees "p1" leapRequest representable).1 _ List.mem_cons_self
  refine ⟨representable, by decide, user, read, ?_⟩
  rw [account, proper (by decide)]
  rfl

end Api
end ClusterAccess
