import ClusterAccess.Proofs.Api.Creation
import ClusterAccess.Proofs.Json.Yields

/-!
# Users and roles in writing

A user is read back as it was written, whichever of its members there are, and it is then written
in the same way. Only a leap second in the middle of a minute is told differently, as by any
timestamp; what is read of a text has none.

## Main definitions

* `User.IsRepresentable`: the expiry, if there is one, is a timestamp that there can be.
* `User.settled`: the user with its expiry as it is read back.

## Main statements

* `User.reads`, `UserRole.reads`, `reads_role`: what is read back.
* `User.of_read`: what is read of any text is representable and settled.
* `users_round_trip`: users and roles, and what was read as a user, are read back as written.
* `users_not_read_back`: a user whose leap second is in the middle of a minute.
-/
namespace ClusterAccess.Api

open Json Time

/-! ## Roles -/

theorem reads_role (r : Role) : Reads roleReader (roleToJson r) r :=
  Fields.reads_record (.set (reads_text _) <| .set (reads_text _) <| .nil _) (by decide)

theorem countable_role (r : Role) : (roleToJson r).Countable := by
  refine .object ?_
  simp [Value.Countable.text]

/-! ## Users -/

section

variable {α β σ : Type} {name : String} {fields : List (FieldReader σ)}
  {ms : List (String × Value)} {s s' : σ}

/-- A member that is left out if there is no value. -/
theorem fields_member {r : Reader α} {set : σ → Option α → σ} {value : β → Value} {result : β → α}
    (o : Option β) (reads : ∀ b ∈ o, Reads r (value b) (result b)) (present : ∀ b, value b ≠ .null)
    (unset : set s none = s) (rest : Fields fields ms (set s (o.map result)) s') :
    Fields (.of name .optional (optional r) set :: fields)
      (User.member name (o.map value) ++ ms) s s' := by
  cases o with
  | none =>
    rw [Option.map_none, unset] at rest
    exact .absent nofun rest
  | some b => exact .set ((reads b rfl).optional (present b)) rest

theorem fields_text {set : σ → Option String → σ} (o : Option String) (unset : set s none = s)
    (rest : Fields fields ms (set s o) s') :
    Fields (.of name .optional (optional text) set :: fields)
      (User.member name (o.map Value.text) ++ ms) s s' := by
  refine fields_member o (fun b _ => reads_text b) nofun unset ?_
  rwa [Option.map_id_fun']

end

namespace User

variable {u : User}

def IsRepresentable (u : User) : Prop := ∀ t ∈ u.deleteAfter, t.IsRepresentable

/-- The user as it is read back. -/
def settled (u : User) : User := { u with deleteAfter := u.deleteAfter.map Timestamp.settled }

theorem settled_eq_self (h : ∀ t ∈ u.deleteAfter, t.settled = t) : u.settled = u := by
  obtain ⟨username, database, group, roles, description, deleteAfter, awsIam, x509, ldap, oidc⟩ := u
  cases deleteAfter with
  | none => rfl
  | some t => rw [settled, Option.map_some, h t rfl]

/-- A user is written as what is read of it. -/
theorem toJson_settled (representable : u.IsRepresentable) : u.settled.toJson = u.toJson := by
  have written : u.settled.deleteAfter.map (fun t => Value.text (t.render .letter)) =
      u.deleteAfter.map fun t => Value.text (t.render .letter) := by
    rw [settled, Option.map_map]
    apply Option.map_congr
    intro t mem
    rw [Function.comp_apply, Timestamp.render_settled (representable t mem).2]
  rw [toJson, written]
  rfl

theorem countable (u : User) : u.toJson.Countable := by
  have optional {α : Type} (name : String) (o : Option α) (text : α → String) :
      ∀ m ∈ member name (o.map fun a => Value.text (text a)), m.2.Countable := by
    cases o <;> simp [member, Value.Countable.text]
  have roles : (Value.array (u.roles.map UserRole.toJson)).Countable := by
    refine .array ?_
    simp only [List.mem_map, forall_exists_index, and_imp, forall_apply_eq_imp_iff₂]
    exact fun r _ => r.countable
  refine .object ?_
  simp only [List.forall_mem_append, List.forall_mem_cons]
  exact ⟨⟨⟨⟨⟨⟨⟨⟨⟨.text _, .text _, nofun⟩, optional _ _ _⟩, roles, nofun⟩, optional _ _ _⟩,
    optional _ _ _⟩, optional _ _ _⟩, optional _ _ _⟩, optional _ _ _⟩, optional _ _ _⟩

/-- A user is read back, whichever of its members there are. -/
theorem reads (representable : u.IsRepresentable) : Reads reader u.toJson u.settled := by
  have roles : Reads (list UserRole.reader) (.array (u.roles.map UserRole.toJson)) u.roles := by
    have each := reads_list (r := UserRole.reader) fun r (_ : r ∈ u.roles) => r.reads
    rwa [List.map_id'] at each
  have expiry (t : Timestamp) (mem : t ∈ u.deleteAfter) :
      Reads (text.filterMap Timestamp.parseLoosely?) (.text (t.render .letter)) t.settled :=
    (reads_text _).filterMap (Timestamp.parseLoosely?_render (representable t mem))
  have last : Fields [.of "oidcAuthType" .optional (optional text) fun u v => { u with oidc := v }]
      (member "oidcAuthType" (u.oidc.map .text)) { u.settled with oidc := none } u.settled := by
    rw [← List.append_nil (member _ _)]
    exact fields_text u.oidc rfl (.nil _)
  refine Fields.reads_record ?_ (by decide)
  simp only [List.append_assoc, List.cons_append, List.nil_append]
  exact .set (reads_text _) <| .set (reads_text _) <| fields_text u.group rfl <|
    .set roles <| fields_text u.description rfl <| fields_member u.deleteAfter expiry nofun rfl <|
    fields_text u.awsIam rfl <| fields_text u.x509 rfl <| fields_text u.ldap rfl last

/-! ## Users that were read -/

/-- An expiry that is read back as it is. -/
def HasSettled (u : User) : Prop := ∀ t ∈ u.deleteAfter, t.IsRepresentable ∧ t.settled = t

theorem yields_settled : Yields reader HasSettled := by
  have expiry : Yields (optional (text.filterMap Timestamp.parseLoosely?))
      fun o => ∀ t ∈ o, t.IsRepresentable ∧ t.settled = t :=
    (yields_filterMap _ fun _ _ => Timestamp.of_parseLoosely?).optional
  have other {α : Type} {name : String} {presence : Presence} {r : Reader α} {set : User → α → User}
      (same : ∀ u a, (set u a).deleteAfter = u.deleteAfter) :
      (FieldReader.of name presence r set).Keeps HasSettled :=
    .frame fun u a holds t mem => holds t (same u a ▸ mem)
  refine yields_record ?_ nofun
  simp only [fields, List.forall_mem_cons]
  exact ⟨other fun _ _ => rfl, other fun _ _ => rfl, other fun _ _ => rfl, other fun _ _ => rfl,
    other fun _ _ => rfl, .of expiry fun _ _ _ holds => holds, other fun _ _ => rfl,
    other fun _ _ => rfl, other fun _ _ => rfl, other fun _ _ => rfl, nofun⟩

/-- What is read of any text is representable and settled. -/
theorem of_read {text : String} (read : Json.read reader text = .ok u) :
    u.IsRepresentable ∧ u.settled = u := by
  have holds : u.HasSettled := yields_settled.read read
  exact ⟨fun t mem => (holds t mem).1, settled_eq_self fun t mem => (holds t mem).2⟩

end User

/-! ## Round trips -/

/-- Users and roles are read back as they were written. Of a user, a leap second in the middle of a
minute is read as the same instant but told differently, and it is written in the same way again;
all else is the same. Whatever text a user was read from, that user is read back as it is. -/
theorem users_round_trip :
    (∀ u : User, u.IsRepresentable →
      ∃ u', Json.read User.reader u.toJson.compact = .ok u' ∧
        u'.toJson.compact = u.toJson.compact ∧
        u' = { u with deleteAfter := u'.deleteAfter } ∧
        u'.deleteAfter.map Timestamp.instant = u.deleteAfter.map Timestamp.instant ∧
        ((∀ t ∈ u.deleteAfter, t.nanos < 1000000000 ∨ t.seconds % 60 = 59) → u' = u)) ∧
    (∀ r : UserRole, Json.read UserRole.reader r.toJson.compact = .ok r) ∧
    (∀ r : Role, Json.read roleReader (roleToJson r).compact = .ok r) ∧
    ∀ input u, Json.read User.reader input = .ok u →
      Json.read User.reader u.toJson.compact = .ok u := by
  have back {u : User} (representable : u.IsRepresentable) :
      Json.read User.reader u.toJson.compact = .ok u.settled :=
    (User.reads representable).read_compact u.countable
  refine ⟨fun u representable => ⟨u.settled, back representable, ?_, rfl, ?_, ?_⟩,
    fun r => r.reads.read_compact r.countable,
    fun r => (reads_role r).read_compact (countable_role r), fun input u read => ?_⟩
  · rw [User.toJson_settled representable]
  · rw [User.settled, Option.map_map]
    exact Option.map_congr fun t _ => t.instant_settled
  · intro proper
    exact User.settled_eq_self fun t mem => Timestamp.settled_eq_self (proper t mem)
  · obtain ⟨representable, settled⟩ := User.of_read read
    rw [back representable, settled]

/-- A user with texts that have to be escaped and an expiry in the last second of all. -/
def lastUser : User where
  username := "\"\\\n\x00"
  database := ""
  roles := [⟨"read", "shop", some "orders"⟩, ⟨"", "😀", none⟩]
  description := some "null"
  deleteAfter := some ⟨8210266876799, 1999999999⟩
  oidc := some "NONE"

/-- The members of a user by their places, up to a date that has blanks. -/
def listedText : String := "[\"a\",\"b\",null,[],null,\" 2016-12-31t23 : 59:60.5UTC\"]"

def listedUser : User where
  username := "a"
  database := "b"
  deleteAfter := some ⟨1483228799, 1500000000⟩

theorem users_round_trip_last : lastUser.IsRepresentable ∧
    Json.read User.reader lastUser.toJson.compact = .ok lastUser ∧
    Json.read User.reader listedText = .ok listedUser ∧
    Json.read User.reader listedUser.toJson.compact = .ok listedUser := by
  have representable : lastUser.IsRepresentable := by
    rintro t ⟨⟩
    decide
  have proper : ∀ t ∈ lastUser.deleteAfter, t.nanos < 1000000000 ∨ t.seconds % 60 = 59 := by
    rintro t ⟨⟩
    decide
  have listed : Json.read User.reader listedText = .ok listedUser := by
    have found : (Json.read User.reader listedText).toOption = some listedUser := by decide +kernel
    cases read : Json.read User.reader listedText with
    | error fault => simp [read, Except.toOption] at found
    | ok u => simpa [read, Except.toOption] using found
  obtain ⟨written, -, -, again⟩ := users_round_trip
  obtain ⟨u', read, -, -, -, same⟩ := written lastUser representable
  rw [same proper] at read
  exact ⟨representable, read, listed, again _ _ listed⟩

/-- A user that expires in a leap second in the middle of a minute. -/
def strayUser : User where
  username := "a"
  database := "b"
  deleteAfter := some ⟨30, 1500000000⟩

/-- Not every user is read back as it was: a leap second is told by a second that follows the one
before it, which only after the last one of a minute is read as a leap second. -/
theorem users_not_read_back :
    ¬ (∀ u : User, u.IsRepresentable → Json.read User.reader u.toJson.compact = .ok u) ∧
      strayUser.IsRepresentable ∧
      strayUser.deleteAfter.map (·.render .letter) = some "1970-01-01T00:00:31.500Z" ∧
      Json.read User.reader strayUser.toJson.compact =
        .ok { strayUser with deleteAfter := some ⟨31, 500000000⟩ } := by
  have representable : strayUser.IsRepresentable := by
    rintro t ⟨⟩
    decide
  have read : Json.read User.reader strayUser.toJson.compact =
      .ok { strayUser with deleteAfter := some ⟨31, 500000000⟩ } :=
    (User.reads representable).read_compact strayUser.countable
  refine ⟨fun back => ?_, representable, by decide +kernel, read⟩
  have same := Except.ok.inj (read.symm.trans (back strayUser representable))
  exact absurd (congrArg User.deleteAfter same) (by decide)

end ClusterAccess.Api
