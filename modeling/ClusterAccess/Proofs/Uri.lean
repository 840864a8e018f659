import ClusterAccess.Proofs.Text.Percent
import ClusterAccess.Target

/-!
# Connection URIs

The URI of a target can be taken apart again: neither half of the user part holds a delimiter, so
the first colon and the first at sign after the scheme are the ones that were put there, whatever
the hosts look like.

## Main definitions

* `PublishedStrings.Prefers`: which of the published strings is used.
* `Endpoint.Of`: the endpoint of a published text.
* `Uri.Clean`: texts that can stand in the user part.
* `Uri.parts`: a URI, cut at its first delimiters.
* `Uri.Spells`: a URI from which endpoint and credential can be read.

## Main statements

* `Endpoint.resolve_eq_ok_iff`, `Endpoint.resolve_eq_error_iff`: what a look-up resolves to.
* `Target.spells_assemble`: the URI of a target spells it.
* `Target.uri_round_trip`: from published strings and a credential to a URI and back.
-/
namespace ClusterAccess

open Text

/-! ## Endpoints of published strings -/

/-- The string that is used, without the blanks around it: the plain form if there is anything in
it, and else the other form. -/
inductive PublishedStrings.Prefers (strings : PublishedStrings) : Scheme → String → Prop
  | standard {published : String} (present : strings.standard = some published)
      (filled : trimmed published ≠ "") : Prefers strings .standard (trimmed published)
  | srv {published : String} (blank : ∀ s, strings.standard = some s → trimmed s = "")
      (present : strings.srv = some published) (filled : trimmed published ≠ "") :
      Prefers strings .srv (trimmed published)

theorem nonBlank?_eq_some {s : Option String} {t : String} :
    nonBlank? s = some t ↔ ∃ published, s = some published ∧ trimmed published = t ∧ t ≠ "" := by
  cases s <;> simp [nonBlank?, Option.filter_eq_some_iff]

theorem nonBlank?_eq_none {s : Option String} :
    nonBlank? s = none ↔ ∀ published, s = some published → trimmed published = "" := by
  cases s <;> simp [nonBlank?, Option.filter_eq_none_iff]

theorem PublishedStrings.prefers_iff {strings : PublishedStrings} {scheme : Scheme} {t : String} :
    strings.Prefers scheme t ↔
      scheme = .standard ∧ nonBlank? strings.standard = some t ∨
        scheme = .srv ∧ nonBlank? strings.standard = none ∧ nonBlank? strings.srv = some t := by
  simp only [nonBlank?_eq_some, nonBlank?_eq_none]
  constructor
  · rintro (⟨present, filled⟩ | ⟨blank, present, filled⟩)
    · exact .inl ⟨rfl, _, present, rfl, filled⟩
    · exact .inr ⟨rfl, blank, _, present, rfl, filled⟩
  · rintro (⟨rfl, published, present, rfl, filled⟩ | ⟨rfl, blank, published, present, rfl, filled⟩)
    · exact .standard present filled
    · exact .srv blank present filled

/-- What is written before the hosts of a scheme. -/
def Scheme.start (scheme : Scheme) : String := scheme.name ++ "://"

namespace Endpoint

/-- The endpoint of a published text: the hosts are what follows the scheme, and all of a text that
begins in another way. -/
structure Of (t : String) (e : Endpoint) : Prop where
  hosts : t = e.scheme.start ++ e.hosts ∨ ¬ e.scheme.start.toList <+: t.toList ∧ e.hosts = t
  fallback : e.fallback = true ↔ e.scheme = .srv

theorem withoutStart_append (start s : String) : withoutStart start (start ++ s) = s := by
  rw [withoutStart, if_pos (by simp)]
  simp [← String.length_toList]

theorem withoutStart_of_not_start {start s : String} (h : ¬ start.toList <+: s.toList) :
    withoutStart start s = s := by
  rw [withoutStart, if_neg (by simpa using h)]

theorem of_ofString (scheme : Scheme) (t : String) : Of t (ofString scheme t) where
  hosts := by
    by_cases h : scheme.start.toList <+: t.toList
    · obtain ⟨hosts, split⟩ := h
      obtain rfl : t = scheme.start ++ String.ofList hosts :=
        String.toList_injective (by simp [split])
      exact .inl (congrArg (scheme.start ++ ·) (withoutStart_append _ _)).symm
    · exact .inr ⟨h, withoutStart_of_not_start h⟩
  fallback := by simp [ofString]

theorem Of.eq_ofString {t : String} {e : Endpoint} (h : Of t e) : e = ofString e.scheme t := by
  have hosts : e.hosts = withoutStart e.scheme.start t := by
    rcases h.hosts with rfl | ⟨other, all⟩
    · exact (withoutStart_append _ _).symm
    · rw [all, withoutStart_of_not_start other]
  have fallback : e.fallback = decide (e.scheme = .srv) := by
    rw [Bool.eq_iff_iff, h.fallback, decide_eq_true_iff]
  cases e
  simp_all [ofString, Scheme.start]

theorem choose?_eq_some_iff {strings : PublishedStrings} {e : Endpoint} :
    choose? strings = some e ↔ ∃ t, strings.Prefers e.scheme t ∧ Of t e := by
  simp only [PublishedStrings.prefers_iff]
  constructor
  · intro chosen
    rw [choose?] at chosen
    split at chosen
    next _ t standard =>
      obtain rfl := Option.some.inj chosen
      exact ⟨t, .inl ⟨rfl, standard⟩, of_ofString _ _⟩
    next t standard srv =>
      obtain rfl := Option.some.inj chosen
      exact ⟨t, .inr ⟨rfl, standard, srv⟩, of_ofString _ _⟩
    next => cases chosen
  · rintro ⟨t, preferred, endpoint⟩
    rw [endpoint.eq_ofString, choose?]
    rcases preferred with ⟨scheme, standard⟩ | ⟨scheme, standard, srv⟩
    · rw [standard, scheme]
    · rw [standard, srv, scheme]

theorem choose?_eq_none_iff {strings : PublishedStrings} :
    choose? strings = none ↔ ∀ scheme t, ¬ strings.Prefers scheme t := by
  simp only [PublishedStrings.prefers_iff, choose?]
  cases nonBlank? strings.standard <;> cases nonBlank? strings.srv <;> simp

/-- A look-up resolves to the endpoint of the preferred string. -/
theorem resolve_eq_ok_iff {project cluster : String} {info : ClusterInfo} {e : Endpoint} :
    resolve project cluster (.ok info) = .ok e ↔
      ∃ t, info.strings.Prefers e.scheme t ∧ Of t e := by
  rw [← choose?_eq_some_iff, resolve]
  cases choose? info.strings <;> simp

/-- A look-up fails to resolve if no string is preferred. -/
theorem resolve_eq_error_iff {project cluster : String} {info : ClusterInfo} {fault : AccessError} :
    resolve project cluster (.ok info) = .error fault ↔
      (∀ scheme t, ¬ info.strings.Prefers scheme t) ∧
        fault = .resolution project cluster "cluster does not have a connection string" := by
  rw [← choose?_eq_none_iff, resolve]
  cases choose? info.strings <;> simp [eq_comm]

end Endpoint

/-! ## URIs -/

namespace Uri

/-- Texts that can stand in the user part: no delimiter, and no percent sign that starts no
escape. -/
structure Clean (s : String) : Prop where
  undelimited : ∀ c ∈ s.toList, c ∉ [':', '/', '?', '#', '@', '[', ']']
  escapes : ∀ before after, s.toList = before ++ '%' :: after → ∃ x y rest,
    after = x :: y :: rest ∧ (Hex.digitValue? x).isSome ∧ (Hex.digitValue? y).isSome

theorem reserved_of_delimiter {c : Char} (h : c ∈ [':', '/', '?', '#', '@', '[', ']']) :
    ¬ (Percent.isUnreserved c = true ∨ c = '%') := by
  simp only [List.mem_cons, List.not_mem_nil, or_false] at h
  rcases h with rfl | rfl | rfl | rfl | rfl | rfl | rfl <;> decide

theorem Clean.encode (s : String) : Clean (Percent.encode s) where
  undelimited _ mem delimiter :=
    reserved_of_delimiter delimiter ((Percent.Escaped.encode s).unreserved_or mem)
  escapes _ _ split := (Percent.Escaped.encode s).digits_after split

structure Parts where
  scheme : String
  user : String
  password : String
  hosts : String
  deriving DecidableEq

/-- A URI, cut at the colon after the scheme, and behind the two slashes at the first colon and the
first at sign. -/
def parts (uri : String) : Parts :=
  let scheme := uri.toList.takeWhile (· != ':')
  let rest := uri.toList.drop (scheme.length + 3)
  let user := rest.takeWhile (· != ':')
  let signIn := rest.takeWhile (· != '@')
  ⟨.ofList scheme, .ofList user, .ofList (signIn.drop (user.length + 1)),
    .ofList (rest.drop (signIn.length + 1))⟩

/-- The URI without the user part. -/
def Parts.anonymous (p : Parts) : String := p.scheme ++ "://" ++ p.hosts

theorem takeWhile_ne {c : Char} {s : List Char} (free : c ∉ s) (rest : List Char) :
    (s ++ c :: rest).takeWhile (· != c) = s := by
  have all : ∀ x ∈ s, (x != c) = true := by
    intro x mem
    rw [bne_iff_ne]
    rintro rfl
    exact free mem
  rw [List.takeWhile_append_of_pos all]
  simp

/-- Hosts that hold colons and at signs do not matter, since the first ones count. -/
theorem parts_append {scheme user password : String} (hosts : String)
    (scheme_plain : ':' ∉ scheme.toList) (user_plain : ':' ∉ user.toList ∧ '@' ∉ user.toList)
    (password_plain : '@' ∉ password.toList) :
    parts (scheme ++ "://" ++ user ++ ":" ++ password ++ "@" ++ hosts) =
      ⟨scheme, user, password, hosts⟩ := by
  let signIn := user.toList ++ ':' :: password.toList
  let rest := signIn ++ '@' :: hosts.toList
  have whole : (scheme ++ "://" ++ user ++ ":" ++ password ++ "@" ++ hosts).toList =
      scheme.toList ++ ':' :: '/' :: '/' :: rest := by simp [rest, signIn]
  have signIn_plain : '@' ∉ signIn := by simp [signIn, user_plain.2, password_plain]
  have user_first : rest.takeWhile (· != ':') = user.toList := by
    rw [show rest = user.toList ++ ':' :: (password.toList ++ '@' :: hosts.toList) by
      simp [rest, signIn]]
    exact takeWhile_ne user_plain.1 _
  have signIn_first : rest.takeWhile (· != '@') = signIn := takeWhile_ne signIn_plain _
  have scheme_behind : (scheme.toList ++ ':' :: '/' :: '/' :: rest).drop
      (scheme.toList.length + 3) = rest := by simp
  have user_behind : signIn.drop (user.toList.length + 1) = password.toList := by simp [signIn]
  have signIn_behind : rest.drop (signIn.length + 1) = hosts.toList := by simp [rest]
  simp only [parts, whole, takeWhile_ne scheme_plain, scheme_behind, user_first, signIn_first,
    user_behind, signIn_behind, String.ofList_toList]

/-- A URI from which endpoint and credential can be read. -/
structure Spells (e : Endpoint) (c : Credential) (uri : String) : Prop where
  whole : uri = e.scheme.name ++ "://" ++ (parts uri).user ++ ":" ++ (parts uri).password ++ "@" ++
    e.hosts
  user : Clean (parts uri).user
  password : Clean (parts uri).password
  scheme : (parts uri).scheme = e.scheme.name
  username : Percent.decode? (parts uri).user = some c.username
  secret : Percent.decode? (parts uri).password = some c.password.expose
  hosts : (parts uri).hosts = e.hosts

theorem Spells.unique {e e' : Endpoint} {c c' : Credential} {uri : String} (h : Spells e c uri)
    (h' : Spells e' c' uri) :
    e.scheme = e'.scheme ∧ c.username = c'.username ∧ c.password = c'.password ∧
      e.hosts = e'.hosts := by
  have scheme : e.scheme.name = e'.scheme.name := h.scheme.symm.trans h'.scheme
  have username := h.username.symm.trans h'.username
  have secret := h.secret.symm.trans h'.secret
  refine ⟨?_, Option.some.inj username, ?_, h.hosts.symm.trans h'.hosts⟩
  · revert scheme
    cases e.scheme <;> cases e'.scheme <;> decide
  · exact congrArg Secret.ofString (Option.some.inj secret)

/-- Without the user part, a URI is the published text it was made from. -/
theorem Spells.anonymous {e : Endpoint} {c : Credential} {uri t : String} (h : Spells e c uri)
    (endpoint : e.Of t) (start : e.scheme.start.toList <+: t.toList) :
    (parts uri).anonymous = t := by
  rw [Parts.anonymous, h.scheme, h.hosts]
  rcases endpoint.hosts with published | ⟨other, -⟩
  · exact published.symm
  · exact absurd start other

end Uri

namespace Target

theorem uri_assemble (e : Endpoint) (c : Credential) :
    (assemble e c).uri.expose = e.scheme.name ++ "://" ++ Percent.encode c.username ++ ":" ++
      Percent.encode c.password.expose ++ "@" ++ e.hosts := rfl

theorem parts_assemble (e : Endpoint) (c : Credential) :
    Uri.parts (assemble e c).uri.expose =
      ⟨e.scheme.name, Percent.encode c.username, Percent.encode c.password.expose, e.hosts⟩ := by
  have plain : ∀ {mark : Char} (s : String), mark ∈ [':', '/', '?', '#', '@', '[', ']'] →
      mark ∉ (Percent.encode s).toList :=
    fun s delimiter mem => (Uri.Clean.encode s).undelimited _ mem delimiter
  rw [uri_assemble]
  refine Uri.parts_append e.hosts ?_ ⟨plain _ (by decide), plain _ (by decide)⟩
    (plain _ (by decide))
  cases e.scheme <;> decide

theorem spells_assemble (e : Endpoint) (c : Credential) :
    Uri.Spells e c (assemble e c).uri.expose where
  whole := by rw [parts_assemble, uri_assemble]
  user := by rw [parts_assemble]; exact .encode _
  password := by rw [parts_assemble]; exact .encode _
  scheme := by rw [parts_assemble]
  username := by rw [parts_assemble]; exact Percent.decode?_encode _
  secret := by rw [parts_assemble]; exact Percent.decode?_encode _
  hosts := by rw [parts_assemble]

/-- A look-up resolves to the preferred string and fails only if there is none. Whatever endpoint
and credential a URI is built from, it spells them, and no others; and without its user part it is
the published string, if that begins with its scheme. -/
theorem uri_round_trip (project cluster : String) (info : ClusterInfo) :
    (∀ fault, Endpoint.resolve project cluster (.ok info) = .error fault ↔
      (∀ scheme t, ¬ info.strings.Prefers scheme t) ∧
        fault = .resolution project cluster "cluster does not have a connection string") ∧
    (∀ e, Endpoint.resolve project cluster (.ok info) = .ok e ↔
      ∃ t, info.strings.Prefers e.scheme t ∧ e.Of t) ∧
    (∀ e c, Uri.Spells e c (assemble e c).uri.expose ∧
      ∀ t, e.Of t → e.scheme.start.toList <+: t.toList →
        (Uri.parts (assemble e c).uri.expose).anonymous = t) ∧
    ∀ e c e' c', (assemble e c).uri = (assemble e' c').uri →
      e.scheme = e'.scheme ∧ c.username = c'.username ∧ c.password = c'.password ∧
        e.hosts = e'.hosts := by
  refine ⟨fun _ => Endpoint.resolve_eq_error_iff, fun _ => Endpoint.resolve_eq_ok_iff,
    fun e c => ⟨spells_assemble e c, fun t endpoint start =>
      (spells_assemble e c).anonymous endpoint start⟩, fun e c e' c' same => ?_⟩
  have spelled := spells_assemble e' c'
  rw [← same] at spelled
  exact (spells_assemble e c).unique spelled

/-- Hosts with an at sign of their own, and a user part that needs escapes. -/
theorem uri_round_trip_at_sign :
    let info : ClusterInfo := ⟨"orders", "shop", ⟨some " mongodb://a@b:1/?x ", some "srv"⟩⟩
    let e : Endpoint := ⟨.standard, "a@b:1/?x", false⟩
    let c : Credential := ⟨"u:v", .ofString "p@ß", ⟨0, 0⟩, ⟨0, 0⟩, "shop", {}⟩
    Endpoint.resolve "shop" "orders" (.ok info) = .ok e ∧
      Uri.Spells e c "mongodb://u%3Av:p%40%C3%9F@a@b:1/?x" ∧
      (Uri.parts "mongodb://u%3Av:p%40%C3%9F@a@b:1/?x").anonymous = "mongodb://a@b:1/?x" := by
  intro info e c
  obtain ⟨-, resolved, spelled, -⟩ := uri_round_trip "shop" "orders" info
  have published : trimmed " mongodb://a@b:1/?x " = "mongodb://a@b:1/?x" := by decide +kernel
  have uri : (assemble e c).uri.expose = "mongodb://u%3Av:p%40%C3%9F@a@b:1/?x" := by decide +kernel
  have endpoint : e.Of "mongodb://a@b:1/?x" := ⟨.inl (by decide +kernel), by decide⟩
  have preferred : info.strings.Prefers .standard "mongodb://a@b:1/?x" := by
    rw [← published]
    exact .standard rfl (by rw [published]; decide)
  obtain ⟨spells, anonymous⟩ := spelled e c
  rw [uri] at spells anonymous
  exact ⟨(resolved e).mpr ⟨_, preferred, endpoint⟩, spells,
    anonymous _ endpoint (by decide +kernel)⟩

end Target
end ClusterAccess
