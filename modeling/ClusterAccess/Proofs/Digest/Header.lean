import ClusterAccess.Digest.Answer

/-!
# Headers of digest answers

An answer is written as a list of parts, some of them in quotes, and a server reads from that what
was written: quotes and backslashes inside a text are told from those around it.

## Main definitions

* `Part`, `Answer.parts`: what an answer is written as.
* `fields?`: what a server reads from a header.
* `Answer.Told`: what it finds there.

## Main statements

* `parameters?_intercalate`: parts are read back.
* `fields?_render`, `Answer.told`: so is an answer, and everything in it is found by its name.
-/
namespace ClusterAccess.Digest

/-! ## Parts -/

/-- A name with a value, in quotes or not. -/
structure Part where
  name : String
  value : String
  isQuoted : Bool := true

namespace Part

def text (p : Part) : String := p.name ++ "=" ++ if p.isQuoted then quote p.value else p.value

def field (p : Part) : String × String := (p.name, p.value)

/-- The name ends before the equals sign, and a value without quotes ends where it should. -/
structure Sound (p : Part) : Prop where
  name : ∃ c rest, p.name.toList = c :: rest ∧ isLetter c = true ∧ '=' ∉ rest
  plain : p.isQuoted = false →
    ∃ c rest, p.value.toList = c :: rest ∧ c ≠ '"' ∧ ∀ x ∈ rest, endsPlain x = false

end Part

theorem parameters?_name {rest : List Char} (unequal : '=' ∉ rest) (start more : List Char) :
    parameters? (.inName start) (rest ++ '=' :: more) =
      parameters? (.beforeValue (rest.reverse ++ start)) more := by
  induction rest generalizing start with
  | nil => rfl
  | cons c rest ih =>
    rw [List.mem_cons, not_or] at unequal
    have other : (c == '=') = false := by simpa using Ne.symm unequal.1
    rw [List.cons_append, parameters?, other]
    simp only [Bool.false_eq_true, if_false]
    rw [ih unequal.2, List.reverse_cons, List.append_assoc, List.singleton_append]

/-- Behind a backslash a quote does not end the text. -/
theorem parameters?_quoted (name s start more : List Char) :
    parameters? (.inQuotes name start)
        ((s.flatMap fun c => if c == '"' || c == '\\' then ['\\', c] else [c]) ++ '"' :: more) =
      (parameters? .between more).map (parameter name (s.reverse ++ start) :: ·) := by
  induction s generalizing start with
  | nil => rfl
  | cons c s ih =>
    rw [List.flatMap_cons, List.append_assoc, List.reverse_cons, List.append_assoc,
      List.singleton_append, ← ih (c :: start)]
    by_cases escaped : (c == '"' || c == '\\') = true
    · rw [if_pos escaped]
      simp [parameters?]
    · rw [if_neg escaped]
      have plain : ¬ c = '"' ∧ ¬ c = '\\' := by simpa using escaped
      simp [parameters?, plain]

theorem parameters?_plain {rest : List Char} (plain : ∀ c ∈ rest, endsPlain c = false)
    (name start more : List Char) :
    parameters? (.inPlain name start) (rest ++ more) =
      parameters? (.inPlain name (rest.reverse ++ start)) more := by
  induction rest generalizing start with
  | nil => rfl
  | cons c rest ih =>
    rw [List.cons_append, parameters?, plain c List.mem_cons_self]
    simp only [Bool.false_eq_true, if_false]
    rw [ih fun c mem => plain c (List.mem_cons_of_mem _ mem), List.reverse_cons,
      List.append_assoc, List.singleton_append]

theorem parameter_reverse (p : Part) :
    parameter p.name.toList.reverse p.value.toList.reverse = p.field := by
  simp [parameter, Part.field]

/-- A part is read up to its end, or to the comma behind it. -/
theorem parameters?_part {p : Part} (sound : p.Sound) {more : List Char}
    (ends : ∀ c ∈ more.head?, c = ',') :
    parameters? .between (p.text.toList ++ more) =
      (parameters? .between more).map (p.field :: ·) := by
  obtain ⟨c, rest, name, letter, unequal⟩ := sound.name
  have reversed : rest.reverse ++ [c] = p.name.toList.reverse := by
    rw [name, List.reverse_cons]
  simp only [Part.text, String.toList_append, List.append_assoc]
  rw [name, List.cons_append, parameters?, letter]
  simp only [if_true]
  rw [show "=".toList = ['='] from rfl, List.singleton_append, parameters?_name unequal, reversed,
    ← parameter_reverse]
  cases quoted : p.isQuoted with
  | true =>
    simp only [if_true, quote, String.toList_append, String.toList_ofList, List.append_assoc]
    rw [show "\"".toList = ['"'] from rfl, List.singleton_append, List.singleton_append,
      parameters?]
    simp only [beq_self_eq_true, if_true]
    rw [parameters?_quoted, List.append_nil]
  | false =>
    obtain ⟨v, rest, value, unquoted, plain⟩ := sound.plain quoted
    have unquoted : (v == '"') = false := by simpa using unquoted
    simp only [Bool.false_eq_true, if_false]
    rw [value, List.cons_append, parameters?, unquoted]
    simp only [Bool.false_eq_true, if_false]
    rw [parameters?_plain plain, List.reverse_cons]
    cases more with
    | nil => rfl
    | cons d more =>
      obtain rfl := ends d rfl
      rfl

/-- Parts with commas between them are read back. -/
theorem parameters?_intercalate {parts : List Part} (sound : ∀ p ∈ parts, p.Sound) :
    parameters? .between (", ".intercalate (parts.map Part.text)).toList =
      some (parts.map Part.field) := by
  rw [String.toList_intercalate, List.map_map]
  induction parts with
  | nil => rfl
  | cons p parts ih =>
    have ih := ih fun q mem => sound q (List.mem_cons_of_mem _ mem)
    cases parts with
    | nil =>
      have last := parameters?_part (sound p List.mem_cons_self)
        (show ∀ c ∈ ([] : List Char).head?, c = ',' by simp)
      rw [List.append_nil] at last
      rw [List.map_singleton, List.intercalate_singleton]
      exact last
    | cons q parts =>
      rw [List.map_cons, List.map_cons, List.intercalate_cons_cons, ← List.map_cons,
        Function.comp_apply, List.append_assoc]
      rw [parameters?_part (sound p List.mem_cons_self) (by rintro _ ⟨⟩; rfl)]
      have skipped (more : List Char) :
          parameters? .between (", ".toList ++ more) = parameters? .between more := rfl
      rw [skipped, ih]
      rfl

/-- Where names differ, each has its value. -/
theorem lastValue?_eq_some_iff {fields : List (String × String)}
    (distinct : (fields.map Prod.fst).Nodup) {name value : String} :
    lastValue? name fields = some value ↔ (name, value) ∈ fields := by
  have lookup {fields : List (String × String)} (distinct : (fields.map Prod.fst).Nodup) :
      fields.lookup name = some value ↔ (name, value) ∈ fields := by
    induction fields with
    | nil => simp
    | cons f fields ih =>
      obtain ⟨n, v⟩ := f
      simp only [List.map_cons, List.nodup_cons, List.mem_map, not_exists, not_and] at distinct
      rw [List.lookup_cons, List.mem_cons]
      by_cases same : name = n
      · subst same
        have absent : (name, value) ∉ fields := fun mem => distinct.1 _ mem rfl
        simp [absent, eq_comm]
      · have other : (name == n) = false := by simpa using same
        simp [other, ih distinct.2, same]
  have reversed : (fields.reverse.map Prod.fst).Pairwise (· ≠ ·) := by
    rw [List.map_reverse]
    exact List.pairwise_reverse.mpr (distinct.imp Ne.symm)
  rw [lastValue?, lookup reversed, List.mem_reverse]

/-! ## Answers -/

/-- What an answer is written as. -/
def Answer.parts (a : Answer) : List Part :=
  [{ name := "username", value := a.username }, { name := "realm", value := a.realm },
    { name := "nonce", value := a.nonce }, { name := "uri", value := a.uri }] ++
  (a.protection.toList.flatMap fun (p, clientNonce) =>
    [{ name := "qop", value := p.name, isQuoted := false },
      { name := "nc", value := nonceCount, isQuoted := false },
      { name := "cnonce", value := clientNonce }]) ++
  [{ name := "response", value := a.response }] ++
  (a.echo.toList.map fun echo => { name := "opaque", value := echo }) ++
  (if a.protection.isSome || a.algorithm.function ≠ .md5 then
    [{ name := "algorithm", value := a.algorithm.name, isQuoted := false }]
  else []) ++
  (if a.hidesUser then [{ name := "userhash", value := "true", isQuoted := false }] else [])

theorem Answer.render_eq (a : Answer) :
    a.render = "Digest " ++ ", ".intercalate (a.parts.map Part.text) := by
  obtain ⟨_, _, _, _, protection, _, echo, ⟨function, _⟩, hidesUser⟩ := a
  rcases protection with _ | ⟨p, clientNonce⟩ <;> cases echo <;> cases function <;>
    cases hidesUser <;> rfl

/-- The fields of a header, as a server reads them. -/
def fields? (header : String) : Option (List (String × String)) :=
  if "Digest ".toList.isPrefixOf header.toList then
    parameters? .between (header.toList.drop "Digest ".length)
  else none

/-- The names of all parts that there may be, in their order. -/
def partNames : List String :=
  ["username", "realm", "nonce", "uri", "qop", "nc", "cnonce", "response", "opaque", "algorithm",
    "userhash"]

theorem Answer.names_sublist (a : Answer) : (a.parts.map (·.name)).Sublist partNames := by
  simp only [parts, List.map_append]
  show List.Sublist _ (["username", "realm", "nonce", "uri"] ++ ["qop", "nc", "cnonce"] ++
    ["response"] ++ ["opaque"] ++ ["algorithm"] ++ ["userhash"])
  refine (((((List.Sublist.refl _).append ?_).append (.refl _)).append ?_).append ?_).append ?_
  · cases a.protection
    · exact List.nil_sublist _
    · exact .refl _
  · cases a.echo
    · exact List.nil_sublist _
    · exact .refl _
  all_goals
    split
    · exact .refl _
    · exact List.nil_sublist _

/-- Names and numbers that stand without quotes. -/
def isPlain (value : String) : Bool :=
  match value.toList with
  | [] => false
  | c :: rest => c != '"' && rest.all (!endsPlain ·)

theorem Answer.isPlain_of_unquoted (a : Answer) {p : Part} (mem : p ∈ a.parts)
    (unquoted : p.isQuoted = false) : isPlain p.value = true := by
  have algorithms (a : Algorithm) : isPlain a.name = true := by
    obtain ⟨function, isSession⟩ := a
    cases function <;> cases isSession <;> decide
  have protections (p : Protection) : isPlain p.name = true := by
    cases p <;> decide
  simp only [parts, List.mem_append, List.mem_flatMap, List.mem_map, List.mem_ite_nil_right,
    List.mem_cons, List.not_mem_nil, or_false] at mem
  rcases mem with ((((mem | ⟨⟨protection, _⟩, -, mem⟩) | rfl) | ⟨_, -, rfl⟩) | ⟨-, rfl⟩) | ⟨-, rfl⟩
  · rcases mem with rfl | rfl | rfl | rfl <;> cases unquoted
  · rcases mem with rfl | rfl | rfl
    · exact protections protection
    · decide
    · cases unquoted
  · cases unquoted
  · cases unquoted
  · exact algorithms a.algorithm
  · decide

theorem Answer.parts_sound (a : Answer) : ∀ p ∈ a.parts, p.Sound := by
  have names : ∀ name ∈ partNames, ∃ c rest, name.toList = c :: rest ∧ isLetter c = true ∧
      '=' ∉ rest := by
    simp only [partNames, List.forall_mem_cons, List.not_mem_nil, false_implies, implies_true,
      and_true]
    exact ⟨⟨_, _, rfl, by decide⟩, ⟨_, _, rfl, by decide⟩, ⟨_, _, rfl, by decide⟩,
      ⟨_, _, rfl, by decide⟩, ⟨_, _, rfl, by decide⟩, ⟨_, _, rfl, by decide⟩,
      ⟨_, _, rfl, by decide⟩, ⟨_, _, rfl, by decide⟩, ⟨_, _, rfl, by decide⟩,
      ⟨_, _, rfl, by decide⟩, ⟨_, _, rfl, by decide⟩⟩
  intro p mem
  refine ⟨names p.name (a.names_sublist.subset (List.mem_map_of_mem mem)), fun unquoted => ?_⟩
  have plain := a.isPlain_of_unquoted mem unquoted
  unfold isPlain at plain
  split at plain
  next => cases plain
  next c rest value =>
    simp only [Bool.and_eq_true, bne_iff_ne, List.all_eq_true, Bool.not_eq_eq_eq_not,
      Bool.not_true] at plain
    exact ⟨c, rest, value, plain⟩

/-- A server reads what was written. -/
theorem fields?_render (a : Answer) : fields? a.render = some (a.parts.map Part.field) := by
  have start : "Digest ".toList.isPrefixOf a.render.toList = true := by
    rw [a.render_eq, String.toList_append, List.isPrefixOf_iff_prefix]
    exact List.prefix_append _ _
  have rest : a.render.toList.drop "Digest ".length =
      (", ".intercalate (a.parts.map Part.text)).toList := by
    rw [a.render_eq, String.toList_append]
    exact List.drop_left
  rw [fields?, if_pos start, rest, parameters?_intercalate a.parts_sound]

theorem Answer.fields_eq (a : Answer) : a.parts.map Part.field =
    [("username", a.username), ("realm", a.realm), ("nonce", a.nonce), ("uri", a.uri)] ++
    (a.protection.toList.flatMap fun (p, clientNonce) =>
      [("qop", p.name), ("nc", nonceCount), ("cnonce", clientNonce)]) ++
    [("response", a.response)] ++ (a.echo.toList.map fun echo => ("opaque", echo)) ++
    (if a.protection.isSome || a.algorithm.function ≠ .md5 then [("algorithm", a.algorithm.name)]
    else []) ++ if a.hidesUser then [("userhash", "true")] else [] := by
  simp only [parts, List.map_append, List.map_flatMap, List.map_map,
    apply_ite (List.map Part.field)]
  rfl

/-- What a server finds in the fields of an answer. -/
structure Answer.Told (a : Answer) (fields : List (String × String)) : Prop where
  username : lastValue? "username" fields = some a.username
  realm : lastValue? "realm" fields = some a.realm
  nonce : lastValue? "nonce" fields = some a.nonce
  uri : lastValue? "uri" fields = some a.uri
  protection : lastValue? "qop" fields = a.protection.map (·.1.name)
  count : lastValue? "nc" fields = a.protection.map fun _ => nonceCount
  clientNonce : lastValue? "cnonce" fields = a.protection.map (·.2)
  response : lastValue? "response" fields = some a.response
  echo : lastValue? "opaque" fields = a.echo
  algorithm : lastValue? "algorithm" fields =
    if a.protection.isSome || a.algorithm.function ≠ .md5 then some a.algorithm.name else none
  hidesUser : lastValue? "userhash" fields = if a.hidesUser then some "true" else none

/-- All that an answer holds is told to the server, each under its name. -/
theorem Answer.told (a : Answer) : a.Told (a.parts.map Part.field) := by
  have distinct : ((a.parts.map Part.field).map Prod.fst).Nodup := by
    rw [List.map_map]
    exact a.names_sublist.nodup (by decide)
  constructor <;> refine Option.ext fun value => ?_ <;>
    rw [lastValue?_eq_some_iff distinct, a.fields_eq] <;> simp [eq_comm (b := value)]

end ClusterAccess.Digest
