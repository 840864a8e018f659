import ClusterAccess.Proofs.Json.Lexemes
import ClusterAccess.Proofs.Json.Reading

/-!
# Objects with some of their members

An object may leave out what a record can do without, have its members in any order, and have
others that no field is for. What it may not have is a member twice that a field is for, or a value
that no field reads.

## Main definitions

* `given`, `Tells`: the entries of a record that have values, and an object that tells them.
* `Kind`, `Flawed`: what a member may be, and what is not of this kind.
* `Refuses`: a reader reads nothing that is not of a kind.

## Main statements

* `Tells.takes`: what the entries give is set, whatever else the object has.
* `Refuses.record`: a record is refused if one of its members is.
* `readAll_eq_ok_iff`: what is read of a whole text is what a reader takes.
-/
namespace ClusterAccess.Json

variable {α β σ : Type} {fields : List (FieldReader σ)} {s s' : σ}

/-! ## Entries -/

/-- The entries that have values. -/
def given (entries : List (String × Option (List Token))) : List (String × List Token) :=
  entries.filterMap fun e => e.2.map (e.1, ·)

/-- An object that has members for the entries with values, in any order. No other of its members is
for an entry. -/
def Tells (entries : List (String × Option (List Token))) (ts : List Token) : Prop :=
  ∃ ms : List (String × List Token), ts = objectOf (ms.map named) ∧ (∀ m ∈ ms, Phrase m.2) ∧
    (ms.filter fun m => entries.any (·.1 == m.1)).Perm (given entries)

theorem Tells.phrase {entries : List (String × Option (List Token))} {ts : List Token}
    (h : Tells entries ts) : Phrase ts := by
  obtain ⟨ms, rfl, phrases, -⟩ := h
  exact .object (List.forall_mem_map.mpr phrases)

/-- Objects that tell the entries of records are taken by the readers of these records. -/
theorem Tells.rel {r : Reader α} {entries : β → List (String × Option (List Token))}
    {result : β → α} {o : Option β} {value : Option (List Token)}
    (told : Option.Rel (fun b ts => Tells (entries b) ts) o value)
    (takes : ∀ b ∈ o, ∀ ts, Tells (entries b) ts → Takes r ts (result b)) :
    Option.Rel (fun b ts => Phrase ts ∧ Takes r ts (result b)) o value := by
  cases told with
  | none => exact .none
  | some told => exact .some ⟨told.phrase, takes _ rfl _ told⟩

namespace InOrder

variable {entries : List (String × Option (List Token))} {name : String} {presence : Presence}
  {r : Reader α} {set : σ → α → σ}

/-- A field whose entry may have no value; `fill` sets it if there is one. -/
theorem entry {o : Option β} {value : Option (List Token)} {result : β → α}
    (told : Option.Rel (fun b ts => Phrase ts ∧ Takes r ts (result b)) o value)
    (mayBe : presence ≠ .required) (fill : σ → Option β → σ) (unset : ∀ s, fill s none = s)
    (isSet : ∀ s b, fill s (some b) = set s (result b))
    (rest : InOrder fields (given entries) (fill s o) s') :
    InOrder (.of name presence r set :: fields) (given ((name, value) :: entries)) s s' := by
  cases told with
  | none =>
    rw [unset] at rest
    exact .absent mayBe rest
  | some told =>
    rw [isSet] at rest
    have takes : Takes ((FieldReader.of name presence r set).read s) _ _ := told.2.map (set s)
    exact .cons told.1 takes rest

/-- The same for a value that is written as one value of JSON. -/
theorem value {o : Option β} {value : β → Value} {result : β → α}
    (reads : ∀ b ∈ o, Reads r (value b) (result b)) (mayBe : presence ≠ .required)
    (fill : σ → Option β → σ) (unset : ∀ s, fill s none = s)
    (isSet : ∀ s b, fill s (some b) = set s (result b))
    (rest : InOrder fields (given entries) (fill s o) s') :
    InOrder (.of name presence r set :: fields)
      (given ((name, o.map fun b => (value b).tokens) :: entries)) s s' := by
  refine entry (o := o) ?_ mayBe fill unset isSet rest
  cases o with
  | none => exact .none
  | some b => exact .some ⟨(value b).phrase, reads b rfl⟩

theorem text {set : σ → String → σ} {o : Option String} (fill : σ → Option String → σ)
    (unset : ∀ s, fill s none = s) (isSet : ∀ s t, fill s (some t) = set s t)
    (rest : InOrder fields (given entries) (fill s o) s') :
    InOrder (.of name .optional Json.text set :: fields)
      (given ((name, o.map fun t => (Value.text t).tokens) :: entries)) s s' :=
  value (fun t _ => reads_text t) nofun fill unset isSet rest

theorem count {limit : Nat} {set : σ → Nat → σ} {o : Option Nat} (fits : ∀ n ∈ o, n ≤ limit)
    (fill : σ → Option Nat → σ) (unset : ∀ s, fill s none = s)
    (isSet : ∀ s n, fill s (some n) = set s n)
    (rest : InOrder fields (given entries) (fill s o) s') :
    InOrder (.of name .optional (natural limit) set :: fields)
      (given ((name, o.map fun n => (Value.natural n).tokens) :: entries)) s s' :=
  value (fun n mem => reads_natural (fits n mem)) nofun fill unset isSet rest

end InOrder

/-- What the entries give is set, whatever other members there are and in whatever order. -/
theorem Tells.takes {entries : List (String × Option (List Token))} {ts : List Token}
    (h : Tells entries ts) (orderly : Orderly fields)
    (names : entries.map (·.1) = fields.map (·.name))
    (inOrder : InOrder fields (given entries) s s') : Takes (record fields s) ts s' := by
  obtain ⟨ms, rfl, phrases, perm⟩ := h
  have known (name : String) : entries.any (·.1 == name) = isFor fields name := by
    have same := congrArg (List.any · (· == name)) names
    simpa [List.any_map, Function.comp_def, isFor] using same
  simp only [known] at perm
  have legible := (inOrder.legible orderly.distinct).perm orderly (perm.symm.map named)
  exact (Legible.of_filter phrases legible).takes orderly.distinct

/-! ## Kinds -/

/-- What a member may be: a count up to a limit, a text, a text or `null`, or an object with some
members of its own. -/
inductive Kind where
  | count (limit : Nat)
  | text
  | optionalText
  | object (members : List (String × Kind))

/-- What cannot be of a kind: `null`, a number that is no count up to the limit, or an object that
has a known member twice or one that is not of its kind. -/
inductive Flawed : Kind → List Token → Prop
  | null {kind : Kind} (never : kind ≠ .optionalText) : Flawed kind [.null]
  | number {limit : Nat} {chars : List Char} (isNumber : IsNumber chars)
      (outside : ∀ n ≤ limit, chars ≠ Nat.toDigits 10 n) :
      Flawed (.count limit) [.number (numeralOf chars)]
  | twice {members : List (String × Kind)} {ms : List (Option String × List Token)}
      {name : String} {kind : Kind} (phrases : ∀ m ∈ ms, Phrase m.2)
      (known : (name, kind) ∈ members) (twice : List.Duplicate (some name) (ms.map (·.1))) :
      Flawed (.object members) (objectOf ms)
  | member {members : List (String × Kind)} {ms : List (Option String × List Token)}
      {name : String} {kind : Kind} {ts : List Token} (phrases : ∀ m ∈ ms, Phrase m.2)
      (known : (name, kind) ∈ members) (mem : (some name, ts) ∈ ms) (flawed : Flawed kind ts) :
      Flawed (.object members) (objectOf ms)

theorem Flawed.phrase {kind : Kind} {ts : List Token} (h : Flawed kind ts) : Phrase ts := by
  cases h with
  | null => exact .null
  | number => exact .number _
  | twice phrases | member phrases => exact .object phrases

/-- Nothing that cannot be of a kind is read. -/
def Refuses (r : Reader α) (kind : Kind) : Prop := ∀ ts, Flawed kind ts → ∀ a, ¬ Takes r ts a

namespace Refuses

theorem map {r : Reader α} {kind : Kind} (h : Refuses r kind) (settles : Settles r) (f : α → β) :
    Refuses (r.map f) kind := by
  intro ts flawed b takes
  obtain ⟨a, found, -⟩ := settles.of_takes flawed.phrase takes
  exact h ts flawed a found

theorem text : Refuses text .text := by
  intro ts flawed a takes
  cases flawed
  cases takes []

theorem optional_text : Refuses (optional Json.text) .optionalText := by
  intro ts flawed
  cases flawed with
  | null never => exact absurd rfl never

theorem natural (limit : Nat) : Refuses (natural limit) (.count limit) := by
  intro ts flawed a takes
  cases flawed with
  | null => cases takes []
  | @number _ chars isNumber outside =>
    have read := takes []
    cases value : numeralOf chars with
    | natural n =>
      obtain ⟨rfl, -⟩ := isNumber.numeralOf_eq_natural_iff.mp value
      have large : ¬ n ≤ limit := fun small => outside n small rfl
      simp [Json.natural, value, large] at read
    | inexact | tooLarge =>
      rw [value] at read
      cases read

/-- A record is refused for each of its members. -/
theorem record {members : List (String × Kind)} (orderly : Orderly fields)
    (each : ∀ m ∈ members, ∃ field ∈ fields, field.name = m.1 ∧ ∀ s, Refuses (field.read s) m.2)
    (initial : σ) : Refuses (record fields initial) (.object members) := by
  intro ts flawed s takes
  cases flawed with
  | null => cases takes []
  | @twice _ ms name kind phrases known twice =>
    obtain ⟨-, legible⟩ := Legible.of_record orderly phrases (takes [])
    obtain ⟨field, mem, rfl, -⟩ := each _ known
    exact legible.not_duplicate (isFor_name mem) twice
  | @member _ ms name kind ts phrases known mem flawed =>
    obtain ⟨-, legible⟩ := Legible.of_record orderly phrases (takes [])
    obtain ⟨field, isField, rfl, refuses⟩ := each _ known
    obtain ⟨s, s₁, value⟩ := legible.exists_takes orderly isField mem
    exact refuses s ts flawed s₁ value

end Refuses

/-- A reader of members of one kind: it reads what stands for one value, in whatever order, and
refuses what cannot be of this kind. -/
structure Sound (r : Reader α) (kind : Kind) : Prop where
  settles : Settles r
  respects : Respects r
  refuses : Refuses r kind

namespace Sound

theorem text : Sound text .text := ⟨.text, .text, .text⟩

theorem natural (limit : Nat) : Sound (natural limit) (.count limit) :=
  ⟨.natural limit, .natural limit, .natural limit⟩

theorem optional_text : Sound (optional Json.text) .optionalText :=
  ⟨.optional .text, .optional_text, .optional_text⟩

theorem map {r : Reader α} {kind : Kind} (h : Sound r kind) (f : α → β) : Sound (r.map f) kind :=
  ⟨h.settles.map f, h.respects.map h.settles f, h.refuses.map h.settles f⟩

/-- A field of a record is for a member of some kind. -/
def IsField (field : FieldReader σ) (m : String × Kind) : Prop :=
  field.name = m.1 ∧ ∀ s, Sound (field.read s) m.2

theorem isField {r : Reader α} {kind : Kind} (h : Sound r kind) (name : String)
    (presence : Presence) (set : σ → α → σ) : IsField (.of name presence r set) (name, kind) :=
  ⟨rfl, fun s => h.map (set s)⟩

theorem exists_field {members : List (String × Kind)} (h : List.Forall₂ IsField fields members) :
    ∀ m ∈ members, ∃ field ∈ fields, IsField field m := by
  induction h with
  | nil => simp
  | cons first _ ih =>
    refine List.forall_mem_cons.mpr ⟨⟨_, List.mem_cons_self, first⟩, fun m mem => ?_⟩
    obtain ⟨field, later, isField⟩ := ih m mem
    exact ⟨field, List.mem_cons_of_mem _ later, isField⟩

theorem exists_member {members : List (String × Kind)} (h : List.Forall₂ IsField fields members) :
    ∀ field ∈ fields, ∃ m ∈ members, IsField field m := by
  induction h with
  | nil => simp
  | cons first _ ih =>
    refine List.forall_mem_cons.mpr ⟨⟨_, List.mem_cons_self, first⟩, fun field mem => ?_⟩
    obtain ⟨m, later, isField⟩ := ih field mem
    exact ⟨m, List.mem_cons_of_mem _ later, isField⟩

/-- Two fields that set different components can be set in either order. -/
theorem orderly {members : List (String × Kind)} (h : List.Forall₂ IsField fields members)
    (distinct : (fields.map (·.name)).Nodup)
    (commute : ∀ f ∈ fields, ∀ g ∈ fields, f.name ≠ g.name → f.Commutes g) : Orderly fields where
  distinct := distinct
  settles field mem s := by
    obtain ⟨m, -, -, sound⟩ := exists_member h field mem
    exact (sound s).settles
  commute := commute

/-- A record of fields that are each for a member. -/
theorem record {members : List (String × Kind)} (h : List.Forall₂ IsField fields members)
    (orderly : Orderly fields) (initial : σ) :
    Sound (record fields initial) (.object members) where
  settles := .record orderly initial
  respects := by
    refine .record orderly (fun field mem s => ?_) initial
    obtain ⟨m, -, -, sound⟩ := exists_member h field mem
    exact (sound s).respects
  refuses := by
    refine .record orderly (fun m mem => ?_) initial
    obtain ⟨field, isField, name, sound⟩ := exists_field h m mem
    exact ⟨field, isField, name, fun s => (sound s).refuses⟩

end Sound

/-! ## Whole texts -/

/-- What is read of a text that holds one value is what a reader takes of it. -/
theorem readAll_eq_ok_iff {r : Reader α} (settles : Settles r) {ts : List Token}
    (phrase : Phrase ts) {a : α} : readAll r ts = .ok a ↔ Takes r ts a := by
  constructor
  · intro read
    unfold readAll at read
    split at read
    · cases read
    next found =>
      cases read
      rw [← List.append_nil ts] at found
      exact (settles ts phrase [] _ _ found).2
    · cases read
  · intro takes
    have all := takes []
    rw [List.append_nil] at all
    rw [readAll, all]

end ClusterAccess.Json
