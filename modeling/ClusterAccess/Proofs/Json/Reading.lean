import ClusterAccess.Proofs.Json.Records

/-!
# Reading what was written

A reader reads a value if it takes exactly the tokens of the value, whatever comes after them. A
record is read from an object that has its fields in order, each read on top of the fields before;
fields that may be left out may be missing, and other members may stand between them.

## Main definitions

* `Reads`: a reader reads a value as something.
* `Fields`: the members of an object are what fields read, in this order.
* `isKnown`: whether a member is for one of the fields.

## Main statements

* `Fields.reads_known`, `Fields.reads_record`: such an object is read as a record, with other
  members and without.
* `reads_list`: an array is read as the list of what its items are read as.
* `Reads.read_pretty`: a written value is read from its text.
-/
namespace ClusterAccess.Json

variable {α β σ : Type}

/-- A reader takes exactly the tokens of a value, and reads them as `a`. -/
def Reads (r : Reader α) (v : Value) (a : α) : Prop :=
  ∀ rest, r (v.tokens ++ rest) = .ok (a, rest)

theorem reads_text (s : String) : Reads text (.text s) s := fun _ => rfl

theorem reads_natural {limit n : Nat} (small : n ≤ limit) :
    Reads (natural limit) (.natural n) n := by
  intro rest
  simp [Value.tokens, natural, small]

theorem reads_optional_text (o : Option String) :
    Reads (optional text) (.ofOption o) o := by
  cases o <;> exact fun rest => rfl

theorem Reads.map {r : Reader α} {v : Value} {a : α} (h : Reads r v a) (f : α → β) :
    Reads (r.map f) v (f a) := by
  intro rest
  rw [Reader.map, h rest]

theorem Reads.filterMap {r : Reader α} {v : Value} {a : α} (h : Reads r v a) {f : α → Option β}
    {b : β} (kept : f a = some b) : Reads (r.filterMap f) v b := by
  intro rest
  simp only [Reader.filterMap, h rest, kept]

theorem Reads.optional {r : Reader α} {v : Value} {a : α} (h : Reads r v a) (present : v ≠ .null) :
    Reads (optional r) v (some a) := by
  intro rest
  rw [← h.map some rest]
  cases v with
  | null => exact absurd rfl present
  | _ => rfl

/-- The members of an object are, in this order, what fields read one after the other. Fields that
may be left out may be missing. -/
inductive Fields : List (FieldReader σ) → List (String × Value) → σ → σ → Prop
  | nil (s : σ) : Fields [] [] s s
  | cons {field : FieldReader σ} {fields : List (FieldReader σ)} {v : Value}
      {members : List (String × Value)} {s s₁ s' : σ} (reads : Reads (field.read s) v s₁)
      (rest : Fields fields members s₁ s') :
      Fields (field :: fields) ((field.name, v) :: members) s s'
  | absent {field : FieldReader σ} {fields : List (FieldReader σ)}
      {members : List (String × Value)} {s s' : σ} (mayBe : field.presence ≠ .required)
      (rest : Fields fields members s s') : Fields (field :: fields) members s s'

/-- A field that is set to what its reader reads. -/
theorem Fields.set {fields : List (FieldReader σ)} {name : String} {presence : Presence}
    {r : Reader α} {f : σ → α → σ} {v : Value} {a : α} {ms : List (String × Value)} {s s' : σ}
    (h : Reads r v a) (rest : Fields fields ms (f s a) s') :
    Fields (.of name presence r f :: fields) ((name, v) :: ms) s s' :=
  have reads : Reads ((FieldReader.of name presence r f).read s) v (f s a) := h.map (f s)
  .cons reads rest

/-! ## Members -/

/-- Whether a member is for one of the fields. -/
def isKnown (fields : List (FieldReader σ)) (m : String × Value) : Bool :=
  fields.any (·.name == m.1)

variable {fields : List (FieldReader σ)} {ms : List (String × Value)} {s s' : σ}

theorem Fields.inOrder (h : Fields fields ms s s') :
    InOrder fields (ms.map fun m => (m.1, m.2.tokens)) s s' := by
  induction h with
  | nil s => exact .nil s
  | @cons _ _ v _ _ _ _ reads _ ih => exact .cons v.phrase reads ih
  | absent mayBe _ ih => exact .absent mayBe ih

/-- An object that has its fields in order is read as a record, whatever other members it has. -/
theorem Fields.reads_known {initial : σ} (h : Fields fields (ms.filter (isKnown fields)) initial s')
    (distinct : (fields.map (·.name)).Nodup) :
    Reads (record fields initial) (.object ms) s' := by
  have phrases : ∀ m ∈ ms.map fun m => (m.1, m.2.tokens), Phrase m.2 :=
    List.forall_mem_map.mpr fun m _ => m.2.phrase
  have legible : Legible fields [] initial (((ms.map fun m => (m.1, m.2.tokens)).filter
      fun m => isFor fields m.1).map named) s' := by
    rw [List.filter_map]
    exact h.inOrder.legible distinct
  intro rest
  rw [tokens_object]
  have takes := (Legible.of_filter phrases legible).takes distinct rest
  rwa [List.map_map] at takes

/-- Every member is one that a field reads. -/
theorem Fields.isKnown_of_mem (h : Fields fields ms s s') : ∀ m ∈ ms, isKnown fields m = true := by
  induction h with
  | nil => simp
  | cons _ _ ih =>
    refine List.forall_mem_cons.mpr ⟨by simp [isKnown], fun m mem => ?_⟩
    rw [isKnown, List.any_cons, Bool.or_eq_true]
    exact .inr (ih m mem)
  | absent _ _ ih =>
    intro m mem
    rw [isKnown, List.any_cons, Bool.or_eq_true]
    exact .inr (ih m mem)

/-- An object that has its fields in order is read as a record. -/
theorem Fields.reads_record {initial : σ} (h : Fields fields ms initial s')
    (distinct : (fields.map (·.name)).Nodup) :
    Reads (record fields initial) (.object ms) s' := by
  have all : ms.filter (isKnown fields) = ms := List.filter_eq_self.mpr h.isKnown_of_mem
  exact Fields.reads_known (all.symm ▸ h) distinct

/-! ## Arrays -/

variable {γ : Type} {r : Reader α} {value : γ → Value} {result : γ → α} {items : List γ}

/-- The items of an array are read one after the other. -/
theorem elements_itemList (h : ∀ c ∈ items, Reads r (value c) (result c)) {fuel : Nat}
    (first : Bool) (enough : items.length < fuel) (rest : List Token) :
    elements r fuel first
        (itemList first (items.map fun c => (value c).tokens) ++ .mark .closeArray :: rest) =
      .ok (items.map result, rest) := by
  induction items generalizing fuel first with
  | nil =>
    obtain ⟨fuel, rfl⟩ : ∃ n, fuel = n + 1 := ⟨fuel - 1, by omega⟩
    cases first <;> rfl
  | cons c items ih =>
    obtain ⟨fuel, rfl⟩ : ∃ n, fuel = n + 1 := ⟨fuel - 1, by omega⟩
    have fewer : items.length < fuel := by simpa using enough
    have others := ih (fun d mem => h d (List.mem_cons_of_mem c mem)) false fewer
    simp only [List.map_cons, itemList, List.append_assoc, elements,
      nextElement_item (value c).phrase, h c List.mem_cons_self _, Reader.map, others]

/-- An array is read as the list of what its items are read as. -/
theorem reads_list (h : ∀ c ∈ items, Reads r (value c) (result c)) :
    Reads (list r) (.array (items.map value)) (items.map result) := by
  intro rest
  have filled : ∀ ts ∈ items.map fun c => (value c).tokens, ts ≠ [] :=
    List.forall_mem_map.mpr fun c _ => (value c).phrase.ne_nil
  have enough := length_le_itemList filled true
  rw [List.length_map] at enough
  simp only [tokens_array, arrayOf, List.map_map, List.append_assoc, List.cons_append,
    List.nil_append, list]
  refine elements_itemList h true ?_ rest
  rw [List.length_append]
  exact Nat.lt_succ_of_le (Nat.le_trans enough (Nat.le_add_right _ _))

/-! ## Whole texts -/

theorem Reads.readAll_tokens {r : Reader α} {v : Value} {a : α} (h : Reads r v a) :
    readAll r v.tokens = .ok a := by
  have all := h []
  rw [List.append_nil] at all
  rw [readAll, all]

/-- A written value is read from its text. -/
theorem Reads.read_pretty {r : Reader α} {v : Value} {a : α} (h : Reads r v a)
    (countable : v.Countable) : read r v.pretty = .ok a := by
  rw [read, tokens_pretty countable, h.readAll_tokens]

/-- A value that was written without blanks is read from its text. -/
theorem Reads.read_compact {r : Reader α} {v : Value} {a : α} (h : Reads r v a)
    (countable : v.Countable) : read r v.compact = .ok a := by
  rw [read, tokens_compact countable, h.readAll_tokens]

end ClusterAccess.Json
