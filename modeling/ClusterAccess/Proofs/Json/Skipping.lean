import ClusterAccess.Json.Reader
import ClusterAccess.Proofs.Json.Written

/-!
# Values that are passed over

A value of any shape can be skipped, with whatever tokens come after it. So can whatever stands for
a value in a text: its numbers may be of any size, and its texts need not have a meaning.

## Main definitions

* `itemList`, `memberList`: the tokens of items and of members, by whether the first one is the
  first of all.
* `Phrase`: the tokens of one value of any shape.
* `Expected.between`: what skipping expects where an item or a member may begin.

## Main statements

* `Value.inward`: induction on values.
* `Value.phrase`: the tokens of a value are those of one.
* `Phrase.skip`: skipping takes exactly the tokens of one value.
-/
namespace ClusterAccess.Json

/-! ## Values -/

/-- A property of every value, from the items and members inwards. -/
theorem Value.inward {motive : Value → Prop} (null : motive .null)
    (boolean : ∀ b, motive (.boolean b)) (natural : ∀ n, motive (.natural n))
    (text : ∀ s, motive (.text s))
    (array : ∀ items : List Value, (∀ v ∈ items, motive v) → motive (.array items))
    (object : ∀ members : List (String × Value), (∀ m ∈ members, motive m.2) →
      motive (.object members)) (v : Value) : motive v := by
  match v with
  | .null => exact null
  | .boolean b => exact boolean b
  | .natural n => exact natural n
  | .text s => exact text s
  | .array items =>
    exact array items fun v mem => inward null boolean natural text array object v
  | .object members =>
    exact object members fun m mem => inward null boolean natural text array object m.2
termination_by sizeOf v
decreasing_by
  · have smaller := List.sizeOf_lt_of_mem mem
    simp only [Value.array.sizeOf_spec]
    omega
  · obtain ⟨name, v⟩ := m
    have smaller := List.sizeOf_lt_of_mem mem
    simp only [Value.object.sizeOf_spec, Prod.mk.sizeOf_spec] at smaller ⊢
    omega

/-! ## Items and members -/

/-- The comma before an item or member that is not the first. -/
def comma (first : Bool) : List Token := if first then [] else [.mark .comma]

/-- The tokens of items, of which the first may be the first of its array. -/
def itemList (first : Bool) : List (List Token) → List Token
  | [] => []
  | ts :: items => comma first ++ ts ++ itemList false items

/-- The tokens of members, of which the first may be the first of its object. A name may be a text
without a meaning. -/
def memberList (first : Bool) : List (Option String × List Token) → List Token
  | [] => []
  | (name, ts) :: members =>
    comma first ++ .text name :: .mark .colon :: (ts ++ memberList false members)

def arrayOf (items : List (List Token)) : List Token :=
  .mark .openArray :: itemList true items ++ [.mark .closeArray]

def objectOf (members : List (Option String × List Token)) : List Token :=
  .mark .openObject :: memberList true members ++ [.mark .closeObject]

theorem length_le_itemList {items : List (List Token)} (filled : ∀ ts ∈ items, ts ≠ [])
    (first : Bool) : items.length ≤ (itemList first items).length := by
  induction items generalizing first with
  | nil => exact Nat.le_refl 0
  | cons ts items ih =>
    have later := ih (fun ts mem => filled ts (List.mem_cons_of_mem _ mem)) false
    have here := List.length_pos_iff.mpr (filled ts List.mem_cons_self)
    simp only [itemList, List.length_append, List.length_cons]
    omega

theorem length_le_memberList (first : Bool) (members : List (Option String × List Token)) :
    members.length ≤ (memberList first members).length := by
  induction members generalizing first with
  | nil => exact Nat.le_refl 0
  | cons m members ih =>
    have later := ih false
    simp only [memberList, List.length_append, List.length_cons]
    omega

theorem tokens_array (items : List Value) :
    (Value.array items).tokens = arrayOf (items.map Value.tokens) := by
  have separated_eq (tss : List (List Token)) : separated tss = itemList true tss := by
    induction tss with
    | nil => rfl
    | cons ts others ih =>
      cases others with
      | nil => simp [separated, itemList, comma]
      | cons us others =>
        simp only [separated, itemList, comma, if_true, List.nil_append, Bool.false_eq_true,
          if_false] at ih ⊢
        rw [ih]
        simp
  rw [Value.tokens, itemTokens_eq, separated_eq, arrayOf]

theorem tokens_object (members : List (String × Value)) :
    (Value.object members).tokens =
      objectOf (members.map fun m => (some m.1, m.2.tokens)) := by
  have separated_eq (members : List (String × Value)) : separated (memberTokens members) =
      memberList true (members.map fun m => (some m.1, m.2.tokens)) := by
    induction members with
    | nil => rfl
    | cons m others ih =>
      obtain ⟨name, v⟩ := m
      cases others with
      | nil => simp [memberTokens, separated, memberList, comma]
      | cons m' others =>
        obtain ⟨name', v'⟩ := m'
        simp only [memberTokens, separated, List.map_cons, memberList, comma, if_true,
          List.nil_append, Bool.false_eq_true, if_false, List.cons_append] at ih ⊢
        rw [ih]
  rw [Value.tokens, separated_eq, objectOf]

/-! ## Phrases -/

/-- The tokens of one value of any shape. -/
inductive Phrase : List Token → Prop
  | null : Phrase [.null]
  | boolean (b : Bool) : Phrase [.boolean b]
  | text (value : Option String) : Phrase [.text value]
  | number (n : Numeral) : Phrase [.number n]
  | array {items : List (List Token)} (all : ∀ ts ∈ items, Phrase ts) : Phrase (arrayOf items)
  | object {members : List (Option String × List Token)} (all : ∀ m ∈ members, Phrase m.2) :
      Phrase (objectOf members)

/-- The tokens of a value are those of one. -/
theorem Value.phrase (v : Value) : Phrase v.tokens := by
  induction v using Value.inward with
  | null => exact .null
  | boolean b => exact .boolean b
  | natural n => exact .number (.natural n)
  | text s => exact .text (some s)
  | array items ih =>
    rw [tokens_array]
    exact .array (List.forall_mem_map.mpr ih)
  | object members ih =>
    rw [tokens_object]
    exact .object (List.forall_mem_map.mpr ih)

/-- The first token of a value is none that may stand before or after a value. -/
theorem Phrase.exists_cons {ts : List Token} (h : Phrase ts) : ∃ t rest, ts = t :: rest ∧
    t ≠ .mark .closeArray ∧ t ≠ .mark .comma := by
  cases h <;> exact ⟨_, _, rfl, by simp, by simp⟩

theorem Phrase.ne_nil {ts : List Token} (h : Phrase ts) : ts ≠ [] := by
  obtain ⟨t, rest, rfl, -⟩ := h.exists_cons
  exact List.cons_ne_nil t rest

/-! ## Skipping -/

/-- What is left to skip, if anything is. -/
def resume : Option Expected → Reader Unit
  | none => fun ts => .ok ((), ts)
  | some e => skipFrom e

/-- The place before an item or member, which may be the first, or before the end. -/
def Expected.between (frame : Frame) (first : Bool) (around : List Frame) : Expected :=
  if first then .first frame around else .next frame around

/-- A value is skipped within any frames. -/
def Skips (ts : List Token) : Prop :=
  ∀ around rest, skipFrom (.value around) (ts ++ rest) = resume (Expected.after around) rest

theorem skipFrom_items {items : List (List Token)} (h : ∀ ts ∈ items, Phrase ts ∧ Skips ts)
    (first : Bool) (around : List Frame) (rest : List Token) :
    skipFrom (.between .array first around) (itemList first items ++ .mark .closeArray :: rest) =
      resume (Expected.after around) rest := by
  induction items generalizing first with
  | nil => cases first <;> cases around <;> rfl
  | cons ts items ih =>
    have others := ih (fun ts mem => h ts (List.mem_cons_of_mem _ mem)) false
    obtain ⟨phrase, skips⟩ := h ts List.mem_cons_self
    have value : skipFrom (.value (.array :: around))
        (ts ++ (itemList false items ++ .mark .closeArray :: rest)) =
          resume (Expected.after around) rest := by
      rw [skips, ← others]
      rfl
    rw [itemList, List.append_assoc, List.append_assoc]
    cases first with
    | true =>
      -- The first token of the first item does not end the array.
      obtain ⟨t, more, rfl, noEnd, -⟩ := phrase.exists_cons
      rw [← value]
      simp [comma, Expected.between, skipFrom, Expected.step, noEnd]
    | false =>
      rw [← value]
      rfl

theorem skipFrom_members {members : List (Option String × List Token)}
    (h : ∀ m ∈ members, Skips m.2) (first : Bool) (around : List Frame) (rest : List Token) :
    skipFrom (.between .object first around)
        (memberList first members ++ .mark .closeObject :: rest) =
      resume (Expected.after around) rest := by
  induction members generalizing first with
  | nil => cases first <;> cases around <;> rfl
  | cons m members ih =>
    obtain ⟨name, ts⟩ := m
    have others := ih (fun m mem => h m (List.mem_cons_of_mem _ mem)) false
    have value : skipFrom (.value (.object :: around))
        (ts ++ (memberList false members ++ .mark .closeObject :: rest)) =
          resume (Expected.after around) rest := by
      rw [h _ List.mem_cons_self, ← others]
      rfl
    have key : skipFrom (.key (.object :: around)) (.text name :: .mark .colon ::
        (ts ++ (memberList false members ++ .mark .closeObject :: rest))) =
          resume (Expected.after around) rest := by
      rw [← value]
      rfl
    simp only [memberList, List.append_assoc, List.cons_append]
    rw [← key]
    cases first <;> rfl

theorem Phrase.skips {ts : List Token} (h : Phrase ts) : Skips ts := by
  induction h with
  | null | boolean | text | number => exact fun around rest => by cases around <;> rfl
  | array all ih =>
    intro around rest
    simp only [arrayOf, List.append_assoc, List.cons_append, List.nil_append]
    exact skipFrom_items (fun ts mem => ⟨all ts mem, ih ts mem⟩) true around rest
  | object all ih =>
    intro around rest
    simp only [objectOf, List.append_assoc, List.cons_append, List.nil_append]
    exact skipFrom_members ih true around rest

/-- Skipping takes exactly the tokens of one value. -/
theorem Phrase.skip {ts : List Token} (h : Phrase ts) (rest : List Token) :
    Json.skip (ts ++ rest) = .ok ((), rest) :=
  h.skips [] rest

end ClusterAccess.Json
