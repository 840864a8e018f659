import ClusterAccess.Json.Reader

/-!
# What readers yield

Some properties hold of everything that is read, whatever the text: a property of the items of a
list is one of all that a list reader finds, and a record has a property from the beginning that
none of its fields takes away.

## Main definitions

* `Yields`: all that a reader reads has a property.
* `FieldReader.Keeps`: a field takes a property of records to itself.

## Main statements

* `yields_record`: a record has a property that it has at first and that its fields keep.
-/
namespace ClusterAccess.Json

variable {α β σ : Type} {P : α → Prop} {Q : β → Prop}

/-- All that a reader reads has a property. -/
def Yields (r : Reader α) (P : α → Prop) : Prop := ∀ ts a rest, r ts = .ok (a, rest) → P a

theorem yields_true (r : Reader α) : Yields r fun _ => True := fun _ _ _ _ => trivial

theorem yields_natural (limit : Nat) : Yields (natural limit) (· ≤ limit) := by
  intro ts n rest read
  unfold natural at read
  split at read
  · split at read
    next small =>
      cases read
      exact small
    · cases read
  · cases read

theorem Yields.map {r : Reader α} (h : Yields r P) {f : α → β} (carried : ∀ a, P a → Q (f a)) :
    Yields (r.map f) Q := by
  intro ts b rest read
  unfold Reader.map at read
  split at read
  next a others first =>
    obtain ⟨rfl, rfl⟩ := Prod.mk.inj (Except.ok.inj read)
    exact carried a (h _ _ _ first)
  · cases read

theorem yields_filterMap (r : Reader α) {f : α → Option β} (kept : ∀ a b, f a = some b → Q b) :
    Yields (r.filterMap f) Q := by
  intro ts b rest read
  unfold Reader.filterMap at read
  split at read
  next a others first =>
    split at read
    next found =>
      obtain ⟨rfl, rfl⟩ := Prod.mk.inj (Except.ok.inj read)
      exact kept a _ found
    · cases read
  · cases read

theorem Yields.optional {r : Reader α} (h : Yields r P) :
    Yields (optional r) fun o => ∀ a ∈ o, P a := by
  have present : Yields (r.map some) fun o => ∀ a ∈ o, P a :=
    h.map fun a holds b mem => by cases mem; exact holds
  intro ts o rest read
  unfold Json.optional at read
  split at read
  · obtain ⟨rfl, rfl⟩ := Prod.mk.inj (Except.ok.inj read)
    nofun
  · exact present _ _ _ read

/-! ## Records -/

variable {R : σ → Prop} {fields : List (FieldReader σ)}

/-- A record that has a property still has it after the field was read. -/
def FieldReader.Keeps (f : FieldReader σ) (R : σ → Prop) : Prop := ∀ s, R s → Yields (f.read s) R

theorem FieldReader.Keeps.of {name : String} {presence : Presence} {r : Reader α} {set : σ → α → σ}
    (h : Yields r P) (sets : ∀ s a, R s → P a → R (set s a)) :
    (FieldReader.of name presence r set).Keeps R :=
  fun s holds => h.map fun a => sets s a holds

/-- A field that has nothing to do with a property. -/
theorem FieldReader.Keeps.frame {name : String} {presence : Presence} {r : Reader α}
    {set : σ → α → σ} (frame : ∀ s a, R s → R (set s a)) :
    (FieldReader.of name presence r set).Keeps R :=
  .of (yields_true r) fun s a holds _ => frame s a holds

theorem yields_members (keeps : ∀ f ∈ fields, f.Keeps R) (fuel : Nat) (first : Bool)
    (seen : List String) {s : σ} (holds : R s) : Yields (members fields fuel first seen s) R := by
  induction fuel generalizing first seen s with
  | zero => nofun
  | succ fuel ih =>
    intro ts s' rest read
    unfold members at read
    split at read
    · cases read
    · split at read
      · obtain ⟨rfl, rfl⟩ := Prod.mk.inj (Except.ok.inj read)
        exact holds
      · cases read
    next name ts' _ =>
      split at read
      · split at read
        · cases read
        · split at read
          · cases read
          · exact ih _ _ holds _ _ _ read
      next field found =>
        split at read
        · cases read
        · split at read
          · cases read
          · split at read
            · cases read
            next s₁ _ value =>
              have known : field ∈ fields := List.mem_of_find?_eq_some found
              exact ih _ _ (keeps field known s holds _ _ _ value) _ _ _ read

theorem yields_positional (keeps : ∀ f ∈ fields, f.Keeps R) (first : Bool) {s : σ} (holds : R s) :
    Yields (positional fields first s) R := by
  have ended {s : σ} (holds : R s) : Yields (endArray.map fun _ => s) R :=
    (yields_true endArray).map fun _ _ => holds
  induction fields generalizing first s with
  | nil => exact ended holds
  | cons field others ih =>
    intro ts s' rest read
    unfold positional at read
    split at read
    · cases read
    · split at read
      · exact ended holds _ _ _ read
      · cases read
    · split at read
      · cases read
      next s₁ _ value =>
        have later := ih fun f mem => keeps f (List.mem_cons_of_mem field mem)
        exact later false (keeps field List.mem_cons_self s holds _ _ _ value) _ _ _ read

/-- A record has a property that it has at first and that its fields keep. -/
theorem yields_record {initial : σ} (keeps : ∀ f ∈ fields, f.Keeps R) (holds : R initial) :
    Yields (record fields initial) R := by
  intro ts s rest read
  unfold record at read
  split at read
  · exact yields_members keeps _ _ _ holds _ _ _ read
  · exact yields_positional keeps _ holds _ _ _ read
  · cases read

/-- What is read of a whole text has the property, too. -/
theorem Yields.read {r : Reader α} (h : Yields r P) {text : String} {a : α}
    (found : Json.read r text = .ok a) : P a := by
  unfold Json.read readAll at found
  split at found
  · cases found
  next first =>
    obtain rfl := Except.ok.inj found
    exact h _ _ _ first
  · cases found

end ClusterAccess.Json
