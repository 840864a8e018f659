import ClusterAccess.Proofs.Json.Records

/-!
# Readers that follow others

One reader follows another if it takes the same tokens of whatever the other one reads. Of an
object, a record with fewer fields follows one that has these fields and others: what it has no
field for it passes over.

## Main definitions

* `Follows`: a reader takes the same tokens as another, and reads something related to it.
* `Advances`: what reading the members of an object comes to, by what stands next.
* `Extends`: a list of fields that has the fields of another list, in the same order, among others.

## Main statements

* `members_succ_eq_ok_iff`: the members of an object are read one after the other.
* `Extends.record`: a record with fewer fields is read of every object of which one with more is.
-/
namespace ClusterAccess.Json

variable {α β γ δ σ τ : Type}

/-- Whatever `r` reads, `q` takes the same tokens of, and what they read is related. -/
def Follows (q : Reader β) (r : Reader α) (R : α → β → Prop) : Prop :=
  ∀ ts a rest, r ts = .ok (a, rest) → ∃ b, q ts = .ok (b, rest) ∧ R a b

namespace Follows

variable {q : Reader β} {r : Reader α} {R : α → β → Prop}

theorem refl (r : Reader α) : Follows r r Eq := fun _ a _ read => ⟨a, read, rfl⟩

theorem map (h : Follows q r R) {S : γ → δ → Prop} {f : α → γ} {g : β → δ}
    (carried : ∀ a b, R a b → S (f a) (g b)) : Follows (q.map g) (r.map f) S := by
  intro ts c rest read
  obtain ⟨a, first, rfl⟩ := Reader.map_eq_ok.mp read
  obtain ⟨b, followed, related⟩ := h ts a rest first
  exact ⟨g b, Reader.map_eq_ok.mpr ⟨b, followed, rfl⟩, carried a b related⟩

/-- A reader that does not keep all that it reads, beside one that does. -/
theorem filterMap (r : Reader α) (f : α → Option β) :
    Follows r (r.filterMap f) fun b a => f a = some b := by
  intro ts b rest read
  unfold Reader.filterMap at read
  split at read
  next a others first =>
    split at read
    next kept =>
      obtain ⟨rfl, rfl⟩ := Prod.mk.inj (Except.ok.inj read)
      exact ⟨a, first, kept⟩
    · cases read
  · cases read

theorem optional (h : Follows q r R) :
    Follows (optional q) (optional r) fun o p => Option.Rel R o p := by
  intro ts o rest read
  unfold Json.optional at read ⊢
  split at read
  · obtain ⟨rfl, rfl⟩ := Prod.mk.inj (Except.ok.inj read)
    exact ⟨none, rfl, .none⟩
  · have present : Follows (q.map some) (r.map some) fun o p => Option.Rel R o p :=
      h.map fun _ _ => .some
    exact present _ _ _ read

/-- A text, or `null`, is passed over as it is read. -/
theorem skip_optional_text : Follows skip (Json.optional text) fun _ _ => True := by
  intro ts o rest read
  refine ⟨(), ?_, trivial⟩
  unfold Json.optional at read
  split at read
  · obtain ⟨-, rfl⟩ := Prod.mk.inj (Except.ok.inj read)
    rfl
  · obtain ⟨s, found, -⟩ := Reader.map_eq_ok.mp read
    unfold text at found
    split at found
    · obtain ⟨-, rfl⟩ := Prod.mk.inj (Except.ok.inj found)
      rfl
    · cases found

end Follows

/-! ## One member after another -/

variable {fields : List (FieldReader σ)} {fuel : Nat} {first : Bool} {seen : List String}
  {s s' : σ} {ts rest : List Token}

/-- What reading the members of an object comes to, by what stands next: the end, a member that no
field is for, or one that a field reads. -/
inductive Advances (fields : List (FieldReader σ)) (fuel : Nat) (first : Bool) (seen : List String)
    (s : σ) (ts : List Token) : σ → List Token → Prop
  | ended {rest : List Token} (key : nextKey first ts = .ok (none, rest))
      (complete : ∀ f ∈ fields, f.presence ≠ .required ∨ f.name ∈ seen) :
      Advances fields fuel first seen s ts s rest
  | unknown {name : String} {value after inner rest : List Token} {s' : σ}
      (key : nextKey first ts = .ok (some name, inner)) (mark : colon inner = .ok ((), value))
      (unknown : fields.find? (·.name == name) = none) (passed : skip value = .ok ((), after))
      (others : members fields fuel false seen s after = .ok (s', rest)) :
      Advances fields fuel first seen s ts s' rest
  | known {name : String} {value after inner rest : List Token} {f : FieldReader σ} {s₁ s' : σ}
      (key : nextKey first ts = .ok (some name, inner)) (mark : colon inner = .ok ((), value))
      (known : fields.find? (·.name == name) = some f) (unread : name ∉ seen)
      (read : f.read s value = .ok (s₁, after))
      (others : members fields fuel false (name :: seen) s₁ after = .ok (s', rest)) :
      Advances fields fuel first seen s ts s' rest

theorem members_succ_eq_ok_iff : members fields (fuel + 1) first seen s ts = .ok (s', rest) ↔
    Advances fields fuel first seen s ts s' rest := by
  constructor
  · intro read
    unfold members at read
    split at read
    · cases read
    next key =>
      split at read
      next complete =>
        obtain ⟨rfl, rfl⟩ := Prod.mk.inj (Except.ok.inj read)
        exact .ended key (by simpa using complete)
      · cases read
    next key =>
      split at read
      next unknown =>
        split at read
        · cases read
        next mark =>
          split at read
          · cases read
          next passed => exact .unknown key mark unknown passed read
      next known =>
        split at read
        · cases read
        next unread =>
          split at read
          · cases read
          next mark =>
            split at read
            · cases read
            next value => exact .known key mark known (by simpa using unread) value read
  · intro advances
    cases advances with
    | ended key complete => simpa [members, key, imp_iff_not_or] using complete
    | unknown key mark unknown passed others =>
      simp only [members, key, mark, unknown, passed, others]
    | known key mark known unread read others =>
      simp only [members, key, mark, known, read, others, List.contains_eq_mem, unread,
        decide_false, Bool.false_eq_true, if_false]

/-! ## Fields -/

/-- A list of fields has those of another list, in the same order, among others. What it reads for
the others is passed over as it is read. -/
inductive Extends (R : σ → τ → Prop) : List (FieldReader σ) → List (FieldReader τ) → Prop
  | nil : Extends R [] []
  | shared {f : FieldReader σ} {g : FieldReader τ} {fs : List (FieldReader σ)}
      {gs : List (FieldReader τ)} (name : f.name = g.name) (presence : f.presence = g.presence)
      (follows : ∀ s t, R s t → Follows (g.read t) (f.read s) R) (rest : Extends R fs gs) :
      Extends R (f :: fs) (g :: gs)
  | extra {f : FieldReader σ} {fs : List (FieldReader σ)} {gs : List (FieldReader τ)}
      (absent : isFor gs f.name = false)
      (skipped : ∀ s t, R s t → Follows skip (f.read s) fun s' _ => R s' t)
      (rest : Extends R fs gs) : Extends R (f :: fs) gs

/-- The fields that two lists have for a name. -/
inductive Counterparts (R : σ → τ → Prop) : Option (FieldReader σ) → Option (FieldReader τ) → Prop
  | neither : Counterparts R none none
  | both {f : FieldReader σ} {g : FieldReader τ}
      (follows : ∀ s t, R s t → Follows (g.read t) (f.read s) R) : Counterparts R (some f) (some g)
  | extra {f : FieldReader σ}
      (skipped : ∀ s t, R s t → Follows skip (f.read s) fun s' _ => R s' t) :
      Counterparts R (some f) none

namespace Extends

variable {R : σ → τ → Prop} {fs : List (FieldReader σ)} {gs : List (FieldReader τ)}

theorem counterparts (h : Extends R fs gs) (name : String) :
    Counterparts R (fs.find? (·.name == name)) (gs.find? (·.name == name)) := by
  induction h with
  | nil => exact .neither
  | @shared f g fs gs same _ follows _ ih =>
    by_cases here : g.name = name
    · rw [List.find?_cons_of_pos (by simp [same, here]), List.find?_cons_of_pos (by simp [here])]
      exact .both follows
    · rw [List.find?_cons_of_neg (by simp [same, here]), List.find?_cons_of_neg (by simp [here])]
      exact ih
  | @extra f fs gs absent skipped _ ih =>
    by_cases here : f.name = name
    · rw [List.find?_cons_of_pos (by simp [here]), find?_eq_none_of_isFor (here ▸ absent)]
      exact .extra skipped
    · rw [List.find?_cons_of_neg (by simp [here])]
      exact ih

theorem exists_field (h : Extends R fs gs) {g : FieldReader τ} (mem : g ∈ gs) :
    ∃ f ∈ fs, f.name = g.name ∧ f.presence = g.presence := by
  induction h with
  | nil => cases mem
  | shared name presence _ _ ih =>
    rcases List.mem_cons.mp mem with rfl | later
    · exact ⟨_, List.mem_cons_self, name, presence⟩
    · obtain ⟨f, found, same⟩ := ih later
      exact ⟨f, List.mem_cons_of_mem _ found, same⟩
  | extra _ _ _ ih =>
    obtain ⟨f, found, same⟩ := ih mem
    exact ⟨f, List.mem_cons_of_mem _ found, same⟩

/-- The members of an object are read with fewer fields as they are with more. Which fields were
read before is the same as far as both have them. -/
theorem members (h : Extends R fs gs) (fuel : Nat) (first : Bool) {seen seen' : List String}
    (same : ∀ name, isFor gs name = true → (name ∈ seen ↔ name ∈ seen')) {s : σ} {t : τ}
    (related : R s t) :
    Follows (members gs fuel first seen' t) (members fs fuel first seen s) R := by
  induction fuel generalizing first seen seen' s t with
  | zero => nofun
  | succ fuel ih =>
    intro ts s' rest read
    simp only [members_succ_eq_ok_iff] at read ⊢
    cases read with
    | ended key complete =>
      refine ⟨t, .ended key fun g mem => ?_, related⟩
      obtain ⟨f, known, name, presence⟩ := h.exists_field mem
      rw [← same _ (isFor_name mem), ← name, ← presence]
      exact complete f known
    | @unknown name _ _ _ _ _ key mark unknown passed others =>
      have counterparts := h.counterparts name
      rw [unknown] at counterparts
      generalize found : gs.find? (·.name == name) = g at counterparts
      cases counterparts
      obtain ⟨t', followed, related⟩ := ih false same related _ _ _ others
      exact ⟨t', .unknown key mark found passed followed, related⟩
    | @known name _ _ _ _ f s₁ _ key mark known unread value others =>
      have counterparts := h.counterparts name
      rw [known] at counterparts
      generalize found : gs.find? (·.name == name) = g at counterparts
      cases counterparts with
      | both follows =>
        obtain ⟨t₁, value', related⟩ := follows s t related _ _ _ value
        have seenAlike : ∀ other, isFor gs other = true →
            (other ∈ name :: seen ↔ other ∈ name :: seen') := by
          intro other isField
          rw [List.mem_cons, List.mem_cons, same other isField]
        obtain ⟨t', followed, related⟩ := ih false seenAlike related _ _ _ others
        have isField : isFor gs name = true := by
          rw [← Bool.not_eq_false]
          intro absent
          rw [find?_eq_none_of_isFor absent] at found
          cases found
        exact ⟨t', .known key mark found (by rwa [← same name isField]) value' followed, related⟩
      | extra skipped =>
        obtain ⟨⟨⟩, passed, related⟩ := skipped s t related _ _ _ value
        have seenAlike : ∀ other, isFor gs other = true →
            (other ∈ name :: seen ↔ other ∈ seen') := by
          intro other isField
          have differs : other ≠ name := by
            rintro rfl
            obtain ⟨g, mem, here⟩ := List.any_eq_true.mp isField
            exact absurd here (List.find?_eq_none.mp found g mem)
          rw [List.mem_cons, or_iff_right differs, same other isField]
        obtain ⟨t', followed, related⟩ := ih false seenAlike related _ _ _ others
        exact ⟨t', .unknown key mark found passed followed, related⟩

/-- A record with fewer fields is read of every object of which one with more is. -/
theorem record (h : Extends R fs gs) {s : σ} {t : τ} (related : R s t) {ts rest : List Token}
    {s' : σ} (read : record fs s (.mark .openObject :: ts) = .ok (s', rest)) :
    ∃ t', record gs t (.mark .openObject :: ts) = .ok (t', rest) ∧ R s' t' :=
  h.members (ts.length + 1) true (fun _ _ => Iff.rfl) related ts s' rest read

end Extends
end ClusterAccess.Json
