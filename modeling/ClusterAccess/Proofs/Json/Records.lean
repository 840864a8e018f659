import ClusterAccess.Proofs.Json.Skipping
import Mathlib.Data.List.Duplicate

/-!
# Records, member by member

A record is read from an object by its members, one after the other: one that a field is for sets
the field, and all others are passed over. No order of the members is better than another, as long
as no field is set twice. A record can also be read from an array, by the order of the fields.

## Main definitions

* `Takes`: a reader takes exactly some tokens.
* `Settles`: what a reader reads where one value stands is that value.
* `Legible`, `Placed`: the members of an object, or the items of an array, make a record.
* `InOrder`: the members of an object are what fields take, in this order.
* `FieldReader.Commutes`: it does not matter which of two fields is set first.
* `Rearranged`: the members of objects come in another order.

## Main statements

* `Legible.takes`, `Settles.record`: a record is read from an object that is legible, and from no
  other.
* `InOrder.legible`, `Legible.of_filter`, `Legible.perm`: an object is legible if its known members
  come in the order of the fields, and then in every order.
* `Respects.record`: a record does not depend on any order.
-/
namespace ClusterAccess.Json

variable {α β σ : Type}

/-! ## Readers at values -/

/-- A reader takes exactly these tokens, whatever comes after them. -/
def Takes (r : Reader α) (ts : List Token) (a : α) : Prop := ∀ rest, r (ts ++ rest) = .ok (a, rest)

/-- Where one value stands, a reader takes all of it, and never minds what comes after it. -/
def Settles (r : Reader α) : Prop :=
  ∀ ts, Phrase ts → ∀ rest a left, r (ts ++ rest) = .ok (a, left) → left = rest ∧ Takes r ts a

theorem Takes.map {r : Reader α} {ts : List Token} {a : α} (h : Takes r ts a) (f : α → β) :
    Takes (r.map f) ts (f a) := by
  intro rest
  rw [Reader.map, h rest]

theorem Reader.map_eq_ok {r : Reader α} {f : α → β} {ts left : List Token} {b : β} :
    r.map f ts = .ok (b, left) ↔ ∃ a, r ts = .ok (a, left) ∧ f a = b := by
  unfold Reader.map
  rcases r ts with fault | ⟨a, rest⟩
  · simp
  · simp only [Except.ok.injEq, Prod.mk.injEq]
    constructor
    · rintro ⟨rfl, rfl⟩
      exact ⟨a, ⟨rfl, rfl⟩, rfl⟩
    · rintro ⟨a, ⟨rfl, rfl⟩, rfl⟩
      exact ⟨rfl, rfl⟩

namespace Settles

theorem of_takes {r : Reader α} {ts : List Token} (h : Settles r) (phrase : Phrase ts) {f : α → β}
    {b : β} (takes : Takes (r.map f) ts b) : ∃ a, Takes r ts a ∧ f a = b := by
  obtain ⟨a, read, rfl⟩ := Reader.map_eq_ok.mp (takes [])
  exact ⟨a, (h ts phrase [] a [] read).2, rfl⟩

theorem map {r : Reader α} (h : Settles r) (f : α → β) : Settles (r.map f) := by
  intro ts phrase rest b left read
  obtain ⟨a, found, rfl⟩ := Reader.map_eq_ok.mp read
  obtain ⟨rfl, takes⟩ := h ts phrase rest a left found
  exact ⟨rfl, takes.map f⟩

@[simp] theorem text : Settles text := by
  intro ts phrase rest s left read
  cases phrase with
  | text value =>
    cases value with
    | none => cases read
    | some s =>
      obtain ⟨rfl, rfl⟩ := Prod.mk.inj (Except.ok.inj read)
      exact ⟨rfl, fun _ => rfl⟩
  | _ => cases read

@[simp] theorem natural (limit : Nat) : Settles (natural limit) := by
  intro ts phrase rest k left read
  cases phrase with
  | number n =>
    cases n with
    | natural n =>
      simp only [List.cons_append, List.nil_append, Json.natural] at read
      split at read
      next small =>
        obtain ⟨rfl, rfl⟩ := Prod.mk.inj (Except.ok.inj read)
        exact ⟨rfl, fun rest => by simp [Json.natural, small]⟩
      · cases read
    | inexact => cases read
    | tooLarge => cases read
  | _ => cases read

@[simp] theorem optional {r : Reader α} (h : Settles r) : Settles (optional r) := by
  intro ts phrase rest o left read
  by_cases null : ts = [.null]
  · subst null
    obtain ⟨rfl, rfl⟩ := Prod.mk.inj (Except.ok.inj read)
    exact ⟨rfl, fun _ => rfl⟩
  · have present (rest : List Token) : Json.optional r (ts ++ rest) = r.map some (ts ++ rest) := by
      cases phrase with
      | null => exact absurd rfl null
      | _ => rfl
    rw [present] at read
    obtain ⟨rfl, takes⟩ := h.map some ts phrase rest o left read
    exact ⟨rfl, fun rest => by rw [present, takes rest]⟩

end Settles

/-! ## Members -/

variable {fields : List (FieldReader σ)}

/-- Whether a member is for one of the fields. -/
def isFor (fields : List (FieldReader σ)) (name : String) : Bool := fields.any (·.name == name)

theorem isFor_name {field : FieldReader σ} (known : field ∈ fields) :
    isFor fields field.name = true :=
  List.any_eq_true.mpr ⟨field, known, by simp⟩

theorem find?_eq_none_of_isFor {name : String} (unknown : isFor fields name = false) :
    fields.find? (·.name == name) = none := by
  simpa [isFor] using unknown

/-- Of fields with distinct names, each is found by its name. -/
theorem find?_name (distinct : (fields.map (·.name)).Nodup) {field : FieldReader σ}
    (mem : field ∈ fields) : fields.find? (·.name == field.name) = some field := by
  induction fields with
  | nil => cases mem
  | cons f fields ih =>
    simp only [List.map_cons, List.nodup_cons, List.mem_map, not_exists, not_and] at distinct
    rcases List.mem_cons.mp mem with rfl | later
    · simp
    · have other : (f.name == field.name) = false := by
        simpa using Ne.symm (distinct.1 field later)
      rw [List.find?_cons_of_neg (by simp [other]), ih distinct.2 later]

/-- The members of an object turn one record into another, when the fields with some names have
been set before. -/
inductive Legible (fields : List (FieldReader σ)) :
    List String → σ → List (Option String × List Token) → σ → Prop
  | nil {seen : List String} (s : σ)
      (complete : ∀ field ∈ fields, field.presence ≠ .required ∨ field.name ∈ seen) :
      Legible fields seen s [] s
  | known {seen : List String} {s s₁ s' : σ} {field : FieldReader σ} {ts : List Token}
      {ms : List (Option String × List Token)} (mem : field ∈ fields) (unread : field.name ∉ seen)
      (phrase : Phrase ts) (takes : Takes (field.read s) ts s₁)
      (rest : Legible fields (field.name :: seen) s₁ ms s') :
      Legible fields seen s ((some field.name, ts) :: ms) s'
  | unknown {seen : List String} {s s' : σ} {name : String} {ts : List Token}
      {ms : List (Option String × List Token)} (unknown : isFor fields name = false)
      (phrase : Phrase ts) (rest : Legible fields seen s ms s') :
      Legible fields seen s ((some name, ts) :: ms) s'

theorem nextKey_member (first : Bool) (name : String) (rest : List Token) :
    nextKey first (comma first ++ .text (some name) :: rest) = .ok (some name, rest) := by
  cases first <;> rfl

theorem nextKey_close (first : Bool) (rest : List Token) :
    nextKey first (.mark .closeObject :: rest) = .ok (none, rest) := by
  cases first <;> rfl

namespace Legible

variable {seen : List String} {s s' : σ} {ms : List (Option String × List Token)}

theorem members_eq (h : Legible fields seen s ms s') (distinct : (fields.map (·.name)).Nodup)
    {fuel : Nat} (enough : ms.length < fuel) (first : Bool) (rest : List Token) :
    members fields fuel first seen s (memberList first ms ++ .mark .closeObject :: rest) =
      .ok (s', rest) := by
  induction h generalizing fuel first with
  | @nil seen s complete =>
    obtain ⟨fuel, rfl⟩ : ∃ n, fuel = n + 1 := ⟨fuel - 1, by omega⟩
    have all : (fields.all fun f => f.presence != .required || seen.contains f.name) = true := by
      simpa using complete
    simp only [memberList, List.nil_append, members, nextKey_close, all, if_true]
  | @known seen s s₁ s' field ts ms mem unread phrase takes _ ih =>
    obtain ⟨fuel, rfl⟩ : ∃ n, fuel = n + 1 := ⟨fuel - 1, by omega⟩
    have fewer : ms.length < fuel := by simpa using enough
    have unread : seen.contains field.name = false := by simpa using unread
    simp only [memberList, List.append_assoc, List.cons_append, members, nextKey_member,
      find?_name distinct mem, unread, Bool.false_eq_true, if_false, colon, takes _, ih fewer]
  | @unknown seen s s' name ts ms unknown phrase _ ih =>
    obtain ⟨fuel, rfl⟩ : ∃ n, fuel = n + 1 := ⟨fuel - 1, by omega⟩
    have fewer : ms.length < fuel := by simpa using enough
    simp only [memberList, List.append_assoc, List.cons_append, members, nextKey_member,
      find?_eq_none_of_isFor unknown, colon, phrase.skip, ih fewer]

/-- A legible object is read as a record. -/
theorem takes (h : Legible fields [] s ms s') (distinct : (fields.map (·.name)).Nodup) :
    Takes (record fields s) (objectOf ms) s' := by
  intro rest
  have enough := length_le_memberList true ms
  simp only [objectOf, List.append_assoc, List.cons_append, List.nil_append, record]
  refine h.members_eq distinct ?_ true rest
  rw [List.length_append]
  omega

/-- Nothing else is read as one. -/
theorem of_members (settles : ∀ field ∈ fields, ∀ s, Settles (field.read s))
    (phrases : ∀ m ∈ ms, Phrase m.2) {fuel : Nat} {first : Bool} {rest left : List Token}
    (read : members fields fuel first seen s (memberList first ms ++ .mark .closeObject :: rest) =
      .ok (s', left)) : left = rest ∧ Legible fields seen s ms s' := by
  induction ms generalizing fuel first seen s with
  | nil =>
    cases fuel with
    | zero => cases read
    | succ fuel =>
      simp only [memberList, List.nil_append, members, nextKey_close] at read
      split at read
      next complete =>
        obtain ⟨rfl, rfl⟩ := Prod.mk.inj (Except.ok.inj read)
        exact ⟨rfl, .nil s (by simpa using complete)⟩
      · cases read
  | cons m ms ih =>
    obtain ⟨name, ts⟩ := m
    have phrase : Phrase ts := phrases _ List.mem_cons_self
    have others := fun m mem => phrases m (List.mem_cons_of_mem _ mem)
    cases fuel with
    | zero => cases read
    | succ fuel =>
      cases name with
      | none => cases first <;> cases read
      | some name =>
        simp only [memberList, List.append_assoc, List.cons_append, members, nextKey_member]
          at read
        cases found : fields.find? (·.name == name) with
        | none =>
          simp only [found, colon, phrase.skip] at read
          obtain ⟨rfl, legible⟩ := ih others read
          exact ⟨rfl, .unknown (by simpa [isFor] using found) phrase legible⟩
        | some field =>
          have mem : field ∈ fields := List.mem_of_find?_eq_some found
          obtain rfl : field.name = name := by simpa using List.find?_some found
          simp only [found, colon] at read
          split at read
          · cases read
          next unread =>
            split at read
            · cases read
            next s₁ left' value =>
              obtain ⟨rfl, takes⟩ := settles field mem s ts phrase _ _ _ value
              obtain ⟨rfl, legible⟩ := ih others read
              exact ⟨rfl, .known mem (by simpa using unread) phrase takes legible⟩

/-! ### Other orders -/

/-- It does not matter in which order fields have been set before. -/
theorem of_seen {seen' : List String} (h : Legible fields seen s ms s')
    (same : ∀ name, name ∈ seen ↔ name ∈ seen') : Legible fields seen' s ms s' := by
  induction h generalizing seen' with
  | nil s complete => exact .nil s fun field mem => by rw [← same]; exact complete field mem
  | known mem unread phrase takes _ ih =>
    refine .known mem (by rwa [← same]) phrase takes (ih fun name => ?_)
    rw [List.mem_cons, List.mem_cons, same]
  | unknown unknown phrase _ ih => exact .unknown unknown phrase (ih same)

end Legible

/-- Which of two fields is set first does not matter. -/
def FieldReader.Commutes (f g : FieldReader σ) : Prop :=
  ∀ s s₁ s₂ ts us, Phrase ts → Phrase us → Takes (f.read s) ts s₁ → Takes (g.read s₁) us s₂ →
    ∃ t, Takes (g.read s) us t ∧ Takes (f.read t) ts s₂

theorem FieldReader.Commutes.of {r : Reader α} {q : Reader β} (hr : Settles r) (hq : Settles q)
    {name other : String} {presence presence' : Presence} {set : σ → α → σ} {set' : σ → β → σ}
    (commute : ∀ s a b, set' (set s a) b = set (set' s b) a) :
    (FieldReader.of name presence r set).Commutes (.of other presence' q set') := by
  intro s s₁ s₂ ts us tsPhrase usPhrase first second
  obtain ⟨a, takes, rfl⟩ := hr.of_takes tsPhrase first
  obtain ⟨b, takes', rfl⟩ := hq.of_takes usPhrase second
  refine ⟨set' s b, takes'.map (set' s), ?_⟩
  rw [commute]
  exact takes.map (set (set' s b))

/-- The fields of a record: each can be told from the others, reads what stands for one value, and
is set apart from the others. -/
structure Orderly (fields : List (FieldReader σ)) : Prop where
  distinct : (fields.map (·.name)).Nodup
  settles : ∀ field ∈ fields, ∀ s, Settles (field.read s)
  commute : ∀ f ∈ fields, ∀ g ∈ fields, f.name ≠ g.name → f.Commutes g

namespace Legible

variable {seen : List String} {s s' : σ} {ms ms' : List (Option String × List Token)}

/-- A legible object is so in every order. -/
theorem perm (orderly : Orderly fields) (h : Legible fields seen s ms s') (perm : ms.Perm ms') :
    Legible fields seen s ms' s' := by
  induction perm generalizing seen s with
  | nil => exact h
  | cons m _ ih =>
    cases h with
    | known mem unread phrase takes rest => exact .known mem unread phrase takes (ih rest)
    | unknown unknown phrase rest => exact .unknown unknown phrase (ih rest)
  | swap m m' ms =>
    cases h with
    | unknown unknown phrase rest =>
      cases rest with
      | unknown unknown' phrase' rest =>
        exact .unknown unknown' phrase' (.unknown unknown phrase rest)
      | known mem unread phrase' takes rest =>
        exact .known mem unread phrase' takes (.unknown unknown phrase rest)
    | known mem unread phrase takes rest =>
      cases rest with
      | unknown unknown phrase' rest =>
        exact .unknown unknown phrase' (.known mem unread phrase takes rest)
      | known mem' unread' phrase' takes' rest =>
        rw [List.mem_cons, not_or] at unread'
        obtain ⟨t, first, second⟩ := orderly.commute _ mem _ mem' (Ne.symm unread'.1) _ _ _ _ _
          phrase phrase' takes takes'
        refine .known mem' unread'.2 phrase' first (.known mem ?_ phrase second ?_)
        · rw [List.mem_cons, not_or]
          exact ⟨Ne.symm unread'.1, unread⟩
        · exact rest.of_seen fun name => by simp only [List.mem_cons, or_left_comm]
  | trans _ _ ih ih' => exact ih' (ih h)

/-- What stands for a known member is what its field reads. -/
theorem exists_takes (orderly : Orderly fields) (h : Legible fields seen s ms s')
    {field : FieldReader σ} (known : field ∈ fields) {ts : List Token}
    (mem : (some field.name, ts) ∈ ms) : ∃ s s₁, Takes (field.read s) ts s₁ := by
  induction h with
  | nil => cases mem
  | @known _ _ _ _ field' ts' _ mem' _ _ takes _ ih =>
    rcases List.mem_cons.mp mem with same | later
    · obtain ⟨name, rfl⟩ := Prod.mk.inj same
      have found := find?_name orderly.distinct mem'
      rw [← Option.some.inj name, find?_name orderly.distinct known] at found
      cases found
      exact ⟨_, _, takes⟩
    · exact ih later
  | unknown unknown _ _ ih =>
    rcases List.mem_cons.mp mem with same | later
    · obtain ⟨name, rfl⟩ := Prod.mk.inj same
      rw [← Option.some.inj name, isFor_name known] at unknown
      cases unknown
    · exact ih later

/-- A field that has been set is not set again. -/
theorem not_mem_of_seen (h : Legible fields seen s ms s') {name : String}
    (known : isFor fields name = true) (read : name ∈ seen) : some name ∉ ms.map (·.1) := by
  induction h with
  | nil => simp
  | known _ unread _ _ _ ih =>
    rw [List.map_cons, List.mem_cons, not_or]
    refine ⟨fun same => unread ?_, ih (List.mem_cons_of_mem _ read)⟩
    rwa [← Option.some.inj same]
  | unknown unknown _ _ ih =>
    rw [List.map_cons, List.mem_cons, not_or]
    refine ⟨fun same => ?_, ih read⟩
    rw [Option.some.inj same, unknown] at known
    cases known

/-- No known member comes twice. -/
theorem not_duplicate (h : Legible fields seen s ms s') {name : String}
    (known : isFor fields name = true) : ¬ List.Duplicate (some name) (ms.map (·.1)) := by
  intro twice
  induction h with
  | nil => cases twice
  | known _ _ _ _ rest ih =>
    rcases List.duplicate_cons_iff.mp twice with ⟨same, again⟩ | later
    · refine rest.not_mem_of_seen known ?_ again
      rw [← Option.some.inj same]
      exact List.mem_cons_self
    · exact ih later
  | unknown unknown _ _ ih =>
    rcases List.duplicate_cons_iff.mp twice with ⟨same, -⟩ | later
    · rw [← Option.some.inj same, unknown] at known
      cases known
    · exact ih later

end Legible

/-! ## Fields in order -/

def named (m : String × List Token) : Option String × List Token := (some m.1, m.2)

/-- The members are, in this order, what fields take one after the other. Fields that may be left
out may be missing. -/
inductive InOrder : List (FieldReader σ) → List (String × List Token) → σ → σ → Prop
  | nil (s : σ) : InOrder [] [] s s
  | cons {field : FieldReader σ} {fields : List (FieldReader σ)} {ts : List Token}
      {ms : List (String × List Token)} {s s₁ s' : σ} (phrase : Phrase ts)
      (takes : Takes (field.read s) ts s₁) (rest : InOrder fields ms s₁ s') :
      InOrder (field :: fields) ((field.name, ts) :: ms) s s'
  | absent {field : FieldReader σ} {fields : List (FieldReader σ)}
      {ms : List (String × List Token)} {s s' : σ} (mayBe : field.presence ≠ .required)
      (rest : InOrder fields ms s s') : InOrder (field :: fields) ms s s'

namespace InOrder

variable {ms : List (String × List Token)} {s s' : σ}

/-- The fields that are left are read from the members that are left. -/
theorem legible_of_left {left : List (FieldReader σ)} {seen : List String}
    (h : InOrder left ms s s') (known : ∀ field ∈ left, field ∈ fields)
    (distinct : (left.map (·.name)).Nodup) (unread : ∀ field ∈ left, field.name ∉ seen)
    (complete : ∀ field ∈ fields,
      field ∈ left ∨ field.presence ≠ .required ∨ field.name ∈ seen) :
    Legible fields seen s (ms.map named) s' := by
  induction h generalizing seen with
  | nil s => exact .nil s fun field mem => (complete field mem).resolve_left List.not_mem_nil
  | @cons field left ts ms s s₁ s' phrase takes _ ih =>
    simp only [List.forall_mem_cons] at known unread
    simp only [List.map_cons, List.nodup_cons, List.mem_map, not_exists, not_and] at distinct
    refine .known known.1 unread.1 phrase takes (ih known.2 distinct.2 ?_ ?_)
    · intro other mem
      rw [List.mem_cons, not_or]
      exact ⟨distinct.1 other mem, unread.2 other mem⟩
    · intro other mem
      rcases complete other mem with left | others | read
      · rcases List.mem_cons.mp left with rfl | later
        · exact .inr (.inr List.mem_cons_self)
        · exact .inl later
      · exact .inr (.inl others)
      · exact .inr (.inr (List.mem_cons_of_mem _ read))
  | @absent field left ms s s' mayBe _ ih =>
    simp only [List.forall_mem_cons] at known unread
    rw [List.map_cons, List.nodup_cons] at distinct
    refine ih known.2 distinct.2 unread.2 fun other mem => ?_
    rcases complete other mem with left | others
    · rcases List.mem_cons.mp left with rfl | later
      · exact .inr (.inl mayBe)
      · exact .inl later
    · exact .inr others

theorem legible (h : InOrder fields ms s s') (distinct : (fields.map (·.name)).Nodup) :
    Legible fields [] s (ms.map named) s' :=
  h.legible_of_left (fun _ => id) distinct (by simp) fun _ => .inl

end InOrder

/-- Other members make no difference. -/
theorem Legible.of_filter {ms : List (String × List Token)} {seen : List String} {s s' : σ}
    (phrases : ∀ m ∈ ms, Phrase m.2)
    (h : Legible fields seen s ((ms.filter fun m => isFor fields m.1).map named) s') :
    Legible fields seen s (ms.map named) s' := by
  induction ms generalizing seen s with
  | nil => exact h
  | cons m ms ih =>
    obtain ⟨name, ts⟩ := m
    rw [List.forall_mem_cons] at phrases
    cases status : isFor fields name with
    | false =>
      rw [List.filter_cons_of_neg (by simp [status])] at h
      exact .unknown status phrases.1 (ih phrases.2 h)
    | true =>
      rw [List.filter_cons_of_pos (by simp [status]), List.map_cons, named] at h
      cases h with
      | known mem unread phrase takes rest =>
        exact .known mem unread phrase takes (ih phrases.2 rest)
      | unknown unknown phrase rest => exact .unknown unknown phrase (ih phrases.2 rest)

/-! ## Arrays -/

/-- The items of an array set the first fields, in this order. -/
inductive Placed : List (FieldReader σ) → σ → List (List Token) → σ → Prop
  | done {fields : List (FieldReader σ)} (s : σ)
      (mayBe : ∀ field ∈ fields, field.presence = .optional) : Placed fields s [] s
  | item {field : FieldReader σ} {others : List (FieldReader σ)} {s s₁ s' : σ} {ts : List Token}
      {items : List (List Token)} (phrase : Phrase ts) (takes : Takes (field.read s) ts s₁)
      (rest : Placed others s₁ items s') : Placed (field :: others) s (ts :: items) s'

theorem nextElement_item {ts : List Token} (phrase : Phrase ts) (first : Bool)
    (rest : List Token) :
    nextElement first (comma first ++ (ts ++ rest)) = .ok (true, ts ++ rest) := by
  obtain ⟨t, more, rfl, noEnd, noComma⟩ := phrase.exists_cons
  cases first <;> simp [nextElement, comma, noEnd, noComma]

theorem nextElement_close (first : Bool) (rest : List Token) :
    nextElement first (.mark .closeArray :: rest) = .ok (false, .mark .closeArray :: rest) := by
  cases first <;> rfl

namespace Placed

variable {s s' : σ} {items : List (List Token)}

theorem positional_eq (h : Placed fields s items s') (first : Bool) (rest : List Token) :
    positional fields first s (itemList first items ++ .mark .closeArray :: rest) =
      .ok (s', rest) := by
  induction h generalizing first with
  | @done fields s mayBe =>
    cases fields with
    | nil => rfl
    | cons field others =>
      have all : ((field :: others).all (·.presence == .optional)) = true := by
        simpa using mayBe
      simp only [itemList, List.nil_append, positional, nextElement_close, all, if_true]
      rfl
  | item phrase takes _ ih =>
    simp only [itemList, List.append_assoc, positional, nextElement_item phrase, takes _, ih]

theorem takes (h : Placed fields s items s') : Takes (record fields s) (arrayOf items) s' := by
  intro rest
  simp only [arrayOf, List.append_assoc, List.cons_append, List.nil_append, record]
  exact h.positional_eq true rest

theorem of_positional (settles : ∀ field ∈ fields, ∀ s, Settles (field.read s))
    (phrases : ∀ ts ∈ items, Phrase ts) {first : Bool} {rest left : List Token}
    (read : positional fields first s (itemList first items ++ .mark .closeArray :: rest) =
      .ok (s', left)) : left = rest ∧ Placed fields s items s' := by
  induction fields generalizing items s first with
  | nil =>
    cases items with
    | nil =>
      obtain ⟨rfl, rfl⟩ := Prod.mk.inj (Except.ok.inj read)
      exact ⟨rfl, .done s (by simp)⟩
    | cons ts items =>
      -- The first token of an item does not end the array.
      obtain ⟨t, more, rfl, noEnd, -⟩ := (phrases ts List.mem_cons_self).exists_cons
      cases first <;> simp [positional, itemList, comma, Reader.map, endArray, noEnd] at read
  | cons field others ih =>
    cases items with
    | nil =>
      simp only [itemList, List.nil_append, positional, nextElement_close] at read
      split at read
      next all =>
        obtain ⟨rfl, rfl⟩ := Prod.mk.inj (Except.ok.inj read)
        exact ⟨rfl, .done s (by simpa using all)⟩
      · cases read
    | cons ts items =>
      have phrase := phrases ts List.mem_cons_self
      simp only [itemList, List.append_assoc, positional, nextElement_item phrase] at read
      split at read
      · cases read
      next s₁ left' value =>
        obtain ⟨rfl, takes⟩ := settles field List.mem_cons_self s ts phrase _ _ _ value
        obtain ⟨rfl, placed⟩ := ih (fun f mem => settles f (List.mem_cons_of_mem _ mem))
          (fun us mem => phrases us (List.mem_cons_of_mem _ mem)) read
        exact ⟨rfl, .item phrase takes placed⟩

end Placed

/-! ## Records -/

theorem Legible.of_record (orderly : Orderly fields) {s s' : σ}
    {ms : List (Option String × List Token)} (phrases : ∀ m ∈ ms, Phrase m.2)
    {rest left : List Token} (read : record fields s (objectOf ms ++ rest) = .ok (s', left)) :
    left = rest ∧ Legible fields [] s ms s' := by
  simp only [objectOf, List.append_assoc, List.cons_append, List.nil_append, record] at read
  exact of_members orderly.settles phrases read

theorem Placed.of_record (orderly : Orderly fields) {s s' : σ} {items : List (List Token)}
    (phrases : ∀ ts ∈ items, Phrase ts) {rest left : List Token}
    (read : record fields s (arrayOf items ++ rest) = .ok (s', left)) :
    left = rest ∧ Placed fields s items s' := by
  simp only [arrayOf, List.append_assoc, List.cons_append, List.nil_append, record] at read
  exact of_positional orderly.settles phrases read

/-- A record is read from an object or an array, all of it. -/
theorem Settles.record (orderly : Orderly fields) (initial : σ) :
    Settles (record fields initial) := by
  intro ts phrase rest s left read
  cases phrase with
  | object phrases =>
    obtain ⟨rfl, legible⟩ := Legible.of_record orderly phrases read
    exact ⟨rfl, legible.takes orderly.distinct⟩
  | array phrases =>
    obtain ⟨rfl, placed⟩ := Placed.of_record orderly phrases read
    exact ⟨rfl, placed.takes⟩
  | _ => cases read

/-! ## The same in another order -/

/-- The same value, whose objects have their members in another order. -/
inductive Rearranged : List Token → List Token → Prop
  | refl {ts : List Token} (phrase : Phrase ts) : Rearranged ts ts
  | trans {ts us vs : List Token} (first : Rearranged ts us) (second : Rearranged us vs) :
      Rearranged ts vs
  | members {ms ms' : List (Option String × List Token)} (phrases : ∀ m ∈ ms, Phrase m.2)
      (perm : ms.Perm ms') : Rearranged (objectOf ms) (objectOf ms')
  | member {before after : List (Option String × List Token)} {name : Option String}
      {ts us : List Token} (phrases : ∀ m ∈ before ++ after, Phrase m.2)
      (inner : Rearranged ts us) :
      Rearranged (objectOf (before ++ (name, ts) :: after))
        (objectOf (before ++ (name, us) :: after))
  | item {before after : List (List Token)} {ts us : List Token}
      (phrases : ∀ ts ∈ before ++ after, Phrase ts) (inner : Rearranged ts us) :
      Rearranged (arrayOf (before ++ ts :: after)) (arrayOf (before ++ us :: after))

/-- All of a list satisfies what one element and the others do. -/
theorem forall_mem_insert {γ : Type} {P : γ → Prop} {before after : List γ} {c : γ}
    (others : ∀ d ∈ before ++ after, P d) (here : P c) : ∀ d ∈ before ++ c :: after, P d := by
  simp only [List.forall_mem_append, List.forall_mem_cons] at others ⊢
  exact ⟨others.1, here, others.2⟩

namespace Rearranged

variable {ts us : List Token}

theorem symm (h : Rearranged ts us) : Rearranged us ts := by
  induction h with
  | refl phrase => exact .refl phrase
  | trans _ _ ih ih' => exact .trans ih' ih
  | members phrases perm => exact .members (fun m mem => phrases m (perm.mem_iff.mpr mem)) perm.symm
  | member phrases _ ih => exact .member phrases ih
  | item phrases _ ih => exact .item phrases ih

theorem phrase (h : Rearranged ts us) : Phrase ts := by
  induction h with
  | refl phrase => exact phrase
  | trans _ _ ih => exact ih
  | members phrases => exact .object phrases
  | member phrases _ ih => exact .object (forall_mem_insert phrases ih)
  | item phrases _ ih => exact .array (forall_mem_insert phrases ih)

end Rearranged

/-- A reader does not depend on the order of members. -/
def Respects (r : Reader α) : Prop :=
  ∀ ts us, Rearranged ts us → ∀ a, Takes r ts a → Takes r us a

theorem Respects.map {r : Reader α} (h : Respects r) (settles : Settles r) (f : α → β) :
    Respects (r.map f) := by
  intro ts us rearranged b takes
  obtain ⟨a, found, rfl⟩ := settles.of_takes rearranged.phrase takes
  exact (h ts us rearranged a found).map f

/-- A reader that reads neither objects nor arrays. -/
theorem Respects.of_scalar {r : Reader α} (scalar : ∀ m rest x, r (.mark m :: rest) ≠ .ok x) :
    Respects r := by
  intro ts us rearranged
  induction rearranged with
  | refl => exact fun _ takes => takes
  | trans _ _ ih ih' => exact fun a takes => ih' a (ih a takes)
  | members | member | item => exact fun _ takes => absurd (takes []) (scalar _ _ _)

theorem Respects.text : Respects text := .of_scalar fun _ _ _ read => by cases read

theorem Respects.natural (limit : Nat) : Respects (natural limit) :=
  .of_scalar fun _ _ _ read => by cases read

theorem Respects.optional_text : Respects (optional Json.text) :=
  .of_scalar fun _ _ _ read => by cases read

/-- One value of a legible object is exchanged for another. -/
theorem Legible.replace {seen : List String} {s s' : σ} {ts us : List Token} {name : Option String}
    {before after : List (Option String × List Token)} (phrase : Phrase us)
    (respects : ∀ field ∈ fields, ∀ s s₁, Takes (field.read s) ts s₁ → Takes (field.read s) us s₁)
    (h : Legible fields seen s (before ++ (name, ts) :: after) s') :
    Legible fields seen s (before ++ (name, us) :: after) s' := by
  induction before generalizing seen s with
  | nil =>
    cases h with
    | known mem unread _ takes rest =>
      exact .known mem unread phrase (respects _ mem _ _ takes) rest
    | unknown unknown _ rest => exact .unknown unknown phrase rest
  | cons m before ih =>
    cases h with
    | known mem unread phrase' takes rest => exact .known mem unread phrase' takes (ih rest)
    | unknown unknown phrase' rest => exact .unknown unknown phrase' (ih rest)

theorem Placed.replace {s s' : σ} {ts us : List Token} {before after : List (List Token)}
    (phrase : Phrase us)
    (respects : ∀ field ∈ fields, ∀ s s₁, Takes (field.read s) ts s₁ → Takes (field.read s) us s₁)
    (h : Placed fields s (before ++ ts :: after) s') :
    Placed fields s (before ++ us :: after) s' := by
  induction before generalizing fields s with
  | nil =>
    cases h with
    | item _ takes rest =>
      exact .item phrase (respects _ List.mem_cons_self _ _ takes) rest
  | cons vs before ih =>
    cases h with
    | item phrase' takes rest =>
      exact .item phrase' takes
        (ih (fun field mem => respects field (List.mem_cons_of_mem _ mem)) rest)

/-- A record does not depend on the order of members, neither its own nor those of its fields. -/
theorem Respects.record (orderly : Orderly fields)
    (respects : ∀ field ∈ fields, ∀ s, Respects (field.read s)) (initial : σ) :
    Respects (record fields initial) := by
  intro ts us rearranged
  induction rearranged with
  | refl => exact fun _ takes => takes
  | trans _ _ ih ih' => exact fun a takes => ih' a (ih a takes)
  | members phrases perm =>
    intro s takes
    obtain ⟨-, legible⟩ := Legible.of_record orderly phrases (takes [])
    exact (legible.perm orderly perm).takes orderly.distinct
  | @member before after name ts us phrases inner =>
    intro s takes
    obtain ⟨-, legible⟩ :=
      Legible.of_record orderly (forall_mem_insert phrases inner.phrase) (takes [])
    refine (legible.replace inner.symm.phrase ?_).takes orderly.distinct
    exact fun field mem s s₁ => respects field mem s ts us inner s₁
  | @item before after ts us phrases inner =>
    intro s takes
    obtain ⟨-, placed⟩ :=
      Placed.of_record orderly (forall_mem_insert phrases inner.phrase) (takes [])
    refine (placed.replace inner.symm.phrase ?_).takes
    exact fun field mem s s₁ => respects field mem s ts us inner s₁

end ClusterAccess.Json
