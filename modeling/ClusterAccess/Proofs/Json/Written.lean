import ClusterAccess.Proofs.Json.Lexemes

/-!
# The tokens of a written value

A value that is written and scanned again gives the tokens of the value, whatever its layout puts
between them. A number ends only with what comes after it, so a piece of text is scanned together
with the character that follows.

## Main definitions

* `Value.tokens`: the tokens of a value.
* `Value.Countable`: every number of a value is below 2^64.

## Main statements

* `scans_digits`, `scans_quote`: numbers and texts.
* `Scans.joined`: pieces with commas between them.
* `Value.Countable.scans_pretty`: a value with a line for each item and member.
* `Value.Countable.scans_compact`: a value without blanks.
* `tokens_pretty`, `tokens_compact`: a whole text.
-/
namespace ClusterAccess.Json

/-! ## Tokens -/

/-- Tokens of several pieces, with commas between the pieces. -/
def separated : List (List Token) → List Token
  | [] => []
  | [ts] => ts
  | ts :: rest => ts ++ .mark .comma :: separated rest

mutual

def Value.tokens : Value → List Token
  | .null => [.null]
  | .boolean b => [.boolean b]
  | .natural n => [.number (.natural n)]
  | .text s => [.text (some s)]
  | .array items => .mark .openArray :: separated (itemTokens items) ++ [.mark .closeArray]
  | .object members =>
    .mark .openObject :: separated (memberTokens members) ++ [.mark .closeObject]

def itemTokens : List Value → List (List Token)
  | [] => []
  | v :: rest => v.tokens :: itemTokens rest

def memberTokens : List (String × Value) → List (List Token)
  | [] => []
  | (name, v) :: rest => (.text (some name) :: .mark .colon :: v.tokens) :: memberTokens rest

end

/-- Every number is one that a reader of counts can tell from others. -/
inductive Value.Countable : Value → Prop
  | null : Countable .null
  | boolean (b : Bool) : Countable (.boolean b)
  | natural {n : Nat} (small : n < UInt64.size) : Countable (.natural n)
  | text (s : String) : Countable (.text s)
  | array {items : List Value} (all : ∀ v ∈ items, v.Countable) : Countable (.array items)
  | object {members : List (String × Value)} (all : ∀ m ∈ members, m.2.Countable) :
      Countable (.object members)

theorem isSpace_newLine (level : Nat) : ∀ c ∈ newLine level, isSpace c = true := by
  intro c mem
  simp only [newLine, List.mem_cons, List.mem_replicate] at mem
  rcases mem with rfl | ⟨-, rfl⟩ <;> rfl

theorem scans_digits {n : Nat} (small : n < UInt64.size) :
    Scans (Nat.toDigits 10 n) [.number (.natural n)] :=
  fun _ ends => (Lexeme.numeral small).tokensFrom_append fun _ => ends

/-- A quoted text is the text, whatever follows it. -/
theorem tokensFrom_quote (s : String) (rest : List Char) :
    tokensFrom .between (quote s ++ rest) = .text (some s) :: tokensFrom .between rest :=
  (Lexeme.quote s).tokensFrom_append nofun

theorem scans_quote (s : String) : Scans (quote s) [.text (some s)] :=
  fun rest _ => tokensFrom_quote s rest

/-! ## Items and members -/

/-- Pieces with a comma and a gap between them. -/
theorem Scans.joined {α : Type} {gap : List Char} (blank : ∀ c ∈ gap, isSpace c = true)
    {piece : α → List Char} {ts : α → List Token} {items : List α}
    (h : ∀ a ∈ items, Scans (piece a) (ts a)) :
    Scans (Json.joined gap (items.map piece)) (separated (items.map ts)) := by
  induction items with
  | nil => exact fun rest _ => rfl
  | cons a others ih =>
    have first : Scans (piece a) (ts a) := h a List.mem_cons_self
    have later := ih fun b mem => h b (List.mem_cons_of_mem a mem)
    cases others with
    | nil => exact first
    | cons b others =>
      intro rest ends
      have comma (more : List Char) :
          tokensFrom .between (',' :: more) = .mark .comma :: tokensFrom .between more := rfl
      simp only [List.map_cons, Json.joined, separated, List.append_assoc, List.cons_append]
        at later ⊢
      rw [first _ (ends_cons (by simp) _), comma, tokensFrom_blanks blank, later rest ends]

/-- Pieces on lines of their own, between an opening and a closing mark. -/
theorem Scans.enclosed {piece : List Char} {ts : List Token} (h : Scans piece ts)
    {opening closing : Char} {first last : Mark} (opens : start opening = ([.mark first], .between))
    (closes : start closing = ([.mark last], .between)) (inner outer : Nat) :
    Scans (opening :: newLine inner ++ piece ++ newLine outer ++ [closing])
      (.mark first :: ts ++ [.mark last]) := by
  intro rest _
  have opened (more : List Char) :
      tokensFrom .between (opening :: more) = .mark first :: tokensFrom .between more := by
    simp [tokensFrom, step, opens]
  have closed (more : List Char) :
      tokensFrom .between (closing :: more) = .mark last :: tokensFrom .between more := by
    simp [tokensFrom, step, closes]
  have line : Ends (newLine outer ++ closing :: rest) := ends_cons (by simp) _
  simp only [List.append_assoc, List.cons_append, List.nil_append]
  rw [opened, tokensFrom_blanks (isSpace_newLine inner), h _ line,
    tokensFrom_blanks (isSpace_newLine outer), closed]

theorem prettyItems_eq (level : Nat) (items : List Value) :
    prettyItems level items = items.map (·.prettyChars level) := by
  induction items with
  | nil => rfl
  | cons v rest ih => rw [prettyItems, ih, List.map_cons]

theorem prettyMembers_eq (level : Nat) (members : List (String × Value)) :
    prettyMembers level members =
      members.map fun m => quote m.1 ++ ':' :: ' ' :: m.2.prettyChars level := by
  induction members with
  | nil => rfl
  | cons m rest ih =>
    obtain ⟨name, v⟩ := m
    rw [prettyMembers, ih, List.map_cons]

theorem itemTokens_eq (items : List Value) : itemTokens items = items.map Value.tokens := by
  induction items with
  | nil => rfl
  | cons v rest ih => rw [itemTokens, ih, List.map_cons]

theorem memberTokens_eq (members : List (String × Value)) :
    memberTokens members =
      members.map fun m => .text (some m.1) :: .mark .colon :: m.2.tokens := by
  induction members with
  | nil => rfl
  | cons m rest ih =>
    obtain ⟨name, v⟩ := m
    rw [memberTokens, ih, List.map_cons]

/-- A name, and then a value after a colon and a gap. -/
theorem Scans.member {piece : List Char} {ts : List Token} (h : Scans piece ts) (name : String)
    (gap : List Char) (blank : ∀ c ∈ gap, isSpace c = true) :
    Scans (quote name ++ ':' :: (gap ++ piece)) (.text (some name) :: .mark .colon :: ts) := by
  intro rest ends
  have colon (more : List Char) :
      tokensFrom .between (':' :: more) = .mark .colon :: tokensFrom .between more := rfl
  rw [List.append_assoc, tokensFrom_quote, List.cons_append, colon, List.append_assoc,
    tokensFrom_blanks blank, h rest ends]
  rfl

/-- A value with a line for each item and member scans to its tokens. -/
theorem Value.Countable.scans_pretty {v : Value} (h : v.Countable) (level : Nat) :
    Scans (v.prettyChars level) v.tokens := by
  induction h generalizing level with
  | null => exact fun rest _ => rfl
  | boolean b => cases b <;> exact fun rest _ => rfl
  | natural small => exact scans_digits small
  | text s => exact scans_quote s
  | @array items _ ih =>
    cases items with
    | nil => exact fun rest _ => rfl
    | cons v rest =>
      have inner : Scans
          (Json.joined (newLine (level + 1)) ((v :: rest).map (·.prettyChars (level + 1))))
          (separated ((v :: rest).map Value.tokens)) :=
        .joined (isSpace_newLine (level + 1)) fun v mem => ih v mem (level + 1)
      rw [← prettyItems_eq, ← itemTokens_eq] at inner
      exact inner.enclosed rfl rfl (level + 1) level
  | @object members _ ih =>
    cases members with
    | nil => exact fun rest _ => rfl
    | cons m rest =>
      have inner : Scans
          (Json.joined (newLine (level + 1)) ((m :: rest).map fun m =>
            quote m.1 ++ ':' :: ' ' :: m.2.prettyChars (level + 1)))
          (separated ((m :: rest).map fun m => .text (some m.1) :: .mark .colon :: m.2.tokens)) :=
        .joined (isSpace_newLine (level + 1)) fun m mem =>
          (ih m mem (level + 1)).member m.1 [' '] (by simp [isSpace])
      rw [← prettyMembers_eq, ← memberTokens_eq] at inner
      exact inner.enclosed rfl rfl (level + 1) level

/-- A whole text scans to the tokens of the value that it was written for. -/
theorem tokens_pretty {v : Value} (h : v.Countable) : Json.tokens v.pretty = v.tokens := by
  have all := h.scans_pretty 0 [] ends_nil
  rw [Json.tokens, Value.pretty, String.toList_ofList]
  simpa [tokensFrom, finish] using all

/-! ## Values without blanks -/

theorem compactItems_eq (items : List Value) :
    compactItems items = items.map Value.compactChars := by
  induction items with
  | nil => rfl
  | cons v rest ih => rw [compactItems, ih, List.map_cons]

theorem compactMembers_eq (members : List (String × Value)) :
    compactMembers members = members.map fun m => quote m.1 ++ ':' :: m.2.compactChars := by
  induction members with
  | nil => rfl
  | cons m rest ih =>
    obtain ⟨name, v⟩ := m
    rw [compactMembers, ih, List.map_cons]

/-- A piece between an opening and a closing mark. -/
theorem Scans.bracketed {piece : List Char} {ts : List Token} (h : Scans piece ts)
    {opening closing : Char} {first last : Mark} (opens : start opening = ([.mark first], .between))
    (closes : start closing = ([.mark last], .between))
    (ends : closing ∈ [',', ']', '}', ' ', '\n', '\t', '\r']) :
    Scans (opening :: piece ++ [closing]) (.mark first :: ts ++ [.mark last]) := by
  intro rest _
  simp only [List.append_assoc, List.cons_append, List.nil_append, tokensFrom, step, opens]
  rw [h _ (ends_cons ends rest)]
  simp [tokensFrom, step, closes]

/-- A value without blanks scans to its tokens. -/
theorem Value.Countable.scans_compact {v : Value} (h : v.Countable) :
    Scans v.compactChars v.tokens := by
  induction h with
  | null => exact fun rest _ => rfl
  | boolean b => cases b <;> exact fun rest _ => rfl
  | natural small => exact scans_digits small
  | text s => exact scans_quote s
  | @array items _ ih =>
    have inner : Scans (Json.joined [] (items.map Value.compactChars))
        (separated (items.map Value.tokens)) :=
      .joined (by simp) ih
    rw [← compactItems_eq, ← itemTokens_eq] at inner
    exact inner.bracketed rfl rfl (by simp)
  | @object members _ ih =>
    have inner : Scans
        (Json.joined [] (members.map fun m => quote m.1 ++ ':' :: m.2.compactChars))
        (separated (members.map fun m => .text (some m.1) :: .mark .colon :: m.2.tokens)) :=
      .joined (by simp) fun m mem => (ih m mem).member m.1 [] (by simp)
    rw [← compactMembers_eq, ← memberTokens_eq] at inner
    exact inner.bracketed rfl rfl (by simp)

theorem tokens_compact {v : Value} (h : v.Countable) : Json.tokens v.compact = v.tokens := by
  have all := h.scans_compact [] ends_nil
  rw [Json.tokens, Value.compact, String.toList_ofList]
  simpa [tokensFrom, finish] using all

end ClusterAccess.Json
