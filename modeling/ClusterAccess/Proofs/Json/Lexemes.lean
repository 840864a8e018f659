import ClusterAccess.Json.Token
import ClusterAccess.Json.Writer
import ClusterAccess.Proofs.Text.Numerals

/-!
# How tokens may be written

The same tokens can be written in many ways: with any blanks between them, and with any character of
a text as it is, by a letter or by its number. However tokens are written, they are scanned back.

## Main definitions

* `Scans`: a piece of text that is scanned to some tokens.
* `Piece`, `meaning`: a character of a text as it is written, and what such characters mean.
* `IsNumber`: a number, with or without a sign, digits after a point and an exponent.
* `Lexeme`, `Spells`: how one token may be written, and how several may.

## Main statements

* `tokensFrom_pieces`: a text is scanned to what it means, if it means anything.
* `IsNumber.numeralOf_eq_natural_iff`: only a numeral below 2^64 is scanned to a count.
* `Spells.tokensFrom_eq`: tokens are scanned back, however they are written.
-/
namespace ClusterAccess.Json

/-! ## Pieces of text -/

/-- What may follow a value: its end, or a mark or blank that ends a number. -/
def Ends (rest : List Char) : Prop :=
  ∀ c ∈ rest.head?, c ∈ [',', ']', '}', ' ', '\n', '\t', '\r']

/-- A piece of text scans to these tokens, if something follows that may follow a value. -/
def Scans (piece : List Char) (ts : List Token) : Prop :=
  ∀ rest, Ends rest → tokensFrom .between (piece ++ rest) = ts ++ tokensFrom .between rest

theorem ends_nil : Ends [] := by simp [Ends]

theorem ends_cons {c : Char} (h : c ∈ [',', ']', '}', ' ', '\n', '\t', '\r'])
    (rest : List Char) : Ends (c :: rest) := by
  simpa [Ends] using h

/-- Blanks between tokens leave no trace. -/
theorem tokensFrom_blanks {gap : List Char} (blank : ∀ c ∈ gap, isSpace c = true)
    (rest : List Char) : tokensFrom .between (gap ++ rest) = tokensFrom .between rest := by
  induction gap with
  | nil => rfl
  | cons c gap ih =>
    have first : isSpace c = true := blank c List.mem_cons_self
    have others := ih fun d mem => blank d (List.mem_cons_of_mem c mem)
    simp [tokensFrom, step, start, first, others]

/-! ## Texts -/

/-- A digit takes up one byte. -/
theorem utf8Size_of_digitValue? {c : Char} {d : Nat} (h : Text.Hex.digitValue? c = some d) :
    c.utf8Size = 1 := by
  have small : c.toNat < 128 := by
    unfold Text.Hex.digitValue? at h
    grind
  simp only [Char.utf8Size, UInt32.le_iff_toNat_le]
  exact if_pos (Nat.le_of_lt_succ small)

theorem utf8Size_of_hexNumber {a b c d : Char} {n : Nat} (h : hexNumber [a, b, c, d] = some n) :
    ∀ x ∈ [a, b, c, d], x.utf8Size = 1 := by
  have digit : ∀ x ∈ [a, b, c, d], ∃ k, Text.Hex.digitValue? x = some k := by
    simp only [hexNumber, List.foldl_cons, List.foldl_nil] at h
    grind
  intro x mem
  obtain ⟨k, value⟩ := digit x mem
  exact utf8Size_of_digitValue? value

/-- The four digits of an escape by number. -/
theorem tokensFrom_hex {a b c d : Char} {n : Nat} (h : hexNumber [a, b, c, d] = some n)
    (lead : Option Nat) (written : List Char) (unpaired : Bool) (rest : List Char) :
    tokensFrom (.text (.digits [] 0 lead) written unpaired) (a :: b :: c :: d :: rest) =
      tokensFrom (stepCode lead n written unpaired) rest := by
  have sizes := utf8Size_of_hexNumber h
  simp only [List.forall_mem_cons] at sizes
  obtain ⟨sa, sb, sc, sd, -⟩ := sizes
  simp [tokensFrom, step, stepText, sa, sb, sc, sd, h]

/-- One character of a text, or one half of a pair of surrogates, as it is written. -/
inductive Piece where
  | plain (c : Char) (printed : 0x20 ≤ c.toNat) (unquoted : c ≠ '"' ∧ c ≠ '\\')
  | short (letter c : Char) (escape : shortEscape? letter = some c)
  | code (a b c d : Char) (n : Nat) (denotes : hexNumber [a, b, c, d] = some n)

namespace Piece

def chars : Piece → List Char
  | plain c _ _ => [c]
  | short letter _ _ => ['\\', letter]
  | code a b c d _ _ => ['\\', 'u', a, b, c, d]

/-- A character, or the number of a surrogate. -/
def value : Piece → Char ⊕ Nat
  | plain c _ _ => .inl c
  | short _ c _ => .inl c
  | code _ _ _ _ n _ =>
    if isLeadSurrogate n || isTrailSurrogate n then .inr n else .inl (Char.ofNat n)

end Piece

/-- The characters that pieces stand for, two surrogates for one of them. A surrogate that is not
one of two has no meaning. -/
def meaning : List Piece → Option (List Char)
  | [] => some []
  | p :: ps => match p.value with
    | .inl c => (meaning ps).map (c :: ·)
    | .inr high => match ps with
      | [] => none
      | q :: ps => match q.value with
        | .inl _ => none
        | .inr low =>
          if isLeadSurrogate high && isTrailSurrogate low then
            (meaning ps).map (Char.ofNat (0x10000 + (high - 0xD800) * 1024 + (low - 0xDC00)) :: ·)
          else none

variable {p : Piece} {ps : List Piece} {written rest : List Char} {unpaired : Bool}

namespace Piece

theorem ne_u_of_shortEscape? {letter c : Char} (escape : shortEscape? letter = some c) :
    letter ≠ 'u' := by
  rintro rfl
  cases escape

theorem tokensFrom_code {x y z w : Char} {n : Nat} (denotes : hexNumber [x, y, z, w] = some n) :
    tokensFrom (.text .plain written unpaired) ((code x y z w n denotes).chars ++ rest) =
      tokensFrom (stepCode none n written unpaired) rest := by
  rw [← tokensFrom_hex denotes]
  rfl

theorem tokensFrom_second_code {x y z w : Char} {n : Nat} (high : Nat)
    (denotes : hexNumber [x, y, z, w] = some n) :
    tokensFrom (.text (.afterLead high) written unpaired) ((code x y z w n denotes).chars ++ rest) =
      tokensFrom (stepCode (some high) n written unpaired) rest := by
  rw [← tokensFrom_hex denotes]
  rfl

/-- A surrogate is written by its number. -/
theorem eq_code_of_value {n : Nat} (h : p.value = .inr n) :
    ∃ x y z w denotes, p = .code x y z w n denotes ∧
      (isLeadSurrogate n = true ∨ isTrailSurrogate n = true) := by
  cases p with
  | plain | short => cases h
  | code x y z w n denotes =>
    simp only [value] at h
    split at h
    next surrogate =>
      cases h
      exact ⟨x, y, z, w, denotes, rfl, by simpa using surrogate⟩
    · cases h

/-- A character is added to those before it. -/
theorem tokensFrom_character {c : Char} (h : p.value = .inl c) :
    tokensFrom (.text .plain written unpaired) (p.chars ++ rest) =
      tokensFrom (.text .plain (c :: written) unpaired) rest := by
  cases p with
  | plain d printed unquoted =>
    cases h
    simp [chars, tokensFrom, step, stepText, stepPlain, unquoted, Nat.not_lt.mpr printed]
  | short letter d escape =>
    cases h
    simp [chars, tokensFrom, step, stepText, stepPlain, stepEscape, ne_u_of_shortEscape? escape,
      escape]
  | code x y z w n denotes =>
    simp only [value] at h
    split at h
    · cases h
    next alone =>
      cases h
      simp only [Bool.or_eq_true, not_or, Bool.not_eq_true] at alone
      rw [tokensFrom_code]
      simp [stepCode, alone]

/-- The first half of a pair waits for the second. -/
theorem tokensFrom_lead {n : Nat} (h : p.value = .inr n) (lead : isLeadSurrogate n = true) :
    tokensFrom (.text .plain written unpaired) (p.chars ++ rest) =
      tokensFrom (.text (.afterLead n) written unpaired) rest := by
  obtain ⟨x, y, z, w, denotes, rfl, -⟩ := eq_code_of_value h
  rw [tokensFrom_code]
  simp [stepCode, lead]

theorem tokensFrom_trail {n : Nat} (h : p.value = .inr n) (noLead : isLeadSurrogate n = false) :
    tokensFrom (.text .plain written unpaired) (p.chars ++ rest) =
      tokensFrom (.text .plain written true) rest := by
  obtain ⟨x, y, z, w, denotes, rfl, surrogate⟩ := eq_code_of_value h
  have trail : isTrailSurrogate n = true := surrogate.resolve_left (by simp [noLead])
  rw [tokensFrom_code]
  simp [stepCode, noLead, trail]

theorem tokensFrom_afterLead {high low : Nat} (h : p.value = .inr low)
    (trail : isTrailSurrogate low = true) :
    tokensFrom (.text (.afterLead high) written unpaired) (p.chars ++ rest) =
      tokensFrom (.text .plain
        (Char.ofNat (0x10000 + (high - 0xD800) * 1024 + (low - 0xDC00)) :: written) unpaired)
        rest := by
  obtain ⟨x, y, z, w, denotes, rfl, -⟩ := eq_code_of_value h
  have noLead : isLeadSurrogate low = false := by
    simp only [isTrailSurrogate, isLeadSurrogate] at trail ⊢
    grind
  rw [tokensFrom_second_code]
  simp [stepCode, noLead, trail]

/-- A first half without the second leaves a text without a meaning, wherever it goes on. -/
theorem tokensFrom_unmatched (high : Nat)
    (other : ∀ n, p.value = .inr n → isTrailSurrogate n = false) :
    (∃ written', tokensFrom (.text (.afterLead high) written unpaired) (p.chars ++ rest) =
      tokensFrom (.text .plain written' true) rest) ∨
    ∃ n, tokensFrom (.text (.afterLead high) written unpaired) (p.chars ++ rest) =
      tokensFrom (.text (.afterLead n) written true) rest := by
  cases p with
  | plain c printed unquoted =>
    refine .inl ⟨c :: written, ?_⟩
    simp [chars, tokensFrom, step, stepText, stepPlain, unquoted, Nat.not_lt.mpr printed]
  | short letter c escape =>
    refine .inl ⟨c :: written, ?_⟩
    simp [chars, tokensFrom, step, stepText, stepEscape, ne_u_of_shortEscape? escape, escape]
  | code x y z w n denotes =>
    rw [tokensFrom_second_code]
    cases lead : isLeadSurrogate n with
    | true => exact .inr ⟨n, by simp [stepCode, lead]⟩
    | false =>
      have noTrail : isTrailSurrogate n = false := by
        cases trail : isTrailSurrogate n with
        | false => rfl
        | true => exact trail.symm.trans (other n (by simp [value, trail]))
      exact .inl ⟨written, by simp [stepCode, lead, noTrail]⟩

end Piece

theorem tokensFrom_quoted (written rest : List Char) (unpaired : Bool) :
    tokensFrom (.text .plain written unpaired) ('"' :: rest) =
      .text (if unpaired then none else some (String.ofList written.reverse)) ::
        tokensFrom .between rest := rfl

/-- Once a surrogate was alone, a text has no meaning. -/
theorem tokensFrom_unpaired (ps : List Piece) (written rest : List Char) :
    tokensFrom (.text .plain written true) (ps.flatMap Piece.chars ++ '"' :: rest) =
        .text none :: tokensFrom .between rest ∧
      ∀ high, tokensFrom (.text (.afterLead high) written true)
          (ps.flatMap Piece.chars ++ '"' :: rest) =
        .text none :: tokensFrom .between rest := by
  induction ps generalizing written with
  | nil => exact ⟨rfl, fun _ => rfl⟩
  | cons p ps ih =>
    -- A first half waits for its second half even now, so both places are needed at once.
    simp only [List.flatMap_cons, List.append_assoc]
    constructor
    · cases value : p.value with
      | inl c => rw [p.tokensFrom_character value, (ih _).1]
      | inr n =>
        cases lead : isLeadSurrogate n with
        | true => rw [p.tokensFrom_lead value lead, (ih _).2]
        | false => rw [p.tokensFrom_trail value lead, (ih _).1]
    · intro high
      by_cases second : ∃ n, p.value = .inr n ∧ isTrailSurrogate n = true
      · obtain ⟨n, value, trail⟩ := second
        rw [p.tokensFrom_afterLead value trail, (ih _).1]
      · rcases p.tokensFrom_unmatched high (by simpa using second) with
          ⟨written', step⟩ | ⟨n, step⟩
        · rw [step, (ih _).1]
        · rw [step, (ih _).2]

/-- A surrogate that is not one of two. -/
theorem tokensFrom_alone {high : Nat} (value : p.value = .inr high)
    (alone : isLeadSurrogate high = true →
      ∀ q ∈ ps.head?, ∀ n, q.value = .inr n → isTrailSurrogate n = false) :
    tokensFrom (.text .plain written false) ((p :: ps).flatMap Piece.chars ++ '"' :: rest) =
      .text none :: tokensFrom .between rest := by
  rw [List.flatMap_cons, List.append_assoc]
  cases lead : isLeadSurrogate high with
  | false => rw [p.tokensFrom_trail value lead, (tokensFrom_unpaired ps _ _).1]
  | true =>
    rw [p.tokensFrom_lead value lead]
    cases ps with
    | nil => rfl
    | cons q ps =>
      rw [List.flatMap_cons, List.append_assoc]
      rcases q.tokensFrom_unmatched high (alone lead q rfl) with
        ⟨written', step⟩ | ⟨n, step⟩
      · rw [step, (tokensFrom_unpaired ps _ _).1]
      · rw [step, (tokensFrom_unpaired ps _ _).2]

/-- A text is scanned to what its characters mean, if they mean anything. -/
theorem tokensFrom_pieces (ps : List Piece) (written rest : List Char) :
    tokensFrom (.text .plain written false) (ps.flatMap Piece.chars ++ '"' :: rest) =
      .text ((meaning ps).map fun s => String.ofList (written.reverse ++ s)) ::
        tokensFrom .between rest := by
  fun_induction meaning ps generalizing written with
  | case1 => simp [tokensFrom_quoted]
  | case2 p ps c value ih =>
    simp only [List.flatMap_cons, List.append_assoc]
    rw [p.tokensFrom_character value, ih, Option.map_map]
    simp [Function.comp_def]
  | case3 p high value => exact tokensFrom_alone value fun _ _ mem => by cases mem
  | case4 p high value q ps c value' =>
    refine tokensFrom_alone value fun _ _ mem n other => ?_
    cases mem
    rw [value'] at other
    cases other
  | case5 p high value q ps low value' pair ih =>
    simp only [Bool.and_eq_true] at pair
    simp only [List.flatMap_cons, List.append_assoc]
    rw [p.tokensFrom_lead value pair.1, q.tokensFrom_afterLead value' pair.2, ih, Option.map_map]
    simp [Function.comp_def]
  | case6 p high value q ps low value' noPair =>
    refine tokensFrom_alone value fun lead _ mem n other => ?_
    cases mem
    rw [value'] at other
    cases other
    simpa [lead] using noPair

/-! ### Texts as they are written here -/

theorem hexNumber_control {n : Nat} (control : n < 0x20) :
    hexNumber ['0', '0', Text.Hex.lowerDigit (n / 16), Text.Hex.lowerDigit (n % 16)] = some n := by
  have high : n / 16 < 16 := by omega
  have low : n % 16 < 16 := by omega
  have zero : Text.Hex.digitValue? '0' = some 0 := rfl
  simp [hexNumber, zero, Text.Hex.digitValue?_lowerDigit _ high,
    Text.Hex.digitValue?_lowerDigit _ low]
  omega

/-- Every character can be written. -/
theorem exists_piece (c : Char) : ∃ p : Piece, p.chars = escape c ∧ p.value = .inl c := by
  unfold escape
  split
  next h => subst h; exact ⟨.short '"' '"' rfl, rfl, rfl⟩
  split
  next h => subst h; exact ⟨.short '\\' '\\' rfl, rfl, rfl⟩
  split
  next h => subst h; exact ⟨.short 'b' '\x08' rfl, rfl, rfl⟩
  split
  next h => subst h; exact ⟨.short 'f' '\x0c' rfl, rfl, rfl⟩
  split
  next h => subst h; exact ⟨.short 'n' '\n' rfl, rfl, rfl⟩
  split
  next h => subst h; exact ⟨.short 'r' '\r' rfl, rfl, rfl⟩
  split
  next h => subst h; exact ⟨.short 't' '\t' rfl, rfl, rfl⟩
  split
  next control =>
    refine ⟨.code _ _ _ _ c.toNat (hexNumber_control control), rfl, ?_⟩
    have noSurrogate : (isLeadSurrogate c.toNat || isTrailSurrogate c.toNat) = false := by
      simp only [isLeadSurrogate, isTrailSurrogate, Bool.or_eq_false_iff, Bool.and_eq_false_iff,
        decide_eq_false_iff_not]
      omega
    simp [Piece.value, noSurrogate, Char.ofNat_toNat]
  next not_quote not_backslash _ _ _ _ _ printed =>
    exact ⟨.plain c (Nat.not_lt.mp printed) ⟨not_quote, not_backslash⟩, rfl, rfl⟩

theorem exists_pieces (s : List Char) :
    ∃ ps : List Piece, ps.flatMap Piece.chars = s.flatMap escape ∧ meaning ps = some s := by
  induction s with
  | nil => exact ⟨[], rfl, rfl⟩
  | cons c s ih =>
    obtain ⟨p, chars, value⟩ := exists_piece c
    obtain ⟨ps, others, means⟩ := ih
    refine ⟨p :: ps, ?_, ?_⟩
    · rw [List.flatMap_cons, List.flatMap_cons, chars, others]
    · simp only [meaning, value, means, Option.map_some]

/-! ## Numbers -/

/-- A point and digits, or nothing. -/
inductive IsFraction : List Char → Prop
  | none : IsFraction []
  | digits {ds : List Char} (nonempty : ds ≠ []) (all : ds.all Text.Numeral.isDigit = true) :
      IsFraction ('.' :: ds)

/-- A power of ten with or without a sign, or nothing. -/
inductive IsExponent : List Char → Prop
  | none : IsExponent []
  | digits {mark : Char} {sign ds : List Char} (isMark : mark = 'e' ∨ mark = 'E')
      (isSign : sign = [] ∨ sign = ['+'] ∨ sign = ['-']) (nonempty : ds ≠ [])
      (all : ds.all Text.Numeral.isDigit = true) : IsExponent (mark :: sign ++ ds)

/-- A number, whose whole part has no leading zeros. -/
inductive IsNumber : List Char → Prop
  | mk {sign fraction exponent : List Char} (isSign : sign = [] ∨ sign = ['-']) (whole : Nat)
      (isFraction : IsFraction fraction) (isExponent : IsExponent exponent) :
      IsNumber (sign ++ Nat.toDigits 10 whole ++ fraction ++ exponent)

theorem digit?_digitChar : ∀ d < 10, Text.Numeral.digit? (Nat.digitChar d) = some d := by decide

/-- What follows a number ends it. -/
theorem tokensFrom_number {parts : NumberParts}
    (complete : parts.phase ∈ [.zero, .whole, .fraction, .exponent]) {rest : List Char}
    (ends : Ends rest) :
    tokensFrom (.number parts) rest = .number parts.numeral :: tokensFrom .between rest := by
  have phases : parts.phase = .zero ∨ parts.phase = .whole ∨ parts.phase = .fraction ∨
      parts.phase = .exponent := by
    simpa using complete
  cases rest with
  | nil => rcases phases with phase | phase | phase | phase <;> simp [tokensFrom, finish, phase]
  | cons c rest =>
    have noPart : ∀ c ∈ [',', ']', '}', ' ', '\n', '\t', '\r'],
        Text.Numeral.digit? c = none ∧ c ≠ '.' ∧ c ≠ 'e' ∧ c ≠ 'E' := by
      simp [Text.Numeral.digit?]
    obtain ⟨noDigit, noPoint, noMark, noMark'⟩ := noPart c (ends c rfl)
    rcases phases with phase | phase | phase | phase <;>
      simp [tokensFrom, step, stepNumber, phase, noDigit, noPoint, noMark, noMark']

/-- What a number is scanned to. -/
def numeralOf (number : List Char) : Numeral :=
  match tokensFrom .between number with
  | [.number n] => n
  | _ => .inexact

/-- Characters lead from one place in a text into a number. -/
def LeadsInto (s : Scan) (chars : List Char) (parts : NumberParts) : Prop :=
  ∀ rest, tokensFrom s (chars ++ rest) = tokensFrom (.number parts) rest

namespace LeadsInto

variable {s : Scan} {c : Char} {chars more ds : List Char} {parts parts' : NumberParts}

theorem nil (parts : NumberParts) : LeadsInto (.number parts) [] parts := fun _ => rfl

theorem cons (first : step s c = ([], .number parts))
    (second : LeadsInto (.number parts) chars parts') : LeadsInto s (c :: chars) parts' := by
  intro rest
  rw [List.cons_append, tokensFrom, first, ← second]
  rfl

theorem append (first : LeadsInto s chars parts) (second : LeadsInto (.number parts) more parts') :
    LeadsInto s (chars ++ more) parts' := by
  intro rest
  rw [List.append_assoc, first, second]

/-- Digits lead to one phase, if each of them does and more may follow. -/
theorem digits {phases : List NumberPhase} {done : NumberPhase} (again : done ∈ phases)
    (digit : ∀ parts : NumberParts, parts.phase ∈ phases → ∀ d < 10,
      ∃ parts', step (.number parts) (Nat.digitChar d) = ([], .number parts') ∧ parts'.phase = done)
    (nonempty : ds ≠ []) (all : ds.all Text.Numeral.isDigit = true) (now : parts.phase ∈ phases) :
    ∃ parts', LeadsInto (.number parts) ds parts' ∧ parts'.phase = done := by
  induction ds generalizing parts with
  | nil => exact absurd rfl nonempty
  | cons c ds ih =>
    rw [List.all_cons, Bool.and_eq_true] at all
    obtain ⟨d, small, rfl⟩ := Text.Numeral.exists_digitChar all.1
    obtain ⟨parts₁, first, phase⟩ := digit parts now d small
    by_cases last : ds = []
    · subst last
      exact ⟨parts₁, .cons first (.nil parts₁), phase⟩
    · obtain ⟨parts', later, phase'⟩ := ih last all.2 (phase ▸ again)
      exact ⟨parts', .cons first later, phase'⟩

theorem fraction (h : IsFraction chars) (phase : parts.phase = .zero ∨ parts.phase = .whole) :
    ∃ parts', LeadsInto (.number parts) chars parts' ∧
      (chars = [] ∧ parts' = parts ∨ parts'.phase = .fraction) := by
  cases h with
  | none => exact ⟨parts, .nil parts, .inl ⟨rfl, rfl⟩⟩
  | @digits ds nonempty all =>
    have point : step (.number parts) '.' = ([], .number { parts with phase := .point }) := by
      rcases phase with phase | phase <;> simp [step, stepNumber, phase, Text.Numeral.digit?]
    have digit (parts : NumberParts) (phase : parts.phase ∈ [.point, .fraction]) (d : Nat)
        (small : d < 10) : ∃ parts', step (.number parts) (Nat.digitChar d) = ([], .number parts') ∧
          parts'.phase = .fraction := by
      have value := digit?_digitChar d small
      simp only [List.mem_cons, List.not_mem_nil, or_false] at phase
      refine ⟨parts.addFraction d, ?_, ?_⟩
      · rcases phase with phase | phase <;> simp [step, stepNumber, phase, value]
      · unfold NumberParts.addFraction
        grind
    have now : { parts with phase := .point }.phase ∈ [.point, .fraction] := by simp
    obtain ⟨parts', leads, phase'⟩ := LeadsInto.digits (by simp) digit nonempty all now
    exact ⟨parts', .cons point leads, .inr phase'⟩

theorem exponent (h : IsExponent chars)
    (phase : parts.phase = .zero ∨ parts.phase = .whole ∨ parts.phase = .fraction) :
    ∃ parts', LeadsInto (.number parts) chars parts' ∧
      (chars = [] ∧ parts' = parts ∨ parts'.phase = .exponent) := by
  cases h with
  | none => exact ⟨parts, .nil parts, .inl ⟨rfl, rfl⟩⟩
  | @digits mark sign ds isMark isSign nonempty all =>
    have marked : step (.number parts) mark =
        ([], .number { parts with phase := .exponentMark }) := by
      rcases isMark with rfl | rfl <;> rcases phase with phase | phase | phase <;>
        simp [step, stepNumber, phase, Text.Numeral.digit?]
    have signed : ∃ parts₁ : NumberParts,
        LeadsInto (.number { parts with phase := .exponentMark }) sign parts₁ ∧
        parts₁.phase ∈ [.exponentMark, .exponentSign, .exponent] := by
      rcases isSign with rfl | rfl | rfl
      · exact ⟨_, .nil _, by simp⟩
      · exact ⟨_, .cons rfl (.nil _), by simp⟩
      · exact ⟨_, .cons rfl (.nil _), by simp⟩
    have digit (parts : NumberParts)
        (phase : parts.phase ∈ [.exponentMark, .exponentSign, .exponent]) (d : Nat)
        (small : d < 10) : ∃ parts', step (.number parts) (Nat.digitChar d) = ([], .number parts') ∧
          parts'.phase = .exponent := by
      have value := digit?_digitChar d small
      simp only [List.mem_cons, List.not_mem_nil, or_false] at phase
      rcases phase with phase | phase | phase <;> simp [step, stepNumber, phase, value]
    obtain ⟨parts₁, leads, now⟩ := signed
    obtain ⟨parts', leads', phase'⟩ := LeadsInto.digits (by simp) digit nonempty all now
    exact ⟨parts', .cons marked (leads.append leads'), .inr phase'⟩

/-- Digits of a whole part other than zero, which may come after a sign. They are counted up to the
range of 64 bits. -/
theorem positive {negative : Bool}
    (first : ∀ d < 10, d ≠ 0 → step s (Nat.digitChar d) =
      ([], .number { phase := .whole, negative, significand := d })) (n : Nat) (nonzero : n ≠ 0) :
    ∃ parts, LeadsInto s (Nat.toDigits 10 n) parts ∧ parts.phase = .whole ∧
      parts.negative = negative ∧ (parts.saturated = true ↔ UInt64.size ≤ n) ∧
      (n < UInt64.size → parts.significand = n) := by
  induction n using Nat.strongRecOn with
  | ind n ih =>
    by_cases single : n < 10
    · have small : n < UInt64.size := Nat.lt_trans single (by decide)
      rw [Nat.toDigits_of_lt_base single]
      exact ⟨_, .cons (first n single nonzero) (.nil _), rfl, rfl, by simpa using small,
        fun _ => rfl⟩
    -- The last digit comes after all the others, which are the digits of `n / 10`.
    · have last := digit?_digitChar (n % 10) (Nat.mod_lt n (by omega))
      obtain ⟨parts, leads, phase, sign, saturated, exact⟩ :=
        ih (n / 10) (Nat.div_lt_self (by omega) (by omega)) (by omega)
      have next : step (.number parts) (Nat.digitChar (n % 10)) =
          ([], .number (parts.addWhole (n % 10))) := by
        simp [step, stepNumber, phase, last]
      rw [Nat.toDigits_of_base_le (by omega) (by omega)]
      refine ⟨_, leads.append (.cons next (.nil _)), ?_, ?_, ?_, ?_⟩
      all_goals unfold NumberParts.addWhole; grind

theorem whole {negative : Bool}
    (zero : step s '0' = ([], .number { phase := .zero, negative }))
    (first : ∀ d < 10, d ≠ 0 → step s (Nat.digitChar d) =
      ([], .number { phase := .whole, negative, significand := d })) (n : Nat) :
    ∃ parts, LeadsInto s (Nat.toDigits 10 n) parts ∧
      (parts.phase = .zero ∨ parts.phase = .whole) ∧ parts.negative = negative ∧
      (parts.saturated = true ↔ UInt64.size ≤ n) ∧
      (n < UInt64.size → parts.significand = n) := by
  by_cases isZero : n = 0
  · subst isZero
    exact ⟨_, .cons zero (.nil _), .inl rfl, rfl, by simp [UInt64.size], fun _ => rfl⟩
  · obtain ⟨parts, leads, phase, others⟩ := positive first n isZero
    exact ⟨parts, leads, .inr phase, others⟩

end LeadsInto

theorem NumberParts.numeral_ne_natural {parts : NumberParts}
    (phase : parts.phase = .fraction ∨ parts.phase = .exponent) (n : Nat) :
    parts.numeral ≠ .natural n := by
  unfold numeral
  rcases phase with phase | phase <;> simp only [phase] <;> grind

theorem NumberParts.numeral_eq_natural_iff {parts : NumberParts} {n : Nat}
    (phase : parts.phase = .zero ∨ parts.phase = .whole) :
    parts.numeral = .natural n ↔
      parts.saturated = false ∧ parts.negative = false ∧ parts.significand = n := by
  unfold numeral
  rcases phase with phase | phase <;> simp only [phase] <;> grind

/-- The first digit of a number other than zero. -/
theorem start_digitChar : ∀ d < 10, d ≠ 0 →
    start (Nat.digitChar d) = ([], .number { phase := .whole, significand := d }) := by
  decide

theorem numeralOf_eq {chars : List Char} {parts : NumberParts}
    (leads : LeadsInto .between chars parts)
    (complete : parts.phase ∈ [.zero, .whole, .fraction, .exponent]) :
    numeralOf chars = parts.numeral := by
  have scanned := leads []
  rw [List.append_nil, tokensFrom_number complete ends_nil] at scanned
  rw [numeralOf, scanned]
  rfl

theorem isNumber_toDigits (n : Nat) : IsNumber (Nat.toDigits 10 n) := by
  simpa using IsNumber.mk (.inl rfl) n .none .none

theorem numeralOf_toDigits {n : Nat} (small : n < UInt64.size) :
    numeralOf (Nat.toDigits 10 n) = .natural n := by
  obtain ⟨parts, leads, phase, positive, saturated, exact⟩ :=
    LeadsInto.whole (s := .between) rfl start_digitChar n
  rw [numeralOf_eq leads (by grind), NumberParts.numeral_eq_natural_iff phase]
  exact ⟨by grind, positive, exact small⟩

namespace IsNumber

variable {chars : List Char}

/-- A number is scanned to its end, and is a count only if it is the numeral of one. -/
theorem exists_parts (h : IsNumber chars) : ∃ parts, LeadsInto .between chars parts ∧
    parts.phase ∈ [.zero, .whole, .fraction, .exponent] ∧
    ∀ n, parts.numeral = .natural n → chars = Nat.toDigits 10 n ∧ n < UInt64.size := by
  obtain @⟨sign, fraction, exponent, isSign, k, isFraction, isExponent⟩ := h
  have signed : ∃ parts, LeadsInto .between (sign ++ Nat.toDigits 10 k) parts ∧
      (parts.phase = .zero ∨ parts.phase = .whole) ∧ (parts.negative = false → sign = []) ∧
      (parts.saturated = true ↔ UInt64.size ≤ k) ∧
      (k < UInt64.size → parts.significand = k) := by
    rcases isSign with rfl | rfl
    · obtain ⟨parts, leads, phase, -, count⟩ :=
        LeadsInto.whole (s := .between) rfl start_digitChar k
      exact ⟨parts, leads, phase, fun _ => rfl, count⟩
    · have first : ∀ d < 10, d ≠ 0 → step (.number { phase := .sign, negative := true })
          (Nat.digitChar d) =
            ([], .number { phase := .whole, negative := true, significand := d }) := by
        decide
      obtain ⟨parts, leads, phase, negative, count⟩ := LeadsInto.whole rfl first k
      refine ⟨parts, .cons rfl leads, phase, fun positive => ?_, count⟩
      rw [negative] at positive
      cases positive
  obtain ⟨parts, leads, phase, unsigned, saturated, exact⟩ := signed
  obtain ⟨parts₁, leads₁, part₁⟩ := LeadsInto.fraction isFraction phase
  have phase₁ : parts₁.phase = .zero ∨ parts₁.phase = .whole ∨ parts₁.phase = .fraction := by
    grind
  obtain ⟨parts₂, leads₂, part₂⟩ := LeadsInto.exponent isExponent phase₁
  refine ⟨parts₂, (leads.append leads₁).append leads₂, by grind, fun n count => ?_⟩
  rcases part₂ with ⟨rfl, rfl⟩ | scaled
  · rcases part₁ with ⟨rfl, rfl⟩ | broken
    · obtain ⟨exactly, positive, rfl⟩ := (NumberParts.numeral_eq_natural_iff phase).mp count
      have small : k < UInt64.size := by grind
      rw [unsigned positive, exact small]
      exact ⟨by simp, small⟩
    · exact absurd count (NumberParts.numeral_ne_natural (.inl broken) n)
  · exact absurd count (NumberParts.numeral_ne_natural (.inr scaled) n)

theorem scans (h : IsNumber chars) : Scans chars [.number (numeralOf chars)] := by
  obtain ⟨parts, leads, complete, -⟩ := h.exists_parts
  intro rest ends
  rw [leads, tokensFrom_number complete ends, numeralOf_eq leads complete]
  rfl

/-- Only the numeral of a number below 2^64 is scanned to a count. -/
theorem numeralOf_eq_natural_iff (h : IsNumber chars) {n : Nat} :
    numeralOf chars = .natural n ↔ chars = Nat.toDigits 10 n ∧ n < UInt64.size := by
  constructor
  · obtain ⟨parts, leads, complete, exact⟩ := h.exists_parts
    rw [numeralOf_eq leads complete]
    exact exact n
  · rintro ⟨rfl, small⟩
    exact numeralOf_toDigits small

end IsNumber

/-! ## Tokens -/

def Mark.char : Mark → Char
  | .openObject => '{'
  | .closeObject => '}'
  | .openArray => '['
  | .closeArray => ']'
  | .colon => ':'
  | .comma => ','

/-- How one token may be written. -/
inductive Lexeme : Token → List Char → Prop
  | mark (m : Mark) : Lexeme (.mark m) [m.char]
  | null : Lexeme .null ['n', 'u', 'l', 'l']
  | yes : Lexeme (.boolean true) ['t', 'r', 'u', 'e']
  | no : Lexeme (.boolean false) ['f', 'a', 'l', 's', 'e']
  | text (pieces : List Piece) :
      Lexeme (.text ((meaning pieces).map String.ofList))
        ('"' :: pieces.flatMap Piece.chars ++ ['"'])
  | number {chars : List Char} (isNumber : IsNumber chars) :
      Lexeme (.number (numeralOf chars)) chars

/-- How tokens may be written, with blanks between them. Nothing but a mark or a blank can stand
right after a number. -/
inductive Spells : List Token → List Char → Prop
  | nil : Spells [] []
  | blank {ts : List Token} {c : Char} {chars : List Char} (blank : isSpace c = true)
      (rest : Spells ts chars) : Spells ts (c :: chars)
  | token {t : Token} {ts : List Token} {lexeme chars : List Char} (is : Lexeme t lexeme)
      (ends : (∃ n, t = .number n) → Ends chars) (rest : Spells ts chars) :
      Spells (t :: ts) (lexeme ++ chars)

/-- A text as it is written here. -/
theorem Lexeme.quote (s : String) : Lexeme (.text (some s)) (quote s) := by
  obtain ⟨pieces, chars, means⟩ := exists_pieces s.toList
  have lexeme := Lexeme.text pieces
  rw [means, chars, Option.map_some, String.ofList_toList] at lexeme
  exact lexeme

theorem Lexeme.numeral {n : Nat} (small : n < UInt64.size) :
    Lexeme (.number (.natural n)) (Nat.toDigits 10 n) := by
  rw [← numeralOf_toDigits small]
  exact .number (isNumber_toDigits n)

theorem Lexeme.tokensFrom_append {t : Token} {lexeme chars : List Char} (h : Lexeme t lexeme)
    (ends : (∃ n, t = .number n) → Ends chars) :
    tokensFrom .between (lexeme ++ chars) = t :: tokensFrom .between chars := by
  cases h with
  | mark m => cases m <;> rfl
  | null | yes | no => rfl
  | text pieces =>
    have opened (more : List Char) :
        tokensFrom .between ('"' :: more) = tokensFrom (.text .plain [] false) more := rfl
    rw [List.cons_append, List.cons_append, List.append_assoc]
    exact (opened _).trans (tokensFrom_pieces pieces [] chars)
  | number isNumber => exact isNumber.scans chars (ends ⟨_, rfl⟩)

/-- Tokens are scanned back, however they are written. -/
theorem Spells.tokensFrom_eq {ts : List Token} {chars : List Char} (h : Spells ts chars) :
    tokensFrom .between chars = ts := by
  induction h with
  | nil => rfl
  | @blank ts c chars blank _ ih =>
    have only : ∀ d ∈ [c], isSpace d = true := by simpa using blank
    exact (tokensFrom_blanks only chars).trans ih
  | token is ends _ ih => rw [is.tokensFrom_append ends, ih]

end ClusterAccess.Json
