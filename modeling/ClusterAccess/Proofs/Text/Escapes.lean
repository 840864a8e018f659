import ClusterAccess.Proofs.Text.Percent

/-!
# Texts that may hold escapes already

An encoder that keeps percent signs leaves alone whatever looks like an escape. So what it writes
means the same as the text it was given, if that is taken for an encoded one, and that is the text
itself only if there was nothing in it that looks like an escape.

## Main definitions

* `HasEscape`: a text with something in it that looks like an escape.
* `Decodes`: decoding as a derivation.

## Main statements

* `decodeBytes_eq_utf8_iff`: which texts mean themselves.
* `decodeBytes_encodeWith_of_keep`: what is written where percent signs are kept.
-/
namespace ClusterAccess.Text.Percent

/-- Two digits come first, so that a percent sign in front of them begins an escape. -/
def DigitsFirst (s : List Char) : Prop :=
  ∃ x y rest, s = x :: y :: rest ∧ (Hex.digitValue? x).isSome ∧ (Hex.digitValue? y).isSome

/-- A percent sign is followed by two digits somewhere. -/
def HasEscape (s : List Char) : Prop :=
  ∃ before after, s = before ++ '%' :: after ∧ DigitsFirst after

theorem not_hasEscape_nil : ¬ HasEscape [] := by
  rintro ⟨before, after, split, -⟩
  simp at split

theorem hasEscape_cons {c : Char} {s : List Char} :
    HasEscape (c :: s) ↔ c = '%' ∧ DigitsFirst s ∨ HasEscape s := by
  constructor
  · rintro ⟨_ | ⟨x, before⟩, after, split, digits⟩
    · obtain ⟨rfl, rfl⟩ := List.cons.inj split
      exact .inl ⟨rfl, digits⟩
    · exact .inr ⟨before, after, (List.cons.inj split).2, digits⟩
  · rintro (⟨rfl, digits⟩ | ⟨before, after, rfl, digits⟩)
    · exact ⟨[], s, rfl, digits⟩
    · exact ⟨c :: before, after, rfl, digits⟩

/-- Decoding, escape by escape and character by character. -/
inductive Decodes : List Char → List UInt8 → Prop
  | nil : Decodes [] []
  | escape {x y : Char} {a b : Nat} {rest : List Char} {bytes : List UInt8}
      (first : Hex.digitValue? x = some a) (second : Hex.digitValue? y = some b)
      (h : Decodes rest bytes) : Decodes ('%' :: x :: y :: rest) (UInt8.ofNat (16 * a + b) :: bytes)
  | plain {c : Char} {rest : List Char} {bytes : List UInt8}
      (lone : ¬ (c = '%' ∧ DigitsFirst rest)) (h : Decodes rest bytes) :
      Decodes (c :: rest) (String.utf8EncodeChar c ++ bytes)

theorem decodes (s : List Char) : Decodes s (decodeBytes s) := by
  fun_induction decodeBytes s with
  | case1 => exact .nil
  | case2 a b rest x y second first ih => exact .escape first second ih
  | case3 a b rest other ih =>
    refine .plain ?_ ih
    rintro ⟨-, x, y, tail, split, first, second⟩
    obtain ⟨rfl, rfl, rfl⟩ := by simpa using split
    obtain ⟨n, first⟩ := Option.isSome_iff_exists.mp first
    obtain ⟨m, second⟩ := Option.isSome_iff_exists.mp second
    exact other n m first second
  | case4 c rest other ih =>
    refine .plain ?_ ih
    rintro ⟨percent, x, y, tail, split, -⟩
    exact other x y tail percent split

/-- A digit that an encoded text begins with stands for itself. -/
theorem encodeWith_eq_digit_cons {keep : Char → Bool} {s t : List Char} {x : Char}
    (h : encodeWith keep s = x :: t) (digit : (Hex.digitValue? x).isSome) :
    ∃ s', s = x :: s' ∧ encodeWith keep s' = t := by
  cases s with
  | nil => cases h
  | cons c s =>
    have step : encodeWith keep (c :: s) = encodeChar keep c ++ encodeWith keep s := rfl
    rw [step, encodeChar] at h
    split at h
    next =>
      obtain ⟨rfl, rfl⟩ := List.cons.inj h
      exact ⟨s, rfl, rfl⟩
    next =>
      -- What is escaped begins with a percent sign.
      obtain ⟨b, bytes, split⟩ := List.exists_cons_of_ne_nil (@String.utf8EncodeChar_ne_nil c)
      rw [split] at h
      obtain ⟨rfl, -⟩ := List.cons.inj h
      cases digit

theorem DigitsFirst.of_encodeWith {keep : Char → Bool} {s : List Char}
    (h : DigitsFirst (encodeWith keep s)) : DigitsFirst s := by
  obtain ⟨x, y, rest, encoded, first, second⟩ := h
  obtain ⟨s, rfl, rest_encoded⟩ := encodeWith_eq_digit_cons encoded first
  obtain ⟨s, rfl, -⟩ := encodeWith_eq_digit_cons rest_encoded second
  exact ⟨x, y, s, rfl, first, second⟩

namespace Decodes

variable {s : List Char} {bytes : List UInt8}

theorem eq_decodeBytes (h : Decodes s bytes) : decodeBytes s = bytes := by
  induction h with
  | nil => rfl
  | escape first second _ ih => simp only [decodeBytes, first, second, ih]
  | @plain c rest _ lone _ ih =>
    rw [← ih, decodeBytes.eq_def]
    split
    next => contradiction
    next a b tail split =>
      obtain ⟨rfl, rfl⟩ := List.cons.inj split
      split
      next first second =>
        exact absurd ⟨rfl, a, b, tail, rfl, by simp [first], by simp [second]⟩ lone
      next => rfl
    next split =>
      obtain ⟨rfl, rfl⟩ := List.cons.inj split
      rfl

theorem eq_utf8 (h : Decodes s bytes) (plain : ¬ HasEscape s) : bytes = utf8 s := by
  induction h with
  | nil => rfl
  | escape first second _ _ =>
    refine absurd (hasEscape_cons.mpr (.inl ⟨rfl, _, _, _, rfl, ?_, ?_⟩)) plain
    · rw [first]; rfl
    · rw [second]; rfl
  | plain _ _ ih => rw [utf8_cons, ih fun h => plain (hasEscape_cons.mpr (.inr h))]

theorem length_le (h : Decodes s bytes) : bytes.length ≤ (utf8 s).length := by
  induction h with
  | nil => simp
  | @escape x y _ _ _ _ _ _ _ ih =>
    have percent : '%'.utf8Size = 1 := rfl
    simp only [utf8_cons, List.length_append, String.length_utf8EncodeChar, List.length_cons]
    omega
  | plain _ _ ih => simpa [utf8_cons] using ih

theorem length_lt (h : Decodes s bytes) (escape : HasEscape s) :
    bytes.length < (utf8 s).length := by
  induction h with
  | nil => exact absurd escape not_hasEscape_nil
  | @escape x y _ _ rest _ _ _ h _ =>
    have rest_le := h.length_le
    have first_pos := x.utf8Size_pos
    have second_pos := y.utf8Size_pos
    simp only [utf8_cons, List.length_append, String.length_utf8EncodeChar, List.length_cons]
    omega
  | plain lone _ ih =>
    simpa [utf8_cons] using ih ((hasEscape_cons.mp escape).resolve_left lone)

theorem escapeBytes (escaped : List UInt8) (h : Decodes s bytes) :
    Decodes (escaped.flatMap escapeByte ++ s) (escaped ++ bytes) := by
  induction escaped with
  | nil => exact h
  | cons b escaped ih =>
    have bound : b.toNat < 256 := b.toNat_lt
    have step := Decodes.escape (Hex.digitValue?_upperDigit (b.toNat / 16) (by omega))
      (Hex.digitValue?_upperDigit (b.toNat % 16) (by omega)) ih
    rw [Nat.div_add_mod, UInt8.ofNat_toNat] at step
    exact step

/-- Where percent signs and digits are kept, an encoded text means what the text itself means. -/
theorem encodeWith {keep : Char → Bool} (percent : keep '%' = true)
    (digits : ∀ c, (Hex.digitValue? c).isSome → keep c = true) (h : Decodes s bytes) :
    Decodes (encodeWith keep s) bytes := by
  have kept {c : Char} (h : keep c = true) (s : List Char) :
      Percent.encodeWith keep (c :: s) = c :: Percent.encodeWith keep s := by
    simp [Percent.encodeWith, encodeChar, h]
  induction h with
  | nil => exact .nil
  | @escape x y _ _ _ _ first second _ ih =>
    rw [kept percent, kept (digits x (by simp [first])), kept (digits y (by simp [second]))]
    exact .escape first second ih
  | @plain c rest _ lone _ ih =>
    cases keeps : keep c with
    | true =>
      rw [kept keeps]
      exact .plain (fun h => lone ⟨h.1, h.2.of_encodeWith⟩) ih
    | false =>
      have escaped : Percent.encodeWith keep (c :: rest) =
          (String.utf8EncodeChar c).flatMap escapeByte ++ Percent.encodeWith keep rest := by
        simp [Percent.encodeWith, encodeChar, keeps]
      rw [escaped]
      exact ih.escapeBytes _

end Decodes

/-- Without escapes, a text that is taken for an encoded one means itself. -/
theorem decodeBytes_eq_utf8_iff {s : List Char} : decodeBytes s = utf8 s ↔ ¬ HasEscape s := by
  refine ⟨fun same escape => ?_, (decodes s).eq_utf8⟩
  have shorter := (decodes s).length_lt escape
  rw [same] at shorter
  exact Nat.lt_irrefl _ shorter

theorem decodeBytes_encodeWith_of_keep {keep : Char → Bool} (percent : keep '%' = true)
    (digits : ∀ c, (Hex.digitValue? c).isSome → keep c = true) (s : List Char) :
    decodeBytes (encodeWith keep s) = decodeBytes s :=
  ((decodes s).encodeWith percent digits).eq_decodeBytes

end ClusterAccess.Text.Percent
