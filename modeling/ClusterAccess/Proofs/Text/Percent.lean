import ClusterAccess.Proofs.Text.Utf8
import ClusterAccess.Text.Percent

/-!
# Escaped texts

## Main definitions

* `Percent.Escaped`: texts of unreserved characters and whole escapes.

## Main statements

* `Percent.decodeBytes_encodeWith`: escapes stand for the bytes of the text, whatever is kept plain
  as long as it is not the percent sign.
* `Percent.decode?_encodeWith`, `Percent.decode?_encode`: an encoded text is read back.
* `Percent.Escaped.encode`, `Percent.Escaped.unreserved_or`, `Percent.Escaped.digits_after`: what an
  encoded text is made of.
-/
namespace ClusterAccess.Text.Percent

/-! ## Reading back -/

theorem decodeBytes_escapeByte (b : UInt8) (rest : List Char) :
    decodeBytes (escapeByte b ++ rest) = b :: decodeBytes rest := by
  have bound : b.toNat < 256 := b.toNat_lt
  have value : UInt8.ofNat (16 * (b.toNat / 16) + b.toNat % 16) = b := by
    rw [Nat.div_add_mod, UInt8.ofNat_toNat]
  simp only [escapeByte, List.cons_append, List.nil_append, decodeBytes]
  rw [Hex.digitValue?_upperDigit _ (by omega), Hex.digitValue?_upperDigit _ (by omega)]
  simp only [value]

theorem decodeBytes_escapeBytes (bytes : List UInt8) (rest : List Char) :
    decodeBytes (bytes.flatMap escapeByte ++ rest) = bytes ++ decodeBytes rest := by
  induction bytes with
  | nil => rfl
  | cons b bytes ih =>
    rw [List.flatMap_cons, List.append_assoc, decodeBytes_escapeByte, ih, List.cons_append]

theorem decodeBytes_cons {c : Char} (plain : c ≠ '%') (rest : List Char) :
    decodeBytes (c :: rest) = String.utf8EncodeChar c ++ decodeBytes rest := by
  rw [decodeBytes.eq_def]
  split <;> simp_all

/-- Escapes stand for the bytes of the text. -/
theorem decodeBytes_encodeWith {keep : Char → Bool} (escaped : keep '%' = false)
    (s rest : List Char) :
    decodeBytes (encodeWith keep s ++ rest) = utf8 s ++ decodeBytes rest := by
  induction s with
  | nil => rfl
  | cons c s ih =>
    have step : encodeWith keep (c :: s) = encodeChar keep c ++ encodeWith keep s := rfl
    rw [step, List.append_assoc, utf8_cons, List.append_assoc, ← ih, encodeChar]
    split
    next kept =>
      have plain : c ≠ '%' := by
        rintro rfl
        simp [escaped] at kept
      rw [List.singleton_append, decodeBytes_cons plain]
    next => exact decodeBytes_escapeBytes _ _

/-- Whatever is kept plain, the text is read back. -/
theorem decode?_encodeWith {keep : Char → Bool} (escaped : keep '%' = false) (s : List Char) :
    decode? (String.ofList (encodeWith keep s)) = some (String.ofList s) := by
  have bytes := decodeBytes_encodeWith escaped s []
  simp only [decodeBytes, List.append_nil] at bytes
  rw [decode?, String.toList_ofList, bytes, decode?_utf8]
  rfl

theorem toList_encode (s : String) : (encode s).toList = encodeWith isUnreserved s.toList := by
  simp [encode]

/-- An encoded text is read back. -/
theorem decode?_encode (s : String) : decode? (encode s) = some s := by
  rw [encode, decode?_encodeWith rfl, String.ofList_toList]

theorem encode_injective : Function.Injective encode := by
  intro s t h
  have read := congrArg decode? h
  simpa [decode?_encode] using read

/-! ## What encoded texts are made of -/

/-- Unreserved characters and whole escapes. -/
inductive Escaped : List Char → Prop
  | nil : Escaped []
  | plain {c : Char} {rest : List Char} (unreserved : isUnreserved c = true)
      (h : Escaped rest) : Escaped (c :: rest)
  | escape (b : UInt8) {rest : List Char} (h : Escaped rest) : Escaped (escapeByte b ++ rest)

theorem isUnreserved_upperDigit : ∀ n < 16, isUnreserved (Hex.upperDigit n) = true := by decide

/-- Besides the characters that are kept there are only those of escapes. -/
theorem mem_encodeWith {keep : Char → Bool} {s : List Char} {c : Char}
    (mem : c ∈ encodeWith keep s) :
    c ∈ s ∧ keep c = true ∨ c = '%' ∨ isUnreserved c = true := by
  obtain ⟨d, there, mem⟩ := List.mem_flatMap.mp mem
  unfold encodeChar at mem
  split at mem
  next kept =>
    obtain rfl := List.mem_singleton.mp mem
    exact .inl ⟨there, kept⟩
  next =>
    obtain ⟨b, -, mem⟩ := List.mem_flatMap.mp mem
    have bound : b.toNat < 256 := b.toNat_lt
    simp only [escapeByte, List.mem_cons, List.not_mem_nil, or_false] at mem
    rcases mem with rfl | rfl | rfl
    · exact .inr (.inl rfl)
    · exact .inr (.inr (isUnreserved_upperDigit _ (by omega)))
    · exact .inr (.inr (isUnreserved_upperDigit _ (by omega)))

namespace Escaped

theorem escapeBytes (bytes : List UInt8) {rest : List Char} (h : Escaped rest) :
    Escaped (bytes.flatMap escapeByte ++ rest) := by
  induction bytes with
  | nil => exact h
  | cons b bytes ih =>
    rw [List.flatMap_cons, List.append_assoc]
    exact .escape b ih

theorem encode (s : String) : Escaped (encode s).toList := by
  rw [toList_encode]
  induction s.toList with
  | nil => exact .nil
  | cons c s ih =>
    rw [encodeWith, List.flatMap_cons, encodeChar]
    split
    next unreserved => exact .plain unreserved ih
    next => exact ih.escapeBytes _

/-- The percent sign of an escape is the only character that is not unreserved. -/
theorem unreserved_or {s : List Char} (h : Escaped s) {c : Char} (mem : c ∈ s) :
    isUnreserved c = true ∨ c = '%' := by
  induction h with
  | nil => cases mem
  | plain unreserved _ ih =>
    rcases List.mem_cons.mp mem with rfl | mem
    · exact .inl unreserved
    · exact ih mem
  | escape b _ ih =>
    have bound : b.toNat < 256 := b.toNat_lt
    simp only [escapeByte, List.cons_append, List.nil_append, List.mem_cons] at mem
    rcases mem with rfl | rfl | rfl | mem
    · exact .inr rfl
    · exact .inl (isUnreserved_upperDigit _ (by omega))
    · exact .inl (isUnreserved_upperDigit _ (by omega))
    · exact ih mem

/-- A percent sign is followed by two digits. -/
theorem digits_after {s before after : List Char} (h : Escaped s)
    (split : s = before ++ '%' :: after) :
    ∃ x y rest, after = x :: y :: rest ∧ (Hex.digitValue? x).isSome ∧
      (Hex.digitValue? y).isSome := by
  induction h generalizing before with
  | nil => simp at split
  | plain unreserved _ ih =>
    cases before with
    | nil =>
      obtain ⟨rfl, -⟩ := List.cons.inj split
      cases unreserved
    | cons _ before => exact ih (List.cons.inj split).2
  | @escape b rest _ ih =>
    have bound : b.toNat < 256 := b.toNat_lt
    have high := isUnreserved_upperDigit (b.toNat / 16) (by omega)
    have low := isUnreserved_upperDigit (b.toNat % 16) (by omega)
    simp only [escapeByte, List.cons_append, List.nil_append] at split
    -- The digits themselves are no percent signs.
    match before, split with
    | [], split =>
      obtain ⟨-, rfl⟩ := List.cons.inj split
      exact ⟨_, _, rest, rfl, by rw [Hex.digitValue?_upperDigit _ (by omega)]; rfl,
        by rw [Hex.digitValue?_upperDigit _ (by omega)]; rfl⟩
    | [_], split =>
      obtain ⟨-, percent, -⟩ := by simpa using split
      rw [percent] at high
      cases high
    | [_, _], split =>
      obtain ⟨-, -, percent, -⟩ := by simpa using split
      rw [percent] at low
      cases low
    | _ :: _ :: _ :: before, split =>
      obtain ⟨-, -, -, split⟩ := by simpa using split
      exact ih split

end Escaped
end ClusterAccess.Text.Percent
