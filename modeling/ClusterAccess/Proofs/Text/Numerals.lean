import ClusterAccess.Text.Numeral

/-!
# Decimal numerals and their numbers

The numeral of a number is the only one without leading zeros that denotes it.

## Main statements

* `value_toDigits`: a numeral denotes its number.
* `toDigits_value`: a numeral without leading zeros is that of its number.
* `value_padded`, `length_padded`: leading zeros make no difference but to the length.
* `value_lt`: a number is bounded by the number of its digits.
-/
namespace ClusterAccess.Text.Numeral

variable {digits : List Char} {n : Nat}

/-- A digit is the one of its value. -/
theorem exists_digitChar {c : Char} (h : isDigit c = true) : ∃ d < 10, c = Nat.digitChar d := by
  have same : ∀ d < 10, Char.ofNat (48 + d) = Nat.digitChar d := by decide
  simp only [isDigit, Bool.and_eq_true, decide_eq_true_eq] at h
  obtain ⟨low, high⟩ : 48 ≤ c.toNat ∧ c.toNat ≤ 57 := h
  refine ⟨c.toNat - 48, by omega, ?_⟩
  rw [← same _ (by omega), Nat.add_sub_cancel' low, Char.ofNat_toNat]

theorem value_toDigits (n : Nat) : value 0 (Nat.toDigits 10 n) = n := Nat.ofDigitChars_ten_toDigits

theorem value_append (start : Nat) (digits more : List Char) :
    value start (digits ++ more) = value (value start digits) more :=
  Nat.ofDigitChars_append start

theorem all_isDigit_toDigits (n : Nat) : (Nat.toDigits 10 n).all isDigit = true :=
  List.all_eq_true.mpr fun _ => Nat.isDigit_of_mem_toDigits (by decide) (by decide)

theorem of_natural? (h : natural? digits = some n) :
    digits ≠ [] ∧ digits.all isDigit = true ∧ value 0 digits = n := by
  unfold natural? at h
  split at h
  · cases h
  next nonempty =>
    split at h
    next all => exact ⟨by simpa using nonempty, all, by simpa using h⟩
    · cases h

theorem natural?_toDigits (n : Nat) : natural? (Nat.toDigits 10 n) = some n := by
  rw [natural?, if_neg (by simp [Nat.toDigits_ne_nil]), if_pos (all_isDigit_toDigits n),
    value_toDigits]

/-- A numeral up to a limit is a natural one, perhaps with a plus sign in front. -/
theorem of_bounded? {limit : Nat} {s : String} (h : bounded? limit s = some n) :
    ∃ digits, (s.toList = digits ∨ s.toList = '+' :: digits) ∧ natural? digits = some n ∧
      n ≤ limit := by
  unfold bounded? at h
  dsimp only at h
  split at h
  next k number =>
    split at h
    next small =>
      cases h
      split at number
      next rest signed => exact ⟨rest, .inr signed, number, small⟩
      · exact ⟨s.toList, .inl rfl, number, small⟩
    · cases h
  · cases h

/-- The numeral of a number up to the limit is read. -/
theorem bounded?_toDigits {limit : Nat} (small : n ≤ limit) :
    bounded? limit (String.ofList (Nat.toDigits 10 n)) = some n := by
  unfold bounded?
  rw [String.toList_ofList]
  split
  next rest signed =>
    have plus := List.all_eq_true.mp (all_isDigit_toDigits n) '+' (by simp [signed])
    cases plus
  · simp only [natural?_toDigits, if_pos small]

theorem value_digitChar_cons {d : Nat} (small : d < 10) (start : Nat) (digits : List Char) :
    value start (Nat.digitChar d :: digits) = value (10 * start + d) digits :=
  Nat.ofDigitChars_cons_digitChar_of_lt_ten small

/-- Every further digit makes a number at most ten times as large. -/
theorem value_lt (all : digits.all isDigit = true) (start : Nat) :
    value start digits < (start + 1) * Nat.pow 10 digits.length := by
  induction digits generalizing start with
  | nil => exact Nat.lt_of_lt_of_eq (Nat.lt_succ_self start) (Nat.mul_one _).symm
  | cons c digits ih =>
    rw [List.all_cons, Bool.and_eq_true] at all
    obtain ⟨d, small, rfl⟩ := exists_digitChar all.1
    have next : 10 * start + d + 1 ≤ (start + 1) * 10 := by omega
    calc value start (Nat.digitChar d :: digits)
        = value (10 * start + d) digits := value_digitChar_cons small start digits
      _ < (10 * start + d + 1) * Nat.pow 10 digits.length := ih all.2 _
      _ ≤ (start + 1) * 10 * Nat.pow 10 digits.length := Nat.mul_le_mul_right _ next
      _ = (start + 1) * (Nat.pow 10 digits.length * 10) := by rw [Nat.mul_assoc, Nat.mul_comm 10]

/-- Digits after a numeral make it the numeral of a larger number. -/
theorem toDigits_append (positive : 0 < n) (all : digits.all isDigit = true) :
    Nat.toDigits 10 n ++ digits = Nat.toDigits 10 (value n digits) := by
  induction digits generalizing n with
  | nil => rw [List.append_nil]; rfl
  | cons c digits ih =>
    rw [List.all_cons, Bool.and_eq_true] at all
    obtain ⟨d, small, rfl⟩ := exists_digitChar all.1
    calc Nat.toDigits 10 n ++ Nat.digitChar d :: digits
        = (Nat.toDigits 10 n ++ Nat.toDigits 10 d) ++ digits := by
          rw [Nat.toDigits_of_lt_base small, List.append_assoc]; rfl
      _ = Nat.toDigits 10 (10 * n + d) ++ digits := by
          rw [Nat.toDigits_append_toDigits (by decide) positive small]
      _ = Nat.toDigits 10 (value (10 * n + d) digits) := ih (by omega) all.2
      _ = Nat.toDigits 10 (value n (Nat.digitChar d :: digits)) := by
          rw [value_digitChar_cons small]

/-- A numeral without leading zeros is that of its number. -/
theorem toDigits_value (nonempty : digits ≠ []) (all : digits.all isDigit = true)
    (shortest : digits.length = 1 ∨ digits.head? ≠ some '0') :
    Nat.toDigits 10 (value 0 digits) = digits := by
  cases digits with
  | nil => cases nonempty rfl
  | cons c digits =>
    rw [List.all_cons, Bool.and_eq_true] at all
    obtain ⟨d, small, rfl⟩ := exists_digitChar all.1
    rw [value_digitChar_cons small, Nat.mul_zero, Nat.zero_add]
    rcases Nat.eq_zero_or_pos d with rfl | positive
    · rcases shortest with single | notZero
      · obtain rfl : digits = [] := by simpa using single
        rfl
      · exact absurd rfl notZero
    · rw [← toDigits_append positive all.2, Nat.toDigits_of_lt_base small]
      rfl

/-! ## Leading zeros -/

variable {width : Nat}

theorem padded_ne_nil (width n : Nat) : padded width n ≠ [] := by
  simp [padded, Nat.toDigits_ne_nil]

theorem all_isDigit_padded (width n : Nat) : (padded width n).all isDigit = true := by
  rw [padded, List.all_append, all_isDigit_toDigits, Bool.and_true, List.all_replicate]
  split <;> rfl

theorem value_padded (width n : Nat) : value 0 (padded width n) = n := by
  have zeros (count : Nat) : value 0 (List.replicate count '0') = 0 :=
    Nat.ofDigitChars_replicate_zero
  rw [padded, value_append, zeros, value_toDigits]

/-- A number that is small enough has exactly so many digits. -/
theorem length_padded (positive : 0 < width) (small : n < Nat.pow 10 width) :
    (padded width n).length = width := by
  have short := (Nat.length_toDigits_le_iff (by decide) positive).mpr small
  simp only [padded, List.length_append, List.length_replicate]
  omega

end ClusterAccess.Text.Numeral
