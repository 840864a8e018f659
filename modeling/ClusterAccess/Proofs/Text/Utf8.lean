import ClusterAccess.Text.Utf8

/-!
# Reading back the bytes of a text

## Main statements

* `scan_encodeChar`: the bytes of a character are scanned as that character.
* `decode?_utf8`: the bytes of a text are read as that text.
* `decode?_eq_some_iff`: no other bytes are.
-/
namespace ClusterAccess.Text

/-! ## One character -/

section

variable {a b c d : UInt8} {rest : List UInt8}

theorem isContinuation_iff : isContinuation b = true ↔ 0x80 ≤ b.toNat ∧ b.toNat ≤ 0xBF := by
  simp [isContinuation, UInt8.le_iff_toNat_le]

theorem follows3_iff : follows3 a b = true ↔
    (0x80 ≤ b.toNat ∧ b.toNat ≤ 0xBF) ∧ (a.toNat = 0xE0 → 0xA0 ≤ b.toNat) ∧
      (a.toNat = 0xED → b.toNat ≤ 0x9F) := by
  simp only [follows3, beq_iff_eq, ← UInt8.toNat_inj, UInt8.toNat_ofNat]
  split
  · simp [UInt8.le_iff_toNat_le, *]
    omega
  split
  · simp [UInt8.le_iff_toNat_le, *]
    omega
  · simp [isContinuation_iff, *]

theorem follows4_iff : follows4 a b = true ↔
    (0x80 ≤ b.toNat ∧ b.toNat ≤ 0xBF) ∧ (a.toNat = 0xF0 → 0x90 ≤ b.toNat) ∧
      (a.toNat = 0xF4 → b.toNat ≤ 0x8F) := by
  simp only [follows4, beq_iff_eq, ← UInt8.toNat_inj, UInt8.toNat_ofNat]
  split
  · simp [UInt8.le_iff_toNat_le, *]
    omega
  split
  · simp [UInt8.le_iff_toNat_le, *]
    omega
  · simp [isContinuation_iff, *]

theorem scan_one (ha : a.toNat < 0x80) :
    scan (a :: rest) = some (Char.ofNat a.toNat) :: scan rest := by
  rw [scan.eq_def]
  simp [UInt8.lt_iff_toNat_lt, ha]

theorem scan_two (ha : 0xC2 ≤ a.toNat ∧ a.toNat ≤ 0xDF) (hb : 0x80 ≤ b.toNat ∧ b.toNat ≤ 0xBF) :
    scan (a :: b :: rest) =
      some (Char.ofNat ((a.toNat % 32) * 64 + b.toNat % 64)) :: scan rest := by
  have ascii : ¬ a.toNat < 0x80 := by omega
  simp [scan, UInt8.lt_iff_toNat_lt, UInt8.le_iff_toNat_le, isContinuation_iff, low6, *]

theorem scan_three (ha : 0xE0 ≤ a.toNat ∧ a.toNat ≤ 0xEF) (hb : follows3 a b = true)
    (hc : 0x80 ≤ c.toNat ∧ c.toNat ≤ 0xBF) :
    scan (a :: b :: c :: rest) =
      some (Char.ofNat ((a.toNat % 16) * 4096 + b.toNat % 64 * 64 + c.toNat % 64)) ::
        scan rest := by
  have ascii : ¬ a.toNat < 0x80 := by omega
  have two : ¬ a.toNat ≤ 0xDF := by omega
  simp [scan, UInt8.lt_iff_toNat_lt, UInt8.le_iff_toNat_le, isContinuation_iff, low6, *]

theorem scan_four (ha : 0xF0 ≤ a.toNat ∧ a.toNat ≤ 0xF4) (hb : follows4 a b = true)
    (hc : 0x80 ≤ c.toNat ∧ c.toNat ≤ 0xBF) (hd : 0x80 ≤ d.toNat ∧ d.toNat ≤ 0xBF) :
    scan (a :: b :: c :: d :: rest) =
      some (Char.ofNat ((a.toNat % 8) * 262144 + b.toNat % 64 * 4096 + c.toNat % 64 * 64 +
        d.toNat % 64)) :: scan rest := by
  have ascii : ¬ a.toNat < 0x80 := by omega
  have two : ¬ a.toNat ≤ 0xDF := by omega
  have three : ¬ a.toNat ≤ 0xEF := by omega
  simp [scan, UInt8.lt_iff_toNat_lt, UInt8.le_iff_toNat_le, isContinuation_iff, low6, *]

/-- A number that is no surrogate is the number of a character. -/
theorem val_ofNat {n : Nat} (valid : n < 0xD800 ∨ (0xDFFF < n ∧ n < 0x110000)) :
    (Char.ofNat n).val.toNat = n := by
  have h : n.isValidChar := valid
  rw [Char.ofNat, dif_pos h]
  rfl

theorem encodeChar_one (ha : a.toNat < 0x80) :
    String.utf8EncodeChar (Char.ofNat a.toNat) = [a] := by
  have number := @val_ofNat a.toNat (by omega)
  simp only [String.utf8EncodeChar, number]
  rw [if_pos (by omega), UInt8.ofNat_toNat]

theorem encodeChar_two (ha : 0xC2 ≤ a.toNat ∧ a.toNat ≤ 0xDF)
    (hb : 0x80 ≤ b.toNat ∧ b.toNat ≤ 0xBF) :
    String.utf8EncodeChar (Char.ofNat ((a.toNat % 32) * 64 + b.toNat % 64)) = [a, b] := by
  have number := @val_ofNat ((a.toNat % 32) * 64 + b.toNat % 64) (by omega)
  simp only [String.utf8EncodeChar, number]
  rw [if_neg (by omega), if_pos (by omega)]
  simp only [List.cons.injEq, ← UInt8.toNat_inj, UInt8.toNat_ofNat', and_true]
  omega

theorem encodeChar_three (ha : 0xE0 ≤ a.toNat ∧ a.toNat ≤ 0xEF) (hb : follows3 a b = true)
    (hc : 0x80 ≤ c.toNat ∧ c.toNat ≤ 0xBF) :
    String.utf8EncodeChar (Char.ofNat ((a.toNat % 16) * 4096 + b.toNat % 64 * 64 + c.toNat % 64)) =
      [a, b, c] := by
  rw [follows3_iff] at hb
  have number := @val_ofNat ((a.toNat % 16) * 4096 + b.toNat % 64 * 64 + c.toNat % 64)
    (by omega)
  simp only [String.utf8EncodeChar, number]
  rw [if_neg (by omega), if_neg (by omega), if_pos (by omega)]
  simp only [List.cons.injEq, ← UInt8.toNat_inj, UInt8.toNat_ofNat', and_true]
  omega

theorem encodeChar_four (ha : 0xF0 ≤ a.toNat ∧ a.toNat ≤ 0xF4) (hb : follows4 a b = true)
    (hc : 0x80 ≤ c.toNat ∧ c.toNat ≤ 0xBF) (hd : 0x80 ≤ d.toNat ∧ d.toNat ≤ 0xBF) :
    String.utf8EncodeChar (Char.ofNat ((a.toNat % 8) * 262144 + b.toNat % 64 * 4096 +
        c.toNat % 64 * 64 + d.toNat % 64)) = [a, b, c, d] := by
  rw [follows4_iff] at hb
  have number := @val_ofNat ((a.toNat % 8) * 262144 + b.toNat % 64 * 4096 +
    c.toNat % 64 * 64 + d.toNat % 64) (by omega)
  simp only [String.utf8EncodeChar, number]
  rw [if_neg (by omega), if_neg (by omega), if_neg (by omega)]
  simp only [List.cons.injEq, ← UInt8.toNat_inj, UInt8.toNat_ofNat', and_true]
  omega

end

/-- A byte with a number. -/
theorem exists_byte {n : Nat} (h : n < 256) : ∃ b : UInt8, UInt8.ofNat n = b ∧ b.toNat = n :=
  ⟨_, rfl, by simp [Nat.mod_eq_of_lt h]⟩

/-- The bytes of a character are scanned as that character. -/
theorem scan_encodeChar (c : Char) (rest : List UInt8) :
    scan (String.utf8EncodeChar c ++ rest) = some c :: scan rest := by
  -- The numbers of characters leave a gap, which the second of three bytes has to avoid.
  have gap : c.toNat < 0xD800 ∨ (0xDFFF < c.toNat ∧ c.toNat < 0x110000) := c.valid
  have same {n : Nat} (h : n = c.toNat) : Char.ofNat n = c := by rw [h, Char.ofNat_toNat]
  have number : c.val.toNat = c.toNat := rfl
  unfold String.utf8EncodeChar
  simp only [number]
  generalize c.toNat = n at *
  split
  · obtain ⟨a, ha, hn⟩ := exists_byte (show n < 256 by omega)
    rw [ha, List.singleton_append, scan_one (by omega), same hn]
  obtain ⟨last, hlast, hlastn⟩ := exists_byte (show n % 64 + 128 < 256 by omega)
  obtain ⟨third, hthird, hthirdn⟩ := exists_byte (show n / 64 % 64 + 128 < 256 by omega)
  rw [hlast, hthird]
  split
  · obtain ⟨a, ha, hn⟩ := exists_byte (show n / 64 % 32 + 192 < 256 by omega)
    rw [ha, List.cons_append, List.singleton_append, scan_two (by omega) (by omega), same]
    omega
  split
  · obtain ⟨a, ha, hn⟩ := exists_byte (show n / 4096 % 16 + 224 < 256 by omega)
    rw [ha, List.cons_append, List.cons_append, List.singleton_append,
      scan_three (by omega) (follows3_iff.mpr (by omega)) (by omega), same]
    omega
  · obtain ⟨a, ha, hn⟩ := exists_byte (show n / 262144 % 8 + 240 < 256 by omega)
    obtain ⟨b, hb, hbn⟩ := exists_byte (show n / 4096 % 64 + 128 < 256 by omega)
    rw [ha, hb, List.cons_append, List.cons_append, List.cons_append, List.singleton_append,
      scan_four (by omega) (follows4_iff.mpr (by omega)) (by omega) (by omega), same]
    omega

/-! ## Texts -/

theorem scan_utf8 (s : List Char) : scan (utf8 s) = s.map some := by
  induction s with
  | nil => simp [scan]
  | cons c s ih => rw [utf8_cons, scan_encodeChar, ih, List.map_cons]

/-- The bytes of a text are read as that text. -/
theorem decode?_utf8 (s : List Char) : decode? (utf8 s) = some s := by
  rw [decode?, scan_utf8]
  induction s with
  | nil => rfl
  | cons c s ih => rw [List.map_cons, List.foldr_cons, ih]

theorem decodeLossy_utf8 (s : List Char) : decodeLossy (utf8 s) = s := by
  rw [decodeLossy, scan_utf8, List.map_map]
  exact List.map_id s

/-- Bytes of a character in front of the bytes of a text. -/
theorem utf8_of_scan_cons {c : Char} {bytes rest : List UInt8}
    (head : String.utf8EncodeChar c ++ rest = bytes)
    (ih : ∀ {s : List Char}, scan rest = s.map some → utf8 s = rest) {s : List Char}
    (h : some c :: scan rest = s.map some) : utf8 s = bytes := by
  cases s with
  | nil => cases h
  | cons c' s =>
    obtain ⟨first, more⟩ := List.cons.inj h
    obtain rfl := Option.some.inj first
    rw [utf8_cons, ih more, head]

theorem utf8_of_scan {bytes : List UInt8} {s : List Char} (h : scan bytes = s.map some) :
    utf8 s = bytes := by
  -- Wherever something is scanned that is no character, the list has no text.
  have gap {tail : List (Option Char)} {s : List Char} (h : none :: tail = s.map some) : False := by
    cases s <;> simp at h
  fun_induction scan bytes generalizing s with
  | case1 =>
    obtain rfl : s = [] := List.map_eq_nil_iff.mp h.symm
    rfl
  | case2 a rest ascii ih =>
    exact utf8_of_scan_cons (by rw [encodeChar_one ascii]; rfl) ih h
  | case4 a _ lead b rest continued ih =>
    simp only [Bool.and_eq_true, decide_eq_true_eq] at lead
    exact utf8_of_scan_cons
      (by rw [low6, encodeChar_two lead (isContinuation_iff.mp continued)]; rfl) ih h
  | case9 a _ _ lead b c rest second third ih =>
    simp only [Bool.and_eq_true, decide_eq_true_eq] at lead
    exact utf8_of_scan_cons
      (by rw [low6, low6, encodeChar_three lead second (isContinuation_iff.mp third)]; rfl) ih h
  | case18 a _ _ _ lead b c d rest second third fourth ih =>
    simp only [Bool.and_eq_true, decide_eq_true_eq] at lead
    exact utf8_of_scan_cons
      (by rw [low6, low6, low6, encodeChar_four lead second (isContinuation_iff.mp third)
            (isContinuation_iff.mp fourth)]; rfl) ih h
  | _ => exact (gap h).elim

/-- The bytes that are read as a text are the bytes of that text. -/
theorem decode?_eq_some_iff {bytes : List UInt8} {s : List Char} :
    decode? bytes = some s ↔ bytes = utf8 s := by
  refine ⟨fun h => (utf8_of_scan ?_).symm, ?_⟩
  · unfold decode? at h
    generalize scan bytes = units at h ⊢
    induction units generalizing s with
    | nil =>
      obtain rfl : [] = s := by simpa using h
      rfl
    | cons unit units ih =>
      rw [List.foldr_cons] at h
      split at h
      next c rest read =>
        obtain rfl := Option.some.inj h
        rw [ih read, List.map_cons]
      next => cases h
  · rintro rfl
    exact decode?_utf8 s

end ClusterAccess.Text
