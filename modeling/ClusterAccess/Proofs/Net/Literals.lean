import ClusterAccess.Net.Address
import ClusterAccess.Proofs.Text.Numerals

/-!
# Literals of network addresses

The written forms of addresses as a grammar, apart from the way in which they are read. An address
of version 4 has one form. One of version 6 has many: its groups have digits of either case, with
leading zeros or without them, two colons may stand for zeros, and the end may look like an address
of version 4.

## Main definitions

* `Group`, `Groups`, `Side`: the parts of an address of version 6.
* `Literal`: the texts that denote an address.

## Main statements

* `Address.parse?_iff`: exactly the literals are read, as what they denote.
* `Literal.unique`: a text denotes at most one address.
-/
namespace ClusterAccess.Net

variable {s t : List Char} {p : UInt16} {ps before after : List UInt16} {a : Address}

/-! ## The grammar -/

/-- One to four hexadecimal digits, most significant first. -/
structure Group (s : List Char) (p : UInt16) : Prop where
  nonempty : s ≠ []
  short : s.length ≤ 4
  denotes : ∃ digits : List Nat, s.map Text.Hex.digitValue? = digits.map some ∧
    p.toNat = digits.foldl (fun n d => 16 * n + d) 0

/-- Groups between colons; the last two may be written as an address of version 4. -/
inductive Groups : List Char → List UInt16 → Prop
  | last {s : List Char} {p : UInt16} (h : Group s p) : Groups s [p]
  | mapped (a b c d : UInt8) : Groups (renderV4 a b c d).toList
      [256 * a.toUInt16 + b.toUInt16, 256 * c.toUInt16 + d.toUInt16]
  | more {s t : List Char} {p : UInt16} {ps : List UInt16} (h : Group s p) (rest : Groups t ps) :
      Groups (s ++ ':' :: t) (p :: ps)

/-- What may stand on either side of two colons. -/
inductive Side : List Char → List UInt16 → Prop
  | nothing : Side [] []
  | groups {s : List Char} {ps : List UInt16} (h : Groups s ps) : Side s ps

/-- The texts that denote an address. -/
inductive Literal : List Char → Address → Prop
  | v4 (a b c d : UInt8) : Literal (renderV4 a b c d).toList (.v4 a b c d)
  | full {s : List Char} {ps : List UInt16} (h : Groups s ps) (eight : ps.length = 8) :
      Literal s (.v6 ps)
  /-- Two colons stand for one group of zeros or more. The form of version 4 is for the end. -/
  | gap {s t : List Char} {before after : List UInt16} (left : Side s before)
      (right : Side t after) (noPoint : '.' ∉ s) (short : before.length + after.length ≤ 7) :
      Literal (s ++ ':' :: ':' :: t)
        (.v6 (before ++ List.replicate (8 - before.length - after.length) 0 ++ after))

/-! ## Version 4 -/

theorem octet?_toDigits : ∀ n < 256, octet? (Nat.toDigits 10 n) = some (UInt8.ofNat n) := by
  decide +kernel

theorem octet?_iff {n : UInt8} : octet? s = some n ↔ s = Nat.toDigits 10 n.toNat := by
  constructor
  · intro h
    unfold octet? at h
    split at h
    next k number =>
      split at h
      next fits =>
        simp only [Bool.and_eq_true, Bool.or_eq_true, decide_eq_true_eq, bne_iff_ne] at fits
        obtain ⟨nonempty, all, value⟩ := Text.Numeral.of_natural? number
        have small : k % 256 = k := Nat.mod_eq_of_lt fits.1.1
        have shortest := Text.Numeral.toDigits_value nonempty all fits.2
        cases h
        rw [UInt8.toNat_ofNat', small, ← value, shortest]
      · cases h
    · cases h
  · rintro rfl
    simpa using octet?_toDigits n.toNat n.toNat_lt

theorem renderV4_toList (a b c d : UInt8) : (renderV4 a b c d).toList =
    List.intercalate ['.'] ([a, b, c, d].map fun n => Nat.toDigits 10 n.toNat) := by
  simp [renderV4, Nat.toList_repr]

theorem mem_toDigits {c : Char} {n : Nat} (mem : c ∈ Nat.toDigits 10 n) :
    Text.Numeral.isDigit c = true :=
  List.all_eq_true.mp (Text.Numeral.all_isDigit_toDigits n) c mem

theorem map_octet?_iff {parts : List (List Char)} {ns : List UInt8} :
    parts.map octet? = ns.map some ↔ parts = ns.map fun n => Nat.toDigits 10 n.toNat := by
  induction parts generalizing ns with
  | nil => cases ns <;> simp
  | cons part parts ih =>
    cases ns with
    | nil => simp
    | cons n ns => simp only [List.map_cons, List.cons.injEq, octet?_iff, ih]

theorem mem_renderV4 {c : Char} {b d e f : UInt8} (mem : c ∈ (renderV4 b d e f).toList) :
    c = '.' ∨ Text.Numeral.isDigit c = true := by
  rw [renderV4_toList] at mem
  simp only [List.map_cons, List.map_nil, List.intercalate_cons_cons, List.intercalate_singleton,
    List.mem_append, List.mem_singleton, or_assoc] at mem
  rcases mem with mem | rfl | mem | rfl | mem | rfl | mem
  all_goals first | exact .inl rfl | exact .inr (mem_toDigits mem)

theorem point_mem_renderV4 (b c d e : UInt8) : '.' ∈ (renderV4 b c d e).toList := by
  simp [renderV4_toList, List.intercalate_cons_cons]

theorem colon_not_mem_renderV4 (b c d e : UInt8) : ':' ∉ (renderV4 b c d e).toList := fun mem =>
  (mem_renderV4 mem).elim (by decide) (by decide)

theorem parseV4?_renderV4 (b c d e : UInt8) :
    parseV4? (renderV4 b c d e).toList = some (.v4 b c d e) := by
  have noPoint : ∀ l ∈ [b, c, d, e].map fun n => Nat.toDigits 10 n.toNat, '.' ∉ l := by
    intro l mem point
    obtain ⟨n, -, rfl⟩ := List.mem_map.mp mem
    exact absurd (mem_toDigits point) (by decide)
  rw [parseV4?, renderV4_toList, List.splitOn_intercalate _ noPoint (by simp),
    map_octet?_iff.mpr rfl]
  rfl

theorem parseV4?_iff : parseV4? s = some a ↔
    ∃ b c d e, a = .v4 b c d e ∧ s = (renderV4 b c d e).toList := by
  constructor
  · intro h
    unfold parseV4? at h
    split at h
    next b c d e parts =>
      cases h
      have written : s.splitOn '.' = [b, c, d, e].map fun n => Nat.toDigits 10 n.toNat :=
        map_octet?_iff.mp parts
      exact ⟨b, c, d, e, rfl, by rw [renderV4_toList, ← written, List.intercalate_splitOn]⟩
    · cases h
  · rintro ⟨b, c, d, e, rfl, rfl⟩
    exact parseV4?_renderV4 b c d e

theorem parseV4?_of_noPoint (h : '.' ∉ s) : parseV4? s = none := by
  rw [Option.eq_none_iff_forall_ne_some]
  intro a parsed
  obtain ⟨b, c, d, e, -, rfl⟩ := parseV4?_iff.mp parsed
  exact h (point_mem_renderV4 b c d e)

theorem parseV4?_of_colon (h : ':' ∈ s) : parseV4? s = none := by
  rw [Option.eq_none_iff_forall_ne_some]
  intro a parsed
  obtain ⟨b, c, d, e, -, rfl⟩ := parseV4?_iff.mp parsed
  exact colon_not_mem_renderV4 b c d e h

/-! ## Groups -/

theorem digitValue?_lt {c : Char} {d : Nat} (h : Text.Hex.digitValue? c = some d) : d < 16 := by
  unfold Text.Hex.digitValue? at h
  dsimp only at h
  split at h
  next range => simp only [Bool.and_eq_true, decide_eq_true_eq] at range; cases h; omega
  split at h
  next range => simp only [Bool.and_eq_true, decide_eq_true_eq] at range; cases h; omega
  split at h
  next range => simp only [Bool.and_eq_true, decide_eq_true_eq] at range; cases h; omega
  cases h

/-- A number of four digits or fewer fits into a group. -/
theorem digits_lt {digits : List Nat} (small : ∀ d ∈ digits, d < 16) (n : Nat) :
    digits.foldl (fun n d => 16 * n + d) n < (n + 1) * Nat.pow 16 digits.length := by
  induction digits generalizing n with
  | nil => simp
  | cons d digits ih =>
    have first := small d List.mem_cons_self
    have rest := ih (fun e mem => small e (List.mem_cons_of_mem d mem)) (16 * n + d)
    calc (d :: digits).foldl (fun n d => 16 * n + d) n
        < (16 * n + d + 1) * Nat.pow 16 digits.length := rest
      _ ≤ ((n + 1) * 16) * Nat.pow 16 digits.length := Nat.mul_le_mul_right _ (by omega)
      _ = (n + 1) * (Nat.pow 16 digits.length * 16) := by rw [Nat.mul_assoc, Nat.mul_comm 16]

theorem foldl_digits_iff {f : Option UInt16 → Char → Option UInt16}
    (step : ∀ n c, f (some n) c =
      (Text.Hex.digitValue? c).map fun d => 16 * n + UInt16.ofNat d)
    (stuck : ∀ c, f none c = none) (n : Nat) :
    s.foldl f (some (UInt16.ofNat n)) = some p ↔
      ∃ digits : List Nat, s.map Text.Hex.digitValue? = digits.map some ∧
        p = UInt16.ofNat (digits.foldl (fun n d => 16 * n + d) n) := by
  induction s generalizing n with
  | nil =>
    constructor
    · rintro ⟨⟩
      exact ⟨[], rfl, rfl⟩
    · rintro ⟨digits, none, rfl⟩
      obtain rfl : digits = [] := by simpa using none.symm
      rfl
  | cons c s ih =>
    rw [List.foldl_cons, step]
    cases digit : Text.Hex.digitValue? c with
    | none =>
      have nothing : s.foldl f none = none := by
        clear ih
        induction s with
        | nil => rfl
        | cons c s ih => rw [List.foldl_cons, stuck, ih]
      rw [Option.map_none, nothing]
      constructor
      · rintro ⟨⟩
      · rintro ⟨_ | ⟨d, digits⟩, all, -⟩ <;> simp [digit] at all
    | some d =>
      have next : 16 * UInt16.ofNat n + UInt16.ofNat d = UInt16.ofNat (16 * n + d) := by
        rw [UInt16.ofNat_add, UInt16.ofNat_mul]
        rfl
      rw [Option.map_some, next, ih]
      constructor
      · rintro ⟨digits, all, rfl⟩
        exact ⟨d :: digits, by simp [digit, all], rfl⟩
      · rintro ⟨_ | ⟨e, digits⟩, all, rfl⟩
        · simp at all
        · obtain ⟨rfl, others⟩ : d = e ∧ s.map Text.Hex.digitValue? = digits.map some := by
            simpa [digit] using all
          exact ⟨digits, others, rfl⟩

theorem group?_iff : group? s = some p ↔ Group s p := by
  unfold group?
  by_cases size : s.isEmpty ∨ 4 < s.length
  · rw [if_pos (by simpa using size)]
    constructor
    · rintro ⟨⟩
    · intro h
      rcases size with empty | long
      · exact absurd (List.isEmpty_iff.mp empty) h.nonempty
      · exact absurd h.short (by omega)
  · have fits : s ≠ [] ∧ s.length ≤ 4 := by simpa using size
    have zero : (0 : UInt16) = UInt16.ofNat 0 := rfl
    rw [if_neg (by simpa using size), zero,
      foldl_digits_iff (fun n c => by cases Text.Hex.digitValue? c <;> rfl) (fun _ => rfl)]
    -- With at most four digits, the number is below the size of a group.
    have exact_of {digits : List Nat} (all : s.map Text.Hex.digitValue? = digits.map some) :
        (UInt16.ofNat (digits.foldl (fun n d => 16 * n + d) 0)).toNat =
          digits.foldl (fun n d => 16 * n + d) 0 := by
      have small : ∀ d ∈ digits, d < 16 := by
        intro d mem
        have read : some d ∈ s.map Text.Hex.digitValue? := all ▸ List.mem_map_of_mem mem
        obtain ⟨c, -, digit⟩ := List.mem_map.mp read
        exact digitValue?_lt digit
      have length : s.length = digits.length := by simpa using congrArg List.length all
      have short : digits.length ≤ 4 := length ▸ fits.2
      have bound := digits_lt small 0
      have power : Nat.pow 16 digits.length ≤ 65536 := Nat.pow_le_pow_right (by decide) short
      rw [UInt16.toNat_ofNat']
      omega
    constructor
    · rintro ⟨digits, all, rfl⟩
      exact ⟨fits.1, fits.2, digits, all, exact_of all⟩
    · rintro ⟨-, -, digits, all, denotes⟩
      exact ⟨digits, all, UInt16.toNat.inj (denotes.trans (exact_of all).symm)⟩

theorem Group.digit_of_mem (h : Group s p) {c : Char} (mem : c ∈ s) :
    (Text.Hex.digitValue? c).isSome = true := by
  obtain ⟨digits, all, -⟩ := h.denotes
  have read : Text.Hex.digitValue? c ∈ digits.map some := all ▸ List.mem_map_of_mem mem
  obtain ⟨d, -, digit⟩ := List.mem_map.mp read
  rw [← digit]
  rfl

theorem Group.noColon (h : Group s p) : ':' ∉ s := fun mem =>
  absurd (h.digit_of_mem mem) (by decide)

theorem Group.noPoint (h : Group s p) : '.' ∉ s := fun mem =>
  absurd (h.digit_of_mem mem) (by decide)

/-- Parts between colons are groups if all of them are read as groups. -/
theorem groups_of_parts {parts : List (List Char)} (some : parts ≠ [])
    (h : groups? parts = .some ps) : Groups ([':'].intercalate parts) ps := by
  induction parts generalizing ps with
  | nil => cases some rfl
  | cons part parts ih =>
    cases parts with
    | nil =>
      rw [List.intercalate_singleton]
      unfold groups? at h
      split at h
      next b c d e mapped =>
        cases h
        obtain ⟨b', c', d', e', same, rfl⟩ := parseV4?_iff.mp mapped
        cases same
        exact .mapped b c d e
      next =>
        obtain ⟨p, read, rfl⟩ := Option.map_eq_some_iff.mp h
        exact .last (group?_iff.mp read)
    | cons next parts =>
      rw [groups?.eq_def] at h
      dsimp only at h
      split at h
      next p ps read others =>
        cases h
        have rest := ih (List.cons_ne_nil _ _) others
        simpa [List.intercalate_cons_cons] using Groups.more (group?_iff.mp read) rest
      next => cases h

theorem Groups.read (h : Groups s ps) : groups? (s.splitOn ':') = some ps := by
  induction h with
  | last h =>
    rw [List.splitOn_eq_singleton h.noColon, groups?, parseV4?_of_noPoint h.noPoint]
    simp [group?_iff.mpr h]
  | mapped a b c d =>
    rw [List.splitOn_eq_singleton (colon_not_mem_renderV4 a b c d), groups?, parseV4?_renderV4]
  | @more s t p ps h rest ih =>
    have parts := List.splitOn_append_cons_self (a := ':') s t
    rw [List.splitOn_eq_singleton h.noColon] at parts
    rw [parts]
    cases others : t.splitOn ':' with
    | nil => exact absurd others (List.splitOn_ne_nil _ _)
    | cons next more =>
      rw [others] at ih
      simp [groups?, group?_iff.mpr h, ih]

theorem groups_iff : groups? (s.splitOn ':') = some ps ↔ Groups s ps := by
  constructor
  · intro h
    simpa using groups_of_parts (List.splitOn_ne_nil _ _) h
  · exact Groups.read

theorem Groups.nonempty (h : Groups s ps) : s ≠ [] := by
  cases h with
  | last h => exact h.nonempty
  | mapped a b c d => exact List.ne_nil_of_mem (point_mem_renderV4 a b c d)
  | more h rest => simp

theorem side?_iff : side? s = some ps ↔ Side s ps := by
  unfold side?
  split
  next empty =>
    obtain rfl := List.isEmpty_iff.mp empty
    constructor
    · rintro ⟨⟩
      exact .nothing
    · rintro (_ | h)
      · rfl
      · exact absurd rfl h.nonempty
  next some =>
    rw [groups_iff]
    constructor
    · exact .groups
    · rintro (_ | h)
      · cases some rfl
      · exact h

/-! ## Two colons -/

theorem append_of_cutAtGap {left right : List Char} (h : cutAtGap s = some (left, right)) :
    s = left ++ ':' :: ':' :: right := by
  induction s using cutAtGap.induct generalizing left with
  | case1 rest =>
    cases h
    rfl
  | case2 c rest noGap ih =>
    rw [cutAtGap.eq_2 c rest noGap] at h
    obtain ⟨⟨left, right⟩, cut, same⟩ := Option.map_eq_some_iff.mp h
    cases same
    rw [ih cut, List.cons_append]
  | case3 => cases h

theorem cutAtGap_cons {c : Char} (noGap : c ≠ ':' ∨ s.head? ≠ some ':') :
    cutAtGap (c :: s) = (cutAtGap s).map fun (left, right) => (c :: left, right) := by
  refine cutAtGap.eq_2 c s ?_
  rintro rest rfl rfl
  simp at noGap

/-- A text without colons does not matter to the place of the first two. -/
theorem cutAtGap_append (noColon : ':' ∉ s) (t : List Char) :
    cutAtGap (s ++ t) = (cutAtGap t).map fun (left, right) => (s ++ left, right) := by
  induction s with
  | nil => simp
  | cons c s ih =>
    have first : c ≠ ':' := fun same => noColon (same ▸ List.mem_cons_self)
    rw [List.cons_append, cutAtGap_cons (.inl first),
      ih fun mem => noColon (List.mem_cons_of_mem c mem), Option.map_map]
    rfl

theorem head?_ne_of_not_mem (noColon : ':' ∉ s) : s.head? ≠ some ':' := fun first =>
  noColon (List.mem_of_mem_head? first)

theorem head?_append_ne (nonempty : s ≠ []) (h : s.head? ≠ some ':') (t : List Char) :
    (s ++ t).head? ≠ some ':' := by
  cases s with
  | nil => cases nonempty rfl
  | cons c s => exact h

theorem Groups.head?_ne (h : Groups s ps) : s.head? ≠ some ':' := by
  cases h with
  | last h => exact head?_ne_of_not_mem h.noColon
  | mapped a b c d => exact head?_ne_of_not_mem (colon_not_mem_renderV4 a b c d)
  | more h rest => exact head?_append_ne h.nonempty (head?_ne_of_not_mem h.noColon) _

/-- Nor does a text of groups. -/
theorem Groups.cutAtGap_append (h : Groups s ps) (t : List Char) :
    cutAtGap (s ++ t) = (cutAtGap t).map fun (left, right) => (s ++ left, right) := by
  induction h with
  | last h => exact Net.cutAtGap_append h.noColon t
  | mapped a b c d => exact Net.cutAtGap_append (colon_not_mem_renderV4 a b c d) t
  | @more s u p ps h rest ih =>
    have head := head?_append_ne rest.nonempty rest.head?_ne t
    rw [List.append_assoc, Net.cutAtGap_append h.noColon, List.cons_append,
      cutAtGap_cons (.inr head), ih, Option.map_map, Option.map_map]
    congr 1
    funext ⟨left, right⟩
    simp

theorem Side.cutAtGap (h : Side s ps) (t : List Char) :
    cutAtGap (s ++ ':' :: ':' :: t) = some (s, t) := by
  cases h with
  | nothing => rfl
  | groups h =>
    rw [h.cutAtGap_append]
    simp [Net.cutAtGap]

/-! ## Literals -/

theorem Groups.colon_mem (h : Groups s ps) (many : 2 < ps.length) : ':' ∈ s := by
  cases h with
  | last h => simp at many
  | mapped a b c d => simp at many
  | more h rest => simp

theorem parseV6?_iff : parseV6? s = some a ↔ Literal s a ∧ ':' ∈ s := by
  constructor
  · intro h
    unfold parseV6? at h
    split at h
    next noGap =>
      split at h
      next ps read =>
        split at h
        next eight =>
          cases h
          rcases side?_iff.mp read with _ | groups
          · cases eight
          · exact ⟨.full groups eight, groups.colon_mem (by omega)⟩
        next => cases h
      next => cases h
    next left right gap =>
      obtain rfl := append_of_cutAtGap gap
      split at h
      · cases h
      next noPoint =>
        split at h
        next before after readLeft readRight =>
          split at h
          next short =>
            cases h
            exact ⟨.gap (side?_iff.mp readLeft) (side?_iff.mp readRight) (by simpa using noPoint)
              short, by simp⟩
          next => cases h
        next => cases h
  · rintro ⟨literal, colon⟩
    unfold parseV6?
    cases literal with
    | v4 b c d e => exact absurd colon (colon_not_mem_renderV4 b c d e)
    | full groups eight =>
      have noGap : cutAtGap s = none := by simpa [cutAtGap] using groups.cutAtGap_append []
      simp [noGap, side?_iff.mpr (.groups groups), eight]
    | gap left right noPoint short =>
      simp [left.cutAtGap, noPoint, side?_iff.mpr left, side?_iff.mpr right, short]

/-- Exactly the literals are read, as what they denote. -/
theorem Address.parse?_iff : Address.parse? s = some a ↔ Literal s a := by
  by_cases colon : ':' ∈ s
  · rw [parse?, parseV4?_of_colon colon, Option.none_or, parseV6?_iff, and_iff_left colon]
  · have not6 : parseV6? s = none := by
      rw [Option.eq_none_iff_forall_ne_some]
      exact fun a parsed => colon (parseV6?_iff.mp parsed).2
    rw [parse?, not6, Option.or_none, parseV4?_iff]
    constructor
    · rintro ⟨b, c, d, e, rfl, rfl⟩
      exact .v4 b c d e
    · rintro (⟨b, c, d, e⟩ | ⟨groups, eight⟩ | _)
      · exact ⟨b, c, d, e, rfl, rfl⟩
      · exact absurd (groups.colon_mem (by omega)) colon
      · simp at colon

theorem Literal.unique {b : Address} (h : Literal s a) (h' : Literal s b) : a = b :=
  Option.some.inj ((Address.parse?_iff.mpr h).symm.trans (Address.parse?_iff.mpr h'))

end ClusterAccess.Net
