import ClusterAccess.Password
import Mathlib.Data.Int.CardIntervalMod
import Mathlib.Data.List.Basic

/-!
# Evenly drawn characters

A random text consists of the first of the characters that the bytes of the blocks stand for. Bytes
that would favour some characters stand for none, and the others are shared out evenly. As few
blocks are drawn as suffice. The length of a text is counted in bytes, which are as many as its
characters if the alphabet is of ASCII bytes. A password is a random text that has a character of
every kind.

## Main definitions

* `Password.threshold`: from which byte on bytes are thrown away.
* `Password.characters`: the characters that bytes stand for.
* `Password.Filled`: which of them a text of some length takes.
* `Password.Drawn`: what becomes of drawing a text.
* `PasswordPolicy.Tried`, `PasswordPolicy.Generated`: what becomes of making up a password.
* `PasswordPolicy.Covers`: a password as its policy wants it.

## Main statements

* `Password.threshold_isGreatest`: as few bytes are thrown away as possible.
* `Password.card_bytes`: every character has its share of the bytes.
* `Password.fill_filled`: which characters are taken from a block.
* `Password.draw_cases`: which characters are drawn, and from how many blocks.
* `Password.evenly_drawn`: random texts and passwords.
* `Password.text_of_wide_characters`: texts of characters that take two bytes each.
-/
namespace ClusterAccess

namespace Password

/-! ## Bytes -/

/-- For an alphabet of so many characters, bytes from here on are thrown away. -/
def threshold (size : Nat) : Nat := 256 - 256 % size

theorem threshold_isGreatest {size : Nat} (filled : 0 < size) :
    IsGreatest {n | size ∣ n ∧ n ≤ 256} (threshold size) := by
  refine ⟨⟨Nat.dvd_sub_mod 256, Nat.sub_le _ _⟩, ?_⟩
  rintro n ⟨⟨k, rfl⟩, most⟩
  have quotient : k ≤ 256 / size := (Nat.le_div_iff_mul_le filled).mpr (Nat.mul_comm k size ▸ most)
  calc size * k
      ≤ size * (256 / size) := Nat.mul_le_mul_left size quotient
    _ = threshold size := by
        have := Nat.div_add_mod 256 size
        unfold threshold
        omega

/-- Every place in the alphabet has the same share of the bytes that are used. -/
theorem card_bytes {size place : Nat} (inside : place < size) :
    ((Finset.range 256).filter fun byte => byte < threshold size ∧ byte % size = place).card =
      threshold size / size := by
  have filled : 0 < size := Nat.zero_lt_of_lt inside
  have divides : threshold size % size = 0 := Nat.mod_eq_zero_of_dvd (Nat.dvd_sub_mod 256)
  have below : ((Finset.range 256).filter fun byte => byte < threshold size ∧ byte % size = place) =
      (Finset.range (threshold size)).filter (· ≡ place [MOD size]) := by
    ext byte
    have most : threshold size ≤ 256 := Nat.sub_le _ _
    simp only [Finset.mem_filter, Finset.mem_range, Nat.ModEq, Nat.mod_eq_of_lt inside]
    omega
  rw [below, ← Nat.count_eq_card_filter_range, Nat.count_modEq_card _ filled, divides,
    if_neg (Nat.not_lt_zero _), Nat.add_zero]

/-! ## Bytes of characters -/

@[simp]
theorem byteSize_nil : byteSize [] = 0 := rfl

@[simp]
theorem byteSize_cons (c : Char) (s : List Char) : byteSize (c :: s) = c.utf8Size + byteSize s :=
  rfl

@[simp]
theorem byteSize_append (s t : List Char) : byteSize (s ++ t) = byteSize s + byteSize t := by
  induction s with
  | nil => simp
  | cons c s ih => simp [ih, Nat.add_assoc]

theorem byteSize_prefix_le {s t : List Char} (h : t <+: s) : byteSize t ≤ byteSize s := by
  obtain ⟨more, rfl⟩ := h
  rw [byteSize_append]
  exact Nat.le_add_right _ _

theorem utf8ByteSize_ofList (s : List Char) : (String.ofList s).utf8ByteSize = byteSize s := by
  induction s with
  | nil => rfl
  | cons c s ih =>
    rw [String.ofList_cons, String.utf8ByteSize_append, String.utf8ByteSize_singleton, ih,
      byteSize_cons]

/-- Characters that take one byte each. -/
theorem byteSize_of_plain {s : List Char} (plain : ∀ c ∈ s, c.utf8Size = 1) :
    byteSize s = s.length := by
  induction s with
  | nil => rfl
  | cons c s ih =>
    rw [List.forall_mem_cons] at plain
    rw [byteSize_cons, plain.1, ih plain.2, List.length_cons, Nat.add_comm]

theorem utf8Size_of_lt {c : Char} (plain : c.toNat < 128) : c.utf8Size = 1 := by
  rw [Char.utf8Size_eq_one_iff, UInt32.le_iff_toNat_le]
  exact Nat.le_of_lt_succ plain

theorem utf8Size_ofUInt8 {a : UInt8} (plain : a < 128) : (Char.ofUInt8 a).utf8Size = 1 := by
  refine utf8Size_of_lt ?_
  have same : (Char.ofUInt8 a).toNat = a.toNat := UInt8.toNat_toUInt32 a
  rw [same]
  exact UInt8.lt_iff_toNat_lt.mp plain

/-! ## Texts -/

/-- A text made of the first of some characters. It has exactly the wanted bytes if it can, and else
it is all of them. -/
inductive Filled (wanted : Nat) (s : List Char) : List Char → Prop
  | exact {t : List Char} (first : t <+: s) (size : byteSize t = wanted) : Filled wanted s t
  | beyond (never : ∀ t, t <+: s → byteSize t ≠ wanted) : Filled wanted s s

theorem Filled.isPrefix {wanted : Nat} {s t : List Char} (h : Filled wanted s t) : t <+: s := by
  cases h with
  | exact first => exact first
  | beyond => exact List.prefix_rfl

/-- If there are characters enough, the text is at least as long as it should be. -/
theorem Filled.le_byteSize {wanted : Nat} {s t : List Char} (h : Filled wanted s t)
    (enough : wanted ≤ byteSize s) : wanted ≤ byteSize t := by
  cases h with
  | exact _ size => exact size.ge
  | beyond => exact enough

/-- Characters that are too few are all taken. -/
theorem Filled.eq_of_lt {wanted : Nat} {s t : List Char} (h : Filled wanted s t)
    (few : byteSize s < wanted) : t = s := by
  cases h with
  | exact first size =>
    have most := byteSize_prefix_le first
    omega
  | beyond => rfl

/-- Further characters are taken as if those before them were there already. -/
theorem Filled.append {wanted : Nat} {s t more : List Char} (few : byteSize s < wanted)
    (h : Filled (wanted - byteSize s) t more) : Filled wanted (s ++ t) (s ++ more) := by
  cases h with
  | exact first size =>
    refine .exact ((List.prefix_append_right_inj s).mpr first) ?_
    rw [byteSize_append]
    omega
  | beyond never =>
    refine .beyond fun u first size => ?_
    rcases List.prefix_or_prefix_of_prefix first (List.prefix_append s t) with inside | past
    · have most := byteSize_prefix_le inside
      omega
    · obtain ⟨v, rfl⟩ := past
      rw [byteSize_append] at size
      exact never v ((List.prefix_append_right_inj s).mp first) (by omega)

/-- What is taken of a block fills the text as far as the block goes. -/
theorem fill_filled {wanted : Nat} (some_wanted : 0 < wanted) (s : List Char) :
    Filled wanted s (fill wanted s) := by
  fun_induction fill wanted s with
  | case1 wanted =>
    refine .beyond fun t first size => ?_
    rw [List.prefix_nil.mp first, byteSize_nil] at size
    omega
  | case2 c more => exact .exact ((List.prefix_cons_inj c).mpr List.nil_prefix) (by simp)
  | case3 wanted c more _ room ih => exact .append (s := [c]) room (ih (by omega))
  | case4 wanted c more other past =>
    refine .beyond fun t first size => ?_
    cases t with
    | nil =>
      rw [byteSize_nil] at size
      omega
    | cons d t =>
      -- The first character alone is too much.
      obtain ⟨rfl, -⟩ := List.cons_prefix_cons.mp first
      rw [byteSize_cons] at size
      omega

/-- A text of characters of one byte each has as many characters as it should have bytes. -/
theorem Filled.eq_take {wanted : Nat} {s t : List Char} (h : Filled wanted s t)
    (plain : ∀ c ∈ s, c.utf8Size = 1) (enough : wanted ≤ s.length) : t = s.take wanted := by
  have each {u : List Char} (first : u <+: s) : byteSize u = u.length :=
    byteSize_of_plain fun c mem => plain c (first.subset mem)
  cases h with
  | exact first size =>
    rw [each first] at size
    rw [← size]
    exact List.prefix_iff_eq_take.mp first
  | beyond never =>
    have first : s.take wanted <+: s := List.take_prefix wanted s
    refine absurd ?_ (never _ first)
    rw [each first, List.length_take]
    exact Nat.min_eq_left enough

section

variable {alphabet : List UInt8} (filled : 0 < alphabet.length)

/-- The characters that random bytes stand for. -/
def characters (bytes : List UInt8) : List Char :=
  (bytes.filter fun b => b.toNat < threshold alphabet.length).map fun b =>
    Char.ofUInt8 (alphabet.get ⟨b.toNat % alphabet.length, Nat.mod_lt _ filled⟩)

theorem characters_append (bytes more : List UInt8) :
    characters filled (bytes ++ more) = characters filled bytes ++ characters filled more := by
  simp [characters]

theorem filterMap_pick? (bytes : List UInt8) :
    bytes.filterMap (pick? alphabet) = characters filled bytes := by
  unfold characters
  rw [← List.filterMap_eq_map, List.filterMap_filter]
  refine List.filterMap_congr fun b _ => ?_
  have place : b.toNat % alphabet.length < alphabet.length := Nat.mod_lt _ filled
  by_cases below : b.toNat < 256 - 256 % alphabet.length <;> simp [pick?, threshold, below, place]

theorem mem_of_mem_characters {bytes : List UInt8} {c : Char} (mem : c ∈ characters filled bytes) :
    c ∈ alphabet.map Char.ofUInt8 := by
  obtain ⟨b, -, rfl⟩ := List.mem_map.mp mem
  exact List.mem_map_of_mem (List.get_mem _ _)

theorem utf8Size_of_mem_characters (plain : ∀ a ∈ alphabet, a < 128) {bytes : List UInt8} {c : Char}
    (mem : c ∈ characters filled bytes) : c.utf8Size = 1 := by
  obtain ⟨a, known, rfl⟩ := List.mem_map.mp (mem_of_mem_characters filled mem)
  exact utf8Size_ofUInt8 (plain a known)

/-- So many blocks are enough for a text, and fewer are not. -/
def Needed (wanted : Nat) (e : Entropy) (n : Nat) : Prop :=
  IsLeast {n | wanted ≤ byteSize (characters filled (e.take n).flatten)} n

theorem needed_zero (e : Entropy) : Needed filled 0 e 0 := ⟨Nat.zero_le _, fun _ _ => Nat.zero_le _⟩

/-- If something is wanted, the first block is needed, and after it the blocks for the rest. -/
theorem needed_cons {wanted n : Nat} {block : List UInt8} {rest : Entropy}
    (some_wanted : 0 < wanted)
    (h : Needed filled (wanted - byteSize (characters filled block)) rest n) :
    Needed filled wanted (block :: rest) (n + 1) := by
  have more (k : Nat) :
      wanted ≤ byteSize (characters filled ((block :: rest).take (k + 1)).flatten) ↔
        wanted - byteSize (characters filled block) ≤
          byteSize (characters filled (rest.take k).flatten) := by
    rw [List.take_succ_cons, List.flatten_cons, characters_append, byteSize_append]
    omega
  refine ⟨(more n).mpr h.1, fun m enough => ?_⟩
  cases m with
  | zero =>
    have none : wanted ≤ 0 := enough
    omega
  | succ k => exact Nat.succ_le_succ (h.2 ((more k).mp enough))

theorem draw_zero (e : Entropy) : draw alphabet 0 e = some ([], e) := by
  cases e <;> rfl

/-- What is drawn fills the text from as few blocks as suffice, or there are too few. -/
theorem draw_cases (wanted : Nat) (e : Entropy) :
    (∃ n s, Needed filled wanted e n ∧ Filled wanted (characters filled (e.take n).flatten) s ∧
      draw alphabet wanted e = some (s, e.drop n)) ∨
    byteSize (characters filled e.flatten) < wanted ∧ draw alphabet wanted e = none := by
  induction e generalizing wanted with
  | nil =>
    cases wanted with
    | zero => exact .inl ⟨0, [], needed_zero filled [], .exact List.prefix_rfl rfl, rfl⟩
    | succ wanted => exact .inr ⟨Nat.succ_pos wanted, rfl⟩
  | cons block rest ih =>
    by_cases some_wanted : wanted = 0
    · subst some_wanted
      exact .inl ⟨0, [], needed_zero filled _, .exact List.prefix_rfl rfl, rfl⟩
    have positive : 0 < wanted := Nat.pos_of_ne_zero some_wanted
    have found := fill_filled positive (characters filled block)
    unfold draw
    dsimp only
    rw [if_neg some_wanted, filterMap_pick? filled]
    by_cases few : byteSize (characters filled block) < wanted
    · -- The block is used up, and what is missing comes from those after it.
      rw [found.eq_of_lt few]
      rcases ih (wanted - byteSize (characters filled block)) with
        ⟨n, s, needed, later, drawn⟩ | ⟨short, drawn⟩
      · refine .inl ⟨n + 1, characters filled block ++ s, needed_cons filled positive needed, ?_,
          by rw [drawn]; rfl⟩
        rw [List.take_succ_cons, List.flatten_cons, characters_append]
        exact .append few later
      · refine .inr ⟨?_, by rw [drawn]; rfl⟩
        rw [List.flatten_cons, characters_append, byteSize_append]
        omega
    · -- The block is enough.
      have enough : wanted ≤ byteSize (characters filled block) := Nat.le_of_not_lt few
      have none_left : wanted - byteSize (fill wanted (characters filled block)) = 0 :=
        Nat.sub_eq_zero_of_le (found.le_byteSize enough)
      have nothing : wanted - byteSize (characters filled block) = 0 := Nat.sub_eq_zero_of_le enough
      refine .inl ⟨1, fill wanted (characters filled block), ?_, ?_, ?_⟩
      · exact needed_cons filled positive (nothing ▸ needed_zero filled rest)
      · simpa using found
      · rw [none_left, draw_zero]
        simp

/-- What becomes of drawing a text of some length. -/
inductive Drawn (length : Nat) (e : Entropy) : Outcome (List Char) × Entropy → Prop
  | enough {n : Nat} {s : List Char} (fits : length ≤ longestText)
      (needed : Needed filled length e n)
      (full : Filled length (characters filled (e.take n).flatten) s) :
    Drawn length e (.ok s, e.drop n)
  | short (fits : length ≤ longestText) (short : byteSize (characters filled e.flatten) < length) :
    Drawn length e (.failed (.random "no more random bytes"), [])
  /-- Nothing is drawn for a text that there is no room for. -/
  | boundless (long : longestText < length) : Drawn length e (.aborted, e)

theorem text_drawn (length : Nat) (e : Entropy) :
    Drawn filled length e (text alphabet length e) := by
  unfold text
  by_cases long : longestText < length
  · rw [if_pos long]
    exact .boundless long
  · rw [if_neg long]
    have fits : length ≤ longestText := Nat.le_of_not_lt long
    rcases draw_cases filled length e with ⟨n, s, needed, full, drawn⟩ | ⟨short, drawn⟩
    · rw [drawn]
      exact .enough fits needed full
    · rw [drawn]
      exact .short fits short

variable {filled}

/-- Characters from an alphabet of ASCII bytes are as many as the text should be long, and they are
the first that the random bytes stand for. -/
theorem Drawn.eq_take {length : Nat} {e rest : Entropy} {s : List Char}
    (h : Drawn filled length e (.ok s, rest)) (plain : ∀ a ∈ alphabet, a < 128) :
    s = (characters filled e.flatten).take length ∧ s.length = length := by
  cases h with
  | @enough n _ fits needed full =>
    have single : ∀ c ∈ characters filled (e.take n).flatten, c.utf8Size = 1 := fun c mem =>
      utf8Size_of_mem_characters filled plain mem
    have enough : length ≤ (characters filled (e.take n).flatten).length :=
      byteSize_of_plain single ▸ needed.1
    have whole : characters filled e.flatten =
        characters filled (e.take n).flatten ++ characters filled (e.drop n).flatten := by
      rw [← characters_append, ← List.flatten_append, List.take_append_drop]
    rw [full.eq_take single enough, whole, List.take_append_of_le_length enough, List.length_take]
    exact ⟨rfl, Nat.min_eq_left enough⟩

theorem Drawn.known {length : Nat} {e rest : Entropy} {s : List Char}
    (h : Drawn filled length e (.ok s, rest)) : ∀ c ∈ s, c ∈ alphabet.map Char.ofUInt8 := by
  cases h with
  | enough fits needed full =>
    exact fun c mem => mem_of_mem_characters filled (full.isPrefix.subset mem)

end

/-! ## ASCII alphabets -/

section

variable {kind : List Char} (plain : ∀ c ∈ kind, c.toNat < 128)

include plain

theorem toNat_toUInt8 {c : Char} (mem : c ∈ kind) : c.toUInt8.toNat = c.toNat := by
  have below := plain c mem
  have same : c.toUInt8.toNat = c.toNat % 256 := UInt32.toNat_toUInt8 c.val
  omega

theorem ascii_lt : ∀ a ∈ ascii kind, a < 128 := by
  intro a mem
  obtain ⟨c, known, rfl⟩ := List.mem_map.mp mem
  rw [UInt8.lt_iff_toNat_lt, toNat_toUInt8 plain known]
  exact plain c known

/-- The bytes of ASCII characters stand for these characters. -/
theorem map_ofUInt8_ascii : (ascii kind).map Char.ofUInt8 = kind := by
  unfold ascii
  rw [List.map_map]
  refine (List.map_congr_left fun c mem => ?_).trans (List.map_id kind)
  refine Char.ext (UInt32.toNat_inj.mp ?_)
  calc (Char.ofUInt8 c.toUInt8).toNat
      = c.toUInt8.toNat := UInt8.toNat_toUInt32 _
    _ = c.toNat := toNat_toUInt8 plain mem

/-- A text of ASCII characters has the length that it should have, and no other characters. -/
theorem Drawn.text_eq {filled : 0 < (ascii kind).length} {length : Nat} {e rest : Entropy}
    {s : List Char} (h : Drawn filled length e (.ok s, rest)) :
    s.length = length ∧ ∀ c ∈ s, c ∈ kind := by
  refine ⟨(h.eq_take (ascii_lt plain)).2, fun c mem => ?_⟩
  have known := h.known c mem
  rwa [map_ofUInt8_ascii plain] at known

end

end Password

/-! ## Passwords -/

namespace PasswordPolicy

open Password

variable {p : PasswordPolicy} {e rest : Entropy}

theorem alphabet_filled (p : PasswordPolicy) : 0 < p.alphabet.length := by
  have letter : 'A' ∈ upper := by decide
  have kind : upper ∈ p.classes := List.mem_cons_self
  exact List.length_pos_of_mem
    (List.mem_map_of_mem (List.mem_flatten.mpr ⟨upper, kind, letter⟩))

/-- Characters of any kind are ASCII characters. -/
theorem classes_plain (p : PasswordPolicy) : ∀ c ∈ p.classes.flatten, c.toNat < 128 := by
  have plain : ∀ symbols, (classes ⟨0, symbols⟩).flatten.all (·.toNat < 128) = true := by decide
  exact fun c mem => of_decide_eq_true (List.all_eq_true.mp (plain p.symbols) c mem)

/-- So many texts were drawn one after the other, and each lacks some kind of character. -/
inductive Missed (p : PasswordPolicy) : Nat → Entropy → Entropy → Prop
  | none (e : Entropy) : Missed p 0 e e
  | next {n : Nat} {e e₁ e' : Entropy} {s : List Char}
      (drawn : Drawn p.alphabet_filled p.length e (.ok s, e₁)) (lacking : p.isSatisfiedBy s = false)
      (later : Missed p n e₁ e') : Missed p (n + 1) e e'

/-- What becomes of making up a password in so many rounds. -/
inductive Tried (p : PasswordPolicy) (rounds : Nat) (e : Entropy) : Outcome Secret × Entropy → Prop
  | made {n : Nat} {e₁ rest : Entropy} {s : List Char} (missed : p.Missed n e e₁)
      (inTime : n < rounds) (drawn : Drawn p.alphabet_filled p.length e₁ (.ok s, rest))
      (satisfied : p.isSatisfiedBy s = true) :
    Tried p rounds e (.ok (.ofString (String.ofList s)), rest)
  | dry {n : Nat} {e₁ : Entropy} {fault : AccessError} (missed : p.Missed n e e₁)
      (inTime : n < rounds) (drawn : Drawn p.alphabet_filled p.length e₁ (.failed fault, [])) :
    Tried p rounds e (.failed fault, [])
  | unlucky {rest : Entropy} (missed : p.Missed rounds e rest) :
    Tried p rounds e
      (.failed (.random "could not draw a password covering every character class"), rest)
  | boundless (long : longestText < p.length) : Tried p rounds e (.aborted, e)

theorem Tried.next {rounds : Nat} {e₁ : Entropy} {s : List Char} {found : Outcome Secret × Entropy}
    (drawn : Drawn p.alphabet_filled p.length e (.ok s, e₁)) (lacking : p.isSatisfiedBy s = false)
    (later : p.Tried rounds e₁ found) : p.Tried (rounds + 1) e found := by
  cases later with
  | made missed inTime drawn' satisfied =>
    exact .made (.next drawn lacking missed) (Nat.succ_lt_succ inTime) drawn' satisfied
  | dry missed inTime drawn' =>
    exact .dry (.next drawn lacking missed) (Nat.succ_lt_succ inTime) drawn'
  | unlucky missed => exact .unlucky (.next drawn lacking missed)
  | boundless long =>
    cases drawn with
    | enough fits => exact absurd long (Nat.not_lt.mpr fits)

theorem attempt_tried (p : PasswordPolicy) (rounds : Nat) (e : Entropy) :
    p.Tried rounds e (p.attempt rounds e) := by
  induction rounds generalizing e with
  | zero => exact .unlucky (.none e)
  | succ rounds ih =>
    have drawn := text_drawn p.alphabet_filled p.length e
    unfold attempt
    rcases found : text p.alphabet p.length e with ⟨s | fault | _ | _, rest⟩ <;> rw [found] at drawn
    · dsimp only
      split
      next satisfied => exact .made (.none e) (Nat.succ_pos rounds) drawn satisfied
      next lacking => exact .next drawn (by simpa using lacking) (ih rest)
    · cases drawn with
      | short fits short => exact .dry (.none e) (Nat.succ_pos rounds) (.short fits short)
    · cases drawn with
      | boundless long => exact .boundless long
    · cases drawn

/-- A password as the policy wants it. -/
structure Covers (p : PasswordPolicy) (s : Secret) : Prop where
  length : s.expose.length = p.length
  bytes : s.expose.utf8ByteSize = p.length
  known : ∀ c ∈ s.expose.toList, ∃ kind ∈ p.classes, c ∈ kind
  every : ∀ kind ∈ p.classes, ∃ c ∈ s.expose.toList, c ∈ kind

theorem covers_of_drawn {s : List Char} (drawn : Drawn p.alphabet_filled p.length e (.ok s, rest))
    (satisfied : p.isSatisfiedBy s = true) : p.Covers (.ofString (String.ofList s)) := by
  obtain ⟨length, known⟩ := drawn.text_eq p.classes_plain
  have same : (Secret.ofString (String.ofList s)).expose.toList = s := String.toList_ofList
  refine ⟨?_, ?_, ?_, ?_⟩
  · rw [← String.length_toList, same, length]
  · rw [← length, ← byteSize_of_plain fun c mem => utf8Size_of_lt (p.classes_plain c (known c mem))]
    exact utf8ByteSize_ofList s
  · rw [same]
    exact fun c mem => List.mem_flatten.mp (known c mem)
  · rw [same]
    simpa [isSatisfiedBy] using satisfied

/-- What becomes of making up a password. -/
structure Generated (p : PasswordPolicy) (e : Entropy) (found : Outcome Secret × Entropy) :
    Prop where
  /-- Nothing is drawn if there is no room for all kinds of characters. -/
  narrow : p.length < p.classes.length → found = (.failed (.invalidSettings
    s!"password length {p.length} cannot cover {p.classes.length} character classes"), e)
  tried : p.classes.length ≤ p.length → p.Tried maxRounds e found
  covers : ∀ s rest, found = (.ok s, rest) → p.Covers s

theorem generate_generated (p : PasswordPolicy) (e : Entropy) : p.Generated e (p.generate e) := by
  unfold generate
  by_cases short : p.length < p.classes.length
  · rw [if_pos short]
    exact ⟨fun _ => rfl, fun room => absurd short (Nat.not_lt.mpr room), nofun⟩
  · rw [if_neg short]
    have tried := p.attempt_tried maxRounds e
    refine ⟨fun narrow => absurd narrow short, fun _ => tried, fun s rest made => ?_⟩
    rw [made] at tried
    cases tried with
    | made _ _ drawn satisfied => exact covers_of_drawn drawn satisfied

end PasswordPolicy

/-- The bytes are shared out evenly, with as few as possible thrown away. A text consists of the
first characters that the bytes of the blocks stand for, and no more blocks are drawn than it needs;
it fails if they run out before. Characters of an ASCII alphabet take one byte each, so that there
are as many of them as the text should be long. So a password has the length of its policy, and
characters of every kind and of no other, and nothing is drawn for a policy that has too little
room. -/
theorem Password.evenly_drawn {alphabet : List UInt8} (filled : 0 < alphabet.length) :
    (IsGreatest {n | alphabet.length ∣ n ∧ n ≤ 256} (threshold alphabet.length) ∧
      ∀ place < alphabet.length,
        ((Finset.range 256).filter fun byte =>
          byte < threshold alphabet.length ∧ byte % alphabet.length = place).card =
            threshold alphabet.length / alphabet.length) ∧
      (∀ length e, Drawn filled length e (text alphabet length e)) ∧
      ((∀ a ∈ alphabet, a < 128) →
        (∀ bytes, byteSize (characters filled bytes) = (characters filled bytes).length) ∧
          ∀ length e s rest, text alphabet length e = (.ok s, rest) →
            s = (characters filled e.flatten).take length ∧ s.length = length) ∧
      ∀ (p : PasswordPolicy) e, p.Generated e (p.generate e) := by
  refine ⟨⟨threshold_isGreatest filled, fun _ => card_bytes⟩, text_drawn filled,
    fun plain => ⟨fun bytes => ?_, fun length e s rest found => ?_⟩,
    PasswordPolicy.generate_generated⟩
  · exact byteSize_of_plain fun c mem => utf8Size_of_mem_characters filled plain mem
  · have drawn := text_drawn filled length e
    rw [found] at drawn
    exact drawn.eq_take plain

/-- Of three characters each has 85 bytes, and the byte 255 is thrown away. The second block is not
needed to its end, and the third one not at all. -/
theorem Password.evenly_drawn_three :
    0 < (ascii ['a', 'b', 'c']).length ∧ (∀ a ∈ ascii ['a', 'b', 'c'], a < 128) ∧
      threshold 3 / 3 = 85 ∧
      text (ascii ['a', 'b', 'c']) 3 [[255, 4], [255, 3, 254, 7], [0]] =
        (.ok ['b', 'a', 'c'], [[0]]) ∧
      ['b', 'a', 'c'] = (characters (show 0 < (ascii ['a', 'b', 'c']).length by decide)
        [255, 4, 255, 3, 254, 7, 0]).take 3 := by
  have filled : 0 < (ascii ['a', 'b', 'c']).length := by decide
  have plain : ∀ a ∈ ascii ['a', 'b', 'c'], a < 128 := ascii_lt (by simp)
  obtain ⟨-, -, counted, -⟩ := evenly_drawn filled
  have found : text (ascii ['a', 'b', 'c']) 3 [[255, 4], [255, 3, 254, 7], [0]] =
      (.ok ['b', 'a', 'c'], [[0]]) := rfl
  exact ⟨filled, plain, rfl, found, ((counted plain).2 3 _ _ _ found).1⟩

/-- The length of a text is counted in bytes, so that of characters of two bytes each there is one
where two are wanted, and where one is wanted there are all of the block. -/
theorem Password.text_of_wide_characters :
    ¬ (∀ (alphabet : List UInt8) (filled : 0 < alphabet.length) length e s rest,
      text alphabet length e = (.ok s, rest) → s = (characters filled e.flatten).take length) ∧
      text [0xE9] 2 [List.replicate 64 0] = (.ok ['é'], []) ∧
      text [0xE9] 1 [List.replicate 64 0] = (.ok (List.replicate 64 'é'), []) := by
  have one : text [0xE9] 2 [List.replicate 64 0] = (.ok ['é'], []) := rfl
  refine ⟨fun counted => ?_, one, rfl⟩
  have two := counted [0xE9] (by decide) 2 _ _ _ one
  exact absurd two (by decide)

end ClusterAccess
