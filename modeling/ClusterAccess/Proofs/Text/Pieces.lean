import ClusterAccess.Text.Blank
import Mathlib.Data.List.Basic
import Mathlib.Data.List.TakeWhile

/-!
# Texts that are cut and trimmed

A text is cut at every place where a character stands, so that no piece has it. What is left of a
text that is trimmed is the only text without a blank at either end that stands there with nothing
but blanks around it.

## Main definitions

* `Blank`: texts of blanks.
* `Trimmed`: texts without a blank at either end.
* `Spaced`: a text with blanks around it.

## Main statements

* `not_mem_of_mem_splitOn`: the pieces of a text that is cut.
* `mem_intercalate_iff`: the characters of a text that is joined.
* `trim_eq_iff`: what is left of a text that is trimmed.
-/
namespace ClusterAccess.Text

variable {a c : Char} {s t text piece : List Char} {pieces : List (List Char)}

/-! ## Cutting -/

/-- The pieces of a text do not have the character at which it was cut. -/
theorem not_mem_of_mem_splitOn (mem : piece ∈ text.splitOn a) : a ∉ piece := by
  induction text generalizing piece with
  | nil =>
    rw [List.splitOn_nil, List.mem_singleton] at mem
    simp [mem]
  | cons c text ih =>
    rw [List.splitOn_cons_eq_if_modifyHead] at mem
    split at mem
    next =>
      rcases List.mem_cons.mp mem with rfl | mem
      · simp
      · exact ih mem
    next other =>
      cases pieces : text.splitOn a with
      | nil => exact absurd pieces (List.splitOn_ne_nil _ _)
      | cons first rest =>
        rw [pieces] at mem ih
        rcases List.mem_cons.mp mem with rfl | mem
        · have inFirst := ih List.mem_cons_self
          simp only [List.mem_cons, not_or]
          exact ⟨fun same => other (by simp [same]), inFirst⟩
        · exact ih (List.mem_cons_of_mem _ mem)

/-- A text that is joined has the characters of its pieces, and between them the one that joins. -/
theorem mem_intercalate_iff : c ∈ [a].intercalate pieces ↔
    (∃ piece ∈ pieces, c ∈ piece) ∨ c = a ∧ 2 ≤ pieces.length := by
  induction pieces with
  | nil => simp
  | cons first pieces ih =>
    cases pieces with
    | nil => simp
    | cons second pieces =>
      rw [List.intercalate_cons_cons, List.mem_append, List.mem_append, List.mem_singleton, ih]
      simp only [List.mem_cons, exists_eq_or_imp, List.length_cons]
      grind

/-! ## Trimming -/

/-- Nothing but blanks. -/
def Blank (s : List Char) : Prop := ∀ c ∈ s, isBlank c = true

/-- No blank at either end. -/
structure Trimmed (s : List Char) : Prop where
  first : ∀ c ∈ s.head?, isBlank c = false
  last : ∀ c ∈ s.getLast?, isBlank c = false

/-- The text with blanks around it. -/
inductive Spaced (s : List Char) : List Char → Prop
  | around {before after : List Char} (blankBefore : Blank before) (blankAfter : Blank after) :
      Spaced s (before ++ s ++ after)

theorem Trimmed.of_forall (h : ∀ c ∈ s, isBlank c = false) : Trimmed s where
  first c mem := h c (List.mem_of_mem_head? mem)
  last c mem := h c (List.mem_of_mem_getLast? mem)

theorem Spaced.mem (h : Spaced s text) (mem : c ∈ s) : c ∈ text := by
  cases h
  simp [mem]

theorem Spaced.of_mem (h : Spaced s text) (mem : c ∈ text) : isBlank c = true ∨ c ∈ s := by
  obtain ⟨blankBefore, blankAfter⟩ := h
  rw [List.mem_append, List.mem_append] at mem
  rcases mem with (mem | mem) | mem
  · exact .inl (blankBefore c mem)
  · exact .inr mem
  · exact .inl (blankAfter c mem)

theorem Spaced.of_blank (h : Blank s) : Spaced [] s := by
  have around : Spaced [] (s ++ [] ++ []) := .around h (by simp [Blank])
  rwa [List.append_nil, List.append_nil] at around

theorem Spaced.blank (h : Spaced [] s) : Blank s := fun _ mem =>
  (h.of_mem mem).resolve_right List.not_mem_nil

theorem trimStart_eq_iff : trimStart s = t ↔
    (∀ c ∈ t.head?, isBlank c = false) ∧ ∃ before, Blank before ∧ s = before ++ t := by
  constructor
  · rintro rfl
    refine ⟨fun c first => ?_, s.takeWhile isBlank, fun c => List.mem_takeWhile_imp,
      List.takeWhile_append_dropWhile.symm⟩
    have noBlank := List.head?_dropWhile_not isBlank s
    rwa [show (s.dropWhile isBlank).head? = some c from first] at noBlank
  · rintro ⟨noBlank, before, blank, rfl⟩
    rw [trimStart, List.dropWhile_append_of_pos blank]
    cases t with
    | nil => rfl
    | cons c t =>
      exact List.dropWhile_cons_of_neg (by rw [noBlank c rfl]; exact Bool.false_ne_true)

theorem trimEnd_eq_iff : trimEnd s = t ↔
    (∀ c ∈ t.getLast?, isBlank c = false) ∧ ∃ after, Blank after ∧ s = t ++ after := by
  have reversed : trimEnd s = t ↔ trimStart s.reverse = t.reverse := by
    rw [trimEnd, trimStart, List.reverse_eq_iff]
  rw [reversed, trimStart_eq_iff, List.head?_reverse]
  refine and_congr_right fun _ => ⟨?_, ?_⟩
  · rintro ⟨before, blank, split⟩
    refine ⟨before.reverse, fun c mem => blank c (List.mem_reverse.mp mem), ?_⟩
    rw [← List.reverse_inj, split, List.reverse_append, List.reverse_reverse]
  · rintro ⟨after, blank, rfl⟩
    exact ⟨after.reverse, fun c mem => blank c (List.mem_reverse.mp mem), List.reverse_append⟩

/-- What is left has no blank at either end, and what is gone was blank. -/
theorem trim_eq_iff : trim s = t ↔ Trimmed t ∧ Spaced t s := by
  constructor
  · intro trimmed
    obtain ⟨last, after, blankAfter, rest⟩ := trimEnd_eq_iff.mp trimmed
    obtain ⟨first, before, blankBefore, whole⟩ := trimStart_eq_iff.mp (rfl : trimStart s = _)
    rw [rest] at first whole
    rw [whole, ← List.append_assoc]
    refine ⟨⟨fun c mem => first c ?_, last⟩, .around blankBefore blankAfter⟩
    rw [List.head?_append, mem]
    rfl
  · rintro ⟨⟨first, last⟩, spaced⟩
    -- Where nothing is left, all blanks are in front, so that those behind do not matter.
    by_cases nothing : t = []
    · subst nothing
      have blank : trimStart s = [] := List.dropWhile_eq_nil_iff.mpr spaced.blank
      rw [trim, blank]
      rfl
    · cases spaced with
      | @around before after blankBefore blankAfter =>
        have inFront : trimStart (before ++ t ++ after) = t ++ after := by
          refine trimStart_eq_iff.mpr ⟨?_, before, blankBefore, List.append_assoc _ _ _⟩
          rwa [List.head?_append_of_ne_nil t nothing]
        rw [trim, inFront]
        exact trimEnd_eq_iff.mpr ⟨last, after, blankAfter, rfl⟩

end ClusterAccess.Text
