import ClusterAccess.Proofs.Time.Reading
import Mathlib.Algebra.GroupWithZero.Nat

/-!
# The strict form of a timestamp

A timestamp in the strict form has four digits for the year and two for each other part, with fixed
marks between them, then a fraction or none, and a zone. The lenient reader reads such a text, too,
and reads the same.

## Main definitions

* `Timestamp.Digits`, `Timestamp.FractionText`, `Timestamp.ZoneText`: the parts of the form.
* `Timestamp.StrictText`, `Timestamp.IsStrict`: the form, and the timestamp that it denotes.
* `Timestamp.whole`: an instant to the second.

## Main statements

* `Timestamp.parse?_eq_some_iff`, `Timestamp.parse?_eq_none_iff`: the strict reader reads this form
  and nothing else.
* `Timestamp.StrictText.parseLoosely?_eq`: the lenient reader reads the same.
* `Timestamp.strictText_renderWhole`: instants are written to the second in this form, if their year
  has four digits.
-/
namespace ClusterAccess.Time.Timestamp

open Text Text.Numeral

/-! ## The form -/

/-- A numeral with so many digits. -/
structure Digits (width : Nat) (s : List Char) (n : Nat) : Prop where
  all : s.all isDigit = true
  length : s.length = width
  value : Numeral.value 0 s = n

/-- Nothing, or a point and digits, of which nine count. -/
inductive FractionText : List Char → Nat → Prop
  | none : FractionText [] 0
  | digits {s : List Char} (all : s.all isDigit = true) (nonempty : s ≠ []) :
      FractionText ('.' :: s) (value 0 (s.take 9) * 10 ^ (9 - (s.take 9).length))

/-- The letter, or a sign, hours and minutes. -/
inductive ZoneText : List Char → Int → Prop
  | letter {c : Char} (isLetter : c = 'Z' ∨ c = 'z') : ZoneText [c] 0
  | ahead {hh mm : List Char} {hours minutes : Nat} (hoursText : Digits 2 hh hours)
      (minutesText : Digits 2 mm minutes) (small : minutes ≤ 59) :
      ZoneText ('+' :: (hh ++ ':' :: mm)) (hours * 3600 + minutes * 60)
  | behind {c : Char} {hh mm : List Char} {hours minutes : Nat} (minus : c = '-' ∨ c = '\u2212')
      (hoursText : Digits 2 hh hours) (minutesText : Digits 2 mm minutes) (small : minutes ≤ 59) :
      ZoneText (c :: (hh ++ ':' :: mm)) (-(hours * 3600 + minutes * 60))

/-- A date, a time of day with a fraction or none, and a zone, for an instant that there is. -/
inductive StrictText : List Char → Timestamp → Prop
  | intro {yyyy mo dd hh mi ss fraction zone : List Char} {separator : Char}
      {year month day hour minute second nanos : Nat} {offset : Int} {t : Timestamp}
      (yearText : Digits 4 yyyy year) (monthText : Digits 2 mo month) (dayText : Digits 2 dd day)
      (separated : separator = 'T' ∨ separator = 't' ∨ separator = ' ')
      (hourText : Digits 2 hh hour) (minuteText : Digits 2 mi minute)
      (secondText : Digits 2 ss second) (fractionText : FractionText fraction nanos)
      (zoneText : ZoneText zone offset)
      (denotes : Written.toTimestamp? ⟨⟨year, month, day⟩, hour, minute, second, nanos⟩ offset =
        some t) :
      StrictText (yyyy ++ '-' :: (mo ++ '-' :: (dd ++ separator :: (hh ++ ':' :: (mi ++ ':' ::
        (ss ++ (fraction ++ zone))))))) t

/-- A text in the strict form. -/
def IsStrict (text : String) : Prop := ∃ t, StrictText text.toList t

/-! ## Reading the parts -/

variable {s rest : List Char} {n : Nat}

theorem Digits.ne_nil {width : Nat} (h : Digits (width + 1) s n) : s ≠ [] := by
  rintro rfl
  cases h.length

theorem Digits.numeral_of_le {width least : Nat} (h : Digits width s n) (le : least ≤ width)
    (rest : List Char) : numeral least width (s ++ rest) = some (n, rest) := by
  have length := h.length
  rw [numeral_append h.all (by omega) (by omega) (.inl length), h.value]

theorem Digits.numeral_eq {width : Nat} (h : Digits width s n) (rest : List Char) :
    numeral width width (s ++ rest) = some (n, rest) := h.numeral_of_le (Nat.le_refl width) rest

/-- What is read as a numeral are digits in front of the rest. -/
theorem exists_of_numeral {width : Nat} (h : numeral width width s = some (n, rest)) :
    ∃ digits, Digits width digits n ∧ s = digits ++ rest := by
  unfold numeral at h
  generalize taken : (s.take width).takeWhile isDigit = digits at h
  dsimp only at h
  split at h
  · cases h
  next enough =>
    obtain ⟨rfl, rfl⟩ := Prod.mk.inj (Option.some.inj h)
    have isPrefix : digits <+: s := by
      rw [← taken]
      exact (List.takeWhile_prefix _).trans (List.take_prefix _ _)
    have short : digits.length ≤ width := by
      have bound := isPrefix.length_le
      have := (List.takeWhile_prefix isDigit (l := s.take width)).length_le
      rw [taken, List.length_take] at this
      omega
    refine ⟨digits, ⟨?_, by omega, rfl⟩, ?_⟩
    · rw [← taken]
      exact List.all_takeWhile
    · obtain ⟨more, rfl⟩ := isPrefix
      rw [List.drop_left]

theorem mark_eq_some_iff {c : Char} {s rest : List Char} {u : Unit} :
    mark c s = some (u, rest) ↔ s = c :: rest := by
  cases s with
  | nil => simp [mark]
  | cons d s => by_cases same : d = c <;> simp [mark, same]

theorem separator_eq_some_iff {u : Unit} : separator s = some (u, rest) ↔
    ∃ c, (c = 'T' ∨ c = 't' ∨ c = ' ') ∧ s = c :: rest := by
  cases s with
  | nil => simp [separator]
  | cons d s => simp only [separator]; grind

/-- How a zone begins. -/
theorem ZoneText.exists_cons {offset : Int} (h : ZoneText s offset) :
    ∃ c more, s = c :: more ∧ isDigit c = false ∧ c ≠ '.' ∧ isBlank c = false ∧ c ≠ 'U' ∧
      c ≠ 'u' := by
  cases h with
  | letter isLetter => rcases isLetter with rfl | rfl <;> exact ⟨_, _, rfl, by decide⟩
  | ahead => exact ⟨_, _, rfl, by decide⟩
  | behind minus => rcases minus with rfl | rfl <;> exact ⟨_, _, rfl, by decide⟩

/-! ### Fractions -/

theorem FractionText.fraction_eq {nanos : Nat} (h : FractionText s nanos) (stop : NoDigit rest)
    (noPoint : rest.head? ≠ some '.') : fraction (s ++ rest) = some (nanos, rest) := by
  cases h with
  | none =>
    rw [List.nil_append, fraction]
    rintro more rfl
    exact noPoint rfl
  | @digits s all nonempty =>
    simp only [List.cons_append, fraction, takeWhile_append all stop, List.drop_left]
    rw [if_neg (by simpa using nonempty)]
    rfl

theorem exists_of_fraction {nanos : Nat} (h : fraction s = some (nanos, rest)) :
    ∃ f, FractionText f nanos ∧ s = f ++ rest := by
  unfold fraction at h
  split at h
  next s =>
    dsimp only at h
    split at h
    · cases h
    next nonempty =>
      obtain ⟨rfl, rfl⟩ := Prod.mk.inj (Option.some.inj h)
      refine ⟨'.' :: s.takeWhile isDigit, .digits List.all_takeWhile (by simpa using nonempty), ?_⟩
      have split : s = s.takeWhile isDigit ++ s.drop (s.takeWhile isDigit).length := by
        obtain ⟨more, same⟩ := List.takeWhile_prefix isDigit (l := s)
        calc s = s.takeWhile isDigit ++ more := same.symm
          _ = s.takeWhile isDigit ++
              (s.takeWhile isDigit ++ more).drop (s.takeWhile isDigit).length := by
            rw [List.drop_left]
          _ = s.takeWhile isDigit ++ s.drop (s.takeWhile isDigit).length := by rw [same]
      rw [List.cons_append, ← split]
  · obtain ⟨rfl, rfl⟩ := Prod.mk.inj (Option.some.inj h)
    exact ⟨[], .none, rfl⟩

/-! ### Zones -/

/-- Hours and minutes, with what may stand between them. -/
theorem zoneOffset_eq {between : Scanner Unit} {c : Char} {hh mm : List Char} {hours minutes : Nat}
    (sign : c = '+' ∨ c = '-' ∨ c = '\u2212') (hoursText : Digits 2 hh hours)
    (minutesText : Digits 2 mm minutes) (small : minutes ≤ 59)
    (passed : ∀ rest, between (':' :: (mm ++ rest)) = some ((), mm ++ rest)) (rest : List Char) :
    zoneOffset between (c :: (hh ++ ':' :: mm) ++ rest) =
      some (if c = '+' then (hours * 3600 + minutes * 60 : Int) else -(hours * 3600 + minutes * 60),
        rest) := by
  have noLetter : c ≠ 'Z' ∧ c ≠ 'z' := by rcases sign with rfl | rfl | rfl <;> decide
  rw [List.cons_append, List.append_assoc, List.cons_append, zoneOffset]
  · simp only [sign, Bool.or_eq_true, decide_eq_true_eq, or_assoc, if_true, Option.bind_eq_bind,
      hoursText.numeral_eq, passed, minutesText.numeral_eq, Option.bind_some, small]
  · exact noLetter.1
  · exact noLetter.2

theorem ZoneText.zoneOffset_eq {offset : Int} (h : ZoneText s offset) (between : Scanner Unit)
    (passed : ∀ (c : Char) (more : List Char), isDigit c = true →
      between (':' :: c :: more) = some ((), c :: more)) (rest : List Char) :
    zoneOffset between (s ++ rest) = some (offset, rest) := by
  have colon {mm : List Char} {minutes : Nat} (text : Digits 2 mm minutes) (rest : List Char) :
      between (':' :: (mm ++ rest)) = some ((), mm ++ rest) := by
    obtain ⟨c, more, rfl⟩ := List.exists_cons_of_ne_nil text.ne_nil
    have all := text.all
    rw [List.all_cons, Bool.and_eq_true] at all
    exact passed c _ all.1
  cases h with
  | letter isLetter => rcases isLetter with rfl | rfl <;> rfl
  | ahead hoursText minutesText small =>
    rw [Timestamp.zoneOffset_eq (.inl rfl) hoursText minutesText small (colon minutesText),
      if_pos rfl]
  | behind minus hoursText minutesText small =>
    rw [Timestamp.zoneOffset_eq (.inr minus) hoursText minutesText small (colon minutesText),
      if_neg (by rcases minus with rfl | rfl <;> decide)]

theorem exists_of_zoneOffset {offset : Int} (h : zoneOffset (mark ':') s = some (offset, rest)) :
    ∃ z, ZoneText z offset ∧ s = z ++ rest := by
  unfold zoneOffset at h
  split at h
  · obtain ⟨rfl, rfl⟩ := Prod.mk.inj (Option.some.inj h)
    exact ⟨['Z'], .letter (.inl rfl), rfl⟩
  · obtain ⟨rfl, rfl⟩ := Prod.mk.inj (Option.some.inj h)
    exact ⟨['z'], .letter (.inr rfl), rfl⟩
  next c s _ _ =>
    split at h
    next sign =>
      simp only [Option.bind_eq_bind, Option.bind_eq_some_iff, Prod.exists] at h
      obtain ⟨hours, s₁, hoursRead, _, s₂, colon, minutes, s₃, minutesRead, h⟩ := h
      obtain ⟨hh, hoursText, rfl⟩ := exists_of_numeral hoursRead
      obtain rfl := mark_eq_some_iff.mp colon
      obtain ⟨mm, minutesText, rfl⟩ := exists_of_numeral minutesRead
      split at h
      next small =>
        obtain ⟨rfl, rfl⟩ := Prod.mk.inj (Option.some.inj h)
        refine ⟨c :: (hh ++ ':' :: mm), ?_, by simp⟩
        split
        next plus =>
          subst plus
          exact .ahead hoursText minutesText small
        next minus => exact .behind (by simpa [minus] using sign) hoursText minutesText small
      · cases h
    · cases h
  · cases h

/-- A zone does not go on with what a fraction has. -/
theorem ZoneText.fraction_eq {f : List Char} {nanos : Nat} {offset : Int} (h : ZoneText s offset)
    (fractionText : FractionText f nanos) : fraction (f ++ s) = some (nanos, s) := by
  obtain ⟨c, more, rfl, noDigit, noPoint, -⟩ := h.exists_cons
  apply fractionText.fraction_eq
  · exact noDigit_cons noDigit more
  · simpa using noPoint

/-! ## Reading the whole -/

/-- The strict reader reads this form and nothing else. -/
theorem parse?_eq_some_iff {text : String} {t : Timestamp} :
    parse? text = some t ↔ StrictText text.toList t := by
  constructor
  · intro h
    simp only [parse?, Option.bind_eq_bind, Option.bind_eq_some_iff, Prod.exists,
      Option.ite_none_right_eq_some, List.isEmpty_iff] at h
    obtain ⟨year, _, yearRead, _, _, dash, month, _, monthRead, _, _, dash', day, _, dayRead, _, _,
      separatorRead, hour, _, hourRead, _, _, colon, minute, _, minuteRead, _, _, colon', second, _,
      secondRead, nanos, _, fractionRead, offset, _, zoneRead, rfl, denotes⟩ := h
    obtain ⟨yyyy, yearText, same⟩ := exists_of_numeral yearRead
    obtain rfl := mark_eq_some_iff.mp dash
    obtain ⟨mo, monthText, rfl⟩ := exists_of_numeral monthRead
    obtain rfl := mark_eq_some_iff.mp dash'
    obtain ⟨dd, dayText, rfl⟩ := exists_of_numeral dayRead
    obtain ⟨c, separated, rfl⟩ := separator_eq_some_iff.mp separatorRead
    obtain ⟨hh, hourText, rfl⟩ := exists_of_numeral hourRead
    obtain rfl := mark_eq_some_iff.mp colon
    obtain ⟨mi, minuteText, rfl⟩ := exists_of_numeral minuteRead
    obtain rfl := mark_eq_some_iff.mp colon'
    obtain ⟨ss, secondText, rfl⟩ := exists_of_numeral secondRead
    obtain ⟨f, fractionText, rfl⟩ := exists_of_fraction fractionRead
    obtain ⟨z, zoneText, rfl⟩ := exists_of_zoneOffset zoneRead
    rw [same, List.append_nil]
    exact .intro yearText monthText dayText separated hourText minuteText secondText fractionText
      zoneText denotes
  · intro h
    generalize chars : text.toList = s at h
    cases h with
    | @intro yyyy mo dd hh mi ss f z c year month day hour minute second nanos offset _ yearText
        monthText dayText separated hourText minuteText secondText fractionText zoneText denotes =>
      have separatorRead (rest : List Char) : separator (c :: rest) = some ((), rest) :=
        separator_eq_some_iff.mpr ⟨c, separated, rfl⟩
      have markRead (c : Char) (rest : List Char) : mark c (c :: rest) = some ((), rest) :=
        mark_eq_some_iff.mpr rfl
      have zoneRead : zoneOffset (mark ':') z = some (offset, []) := by
        have read := zoneText.zoneOffset_eq (mark ':') (fun _ _ _ => markRead _ _) []
        rwa [List.append_nil] at read
      simp only [parse?, chars, Option.bind_eq_bind, yearText.numeral_eq, monthText.numeral_eq,
        dayText.numeral_eq, hourText.numeral_eq, minuteText.numeral_eq, secondText.numeral_eq,
        markRead, separatorRead, Option.bind_some, zoneText.fraction_eq fractionText, zoneRead,
        List.isEmpty_nil, if_true, denotes]

theorem parse?_eq_none_iff {text : String} : parse? text = none ↔ ¬ IsStrict text := by
  rw [Option.eq_none_iff_forall_ne_some]
  simp only [ne_eq, parse?_eq_some_iff, IsStrict, not_exists]

/-- The lenient reader reads the same. -/
theorem StrictText.parseLoosely?_eq {text : String} {t : Timestamp}
    (h : StrictText text.toList t) : parseLoosely? text = some t := by
  generalize chars : text.toList = s at h
  cases h with
  | @intro yyyy mo dd hh mi ss f z c year month day hour minute second nanos offset _ yearText
      monthText dayText separated hourText minuteText secondText fractionText zoneText denotes =>
    have numeralRead {digits : List Char} {n : Nat} (text : Digits 2 digits n) (rest : List Char) :
        looseNumeral (digits ++ rest) = some (n, rest) := by
      rw [looseNumeral, trimStart_append text.ne_nil text.all, text.numeral_of_le (by omega)]
    have yearRead (rest : List Char) :
        looseYear (yyyy ++ '-' :: rest) = some (↑year, '-' :: rest) := by
      rw [looseYear_digits yearText.all yearText.ne_nil (Nat.le_of_eq yearText.length)
        (noDigit_cons (by decide) rest), yearText.value]
    have separatorRead (rest : List Char) : separator (c :: rest) = some ((), rest) :=
      separator_eq_some_iff.mpr ⟨c, separated, rfl⟩
    have dash : isBlank '-' = false := by decide
    have colon : isBlank ':' = false := by decide
    have zoneRead : looseOffset (trimStart z) = some (offset, []) := by
      obtain ⟨first, more, zone, -, -, noBlank, noName⟩ := zoneText.exists_cons
      have trimmed : trimStart z = z := by
        rw [zone, trimStart, List.dropWhile_cons_of_neg (by simp [noBlank])]
      have unnamed : looseOffset z = zoneOffset looseColon z := by
        rw [zone]
        unfold looseOffset
        split
        next same =>
          obtain ⟨rfl, -⟩ := List.cons.inj same
          rw [if_neg (by simp [noName])]
        next => rfl
      have read := zoneText.zoneOffset_eq looseColon ?_ []
      · rwa [List.append_nil, ← unnamed, ← trimmed] at read
      · intro d others isDigit
        have noColon : (d == ':' || isBlank d) = false := by
          obtain ⟨k, small, rfl⟩ := exists_digitChar isDigit
          revert k
          decide
        simp [looseColon, noColon]
    have ended : (trimStart []).isEmpty = true := rfl
    simp only [parseLoosely?, chars, Option.bind_eq_bind, yearRead, looseMark_cons dash,
      looseMark_cons colon, numeralRead monthText, numeralRead dayText, numeralRead hourText,
      numeralRead minuteText, numeralRead secondText, separatorRead, Option.bind_some,
      zoneText.fraction_eq fractionText, zoneRead, ended, if_true, denotes]

/-! ## Whole seconds -/

/-- An instant without the fraction of its second. -/
def whole (t : Timestamp) : Timestamp := { t with nanos := t.nanos / 1000000000 * 1000000000 }

theorem instant_whole (t : Timestamp) :
    t.whole.instant = t.instant / 1000000000 * 1000000000 := by
  simp only [instant, whole]
  omega

theorem IsRepresentable.whole {t : Timestamp} (h : t.IsRepresentable) :
    t.whole.IsRepresentable := by
  refine ⟨h.1, ?_⟩
  have bound := h.2
  simp only [Timestamp.whole]
  omega

theorem renderWhole_eq (t : Timestamp) : t.renderWhole = t.whole.render .letter := by
  have leap : t.whole.nanos / 1000000000 = t.nanos / 1000000000 := by
    simp only [whole]
    omega
  have noFraction : t.whole.renderFraction = [] := by
    have none : t.whole.nanos % 1000000000 = 0 := Nat.mul_mod_left _ _
    simp only [renderFraction, none, if_true]
  have same : t.whole.renderSeconds = t.renderSeconds := by
    simp only [renderSeconds, leap]
    rfl
  rw [renderWhole, render, same, noFraction, List.append_nil]

/-- The lenient reader finds the second of a timestamp that is written without its fraction. -/
theorem parseLoosely?_renderWhole {t : Timestamp} (h : t.IsRepresentable) :
    parseLoosely? t.renderWhole = some t.whole.settled := by
  rw [renderWhole_eq, parseLoosely?_render h.whole]

theorem digits_padded {width : Nat} (positive : 0 < width) (small : n < 10 ^ width) :
    Digits width (padded width n) n where
  all := all_isDigit_padded width n
  length := length_padded positive small
  value := value_padded width n

/-- Where the year has four digits the written form is the strict one. -/
theorem strictText_renderWhole {t : Timestamp} (h : t.IsRepresentable) (begun : 0 ≤ t.date.year)
    (short : t.date.year ≤ 9999) : StrictText t.renderWhole.toList t.whole.settled := by
  obtain ⟨month, day⟩ := Date.two_digits_of_isValid (isValid_date h.1)
  obtain ⟨hour, minute, second⟩ : (t.seconds % secondsPerDay).toNat / 3600 < 100 ∧
      (t.seconds % secondsPerDay).toNat / 60 % 60 < 100 ∧
      (t.seconds % secondsPerDay).toNat % 60 + t.nanos / 1000000000 < 100 := by
    have bound := h.2
    unfold secondsPerDay
    omega
  obtain ⟨year, same⟩ := Int.eq_ofNat_of_zero_le begun
  have fourDigits : renderYear t.date.year = padded 4 year := by
    rw [renderYear, if_pos (by simp [begun, short]), same, Int.toNat_natCast]
  have denotes := toTimestamp?_date h.whole
  have date : t.whole.date = ⟨year, t.date.month, t.date.day⟩ := by
    rw [← same]
    rfl
  have leap : t.whole.nanos / 1000000000 = t.nanos / 1000000000 := Nat.mul_div_cancel _ (by decide)
  have noFraction : t.whole.nanos % 1000000000 = 0 := Nat.mul_mod_left _ _
  rw [date, leap, noFraction] at denotes
  have text := StrictText.intro (digits_padded (by decide) (by omega : year < 10 ^ 4))
    (digits_padded (by decide) month) (digits_padded (by decide) day) (.inl rfl)
    (digits_padded (by decide) hour) (digits_padded (by decide) minute)
    (digits_padded (by decide) second) .none (.letter (.inl rfl)) denotes
  simpa only [renderWhole, renderSeconds, fourDigits, String.toList_ofList, List.append_assoc,
    List.cons_append, List.nil_append, Zone.render] using text

end ClusterAccess.Time.Timestamp
