import ClusterAccess.Proofs.Text.Numerals
import ClusterAccess.Proofs.Time.Civil
import ClusterAccess.Time.Timestamp

/-!
# Reading a timestamp that was written

The lenient reader finds the instant of a written timestamp, in any year and with any fraction; and
whatever it reads is a timestamp that it would find again.

A leap second is read back as one at the end of a minute only. In the middle of a minute it is
written as the second after it, and that is what is read: the same instant, told differently.

## Main definitions

* `Timestamp.IsRepresentable`: the timestamps there can be.
* `Timestamp.instant`: the nanoseconds since the beginning of 1970.
* `Timestamp.settled`: the timestamp with a leap second at the end of a minute only.
* `Timestamp.NoDigit`: what may follow a numeral.

## Main statements

* `Timestamp.parseLoosely?_render`: what is read of a written timestamp.
* `Timestamp.instant_settled`, `Timestamp.settled_eq_self`: it is the same instant, and the same
  timestamp unless there is a leap second in the middle of a minute.
* `Timestamp.render_settled`: it is written in the same way.
* `Timestamp.of_parseLoosely?`: what is read of any text is representable and settled.
-/
namespace ClusterAccess.Time.Timestamp

open Text Text.Numeral

def IsRepresentable (t : Timestamp) : Prop := inRange t.seconds = true ∧ t.nanos < 2000000000

instance (t : Timestamp) : Decidable t.IsRepresentable :=
  inferInstanceAs (Decidable (_ ∧ _))

def instant (t : Timestamp) : Int := t.seconds * 1000000000 + t.nanos

def settled (t : Timestamp) : Timestamp :=
  if 1000000000 ≤ t.nanos ∧ t.seconds % 60 ≠ 59 then ⟨t.seconds + 1, t.nanos - 1000000000⟩ else t

theorem instant_settled (t : Timestamp) : t.settled.instant = t.instant := by
  unfold settled
  split
  · simp only [instant]
    omega
  · rfl

theorem settled_eq_self {t : Timestamp} (proper : t.nanos < 1000000000 ∨ t.seconds % 60 = 59) :
    t.settled = t := by
  rw [settled, if_neg]
  omega

/-! ## Numerals -/

variable {digits rest : List Char} {n : Nat}

/-- What follows a numeral is no further digit. -/
def NoDigit (rest : List Char) : Prop := ∀ c ∈ rest.head?, isDigit c = false

theorem noDigit_cons {c : Char} (h : isDigit c = false) (rest : List Char) :
    NoDigit (c :: rest) := by
  rintro d ⟨⟩
  exact h

theorem takeWhile_append (all : digits.all isDigit = true) (stop : NoDigit rest) :
    (digits ++ rest).takeWhile isDigit = digits := by
  rw [List.takeWhile_append_of_pos (List.all_eq_true.mp all)]
  cases rest with
  | nil => rw [List.takeWhile_nil, List.append_nil]
  | cons c rest => rw [List.takeWhile_cons_of_neg (by simp [stop c rfl]), List.append_nil]

/-- A numeral ends where no digit follows or no more digits are wanted. -/
theorem numeral_append {least most : Nat} (all : digits.all isDigit = true)
    (enough : least ≤ digits.length) (short : digits.length ≤ most)
    (ended : digits.length = most ∨ NoDigit rest) :
    numeral least most (digits ++ rest) = some (value 0 digits, rest) := by
  have taken : ((digits ++ rest).take most).takeWhile isDigit = digits := by
    rw [List.take_append, List.take_of_length_le short, takeWhile_append all]
    intro c first
    rw [List.head?_take] at first
    rcases ended with full | stop
    · simp [full] at first
    · split at first
      · cases first
      · exact stop c first
  simp only [numeral, taken, List.drop_left]
  rw [if_neg (by omega)]

theorem trimStart_append (nonempty : digits ≠ []) (all : digits.all isDigit = true) :
    trimStart (digits ++ rest) = digits ++ rest := by
  have noBlank : ∀ d < 10, isBlank (Nat.digitChar d) = false := by decide
  obtain ⟨c, digits, rfl⟩ := List.exists_cons_of_ne_nil nonempty
  rw [List.all_cons, Bool.and_eq_true] at all
  obtain ⟨d, small, rfl⟩ := exists_digitChar all.1
  rw [trimStart, List.cons_append, List.dropWhile_cons_of_neg]
  simp [noBlank d small]

theorem looseNumeral_padded (small : n < 100) (rest : List Char) :
    looseNumeral (padded 2 n ++ rest) = some (n, rest) := by
  have long : (padded 2 n).length = 2 := length_padded (by decide) small
  rw [looseNumeral, trimStart_append (padded_ne_nil 2 n) (all_isDigit_padded 2 n),
    numeral_append (all_isDigit_padded 2 n) (by omega) (by omega) (.inl long), value_padded]

theorem looseMark_cons {c : Char} (noBlank : isBlank c = false) (rest : List Char) :
    looseMark c (c :: rest) = some ((), rest) := by
  simp [looseMark, trimStart, noBlank, mark]

/-! ## Years -/

theorem looseYear_digits (all : digits.all isDigit = true) (nonempty : digits ≠ [])
    (short : digits.length ≤ 4) (stop : NoDigit rest) :
    looseYear (digits ++ rest) = some (↑(value 0 digits), rest) := by
  have enough : 1 ≤ digits.length := List.length_pos_iff.mpr nonempty
  -- A digit is neither of the two signs.
  have noSign {c : Char} {more : List Char} (first : digits ++ rest = c :: more) :
      isDigit c = true := by
    obtain ⟨d, others, rfl⟩ := List.exists_cons_of_ne_nil nonempty
    rw [List.all_cons, Bool.and_eq_true] at all
    rw [List.cons_append, List.cons.injEq] at first
    rw [← first.1, all.1]
  rw [looseYear, trimStart_append nonempty all]
  split
  next minus => exact absurd (noSign minus) (by decide)
  next plus => exact absurd (noSign plus) (by decide)
  next => rw [numeral_append all enough short (.inr stop), Option.map_some]

/-- After a sign there may be any number of digits. -/
theorem numeral_unbounded (all : digits.all isDigit = true) (nonempty : digits ≠ [])
    (stop : NoDigit rest) :
    numeral 1 (digits ++ rest).length (digits ++ rest) = some (value 0 digits, rest) :=
  numeral_append all (List.length_pos_iff.mpr nonempty) (by simp) (.inr stop)

theorem looseYear_minus (s : List Char) : looseYear ('-' :: s) =
    (numeral 1 s.length s).map fun (n, rest) => (-↑n, rest) := rfl

theorem looseYear_plus (s : List Char) : looseYear ('+' :: s) =
    (numeral 1 s.length s).map fun (n, rest) => (↑n, rest) := rfl

/-- A year is written with a sign if it does not have four digits. -/
theorem looseYear_renderYear (year : Int) (rest : List Char) :
    looseYear (renderYear year ++ '-' :: rest) = some (year, '-' :: rest) := by
  have stop : NoDigit ('-' :: rest) := noDigit_cons (by decide) rest
  by_cases four : 0 ≤ year ∧ year ≤ 9999
  · have small : year.toNat < 10000 := by omega
    have long : (padded 4 year.toNat).length = 4 := length_padded (by decide) small
    have written : renderYear year = padded 4 year.toNat := by simp [renderYear, four]
    rw [written, looseYear_digits (all_isDigit_padded 4 _) (padded_ne_nil 4 _)
      (Nat.le_of_eq long) stop, value_padded, Int.toNat_of_nonneg four.1]
  · have written : renderYear year =
        (if year < 0 then '-' else '+') :: padded 4 year.natAbs := by simp [renderYear, four]
    have digits := numeral_unbounded (all_isDigit_padded 4 _) (padded_ne_nil 4 year.natAbs) stop
    rw [value_padded] at digits
    rw [written, List.cons_append]
    split
    next negative =>
      have magnitude : (year.natAbs : Int) = -year := by omega
      simp only [looseYear_minus, digits, Option.map_some, magnitude, Int.neg_neg]
    next positive =>
      have magnitude : (year.natAbs : Int) = year := by omega
      simp only [looseYear_plus, digits, Option.map_some, magnitude]

/-! ## Fractions -/

theorem fraction_cons (all : digits.all isDigit = true) (nonempty : digits ≠ [])
    (short : digits.length ≤ 9) (stop : NoDigit rest) :
    fraction ('.' :: (digits ++ rest)) =
      some (value 0 digits * Nat.pow 10 (9 - digits.length), rest) := by
  simp only [fraction, takeWhile_append all stop, List.take_of_length_le short, List.drop_left]
  rw [if_neg (by simpa using nonempty)]

/-- A fraction has three, six or nine digits, and the rest of its digits are zeros. -/
theorem fraction_renderFraction (t : Timestamp) (rest : List Char) :
    fraction (t.renderFraction ++ 'Z' :: rest) = some (t.nanos % 1000000000, 'Z' :: rest) := by
  have stop : NoDigit ('Z' :: rest) := noDigit_cons (by decide) rest
  have written {width n : Nat} (positive : 0 < width) (short : width ≤ 9) (small : n < 10 ^ width) :
      fraction ('.' :: padded width n ++ 'Z' :: rest) =
        some (n * 10 ^ (9 - width), 'Z' :: rest) := by
    have long : (padded width n).length = width := length_padded positive small
    rw [List.cons_append, fraction_cons (all_isDigit_padded width n) (padded_ne_nil width n)
      (by omega) stop, value_padded, long]
    rfl
  simp only [renderFraction]
  split
  next none => simp [fraction, none]
  split
  next thousandths =>
    rw [written (by decide) (by decide) (by omega)]
    congr 2
    omega
  split
  next millionths =>
    rw [written (by decide) (by decide) (by omega)]
    congr 2
    omega
  · rw [written (by decide) (by decide) (by omega), Nat.sub_self, Nat.pow_zero, Nat.mul_one]

/-! ## Timestamps -/

theorem isValid_date {t : Timestamp} (range : inRange t.seconds = true) :
    t.date.isValid = true := by
  simp only [inRange, Bool.and_eq_true, decide_eq_true_eq] at range
  exact Date.isValid_ofDays range.1 range.2

/-- The instant of a date and a time of day, where a sixtieth second is a leap second. -/
theorem toTimestamp?_eq {date : Date} {hour minute second nanos : Nat} {t : Timestamp}
    (valid : date.isValid = true) (hours : hour ≤ 23) (minutes : minute ≤ 59)
    (seconds : second ≤ 60)
    (total : t.seconds = date.toDays * secondsPerDay + hour * 3600 + minute * 60 + min second 59)
    (left : t.nanos = second / 60 * 1000000000 + nanos) (range : inRange t.seconds = true) :
    Written.toTimestamp? ⟨date, hour, minute, second, nanos⟩ 0 = some t := by
  have clipped : (if second = 60 then 59 else second) = min second 59 := by split <;> omega
  have sum : (if second = 60 then 1000000000 + nanos else nanos) = t.nanos := by
    split <;> omega
  simp only [Written.toTimestamp?, clipped, sum, Int.sub_zero, ← total, range, if_true]
  rw [if_pos]
  simp [valid, hours, minutes, seconds]

/-- A timestamp and what is read of it have one date. -/
theorem settled_day (t : Timestamp) :
    t.settled.seconds / secondsPerDay = t.seconds / secondsPerDay := by
  simp only [settled, secondsPerDay]
  split
  · dsimp only
    omega
  · rfl

theorem settled_seconds {t : Timestamp} (bound : t.nanos < 2000000000) :
    t.settled.seconds = t.seconds / 60 * 60 +
      min (t.seconds % 60 + t.nanos / 1000000000) 59 := by
  unfold settled
  split
  · dsimp only
    omega
  · omega

theorem settled_nanos {t : Timestamp} (bound : t.nanos < 2000000000) :
    (t.settled.nanos : Int) = (t.seconds % 60 + t.nanos / 1000000000) / 60 * 1000000000 +
      t.nanos % 1000000000 := by
  unfold settled
  split
  · dsimp only
    omega
  · omega

/-- The date and the time of day of an instant denote it. -/
theorem toTimestamp?_date {t : Timestamp} (h : t.IsRepresentable) :
    Written.toTimestamp? ⟨t.date, (t.seconds % secondsPerDay).toNat / 3600,
      (t.seconds % secondsPerDay).toNat / 60 % 60,
      (t.seconds % secondsPerDay).toNat % 60 + t.nanos / 1000000000, t.nanos % 1000000000⟩ 0 =
        some t.settled := by
  obtain ⟨range, bound⟩ := h
  have days : t.date.toDays = t.seconds / secondsPerDay := Date.toDays_ofDays _
  have valid := isValid_date range
  have seconds := settled_seconds bound
  have nanos := settled_nanos bound
  apply toTimestamp?_eq valid
  case hours => rw [secondsPerDay]; omega
  case minutes => omega
  case seconds => rw [secondsPerDay]; omega
  case total => rw [days, secondsPerDay]; omega
  case left => rw [secondsPerDay]; omega
  case range => rwa [inRange, settled_day]

/-- The lenient reader finds the instant of a written timestamp. -/
theorem parseLoosely?_render {t : Timestamp} (h : t.IsRepresentable) :
    parseLoosely? (t.render .letter) = some t.settled := by
  obtain ⟨month, day⟩ := Date.two_digits_of_isValid (isValid_date h.1)
  obtain ⟨hour, minute, second⟩ : (t.seconds % secondsPerDay).toNat / 3600 < 100 ∧
      (t.seconds % secondsPerDay).toNat / 60 % 60 < 100 ∧
      (t.seconds % secondsPerDay).toNat % 60 + t.nanos / 1000000000 < 100 := by
    have bound := h.2
    unfold secondsPerDay
    omega
  have dash : isBlank '-' = false := by decide
  have colon : isBlank ':' = false := by decide
  have separated (rest : List Char) : separator ('T' :: rest) = some ((), rest) := rfl
  have zone : looseOffset (trimStart ['Z']) = some (0, []) := by decide
  have ended : (trimStart []).isEmpty = true := rfl
  simp only [parseLoosely?, render, renderSeconds, Zone.render, String.toList_ofList,
    List.append_assoc, List.cons_append, Option.bind_eq_bind, Option.bind_some,
    looseYear_renderYear, looseMark_cons dash, looseMark_cons colon, looseNumeral_padded month,
    looseNumeral_padded day, looseNumeral_padded hour, looseNumeral_padded minute,
    looseNumeral_padded second, separated, fraction_renderFraction, zone, ended, if_true]
  exact toTimestamp?_date h

/-! ## Writing again -/

/-- What is read of a written timestamp is written in the same way. -/
theorem render_settled {t : Timestamp} (bound : t.nanos < 2000000000) (zone : Zone) :
    t.settled.render zone = t.render zone := by
  by_cases leap : 1000000000 ≤ t.nanos ∧ t.seconds % 60 ≠ 59
  · have later : t.settled = ⟨t.seconds + 1, t.nanos - 1000000000⟩ := by rw [settled, if_pos leap]
    have date : t.settled.date = t.date := by rw [date, date, settled_day]
    -- The minute goes on for another second, whose number the leap second is written with.
    have inMinute : (t.seconds % secondsPerDay).toNat % 60 ≠ 59 := by
      unfold secondsPerDay
      omega
    have next : (t.settled.seconds % secondsPerDay).toNat =
        (t.seconds % secondsPerDay).toNat + 1 := by
      simp only [later, secondsPerDay]
      omega
    have nanos : t.settled.nanos + 1000000000 = t.nanos := by
      simp only [later]
      omega
    have hour : (t.settled.seconds % secondsPerDay).toNat / 3600 =
        (t.seconds % secondsPerDay).toNat / 3600 := by omega
    have minute : (t.settled.seconds % secondsPerDay).toNat / 60 =
        (t.seconds % secondsPerDay).toNat / 60 := by omega
    have second : (t.settled.seconds % secondsPerDay).toNat % 60 + t.settled.nanos / 1000000000 =
        (t.seconds % secondsPerDay).toNat % 60 + t.nanos / 1000000000 := by omega
    have fraction : t.settled.nanos % 1000000000 = t.nanos % 1000000000 := by omega
    simp only [render, renderSeconds, renderFraction, date, hour, minute, second, fraction]
  · rw [settled, if_neg leap]

/-! ## What is read -/

/-- Every fraction is less than a second. -/
theorem fraction_lt {s rest : List Char} {nanos : Nat} (h : fraction s = some (nanos, rest)) :
    nanos < 1000000000 := by
  unfold fraction at h
  split at h
  next digits =>
    dsimp only at h
    split at h
    · cases h
    · obtain ⟨rfl, -⟩ := Prod.mk.inj (Option.some.inj h)
      generalize kept : (digits.takeWhile isDigit).take 9 = taken
      have short : taken.length ≤ 9 := kept ▸ List.length_take_le ..
      have all : taken.all isDigit = true := by
        rw [List.all_eq_true, ← kept]
        intro c mem
        exact List.all_eq_true.mp List.all_takeWhile c (List.mem_of_mem_take mem)
      calc value 0 taken * 10 ^ (9 - taken.length)
          < 1 * 10 ^ taken.length * 10 ^ (9 - taken.length) :=
            Nat.mul_lt_mul_of_pos_right (value_lt all 0) (Nat.pow_pos (by decide))
        _ = 10 ^ 9 := by rw [Nat.one_mul, ← Nat.pow_add, Nat.add_sub_cancel' short]
  · obtain ⟨rfl, -⟩ := Prod.mk.inj (Option.some.inj h)
    decide

/-- No zone is a part of a minute away. -/
theorem zoneOffset_minutes {between : Scanner Unit} {s rest : List Char} {offset : Int}
    (h : zoneOffset between s = some (offset, rest)) : offset % 60 = 0 := by
  unfold zoneOffset at h
  split at h
  · grind
  · grind
  · split at h
    · simp only [Option.bind_eq_bind, Option.bind_eq_some_iff, Prod.exists] at h
      grind
    · cases h
  · cases h

theorem looseOffset_minutes {s rest : List Char} {offset : Int}
    (h : looseOffset s = some (offset, rest)) : offset % 60 = 0 := by
  unfold looseOffset at h
  split at h
  · split at h
    · grind
    · exact zoneOffset_minutes h
  · exact zoneOffset_minutes h

/-- A leap second is written as the sixtieth of its minute, in any zone. -/
theorem of_toTimestamp? {w : Written} {offset : Int} {t : Timestamp}
    (h : w.toTimestamp? offset = some t) (less : w.nanos < 1000000000)
    (minutes : offset % 60 = 0) : t.IsRepresentable ∧ t.settled = t := by
  obtain ⟨date, hour, minute, second, nanos⟩ := w
  simp only [Written.toTimestamp?, Option.ite_none_right_eq_some, Option.some.injEq] at h
  obtain ⟨-, range, rfl⟩ := h
  refine ⟨⟨range, ?_⟩, settled_eq_self ?_⟩
  · grind
  · unfold secondsPerDay
    grind

/-- Whatever is read is found again when it is written. -/
theorem of_parseLoosely? {text : String} {t : Timestamp} (h : parseLoosely? text = some t) :
    t.IsRepresentable ∧ t.settled = t := by
  simp only [parseLoosely?, Option.bind_eq_bind, Option.bind_eq_some_iff, Prod.exists,
    Option.ite_none_right_eq_some] at h
  obtain ⟨_, _, -, _, _, -, _, _, -, _, _, -, _, _, -, _, _, -, _, _, -, _, _, -, _, _, -, _, _, -,
    _, _, -, nanos, _, fraction, offset, _, zone, -, read⟩ := h
  exact of_toTimestamp? read (fraction_lt fraction) (looseOffset_minutes zone)

end ClusterAccess.Time.Timestamp
