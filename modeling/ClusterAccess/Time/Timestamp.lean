import ClusterAccess.Text.Blank
import ClusterAccess.Text.Numeral
import ClusterAccess.Time.Civil

/-!
# Timestamps

Instants of Coordinated Universal Time with nanoseconds, and their texts. A timestamp is written
with as many digits after the second as it needs, in groups of three. Reading is strict, or it
allows blanks, short numerals, signed years and looser offsets.

## Main definitions

* `Timestamp`: an instant.
* `Timestamp.render`, `Timestamp.renderWhole`: the written forms.
* `Timestamp.parse?`: strict reading.
* `Timestamp.parseLoosely?`: lenient reading.
-/
namespace ClusterAccess.Time

/-- Seconds since 1970-01-01T00:00:00Z, and nanoseconds. Within a leap second the nanoseconds go on
from 10^9. -/
structure Timestamp where
  seconds : Int
  nanos : Nat
  deriving DecidableEq, Repr

namespace Timestamp

def secondsPerDay : Int := 86400

/-- Whether the day of an instant has a date. -/
def inRange (seconds : Int) : Bool :=
  let day := seconds / secondsPerDay
  firstDay ≤ day && day ≤ lastDay

/-- The instant a whole number of seconds later, if there still is a date for it. -/
def addSeconds? (t : Timestamp) (seconds : Nat) : Option Timestamp :=
  if inRange (t.seconds + seconds) then some { t with seconds := t.seconds + seconds } else none

/-- Whether `t` is at or before `u`. -/
def atOrBefore (t u : Timestamp) : Bool :=
  t.seconds < u.seconds || (t.seconds == u.seconds && t.nanos ≤ u.nanos)

/-! ## Writing -/

def date (t : Timestamp) : Date := Date.ofDays (t.seconds / secondsPerDay)

def renderYear (year : Int) : List Char :=
  if 0 ≤ year && year ≤ 9999 then Text.Numeral.padded 4 year.toNat
  else (if year < 0 then '-' else '+') :: Text.Numeral.padded 4 year.natAbs

/-- The instant to the second, in the form `2026-01-01T00:00:00`. -/
def renderSeconds (t : Timestamp) : List Char :=
  let d := t.date
  let second := (t.seconds % secondsPerDay).toNat
  let leap := t.nanos / 1000000000
  renderYear d.year ++ '-' :: Text.Numeral.padded 2 d.month ++ '-' :: Text.Numeral.padded 2 d.day ++
    'T' :: Text.Numeral.padded 2 (second / 3600) ++
    ':' :: Text.Numeral.padded 2 (second / 60 % 60) ++
    ':' :: Text.Numeral.padded 2 (second % 60 + leap)

/-- What follows the second: nothing, or a point and three, six or nine digits. -/
def renderFraction (t : Timestamp) : List Char :=
  let nanos := t.nanos % 1000000000
  if nanos = 0 then []
  else if nanos % 1000000 = 0 then '.' :: Text.Numeral.padded 3 (nanos / 1000000)
  else if nanos % 1000 = 0 then '.' :: Text.Numeral.padded 6 (nanos / 1000)
  else '.' :: Text.Numeral.padded 9 nanos

/-- How the offset of Coordinated Universal Time is written. -/
inductive Zone where
  | letter
  | digits

def Zone.render : Zone → List Char
  | .letter => ['Z']
  | .digits => ['+', '0', '0', ':', '0', '0']

def render (t : Timestamp) (zone : Zone) : String :=
  String.ofList (t.renderSeconds ++ t.renderFraction ++ zone.render)

/-- The instant without its fraction. -/
def renderWhole (t : Timestamp) : String :=
  String.ofList (t.renderSeconds ++ Zone.letter.render)

/-! ## Reading -/

/-- A reader takes something off the front of a text. -/
abbrev Scanner (α : Type) := List Char → Option (α × List Char)

/-- A numeral of at least `least` and at most `most` digits. -/
def numeral (least most : Nat) : Scanner Nat := fun s =>
  let digits := (s.take most).takeWhile Text.Numeral.isDigit
  if digits.length < least then none
  else some (Text.Numeral.value 0 digits, s.drop digits.length)

def mark (c : Char) : Scanner Unit
  | d :: rest => if d = c then some ((), rest) else none
  | [] => none

/-- The digits after a point as nanoseconds; those past the ninth count for nothing. -/
def fraction : Scanner Nat
  | '.' :: rest =>
    let digits := rest.takeWhile Text.Numeral.isDigit
    let kept := digits.take 9
    if digits.isEmpty then none
    else some (Text.Numeral.value 0 kept * Nat.pow 10 (9 - kept.length), rest.drop digits.length)
  | s => some (0, s)

/-- A date and a time of day as written, in some zone. -/
structure Written where
  date : Date
  hour : Nat
  minute : Nat
  second : Nat
  nanos : Nat

/-- The instant, given the zone's distance from Coordinated Universal Time in seconds. Any minute
may have a leap second. -/
def Written.toTimestamp? (w : Written) (offset : Int) : Option Timestamp :=
  if w.date.isValid && w.hour ≤ 23 && w.minute ≤ 59 && w.second ≤ 60 &&
      offset.natAbs < 86400 then
    let second := if w.second = 60 then 59 else w.second
    let nanos := if w.second = 60 then 1000000000 + w.nanos else w.nanos
    let seconds := w.date.toDays * secondsPerDay + w.hour * 3600 + w.minute * 60 + second - offset
    if inRange seconds then some ⟨seconds, nanos⟩ else none
  else none

/-- A zone: the letter, or a sign and hours and minutes with what `between` allows between them. -/
def zoneOffset (between : Scanner Unit) : Scanner Int
  | 'Z' :: rest | 'z' :: rest => some (0, rest)
  | c :: rest =>
    if c = '+' || c = '-' || c = '\u2212' then do
      let (hours, rest) ← numeral 2 2 rest
      let ((), rest) ← between rest
      let (minutes, rest) ← numeral 2 2 rest
      if minutes ≤ 59 then
        let offset : Int := hours * 3600 + minutes * 60
        some (if c = '+' then offset else -offset, rest)
      else none
    else none
  | [] => none

/-- The character between date and time. -/
def separator : Scanner Unit
  | c :: rest => if c = 'T' || c = 't' || c = ' ' then some ((), rest) else none
  | [] => none

/-- Reads the form `2026-01-01T00:00:00Z`, with an optional fraction and any zone. -/
def parse? (text : String) : Option Timestamp := do
  let (year, s) ← numeral 4 4 text.toList
  let ((), s) ← mark '-' s
  let (month, s) ← numeral 2 2 s
  let ((), s) ← mark '-' s
  let (day, s) ← numeral 2 2 s
  let ((), s) ← separator s
  let (hour, s) ← numeral 2 2 s
  let ((), s) ← mark ':' s
  let (minute, s) ← numeral 2 2 s
  let ((), s) ← mark ':' s
  let (second, s) ← numeral 2 2 s
  let (nanos, s) ← fraction s
  let (offset, s) ← zoneOffset (mark ':') s
  if s.isEmpty then Written.toTimestamp? ⟨⟨year, month, day⟩, hour, minute, second, nanos⟩ offset
  else none

/-- One or two digits after any blanks. -/
def looseNumeral : Scanner Nat := fun s => numeral 1 2 (Text.trimStart s)

/-- A mark after any blanks. -/
def looseMark (c : Char) : Scanner Unit := fun s => mark c (Text.trimStart s)

/-- Up to four digits, or any number of them after a sign, after any blanks. -/
def looseYear : Scanner Int := fun s =>
  match Text.trimStart s with
  | '-' :: rest => (numeral 1 rest.length rest).map fun (n, rest) => (-n, rest)
  | '+' :: rest => (numeral 1 rest.length rest).map fun (n, rest) => (n, rest)
  | s => (numeral 1 4 s).map fun (n, rest) => (n, rest)

/-- Any colons and blanks. -/
def looseColon : Scanner Unit := fun s => some ((), s.dropWhile fun c => c == ':' || Text.isBlank c)

/-- The zone may also be named. -/
def looseOffset : Scanner Int := fun s =>
  match s with
  | u :: t :: c :: rest =>
    if (u == 'U' || u == 'u') && (t == 'T' || t == 't') && (c == 'C' || c == 'c') then
      some (0, rest)
    else zoneOffset looseColon s
  | _ => zoneOffset looseColon s

def parseLoosely? (text : String) : Option Timestamp := do
  let (year, s) ← looseYear text.toList
  let ((), s) ← looseMark '-' s
  let (month, s) ← looseNumeral s
  let ((), s) ← looseMark '-' s
  let (day, s) ← looseNumeral s
  let ((), s) ← separator s
  let (hour, s) ← looseNumeral s
  let ((), s) ← looseMark ':' s
  let (minute, s) ← looseNumeral s
  let ((), s) ← looseMark ':' s
  let (second, s) ← looseNumeral s
  let (nanos, s) ← fraction s
  let (offset, s) ← looseOffset (Text.trimStart s)
  if (Text.trimStart s).isEmpty then
    Written.toTimestamp? ⟨⟨year, month, day⟩, hour, minute, second, nanos⟩ offset
  else none

end Timestamp
end ClusterAccess.Time
