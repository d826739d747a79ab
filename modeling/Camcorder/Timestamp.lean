import Camcorder.Blank
import Camcorder.Decimal.Text

/-!
# Points in time

A `Timestamp` is a point in time in seconds and nanoseconds since the beginning of 1970 in UTC. Its text form is
the date and time of RFC 3339. Reading is lenient: there may be blanks between the parts, parts may have fewer
digits, and `UTC` may stand for the offset. Writing is strict, in UTC, with as many groups of three digits after
the point as there are.
-/

namespace Camcorder

/-- A point in time. Nanoseconds beyond a second belong to a leap second that follows. -/
structure Timestamp where
  seconds : Int
  nanos : Nat
deriving DecidableEq, Repr

namespace Timestamp

/-! ## Dates -/

/-- Whether a year has a 29th of February. -/
def isLeap (year : Int) : Bool := year % 4 == 0 && (year % 100 != 0 || year % 400 == 0)

def daysInMonth (year : Int) (month : Nat) : Nat :=
  if month == 2 then (if isLeap year then 29 else 28)
  else if month == 4 || month == 6 || month == 9 || month == 11 then 30
  else 31

/-- The days from the beginning of 1970 to a date. Years are counted from March on, so that a leap day is the last
day of a year. -/
def daysOfDate (year : Int) (month day : Nat) : Int :=
  let y := if month ≤ 2 then year - 1 else year
  let era := y / 400
  let yearOfEra := y % 400
  let monthFromMarch := (month + 9) % 12
  let dayOfYear := (153 * monthFromMarch + 2) / 5 + day - 1
  era * 146097 + (yearOfEra * 365 + yearOfEra / 4 - yearOfEra / 100 + (dayOfYear : Nat)) - 719468

/-- The year, month and day that lie the given number of days after the beginning of 1970. -/
def dateOfDays (days : Int) : Int × Nat × Nat :=
  let z := days + 719468
  let era := z / 146097
  let dayOfEra := (z % 146097).toNat
  let yearOfEra := (dayOfEra - dayOfEra / 1460 + dayOfEra / 36524 - dayOfEra / 146096) / 365
  let dayOfYear := dayOfEra - (365 * yearOfEra + yearOfEra / 4 - yearOfEra / 100)
  let monthFromMarch := (5 * dayOfYear + 2) / 153
  let month := if monthFromMarch < 10 then monthFromMarch + 3 else monthFromMarch - 9
  let year := era * 400 + (yearOfEra : Int)
  (if month ≤ 2 then year + 1 else year, month, dayOfYear - (153 * monthFromMarch + 2) / 5 + 1)

/-- The first and the last year of which there are timestamps. -/
def yearRange : Int × Int := (-262143, 262142)

/-! ## Reading -/

/-- Takes at most `limit` digits, and at least one. Answers the number, how many digits it has, and the rest. -/
def number? (limit : Nat) (cs : List Char) : Option (Nat × Nat × List Char) :=
  let digits := (cs.takeWhile fun c => (Decimal.digit? c).isSome).take limit
  if digits.isEmpty then none
  else some (Decimal.ofDigits 10 (digits.filterMap Decimal.digit?), digits.length, cs.drop digits.length)

/-- Takes a number of one or two digits within a range, after blanks. -/
def field? (low high : Nat) (cs : List Char) : Option (Nat × List Char) := do
  let (v, _, cs) ← number? 2 (trimStart cs)
  if low ≤ v ∧ v ≤ high then some (v, cs) else none

/-- Takes a year: up to four digits, or any number of them after a sign. -/
def year? (cs : List Char) : Option (Int × List Char) := do
  match trimStart cs with
  | '-' :: cs => let (v, _, cs) ← number? cs.length cs; return (-(v : Int), cs)
  | '+' :: cs => let (v, _, cs) ← number? cs.length cs; return ((v : Int), cs)
  | cs => let (v, _, cs) ← number? 4 cs; return ((v : Int), cs)

/-- Takes a character, after blanks. -/
def mark? (c : Char) (cs : List Char) : Option (List Char) :=
  match trimStart cs with
  | d :: cs => if d == c then some cs else none
  | [] => none

/-- Takes the fraction of a second in nanoseconds, if there is one. Digits beyond the ninth are passed over. -/
def fraction? : List Char → Option (Nat × List Char)
  | '.' :: cs => do
    let (v, len, cs) ← number? 9 cs
    return (v * Nat.pow 10 (9 - len), cs.dropWhile fun c => (Decimal.digit? c).isSome)
  | cs => some (0, cs)

/-- Takes two digits. -/
def twoDigits? : List Char → Option (Nat × List Char)
  | a :: b :: cs => do return ((← Decimal.digit? a) * 10 + (← Decimal.digit? b), cs)
  | _ => none

/-- Takes the offset from UTC, in seconds. -/
def offset? (cs : List Char) : Option (Int × List Char) := do
  if (cs.take 3).map Char.toUpper == ['U', 'T', 'C'] then return (0, cs.drop 3)
  match cs with
  | sign :: cs =>
    if sign == 'Z' || sign == 'z' then return (0, cs)
    guard (sign == '+' || sign == '-' || sign == '\u2212')
    let (hours, cs) ← twoDigits? cs
    let (minutes, cs) ← twoDigits? (cs.dropWhile fun c => c == ':' || isBlank c)
    guard (hours < 24 && minutes < 60)
    let offset : Int := (hours * 3600 + minutes * 60 : Nat)
    return (if sign == '+' then offset else -offset, cs)
  | [] => none

/-- Reads a timestamp. -/
def read? (text : String) : Option Timestamp := do
  let (year, cs) ← year? text.toList
  let (month, cs) ← field? 1 12 (← mark? '-' cs)
  let (day, cs) ← field? 1 31 (← mark? '-' cs)
  guard (yearRange.1 ≤ year && year ≤ yearRange.2 && day ≤ daysInMonth year month)
  let separator := cs.headD '-'
  guard (separator == 't' || separator == 'T' || separator == ' ')
  let (hour, cs) ← field? 0 23 cs.tail
  let (minute, cs) ← field? 0 59 (← mark? ':' cs)
  let (second, cs) ← field? 0 60 (← mark? ':' cs)
  let (nanos, cs) ← fraction? cs
  let (offset, cs) ← offset? (trimStart cs)
  guard (trimStart cs).isEmpty
  let ofDay : Int := (hour * 3600 + minute * 60 + min second 59 : Nat)
  let t : Timestamp := {
    seconds := daysOfDate year month day * 86400 + ofDay - offset
    nanos := nanos + (if second = 60 then 1000000000 else 0) }
  let utcYear := (dateOfDays (t.seconds / 86400)).1
  if yearRange.1 ≤ utcYear ∧ utcYear ≤ yearRange.2 then some t else none

/-! ## Writing -/

/-- A number with at least `width` digits. -/
def padded (width n : Nat) : String :=
  let text := Decimal.natText n
  Decimal.zeros (width - text.length) ++ text

/-- A year: four digits, or a sign and more where those do not suffice. -/
def yearText (year : Int) : String :=
  if 0 ≤ year ∧ year ≤ 9999 then padded 4 year.toNat
  else (if year < 0 then "-" else "+") ++ padded 4 year.natAbs

/-- The digits after the second, in groups of three. -/
def fractionText (nanos : Nat) : String :=
  if nanos = 0 then ""
  else if nanos % 1000000 = 0 then "." ++ padded 3 (nanos / 1000000)
  else if nanos % 1000 = 0 then "." ++ padded 6 (nanos / 1000)
  else "." ++ padded 9 nanos

/-- The timestamp in UTC. -/
def render (t : Timestamp) : String :=
  let (year, month, day) := dateOfDays (t.seconds / 86400)
  let ofDay := (t.seconds % 86400).toNat
  let second := ofDay % 60 + t.nanos / 1000000000
  let date := s!"{yearText year}-{padded 2 month}-{padded 2 day}"
  s!"{date}T{padded 2 (ofDay / 3600)}:{padded 2 (ofDay / 60 % 60)}:{padded 2 second}" ++
    fractionText (t.nanos % 1000000000) ++ "Z"

end Timestamp

end Camcorder
