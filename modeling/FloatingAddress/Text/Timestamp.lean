import FloatingAddress.Text.Decimal

/-!
# Points in time in object metadata

A timestamp is a date, a time of day and an offset from UTC, such as `2024-01-02T03:04:05+01:00`.
It is written back in UTC and without the fraction of a second. Days are counted in the
proleptic Gregorian calendar, in years that begin in March, so a leap day is the last of its
year.
-/

namespace FloatingAddress.Text

def isLeapYear (year : Nat) : Bool := year % 4 = 0 && (year % 100 ≠ 0 || year % 400 = 0)

def daysOfMonth (year month : Nat) : Nat :=
  if month = 2 then (if isLeapYear year then 29 else 28)
  else if month ∈ [4, 6, 9, 11] then 30
  else 31

/-- The number of days between the first of March of the year zero and the given date. The date
lies after that day. -/
def dayNumber (year month day : Nat) : Nat :=
  let (y, m) := if 3 ≤ month then (year, month - 3) else (year - 1, month + 9)
  y * 365 + y / 4 - y / 100 + y / 400 + (153 * m + 2) / 5 + (day - 1)

/-- Year, month and day of a day number. -/
def dateOfDay (n : Nat) : Nat × Nat × Nat :=
  let era := n / 146097
  let dayOfEra := n % 146097
  let yearOfEra :=
    (dayOfEra - dayOfEra / 1460 + dayOfEra / 36524 - dayOfEra / 146096) / 365
  let dayOfYear := dayOfEra - (365 * yearOfEra + yearOfEra / 4 - yearOfEra / 100)
  let m := (5 * dayOfYear + 2) / 153
  let day := dayOfYear - (153 * m + 2) / 5 + 1
  let month := if m < 10 then m + 3 else m - 9
  (era * 400 + yearOfEra + (if month ≤ 2 then 1 else 0), month, day)

/-- A point in time: seconds in UTC since the first of March of the year zero. -/
structure Timestamp where
  seconds : Nat
deriving DecidableEq, Repr

namespace Timestamp

/-- Write a number with leading zeros. -/
def padded (width n : Nat) : String :=
  let digits := toString n
  "".pushn '0' (width - digits.length) ++ digits

/-- The written form in UTC. -/
def text (t : Timestamp) : String :=
  let (year, month, day) := dateOfDay (t.seconds / 86400)
  let second := t.seconds % 86400
  let time := s!"{padded 2 (second / 3600)}:{padded 2 (second / 60 % 60)}:{padded 2 (second % 60)}"
  s!"{padded 4 year}-{padded 2 month}-{padded 2 day}T{time}Z"

/-- The offset from UTC in minutes: `Z`, or hours and minutes after a sign. -/
def offset? : List Char → Option Int
  | ['Z'] | ['z'] => some 0
  | [sign, h, h', ':', m, m'] => do
    let hours ← natOfDigits? [h, h']
    let minutes ← natOfDigits? [m, m']
    if 23 < hours || 59 < minutes then none
    else if sign = '+' then some (hours * 60 + minutes)
    else if sign = '-' then some (-(hours * 60 + minutes))
    else none
  | _ => none

/-- Remove the fraction of a second, which is a point and at least one digit. -/
def afterFraction? : List Char → Option (List Char)
  | '.' :: rest =>
    if (rest.takeWhile isDigit).isEmpty then none else some (rest.dropWhile isDigit)
  | rest => some rest

def ofText? (s : String) : Option Timestamp :=
  match s.toList with
  | y1 :: y2 :: y3 :: y4 :: '-' :: mo1 :: mo2 :: '-' :: d1 :: d2 :: sep ::
      h1 :: h2 :: ':' :: mi1 :: mi2 :: ':' :: s1 :: s2 :: rest => do
    let year ← natOfDigits? [y1, y2, y3, y4]
    let month ← natOfDigits? [mo1, mo2]
    let day ← natOfDigits? [d1, d2]
    let hour ← natOfDigits? [h1, h2]
    let minute ← natOfDigits? [mi1, mi2]
    let second ← natOfDigits? [s1, s2]
    let offset ← offset? (← afterFraction? rest)
    let dateOk := 1 ≤ month && month ≤ 12 && 1 ≤ day && day ≤ daysOfMonth year month
    let timeOk := hour ≤ 23 && minute ≤ 59 && second ≤ 60
    if !(sep ∈ ['T', 't', ' ']) || !dateOk || !timeOk then none
    let wallClock : Int := dayNumber year month day * 86400 + (hour * 60 + minute) * 60 + min second 59
    some ⟨(wallClock - offset * 60).toNat⟩
  | _ => none

end Timestamp

end FloatingAddress.Text
