import Storyline.Decimal.Reading

/-!
# Timestamps

The moment that a text of the ISO 8601 family names, in microseconds from the start
of 1970 in universal time.  A text without a zone is taken to be in universal time.

A date is written by month and day or by week and weekday, with hyphens or without.
One character of any kind stands between date and time.  A time has two digits for
each of hour, minute and second, of which the later ones may be missing, with colons
or without, and a fraction after a point or comma, of which six digits count.  A zone
is `Z` or a sign and a time.

- `microseconds?`: the moment;
- `seconds`: the moment in seconds, zero for a text that names none.
-/

namespace Storyline.Time

/-- The character that stands for the end of a text. -/
def endMark : Char := Char.ofNat 0

/-- The first character. -/
def headOf (cs : List Char) : Char := cs.headD endMark

/-- Exactly `n` digits at the start, as a number, and the rest. -/
def takeDigits? (n : Nat) (cs : List Char) : Option (Nat × List Char) :=
  let ds := cs.take n
  if ds.length = n ∧ ds.all Decimal.isDigit then some (Decimal.natOfDigits ds, cs.drop n)
  else none

/-! ## Dates -/

/-- A year with a twenty-ninth of February. -/
def isLeap (year : Nat) : Bool := year % 4 = 0 && (year % 100 != 0 || year % 400 = 0)

/-- The number of days in a month. -/
def daysInMonth (year month : Nat) : Nat :=
  if month = 2 then if isLeap year then 29 else 28
  else if month = 4 || month = 6 || month = 9 || month = 11 then 30 else 31

/-- The number of days in the years before one, counted from year one. -/
def daysBeforeYear (year : Nat) : Nat :=
  let y := year - 1
  y * 365 + y / 4 - y / 100 + y / 400

/-- The number of days in the months before one of a year. -/
def daysBeforeMonth (year month : Nat) : Nat :=
  ((List.range' 1 (month - 1)).map (daysInMonth year)).foldr (· + ·) 0

/-- The last day of year 9999, counted from the first day of year one as day
one. -/
def lastDay : Nat := 3652059

/-- The day of a date by month and day, counted from the first day of year one as
day one. -/
def dayOfDate? (year month day : Nat) : Option Nat :=
  if 1 ≤ year ∧ year ≤ 9999 ∧ 1 ≤ month ∧ month ≤ 12 ∧ 1 ≤ day ∧ day ≤ daysInMonth year month then
    some (daysBeforeYear year + daysBeforeMonth year month + day)
  else none

/-- The weekday of a day, Monday as zero. -/
def weekday (day : Nat) : Nat := (day + 6) % 7

/-- The Monday of the first week of a year: the week with the first Thursday. -/
def firstMonday (year : Nat) : Int :=
  let first := daysBeforeYear year + 1
  let monday : Int := (first : Int) - weekday first
  if weekday first > 3 then monday + 7 else monday

/-- A year has a fifty-third week if it starts on a Thursday, or on a Wednesday and
is a leap year. -/
def hasLongYear (year : Nat) : Bool :=
  let first := weekday (daysBeforeYear year + 1)
  first = 3 || (first = 2 && isLeap year)

/-- The day of a date by week and weekday. -/
def dayOfWeek? (year week day : Nat) : Option Nat :=
  if 1 ≤ year ∧ year ≤ 9999 ∧ 1 ≤ week ∧ (week ≤ 52 ∨ week = 53 ∧ hasLongYear year) ∧ 1 ≤ day
      ∧ day ≤ 7 then
    let n := firstMonday year + (week - 1) * 7 + (day - 1)
    if 1 ≤ n ∧ n ≤ lastDay then some n.toNat else none
  else none

/-- The place of the character between date and time.  Where a week is written with
hyphens, two digits after the second hyphen are an hour. -/
def separator? (cs : List Char) : Option Nat :=
  let len := cs.length
  let char (n : Nat) := headOf (cs.drop n)
  if len = 7 then some 7
  else if char 4 = '-' then
    if char 5 = 'W' then
      if len < 8 then none
      else if len > 8 ∧ char 8 = '-' then
        if len = 9 then none
        else if len > 10 ∧ Decimal.isDigit (char 10) then some 8
        else some 10
      else some 8
    else some 10
  else if char 4 = 'W' then
    let digitsEnd := 7 + ((cs.drop 7).takeWhile Decimal.isDigit).length
    if digitsEnd < 9 then some digitsEnd
    else if digitsEnd % 2 = 0 then some 7
    else some 8
  else some 8

/-- The day of the date in the first `len` characters. -/
def day? (cs : List Char) (len : Nat) : Option Nat := do
  let (year, cs) ← takeDigits? 4 cs
  let hyphens := headOf cs = '-'
  let cs := if hyphens then cs.drop 1 else cs
  if headOf cs = 'W' then
    let (week, rest) ← takeDigits? 2 (cs.drop 1)
    let used := if hyphens then 8 else 7
    if used < len then
      if hyphens ∧ headOf rest ≠ '-' then none
      let (day, _) ← takeDigits? 1 (if hyphens then rest.drop 1 else rest)
      dayOfWeek? year week day
    else dayOfWeek? year week 1
  else
    let (month, cs) ← takeDigits? 2 cs
    if hyphens ∧ headOf cs ≠ '-' then none
    let (day, _) ← takeDigits? 2 (if hyphens then cs.drop 1 else cs)
    if (if hyphens then 10 else 8) = len then dayOfDate? year month day else none

/-! ## Times -/

/-- A time of day, or the distance of a zone. -/
structure Clock where
  hour : Nat
  minute : Nat
  second : Nat
  micro : Nat

/-- The time in microseconds. -/
def Clock.total (c : Clock) : Nat :=
  ((c.hour * 60 + c.minute) * 60 + c.second) * 1000000 + c.micro

/-- A fraction of a second in microseconds: six digits count and further ones are
passed over.  The truth value says whether anything is left. -/
def fraction? (after : Char) (cs : List Char) : Option (Nat × Bool) := do
  let count := min 6 cs.length
  let (n, rest) ← takeDigits? count cs
  let left := rest.dropWhile Decimal.isDigit
  return (n * Nat.pow 10 (6 - count), left.headD after ≠ endMark)

/-- Read up to `count` pairs of digits and a fraction.  `colons` says whether the
pairs are divided by colons, which the first division decides.  `after` is the
character after the text.  The truth value says whether anything is left. -/
def readClock? (after : Char) :
    Nat → Option Bool → List Nat → List Char → Option (List Nat × Nat × Bool)
  | 0, _, parts, cs => (fraction? after cs).map fun (n, left) => (parts, n, left)
  | count + 1, colons, parts, cs => do
    let (n, rest) ← takeDigits? 2 cs
    let parts := parts ++ [n]
    let c := rest.headD after
    let colons := colons.getD (c = ':')
    if rest.length ≤ 1 then return (parts, 0, c ≠ endMark)
    else if colons ∧ c = ':' then readClock? after count (some colons) parts (rest.drop 1)
    else if c = '.' ∨ c = ',' then
      (fraction? after (rest.drop 1)).map fun (n, left) => (parts, n, left)
    else if ¬ colons then readClock? after count (some colons) parts rest
    else none

/-- The time in a text, and whether anything is left of it. -/
def clock? (after : Char) (cs : List Char) : Option (Clock × Bool) :=
  (readClock? after 3 none [] cs).map fun (parts, micro, left) =>
    (⟨parts.getD 0 0, parts.getD 1 0, parts.getD 2 0, micro⟩, left)

/-- The start of a zone. -/
def isZoneMark (c : Char) : Bool := c = '+' || c = '-' || c = 'Z'

/-- The distance of a zone from universal time in microseconds.  One of a day or
more is no zone, and one of less than a second counts as none. -/
def zone? (cs : List Char) : Option Int :=
  match cs with
  | [] => some 0
  | 'Z' :: rest => if headOf rest = endMark then some 0 else none
  | sign :: rest => do
    let (c, left) ← clock? endMark rest
    if left then none
    let size := c.total
    if size / 1000000 = 0 then return 0
    if size < 86400 * 1000000 then return (if sign = '-' then -(size : Int) else size) else none

/-- The time of day and zone in a text, as a distance from the start of the day in
universal time. -/
def timeOfDay? (cs : List Char) : Option Int := do
  if cs.isEmpty then none
  let body := cs.takeWhile (! isZoneMark ·)
  let zone := cs.dropWhile (! isZoneMark ·)
  let (c, left) ← clock? (headOf zone) body
  if zone.isEmpty ∧ left then none
  let offset ← zone? zone
  if c.hour < 24 ∧ c.minute < 60 ∧ c.second < 60 then return c.total - offset else none

/-! ## Moments -/

/-- The first day of 1970. -/
def epochDay : Nat := 719163

/-- Each character as often as it has octets: places in a timestamp count
octets. -/
def spread (cs : List Char) : List Char := cs.flatMap fun c => List.replicate c.utf8Size c

/-- The moment that a text names, in microseconds from the start of 1970. -/
def microseconds? (s : String) : Option Int := do
  let cs := spread s.toList
  let place ← separator? cs
  let day ← day? cs place
  let rest := cs.drop place
  let time ← if rest.isEmpty then some 0 else timeOfDay? (rest.drop (headOf rest).utf8Size)
  return ((day : Int) - epochDay) * 86400000000 + time

/-- Microseconds as the nearest double in seconds. -/
def toSeconds (n : Int) : Float :=
  let size := Decimal.toFloat ⟨n.natAbs, -6⟩
  if n < 0 then -size else size

/-- The moment that a text names in seconds, zero if it names none. -/
def seconds (s : String) : Float := ((microseconds? s).map toSeconds).getD 0.0

end Storyline.Time
