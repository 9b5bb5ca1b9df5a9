import LogTemplate.Numeral

/-!
# Timestamps

Which texts are a timestamp of ISO 8601: a date, or a date and a time of day with any one character
between them.  A date is a calendar date, an ordinal date or a week date of the years 1 to 9999; a
time may leave out its smaller parts, may have a fraction of a second and an offset from UTC, and
is written with colons or without.  Midnight at the end of a day is 24:00.
-/

namespace LogTemplate.Timestamp

/-- A whole number written in a part of the text. -/
def part? (s : List CodePoint) : Option Int := (Numeral.readDecimal s).toOption

/-- Whether the year has a 29th of February. -/
def isLeap (year : Int) : Bool := year % 4 == 0 && (year % 100 != 0 || year % 400 == 0)

/-- The days of a month. -/
def daysInMonth (year month : Int) : Int :=
  if month = 2 then (if isLeap year then 29 else 28)
  else if month = 4 || month = 6 || month = 9 || month = 11 then 30
  else 31

/-- The days of all years before a year. -/
def daysBeforeYear (year : Int) : Int :=
  let y := year - 1
  y * 365 + y / 4 - y / 100 + y / 400

/-- The number of a day: 1 for the first day of the year 1. -/
def dayNumber? (year month day : Int) : Option Int :=
  if 1 ≤ year && year ≤ 9999 && 1 ≤ month && month ≤ 12 && 1 ≤ day
      && day ≤ daysInMonth year month then
    let earlier := (List.range (month - 1).toNat).map fun (i : Nat) => daysInMonth year (i + 1)
    some (daysBeforeYear year + earlier.foldl (· + ·) 0 + day)
  else none

/-- The number of the last day of the year 9999. -/
def lastDay : Int := 3652059

/-- A calendar date as it is written, and what follows it. -/
def calendarDate? (s : List CodePoint) : Option ((Int × Int × Int) × List CodePoint) := do
  guard (4 ≤ s.length)
  let year ← part? (s.take 4)
  let rest := s.drop 4
  if rest.isEmpty then return ((year, 1, 1), [])
  let dashed := rest.head? == some (.char '-')
  let rest := if dashed then rest.drop 1 else rest
  guard (2 ≤ rest.length)
  let month ← part? (rest.take 2)
  let rest := rest.drop 2
  if rest.isEmpty then
    guard dashed
    return ((year, month, 1), [])
  guard (!dashed || rest.head? == some (.char '-'))
  let rest := if dashed then rest.drop 1 else rest
  guard (2 ≤ rest.length)
  let day ← part? (rest.take 2)
  return ((year, month, day), rest.drop 2)

/-- The number of a day given by its week and its place in the week; week 1 holds January 4th. -/
def weekDay? (year week day : Int) : Option Int := do
  guard (0 < week && week < 54 && 0 < day && day < 8)
  let january4 ← dayNumber? year 1 4
  let monday := january4 - (january4 - 1) % 7
  let found := monday + (week - 1) * 7 + (day - 1)
  guard (found ≤ lastDay)
  return found

/-- The number of a day given by its place in the year. -/
def ordinalDay? (year place : Int) : Option Int := do
  guard (1 ≤ place && place ≤ (if isLeap year then 366 else 365))
  let first ← dayNumber? year 1 1
  return first + place - 1

/-- The day of a week date or an ordinal date, and what follows it. -/
def otherDate? (s : List CodePoint) : Option (Int × List CodePoint) := do
  guard (4 ≤ s.length)
  let year ← part? (s.take 4)
  let dashed := (s.drop 4).head? == some (.char '-')
  let rest := s.drop (if dashed then 5 else 4)
  if rest.head? == some (.char 'W') then
    let week ← part? ((rest.drop 1).take 2)
    let rest := rest.drop 3
    if rest.isEmpty then return (← weekDay? year week 1, [])
    guard ((rest.head? == some (.char '-')) == dashed)
    let rest := if dashed then rest.drop 1 else rest
    let day ← part? (rest.take 1)
    return (← weekDay? year week day, rest.drop 1)
  else
    guard (3 ≤ rest.length)
    let place ← part? (rest.take 3)
    return (← ordinalDay? year place, rest.drop 3)

/-- The day that a text starts with, and what follows it.  What can be read as a calendar date is
one, even if there is no such day. -/
def date? (s : List CodePoint) : Option (Int × List CodePoint) :=
  match calendarDate? s with
  | some ((year, month, day), rest) => (dayNumber? year month day).map (·, rest)
  | none => otherDate? s

/-- Whether a text is an offset from UTC. -/
def isOffset (s : List CodePoint) : Bool :=
  if s == [.char 'Z'] || s == [.char 'z'] then true
  else if !(s.length == 3 || s.length == 5 || s.length == 6) then false
  else if !(s.head? == some (.char '-') || s.head? == some (.char '+')) then false
  else
    let minutesText := if s.length = 3 then [.char '0']
      else s.drop (if s[3]? = some (.char ':') then 4 else 3)
    match part? ((s.drop 1).take 2), part? minutesText with
    | some hours, some minutes => minutes ≤ 59 && hours ≤ 23
    | _, _ => false

/-- Whether an offset from UTC has to start here. -/
def startsOffset (s : List CodePoint) : Bool :=
  match s with
  | c :: _ => (Text.toList "-+Zz").contains c
  | [] => false

/-- A time of day: hour, minute, second, and whether the fraction of the second is zero. -/
structure Clock where
  hour : Int := 0
  minute : Int := 0
  second : Int := 0
  wholeSecond : Bool := true

/-- Ends a time of day: nothing may follow but an offset. -/
def finish? (clock : Clock) (s : List CodePoint) : Option Clock :=
  if s.isEmpty || (startsOffset s && isOffset s) then some clock else none

/-- The fraction of a second and what follows it. -/
def fraction? (clock : Clock) (s : List CodePoint) : Option Clock :=
  match s with
  | c :: rest =>
    let digits := rest.takeWhile CodePoint.isDigit
    if (c = '.' || c = ',') && !digits.isEmpty then
      finish? { clock with wholeSecond := (digits.take 6).all (· == '0') }
        (rest.dropWhile CodePoint.isDigit)
    else finish? clock s
  | [] => some clock

/-- The second and what follows it. -/
def second? (coloned : Bool) (clock : Clock) (s : List CodePoint) : Option Clock := do
  if s.isEmpty || startsOffset s then return ← finish? clock s
  guard (!coloned || s.head? == some (.char ':'))
  let s := if coloned then s.drop 1 else s
  let second ← part? (s.take 2)
  fraction? { clock with second } (s.drop 2)

/-- The minute and what follows it. -/
def minute? (clock : Clock) (s : List CodePoint) : Option Clock := do
  if s.isEmpty || startsOffset s then return ← finish? clock s
  let coloned := s.head? == some (.char ':')
  let s := if coloned then s.drop 1 else s
  let minute ← part? (s.take 2)
  second? coloned { clock with minute } (s.drop 2)

/-- The time of day that a text is. -/
def clock? (s : List CodePoint) : Option Clock := do
  guard (2 ≤ s.length)
  if startsOffset s then return ← finish? {} s
  let hour ← part? (s.take 2)
  minute? { hour := hour } (s.drop 2)

/-- Whether a time of day exists on a day.  The end of the last day is not on any day. -/
def Clock.isOn (clock : Clock) (day : Int) : Bool :=
  if clock.hour = 24 then
    clock.minute == 0 && clock.second == 0 && clock.wholeSecond && day < lastDay
  else
    0 ≤ clock.hour && clock.hour ≤ 23 && 0 ≤ clock.minute && clock.minute ≤ 59
      && 0 ≤ clock.second && clock.second ≤ 59

/-- Whether a text is a timestamp. -/
def isTimestamp (s : List CodePoint) : Bool :=
  s.all (·.toNat < 0x80) &&
    match date? s with
    | none => false
    | some (_, []) => true
    | some (day, _ :: time) =>
      match clock? time with
      | none => false
      | some clock => clock.isOn day

end LogTemplate.Timestamp
