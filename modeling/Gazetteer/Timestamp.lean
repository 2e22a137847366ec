import Gazetteer.Text.Blank
import Gazetteer.Text.Whole

/-!
# Moments in time

A moment is counted in seconds from the beginning of 1970 in universal time, with the nanoseconds
past the second. Its text is the internet date format: `2024-01-02T03:04:05Z`. Reading is more
generous than writing: numbers may be short, blanks may stand between the parts, and the time may
be local to a zone.

* `Timestamp`: a moment.
* `Timestamp.write`: its one text.
* `Timestamp.Reading`: the parts of a text, with `Reading.ofChars?`.
* `Timestamp.read?`: the moment that a text names.
-/

set_option autoImplicit false

namespace Gazetteer

open Gazetteer.Text (digitsFrom isBlank)

/-- A moment: seconds from the beginning of 1970, and nanoseconds past the second. A leap second
counts as part of the second in front of it, which then has up to two thousand million of them. -/
structure Timestamp where
  seconds : Int
  nanos : Nat
  deriving DecidableEq, Inhabited

namespace Timestamp

/-! ## Days and dates -/

def isLeap (year : Int) : Bool := year % 4 = 0 && (year % 100 ≠ 0 || year % 400 = 0)

def daysInMonth (year : Int) (month : Nat) : Nat :=
  if month = 2 then if isLeap year then 29 else 28
  else if month = 4 ∨ month = 6 ∨ month = 9 ∨ month = 11 then 30
  else 31

/-- The days of the years in front of a year, counted from the year zero. -/
def daysBeforeYear (year : Int) : Int :=
  let y := year - 1
  365 * year + y / 4 - y / 100 + y / 400 + 1

/-- The days of the months in front of a month. -/
def daysBeforeMonth (year : Int) (month : Nat) : Nat :=
  (List.range (month - 1)).foldl (fun days m => days + daysInMonth year (m + 1)) 0

/-- The day 1970-01-01 on the same count. -/
def epochDay : Int := daysBeforeYear 1970

/-- The number of a date, counted from the beginning of 1970. -/
def dayOf (year : Int) (month day : Nat) : Int :=
  daysBeforeYear year + daysBeforeMonth year month + (day : Int) - 1 - epochDay

/-- The year of a day, and the days past its first one. -/
def yearOf (day : Int) : Int × Nat :=
  let n := day + epochDay
  let guess := n * 400 / 146097
  let year :=
    if daysBeforeYear (guess + 1) ≤ n then guess + 1
    else if daysBeforeYear guess ≤ n then guess
    else guess - 1
  (year, (n - daysBeforeYear year).toNat)

/-- The month of a day of the year, and the day of that month. -/
def monthOf (year : Int) : Nat → Nat → Nat → Nat × Nat
  | 0, month, left => (month, left + 1)
  | steps + 1, month, left =>
    let days := daysInMonth year month
    if left < days then (month, left + 1) else monthOf year steps (month + 1) (left - days)

/-! ## Writing -/

/-- A number with zeros in front up to a width. -/
def padded (width n : Nat) : String :=
  let digits := toString n
  String.ofList (List.replicate (width - digits.length) '0') ++ digits

/-- A year has four digits, and outside of the years 0 to 9999 a sign in front of them. -/
def writeYear (year : Int) : String :=
  let sign := if year < 0 then "-" else if 9999 < year then "+" else ""
  sign ++ padded 4 year.natAbs

/-- The part of a second: nothing, thousandths, millionths or all nine digits. -/
def writeFraction (nanos : Nat) : String :=
  if nanos = 0 then ""
  else if nanos % 1000000 = 0 then "." ++ padded 3 (nanos / 1000000)
  else if nanos % 1000 = 0 then "." ++ padded 6 (nanos / 1000)
  else "." ++ padded 9 nanos

/-- The nanoseconds of one second. -/
def nanosPerSecond : Nat := 1000000000

/-- The text of a moment. -/
def write (t : Timestamp) : String :=
  let (year, dayOfYear) := yearOf (t.seconds / 86400)
  let (month, day) := monthOf year 11 1 dayOfYear
  let second := (t.seconds % 86400).toNat
  writeYear year ++ "-" ++ padded 2 month ++ "-" ++ padded 2 day ++ "T" ++
    padded 2 (second / 3600) ++ ":" ++ padded 2 (second / 60 % 60) ++ ":" ++
    padded 2 (second % 60 + t.nanos / nanosPerSecond) ++
    writeFraction (t.nanos % nanosPerSecond) ++ "Z"

/-! ## The parts of a text -/

/-- What a text says: a local date and time, and how far local time is ahead of universal time. -/
structure Reading where
  year : Int
  month : Nat
  day : Nat
  hour : Nat
  minute : Nat
  second : Nat
  nanos : Nat
  /-- The distance to universal time in seconds. -/
  ahead : Int
  deriving DecidableEq

def skipBlanks (cs : List Char) : List Char := cs.dropWhile isBlank

/-- Takes one to `most` digits off the front. -/
def takeDigits (most : Nat) (cs : List Char) : Option (Nat × List Char) :=
  let digits := (cs.take most).takeWhile Char.isDigit
  if digits.isEmpty then none else some (digitsFrom 0 digits, cs.drop digits.length)

/-- Takes a number of one or two digits off the front, and the blanks before it. -/
def takePair (cs : List Char) : Option (Nat × List Char) := takeDigits 2 (skipBlanks cs)

/-- Takes two digits off the front. -/
def takeTwoDigits : List Char → Option (Nat × List Char)
  | a :: b :: rest => if a.isDigit && b.isDigit then some (digitsFrom 0 [a, b], rest) else none
  | _ => none

/-- Takes one of the characters off the front. -/
def takeMark (marks : List Char) : List Char → Option (List Char)
  | c :: rest => if marks.contains c then some rest else none
  | [] => none

/-- Takes the mark between two numbers off the front, and the blanks before it. -/
def takeSeparator (mark : Char) (cs : List Char) : Option (List Char) :=
  takeMark [mark] (skipBlanks cs)

/-- Takes a year off the front: up to four digits, or any number of them behind a sign. -/
def takeYear (cs : List Char) : Option (Int × List Char) :=
  match skipBlanks cs with
  | '-' :: rest => (takeDigits rest.length rest).map fun (n, rest) => (-(n : Int), rest)
  | '+' :: rest => (takeDigits rest.length rest).map fun (n, rest) => ((n : Int), rest)
  | rest => (takeDigits 4 rest).map fun (n, rest) => ((n : Int), rest)

/-- Takes the part of a second off the front. Digits past the ninth are dropped. -/
def takeFraction : List Char → Option (Nat × List Char)
  | '.' :: rest =>
    let digits := rest.takeWhile Char.isDigit
    if digits.isEmpty then none
    else
      let nine := (digits ++ List.replicate 9 '0').take 9
      some (digitsFrom 0 nine, rest.dropWhile Char.isDigit)
  | rest => some (0, rest)

/-- Takes hours and minutes with a sign in front off the front. Hours may go to 99; blanks and
colons may stand between the two numbers. -/
def takeDistance : List Char → Option (Int × List Char)
  | sign :: rest => do
    if ¬ ['+', '-', '−'].contains sign then none
    else
      let (hours, rest) ← takeTwoDigits rest
      let (minutes, rest) ← takeTwoDigits (rest.dropWhile fun c => c = ':' || isBlank c)
      if 59 < minutes then none
      else
        let seconds : Int := 60 * (60 * (hours : Int) + minutes)
        some (if sign = '+' then seconds else -seconds, rest)
  | [] => none

/-- Takes the zone off the front: the name of universal time, short or long, or the distance
to it. -/
def takeZone : List Char → Option (Int × List Char)
  | 'Z' :: rest => some (0, rest)
  | 'z' :: rest => some (0, rest)
  | cs =>
    if (cs.take 3).map Char.toUpper = ['U', 'T', 'C'] then some (0, cs.drop 3)
    else takeDistance cs

/-- Takes a date off the front. -/
def takeDate (cs : List Char) : Option ((Int × Nat × Nat) × List Char) := do
  let (year, cs) ← takeYear cs
  let (month, cs) ← takePair (← takeSeparator '-' cs)
  let (day, cs) ← takePair (← takeSeparator '-' cs)
  some ((year, month, day), cs)

/-- Takes hour, minute and second off the front. -/
def takeClock (cs : List Char) : Option ((Nat × Nat × Nat) × List Char) := do
  let (hour, cs) ← takePair cs
  let (minute, cs) ← takePair (← takeSeparator ':' cs)
  let (second, cs) ← takePair (← takeSeparator ':' cs)
  some ((hour, minute, second), cs)

/-- The parts of a text. -/
def Reading.ofChars? (cs : List Char) : Option Reading := do
  let ((year, month, day), cs) ← takeDate cs
  let cs ← takeMark ['T', 't', ' '] cs
  let ((hour, minute, second), cs) ← takeClock cs
  let (nanos, cs) ← takeFraction cs
  let (ahead, cs) ← takeZone (skipBlanks cs)
  if cs.all isBlank then some ⟨year, month, day, hour, minute, second, nanos, ahead⟩ else none

/-! ## The moment of a text -/

/-- The first and the last year that can be counted. -/
def firstYear : Int := -262143
def lastYear : Int := 262142

/-- A day between the beginning of the first and the end of the last year. -/
def countsDay (day : Int) : Bool := dayOf firstYear 1 1 ≤ day && day ≤ dayOf lastYear 12 31

/-- The date is one of the calendar, the time one of the clock, and the zone less than a day from
universal time. A minute may have a leap second. -/
def Reading.isValid (r : Reading) : Bool :=
  firstYear ≤ r.year && r.year ≤ lastYear &&
    1 ≤ r.month && r.month ≤ 12 && 1 ≤ r.day && r.day ≤ daysInMonth r.year r.month &&
    r.hour ≤ 23 && r.minute ≤ 59 && r.second ≤ 60 && r.ahead.natAbs < 86400

/-- The moment of valid parts. -/
def Reading.moment (r : Reading) : Timestamp :=
  let time := (r.hour * 60 + r.minute) * 60 + min r.second 59
  let leap := if r.second = 60 then nanosPerSecond else 0
  ⟨dayOf r.year r.month r.day * 86400 + time - r.ahead, r.nanos + leap⟩

/-- The moment of a text. One that falls outside of the years that can be counted has none. -/
def read? (s : String) : Option Timestamp := do
  let reading ← Reading.ofChars? s.toList
  if reading.isValid then
    some reading.moment |>.filter fun t => countsDay (t.seconds / 86400)
  else none

end Timestamp

end Gazetteer
