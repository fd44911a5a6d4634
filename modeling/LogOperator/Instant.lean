import LogOperator.Text.Class
import LogOperator.Text.Numeral

/-!
# LogOperator.Instant

Points in time as the metadata of objects has them: a day, and a time of that day in universal time, to
the second.

* `Date.next`, `Date.previous`: the days after and before a day.
* `Instant.ofText?`: the instant that a text names in the form of RFC 3339, with a few liberties: blanks
  between its parts, and numbers without leading zeros.
* `Instant.text`: the one text in which an instant is written.
-/

namespace LogOperator

/-! ## Days -/

/-- A day of the Gregorian calendar; the year before the first is zero. -/
structure Date where
  year : Int
  month : Nat
  day : Nat
deriving DecidableEq, Inhabited

namespace Date

/-- The year has a day more than others. -/
def isLeapYear (year : Int) : Bool :=
  year % 4 = 0 && (year % 100 != 0 || year % 400 = 0)

def daysIn (year : Int) (month : Nat) : Nat :=
  if month = 2 then if isLeapYear year then 29 else 28
  else if [4, 6, 9, 11].contains month then 30
  else 31

def isDay (d : Date) : Bool :=
  1 ≤ d.month && d.month ≤ 12 && 1 ≤ d.day && d.day ≤ daysIn d.year d.month

def next (d : Date) : Date :=
  if d.day < daysIn d.year d.month then { d with day := d.day + 1 }
  else if d.month < 12 then ⟨d.year, d.month + 1, 1⟩
  else ⟨d.year + 1, 1, 1⟩

def previous (d : Date) : Date :=
  if 1 < d.day then { d with day := d.day - 1 }
  else if 1 < d.month then ⟨d.year, d.month - 1, daysIn d.year (d.month - 1)⟩
  else ⟨d.year - 1, 12, 31⟩

end Date

/-! ## Instants -/

/-- A second of a day. -/
structure Instant where
  date : Date
  /-- Seconds since the day began. -/
  second : Nat
  /-- It is the second that is put in after the given one. -/
  inserted : Bool
deriving DecidableEq, Inhabited

namespace Instant

/-- The number of seconds of a day. -/
def daySeconds : Int := 86400

/-- The instant so many seconds after the start of a day, less than a day before or after it. -/
def ofSeconds (d : Date) (seconds : Int) (inserted : Bool) : Instant :=
  if seconds < 0 then ⟨d.previous, (seconds + daySeconds).toNat, inserted⟩
  else if seconds < daySeconds then ⟨d, seconds.toNat, inserted⟩
  else ⟨d.next, (seconds - daySeconds).toNat, inserted⟩

/-! ## Reading -/

def skipBlanks (cs : List Char) : List Char :=
  cs.dropWhile Text.isBlank

/-- What follows blanks and an expected character. -/
def after? (c : Char) (cs : List Char) : Option (List Char) :=
  match skipBlanks cs with
  | d :: cs => if d = c then some cs else none
  | [] => none

/-- A number of at least one and at most so many digits, and what follows it. -/
def digits? (most : Nat) (cs : List Char) : Option (Nat × List Char) :=
  let ds := (cs.take most).takeWhile Char.isDigit
  (Text.numeral? 10 ds).map (·, cs.drop ds.length)

/-- A number of up to two digits after blanks, no greater than the given one, and what follows it. -/
def field? (greatest : Nat) (cs : List Char) : Option (Nat × List Char) :=
  (digits? 2 (skipBlanks cs)).filter (·.1 ≤ greatest)

/-- A year, and what follows it.  A year with a sign has any number of digits. -/
def year? (cs : List Char) : Option (Int × List Char) :=
  match skipBlanks cs with
  | '-' :: cs => (digits? cs.length cs).map fun r => (-(r.1 : Int), r.2)
  | '+' :: cs => (digits? cs.length cs).map fun r => ((r.1 : Int), r.2)
  | cs => (digits? 4 cs).map fun r => ((r.1 : Int), r.2)

/-- A day, and what follows it. -/
def date? (cs : List Char) : Option (Date × List Char) := do
  let (year, cs) ← year? cs
  let (month, cs) ← field? 12 (← after? '-' cs)
  let (day, cs) ← field? 31 (← after? '-' cs)
  let d : Date := ⟨year, month, day⟩
  if d.isDay then return (d, cs) else none

/-- What follows the fraction of a second, if there is one. -/
def skipFraction? : List Char → Option (List Char)
  | '.' :: cs => if cs.head?.any Char.isDigit then some (cs.dropWhile Char.isDigit) else none
  | cs => some cs

/-- The seconds since midnight, with whether one is put in after them, and what follows the time. -/
def time? (cs : List Char) : Option ((Nat × Bool) × List Char) := do
  let (hour, cs) ← field? 23 cs
  let (minute, cs) ← field? 59 (← after? ':' cs)
  let (second, cs) ← field? 60 (← after? ':' cs)
  return ((hour * 3600 + minute * 60 + min second 59, second = 60), ← skipFraction? cs)

/-- Whether an offset is taken off or added, and what follows its sign. -/
def sign? : List Char → Option (Bool × List Char)
  | '+' :: cs => some (false, cs)
  | '-' :: cs | '\u2212' :: cs => some (true, cs)
  | _ => none

/-- A number of two digits, and what follows it. -/
def twoDigits? : List Char → Option (Nat × List Char)
  | a :: b :: cs => (Text.numeral? 10 [a, b]).map (·, cs)
  | _ => none

/-- How many seconds local time is ahead of universal time, and what follows. -/
def offset? (cs : List Char) : Option (Int × List Char) :=
  match cs with
  | 'Z' :: cs | 'z' :: cs => some (0, cs)
  | cs =>
    if (cs.take 3).map Char.toUpper = "UTC".toList then some (0, cs.drop 3)
    else do
      let (behind, cs) ← sign? cs
      let (hours, cs) ← twoDigits? cs
      let (minutes, cs) ← (twoDigits? (cs.dropWhile fun c => c = ':' || Text.isBlank c)).filter
        (·.1 ≤ 59)
      let seconds : Int := hours * 3600 + minutes * 60
      if seconds < daySeconds then return (if behind then -seconds else seconds, cs) else none

/-- The years that instants lie in. -/
def isYear (year : Int) : Bool :=
  -262143 ≤ year && year ≤ 262142

/-- The instant that a text names. -/
def ofText? (s : String) : Option Instant := do
  let (date, cs) ← date? s.toList
  let cs ← match cs with
    | 'T' :: cs | 't' :: cs | ' ' :: cs => some cs
    | _ => none
  let ((second, inserted), cs) ← time? cs
  let (ahead, cs) ← offset? (skipBlanks cs)
  let i := ofSeconds date (second - ahead) inserted
  if (skipBlanks cs).isEmpty && isYear date.year && isYear i.date.year then return i else none

/-! ## Writing -/

/-- A number with at least so many digits. -/
def padded (width n : Nat) : String :=
  let ds := Nat.toDigits 10 n
  String.ofList (List.replicate (width - ds.length) '0' ++ ds)

/-- A year of four digits; other years have a sign. -/
def yearText (year : Int) : String :=
  if year < 0 then "-" ++ padded 4 year.natAbs
  else if year ≤ 9999 then padded 4 year.natAbs
  else "+" ++ padded 4 year.natAbs

def text (i : Instant) : String :=
  yearText i.date.year ++ "-" ++ padded 2 i.date.month ++ "-" ++ padded 2 i.date.day
    ++ "T" ++ padded 2 (i.second / 3600) ++ ":" ++ padded 2 (i.second / 60 % 60)
    ++ ":" ++ padded 2 (i.second % 60 + i.inserted.toNat) ++ "Z"

end Instant

end LogOperator
