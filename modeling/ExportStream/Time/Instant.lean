import ExportStream.Text.Blank
/-!
# Instants

Points in time as records state them, in one of two written forms:

* a full date and time with its offset from UTC (`2019-03-04T05:06:07.5Z`), every field of fixed
  width, the date set apart by `T`, `t` or a space;
* a date and time without offset, taken as UTC, whose fields may be short and may stand behind
  blanks, and whose year may carry a sign.

A leap second is second 59 with a billion nanoseconds or more.
-/

namespace ExportStream.Time

/-- A point in time. -/
structure Instant where
  /-- Whole seconds since the start of 1970 in UTC, rounded down. -/
  seconds : Int
  /-- Nanoseconds on top; a billion or more inside a leap second. -/
  nanos : Nat
  deriving DecidableEq

/-! ### The calendar -/

/-- Does the year have 366 days? -/
def isLeapYear (y : Int) : Bool := y % 4 == 0 && (y % 100 != 0 || y % 400 == 0)

/-- The number of days of a month. -/
def daysInMonth (y : Int) (m : Nat) : Nat :=
  if m = 2 then (if isLeapYear y then 29 else 28)
  else if m = 4 ∨ m = 6 ∨ m = 9 ∨ m = 11 then 30
  else 31

/-- The days from the start of 1970 to a date; years are counted from March, so that the leap day is
the last of its year. -/
def daysFromCivil (y : Int) (m d : Nat) : Int :=
  let y' := if m ≤ 2 then y - 1 else y
  let shifted : Int := if m ≤ 2 then m + 9 else m - 3
  365 * y' + y' / 4 - y' / 100 + y' / 400 + (153 * shifted + 2) / 5 + d - 1 - 719468

/-- The parts of a date and time. -/
structure Parts where
  /-- The year. -/
  year : Int
  /-- The month, from 1. -/
  month : Nat
  /-- The day of the month, from 1. -/
  day : Nat
  /-- The hour. -/
  hour : Nat
  /-- The minute. -/
  minute : Nat
  /-- The second, 60 in a leap second. -/
  second : Nat
  /-- The nanoseconds. -/
  nanos : Nat

/-- Is there such a date and time? -/
def Parts.valid (p : Parts) : Bool :=
  -262143 ≤ p.year && p.year ≤ 262142 && 1 ≤ p.month && p.month ≤ 12 && 1 ≤ p.day &&
    p.day ≤ daysInMonth p.year p.month && p.hour ≤ 23 && p.minute ≤ 59 && p.second ≤ 60

/-- The instant of a valid date and time at an offset of so many seconds east of UTC. -/
def Parts.instant? (p : Parts) (offset : Int) : Option Instant :=
  if p.valid then
    let second := min p.second 59
    let nanos := if p.second = 60 then p.nanos + 1000000000 else p.nanos
    let days := daysFromCivil p.year p.month p.day
    some ⟨days * 86400 + p.hour * 3600 + p.minute * 60 + second - offset, nanos⟩
  else none

/-! ### Reading -/

/-- The number that digits write. -/
def numberOf (ds : List Char) : Nat := ds.foldl (fun n d => n * 10 + (d.toNat - 48)) 0

/-- One digit or more, up to a limit, and what follows them. -/
def takeNumber (limit : Nat) (cs : List Char) : Option (Nat × List Char) :=
  let ds := (cs.takeWhile Char.isDigit).take limit
  if ds.isEmpty then none else some (numberOf ds, cs.drop ds.length)

/-- Digits of a fixed count, and what follows them. -/
def takeFixed (count : Nat) (cs : List Char) : Option (Nat × List Char) :=
  let ds := (cs.takeWhile Char.isDigit).take count
  if ds.length = count then some (numberOf ds, cs.drop count) else none

/-- What follows a given character. -/
def takeChar (c : Char) : List Char → Option (List Char)
  | [] => none
  | d :: rest => if d = c then some rest else none

/-- A fraction of a second behind a point, cut to nanoseconds; without a point there is none. -/
def takeFraction : List Char → Option (Nat × List Char)
  | '.' :: rest =>
    let ds := rest.takeWhile Char.isDigit
    if ds.isEmpty then none
    else
      let shown := ds.take 9
      some (numberOf shown * Nat.pow 10 (9 - shown.length), rest.dropWhile Char.isDigit)
  | cs => some (0, cs)

/-- The offset from UTC, in seconds. -/
def takeOffset : List Char → Option (Int × List Char)
  | [] => none
  | c :: rest =>
    if c = 'Z' ∨ c = 'z' then some (0, rest)
    else if c = '+' ∨ c = '-' ∨ c = '\u2212' then do
      let (h, rest) ← takeFixed 2 rest
      let rest ← takeChar ':' rest
      let (m, rest) ← takeFixed 2 rest
      if m < 60 ∧ h < 24 then
        let seconds : Int := h * 3600 + m * 60
        some (if c = '+' then seconds else -seconds, rest)
      else none
    else none

/-- A date and time with its offset. -/
def readWithOffset (cs : List Char) : Option Instant := do
  let (year, cs) ← takeFixed 4 cs
  let cs ← takeChar '-' cs
  let (month, cs) ← takeFixed 2 cs
  let cs ← takeChar '-' cs
  let (day, cs) ← takeFixed 2 cs
  let cs ← (takeChar 'T' cs).orElse fun _ => (takeChar 't' cs).orElse fun _ => takeChar ' ' cs
  let (hour, cs) ← takeFixed 2 cs
  let cs ← takeChar ':' cs
  let (minute, cs) ← takeFixed 2 cs
  let cs ← takeChar ':' cs
  let (second, cs) ← takeFixed 2 cs
  let (nanos, cs) ← takeFraction cs
  let (offset, cs) ← takeOffset cs
  if cs.isEmpty then Parts.instant? ⟨year, month, day, hour, minute, second, nanos⟩ offset
  else none

/-- A year, of at most four digits unless it carries a sign. -/
def takeYear (cs : List Char) : Option (Int × List Char) :=
  match Text.trimFront cs with
  | '-' :: rest => (takeNumber rest.length rest).map fun (n, rest) => (-(n : Int), rest)
  | '+' :: rest => (takeNumber rest.length rest).map fun (n, rest) => ((n : Int), rest)
  | cs => (takeNumber 4 cs).map fun (n, rest) => ((n : Int), rest)

/-- A field of one or two digits behind blanks. -/
def takeField (cs : List Char) : Option (Nat × List Char) := takeNumber 2 (Text.trimFront cs)

/-- A date and time without offset. -/
def readWithoutOffset (cs : List Char) : Option Instant := do
  let (year, cs) ← takeYear cs
  let cs ← takeChar '-' cs
  let (month, cs) ← takeField cs
  let cs ← takeChar '-' cs
  let (day, cs) ← takeField cs
  let cs ← takeChar 'T' cs
  let (hour, cs) ← takeField cs
  let cs ← takeChar ':' cs
  let (minute, cs) ← takeField cs
  let cs ← takeChar ':' cs
  let (second, cs) ← takeField cs
  let (nanos, cs) ← takeFraction cs
  if cs.isEmpty then Parts.instant? ⟨year, month, day, hour, minute, second, nanos⟩ 0
  else none

/-- The instant that a text states, in either form. -/
def Instant.read? (text : String) : Option Instant :=
  (readWithOffset text.toList).orElse fun _ => readWithoutOffset text.toList

end ExportStream.Time
