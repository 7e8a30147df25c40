import ExportStream.Settings.Value
import ExportStream.Text.Digits
import ExportStream.Text.Search
/-!
# Words of TOML texts

A value without quotes and brackets is a word: a truth value, an integer in base ten, sixteen, eight
or two, a double, or a date with or without a time. Between two digits an underscore may stand. A
date is kept as a text in one fixed form.
-/

namespace ExportStream.Settings.Toml

/-- Digits with underscores between them, as digits alone. -/
def plainDigits? (base : Nat) (cs : List Char) : Option (List Char) :=
  let groups := Text.pieces '_' cs
  if groups.all fun g => !g.isEmpty && g.all (Text.isDigitIn base) then some groups.flatten
  else none

/-- The number that digits with underscores between them write. -/
def natural? (base : Nat) (cs : List Char) : Option Nat :=
  (plainDigits? base cs).bind (Text.natIn? base)

/-- The number that digits in base ten write; none is zero. -/
def decimalValue (ds : List Char) : Nat := (Text.natIn? 10 ds).getD 0

/-- Digits that have no zero in front of others. -/
def noLeadingZero (ds : List Char) : Bool := ds.length ≤ 1 || ds.head? ≠ some '0'

/-- An integer of 64 bits. -/
def integer? (word : List Char) : Option Int :=
  match word with
  | '0' :: 'x' :: cs => (natural? 16 cs).bind fun n => Decimal.fit64 n
  | '0' :: 'o' :: cs => (natural? 8 cs).bind fun n => Decimal.fit64 n
  | '0' :: 'b' :: cs => (natural? 2 cs).bind fun n => Decimal.fit64 n
  | word => do
    let (negative, cs) := Text.splitSign word
    let ds ← plainDigits? 10 cs
    guard (noLeadingZero ds)
    Decimal.fit64 (Text.withSign negative (decimalValue ds))

/-- Is the character the letter of an exponent? -/
def isExponentLetter (c : Char) : Bool := c = 'e' || c = 'E'

/-- The digits of an exponent as a power of ten. -/
def power? (cs : List Char) : Option Int := do
  let (negative, cs) := Text.splitSign cs
  return Text.withSign negative (← natural? 10 cs)

/-- A double: with a fraction, an exponent or both, or one of the words for what is not finite. -/
def real? (word : List Char) : Option Extended := do
  let (negative, cs) := Text.splitSign word
  if cs = ['i', 'n', 'f'] then return .infinite negative
  if cs = ['n', 'a', 'n'] then return .undefined
  let mantissa := cs.takeWhile fun c => !isExponentLetter c
  let power ←
    match cs.drop mantissa.length with
    | [] => some 0
    | _ :: rest => power? rest
  let whole ← plainDigits? 10 (mantissa.takeWhile (· ≠ '.'))
  guard (noLeadingZero whole)
  let fraction ←
    match mantissa.dropWhile (· ≠ '.') with
    | [] => if mantissa.length = cs.length then none else some []
    | _ :: rest => plainDigits? 10 rest
  let x ← Binary64.ofDecimal negative (decimalValue (whole ++ fraction)) (power - fraction.length)
  return .finite x

/-! ### Dates and times -/

/-- So many digits. -/
def takeDigits (count : Nat) (cs : List Char) : Option (List Char × List Char) :=
  let ds := cs.take count
  if ds.length = count && ds.all Char.isDigit then some (ds, cs.drop count) else none

/-- A character that has to stand here. -/
def takeMark (c : Char) : List Char → Option (List Char)
  | d :: cs => if c = d then some cs else none
  | [] => none

/-- The number of days of a month. -/
def daysIn (year month : Nat) : Nat :=
  if month = 2 then
    (if year % 4 = 0 && (year % 100 ≠ 0 || year % 400 = 0) then 29 else 28)
  else if month ∈ [4, 6, 9, 11] then 30 else 31

/-- A date, as it is written. -/
def takeDate (cs : List Char) : Option (List Char × List Char) := do
  let (y, cs) ← takeDigits 4 cs
  let cs ← takeMark '-' cs
  let (m, cs) ← takeDigits 2 cs
  let cs ← takeMark '-' cs
  let (d, cs) ← takeDigits 2 cs
  let month := decimalValue m
  let day := decimalValue d
  guard (1 ≤ month ∧ month ≤ 12 ∧ 1 ≤ day ∧ day ≤ daysIn (decimalValue y) month)
  return (y ++ ['-'] ++ m ++ ['-'] ++ d, cs)

/-- A fraction of a second, cut to nine digits and without zeros at its end but for one of its
own. -/
def takeFraction : List Char → Option (List Char × List Char)
  | '.' :: cs =>
    let ds := cs.takeWhile Char.isDigit
    let kept := ((ds.take 9).reverse.dropWhile (· = '0')).reverse
    if ds.isEmpty then none
    else some ('.' :: (if kept.isEmpty then ['0'] else kept), cs.drop ds.length)
  | cs => some ([], cs)

/-- The seconds of a time with their fraction; there may be none. -/
def takeSeconds : List Char → Option (List Char × List Char)
  | ':' :: cs => do
    let (s, cs) ← takeDigits 2 cs
    let (f, cs) ← takeFraction cs
    guard (decimalValue s ≤ 60)
    return (':' :: s ++ f, cs)
  | cs => some ([], cs)

/-- A time, as it is written but for its fraction. -/
def takeTime (cs : List Char) : Option (List Char × List Char) := do
  let (h, cs) ← takeDigits 2 cs
  let cs ← takeMark ':' cs
  let (m, cs) ← takeDigits 2 cs
  let (s, cs) ← takeSeconds cs
  guard (decimalValue h ≤ 23 ∧ decimalValue m ≤ 59)
  return (h ++ [':'] ++ m ++ s, cs)

/-- An offset from the time of Greenwich, which ends the word; there may be none. -/
def takeOffset : List Char → Option (List Char)
  | [] => some []
  | ['Z'] | ['z'] => some ['Z']
  | c :: cs => do
    guard (c = '+' ∨ c = '-')
    let (h, cs) ← takeDigits 2 cs
    let cs ← takeMark ':' cs
    let (m, cs) ← takeDigits 2 cs
    guard (cs.isEmpty ∧ decimalValue h ≤ 23 ∧ decimalValue m ≤ 59)
    let isZero := decimalValue h = 0 ∧ decimalValue m = 0
    return (if isZero then '+' else c) :: h ++ [':'] ++ m

/-- A date, a time or both, in one fixed form. -/
def dateTime? (word : List Char) : Option String :=
  match takeDate word with
  | some (date, []) => some (String.ofList date)
  | some (date, c :: rest) => do
    guard (c = 'T' ∨ c = 't' ∨ c = ' ')
    let (time, rest) ← takeTime rest
    let offset ← takeOffset rest
    return String.ofList (date ++ ['T'] ++ time ++ offset)
  | none =>
    match takeTime word with
    | some (time, []) => some (String.ofList time)
    | _ => none

/-! ### Words -/

/-- May a character stand in a word? -/
def isWordChar (c : Char) : Bool :=
  c.isAlphanum || c = '+' || c = '-' || c = '_' || c = '.' || c = ':'

/-- The value of a word. -/
def scalar? (word : List Char) : Option Value :=
  if word = ['t', 'r', 'u', 'e'] then some (.flag true)
  else if word = ['f', 'a', 'l', 's', 'e'] then some (.flag false)
  else
    match integer? word with
    | some i => some (.integer i)
    | none =>
      match real? word with
      | some x => some (.real x)
      | none => (dateTime? word).map .text

/-- Is the word a date, and does a time stand behind the blank after it? -/
def goesOn (word rest : List Char) : Bool :=
  match takeDate word, rest with
  | some (_, []), ' ' :: c :: _ => c.isDigit
  | _, _ => false

/-- A word and its value. -/
def takeScalar (cs : List Char) : Option (Value × List Char) :=
  let word := cs.takeWhile isWordChar
  let rest := cs.drop word.length
  if goesOn word rest then
    let time := (rest.drop 1).takeWhile isWordChar
    (scalar? (word ++ [' '] ++ time)).map fun v => (v, (rest.drop 1).drop time.length)
  else (scalar? word).map fun v => (v, rest)

end ExportStream.Settings.Toml
