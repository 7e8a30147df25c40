import ExportStream.Text.Ascii
/-!
# Digits

Numbers and characters that are written in digits: numbers in any base up to sixteen, with a sign or
with underscores between their digits, and characters by their code in base sixteen.
-/

namespace ExportStream.Text

/-- The value of a digit in a base of at most sixteen. -/
def digitIn? (base : Nat) (c : Char) : Option Nat := do
  let value ← if c.toNat < 128 then hexValue? (UInt8.ofNat c.toNat) else none
  guard (value < base)
  return value

/-- Is the character a digit in a base of at most sixteen? -/
def isDigitIn (base : Nat) (c : Char) : Bool := (digitIn? base c).isSome

/-- The number that digits, and at least one, write. -/
def natIn? (base : Nat) (cs : List Char) : Option Nat :=
  if cs.isEmpty then none
  else cs.foldlM (fun n c => (digitIn? base c).map fun d => n * base + d) 0

/-- A numeral without its sign, and whether the sign was a minus. -/
def splitSign : List Char → Bool × List Char
  | '-' :: cs => (true, cs)
  | '+' :: cs => (false, cs)
  | cs => (false, cs)

/-- A number with its sign. -/
def withSign (negative : Bool) (n : Nat) : Int := if negative then -(n : Int) else n

/-- The integer that digits behind a sign or none write. -/
def intIn? (base : Nat) (cs : List Char) : Option Int :=
  let (negative, ds) := splitSign cs
  (natIn? base ds).map (withSign negative)

/-- The character with the code that so many digits in base sixteen write, and what is behind. -/
def takeCode (count : Nat) (cs : List Char) : Option (Char × List Char) := do
  let digits := cs.take count
  guard (digits.length = count)
  let n ← natIn? 16 digits
  guard n.isValidChar
  return (Char.ofNat n, cs.drop count)

end ExportStream.Text
