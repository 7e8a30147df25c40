import ExportStream.Decimal.Style
import ExportStream.Text.Ascii
/-!
# Written numbers

How numbers are read from the bytes of a text that is nothing but a number: integers of 64 bits, and
doubles with a point anywhere and an exponent. Besides the finite doubles there are `Extended` ones,
which have words for the infinities and for what is not a number.
-/

namespace ExportStream

namespace Decimal

/-- The number that digits write. -/
def digitsValue (ds : List UInt8) : Nat := ds.foldl (fun n d => n * 10 + (d.toNat - 48)) 0

/-- Digits, and only digits, and at least one. -/
def digits? (ds : List UInt8) : Option Nat :=
  if ds ≠ [] ∧ ds.all Text.isDigit then some (digitsValue ds) else none

/-- A text without its sign, and whether the sign was a minus. -/
def splitSign : List UInt8 → Bool × List UInt8
  | 45 :: ds => (true, ds)
  | 43 :: ds => (false, ds)
  | ds => (false, ds)

/-- An integer that fits in 64 bits with a sign. -/
def fit64 (i : Int) : Option Int :=
  if -0x8000000000000000 ≤ i ∧ i < 0x8000000000000000 then some i else none

/-- The integer of 64 bits that a text writes: a sign or none, and digits. -/
def int64? (text : List UInt8) : Option Int :=
  let (negative, ds) := splitSign text
  (digits? ds).bind fun n => fit64 (if negative then -n else n)

/-- The natural number of 64 bits that a text writes: a plus or none, and digits. -/
def nat64? (text : List UInt8) : Option Nat :=
  let ds :=
    match text with
    | 43 :: ds => ds
    | ds => ds
  (digits? ds).bind fun n => if n < 0x10000000000000000 then some n else none

/-- The power of ten that the part behind the exponent's letter writes. -/
def exponent? (text : List UInt8) : Option Int :=
  let (negative, ds) := splitSign text
  (digits? ds).map fun n => if negative then -(n : Int) else n

/-- A number as digits times a power of ten. -/
structure Literal where
  /-- Is there a minus? -/
  negative : Bool
  /-- The digits, on both sides of the point. -/
  digits : Nat
  /-- The power of ten. -/
  power : Int
  deriving DecidableEq

/-- The number that a text writes: a sign or none, digits with a point anywhere or none, at least
one digit, and an exponent or none. -/
def literal? (text : List UInt8) : Option Literal :=
  let (negative, body) := splitSign text
  let whole := body.takeWhile Text.isDigit
  let rest := body.drop whole.length
  let (fraction, rest) : List UInt8 × List UInt8 :=
    match rest with
    | 46 :: rest => (rest.takeWhile Text.isDigit, rest.dropWhile Text.isDigit)
    | _ => ([], rest)
  let exponent : Option Int :=
    match rest with
    | [] => some 0
    | e :: rest => if e = 101 ∨ e = 69 then exponent? rest else none
  if whole.isEmpty && fraction.isEmpty then none
  else
    exponent.map fun power =>
      { negative, digits := digitsValue (whole ++ fraction), power := power - fraction.length }

/-- The double that a text writes, which is the nearest one; there is none beyond the finite. -/
def real? (text : List UInt8) : Option Binary64 :=
  (literal? text).bind fun l => Binary64.ofDecimal l.negative l.digits l.power

end Decimal

/-- A double, or what stands beside the finite ones. -/
inductive Extended where
  /-- A finite double. -/
  | finite (x : Binary64)
  /-- An infinity. -/
  | infinite (negative : Bool)
  /-- Not a number. -/
  | undefined
  deriving DecidableEq

namespace Extended

/-- The words for what is not finite. -/
def ofWord? (negative : Bool) (word : List UInt8) : Option Extended :=
  let lower := word.map fun b => if 65 ≤ b && b ≤ 90 then b + 32 else b
  if lower = [105, 110, 102] ∨ lower = [105, 110, 102, 105, 110, 105, 116, 121] then
    some (.infinite negative)
  else if lower = [110, 97, 110] then some .undefined
  else none

/-- The number that a text writes; what exceeds the finite doubles is infinite. -/
def read? (text : List UInt8) : Option Extended :=
  let (negative, body) := Decimal.splitSign text
  match ofWord? negative body with
  | some x => some x
  | none =>
    (Decimal.literal? text).map fun l =>
      (Binary64.ofDecimal l.negative l.digits l.power).elim (.infinite l.negative) .finite

/-- The text of a number, never with an exponent. -/
def write : Extended → String
  | .finite x => Decimal.spoken.write x
  | .infinite true => "-inf"
  | .infinite false => "inf"
  | .undefined => "NaN"

/-- Is the number a zero? -/
def isZero : Extended → Bool
  | .finite x => x.isZero
  | _ => false

/-- The nearest natural number of 64 bits: a half goes up, what is below goes to zero and what is
above to the largest. -/
def toNat64 : Extended → Nat
  | .finite x => if x.negative then 0 else min x.roundedAbs (0x10000000000000000 - 1)
  | .infinite negative => if negative then 0 else 0x10000000000000000 - 1
  | .undefined => 0

end Extended

end ExportStream
