/-!
# Finite binary64 numbers

A finite double is a sign and a magnitude. The magnitude is the number's position among the finite
doubles that are not negative, counted from zero: it holds the exponent field above the 52 bits of
the fraction, so that a larger magnitude is a larger number and a carry out of the fraction raises
the exponent.

`nearest` rounds a positive quotient to the nearest double, a tie going to the even neighbour, and
answers nothing where the result would be infinite. Products and quotients round once from the exact
value.
-/

namespace ExportStream

/-- A finite binary64 number. -/
structure Binary64 where
  /-- Is the sign bit set? -/
  negative : Bool
  /-- The exponent field above the fraction. -/
  magnitude : Nat
  /-- The exponent field is not that of the infinities. -/
  finite : magnitude < 2047 * 0x10000000000000
  deriving DecidableEq

namespace Binary64

/-- Zero, of the given sign. -/
def zero (negative : Bool) : Binary64 := ⟨negative, 0, by decide⟩

/-- Is the number zero, of either sign? -/
def isZero (x : Binary64) : Bool := x.magnitude == 0

/-- The same number with the other sign. -/
def neg (x : Binary64) : Binary64 := { x with negative := !x.negative }

/-- The exponent field. -/
def field (x : Binary64) : Nat := x.magnitude / 0x10000000000000

/-- The integral significand: the fraction, under the hidden bit where there is one. -/
def significand (x : Binary64) : Nat :=
  if x.field = 0 then x.magnitude else x.magnitude % 0x10000000000000 + 0x10000000000000

/-- The power of two that the significand counts. -/
def exponent (x : Binary64) : Int := (max x.field 1 : Nat) - 1075

/-- A quotient rounded to the nearest integer, a tie to the even one. -/
def roundHalfEven (num den : Nat) : Nat :=
  let q := num / den
  let r := num % den
  if 2 * r < den then q
  else if den < 2 * r then q + 1
  else if q % 2 = 0 then q else q + 1

/-- A numerator and denominator of the quotient divided by a power of two. -/
def scaled (num den : Nat) (e : Int) : Nat × Nat :=
  if e < 0 then (num * Nat.pow 2 (-e).toNat, den) else (num, den * Nat.pow 2 e.toNat)

/-- The power of two that the significand of the double nearest to a quotient counts. -/
def exponentFor (num den : Nat) : Int :=
  let e : Int := (Nat.log2 num : Int) - Nat.log2 den - 53
  let (n, d) := scaled num den e
  let e := if n < d * 0x20000000000000 then e else e + 1
  max e (-1074)

/-- The magnitude of the double nearest to a quotient, without regard to the largest one. -/
def magnitudeFor (num den : Nat) : Nat :=
  if num = 0 then 0
  else
    let e := exponentFor num den
    let (n, d) := scaled num den e
    (e + 1074).toNat * 0x10000000000000 + roundHalfEven n d

/-- The double nearest to a quotient, unless that would be infinite. -/
def nearest (negative : Bool) (num den : Nat) : Option Binary64 :=
  let m := magnitudeFor num den
  if h : m < 2047 * 0x10000000000000 then some ⟨negative, m, h⟩ else none

/-- The double nearest to an integer, unless that would be infinite. -/
def ofInt (i : Int) : Option Binary64 := nearest (i < 0) i.natAbs 1

/-- The double nearest to `digits` times a power of ten, unless that would be infinite. Powers so
large or so small that only the outcome's kind is left are not computed. -/
def ofDecimal (negative : Bool) (digits : Nat) (power : Int) : Option Binary64 :=
  if digits = 0 then some (zero negative)
  else
    let size : Int := (Nat.toDigits 10 digits).length + power
    if 310 < size then none
    else if size < -330 then some (zero negative)
    else if power < 0 then nearest negative digits (Nat.pow 10 (-power).toNat)
    else nearest negative (digits * Nat.pow 10 power.toNat) 1

/-- The exact value without its sign, as a numerator and a denominator. -/
def ratio (x : Binary64) : Nat × Nat :=
  if x.exponent < 0 then (x.significand, Nat.pow 2 (-x.exponent).toNat)
  else (x.significand * Nat.pow 2 x.exponent.toNat, 1)

/-- The product, unless it is infinite. -/
def mul (x y : Binary64) : Option Binary64 :=
  let (a, b) := x.ratio
  let (c, d) := y.ratio
  nearest (x.negative != y.negative) (a * c) (b * d)

/-- The quotient by a number that is not zero, unless it is infinite. -/
def div (x y : Binary64) : Option Binary64 :=
  let (a, b) := x.ratio
  let (c, d) := y.ratio
  nearest (x.negative != y.negative) (a * d) (b * c)

/-- The nearest integer without the sign, a half going away from zero. -/
def roundedAbs (x : Binary64) : Nat :=
  let (n, d) := x.ratio
  (2 * n + d) / (2 * d)

end Binary64

end ExportStream
