import ExportStream.Decimal.Binary64
/-!
# Shortest decimals

The fewest decimal digits that read back to a given finite double, and of all such the nearest to
it; where two are equally near, a rule for ties decides. The digits are found by trying one digit,
two digits and so on up to seventeen: on the grid of decimals with that many digits only the two
neighbours of the number can lie in the interval of reals that round to it.
-/

namespace ExportStream.Decimal

/-- A positive decimal: digits `d₁d₂…` standing for `d₁.d₂… × 10^exponent`. -/
structure Scientific where
  /-- The digits, the first not zero. -/
  digits : List Nat
  /-- The power of ten of the first digit. -/
  exponent : Int
  deriving DecidableEq

/-- A quotient of two naturals. -/
structure Quotient where
  /-- The numerator. -/
  num : Nat
  /-- The denominator. -/
  den : Nat

/-- Compares `n × 10^e` with a quotient. -/
def compareGrid (n : Nat) (e : Int) (q : Quotient) : Ordering :=
  if e < 0 then compare (n * q.den) (q.num * Nat.pow 10 (-e).toNat)
  else compare (n * Nat.pow 10 e.toNat * q.den) q.num

/-- The integral part of a quotient divided by `10^e`. -/
def floorGrid (e : Int) (q : Quotient) : Nat :=
  if e < 0 then q.num * Nat.pow 10 (-e).toNat / q.den else q.num / (q.den * Nat.pow 10 e.toNat)

/-- The power of ten of the first digit of a positive quotient. -/
def leadingExponent (q : Quotient) : Int :=
  let guess := ((Nat.log2 q.num : Int) - Nat.log2 q.den) * 30103 / 100000
  let up := if compareGrid 1 (guess + 1) q != .gt then guess + 1 else guess
  if compareGrid 1 up q == .gt then
    if compareGrid 1 (up - 1) q == .gt then up - 2 else up - 1
  else up

/-- The reals that round to a double, and the double itself. -/
structure Interval where
  /-- The lower end. -/
  low : Quotient
  /-- The double. -/
  value : Quotient
  /-- The upper end. -/
  high : Quotient
  /-- Do the ends belong to the interval? -/
  closed : Bool

/-- The interval of a double that is not zero: its ends lie half way to its neighbours. -/
def intervalOf (x : Binary64) : Interval :=
  let m := x.significand
  let below := if m = 0x10000000000000 && 1 < x.field then 4 * m - 1 else 4 * m - 2
  let scale (k : Nat) : Quotient :=
    if x.exponent < 2 then ⟨k, Nat.pow 2 (2 - x.exponent).toNat⟩
    else ⟨k * Nat.pow 2 (x.exponent - 2).toNat, 1⟩
  ⟨scale below, scale (4 * m), scale (4 * m + 2), m % 2 = 0⟩

/-- Does a grid point that is not above the number round to it? -/
def Interval.holdsBelow (i : Interval) (n : Nat) (e : Int) : Bool :=
  match compareGrid n e i.low with
  | .gt => true
  | .eq => i.closed
  | .lt => false

/-- Does a grid point that is above the number round to it? -/
def Interval.holdsAbove (i : Interval) (n : Nat) (e : Int) : Bool :=
  match compareGrid n e i.high with
  | .lt => true
  | .eq => i.closed
  | .gt => false

/-- Which of two equally near decimals is taken. -/
inductive Tie where
  /-- The one that ends in an even digit. -/
  | toEven
  /-- The one farther from zero. -/
  | awayFromZero
  deriving DecidableEq

/-- The grid point that a tie between `n` and `n + 1` goes to. -/
def Tie.pick : Tie → Nat → Nat
  | .toEven, n => if n % 2 = 0 then n else n + 1
  | .awayFromZero, n => n + 1

/-- The nearer of the grid points `n` and `n + 1`. -/
def nearerOf (tie : Tie) (n : Nat) (e : Int) (q : Quotient) : Nat :=
  match compareGrid (2 * n + 1) e ⟨2 * q.num, q.den⟩ with
  | .lt => n + 1
  | .gt => n
  | .eq => tie.pick n

/-- The point of a grid that reads back, if there is one. -/
def Interval.onGrid? (i : Interval) (tie : Tie) (e : Int) : Option Nat :=
  let n := floorGrid e i.value
  match i.holdsBelow n e, i.holdsAbove (n + 1) e with
  | true, true => some (nearerOf tie n e i.value)
  | true, false => some n
  | false, true => some (n + 1)
  | false, false => none

/-- The digits of a number without the zeros at its end. -/
def significantDigits (n : Nat) : List Nat :=
  ((Nat.toDigits 10 n).map fun c => c.toNat - 48).reverse.dropWhile (· = 0) |>.reverse

/-- A grid point as digits and exponent. -/
def Scientific.ofGrid (n : Nat) (e : Int) : Scientific :=
  ⟨significantDigits n, e + (Nat.toDigits 10 n).length - 1⟩

/-- The first grid with a point that reads back, from `count` digits on. -/
def shortestFrom (i : Interval) (tie : Tie) (lead : Int) (count : Nat) : Nat → Scientific
  | 0 => .ofGrid (floorGrid (lead - 16) i.value) (lead - 16)
  | fuel + 1 =>
    let e := lead - (count - 1 : Nat)
    match i.onGrid? tie e with
    | some n => .ofGrid n e
    | none => shortestFrom i tie lead (count + 1) fuel

/-- The shortest decimal of a double that is not zero, without its sign. -/
def shortest (tie : Tie) (x : Binary64) : Scientific :=
  let i := intervalOf x
  shortestFrom i tie (leadingExponent i.value) 1 17

end ExportStream.Decimal
