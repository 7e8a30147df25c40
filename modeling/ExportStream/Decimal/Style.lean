import ExportStream.Decimal.Shortest
/-!
# Written doubles

How the shortest digits of a double are laid out. A style says which exponents are written
positionally, whether an integral number keeps its `.0`, and which of two equally near texts is
taken; what is not positional is written with an exponent of explicit sign.
-/

namespace ExportStream.Decimal

/-- A layout of digits. -/
structure Style where
  /-- The exponents of the first digit that are written positionally. -/
  positional : Int → Bool
  /-- Does a positional integer end in `.0`? -/
  pointZero : Bool
  /-- Which of two equally near texts is taken? -/
  tie : Tie

/-- Digits as characters. -/
def digitChars (ds : List Nat) : List Char := ds.map fun d => Char.ofNat (48 + d)

/-- Digits in positional notation. -/
def Scientific.plain (s : Scientific) (pointZero : Bool) : List Char :=
  let ds := digitChars s.digits
  if s.exponent < 0 then
    ['0', '.'] ++ List.replicate (-s.exponent - 1).toNat '0' ++ ds
  else
    let places := s.exponent.toNat + 1
    if ds.length ≤ places then
      ds ++ List.replicate (places - ds.length) '0' ++ (if pointZero then ['.', '0'] else [])
    else ds.take places ++ ['.'] ++ ds.drop places

/-- Digits with an exponent. -/
def Scientific.withExponent (s : Scientific) : List Char :=
  let sign := if s.exponent < 0 then '-' else '+'
  let power := (Nat.toDigits 10 s.exponent.natAbs)
  match digitChars s.digits with
  | [] => []
  | d :: ds => d :: ((if ds.isEmpty then [] else '.' :: ds) ++ ['e', sign] ++ power)

/-- A double in a style. -/
def Style.write (style : Style) (x : Binary64) : String :=
  let sign := if x.negative then ['-'] else []
  let body :=
    if x.isZero then (if style.pointZero then ['0', '.', '0'] else ['0'])
    else
      let s := shortest style.tie x
      if style.positional s.exponent then s.plain style.pointZero else s.withExponent
  String.ofList (sign ++ body)

/-- Doubles in messages: never an exponent, no `.0`, and of two equally near texts the greater. -/
def spoken : Style := ⟨fun _ => true, false, .awayFromZero⟩

/-- Doubles in JSON texts: positional from `0.00001` up to sixteen places before the point. -/
def json : Style := ⟨fun e => -5 ≤ e && e ≤ 15, true, .toEven⟩

end ExportStream.Decimal
