import ExportStream.Json.Basic
import ExportStream.Text.Ascii
/-!
# Numbers in JSON texts

How a number in a strict JSON text is read. An integer keeps its value if it fits in 64 bits
(without a sign, or with one). Every other number becomes a double: the leading digits that fit in
64 bits are taken as an integer, the rest is counted into the power of ten, and the double of the
integer is multiplied or divided by the double of that power. The two roundings of this method are
part of the format, so it is not the nearest double of the decimal in every case.
-/

namespace ExportStream.Json

/-- Why a JSON text is refused. -/
inductive Reason where
  /-- The text ends where a value is due. -/
  | eofValue
  /-- The text ends inside an object. -/
  | eofObject
  /-- The text ends inside an array. -/
  | eofList
  /-- The text ends inside a string. -/
  | eofString
  /-- Something stands where a value is due. -/
  | expectedValue
  /-- A word other than `true`, `false` and `null`. -/
  | expectedIdent
  /-- A field has no name. -/
  | keyNotText
  /-- A name is not followed by a colon. -/
  | expectedColon
  /-- A field is followed neither by a comma nor by the closing brace. -/
  | expectedCommaOrBrace
  /-- An item is followed neither by a comma nor by the closing bracket. -/
  | expectedCommaOrBracket
  /-- A comma stands before a closing bracket or brace. -/
  | trailingComma
  /-- Something follows the value. -/
  | trailingCharacters
  /-- Digits that form no number. -/
  | badNumber
  /-- A number beyond the doubles. -/
  | numberOutOfRange
  /-- A backslash before a character that it does not go with. -/
  | badEscape
  /-- A leading surrogate that no escape follows. -/
  | hexEscapeEnd
  /-- A surrogate without its partner. -/
  | loneSurrogate
  /-- A control character inside a string. -/
  | control
  /-- Too many nested values. -/
  | tooDeep
  deriving DecidableEq

/-- The wording of a reason. -/
def Reason.message : Reason → String
  | .eofValue => "EOF while parsing a value"
  | .eofObject => "EOF while parsing an object"
  | .eofList => "EOF while parsing a list"
  | .eofString => "EOF while parsing a string"
  | .expectedValue => "expected value"
  | .expectedIdent => "expected ident"
  | .keyNotText => "key must be a string"
  | .expectedColon => "expected `:`"
  | .expectedCommaOrBrace => "expected `,` or `\x7d`"
  | .expectedCommaOrBracket => "expected `,` or `]`"
  | .trailingComma => "trailing comma"
  | .trailingCharacters => "trailing characters"
  | .badNumber => "invalid number"
  | .numberOutOfRange => "number out of range"
  | .badEscape => "invalid escape"
  | .hexEscapeEnd => "unexpected end of hex escape"
  | .loneSurrogate => "lone leading surrogate in hex escape"
  | .control => "control character (\\u0000-\\u001F) found while parsing a string"
  | .tooDeep => "recursion limit exceeded"

/-- A refusal, and how many bytes lie behind the byte that it blames. -/
structure Refusal where
  /-- Why. -/
  reason : Reason
  /-- The bytes behind the blamed one. -/
  behind : Nat
  deriving DecidableEq

/-- What a step of reading gives: a value and the bytes behind it. -/
abbrev Step (α : Type) := Except Refusal (α × List UInt8)

/-- Blames the byte before `rest`. -/
def blameLast {α : Type} (r : Reason) (rest : List UInt8) : Except Refusal α :=
  .error ⟨r, rest.length⟩

/-- Blames the byte at the front of `rest`, or the end. -/
def blameNext {α : Type} (r : Reason) (rest : List UInt8) : Except Refusal α :=
  .error ⟨r, rest.length - 1⟩

/-- Takes digits into an integer of 64 bits while it can hold them; gives the integer and how many
digits it could not take. -/
def takeDigits (n : Nat) : List UInt8 → Nat × Nat
  | [] => (n, 0)
  | d :: ds =>
    let n' := n * 10 + (d.toNat - 48)
    if n' < 0x10000000000000000 then takeDigits n' ds else (n, ds.length + 1)

/-- The quotient by a power of ten that is itself a double. -/
def divideBy (x : Binary64) (power : Nat) : Binary64 :=
  ((Binary64.ofDecimal false 1 power).bind x.div).getD x

/-- Divides by `10^308` until what is left of the power is at most 308. -/
def divideDown (x : Binary64) (power : Nat) : Binary64 :=
  if power ≤ 308 then divideBy x power
  else if x.isZero then x
  else divideDown (divideBy x 308) (power - 308)
termination_by power

/-- The double of an integer of 64 bits, multiplied or divided by a power of ten. -/
def scale (n : Nat) (power : Int) : Option Binary64 := do
  let x ← Binary64.ofInt n
  if power < 0 then return divideDown x (-power).toNat
  else if power ≤ 308 then
    x.mul (← Binary64.ofDecimal false 1 power)
  else if x.isZero then return x
  else none

/-- A double from its sign, its digits and its power of ten. -/
def realFromParts (negative : Bool) (n : Nat) (power : Int) (rest : List UInt8) : Step Number :=
  match scale n power with
  | some x => .ok (.real (if negative then x.neg else x), rest)
  | none => blameLast .numberOutOfRange rest

/-- The largest power of ten that is counted. -/
def powerLimit : Int := 0x80000000 - 1

/-- Takes the digits of a power of ten while it can be counted; answers nothing, with the digits
behind the first that was too much, where it cannot. -/
def takePower (n : Nat) : List UInt8 → Option Nat × List UInt8
  | [] => (some n, [])
  | d :: rest =>
    if Text.isDigit d then
      let n' := n * 10 + (d.toNat - 48)
      if (n' : Int) ≤ powerLimit then takePower n' rest else (none, rest)
    else (some n, d :: rest)

/-- The exponent, behind its letter. -/
def readExponent (negative : Bool) (n : Nat) (power : Int) (bytes : List UInt8) : Step Number :=
  let (down, digits) : Bool × List UInt8 :=
    match bytes with
    | 43 :: rest => (false, rest)
    | 45 :: rest => (true, rest)
    | _ => (false, bytes)
  match digits with
  | [] => blameLast .eofValue []
  | d :: rest =>
    if Text.isDigit d then
      match takePower (d.toNat - 48) rest with
      | (some e, rest') =>
        let total := if down then power - e else power + e
        realFromParts negative n (max (-powerLimit - 1) (min powerLimit total)) rest'
      | (none, rest') =>
        if n ≠ 0 ∧ !down then blameLast .numberOutOfRange rest'
        else .ok (.real (.zero negative), rest'.dropWhile Text.isDigit)
    else blameLast .badNumber rest

/-- An exponent, if one follows. -/
def readOptionalExponent (negative : Bool) (n : Nat) (power : Int) (bytes : List UInt8) :
    Step Number :=
  match bytes with
  | [] => realFromParts negative n power []
  | b :: rest =>
    if b = 101 ∨ b = 69 then readExponent negative n power rest
    else realFromParts negative n power (b :: rest)

/-- The digits behind the point, and what follows them. -/
def readFraction (negative : Bool) (n : Nat) (power : Int) (bytes : List UInt8) : Step Number :=
  let digits := bytes.takeWhile Text.isDigit
  let rest := bytes.dropWhile Text.isDigit
  if digits.isEmpty then
    if rest.isEmpty then blameNext .eofValue rest else blameNext .badNumber rest
  else
    let (n', untaken) := takeDigits n digits
    readOptionalExponent negative n' (power - (digits.length - untaken : Nat)) rest

/-- The rest of a number whose integral digits are read. -/
def readAfterDigits (negative : Bool) (n : Nat) (untaken : Nat) (bytes : List UInt8) :
    Step Number :=
  match bytes with
  | 46 :: rest => readFraction negative n untaken rest
  | _ =>
    match bytes with
    | 101 :: rest => readExponent negative n untaken rest
    | 69 :: rest => readExponent negative n untaken rest
    | _ =>
      if untaken = 0 ∧ !negative then .ok (.integer n, bytes)
      else if untaken = 0 ∧ 0 < n ∧ n ≤ 0x8000000000000000 then .ok (.integer (-n), bytes)
      else realFromParts negative n untaken bytes

/-- A number behind its sign. -/
def readNumeral (negative : Bool) (bytes : List UInt8) : Step Number :=
  match bytes with
  | [] => blameLast .eofValue []
  | b :: rest =>
    if b = 48 then
      match rest with
      | [] => readAfterDigits negative 0 0 []
      | c :: rest' =>
        if Text.isDigit c then blameNext .badNumber (c :: rest')
        else readAfterDigits negative 0 0 (c :: rest')
    else if Text.isDigit b then
      let (n, untaken) := takeDigits 0 (bytes.takeWhile Text.isDigit)
      readAfterDigits negative n untaken (bytes.dropWhile Text.isDigit)
    else blameLast .badNumber rest

end ExportStream.Json
