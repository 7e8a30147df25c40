/-!
# ASCII

The part of text handling that looks at single bytes: digits in base ten and sixteen, lower-case
folding of the ASCII letters, and the visible form of one byte in a message.
-/

namespace ExportStream.Text

/-- The digit in base sixteen that stands for `n`, in lower case; `n` is below sixteen. -/
def hexDigit (n : Nat) : Char :=
  if n < 10 then Char.ofNat (48 + n) else Char.ofNat (87 + n)

/-- The number in base sixteen, in lower case, without leading zeros. -/
def hex (n : Nat) : String := String.ofList (Nat.toDigits 16 n)

/-- The two digits in base sixteen of a byte. -/
def hexByte (b : UInt8) : String := String.ofList [hexDigit (b.toNat / 16), hexDigit (b.toNat % 16)]

/-- The digits in base sixteen of a run of bytes, two to a byte. -/
def hexBytes (bytes : List UInt8) : String :=
  String.ofList (bytes.flatMap fun b => [hexDigit (b.toNat / 16), hexDigit (b.toNat % 16)])

/-- Is the byte one of the ten digits? -/
def isDigit (b : UInt8) : Bool := 48 ≤ b && b ≤ 57

/-- The value of a digit in base sixteen, of either case. -/
def hexValue? (b : UInt8) : Option Nat :=
  if isDigit b then some (b.toNat - 48)
  else if 97 ≤ b && b ≤ 102 then some (b.toNat - 87)
  else if 65 ≤ b && b ≤ 70 then some (b.toNat - 55)
  else none

/-- The ASCII letter in lower case; every other character is left alone. -/
def lowerChar (c : Char) : Char := c.toLower

/-- The text with its ASCII letters in lower case. -/
def lower (s : String) : String := String.ofList (s.toList.map lowerChar)

/-- Two texts that differ at most in the case of ASCII letters. -/
def sameIgnoringCase (s t : String) : Bool := lower s == lower t

/-- One byte as messages show it: printable ASCII as itself, quotes and the backslash behind a
backslash, tab, carriage return and line feed by letter, every other byte as `\x` and two digits. -/
def visibleByte (b : UInt8) : String :=
  if b = 9 then "\\t"
  else if b = 13 then "\\r"
  else if b = 10 then "\\n"
  else if b = 39 then "\\'"
  else if b = 34 then "\\\""
  else if b = 92 then "\\\\"
  else if 32 ≤ b && b ≤ 126 then String.ofList [Char.ofNat b.toNat]
  else "\\x" ++ hexByte b

end ExportStream.Text
