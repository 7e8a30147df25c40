import ExportStream.Json.Basic
import ExportStream.Text.Ascii
/-!
# Writing JSON

The compact text of a value, without any space, and the broken text with two spaces a level. In a
text only the quote, the backslash and the controls below U+0020 are escaped, five of them by
letter.
-/

namespace ExportStream.Json

/-- One character of a text. -/
def writeChar (c : Char) : List Char :=
  if c = '"' then ['\\', '"']
  else if c = '\\' then ['\\', '\\']
  else if c = '\x08' then ['\\', 'b']
  else if c = '\x0c' then ['\\', 'f']
  else if c = '\n' then ['\\', 'n']
  else if c = '\r' then ['\\', 'r']
  else if c = '\t' then ['\\', 't']
  else if c.toNat < 0x20 then
    ['\\', 'u', '0', '0', Text.hexDigit (c.toNat / 16), Text.hexDigit (c.toNat % 16)]
  else [c]

/-- A text between quotes. -/
def writeText (s : String) : List Char := '"' :: (s.toList.flatMap writeChar ++ ['"'])

/-- A number. -/
def writeNumber : Number → List Char
  | .integer i => (toString i).toList
  | .real x => (Decimal.json.write x).toList

mutual

/-- The characters of a value, without any space. -/
def chars : Json → List Char
  | .null => ['n', 'u', 'l', 'l']
  | .bool true => ['t', 'r', 'u', 'e']
  | .bool false => ['f', 'a', 'l', 's', 'e']
  | .number n => writeNumber n
  | .string s => writeText s
  | .array [] => ['[', ']']
  | .array (v :: vs) => '[' :: (chars v ++ itemChars vs)
  | .object [] => ['\x7b', '\x7d']
  | .object ((k, v) :: fs) => '\x7b' :: (writeText k ++ ':' :: (chars v ++ fieldChars fs))

/-- The items after the first, each behind a comma, and the closing bracket. -/
def itemChars : List Json → List Char
  | [] => [']']
  | v :: vs => ',' :: (chars v ++ itemChars vs)

/-- The fields after the first, each behind a comma, and the closing brace. -/
def fieldChars : List (String × Json) → List Char
  | [] => ['\x7d']
  | (k, v) :: fs => ',' :: (writeText k ++ ':' :: (chars v ++ fieldChars fs))

end

/-- The compact text of a value. -/
def compact (v : Json) : String := String.ofList v.chars

/-- A new line at a level. -/
def newLine (level : Nat) : List Char := '\n' :: List.replicate (2 * level) ' '

mutual

/-- The characters of a value at a level, broken into lines. -/
def brokenChars (level : Nat) : Json → List Char
  | .null => ['n', 'u', 'l', 'l']
  | .bool true => ['t', 'r', 'u', 'e']
  | .bool false => ['f', 'a', 'l', 's', 'e']
  | .number n => writeNumber n
  | .string s => writeText s
  | .array [] => ['[', ']']
  | .array (v :: vs) =>
    '[' :: (newLine (level + 1) ++ brokenChars (level + 1) v ++ brokenItems level vs)
  | .object [] => ['\x7b', '\x7d']
  | .object ((k, v) :: fs) =>
    '\x7b' :: (newLine (level + 1) ++ writeText k ++ [':', ' '] ++ brokenChars (level + 1) v ++
      brokenFields level fs)

/-- The items after the first, each on a line of its own, and the closing bracket. -/
def brokenItems (level : Nat) : List Json → List Char
  | [] => newLine level ++ [']']
  | v :: vs => ',' :: (newLine (level + 1) ++ brokenChars (level + 1) v ++ brokenItems level vs)

/-- The fields after the first, each on a line of its own, and the closing brace. -/
def brokenFields (level : Nat) : List (String × Json) → List Char
  | [] => newLine level ++ ['\x7d']
  | (k, v) :: fs =>
    ',' :: (newLine (level + 1) ++ writeText k ++ [':', ' '] ++ brokenChars (level + 1) v ++
      brokenFields level fs)

end

/-- The text of a value, broken into lines. -/
def broken (v : Json) : String := String.ofList (v.brokenChars 0)

end ExportStream.Json
