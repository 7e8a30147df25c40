import ExportStream.Text.Ascii
import ExportStream.Text.Unprintable
/-!
# Quoted texts in messages

A text that a message quotes stands between double quotes. Inside, the quote, the backslash and four
controls are written behind a backslash, characters that cannot be seen are written by code, and the
apostrophe is left alone.
-/

namespace ExportStream.Text

/-- One character inside a quoted text. -/
def quotedChar (c : Char) : List Char :=
  if c = '\u0000' then ['\\', '0']
  else if c = '\t' then ['\\', 't']
  else if c = '\r' then ['\\', 'r']
  else if c = '\n' then ['\\', 'n']
  else if c = '\\' then ['\\', '\\']
  else if c = '"' then ['\\', '"']
  else if 0x20 ≤ c.toNat && c.toNat ≤ 0x7E then [c]
  else if isUnprintable c then ['\\', 'u', '\x7b'] ++ (hex c.toNat).toList ++ ['\x7d']
  else [c]

/-- A text as a message quotes it. -/
def quoted (s : String) : String :=
  String.ofList ('"' :: (s.toList.flatMap quotedChar ++ ['"']))

end ExportStream.Text
