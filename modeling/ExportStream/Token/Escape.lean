import ExportStream.Text.Ascii
import ExportStream.Text.Utf8
/-!
# Escapes in string tokens

The bytes between the quotes of a string token, decoded. A backslash opens one of eight short
escapes, or a code of four digits in base sixteen; a code that is a high surrogate takes the code
behind it as its low surrogate. What comes out has to be UTF-8.
-/

namespace ExportStream.Escape

/-- Why the bytes of a string are refused. -/
inductive Fault where
  /-- The bytes end behind a backslash. -/
  | unterminated
  /-- A high surrogate that no code follows. -/
  | unpaired
  /-- A high surrogate that a code follows which is no low surrogate. -/
  | lowSurrogate
  /-- A code that is no character, or one that is not even text. -/
  | code
  /-- Four bytes that are no code. -/
  | codeText (text : String)
  /-- Fewer than four bytes where a code is due. -/
  | truncated
  /-- A backslash before a byte that it does not go with. -/
  | letter (b : UInt8)
  /-- What comes out is no UTF-8. -/
  | encoding
  deriving DecidableEq

/-- The wording of a fault. -/
def Fault.message : Fault → String
  | .unterminated => "Unterminated escape sequence"
  | .unpaired => "Unpaired surrogate in string"
  | .lowSurrogate => "Invalid low surrogate in string"
  | .code => "Invalid unicode escape"
  | .codeText text => s!"Invalid unicode escape '{text}'"
  | .truncated => "Truncated unicode escape"
  | .letter b => "Invalid escape '\\" ++ Text.visibleByte b ++ "'"
  | .encoding => "Invalid UTF-8 in string"

/-- The number that digits in base sixteen write; there is at least one. -/
def hexNumber? : List UInt8 → Option Nat
  | [] => none
  | ds => ds.foldl (fun n d => do return (← n) * 16 + (← Text.hexValue? d)) (some 0)

/-- The number that four bytes write: digits in base sixteen, the first of which may be a plus
sign. -/
def codeOf? : List UInt8 → Option Nat
  | 43 :: ds => hexNumber? ds
  | ds => hexNumber? ds

/-- The code of four bytes. -/
def readCode (a b c d : UInt8) : Except Fault Nat :=
  match Text.Utf8.text? [a, b, c, d] with
  | none => .error .code
  | some text =>
    match codeOf? [a, b, c, d] with
    | some n => .ok n
    | none => .error (.codeText text)

/-- The byte that a letter behind a backslash stands for. -/
def short? (b : UInt8) : Option UInt8 :=
  if b = 34 then some 34
  else if b = 92 then some 92
  else if b = 47 then some 47
  else if b = 98 then some 8
  else if b = 102 then some 12
  else if b = 110 then some 10
  else if b = 114 then some 13
  else if b = 116 then some 9
  else none

/-- Is the code a high surrogate? -/
def isHigh (n : Nat) : Bool := 0xD800 ≤ n && n ≤ 0xDBFF

/-- Is the code a low surrogate? -/
def isLow (n : Nat) : Bool := 0xDC00 ≤ n && n ≤ 0xDFFF

/-- The character of a surrogate pair. -/
def pairChar (high low : Nat) : Char :=
  Char.ofNat (0x10000 + (high - 0xD800) * 0x400 + (low - 0xDC00))

/-- The character of a code that is no high surrogate. -/
def charOf? (n : Nat) : Option Char := if n.isValidChar then some (Char.ofNat n) else none

/-- The bytes that the escaped bytes stand for. -/
def expand : List UInt8 → Except Fault (List UInt8)
  | [] => .ok []
  | b :: rest =>
    if b = 92 then
      match rest with
      | [] => .error .unterminated
      | e :: rest =>
        if e = 117 then
          match rest with
          | a :: b :: c :: d :: rest => do
            let high ← readCode a b c d
            if isHigh high then
              match rest with
              | 92 :: 117 :: rest =>
                match rest with
                | a :: b :: c :: d :: rest => do
                  let low ← readCode a b c d
                  if isLow low then
                    return Text.Utf8.encodeChar (pairChar high low) ++ (← expand rest)
                  else .error .lowSurrogate
                | _ => .error .truncated
              | _ => .error .unpaired
            else
              match charOf? high with
              | some ch => return Text.Utf8.encodeChar ch ++ (← expand rest)
              | none => .error .code
          | _ => .error .truncated
        else
          match short? e with
          | some byte => return byte :: (← expand rest)
          | none => .error (.letter e)
    else return b :: (← expand rest)

/-- The text that the bytes between the quotes stand for. -/
def decode (raw : List UInt8) : Except Fault String := do
  match Text.Utf8.text? (← expand raw) with
  | some text => .ok text
  | none => .error .encoding

end ExportStream.Escape
