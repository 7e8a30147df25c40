import ExportStream.Decimal.Literal
import ExportStream.Token.Basic
import ExportStream.Token.Escape
/-!
# Scanning tokens

Tokens are read from a stream that arrives in parts, so that a part may end inside a token. The
scanner keeps what it has of an unfinished token (`Scanner`) and goes on with the next part. `scan`
reads one token, byte by byte: a token ends as soon as its last byte is seen, except for a number,
which ends before the first byte that cannot belong to it, and that byte is left.

A refusal takes nothing from the part that it occurs in.
-/

namespace ExportStream

/-- The words that stand for values. -/
inductive Word where
  /-- `true` -/
  | true
  /-- `false` -/
  | false
  /-- `null` -/
  | null
  deriving DecidableEq

namespace Word

/-- The letters of a word. -/
def text : Word → String
  | .true => "true"
  | .false => "false"
  | .null => "null"

/-- The letters behind the first. -/
def tail : Word → List UInt8
  | .true => [114, 117, 101]
  | .false => [97, 108, 115, 101]
  | .null => [117, 108, 108]

/-- The value of a word. -/
def token : Word → Token
  | .true => .bool Bool.true
  | .false => .bool Bool.false
  | .null => .null

end Word

/-- What is known of an unfinished token. -/
inductive Scanner where
  /-- No token has begun. -/
  | idle
  /-- A string; the bytes so far, last first, and whether a backslash waits for its partner. -/
  | string (reversed : List UInt8) (escaped : Bool)
  /-- A number; the bytes so far, last first. -/
  | number (reversed : List UInt8)
  /-- A word, and the letters that are still due. -/
  | word (w : Word) (due : List UInt8)
  deriving DecidableEq

namespace Scanner

/-- Why the bytes of a token are refused. -/
inductive Fault where
  /-- No token begins with the byte. -/
  | byte (b : UInt8)
  /-- A word goes on with the wrong letter. -/
  | word (w : Word)
  /-- The bytes form no number, or one beyond the doubles. -/
  | number (text : String)
  /-- The bytes of a string cannot be decoded. -/
  | string (f : Escape.Fault)
  deriving DecidableEq

/-- The wording of a fault. -/
def Fault.message : Fault → String
  | .byte b => "Unexpected character '" ++ Text.visibleByte b ++ "'"
  | .word w => "Invalid literal, expected '" ++ w.text ++ "'"
  | .number text => "Invalid number '" ++ text ++ "'"
  | .string f => f.message

/-- Has a token begun that is not finished? -/
def isPartial (s : Scanner) : Bool := s ≠ .idle

/-! ### Classes of bytes -/

/-- The bytes between tokens: space, tab, line feed, carriage return, comma and colon. -/
def isSeparator (b : UInt8) : Bool :=
  b == 32 || b == 9 || b == 10 || b == 13 || b == 44 || b == 58

/-- The bytes that a number may hold: digits, signs, the point and the letters of an exponent. -/
def isNumberByte (b : UInt8) : Bool :=
  Text.isDigit b || b == 45 || b == 43 || b == 46 || b == 101 || b == 69

/-! ### Numbers -/

/-- The number that the bytes of a number token write: an integer if there is neither point nor
exponent and it fits, otherwise a double. -/
def numberToken (text : List UInt8) : Except Fault Token :=
  let plain := text.all fun b => b ≠ 46 ∧ b ≠ 101 ∧ b ≠ 69
  match if plain then Decimal.int64? text else none with
  | some i => .ok (.integer i)
  | none =>
    match Decimal.real? text with
    | some x => .ok (.real x)
    | none => .error (.number (Text.Utf8.lossy text))

/-- The text that the bytes of a string token write. -/
def stringToken (raw : List UInt8) : Except Fault Token :=
  match Escape.decode raw with
  | .ok s => .ok (.string s)
  | .error f => .error (.string f)

/-! ### Scanning -/

/-- What the first byte of a token tells: the token itself, a token that goes on, or nothing. -/
inductive Opening where
  /-- A token of one byte. -/
  | token (t : Token)
  /-- A token that goes on. -/
  | begun (s : Scanner)
  /-- No token begins so. -/
  | refused

/-- What a byte opens. -/
def opening (b : UInt8) : Opening :=
  if b = 123 then .token .startObject
  else if b = 125 then .token .endObject
  else if b = 91 then .token .startArray
  else if b = 93 then .token .endArray
  else if b = 34 then .begun (.string [] false)
  else if b = 45 ∨ Text.isDigit b then .begun (.number [b])
  else if b = 116 then .begun (.word .true Word.true.tail)
  else if b = 102 then .begun (.word .false Word.false.tail)
  else if b = 110 then .begun (.word .null Word.null.tail)
  else .refused

/-- The outcome of scanning a part of the stream. -/
inductive Scan where
  /-- A token, and the bytes behind it. -/
  | token (t : Token) (rest : List UInt8)
  /-- The part is used up; so much is known of the next token. -/
  | more (s : Scanner)
  /-- The bytes are no token. -/
  | fail (f : Fault)
  deriving DecidableEq

/-- A finished token before the given rest. -/
def finish (t : Except Fault Token) (rest : List UInt8) : Scan :=
  match t with
  | .ok t => .token t rest
  | .error f => .fail f

/-- Reads one token from a part of the stream, going on from what is known of it. -/
def scan : Scanner → List UInt8 → Scan
  | s, [] => .more s
  | .idle, b :: rest =>
    if isSeparator b then scan .idle rest
    else
      match opening b with
      | .token t => .token t rest
      | .begun s => scan s rest
      | .refused => .fail (.byte b)
  | .string raw true, b :: rest => scan (.string (b :: raw) false) rest
  | .string raw false, b :: rest =>
    if b = 34 then finish (stringToken raw.reverse) rest
    else scan (.string (b :: raw) (b == 92)) rest
  | .number raw, b :: rest =>
    if isNumberByte b then scan (.number (b :: raw)) rest
    else finish (numberToken raw.reverse) (b :: rest)
  | .word w [], b :: rest => .token w.token (b :: rest)
  | .word w [c], b :: rest => if b = c then .token w.token rest else .fail (.word w)
  | .word w (c :: due), b :: rest => if b = c then scan (.word w due) rest else .fail (.word w)

/-! ### What scanning leaves -/

/-- A finished token leaves at most the bytes that were there, and fewer if none had begun. -/
theorem length_of_scan {s : Scanner} {bytes : List UInt8} {t : Token} {rest : List UInt8}
    (h : scan s bytes = .token t rest) :
    2 * rest.length < 2 * bytes.length + (if s.isPartial then 1 else 0) := by
  fun_induction scan s bytes <;> simp_all [isPartial, finish] <;> grind

/-- A part that is used up has begun no token unless it was there or one had begun. -/
theorem isPartial_of_scan_more {s s' : Scanner} {bytes : List UInt8}
    (h : scan s bytes = .more s') :
    (if s'.isPartial then 1 else 0) ≤ 2 * bytes.length + (if s.isPartial then 1 else 0) := by
  cases bytes with
  | nil => unfold scan at h; simp_all
  | cons b rest => simp only [List.length_cons]; split <;> omega

end Scanner

end ExportStream
