import ExportStream.Json.Numeral
import ExportStream.Text.Utf8
/-!
# Reading JSON texts

A strict reader of JSON texts: no comments, no trailing commas, at most 127 nested arrays and
objects. A refusal names the line, and the bytes of that line up to the blamed one.

`readRaw` keeps the fields of an object as they were written; `read` puts them in order, the last
of one name staying.
-/

namespace ExportStream.Json

/-- Blanks between the parts of a text. -/
def isSpace (b : UInt8) : Bool := b == 32 || b == 10 || b == 9 || b == 13

/-- The bytes behind the blanks at the front. -/
def skipSpace (bytes : List UInt8) : List UInt8 := bytes.dropWhile isSpace

/-- The rest of a word whose first letter is read. -/
def readWord (v : Json) : List UInt8 → List UInt8 → Except Refusal (Json × List UInt8)
  | [], bytes => .ok (v, bytes)
  | _ :: _, [] => blameLast .eofValue []
  | w :: ws, b :: rest => if b = w then readWord v ws rest else blameLast .expectedIdent rest

/-- Four digits in base sixteen. -/
def readHex4 : List UInt8 → Except Refusal (Nat × List UInt8)
  | a :: b :: c :: d :: rest =>
    match Text.hexValue? a, Text.hexValue? b, Text.hexValue? c, Text.hexValue? d with
    | some a, some b, some c, some d => .ok (((a * 16 + b) * 16 + c) * 16 + d, rest)
    | _, _, _, _ => blameLast .badEscape rest
  | _ => blameLast .eofString []

/-- The second half of a surrogate pair. -/
def readLowSurrogate (high : Nat) : List UInt8 → Except Refusal (List UInt8 × List UInt8)
  | [] => blameLast .eofString []
  | 92 :: [] => blameLast .eofString []
  | 92 :: 117 :: rest => do
    let (low, rest) ← readHex4 rest
    if low < 0xDC00 ∨ 0xDFFF < low then blameLast .loneSurrogate rest
    else
      let code := 0x10000 + (high - 0xD800) * 0x400 + (low - 0xDC00)
      .ok (Text.Utf8.encodeChar (Char.ofNat code), rest)
  | 92 :: _ :: rest => blameLast .hexEscapeEnd rest
  | _ :: rest => blameLast .hexEscapeEnd rest

/-- The bytes that an escape stands for, behind its backslash. -/
def readEscape : List UInt8 → Except Refusal (List UInt8 × List UInt8)
  | [] => blameLast .eofString []
  | b :: rest =>
    if b = 34 ∨ b = 92 ∨ b = 47 then .ok ([b], rest)
    else if b = 98 then .ok ([8], rest)
    else if b = 102 then .ok ([12], rest)
    else if b = 110 then .ok ([10], rest)
    else if b = 114 then .ok ([13], rest)
    else if b = 116 then .ok ([9], rest)
    else if b = 117 then do
      let (code, rest) ← readHex4 rest
      if 0xDC00 ≤ code ∧ code ≤ 0xDFFF then blameLast .loneSurrogate rest
      else if 0xD800 ≤ code ∧ code ≤ 0xDBFF then readLowSurrogate code rest
      else .ok (Text.Utf8.encodeChar (Char.ofNat code), rest)
    else blameLast .badEscape rest

/-- The bytes of a string behind its opening quote; the fuel bounds its parts. -/
def readStringBytes : Nat → List UInt8 → Except Refusal (List UInt8 × List UInt8)
  | 0, bytes => blameLast .eofString bytes
  | _, [] => blameLast .eofString []
  | fuel + 1, b :: rest =>
    if b = 34 then .ok ([], rest)
    else if b = 92 then do
      let (part, rest) ← readEscape rest
      let (more, rest) ← readStringBytes fuel rest
      .ok (part ++ more, rest)
    else if b < 32 then blameLast .control rest
    else do
      let (more, rest) ← readStringBytes fuel rest
      .ok (b :: more, rest)

/-- A string behind its opening quote. -/
def readString (bytes : List UInt8) : Except Refusal (String × List UInt8) := do
  let (content, rest) ← readStringBytes (bytes.length + 1) bytes
  .ok (Text.Utf8.lossy content, rest)

/-- The number of arrays and objects that may stand inside each other. -/
def nestingLimit : Nat := 127

mutual

/-- A value; `depth` more levels may be opened, and the fuel bounds the parts. -/
def readValue : (fuel depth : Nat) → List UInt8 → Except Refusal (Json × List UInt8)
  | 0, _, bytes => blameNext .eofValue bytes
  | fuel + 1, depth, bytes =>
    match skipSpace bytes with
    | [] => blameNext .eofValue []
    | b :: rest =>
      if b = 110 then readWord .null [117, 108, 108] rest
      else if b = 116 then readWord (.bool true) [114, 117, 101] rest
      else if b = 102 then readWord (.bool false) [97, 108, 115, 101] rest
      else if b = 45 then (readNumeral true rest).map fun (n, rest) => (.number n, rest)
      else if Text.isDigit b then
        (readNumeral false (b :: rest)).map fun (n, rest) => (.number n, rest)
      else if b = 34 then (readString rest).map fun (s, rest) => (.string s, rest)
      else if b = 91 then
        if depth = 0 then blameNext .tooDeep (b :: rest)
        else (readItems fuel (depth - 1) true rest).map fun (vs, rest) => (.array vs, rest)
      else if b = 123 then
        if depth = 0 then blameNext .tooDeep (b :: rest)
        else (readFields fuel (depth - 1) true rest).map fun (fs, rest) => (.object fs, rest)
      else blameNext .expectedValue (b :: rest)

/-- The items of an array and its closing bracket; `first` tells that none is read yet. -/
def readItems : (fuel depth : Nat) → (first : Bool) → List UInt8 →
    Except Refusal (List Json × List UInt8)
  | 0, _, _, bytes => blameNext .eofList bytes
  | fuel + 1, depth, first, bytes =>
    match skipSpace bytes with
    | [] => blameNext .eofList []
    | b :: rest =>
      if b = 93 then .ok ([], rest)
      else if first then do
        let (v, rest) ← readValue fuel depth (b :: rest)
        let (vs, rest) ← readItems fuel depth false rest
        .ok (v :: vs, rest)
      else if b = 44 then
        match skipSpace rest with
        | [] => blameNext .eofValue []
        | c :: rest =>
          if c = 93 then blameNext .trailingComma (c :: rest)
          else do
            let (v, rest) ← readValue fuel depth (c :: rest)
            let (vs, rest) ← readItems fuel depth false rest
            .ok (v :: vs, rest)
      else blameNext .expectedCommaOrBracket (b :: rest)

/-- The fields of an object and its closing brace; `first` tells that none is read yet. -/
def readFields : (fuel depth : Nat) → (first : Bool) → List UInt8 →
    Except Refusal (List (String × Json) × List UInt8)
  | 0, _, _, bytes => blameNext .eofObject bytes
  | fuel + 1, depth, first, bytes =>
    match skipSpace bytes with
    | [] => blameNext .eofObject []
    | b :: rest =>
      if b = 125 then .ok ([], rest)
      else if first then
        if b = 34 then readField fuel depth rest else blameNext .keyNotText (b :: rest)
      else if b = 44 then
        match skipSpace rest with
        | [] => blameNext .eofValue []
        | c :: rest =>
          if c = 34 then readField fuel depth rest
          else if c = 125 then blameNext .trailingComma (c :: rest)
          else blameNext .keyNotText (c :: rest)
      else blameNext .expectedCommaOrBrace (b :: rest)

/-- A field behind the opening quote of its name, and the fields after it. -/
def readField : (fuel depth : Nat) → List UInt8 →
    Except Refusal (List (String × Json) × List UInt8)
  | 0, _, bytes => blameNext .eofObject bytes
  | fuel + 1, depth, bytes => do
    let (name, rest) ← readString bytes
    match skipSpace rest with
    | [] => blameNext .eofObject []
    | c :: rest =>
      if c = 58 then
        let (v, rest) ← readValue fuel depth rest
        let (fs, rest) ← readFields fuel depth false rest
        .ok ((name, v) :: fs, rest)
      else blameNext .expectedColon (c :: rest)

end

/-- A whole text, its objects as they were written. -/
def readBytes (bytes : List UInt8) : Except Refusal Json := do
  let (v, rest) ← readValue (2 * bytes.length + 2) nestingLimit bytes
  match skipSpace rest with
  | [] => .ok v
  | rest => blameNext .trailingCharacters rest

/-- The line and the column of the byte that lies `behind` bytes before the end. -/
def lineAndColumn (bytes : List UInt8) (behind : Nat) : Nat × Nat :=
  let read := bytes.take (bytes.length - behind)
  (read.count 10 + 1, (read.reverse.takeWhile (· ≠ 10)).length)

/-- The wording of a refusal of a text. -/
def Refusal.message (r : Refusal) (bytes : List UInt8) : String :=
  let (line, column) := lineAndColumn bytes r.behind
  s!"{r.reason.message} at line {line} column {column}"

/-- The value of a text, its objects as they were written, or the wording of the refusal. -/
def readRaw (text : String) : Except String Json :=
  let bytes := Text.Utf8.bytesOf text
  match readBytes bytes with
  | .ok v => .ok v
  | .error r => .error (r.message bytes)

/-- The value of a text, or the wording of the refusal. -/
def read (text : String) : Except String Json := (readRaw text).map inOrder

end ExportStream.Json
