import ExportStream.Settings.Value
import ExportStream.Text.Blank
import ExportStream.Text.Digits
import ExportStream.Text.Letter
/-!
# Reading JSON5 texts

JSON5 is JSON as people write it: with comments, with names that need no quotes, with quotes of
either kind, with a comma behind the last item, and with more ways to write a number.

`Json5.read?` answers the named values of a text that is an object; of one name the last value
stays.
-/

namespace ExportStream.Settings.Json5

/-! ### Between the parts -/

/-- Does a character end a line? -/
def isLineEnd (c : Char) : Bool := c = '\n' || c = '\r' || c = '\u2028' || c = '\u2029'

/-- May a character stand between the parts of a text? -/
def isSpace (c : Char) : Bool := c = '\uFEFF' || (Text.isBlank c && c ≠ '\u0085')

/-- The characters behind the end of a comment. -/
def closeComment? : List Char → Option (List Char)
  | '*' :: '/' :: cs => some cs
  | _ :: cs => closeComment? cs
  | [] => none

/-- The characters behind blanks and comments; the fuel bounds the comments. A comment that is not
closed is left in front. -/
def skip : Nat → List Char → List Char
  | 0, cs => cs
  | fuel + 1, cs =>
    match cs.dropWhile isSpace with
    | '/' :: '/' :: cs => skip fuel (cs.dropWhile fun c => !isLineEnd c)
    | '/' :: '*' :: cs =>
      match closeComment? cs with
      | some rest => skip fuel rest
      | none => '/' :: '*' :: cs
    | cs => cs

/-- The first character behind blanks and comments, and what follows it. -/
def next (cs : List Char) : List Char := skip cs.length cs

/-! ### Texts -/

/-- A character by its code of four digits; one beyond the first plane is written as two halves. -/
def takeUnits (cs : List Char) : Option (Char × List Char) := do
  match Text.takeCode 4 cs with
  | some r => return r
  | none =>
    let high ← Text.natIn? 16 (cs.take 4)
    match cs.drop 4 with
    | '\\' :: 'u' :: rest =>
      let low ← Text.natIn? 16 (rest.take 4)
      guard (0xD800 ≤ high ∧ high < 0xDC00 ∧ 0xDC00 ≤ low ∧ low < 0xE000)
      return (Char.ofNat (0x10000 + (high - 0xD800) * 0x400 + (low - 0xDC00)), rest.drop 4)
    | _ => none

/-- What an escape stands for, behind its backslash: a line end for nothing, and any character
without a meaning of its own for itself, but for the digits. -/
def takeEscape : List Char → Option (List Char × List Char)
  | 'b' :: cs => some (['\x08'], cs)
  | 'f' :: cs => some (['\x0c'], cs)
  | 'n' :: cs => some (['\n'], cs)
  | 'r' :: cs => some (['\r'], cs)
  | 't' :: cs => some (['\t'], cs)
  | 'v' :: cs => some (['\x0b'], cs)
  | '0' :: cs => some (['\x00'], cs)
  | 'x' :: cs => (Text.takeCode 2 cs).map fun (c, rest) => ([c], rest)
  | 'u' :: cs => (takeUnits cs).map fun (c, rest) => ([c], rest)
  | '\r' :: '\n' :: cs => some ([], cs)
  | c :: cs =>
    if isLineEnd c then some ([], cs) else if c.isDigit then none else some ([c], cs)
  | [] => none

/-- The rest of a text in quotes, and what is behind the closing one; the fuel bounds the parts. -/
def takeQuoted (quote : Char) : Nat → List Char → Option (List Char × List Char)
  | 0, _ => none
  | _, [] => none
  | fuel + 1, c :: cs =>
    if c = quote then some ([], cs)
    else do
      guard (!isLineEnd c)
      let (part, cs) ← if c = '\\' then takeEscape cs else some ([c], cs)
      let (more, rest) ← takeQuoted quote fuel cs
      return (part ++ more, rest)

/-- A text in quotes of either kind. -/
def takeText : List Char → Option (String × List Char)
  | [] => none
  | c :: cs => do
    guard (c = '"' ∨ c = '\'')
    let (s, rest) ← takeQuoted c (cs.length + 1) cs
    return (String.ofList s, rest)

/-! ### Names -/

/-- May a name without quotes begin with a character? -/
def startsName (c : Char) : Bool :=
  c = '$' || c = '_' || (Text.isLetterOrNumber c && !c.isDigit)

/-- May a character stand in a name without quotes? -/
def isNameChar (c : Char) : Bool :=
  startsName c || c.isDigit || c = '\u200C' || c = '\u200D'

/-- The characters of a name without quotes; the fuel bounds them. -/
def takeNameChars : Nat → (isPart : Char → Bool) → List Char → Option (List Char × List Char)
  | 0, _, cs => some ([], cs)
  | fuel + 1, _, '\\' :: 'u' :: cs => do
    let (c, cs) ← takeUnits cs
    let (more, rest) ← takeNameChars fuel isNameChar cs
    return (c :: more, rest)
  | fuel + 1, isPart, c :: cs =>
    if isPart c then do
      let (more, rest) ← takeNameChars fuel isNameChar cs
      return (c :: more, rest)
    else some ([], c :: cs)
  | _, _, [] => some ([], [])

/-- A name, with quotes or without. -/
def takeName (cs : List Char) : Option (String × List Char) :=
  match takeText cs with
  | some r => some r
  | none => do
    let (name, rest) ← takeNameChars cs.length startsName cs
    guard (!name.isEmpty)
    return (String.ofList name, rest)

/-! ### Numbers -/

/-- The characters of the exponent at the front, or none of them. -/
def exponentOf : List Char → List Char
  | e :: cs =>
    let sign := (cs.take 1).filter fun c => c = '+' || c = '-'
    let digits := (cs.drop sign.length).takeWhile Char.isDigit
    if (e = 'e' || e = 'E') && !digits.isEmpty then e :: sign ++ digits else []
  | [] => []

/-- The characters of the digits in front of a point: a zero stands alone. -/
def wholeOf : List Char → List Char
  | '0' :: _ => ['0']
  | cs => cs.takeWhile Char.isDigit

/-- The characters of a point and the digits behind it, or none of them. -/
def fractionOf : List Char → List Char
  | '.' :: cs => '.' :: cs.takeWhile Char.isDigit
  | _ => []

/-- A number in base ten: an integer of 64 bits, or a double if a point or an exponent is there. -/
def takeDecimal (sign cs : List Char) : Option (Value × List Char) := do
  let whole := wholeOf cs
  let fraction := fractionOf (cs.drop whole.length)
  guard (!whole.isEmpty || 1 < fraction.length)
  let mantissa := whole ++ fraction
  let exponent := exponentOf (cs.drop mantissa.length)
  let bytes := Text.Utf8.bytesOf (String.ofList (sign ++ mantissa ++ exponent))
  let rest := cs.drop (mantissa ++ exponent).length
  if fraction.isEmpty && exponent.isEmpty then return (.integer (← Decimal.int64? bytes), rest)
  else return (.real (.finite (← Decimal.real? bytes)), rest)

/-- A number in base sixteen, of at most 32 bits. -/
def takeHex (cs : List Char) : Option (Value × List Char) := do
  let digits := cs.takeWhile (Text.isDigitIn 16)
  let n ← Text.natIn? 16 digits
  guard (n < 0x100000000)
  return (.integer n, cs.drop digits.length)

/-- A number behind its sign. Base sixteen goes without a sign, and the words without a plus. -/
def takeUnsigned (sign : List Char) : List Char → Option (Value × List Char)
  | '0' :: 'x' :: cs | '0' :: 'X' :: cs => if sign.isEmpty then takeHex cs else none
  | 'I' :: 'n' :: 'f' :: 'i' :: 'n' :: 'i' :: 't' :: 'y' :: cs =>
    if sign = ['+'] then none else some (.real (.infinite (!sign.isEmpty)), cs)
  | 'N' :: 'a' :: 'N' :: cs => if sign = ['+'] then none else some (.real .undefined, cs)
  | cs => takeDecimal sign cs

/-- A number. -/
def takeNumber (cs : List Char) : Option (Value × List Char) :=
  let sign := (cs.take 1).filter fun c => c = '+' || c = '-'
  takeUnsigned sign (cs.drop sign.length)

/-! ### Values -/

mutual

/-- A value at the front; the fuel bounds its parts. -/
def takeValue : Nat → List Char → Option (Value × List Char)
  | 0, _ => none
  | fuel + 1, cs =>
    match cs with
    | 'n' :: 'u' :: 'l' :: 'l' :: cs => some (.nothing, cs)
    | 't' :: 'r' :: 'u' :: 'e' :: cs => some (.flag true, cs)
    | 'f' :: 'a' :: 'l' :: 's' :: 'e' :: cs => some (.flag false, cs)
    | '[' :: cs => (takeItems fuel (next cs)).map fun (vs, rest) => (.list vs, rest)
    | '\x7b' :: cs => (takeFields fuel [] (next cs)).map fun (fs, rest) => (.table fs, rest)
    | cs =>
      match takeText cs with
      | some (s, rest) => some (.text s, rest)
      | none => takeNumber cs

/-- The items of an array, and its closing bracket. -/
def takeItems : Nat → List Char → Option (List Value × List Char)
  | 0, _ => none
  | fuel + 1, cs =>
    match cs with
    | ']' :: rest => some ([], rest)
    | cs => do
      let (v, rest) ← takeValue fuel cs
      match next rest with
      | ']' :: rest => return ([v], rest)
      | ',' :: rest =>
        let (vs, rest) ← takeItems fuel (next rest)
        return (v :: vs, rest)
      | _ => none

/-- The named values of an object behind those that are known, and its closing brace. -/
def takeFields : Nat → List (String × Value) → List Char →
    Option (List (String × Value) × List Char)
  | 0, _, _ => none
  | fuel + 1, known, cs =>
    match cs with
    | '\x7d' :: rest => some (known, rest)
    | cs => do
      let (name, rest) ← takeName cs
      match next rest with
      | ':' :: rest =>
        let (v, rest) ← takeValue fuel (next rest)
        let known := Value.setField name v known
        match next rest with
        | '\x7d' :: rest => return (known, rest)
        | ',' :: rest => takeFields fuel known (next rest)
        | _ => none
      | _ => none

end

/-- The named values that a text describes. -/
def read? (text : String) : Option (List (String × Value)) :=
  let cs := next text.toList
  match takeValue (2 * cs.length + 2) cs with
  | some (.table fields, rest) => if (next rest).isEmpty then some fields else none
  | _ => none

end ExportStream.Settings.Json5
