import ExportStream.Settings.Value
import ExportStream.Text.Digits
import ExportStream.Text.Letter
/-!
# Reading RON texts

RON is an object notation with structures, whose fields are named by plain words, besides maps,
whose keys are values. A structure may have a name of its own, which does not matter. A name alone
or empty parentheses alone are nothing, and a structure whose fields have no names is a list.

`Ron.read?` answers the named values of a text that is a structure or a map; of one name the last
value stays.
-/

namespace ExportStream.Settings.Ron

/-! ### Between the parts -/

/-- May a character stand between the parts of a text? -/
def isSpace (c : Char) : Bool :=
  (9 ≤ c.toNat && c.toNat ≤ 13) || c = ' ' || c = '\u0085' || c = '\u200E' || c = '\u200F' ||
    c = '\u2028' || c = '\u2029'

/-- The characters behind the end of a comment in which others may lie; `depth` more of them are
open. -/
def closeComment? : (depth : Nat) → List Char → Option (List Char)
  | 0, '*' :: '/' :: cs => some cs
  | depth + 1, '*' :: '/' :: cs => closeComment? depth cs
  | depth, '/' :: '*' :: cs => closeComment? (depth + 1) cs
  | depth, _ :: cs => closeComment? depth cs
  | _, [] => none

/-- The characters behind blanks and comments; the fuel bounds the comments. A comment that is not
closed is left in front. -/
def skip : Nat → List Char → List Char
  | 0, cs => cs
  | fuel + 1, cs =>
    match cs.dropWhile isSpace with
    | '/' :: '/' :: cs => skip fuel (cs.dropWhile (· ≠ '\n'))
    | '/' :: '*' :: cs =>
      match closeComment? 0 cs with
      | some rest => skip fuel rest
      | none => '/' :: '*' :: cs
    | cs => cs

/-- The first character behind blanks and comments, and what follows it. -/
def next (cs : List Char) : List Char := skip cs.length cs

/-- The characters behind marks that stand one behind the other. -/
def passMarks? : List (List Char) → List Char → Option (List Char)
  | [], cs => some cs
  | mark :: marks, cs =>
    if mark.isPrefixOf cs then passMarks? marks (next (cs.drop mark.length)) else none

/-! ### Words -/

/-- May a word begin with a character? -/
def startsWord (c : Char) : Bool := c = '_' || (Text.isLetterOrNumber c && !c.isDigit)

/-- May a character stand in a word? -/
def isWordChar (c : Char) : Bool := c = '_' || Text.isLetterOrNumber c

/-- May a character stand in a word that is marked as one? -/
def isMarkedChar (c : Char) : Bool := isWordChar c || c = '.' || c = '+' || c = '-'

/-- What texts begin with that are no words, though letters stand in front. -/
def textMarks : List (List Char) :=
  ["b\"", "b'", "br#", "br\"", "r\"", "r#\"", "r##"].map String.toList

/-- A word, and what is behind it. -/
def takeWord (cs : List Char) : Option (String × List Char) :=
  if textMarks.any fun mark => mark.isPrefixOf cs then none
  else
    match cs with
    | 'r' :: '#' :: cs =>
      let word := cs.takeWhile isMarkedChar
      if word.isEmpty then none else some (String.ofList word, cs.drop word.length)
    | cs =>
      let word := cs.takeWhile isWordChar
      if (cs.head?.map startsWord).getD false then
        some (String.ofList word, cs.drop word.length)
      else none

/-! ### Texts -/

/-- A character by its code between braces. -/
def takeBraced (cs : List Char) : Option (Char × List Char) := do
  let digits := cs.takeWhile (· ≠ '\x7d')
  guard (digits.length ≤ 6 ∧ digits.length < cs.length)
  let (c, _) ← Text.takeCode digits.length digits
  return (c, cs.drop (digits.length + 1))

/-- The character that an escape stands for, behind its backslash. -/
def takeEscape : List Char → Option (Char × List Char)
  | '\'' :: cs => some ('\'', cs)
  | '"' :: cs => some ('"', cs)
  | '\\' :: cs => some ('\\', cs)
  | 'n' :: cs => some ('\n', cs)
  | 'r' :: cs => some ('\r', cs)
  | 't' :: cs => some ('\t', cs)
  | '0' :: cs => some ('\x00', cs)
  | 'x' :: cs => (Text.takeCode 2 cs).filter fun r => r.1.toNat < 128
  | 'u' :: '\x7b' :: cs => takeBraced cs
  | _ => none

/-- The rest of a text in quotes, and what is behind the closing one; the fuel bounds the
characters. -/
def takeQuoted : Nat → List Char → Option (List Char × List Char)
  | 0, _ => none
  | _, [] => none
  | _, '"' :: cs => some ([], cs)
  | fuel + 1, c :: cs => do
    let (c, cs) ← if c = '\\' then takeEscape cs else some (c, cs)
    let (more, rest) ← takeQuoted fuel cs
    return (c :: more, rest)

/-- The characters in front of a mark, and those behind it. -/
def splitAt? (mark : List Char) : List Char → Option (List Char × List Char)
  | [] => none
  | c :: cs =>
    if mark.isPrefixOf (c :: cs) then some ([], (c :: cs).drop mark.length)
    else (splitAt? mark cs).map fun (s, rest) => (c :: s, rest)

/-- The rest of a text without escapes, behind its letter. -/
def takeRaw (cs : List Char) : Option (List Char × List Char) :=
  let hashes := cs.takeWhile (· = '#')
  match cs.drop hashes.length with
  | '"' :: cs => splitAt? ('"' :: hashes) cs
  | _ => none

/-- The rest of a text of one character. -/
def takeSingle : List Char → Option (Char × List Char)
  | [] => none
  | c :: cs => do
    let (c, cs) ← if c = '\\' then takeEscape cs else some (c, cs)
    match cs with
    | '\'' :: rest => return (c, rest)
    | _ => none

/-- A text. -/
def takeText : List Char → Option (String × List Char)
  | '"' :: cs => (takeQuoted (cs.length + 1) cs).map fun (s, rest) => (String.ofList s, rest)
  | 'r' :: cs => (takeRaw cs).map fun (s, rest) => (String.ofList s, rest)
  | '\'' :: cs => (takeSingle cs).map fun (c, rest) => (String.ofList [c], rest)
  | _ => none

/-! ### Numbers -/

/-- The types of integers, each with its least value and the one behind its greatest. -/
def integerTypes : List (String × Int × Int) :=
  [("i8", -0x80, 0x80), ("i16", -0x8000, 0x8000), ("i32", -0x80000000, 0x80000000),
    ("i64", -0x8000000000000000, 0x8000000000000000), ("u8", 0, 0x100), ("u16", 0, 0x10000),
    ("u32", 0, 0x100000000), ("u64", 0, 0x10000000000000000)]

/-- An integer with what is behind its digits, which may be the name of its type. -/
def withType (i : Int) (cs : List Char) : Option (Value × List Char) :=
  let word := cs.takeWhile isWordChar
  match integerTypes.lookup (String.ofList word) with
  | some (low, bound) =>
    if low ≤ i ∧ i < bound then some (.integer i, cs.drop word.length) else none
  | none =>
    if -0x8000000000000000 ≤ i ∧ i < 0x10000000000000000 then some (.integer i, cs) else none

/-- The characters behind the name of a type of doubles, if there is one. -/
def passRealType (cs : List Char) : List Char :=
  if ["f32", "f64"].contains (String.ofList (cs.takeWhile isWordChar)) then cs.drop 3 else cs

/-- A double with what is behind its digits; between digits there may be underscores. -/
def takeReal (negative : Bool) (cs : List Char) : Option (Value × List Char) := do
  let run := cs.takeWhile fun c =>
    c.isDigit || c = '_' || c = '.' || c = 'e' || c = 'E' || c = '+' || c = '-'
  let kept := run.filter (· ≠ '_')
  let text := if negative then '-' :: kept else kept
  guard (!run.head?.any (· = '_') && !(run.zip (run.drop 1)).contains ('.', '_'))
  let x ← Extended.read? (Text.Utf8.bytesOf (String.ofList text))
  return (.real x, passRealType (cs.drop run.length))

/-- An integer whose digits in a base are in front; between them there may be underscores. -/
def takeInteger (negative : Bool) (base : Nat) (cs : List Char) : Option (Value × List Char) := do
  let run := cs.takeWhile fun c => Text.isDigitIn base c || c = '_'
  guard (!run.head?.any (· = '_'))
  let n ← Text.natIn? base (run.filter (· ≠ '_'))
  withType (Text.withSign negative n) (cs.drop run.length)

/-- A number behind its sign: an integer if it can be one. -/
def takeUnsigned (negative : Bool) : List Char → Option (Value × List Char)
  | '0' :: 'x' :: cs => takeInteger negative 16 cs
  | '0' :: 'o' :: cs => takeInteger negative 8 cs
  | '0' :: 'b' :: cs => takeInteger negative 2 cs
  | 'i' :: 'n' :: 'f' :: cs => some (.real (.infinite negative), passRealType cs)
  | 'N' :: 'a' :: 'N' :: cs => some (.real .undefined, passRealType cs)
  | cs =>
    let rest := cs.dropWhile fun c => c.isDigit || c = '_'
    match rest with
    | '.' :: _ | 'e' :: _ | 'E' :: _ | 'f' :: _ => takeReal negative cs
    | _ => (takeInteger negative 10 cs).orElse fun _ => takeReal negative cs

/-- A number. -/
def takeNumber (cs : List Char) : Option (Value × List Char) :=
  let (negative, body) := Text.splitSign cs
  takeUnsigned negative body

/-! ### Values -/

/-- How deep values may lie in one another. -/
def maxDepth : Nat := 128

/-- Do the characters behind an opening parenthesis begin with a name and a colon? -/
def isNamed (cs : List Char) : Bool :=
  match takeWord cs with
  | some (_, rest) => (next rest).head? = some ':'
  | none => false

/-- The characters behind a comma, or where none is needed, because a mark stands in front; `none`
where a comma is missing. -/
def passComma? (closing : Char) (cs : List Char) : Option (List Char) :=
  match next cs with
  | ',' :: rest => some (next rest)
  | c :: rest => if c = closing then some (c :: rest) else none
  | [] => none

mutual

/-- A value at the front; the fuel bounds its parts, and `depth` says how many values are open
around it. -/
def takeValue : (fuel depth : Nat) → List Char → Option (Value × List Char)
  | 0, _, _ => none
  | fuel + 1, depth, cs =>
    match takeWord cs with
    | some ("true", rest) => some (.flag true, rest)
    | some ("false", rest) => some (.flag false, rest)
    | some ("None", rest) => some (.nothing, rest)
    | some ("Some", rest) =>
      match next rest with
      | '(' :: rest => takeSome fuel (depth + 1) (next rest)
      | _ => none
    | some (word, rest) =>
      if ["inf", "inff32", "inff64", "NaN", "NaNf32", "NaNf64"].contains word then
        takeUnsigned false cs
      else
        match next rest with
        | '(' :: rest => takeParts fuel (depth + 1) (next rest)
        | rest => some (.nothing, rest)
    | none =>
      match cs with
      | '(' :: ')' :: rest => some (.nothing, rest)
      | '(' :: cs => takeParts fuel (depth + 1) (next cs)
      | '[' :: cs =>
        (takeItems fuel (depth + 1) ']' (next cs)).map fun (vs, rest) => (.list vs, rest)
      | '\x7b' :: cs =>
        (takeEntries fuel (depth + 1) [] (next cs)).map fun (fs, rest) => (.table fs, rest)
      | cs =>
        match takeText cs with
        | some (s, rest) => some (.text s, rest)
        | none => takeNumber cs
termination_by structural fuel => fuel

/-- A value that is there although it might not be, with its closing parenthesis. -/
def takeSome : (fuel depth : Nat) → List Char → Option (Value × List Char)
  | 0, _, _ => none
  | fuel + 1, depth, cs => do
    guard (depth ≤ maxDepth)
    let (v, rest) ← takeValue fuel depth cs
    match ← passComma? ')' rest with
    | ')' :: rest => return (v, rest)
    | _ => none
termination_by structural fuel => fuel

/-- The fields of a structure, with names or without, and its closing parenthesis. -/
def takeParts : (fuel depth : Nat) → List Char → Option (Value × List Char)
  | 0, _, _ => none
  | fuel + 1, depth, cs =>
    if isNamed cs then (takeFields fuel depth [] cs).map fun (fs, rest) => (.table fs, rest)
    else (takeItems fuel depth ')' cs).map fun (vs, rest) => (.list vs, rest)
termination_by structural fuel => fuel

/-- Values up to a closing mark. -/
def takeItems : (fuel depth : Nat) → (closing : Char) → List Char →
    Option (List Value × List Char)
  | 0, _, _, _ => none
  | fuel + 1, depth, closing, cs =>
    if depth > maxDepth then none
    else if cs.head? = some closing then some ([], cs.drop 1)
    else do
      let (v, rest) ← takeValue fuel depth cs
      let (vs, rest) ← takeItems fuel depth closing (← passComma? closing rest)
      return (v :: vs, rest)
termination_by structural fuel => fuel

/-- Fields with names behind those that are known, and the closing parenthesis. -/
def takeFields : (fuel depth : Nat) → List (String × Value) → List Char →
    Option (List (String × Value) × List Char)
  | 0, _, _, _ => none
  | fuel + 1, depth, known, cs =>
    match cs with
    | ')' :: rest => some (known, rest)
    | cs => do
      guard (depth ≤ maxDepth)
      let (name, rest) ← takeWord cs
      let rest ← passMarks? [[':']] (next rest)
      let (v, rest) ← takeValue fuel depth rest
      takeFields fuel depth (Value.setField name v known) (← passComma? ')' rest)
termination_by structural fuel => fuel

/-- Entries of a map behind those that are known, and its closing brace. A key has to be a text. -/
def takeEntries : (fuel depth : Nat) → List (String × Value) → List Char →
    Option (List (String × Value) × List Char)
  | 0, _, _, _ => none
  | fuel + 1, depth, known, cs =>
    match cs with
    | '\x7d' :: rest => some (known, rest)
    | cs => do
      guard (depth ≤ maxDepth)
      let (name, rest) ← takeText cs
      let rest ← passMarks? [[':']] (next rest)
      let (v, rest) ← takeValue fuel depth rest
      takeEntries fuel depth (Value.setField name v known) (← passComma? '\x7d' rest)
termination_by structural fuel => fuel

end

/-! ### Texts as a whole -/

/-- The words for the ways in which a text may depart from the common form. -/
def extensions : List String :=
  ["unwrap_newtypes", "implicit_some", "unwrap_variant_newtypes", "explicit_struct_names"]

/-- The words in an attribute and its closing marks; the fuel bounds the words. -/
def passWords? : Nat → List Char → Option (List Char)
  | 0, _ => none
  | fuel + 1, cs => do
    let (word, rest) ← takeWord cs
    guard (extensions.contains word)
    let rest ← passComma? ')' rest
    if rest.head? = some ')' then passMarks? [[')'], [']']] rest else passWords? fuel rest

/-- The characters behind the attributes at the front of a text; the fuel bounds their number. -/
def passAttributes? : Nat → List Char → Option (List Char)
  | 0, _ => none
  | fuel + 1, cs =>
    if cs.head? = some '#' then do
      let rest ← passMarks? (["#", "!", "[", "enable", "("].map String.toList) cs
      passAttributes? fuel (next (← passWords? rest.length rest))
    else some cs

/-- The named values that a text describes. -/
def read? (text : String) : Option (List (String × Value)) := do
  let cs := next text.toList
  let cs ← passAttributes? (cs.length + 1) cs
  match takeValue (3 * cs.length + 3) 0 cs with
  | some (.table fields, rest) => if (next rest).isEmpty then some fields else none
  | _ => none

end ExportStream.Settings.Ron
