import ExportStream.Text.Digits
/-!
# The small parts of TOML texts

Blanks, comments and line ends; quoted texts, on one line or on several, literal or with escapes;
and the names of settings. Each reader answers what it read and the characters behind it.
-/

namespace ExportStream.Settings.Toml

/-- The characters behind blanks within a line. -/
def skipBlanks (cs : List Char) : List Char := cs.dropWhile fun c => c = ' ' || c = '\t'

/-- May a character stand in a comment or a literal text? -/
def isPlain (c : Char) : Bool := c = '\t' || (32 ≤ c.toNat && c.toNat ≠ 127)

/-- The characters behind the comment at the front, if there is one. -/
def skipComment : List Char → List Char
  | '#' :: cs => cs.dropWhile isPlain
  | cs => cs

/-- The characters behind a line end. -/
def lineEnd? : List Char → Option (List Char)
  | '\n' :: cs => some cs
  | '\r' :: '\n' :: cs => some cs
  | _ => none

/-- The first character of a text on several lines and the ones behind it; a line end is a character
of its own, and keeps the form it has. -/
def takeInLines : List Char → Option (List Char × List Char)
  | '\n' :: cs => some (['\n'], cs)
  | '\r' :: '\n' :: cs => some (['\r', '\n'], cs)
  | c :: cs => if isPlain c then some ([c], cs) else none
  | [] => none

/-- The characters behind the rest of a line, which holds nothing but blanks and a comment. -/
def restOfLine? (cs : List Char) : Option (List Char) :=
  match skipComment (skipBlanks cs) with
  | [] => some []
  | cs => lineEnd? cs

/-- The characters behind blanks, comments and line ends. -/
def skipLines (fuel : Nat) (cs : List Char) : List Char :=
  match fuel with
  | 0 => cs
  | fuel + 1 =>
    let cs := skipComment (skipBlanks cs)
    match lineEnd? cs with
    | some cs => skipLines fuel cs
    | none => cs

/-! ### Quoted texts -/

/-- The character that an escape stands for, behind its backslash. -/
def takeEscape : List Char → Option (Char × List Char)
  | 'b' :: cs => some ('\x08', cs)
  | 'e' :: cs => some ('\x1b', cs)
  | 't' :: cs => some ('\t', cs)
  | 'n' :: cs => some ('\n', cs)
  | 'f' :: cs => some ('\x0c', cs)
  | 'r' :: cs => some ('\r', cs)
  | '"' :: cs => some ('"', cs)
  | '\\' :: cs => some ('\\', cs)
  | 'x' :: cs => Text.takeCode 2 cs
  | 'u' :: cs => Text.takeCode 4 cs
  | 'U' :: cs => Text.takeCode 8 cs
  | _ => none

/-- The rest of a text on one line, and what is behind its closing quote. -/
def takeBasic : Nat → List Char → Option (List Char × List Char)
  | 0, _ => none
  | _, [] => none
  | _, '"' :: cs => some ([], cs)
  | fuel + 1, '\\' :: cs => do
    let (c, cs) ← takeEscape cs
    let (more, rest) ← takeBasic fuel cs
    return (c :: more, rest)
  | fuel + 1, c :: cs => do
    guard (isPlain c)
    let (more, rest) ← takeBasic fuel cs
    return (c :: more, rest)

/-- The rest of a literal text on one line, and what is behind its closing quote. -/
def takeLiteral (cs : List Char) : Option (List Char × List Char) :=
  let body := cs.takeWhile fun c => c ≠ '\'' && isPlain c
  match cs.drop body.length with
  | '\'' :: rest => some (body, rest)
  | _ => none

/-- The quotes at the end of a text on several lines, the last three of which close it; at most two
belong to the text. -/
def takeClosing (quote : Char) (cs : List Char) : Option (List Char × List Char) :=
  let count := (cs.takeWhile (· = quote)).length
  if 3 ≤ count then
    let own := min (count - 3) 2
    some (List.replicate own quote, cs.drop (own + 3))
  else none

/-- The characters behind the blanks and line ends that a backslash at the end of a line takes
away. -/
def skipWrapped : List Char → List Char
  | ' ' :: cs => skipWrapped cs
  | '\t' :: cs => skipWrapped cs
  | '\n' :: cs => skipWrapped cs
  | '\r' :: '\n' :: cs => skipWrapped cs
  | cs => cs

/-- Does a line end stand behind the blanks? -/
def endsLine (cs : List Char) : Bool := (lineEnd? (skipBlanks cs)).isSome

/-- The rest of a text on several lines, and what is behind its closing quotes. -/
def takeBasicLines : Nat → List Char → Option (List Char × List Char)
  | 0, _ => none
  | fuel + 1, cs =>
    match takeClosing '"' cs with
    | some r => some r
    | none =>
      match cs with
      | [] => none
      | '\\' :: cs =>
        if endsLine cs then takeBasicLines fuel (skipWrapped cs)
        else do
          let (c, cs) ← takeEscape cs
          let (more, rest) ← takeBasicLines fuel cs
          return (c :: more, rest)
      | cs => do
        let (first, cs) ← takeInLines cs
        let (more, rest) ← takeBasicLines fuel cs
        return (first ++ more, rest)

/-- The rest of a literal text on several lines, and what is behind its closing quotes. -/
def takeLiteralLines : Nat → List Char → Option (List Char × List Char)
  | 0, _ => none
  | fuel + 1, cs =>
    match takeClosing '\'' cs with
    | some r => some r
    | none => do
      let (first, cs) ← takeInLines cs
      let (more, rest) ← takeLiteralLines fuel cs
      return (first ++ more, rest)

/-- The characters without the line end at their front. -/
def dropFirstLineEnd (cs : List Char) : List Char := (lineEnd? cs).getD cs

/-- A text in quotes, if one stands at the front. -/
def takeQuoted : List Char → Option (Option (List Char × List Char))
  | '"' :: '"' :: '"' :: cs => some (takeBasicLines (cs.length + 1) (dropFirstLineEnd cs))
  | '\'' :: '\'' :: '\'' :: cs => some (takeLiteralLines (cs.length + 1) (dropFirstLineEnd cs))
  | '"' :: cs => some (takeBasic (cs.length + 1) cs)
  | '\'' :: cs => some (takeLiteral cs)
  | _ => none

/-! ### Names -/

/-- May a character stand in a name without quotes? -/
def isNameChar (c : Char) : Bool :=
  c = '_' || c = '-' || c.isAlphanum

/-- A name. -/
def takeName : List Char → Option (String × List Char)
  | '"' :: cs => (takeBasic (cs.length + 1) cs).map fun (s, rest) => (String.ofList s, rest)
  | '\'' :: cs => (takeLiteral cs).map fun (s, rest) => (String.ofList s, rest)
  | cs =>
    let name := cs.takeWhile isNameChar
    if name.isEmpty then none else some (String.ofList name, cs.drop name.length)

/-- Names with dots between them. -/
def takePath : Nat → List Char → Option (List String × List Char)
  | 0, _ => none
  | fuel + 1, cs => do
    let (name, rest) ← takeName (skipBlanks cs)
    match skipBlanks rest with
    | '.' :: rest =>
      let (path, rest) ← takePath fuel rest
      return (name :: path, rest)
    | rest => return ([name], rest)

end ExportStream.Settings.Toml
