import ExportStream.Settings.Yaml.Cursor
/-!
# Texts of YAML

A text is written plain or in quotes, and goes over several lines in either case. Lines are folded
into one: a line end becomes a space, and of several line ends all but the first stay what they are
(`Gap.text`).
-/

namespace ExportStream.Settings.Yaml

/-! ### Between words -/

/-- What stands between two words of a text. -/
structure Gap where
  /-- Does a backslash take away the first line end? -/
  wrapped : Bool := false
  /-- How many line ends there are besides. -/
  breaks : Nat := 0
  /-- The blanks, if there is no line end. -/
  blanks : List Char := []

namespace Gap

/-- Is a line end among what was met? -/
def ended (g : Gap) : Bool := g.wrapped || g.breaks ≠ 0

/-- What a gap adds to the text. -/
def text (g : Gap) : List Char :=
  if g.wrapped then List.replicate g.breaks '\n'
  else
    match g.breaks with
    | 0 => g.blanks
    | 1 => [' ']
    | n + 1 => List.replicate n '\n'

/-- A gap and what is behind it; the fuel bounds its parts. Tabs are no indentation: in a plain text
they may stand in its place only on a line that holds nothing else. -/
def take (plain : Bool) (indent : Int) : Nat → Gap → Cursor → Option (Gap × Cursor)
  | 0, _, _ => none
  | fuel + 1, g, c =>
    match c.front with
    | none => some (g, c)
    | some b =>
      if isBreak b then
        take plain indent fuel { g with breaks := g.breaks + 1, blanks := [] } c.nextLine
      else if !isBlank b then some (g, c)
      else if !g.ended then
        take plain indent fuel { g with blanks := g.blanks ++ [b] } (c.passBlanks 1)
      else if b = '\t' && c.column < indent then
        if plain then do
          let c ← c.skipBlanks?
          guard c.atLineEnd
          take plain indent fuel g c
        else none
      else take plain indent fuel g (c.passBlanks 1)

end Gap

/-! ### In quotes -/

/-- The character that an escape stands for, and how many characters the escape has behind its
backslash. -/
def escape? : List Char → Option (Char × Nat)
  | [] => none
  | 'x' :: cs => (Text.takeCode 2 cs).map fun r => (r.1, 3)
  | 'u' :: cs => (Text.takeCode 4 cs).map fun r => (r.1, 5)
  | 'U' :: cs => (Text.takeCode 8 cs).map fun r => (r.1, 9)
  | letter :: _ =>
    let meanings : List (Char × Char) :=
      [('0', '\x00'), ('a', '\x07'), ('b', '\x08'), ('t', '\t'), ('\t', '\t'), ('n', '\n'),
        ('v', '\x0b'), ('f', '\x0c'), ('r', '\r'), ('e', '\x1b'), (' ', ' '), ('"', '"'),
        ('/', '/'), ('\\', '\\'), ('N', '\u0085'), ('_', '\u00A0'), ('L', '\u2028'),
        ('P', '\u2029')]
    (meanings.lookup letter).map fun c => (c, 1)

/-- Characters up to a blank, a line end or the closing quote, and whether a backslash took a line
end away; the fuel bounds the characters. -/
def takeSolid (quote : Char) : Nat → Cursor → Option (List Char × Bool × Cursor)
  | 0, _ => none
  | fuel + 1, c =>
    match c.rest with
    | [] => some ([], false, c)
    | d :: cs =>
      if d = '\'' && quote = d && cs.head? = some quote then do
        let (more, wrapped, c) ← takeSolid quote fuel (c.pass 2)
        return (d :: more, wrapped, c)
      else if isBlank d || isBreak d || d = quote then some ([], false, c)
      else if d = '\\' && quote = '"' then
        if cs.head?.any isBreak then some ([], true, (c.pass 1).nextLine)
        else do
          let (d, count) ← escape? cs
          let (more, wrapped, c) ← takeSolid quote fuel (c.pass (count + 1))
          return (d :: more, wrapped, c)
      else do
        let (more, wrapped, c) ← takeSolid quote fuel (c.pass 1)
        return (d :: more, wrapped, c)

/-- The rest of a text in quotes, and what is behind the closing one; the fuel bounds the words. -/
def takeQuotedWords (quote : Char) (indent : Int) : Nat → Cursor → Option (List Char × Cursor)
  | 0, _ => none
  | fuel + 1, c => do
    guard (!c.atDocument && !c.rest.isEmpty && indent ≤ c.column)
    let (word, wrapped, c) ← takeSolid quote (c.rest.length + 1) c
    if c.front = some quote then return (word, c.pass 1)
    else
      let (gap, c) ← Gap.take false indent (c.rest.length + 1) { wrapped } c
      let (more, c) ← takeQuotedWords quote indent fuel c
      return (word ++ gap.text ++ more, c)

/-- May a quoted text that began on a line end here? -/
def mayEndQuoted (inBrackets : Bool) (line : Nat) (c : Cursor) : Bool :=
  match c.front with
  | none => true
  | some ':' => inBrackets || c.line = line
  | some d => isBreak d || (inBrackets && (d = ',' || d = ']' || d = '\x7d'))

/-- A text in quotes, and what is behind the blanks after it. -/
def takeQuoted (inBrackets : Bool) (indent : Int) (c : Cursor) : Option (List Char × Cursor) := do
  let quote ← c.front
  let (word, rest) ← takeQuotedWords quote indent (c.rest.length + 1) (c.pass 1)
  let rest ← rest.skipBlanks?
  guard (mayEndQuoted inBrackets c.line rest)
  return (word, rest)

/-! ### Plain -/

/-- The characters of a plain text up to a blank, a line end, a colon that ends a name or, in
brackets, a bracket. -/
def plainWord (inBrackets : Bool) : List Char → List Char
  | [] => []
  | c :: cs =>
    let closes := c = ':' && (endsWord cs.head? || (inBrackets && cs.head?.any isBracket))
    if isBlank c || isBreak c || closes || (inBrackets && isBracket c) then []
    else c :: plainWord inBrackets cs

/-- The words of a plain text behind what stands before them, and what follows the text and the
blanks after it; the fuel bounds the words. -/
def takePlainWords (inBrackets : Bool) (indent : Int) : Nat → List Char → Cursor →
    Option (List Char × Cursor)
  | 0, _, _ => none
  | fuel + 1, before, c =>
    if c.atDocument || c.front = some '#' then some ([], c)
    else if inBrackets && c.front = some '-' && c.second.any isBracket then none
    else
      let word := plainWord inBrackets c.rest
      let text := if word.isEmpty then [] else before ++ word
      let c := c.pass word.length
      if !c.front.any fun d => isBlank d || isBreak d then some (text, c)
      else do
        let (gap, c) ← Gap.take true indent (c.rest.length + 1) {} c
        if !inBrackets && c.column < indent then return (text, c)
        else
          let (more, c) ← takePlainWords inBrackets indent fuel gap.text c
          return (text ++ more, c)

/-- A plain text, and what follows it and the blanks after it. -/
def takePlain (inBrackets : Bool) (indent : Int) (c : Cursor) : Option (List Char × Cursor) := do
  guard (!inBrackets || indent ≤ c.column)
  let (text, rest) ← takePlainWords inBrackets indent (c.rest.length + 1) [] c
  guard (!text.isEmpty)
  return (text, rest)

end ExportStream.Settings.Yaml
