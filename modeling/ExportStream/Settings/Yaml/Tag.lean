import ExportStream.Settings.Yaml.Cursor
/-!
# Tags and names of YAML nodes

A node can have a tag, which says what its text stands for, and a name, by which it can be repeated.
A tag is written with a handle, for which a directive at the front of the text may give a beginning
of its own, or in full between angle brackets.
-/

namespace ExportStream.Settings.Yaml

/-- May a character stand in the handle of a tag, or in the name of a directive? -/
def isHandleChar (c : Char) : Bool := c.isAlphanum || c = '_' || c = '-'

/-- May a character stand in a tag in full? -/
def isUriChar (c : Char) : Bool := isHandleChar c || "#;/?:@&=+$,.!~*'()[]%".toList.contains c

/-- May a character stand in a tag behind its handle? -/
def isTagChar (c : Char) : Bool := isUriChar c && !isBracket c && c ≠ '!'

/-- May a character stand in the name of a node? -/
def isAnchorChar (c : Char) : Bool :=
  !isBlank c && !isBreak c && !isBracket c && c ≠ '\uFEFF'

/-- The tag of a node. -/
structure Tag where
  /-- The handle, or what it stands for. -/
  handle : String
  /-- What is behind it. -/
  suffix : String
  deriving DecidableEq

/-! ### Characters of tags -/

/-- The character that the codes of one or two bytes behind percent signs write; of two the second
is a byte that goes on. -/
def takePercent (cs : List Char) : Option (Char × List Char) := do
  let (first, rest) ← Text.takeCode 2 cs
  if first.toNat < 0x80 then return (first, rest)
  else if 0xC0 ≤ first.toNat && first.toNat < 0xE0 then
    match rest with
    | '%' :: rest =>
      let (second, rest) ← Text.takeCode 2 rest
      let code := first.toNat * 0x100 + second.toNat
      guard (0x80 ≤ second.toNat ∧ second.toNat < 0xC0 ∧ code.isValidChar)
      return (Char.ofNat code, rest)
    | _ => none
  else none

/-- The characters of a tag, and what is behind them; the fuel bounds them. -/
def takeTagChars (isPart : Char → Bool) : Nat → List Char → Option (List Char × List Char)
  | 0, cs => some ([], cs)
  | _, [] => some ([], [])
  | fuel + 1, c :: cs =>
    if isPart c then do
      let (c, cs) ← if c = '%' then takePercent cs else some (c, cs)
      let (more, rest) ← takeTagChars isPart fuel cs
      return (c :: more, rest)
    else some ([], c :: cs)

/-- A handle: an exclamation mark, with a word and another mark behind it or not. -/
def takeHandle : List Char → Option (List Char × List Char)
  | '!' :: cs =>
    let word := cs.takeWhile isHandleChar
    match cs.drop word.length with
    | '!' :: rest => some ('!' :: word ++ ['!'], rest)
    | rest => some ('!' :: word, rest)
  | _ => none

/-- Is a handle closed by a mark of its own? -/
def isClosedHandle (handle : List Char) : Bool :=
  2 ≤ handle.length && handle.getLast? = some '!'

/-! ### Tags -/

/-- A tag in full, behind its opening bracket. -/
def takeVerbatim (cs : List Char) : Option (Tag × List Char) := do
  let (suffix, rest) ← takeTagChars isUriChar cs.length cs
  match rest with
  | '>' :: rest => return (⟨"", String.ofList suffix⟩, rest)
  | _ => none

/-- A tag with a handle. An exclamation mark alone is a tag of its own. -/
def takeShort (cs : List Char) : Option (Tag × List Char) := do
  let (handle, rest) ← takeHandle cs
  let (more, rest) ← takeTagChars isTagChar rest.length rest
  if isClosedHandle handle then
    guard (!more.isEmpty)
    return (⟨String.ofList handle, String.ofList more⟩, rest)
  else
    let suffix := handle.drop 1 ++ more
    return (if suffix.isEmpty then ⟨"", "!"⟩ else ⟨"!", String.ofList suffix⟩, rest)

/-- A tag, and what is behind it. -/
def takeTag (inBrackets : Bool) (c : Cursor) : Option (Tag × Cursor) := do
  let (tag, rest) ←
    match c.rest with
    | '!' :: '<' :: cs => takeVerbatim cs
    | cs => takeShort cs
  guard (endsWord rest.head? || (inBrackets && rest.head?.any isBracket))
  return (tag, c.passTo rest)

/-- The name of a node behind its mark, and what is behind it. -/
def takeAnchor (c : Cursor) : Option (String × Cursor) := do
  let name := (c.rest.drop 1).takeWhile isAnchorChar
  guard (!name.isEmpty)
  return (String.ofList name, c.pass (name.length + 1))

/-! ### Directives -/

/-- What the lines at the front of a text say about the reading of it. -/
inductive Directive where
  /-- The version of the format. -/
  | version
  /-- What a handle stands for. -/
  | handle (name beginning : String)
  /-- Something else. -/
  | other

/-- A number of at most nine digits, and what is behind it. -/
def passNumber? (cs : List Char) : Option (List Char) :=
  let count := (cs.takeWhile Char.isDigit).length
  if 1 ≤ count ∧ count ≤ 9 then some (cs.drop count) else none

/-- The two numbers of a version. -/
def takeVersion (cs : List Char) : Option (Directive × List Char) := do
  match ← passNumber? (cs.dropWhile isBlank) with
  | '.' :: rest => return (.version, ← passNumber? rest)
  | _ => none

/-- A handle and what it stands for. -/
def takeHandleLine (cs : List Char) : Option (Directive × List Char) := do
  let (handle, rest) ← takeHandle (cs.dropWhile isBlank)
  guard (isClosedHandle handle || handle = ['!'])
  let cs := rest.dropWhile isBlank
  let (beginning, rest) ← takeTagChars isUriChar cs.length cs
  guard (cs.head?.any (fun c => c = '!' || isTagChar c) && endsWord rest.head?)
  return (.handle (String.ofList handle) (String.ofList beginning), rest)

/-- A directive, and the line behind it. -/
def takeDirective (c : Cursor) : Option (Directive × Cursor) := do
  let cs := c.rest.drop 1
  let name := cs.takeWhile isHandleChar
  let rest := cs.drop name.length
  guard (!name.isEmpty && endsWord rest.head?)
  let (directive, rest) ←
    match String.ofList name with
    | "YAML" => takeVersion rest
    | "TAG" => takeHandleLine rest
    | _ => some (.other, rest.dropWhile fun c => !isBreak c)
  let c ← (c.passTo rest).skipBlanks?
  guard c.atLineEnd
  return (directive, c.nextLine)

end ExportStream.Settings.Yaml
