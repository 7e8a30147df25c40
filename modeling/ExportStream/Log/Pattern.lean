import ExportStream.Text.Digits
import ExportStream.Text.Letter
/-!
# Patterns

A filter may ask for a value by a pattern, a regular expression. No value is ever held against one
here, since only spans of work have values that are asked for, but a pattern that breaks the rules
of its notation makes the filter unreadable: `isPattern` says which do. A pattern stands in braces,
so it holds no closing brace, and whatever would need one is refused. Borders of words are refused
too, because they cannot be found without looking ahead.
-/

namespace ExportStream.Pattern

/-! ### Escapes -/

/-- What an escape stands for. -/
inductive Escape where
  /-- A character. -/
  | char (c : Char)
  /-- A set of characters. -/
  | set
  /-- An end of the text. -/
  | place
  deriving DecidableEq

/-- The character with the code that so many digits in base sixteen write. -/
def takeCode (count : Nat) (cs : List Char) : Option (Escape × List Char) :=
  (Text.takeCode count cs).map fun (c, rest) => (.char c, rest)

/-- The characters with a letter of their own, and the letters. -/
def namedCharacters : List (Char × Char) :=
  [('a', '\x07'), ('f', '\x0c'), ('t', '\t'), ('n', '\n'), ('r', '\r'), ('v', '\x0b')]

/-- The letters of the sets with one letter. -/
def setLetters : List Char := ['d', 's', 'w', 'D', 'S', 'W']

/-- The letters of the general categories, in lower case. -/
def categoryLetters : List Char := ['c', 'l', 'm', 'n', 'p', 's', 'z']

/-- What an escape stands for, behind its backslash. -/
def takeEscape : List Char → Option (Escape × List Char)
  | [] => none
  | 'x' :: cs => takeCode 2 cs
  | 'u' :: cs => takeCode 4 cs
  | 'U' :: cs => takeCode 8 cs
  | c :: cs =>
    if c = 'p' ∨ c = 'P' then
      match cs with
      | category :: cs =>
        if Text.lowerChar category ∈ categoryLetters then some (.set, cs) else none
      | [] => none
    else if c ∈ setLetters then some (.set, cs)
    else if c = 'A' ∨ c = 'z' then some (.place, cs)
    else
      match namedCharacters.lookup c with
      | some named => some (.char named, cs)
      | none =>
        if 128 ≤ c.toNat ∨ c.isAlphanum ∨ c = '<' ∨ c = '>' then none else some (.char c, cs)

/-! ### Sets of characters -/

/-- The names of the sets of ASCII characters. -/
def asciiSets : List String :=
  ["alnum", "alpha", "ascii", "blank", "cntrl", "digit", "graph", "lower", "print", "punct",
    "space", "upper", "word", "xdigit"]

/-- The characters behind a set of ASCII characters by name, if one stands at the front. -/
def takeAsciiSet? (cs : List Char) : Option (List Char) :=
  match cs with
  | '[' :: ':' :: cs =>
    let cs := if cs.head? = some '^' then cs.drop 1 else cs
    let name := cs.takeWhile (· ≠ ':')
    match cs.drop name.length with
    | ':' :: ']' :: rest => if String.ofList name ∈ asciiSets then some rest else none
    | _ => none
  | _ => none

/-- What a set may begin with behind its opening bracket: a caret, and then dashes or else a closing
bracket that belong to the set. -/
def openSet (cs : List Char) : List Char :=
  let cs := if cs.head? = some '^' then cs.drop 1 else cs
  match cs with
  | '-' :: _ => cs.dropWhile (· = '-')
  | ']' :: rest => rest
  | _ => cs

/-- A member of a set. -/
def takeMember : List Char → Option (Escape × List Char)
  | [] => none
  | '\\' :: cs => takeEscape cs
  | c :: cs => some (.char c, cs)

/-- A member of a set, or a range of members. -/
def passMembers (cs : List Char) : Option (List Char) := do
  let (first, rest) ← takeMember cs
  guard (first ≠ .place)
  match rest with
  | '-' :: ']' :: _ | '-' :: '-' :: _ => return rest
  | '-' :: rest =>
    let (last, rest) ← takeMember rest
    match first, last with
    | .char a, .char b => if a ≤ b then some rest else none
    | _, _ => none
  | _ => return rest

/-- The characters behind so many sets that lie in one another; the fuel bounds their parts. -/
def passSets : Nat → (within : Nat) → List Char → Option (List Char)
  | 0, _, _ => none
  | _, 0, cs => some cs
  | fuel + 1, n + 1, cs =>
    match cs with
    | [] => none
    | ']' :: rest => passSets fuel n rest
    | '&' :: '&' :: rest | '-' :: '-' :: rest | '~' :: '~' :: rest => passSets fuel (n + 1) rest
    | '[' :: rest =>
      match takeAsciiSet? cs with
      | some rest => passSets fuel (n + 1) rest
      | none => passSets fuel (n + 2) (openSet rest)
    | cs =>
      match passMembers cs with
      | some rest => passSets fuel (n + 1) rest
      | none => none

/-! ### Groups -/

/-- The letters of the flags. -/
def flagLetters : List Char := ['i', 'm', 's', 'U', 'u', 'R', 'x']

/-- Are these flags, each at most once, some of them behind a dash? -/
def areFlags (cs : List Char) : Bool :=
  cs.all (fun c => c = '-' || flagLetters.contains c) && cs.all (fun c => cs.count c ≤ 1) &&
    cs.getLast? ≠ some '-'

/-- Is this the name of a group? -/
def isGroupName : List Char → Bool
  | [] => false
  | c :: cs =>
    (c = '_' || (Text.isLetterOrNumber c && !c.isDigit)) &&
      cs.all fun c => c = '_' || c = '.' || c = '[' || c = ']' || Text.isLetterOrNumber c

/-- What an opening bracket of a group begins. -/
inductive Opening where
  /-- A group. -/
  | group
  /-- A group with a name. -/
  | named (name : String)
  /-- Flags, and no group. -/
  | flags
  deriving DecidableEq

/-- What stands behind the name of a group. -/
def takeNamed (cs : List Char) : Option (Opening × List Char) :=
  let name := cs.takeWhile (· ≠ '>')
  match cs.drop name.length with
  | '>' :: rest => if isGroupName name then some (.named (String.ofList name), rest) else none
  | _ => none

/-- What stands behind an opening bracket. -/
def takeOpening : List Char → Option (Opening × List Char)
  | '?' :: 'P' :: '<' :: cs => takeNamed cs
  | '?' :: '<' :: cs => if cs.head? = some '=' ∨ cs.head? = some '!' then none else takeNamed cs
  | '?' :: cs =>
    let flags := cs.takeWhile fun c => c ≠ ':' && c ≠ ')'
    if areFlags flags then
      match cs.drop flags.length with
      | ':' :: rest => some (.group, rest)
      | ')' :: rest => if flags.isEmpty then none else some (.flags, rest)
      | _ => none
    else none
  | cs => some (.group, cs)

/-! ### Patterns -/

/-- How far a pattern is read. -/
structure State where
  /-- The number of groups that are open. -/
  groups : Nat := 0
  /-- The names of groups so far. -/
  names : List String := []
  /-- Is there something that could be repeated? -/
  operand : Bool := false

/-- Reads a pattern up to its end; the fuel bounds its parts. -/
def passPattern : Nat → State → List Char → Bool
  | _, s, [] => s.groups = 0
  | 0, _, _ => false
  | fuel + 1, s, c :: cs =>
    if c = '(' then
      match takeOpening cs with
      | some (.group, rest) =>
        passPattern fuel { s with groups := s.groups + 1, operand := false } rest
      | some (.named name, rest) =>
        !s.names.contains name &&
          passPattern fuel
            { groups := s.groups + 1, names := name :: s.names, operand := false } rest
      | some (.flags, rest) => passPattern fuel { s with operand := false } rest
      | none => false
    else if c = ')' then
      0 < s.groups && passPattern fuel { s with groups := s.groups - 1, operand := true } cs
    else if c = '|' then passPattern fuel { s with operand := false } cs
    else if c = '[' then
      match passSets (2 * cs.length + 2) 1 (openSet cs) with
      | some rest => passPattern fuel { s with operand := true } rest
      | none => false
    else if c = '*' ∨ c = '+' ∨ c = '?' then
      s.operand && passPattern fuel s (if cs.head? = some '?' then cs.drop 1 else cs)
    else if c = '\x7b' then false
    else if c = '\\' then
      match takeEscape cs with
      | some (_, rest) => passPattern fuel { s with operand := true } rest
      | none => false
    else passPattern fuel { s with operand := true } cs

end ExportStream.Pattern

namespace ExportStream

/-- Does a text keep the rules of patterns? -/
def isPattern (cs : List Char) : Bool := Pattern.passPattern (cs.length + 1) {} cs

end ExportStream
