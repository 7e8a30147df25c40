import ExportStream.Settings.Yaml.Block
import ExportStream.Settings.Yaml.Tag
import ExportStream.Settings.Yaml.Text
/-!
# Tokens of YAML texts

A YAML text as a row of marks and texts. The collections that only indentation shows get marks of
their own. A name in front of a colon looks like any other text until the colon is met, so the place
of the last text that may be a name is kept (`Candidate`), and the marks that a name needs are put
in there once it proves to be one.

`Token.ofText?` answers the tokens of a text.
-/

namespace ExportStream.Settings.Yaml

/-- A part of a text. -/
inductive Token where
  /-- A line at the front of a document. -/
  | directive (d : Directive)
  /-- A document begins. -/
  | documentStart
  /-- A document is at its end. -/
  | documentEnd
  /-- A list begins that indentation shows. -/
  | listStart
  /-- A table begins that indentation shows. -/
  | tableStart
  /-- What indentation shows is at its end. -/
  | blockEnd
  /-- An item of a list that indentation shows. -/
  | item
  /-- An opening bracket. -/
  | bracketOpen
  /-- A closing bracket. -/
  | bracketClose
  /-- An opening brace. -/
  | braceOpen
  /-- A closing brace. -/
  | braceClose
  /-- A comma. -/
  | comma
  /-- A key comes next. -/
  | key
  /-- The value of a key comes next. -/
  | value
  /-- A node that has that name is repeated. -/
  | alias (name : String)
  /-- The next node gets a name. -/
  | anchor (name : String)
  /-- The next node has a tag. -/
  | tag (t : Tag)
  /-- A text, plain or not. -/
  | text (plain : Bool) (s : String)

namespace Token

/-! ### The state of reading -/

/-- A text that may prove to be a name. -/
structure Candidate where
  /-- Where it begins. -/
  place : Cursor
  /-- How many tokens are in front of it. -/
  position : Nat
  /-- Can it be nothing else? -/
  required : Bool

/-- A level of indentation. -/
structure Level where
  /-- The indentation below it. -/
  below : Int
  /-- Does it begin a collection? -/
  isBlock : Bool

/-- A text that is being read. -/
structure Draft where
  /-- What is left of it. -/
  cursor : Cursor
  /-- The tokens so far, the last one first. -/
  tokens : List Token := []
  /-- May a name begin here? -/
  nameAllowed : Bool := true
  /-- What may prove to be a name within the innermost brackets. -/
  candidate : Option Candidate := none
  /-- What may prove to be a name around each pair of open brackets, the innermost first. -/
  outer : List (Option Candidate) := []
  /-- The indentation. -/
  indent : Int := -1
  /-- The levels of indentation, the innermost first. -/
  levels : List Level := []
  /-- Where a colon is the mark of a value whatever follows it. -/
  adjacent : Option Nat := none
  /-- Was a brace met, or the mark of a key in brackets, since the last single pair? -/
  braceMet : Bool := false
  /-- Does the last item of each list in open brackets begin a single pair? -/
  pairs : List Bool := []

namespace Draft

/-- Is a bracket or brace open? -/
def inBrackets (d : Draft) : Bool := !d.outer.isEmpty

/-- Adds a token. -/
def emit (d : Draft) (t : Token) : Draft := { d with tokens := t :: d.tokens }

/-- Puts a token in behind so many others. -/
def insertAt (d : Draft) (position : Nat) (t : Token) : Draft :=
  let behind := d.tokens.length - position
  { d with tokens := d.tokens.take behind ++ t :: d.tokens.drop behind }

/-- The text goes on at a place. -/
def moveTo (d : Draft) (c : Cursor) : Draft := { d with cursor := c }

/-- The text goes on behind blanks and a comment. -/
def skipBlanks? (d : Draft) : Option Draft := d.cursor.skipBlanks?.map d.moveTo

/-! ### Indentation -/

/-- The levels and the indentation without the levels that begin no collection. -/
def dropLoose (indent : Int) : List Level → Int × List Level
  | [] => (indent, [])
  | l :: ls => if l.isBlock then (indent, l :: ls) else dropLoose l.below ls

/-- Leaves the levels that begin no collection. -/
def leaveLoose (d : Draft) : Draft :=
  let (indent, levels) := dropLoose d.indent d.levels
  { d with indent, levels }

/-- Adds a level of one column that begins no collection, unless the last one is such a level. -/
def enterLoose (d : Draft) : Draft :=
  if !d.inBrackets && d.levels.head?.any Level.isBlock then
    { d with indent := d.indent + 1, levels := ⟨d.indent, false⟩ :: d.levels }
  else d

/-- Begins a collection if a column is deeper than the indentation. Its mark is put in behind so
many tokens. -/
def enter (d : Draft) (column position : Nat) (t : Token) : Draft :=
  if d.inBrackets then d
  else
    let (indent, levels) :=
      match d.levels with
      | l :: ls => if d.indent ≤ column && !l.isBlock then (l.below, ls) else (d.indent, l :: ls)
      | [] => (d.indent, [])
    if indent < column then
      { d with indent := column, levels := ⟨indent, true⟩ :: levels }.insertAt position t
    else { d with indent, levels }

/-- The indentation, the levels and the tokens once all levels deeper than a column are left. -/
def leaveLevels (column : Int) (tokens : List Token) (indent : Int) : List Level →
    Int × List Level × List Token
  | [] => (indent, [], tokens)
  | l :: ls =>
    if column < indent then
      leaveLevels column (if l.isBlock then .blockEnd :: tokens else tokens) l.below ls
    else (indent, l :: ls, tokens)

/-- Leaves the levels that are deeper than a column. -/
def leave (d : Draft) (column : Int) : Draft :=
  if d.inBrackets then d
  else
    let (indent, levels, tokens) := leaveLevels column d.tokens d.indent d.levels
    { d with indent, levels, tokens }

/-! ### Candidates for names -/

/-- What comes next may prove to be a name, if one may begin here. It can be nothing else where a
table has its names. -/
def saveCandidate (d : Draft) : Draft :=
  if d.nameAllowed then
    let required :=
      !d.inBrackets && d.indent = d.cursor.column && d.levels.head?.any Level.isBlock
    { d with candidate := some ⟨d.cursor, d.tokens.length, required⟩ }
  else d

/-- The candidate is no name. -/
def dropCandidate (d : Draft) : Option Draft :=
  if d.candidate.any Candidate.required then none else some { d with candidate := none }

/-- Outside of brackets a name has to stand on one line with its colon, and near it. -/
def dropStale (d : Draft) : Option Draft :=
  let stale := d.candidate.any fun k =>
    k.place.line < d.cursor.line || k.place.index + 1024 < d.cursor.index
  if !d.inBrackets && stale then d.dropCandidate else some d

/-! ### To the next token -/

/-- Behind blanks, comments and line ends, at which names may begin again outside of brackets; the
fuel bounds them. Tabs are no indentation. -/
def passGap : Nat → Draft → Option Draft
  | 0, _ => none
  | fuel + 1, d =>
    let c := d.cursor
    match c.front with
    | none => some d
    | some b =>
      if b = '\t' && !d.levels.isEmpty && c.fresh && c.column < d.indent then do
        let d ← d.skipBlanks?
        guard d.cursor.atLineEnd
        passGap fuel d
      else if isBlank b then passGap fuel (d.moveTo (c.passBlanks 1))
      else if isBreak b then
        passGap fuel { d with cursor := c.nextLine, nameAllowed := d.nameAllowed || !d.inBrackets }
      else if b = '#' then passGap fuel (d.moveTo (c.pass c.restOfLine.length))
      else some d

/-- At the next token. -/
def toNext (d : Draft) : Option Draft := do
  let d ← passGap (d.cursor.rest.length + 1) d
  let d ← d.dropStale
  return d.leave d.cursor.column

/-! ### Documents -/

/-- A line that ends all collections, and after which no name may begin on the same line. -/
def endAll (d : Draft) : Option Draft := do
  return { ← (d.leave (-1)).dropCandidate with nameAllowed := false }

/-- A directive. -/
def readDirective (d : Draft) : Option Draft := do
  let d ← d.endAll
  let (line, c) ← takeDirective d.cursor
  return (d.moveTo c).emit (.directive line)

/-- The mark of a document. -/
def readDocument (d : Draft) : Option Draft := do
  let ends := d.cursor.atMark '.'
  let d ← d.endAll
  let d := (d.moveTo (d.cursor.pass 3)).emit (if ends then .documentEnd else .documentStart)
  if ends then
    let d ← d.skipBlanks?
    guard d.cursor.atLineEnd
    return d
  else return d

/-! ### Collections in brackets -/

/-- How many brackets may be open. -/
def maxOpen : Nat := 255

/-- An opening bracket or brace. -/
def readOpen (d : Draft) (t : Token) (isBrace : Bool) : Option Draft := do
  let d := d.saveCandidate.enterLoose
  guard (d.outer.length < maxOpen)
  let d ← { d with
    cursor := d.cursor.pass 1
    candidate := none
    outer := d.candidate :: d.outer
    nameAllowed := true
    braceMet := d.braceMet || isBrace
    pairs := if isBrace then d.pairs else false :: d.pairs }.skipBlanks?
  return d.emit t

/-- A single pair in a list in brackets is at its end. -/
def endPair (d : Draft) : Draft :=
  match d.pairs with
  | true :: ps => { d with braceMet := false, pairs := false :: ps }.emit .braceClose
  | _ => d

/-- A closing bracket or brace. -/
def readClose (d : Draft) (t : Token) (isBrace : Bool) : Option Draft := do
  let d ← d.dropCandidate
  let d : Draft :=
    match d.outer with
    | k :: ks => { d with candidate := k, outer := ks, nameAllowed := false }
    | [] => { d with nameAllowed := false }
  let d := if isBrace then d else { d.endPair with pairs := d.endPair.pairs.drop 1 }
  let d ← (d.moveTo (d.cursor.pass 1)).skipBlanks?
  let d : Draft := if d.inBrackets then { d with adjacent := some d.cursor.index } else d
  return d.emit t

/-- A comma in brackets. -/
def readComma (d : Draft) : Option Draft := do
  let d := { ← d.dropCandidate with nameAllowed := true }.endPair
  let d ← (d.moveTo (d.cursor.pass 1)).skipBlanks?
  return d.emit .comma

/-! ### Items, keys and values -/

/-- The mark of an item. -/
def readItem (d : Draft) : Option Draft := do
  guard (!d.inBrackets && d.nameAllowed)
  let d := (d.moveTo (d.cursor.pass 1)).enter d.cursor.column d.tokens.length .listStart
  let tabs := d.cursor.blanks.contains '\t'
  let d ← d.skipBlanks?
  guard (!(tabs && d.cursor.front = some '-' && endsWord d.cursor.second))
  let loose := d.cursor.front.any fun c => isBreak c || isBracket c
  let d ← (if loose then d.enterLoose else d).dropCandidate
  return { d with nameAllowed := true }.emit .item

/-- Behind spaces, comments and line ends, of which one at least has to be there; the fuel bounds
them. -/
def passSpaces : Nat → (lacking : Bool) → Draft → Option Draft
  | 0, _, _ => none
  | fuel + 1, lacking, d =>
    let c := d.cursor
    match c.front with
    | some ' ' => passSpaces fuel false (d.moveTo (c.passBlanks 1))
    | some '#' => passSpaces fuel lacking (d.moveTo (c.pass c.restOfLine.length))
    | front =>
      if front.any isBreak then
        passSpaces fuel false
          { d with cursor := c.nextLine, nameAllowed := d.nameAllowed || !d.inBrackets }
      else if lacking || front = some '\t' then none
      else some d

/-- The mark of a key. -/
def readKey (d : Draft) : Option Draft := do
  guard (d.inBrackets || d.nameAllowed)
  let d : Draft :=
    if d.inBrackets then { d with braceMet := true }
    else d.enter d.cursor.column d.tokens.length .tableStart
  let d ← d.dropCandidate
  let d := { d with cursor := d.cursor.pass 1, nameAllowed := !d.inBrackets }
  return (← passSpaces (d.cursor.rest.length + 1) true d).emit .key

/-- Behind the mark of a value. A tab is no indentation for what stands behind it. -/
def passColon? (c : Cursor) : Option Cursor :=
  let c := c.pass 1
  if c.front = some '\t' then do
    let spaced := c.blanks.contains ' '
    let c ← c.skipBlanks?
    guard (spaced || !c.front.any fun c => isHandleChar c)
    return c
  else some c

/-- The mark of a value. What stands before it was a name, if it could be one; in a list in brackets
it begins a single pair. -/
def readValue (d : Draft) : Option Draft := do
  let column := d.cursor.column
  let line := d.cursor.line
  let single := !d.pairs.isEmpty && !d.braceMet
  let d := { d with pairs := if single then true :: d.pairs.drop 1 else d.pairs }
  let d := d.moveTo (← passColon? d.cursor)
  match d.candidate with
  | some k =>
    guard (!(single && k.place.line < line))
    let d := d.insertAt k.position .key
    let d := if single then d.insertAt k.position .braceOpen else d
    let d := (d.enter k.place.column k.position .tableStart).enterLoose
    return { d with candidate := none, nameAllowed := false }.emit .value
  | none =>
    let d := if single then d.emit .braceOpen else d
    guard (d.inBrackets || d.nameAllowed)
    let d := (d.enter column d.tokens.length .tableStart).enterLoose
    return { d with nameAllowed := !d.inBrackets }.emit .value

/-! ### Nodes -/

/-- The mark that repeats a node, or names one. -/
def readAnchor (d : Draft) (make : String → Token) : Option Draft := do
  let d := d.saveCandidate
  let (name, c) ← takeAnchor d.cursor
  return { d with cursor := c, nameAllowed := false }.emit (make name)

/-- A tag. -/
def readTag (d : Draft) : Option Draft := do
  let d := d.saveCandidate
  let (t, c) ← takeTag d.inBrackets d.cursor
  return { d with cursor := c, nameAllowed := false }.emit (.tag t)

/-- A block. -/
def readBlock (d : Draft) (folded : Bool) : Option Draft := do
  let d := d.saveCandidate.leaveLoose
  let (s, c) ← takeBlock folded d.indent (d.cursor.pass 1)
  return { d with cursor := c, nameAllowed := true }.emit (.text false (String.ofList s))

/-- A text in quotes. In brackets the mark of a value may follow it without a blank, as in JSON. -/
def readQuoted (d : Draft) : Option Draft := do
  let d := d.saveCandidate
  let (s, c) ← takeQuoted d.inBrackets d.indent d.cursor
  let d := { d with cursor := c, nameAllowed := false }
  let d ← passGap (d.cursor.rest.length + 1) d
  return { d with adjacent := some d.cursor.index }.emit (.text false (String.ofList s))

/-- A plain text. -/
def readPlain (d : Draft) : Option Draft := do
  let d := d.saveCandidate.leaveLoose
  let (s, c) ← takePlain d.inBrackets (d.indent + 1) d.cursor
  return { d with cursor := c, nameAllowed := c.fresh }.emit (.text true (String.ofList s))

/-- The token that begins with a character, which another follows or the end. -/
def readNext (d : Draft) (c : Char) (follower : Option Char) : Option Draft :=
  let alone := endsWord follower
  let adjacent := d.adjacent = some d.cursor.index
  if d.cursor.column = 0 && c = '%' then d.readDirective
  else if d.cursor.atDocument then d.readDocument
  else if d.cursor.column < d.indent then none
  else if c = '[' then d.readOpen .bracketOpen false
  else if c = '\x7b' then d.readOpen .braceOpen true
  else if c = ']' then d.readClose .bracketClose false
  else if c = '\x7d' then d.readClose .braceClose true
  else if c = ',' then d.readComma
  else if c = '-' && alone then d.readItem
  else if c = '?' && alone then d.readKey
  else if c = ':' && (alone || (d.inBrackets && (follower.any isBracket || adjacent))) then
    d.readValue
  else if c = '*' then d.readAnchor .alias
  else if c = '&' then d.readAnchor .anchor
  else if c = '!' then d.readTag
  else if c = '|' && !d.inBrackets then d.readBlock false
  else if c = '>' && !d.inBrackets then d.readBlock true
  else if c = '\'' || c = '"' then d.readQuoted
  else if c = '%' || c = '@' || c.toNat = 96 then none
  else d.readPlain

/-- The tokens of a text that is at its end. -/
def finish (d : Draft) : Option (List Token) := do
  guard (!(d.candidate :: d.outer).any fun k => k.any Candidate.required)
  return (d.leave (-1)).tokens.reverse

/-- Reads one token after another; the fuel bounds their number. -/
def readAll : Nat → Draft → Option (List Token)
  | 0, _ => none
  | fuel + 1, d => do
    let d ← d.toNext
    match d.cursor.rest with
    | [] => d.finish
    | c :: cs => readAll fuel (← d.readNext c cs.head?)

end Draft

/-- The tokens of a text, which a null character ends. -/
def ofText? (text : String) : Option (List Token) :=
  let cs := text.toList.takeWhile (· ≠ '\x00')
  Draft.readAll (cs.length + 1) { cursor := { rest := cs } }

end Token

end ExportStream.Settings.Yaml
