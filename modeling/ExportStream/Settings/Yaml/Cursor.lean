import ExportStream.Text.Digits
/-!
# Places in YAML texts

The columns of a YAML text say how its parts lie in one another, and on how many lines they stand
says which of them may be names. A cursor is what is left of a text, together with the place where
it begins.
-/

namespace ExportStream.Settings.Yaml

/-- Does a character end a line? -/
def isBreak (c : Char) : Bool := c = '\n' || c = '\r'

/-- Is a character a blank within a line? -/
def isBlank (c : Char) : Bool := c = ' ' || c = '\t'

/-- Does a character begin, end or divide a collection in brackets? -/
def isBracket (c : Char) : Bool := c = ',' || c = '[' || c = ']' || c = '\x7b' || c = '\x7d'

/-- Does a word end before a character, or before the end of the text? -/
def endsWord (c : Option Char) : Bool := c.elim true fun c => isBlank c || isBreak c

/-- What is left of a text, and where it begins. -/
structure Cursor where
  /-- What is left. -/
  rest : List Char
  /-- How many characters are in front of it. -/
  index : Nat := 0
  /-- How many lines are above it. -/
  line : Nat := 0
  /-- How many characters of its line are in front of it. -/
  column : Nat := 0
  /-- Is nothing but blanks in front of it on its line? -/
  fresh : Bool := true

namespace Cursor

/-- The first character. -/
def front (c : Cursor) : Option Char := c.rest.head?

/-- The second character. -/
def second (c : Cursor) : Option Char := c.rest[1]?

/-- Is the line, or the text, at its end? -/
def atLineEnd (c : Cursor) : Bool := c.front.elim true isBreak

/-- Does the line begin with the mark of a document? -/
def atMark (c : Cursor) (mark : Char) : Bool :=
  c.column = 0 && c.rest.take 3 = [mark, mark, mark] && endsWord c.rest[3]?

/-- Does the line begin with a mark of either kind? -/
def atDocument (c : Cursor) : Bool := c.atMark '-' || c.atMark '.'

/-- Behind so many blanks. -/
def passBlanks (c : Cursor) (count : Nat) : Cursor :=
  { c with rest := c.rest.drop count, index := c.index + count, column := c.column + count }

/-- Behind so many characters of the line. -/
def pass (c : Cursor) (count : Nat) : Cursor :=
  { c.passBlanks count with fresh := c.fresh && count = 0 }

/-- Where a part of the line is what is left. -/
def passTo (c : Cursor) (rest : List Char) : Cursor := c.pass (c.rest.length - rest.length)

/-- Behind the end of the line, if the line is at its end. -/
def nextLine (c : Cursor) : Cursor :=
  match c.rest with
  | '\r' :: '\n' :: cs => ⟨cs, c.index + 2, c.line + 1, 0, true⟩
  | '\r' :: cs | '\n' :: cs => ⟨cs, c.index + 1, c.line + 1, 0, true⟩
  | _ => c

/-- The blanks in front. -/
def blanks (c : Cursor) : List Char := c.rest.takeWhile isBlank

/-- What is left of the line. -/
def restOfLine (c : Cursor) : List Char := c.rest.takeWhile fun c => !isBreak c

/-- Behind the blanks and the comment in front, if there are any; a comment needs a blank before
it. -/
def skipBlanks? (c : Cursor) : Option Cursor :=
  let count := c.blanks.length
  let c := c.passBlanks count
  if c.front = some '#' then
    if count = 0 then none else some (c.pass c.restOfLine.length)
  else some c

end Cursor

end ExportStream.Settings.Yaml
