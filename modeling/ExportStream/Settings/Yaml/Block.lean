import ExportStream.Settings.Yaml.Cursor
/-!
# Blocks of YAML

A block is a text on lines of its own, each behind the same indentation. Its header says whether the
lines are folded into one, how deep they are indented, if that does not follow from the first of
them, and what becomes of the line ends behind the last.
-/

namespace ExportStream.Settings.Yaml

/-- What becomes of the line ends behind the last line of a block. -/
inductive Chomping where
  /-- There is none. -/
  | strip
  /-- There is one. -/
  | clip
  /-- All are there. -/
  | keep
  deriving DecidableEq

/-- The header of a block. -/
structure BlockHeader where
  /-- What becomes of the line ends behind the last line. -/
  chomping : Chomping := .clip
  /-- How much deeper than what is around it the block is indented, if that is given. -/
  deeper : Nat := 0

namespace BlockHeader

/-- The digit that says how much deeper a block is indented, if there is one. -/
def takeDigit (h : BlockHeader) (c : Cursor) : Option (BlockHeader × Cursor) :=
  match c.front with
  | some d =>
    if d = '0' then none
    else if d.isDigit then some ({ h with deeper := d.toNat - 48 }, c.pass 1)
    else some (h, c)
  | none => some (h, c)

/-- The sign that says what becomes of the last line ends, if there is one. -/
def takeSign (h : BlockHeader) (c : Cursor) : BlockHeader × Cursor :=
  match c.front with
  | some '+' => ({ h with chomping := .keep }, c.pass 1)
  | some '-' => ({ h with chomping := .strip }, c.pass 1)
  | _ => (h, c)

/-- A header, with the digit behind the sign or before it. -/
def take (c : Cursor) : Option (BlockHeader × Cursor) := do
  let (h, c') := takeSign {} c
  let signed := c'.index ≠ c.index
  let (h, c') ← takeDigit h c'
  return if signed then (h, c') else takeSign h c'

end BlockHeader

/-! ### Indentation -/

/-- Behind the indentation of the next line that is not empty, with the number of the empty ones;
the fuel bounds it. -/
def passIndent (indent : Nat) : Nat → Nat → Cursor → Nat × Cursor
  | 0, breaks, c => (breaks, c)
  | fuel + 1, breaks, c =>
    let spaces := (c.rest.takeWhile (· = ' ')).take (indent - c.column)
    let c := c.passBlanks spaces.length
    if c.front.any isBreak then passIndent indent fuel (breaks + 1) c.nextLine else (breaks, c)

/-- Behind the spaces of the next line that is not empty, with the number of the empty ones and the
deepest column that was met; the fuel bounds the lines. -/
def measureIndent : Nat → (deepest breaks : Nat) → Cursor → Nat × Nat × Cursor
  | 0, deepest, breaks, c => (deepest, breaks, c)
  | fuel + 1, deepest, breaks, c =>
    let c := c.passBlanks (c.rest.takeWhile (· = ' ')).length
    let deepest := max deepest c.column
    if c.front.any isBreak then measureIndent fuel deepest (breaks + 1) c.nextLine
    else (deepest, breaks, c)

/-! ### Lines -/

/-- The line ends behind a line: the first one, if it is there, and the ones of empty lines. -/
structure Tail where
  /-- Does the line have an end? -/
  ended : Bool := false
  /-- The empty lines behind it. -/
  empty : Nat := 0

/-- Line ends. -/
def breaks (count : Nat) : List Char := List.replicate count '\n'

/-- What stands between two lines; `even` tells that neither begins with a blank. -/
def Tail.joint (t : Tail) (folded even : Bool) : List Char :=
  if folded && t.ended && even then if t.empty = 0 then [' '] else breaks t.empty
  else breaks ((if t.ended then 1 else 0) + t.empty)

/-- The lines of a block, the line ends behind the last, and what follows the block. `blank` tells
that the line before begins with a blank; the fuel bounds the lines. -/
def takeLines (folded : Bool) (indent : Nat) : Nat → Tail → (blank : Bool) → Cursor →
    List Char × Tail × Cursor
  | 0, t, _, c => ([], t, c)
  | fuel + 1, t, blank, c =>
    if c.column = indent && !c.rest.isEmpty then
      let blank' := c.front.any isBlank
      let line := c.restOfLine
      let text := t.joint folded (!blank && !blank') ++ line
      let c := c.pass line.length
      if c.rest.isEmpty then (text, {}, c)
      else
        let (empty, c) := passIndent indent c.rest.length 0 c.nextLine
        let (more, t, c) := takeLines folded indent fuel { ended := true, empty } blank' c
        (text ++ more, t, c)
    else ([], t, c)

/-- The text of a block of which nothing but line ends is there: the one of the header, if it is
there, and those of empty lines. -/
def emptyBlock (chomping : Chomping) (ended : Bool) (empty : Nat) : List Char :=
  match chomping with
  | .strip => []
  | .clip => breaks (if ended then 1 else 0)
  | .keep => if empty = 0 then breaks (if ended then 1 else 0) else breaks empty

/-- The line ends at the end of a block; a last line without one gets it if it is indented. -/
def lastBreaks (chomping : Chomping) (around : Int) (t : Tail) (c : Cursor) : List Char :=
  let own := if t.ended then 1 else 0
  let lacking := if c.rest.isEmpty && max around 1 ≤ c.column then 1 else 0
  match chomping with
  | .strip => []
  | .clip => breaks (own + lacking)
  | .keep => breaks (own + lacking + t.empty)

/-- A block behind its mark, and what follows it; `around` is the indentation of what is around. -/
def takeBlock (folded : Bool) (around : Int) (c : Cursor) : Option (List Char × Cursor) := do
  let line := c.line
  let (h, c) ← BlockHeader.take c
  let c ← c.skipBlanks?
  guard c.atLineEnd
  let c := c.nextLine
  guard (c.front ≠ some '\t')
  let (indent, empty, c) :=
    if h.deeper = 0 then
      let (deepest, empty, c) := measureIndent (c.rest.length + 1) 0 0 c
      let least := (around + 1).toNat
      (max (max deepest least) (if 0 < around then 1 else 0), empty, c)
    else
      let indent := (max around 0).toNat + h.deeper
      let (empty, c) := passIndent indent (c.rest.length + 1) 0 c
      (indent, empty, c)
  if c.rest.isEmpty then return (emptyBlock h.chomping (c.line ≠ line) empty, c)
  guard (!(c.column < indent && around < c.column))
  let (text, t, c) := takeLines folded indent (c.rest.length + 1) { empty } false c
  return (text ++ lastBreaks h.chomping around t c, c)

end ExportStream.Settings.Yaml
