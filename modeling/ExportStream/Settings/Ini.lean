import ExportStream.Settings.Value
import ExportStream.Text.Blank
import ExportStream.Text.Digits
/-!
# Reading INI texts

An INI text is a sequence of names with values, of headers in brackets that put the following names
into a section, and of comments, each on a line of its own. A value goes to the end of its line and
is a text. In names, headers and values a backslash begins an escape; parts of a value may stand in
quotes and then go over several lines.

`Ini.read?` answers the names outside of sections, with their values, and the sections as tables.
Of one name the last value stays, and of one section only what is under its last header.
-/

namespace ExportStream.Settings.Ini

/-! ### Texts -/

/-- What an escape stands for, behind its backslash: a line end for nothing, and any character
without a meaning of its own for itself. -/
def takeEscape : List Char → Option (List Char × List Char)
  | '0' :: cs => some (['\x00'], cs)
  | 'a' :: cs => some (['\x07'], cs)
  | 'b' :: cs => some (['\x08'], cs)
  | 't' :: cs => some (['\t'], cs)
  | 'r' :: cs => some (['\r'], cs)
  | 'n' :: cs => some (['\n'], cs)
  | '\n' :: cs => some ([], cs)
  | 'x' :: cs => (Text.takeCode 4 cs).map fun (c, rest) => ([c], rest)
  | c :: cs => some ([c], cs)
  | [] => none

/-- A text up to a character that stops it, which stays in front of what is behind; the fuel bounds
the parts. Where nothing stops it, it may have to end with the whole. -/
def takeUntil (stops : Char → Bool) (mayEnd : Bool) : Nat → List Char →
    Option (List Char × List Char)
  | 0, _ => none
  | _, [] => if mayEnd then some ([], []) else none
  | fuel + 1, c :: cs =>
    if stops c then some ([], c :: cs)
    else do
      let (part, cs) ← if c = '\\' then takeEscape cs else some ([c], cs)
      let (more, rest) ← takeUntil stops mayEnd fuel cs
      return (part ++ more, rest)

/-- Does a character end a line? -/
def isLineEnd (c : Char) : Bool := c = '\n' || c = '\r'

/-- The characters behind the blanks on a line. -/
def skipBlanks (cs : List Char) : List Char :=
  cs.dropWhile fun c => Text.isBlank c && !isLineEnd c

/-- The parts of a value: any number in quotes, and then the rest of the line, without the blanks at
its end and, if it is the first part, without those at its front; the fuel bounds the parts. -/
def takeParts : Nat → (first : Bool) → List Char → Option (List Char × List Char)
  | 0, _, _ => none
  | _, _, [] => some ([], [])
  | fuel + 1, first, c :: cs =>
    if c = '"' || c = '\'' then do
      let (part, rest) ← takeUntil (· = c) false (cs.length + 1) cs
      let (more, rest) ← takeParts fuel false (rest.drop 1)
      return (part ++ more, rest)
    else do
      let (part, rest) ← takeUntil isLineEnd true (cs.length + 2) (c :: cs)
      return (if first then Text.trimmed part else (Text.trimFront part.reverse).reverse, rest)

/-- A value. -/
def takeValue (cs : List Char) : Option (String × List Char) :=
  (takeParts (cs.length + 1) true (skipBlanks cs)).map fun (s, rest) => (String.ofList s, rest)

/-- A name without the blanks around it, and what is behind the character that stops it. -/
def takeName (stops : Char → Bool) (cs : List Char) : Option (String × List Char) :=
  (takeUntil stops false (cs.length + 1) cs).map fun (s, rest) =>
    (String.ofList (Text.trimmed s), rest.drop 1)

/-! ### Entries -/

/-- A text that is being read. -/
structure Draft where
  /-- The names that are known, with their values. -/
  fields : List (String × Value) := []
  /-- The section that names belong to. -/
  current : Option String := none

namespace Draft

/-- A section begins, with nothing in it. -/
def openSection (d : Draft) (name : String) : Draft :=
  { fields := Value.setField name (.table []) d.fields, current := some name }

/-- A name gets a value. -/
def assign (d : Draft) (name : String) (v : Value) : Draft :=
  match d.current with
  | none => { d with fields := Value.setField name v d.fields }
  | some owner =>
    let table := ((Value.table d.fields).under owner).withField name v
    { d with fields := Value.setField owner table d.fields }

end Draft

/-- The characters behind a comment. -/
def skipComment (cs : List Char) : List Char := (cs.dropWhile (· ≠ '\n')).drop 1

/-- Reads one entry after another; `fresh` tells that a line begins here, and the fuel bounds the
number of entries. -/
def readEntries : Nat → (fresh : Bool) → Draft → List Char → Option Draft
  | 0, _, _, _ => none
  | fuel + 1, fresh, d, cs =>
    let gap := cs.takeWhile Text.isBlank
    let fresh := gap.getLast?.elim fresh (· = '\n')
    match cs.drop gap.length with
    | [] => some d
    | '[' :: cs => do
      let (name, rest) ← takeName (· = ']') cs
      readEntries fuel false (d.openSection name) rest
    | c :: cs =>
      if c = ';' || c = '#' then
        if fresh then readEntries fuel true d (skipComment cs) else none
      else do
        let (name, rest) ← takeName (fun c => c = '=' || c = ':') (c :: cs)
        guard (name ≠ "")
        let (value, rest) ← takeValue rest
        readEntries fuel false (d.assign name (.text value)) rest

/-- The named values that a text describes. -/
def read? (text : String) : Option (List (String × Value)) :=
  let cs := text.toList
  (readEntries (cs.length + 1) true {} cs).map Draft.fields

end ExportStream.Settings.Ini
