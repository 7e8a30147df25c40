import ExportStream.Settings.Value
/-!
# Paths to settings

A name can be the path to a setting: a name to begin with, and then steps that lead into tables, by
a dot and a name, or into lists, by an index in brackets. An index that is negative counts from the
end. Changing what is at the end of a path makes a table or a list of everything on the way, as the
steps ask for; items that a list lacks before an index are nothing.
-/

namespace ExportStream.Settings

/-- A step into a value. -/
inductive Step where
  /-- To a named value of a table. -/
  | field (name : String)
  /-- To an item of a list. -/
  | item (index : Int)
  deriving DecidableEq

/-- The way to a setting. -/
structure Path where
  /-- The name that it begins with. -/
  head : String
  /-- The steps from there. -/
  steps : List Step := []
  deriving DecidableEq

namespace Path

/-! ### Reading paths -/

/-- May a character stand in a name of a path? -/
def isNameChar (c : Char) : Bool := c.isAlphanum || c = '_' || c = '-'

/-- A name, and what is behind it. -/
def takeName (cs : List Char) : Option (String × List Char) :=
  let name := cs.takeWhile isNameChar
  if name.isEmpty then none else some (String.ofList name, cs.drop name.length)

/-- The characters behind blanks. -/
def skipBlanks (cs : List Char) : List Char := cs.dropWhile fun c => c = ' ' || c = '\t'

/-- An index with its closing bracket, and what is behind it. -/
def takeIndex (cs : List Char) : Option (Int × List Char) := do
  let cs := skipBlanks cs
  let sign := cs.takeWhile (· = '-')
  let digits := (cs.drop sign.length).takeWhile Char.isDigit
  guard (sign.length ≤ 1)
  let index ← Decimal.int64? (Text.Utf8.bytesOf (String.ofList (sign ++ digits)))
  match skipBlanks (cs.drop (sign.length + digits.length)) with
  | ']' :: rest => return (index, rest)
  | _ => none

/-- Steps up to the end of the text; the fuel bounds their number. -/
def readSteps : Nat → List Char → Option (List Step)
  | _, [] => some []
  | 0, _ => none
  | fuel + 1, '.' :: cs => do
    let (name, rest) ← takeName cs
    return .field name :: (← readSteps fuel rest)
  | fuel + 1, '[' :: cs => do
    let (index, rest) ← takeIndex cs
    return .item index :: (← readSteps fuel rest)
  | _, _ => none

/-- The path that a name is, if it is one. -/
def read? (name : String) : Option Path := do
  let (head, rest) ← takeName name.toList
  return { head, steps := ← readSteps rest.length rest }

/-- The path that a name stands for; a name that is no path is the only part of one. -/
def ofName (name : String) : Path := (read? name).getD { head := name }

/-! ### Changing what is at the end -/

/-- Items with one of them changed. -/
def changeItem (act : Value → Value) (index : Int) (items : List Value) : List Value :=
  if 0 ≤ index then
    let place := index.toNat
    (items ++ List.replicate (place + 1 - items.length) Value.nothing).modify place act
  else
    let back := index.natAbs
    (List.replicate (back - items.length) Value.nothing ++ items).modify (items.length - back) act

/-- Changes what is at the end of steps. -/
def follow (act : Value → Value) : List Step → Value → Value
  | [], v => act v
  | .field name :: steps, v => v.withField name (follow act steps (v.under name))
  | .item index :: steps, v => .list (changeItem (follow act steps) index v.itemsOf)

/-- Lays a value upon what is at the end of a path. -/
def put (path : Path) (v : Value) (root : Value) : Value :=
  follow (fun below => below.upon v) (.field path.head :: path.steps) root

end Path

end ExportStream.Settings
