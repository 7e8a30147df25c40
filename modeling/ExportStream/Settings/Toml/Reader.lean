import ExportStream.Settings.Toml.Scalar
import ExportStream.Settings.Toml.Text
import ExportStream.Settings.Toml.Tree
/-!
# Reading TOML texts

A TOML text is a sequence of lines: named values, headers that say which table the following ones
belong to, and lines with a comment or nothing. `Toml.read?` answers the table that a text
describes; a text that breaks a rule of the format describes none.
-/

namespace ExportStream.Settings.Toml

/-- How deep arrays and tables in braces may lie in one another. -/
def maxDepth : Nat := 80

mutual

/-- A value; the fuel bounds its parts, and `depth` says how many brackets are open around it. -/
def takeValue : Nat → Nat → List Char → Option (Value × List Char)
  | 0, _, _ => none
  | fuel + 1, depth, cs =>
    match takeQuoted cs with
    | some r => r.map fun (s, rest) => (.text (String.ofList s), rest)
    | none =>
      match cs with
      | '[' :: cs =>
        if depth < maxDepth then
          (takeItems fuel (depth + 1) cs).map fun (vs, rest) => (.list vs, rest)
        else none
      | '\x7b' :: cs =>
        if depth < maxDepth then
          (takeFields fuel (depth + 1) .root cs).map fun (n, rest) => (n.value, rest)
        else none
      | cs => takeScalar cs

/-- The items of an array, and its closing bracket. -/
def takeItems : Nat → Nat → List Char → Option (List Value × List Char)
  | 0, _, _ => none
  | fuel + 1, depth, cs =>
    match skipLines cs.length cs with
    | ']' :: rest => some ([], rest)
    | cs => do
      let (v, rest) ← takeValue fuel depth cs
      match skipLines rest.length rest with
      | ']' :: rest => return ([v], rest)
      | ',' :: rest =>
        let (vs, rest) ← takeItems fuel depth rest
        return (v :: vs, rest)
      | _ => none

/-- The named values of a table in braces, and its closing brace. -/
def takeFields : Nat → Nat → Node → List Char → Option (Node × List Char)
  | 0, _, _, _ => none
  | fuel + 1, depth, n, cs =>
    match skipLines cs.length cs with
    | '\x7d' :: rest => some (n, rest)
    | cs => do
      let (path, rest) ← takePath (cs.length + 1) cs
      match skipLines rest.length rest with
      | '=' :: rest =>
        let (v, rest) ← takeValue fuel depth (skipLines rest.length rest)
        let n ← n.addPath path v
        match skipLines rest.length rest with
        | '\x7d' :: rest => return (n, rest)
        | ',' :: rest => takeFields fuel depth n rest
        | _ => none
      | _ => none

end

/-- A text that is being read: its tree, and the path of the table that values belong to. -/
structure Draft where
  /-- The tree so far. -/
  tree : Node := .root
  /-- The table that values belong to. -/
  path : List String := []

/-- A header behind its opening bracket. -/
def takeHeader (d : Draft) (more : Bool) (cs : List Char) : Option (Draft × List Char) := do
  let (path, rest) ← takePath (cs.length + 1) cs
  let rest ←
    match more, rest with
    | true, ']' :: ']' :: rest => some rest
    | false, ']' :: rest => some rest
    | _, _ => none
  let tree ← d.tree.openPath more path
  let rest ← restOfLine? rest
  return ({ tree, path }, rest)

/-- A line with a named value. -/
def takeAssignment (d : Draft) (cs : List Char) : Option (Draft × List Char) := do
  let (names, rest) ← takePath (cs.length + 1) cs
  match rest with
  | '=' :: rest =>
    let rest := skipBlanks rest
    let (v, rest) ← takeValue (rest.length + 1) 0 rest
    let tree ← d.tree.change .step (Node.addPath names v) d.path
    let rest ← restOfLine? rest
    return ({ d with tree }, rest)
  | _ => none

/-- Reads line after line; the fuel bounds their number. -/
def readLines : Nat → Draft → List Char → Option Node
  | 0, _, _ => none
  | fuel + 1, d, cs =>
    match skipLines cs.length cs with
    | [] => some d.tree
    | '[' :: '[' :: cs => do
      let (d, rest) ← takeHeader d true cs
      readLines fuel d rest
    | '[' :: cs => do
      let (d, rest) ← takeHeader d false cs
      readLines fuel d rest
    | cs => do
      let (d, rest) ← takeAssignment d cs
      readLines fuel d rest

/-- The characters behind the mark of the encoding, if the text begins with one. -/
def skipMark : List Char → List Char
  | '\uFEFF' :: cs => cs
  | cs => cs

/-- The named values that a text describes. -/
def read? (text : String) : Option (List (String × Value)) :=
  let cs := skipMark text.toList
  (readLines (cs.length + 1) {} cs).map fun n => n.value.fieldsOf

end ExportStream.Settings.Toml
