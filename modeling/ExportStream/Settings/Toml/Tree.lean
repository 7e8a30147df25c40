import ExportStream.Settings.Value
/-!
# Trees of tables

While a TOML text is read its tables form a tree. A table remembers how it came about, because a
table may be opened once only: by a header of its own, by names with dots, or merely as a step on
the way to another table, which leaves it open to a header of its own and to names with dots.
-/

namespace ExportStream.Settings.Toml

/-- How a table came about. -/
inductive Origin where
  /-- By a header. -/
  | header
  /-- As a step on the way to another table. -/
  | step
  /-- By names with dots. -/
  | dotted
  deriving DecidableEq

/-- A tree of tables. -/
inductive Node where
  /-- A value that is complete. -/
  | leaf (v : Value)
  /-- A table. -/
  | table (origin : Origin) (fields : List (String × Node))
  /-- Tables under one name, the last at the front. -/
  | tables (last : Node) (earlier : List Node)

namespace Node

/-- The root of a text. -/
def root : Node := .table .header []

/-- The fields of a table. -/
def fields : Node → List (String × Node)
  | .table _ fields => fields
  | _ => []

/-- The node with other fields, if it is a table. -/
def withFields (fields : List (String × Node)) : Node → Node
  | .table origin _ => .table origin fields
  | n => n

/-- Named nodes with one of them changed or added. -/
def setField (name : String) (n : Node) : List (String × Node) → List (String × Node)
  | [] => [(name, n)]
  | (k, m) :: rest => if k = name then (k, n) :: rest else (k, m) :: setField name n rest

/-- The node with a named node changed or added. -/
def set (parent : Node) (name : String) (n : Node) : Node :=
  parent.withFields (setField name n parent.fields)

/-- Changes the table at the end of a path. Tables on the way come about as the given origin; of
tables under one name the last is meant. -/
def change (origin : Origin) (act : Node → Option Node) : List String → Node → Option Node
  | [], n => act n
  | name :: path, n =>
    match n.fields.lookup name with
    | none => do
      let inner ← change origin act path (.table origin [])
      return n.set name inner
    | some (.leaf _) => none
    | some (.tables last earlier) => do
      let inner ← change origin act path last
      return n.set name (.tables inner earlier)
    | some (.table o fields) =>
      if origin = .dotted ∧ o = .header then none
      else do
        let inner ← change origin act path (.table o fields)
        return n.set name inner

/-- Adds a value to a table. Behind names with dots the table must not have a header of its own. -/
def addValue (name : String) (dots : Bool) (v : Value) : Node → Option Node
  | .table origin fields =>
    if dots && origin = .header then none
    else if (fields.lookup name).isSome then none
    else some (.table origin (setField name (.leaf v) fields))
  | _ => none

/-- Adds the value of a path of names to a table. -/
def addPath (path : List String) (v : Value) (n : Node) : Option Node :=
  match path.getLast? with
  | none => none
  | some name =>
    let way := path.dropLast
    change .dotted (addValue name (!way.isEmpty) v) way n

/-- Opens a table by a header of its own. -/
def openTable (name : String) (parent : Node) : Option Node :=
  match parent.fields.lookup name with
  | none => some (parent.set name (.table .header []))
  | some (.table .step fields) => some (parent.set name (.table .header fields))
  | _ => none

/-- Opens one more table under a name. -/
def openMore (name : String) (parent : Node) : Option Node :=
  match parent.fields.lookup name with
  | none => some (parent.set name (.tables (.table .header []) []))
  | some (.tables last earlier) =>
    some (parent.set name (.tables (.table .header []) (last :: earlier)))
  | _ => none

/-- Opens what a header names. -/
def openPath (more : Bool) (path : List String) (n : Node) : Option Node :=
  match path.getLast? with
  | none => none
  | some name => change .step (if more then openMore name else openTable name) path.dropLast n

mutual

/-- The value of a tree. -/
def value : Node → Value
  | .leaf v => v
  | .table _ fields => .table (fieldValues fields)
  | .tables last earlier => .list (values earlier (value last :: []))

/-- The values of named trees. -/
def fieldValues : List (String × Node) → List (String × Value)
  | [] => []
  | (k, n) :: rest => (k, value n) :: fieldValues rest

/-- The values of trees in reverse, in front of others. -/
def values : List Node → List Value → List Value
  | [], acc => acc
  | n :: rest, acc => values rest (value n :: acc)

end

end Node

end ExportStream.Settings.Toml
