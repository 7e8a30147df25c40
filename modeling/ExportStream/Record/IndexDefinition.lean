import ExportStream.Generation
import ExportStream.Record.Property
import ExportStream.Text.Ascii
import ExportStream.Text.Blank
/-!
# Definitions of indexes

In the old format a definition stands under names whose case does not matter, and its type follows
from what it holds: it needs a map, and a reduce step makes it a map-reduce index. Later formats
state the type.
-/

namespace ExportStream

/-- The type of an index. -/
inductive IndexType where
  /-- A map. -/
  | map
  /-- A map and a reduce step. -/
  | mapReduce
  /-- A map that the database made. -/
  | autoMap
  /-- A map and a reduce step that the database made. -/
  | autoMapReduce
  /-- A map written in JavaScript. -/
  | javaScriptMap
  /-- A map and a reduce step written in JavaScript. -/
  | javaScriptMapReduce
  /-- An index that does not work. -/
  | faulty
  deriving DecidableEq

namespace IndexType

/-- The name of a type. -/
def name : IndexType → String
  | .map => "Map"
  | .mapReduce => "MapReduce"
  | .autoMap => "AutoMap"
  | .autoMapReduce => "AutoMapReduce"
  | .javaScriptMap => "JavaScriptMap"
  | .javaScriptMapReduce => "JavaScriptMapReduce"
  | .faulty => "Faulty"

/-- The type with a name. -/
def ofName? (n : String) : Option IndexType :=
  [map, mapReduce, autoMap, autoMapReduce, javaScriptMap, javaScriptMapReduce, faulty].find?
    fun t => t.name = n

end IndexType

/-- A definition of an index. -/
structure IndexDefinition where
  /-- The type. -/
  type : IndexType
  /-- The name. -/
  name : String
  /-- The definition, an object. -/
  definition : Json
  deriving DecidableEq

namespace IndexDefinition

/-- A fault of an element as a fault of a definition. -/
def wrapped (f : RecordFault) : RecordFault := .definition f.message

/-- Reads the fields of an element of the later formats. -/
def parseCurrent (fields : Fields) : Except RecordFault IndexDefinition := do
  let typeName ← (Fields.dueText fields "Type").mapError wrapped
  let some type := IndexType.ofName? typeName
    | .error (.definition ("unknown index type '" ++ typeName ++ "'"))
  let some (.object definition) := Fields.find? "Definition" fields
    | .error (wrapped (.missing "Definition"))
  let some name := Fields.text? definition "Name"
    | .error (wrapped (.missing "Definition.Name"))
  return { type, name, definition := .object definition }

/-- The value of a name whose case does not matter. -/
def findIgnoringCase (name : String) (fields : Fields) : Option Json :=
  (List.find? (fun f => Text.sameIgnoringCase f.1 name) fields).map Prod.snd

/-- A text that is not blank. -/
def isFilledText : Option Json → Bool
  | some (.string s) => !Text.isBlankText s
  | _ => false

/-- A text that is not blank, or an array that is not empty. -/
def isFilled (v : Option Json) : Bool :=
  match v with
  | some (.array items) => !items.isEmpty
  | v => isFilledText v

/-- Reads the fields of an element of the old format. -/
def parseLegacy (fields : Fields) : Except RecordFault IndexDefinition := do
  let some (.string name) := findIgnoringCase "name" fields
    | .error (wrapped (.missing "name"))
  let some (.object definition) := findIgnoringCase "definition" fields
    | .error (wrapped (.missing "definition"))
  if isFilled (Fields.find? "Map" definition) || isFilled (Fields.find? "Maps" definition) then
    return {
      type := if isFilledText (Fields.find? "Reduce" definition) then .mapReduce else .map
      name
      definition := .object definition }
  else .error (.definition ("index '" ++ name ++ "' has no map"))

/-- Reads an element as a definition of an index. -/
def parse (g : Generation) (v : Json) : Except RecordFault IndexDefinition := do
  let fields ← v.element
  if g.isLegacy then parseLegacy fields else parseCurrent fields

end IndexDefinition

end ExportStream
