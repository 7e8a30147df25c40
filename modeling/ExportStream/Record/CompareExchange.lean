import ExportStream.Json.Reader
import ExportStream.Record.Property
/-!
# Compare-exchange values

A value under a key that the whole cluster agrees on. It is an object, written as such or as a JSON
text. Exports do not keep its index.
-/

namespace ExportStream

/-- A value under a cluster-wide key. -/
structure CompareExchange where
  /-- The key. -/
  key : String
  /-- The index, which exports do not keep. -/
  index : Int := 0
  /-- The value, an object. -/
  value : Json
  deriving DecidableEq

namespace CompareExchange

/-- The object that a text writes. -/
def embedded (text : String) : Except RecordFault Json :=
  match Json.read text with
  | .ok (.object fields) => .ok (.object fields)
  | .ok other => .error (.invalid "Value" ("expected a JSON object, got " ++ other.typeName))
  | .error message => .error (.invalid "Value" message)

/-- The value, which is due. -/
def valueOf (fields : Fields) : Except RecordFault Json :=
  match Fields.find? "Value" fields with
  | none | some .null => .error (.missing "Value")
  | some (.object inner) => .ok (.object inner)
  | some (.string text) => embedded text
  | some other => .error (.invalid "Value" ("expected object or string, got " ++ other.typeName))

/-- Reads an element as a compare-exchange value. -/
def parse (v : Json) : Except RecordFault CompareExchange := do
  let fields ← v.element
  let key ← Fields.dueText fields "Key"
  let value ← valueOf fields
  return { key, value }

end CompareExchange

end ExportStream
