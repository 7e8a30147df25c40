import ExportStream.Decimal.Literal
import ExportStream.Record.Property
import ExportStream.Text.Blank
import ExportStream.Text.Utf8
/-!
# Identities

An identity is a counter for the ids of new documents. Its value is written as a number or as a
text.
-/

namespace ExportStream

/-- A counter for ids. -/
structure Identity where
  /-- The key of the counter. -/
  key : String
  /-- The last number given out. -/
  value : Int
  deriving DecidableEq

namespace Identity

/-- The integer of 64 bits that a text writes, with blanks around it or not. -/
def textValue? (s : String) : Option Int :=
  Decimal.int64? (Text.Utf8.encode (Text.trimmed s.toList))

/-- The value, which is due. -/
def valueOf (fields : Fields) : Except RecordFault Int :=
  let required (i : Option Int) : Except RecordFault Int :=
    match i with
    | some i => .ok i
    | none => .error (.invalid "Value" "expected a 64-bit integer")
  match Fields.find? "Value" fields with
  | none | some .null => .error (.missing "Value")
  | some (.number n) => required n.toInt64?
  | some (.string s) => required (textValue? s)
  | some _ => required none

/-- Reads an element as an identity. -/
def parse (v : Json) : Except RecordFault Identity := do
  let fields ← v.element
  let key ← Fields.dueText fields "Key"
  let value ← valueOf fields
  return { key, value }

end Identity

end ExportStream
