import ExportStream.Decimal.Style
import ExportStream.Text.Quoted
/-!
# Tokens

The parts that an export stream is read in. Commas and colons are separators and leave no token: the
brackets and the order of names and values carry the structure.
-/

namespace ExportStream

/-- A part of the stream. -/
inductive Token where
  /-- An opening brace. -/
  | startObject
  /-- A closing brace. -/
  | endObject
  /-- An opening bracket. -/
  | startArray
  /-- A closing bracket. -/
  | endArray
  /-- A text between quotes. -/
  | string (s : String)
  /-- An integer of 64 bits with a sign. -/
  | integer (i : Int)
  /-- Any other number. -/
  | real (x : Binary64)
  /-- A truth value. -/
  | bool (b : Bool)
  /-- The null value. -/
  | null
  deriving DecidableEq

/-- A token as messages name it. -/
def Token.describe : Token → String
  | .startObject => "StartObject"
  | .endObject => "EndObject"
  | .startArray => "StartArray"
  | .endArray => "EndArray"
  | .string s => "String(" ++ Text.quoted s ++ ")"
  | .integer i => s!"Integer({i})"
  | .real x => "Float(" ++ Decimal.spoken.write x ++ ")"
  | .bool b => s!"Bool({b})"
  | .null => "Null"

end ExportStream
