import ExportStream.Settings.Yaml.Node
/-!
# Reading YAML texts

A YAML text describes settings by the indentation of its lines, by marks in front of them, or by
brackets as JSON does. `Yaml.read?` answers the table that the only document of a text describes;
without a document it is empty.
-/

namespace ExportStream.Settings.Yaml

/-- The named values that a text describes. -/
def read? (text : String) : Option (List (String × Value)) := do
  match ← (← Node.ofTokens? (← Token.ofText? text)).value? with
  | .table fields => some fields
  | _ => none

end ExportStream.Settings.Yaml
