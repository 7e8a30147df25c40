import ExportStream.Settings.Environment
import ExportStream.Settings.Path
/-!
# Layers of settings

Settings come in layers: a file, and the variables of the environment upon it. Each layer is a list
of values under names; a name may be a path, and then leads into tables and lists.
-/

namespace ExportStream.Settings

/-- A layer of settings: values under names. -/
abbrev Layer := List (String × Value)

namespace Layer

/-- Lays a layer upon what is there. -/
def upon (root : Value) (layer : Layer) : Value :=
  layer.foldl (fun root f => (Path.ofName f.1).put f.2 root) root

/-- What layers add up to, the first lying lowest. -/
def merge (layers : List Layer) : Value := layers.foldl upon (.table [])

/-! ### The environment -/

/-- What the names of the variables of this program begin with, in lower case. -/
def beginning : List Char := "docport_".toList

/-- The name of the setting that a variable without its beginning stands for: two underscores divide
the parts of a path. -/
def dotted : List Char → List Char
  | '_' :: '_' :: cs => '.' :: dotted cs
  | c :: cs => c :: dotted cs
  | [] => []

/-- The name of the setting that a variable stands for, in letters of either case. -/
def settingName? (name : String) : Option String :=
  let cs := (Text.lower name).toList
  if beginning.isPrefixOf cs then some (String.ofList (dotted (cs.drop beginning.length)))
  else none

/-- The value of a variable: a truth value, an integer or a double if it reads as one, or else a
text. -/
def variableValue (text : String) : Value :=
  let bytes := Text.Utf8.bytesOf text
  let lower := Text.lower text
  if lower = "true" then .flag true
  else if lower = "false" then .flag false
  else
    match Decimal.int64? bytes with
    | some i => .integer i
    | none =>
      match Extended.read? bytes with
      | some x => .real x
      | none => .text text

/-- The settings that the variables of the environment stand for. -/
def ofEnvironment (e : Environment) : Layer :=
  e.filterMap fun v => (settingName? v.1).map fun name => (name, variableValue v.2)

end Layer

end ExportStream.Settings
