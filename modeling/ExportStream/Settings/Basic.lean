import ExportStream.Json.Reader
import ExportStream.Log.Config
import ExportStream.Options
import ExportStream.Settings.Ini
import ExportStream.Settings.Json5
import ExportStream.Settings.Layer
import ExportStream.Settings.Ron
import ExportStream.Settings.Toml.Reader
import ExportStream.Settings.Yaml.Reader
/-!
# Settings

The settings of the program: the options of imports, and those of logging. They are loaded from a
file, if there is one, and from the environment, which goes before the file. What neither states has
its default.
-/

namespace ExportStream

/-- The settings of the program. -/
structure Settings where
  /-- The options of imports. -/
  options : Options := {}
  /-- The settings of logging. -/
  logging : LogConfig := {}
  deriving DecidableEq

namespace Settings

/-- The names of the parts, in the order of their declaration. -/
def names : List String := ["import", "logging"]

/-- The settings that a value states. -/
def read? {α : Type} (d : Dialect α) (v : α) : Option Settings := do
  let part ← d.parts? names v
  return {
    options := ← Dialect.partOr (Options.read? d) {} (part "import")
    logging := ← Dialect.partOr (LogConfig.read? d) {} (part "logging") }

/-- The settings as a JSON object. -/
def toJson (s : Settings) : Json :=
  .object [("import", s.options.toJson), ("logging", s.logging.toJson)]

/-- Refuses settings that the program cannot run with. -/
def validate (s : Settings) : Except SettingFault Unit := do
  s.options.validate
  s.logging.validate

/-- The settings that layers add up to. -/
def ofLayers (layers : List Layer) : Except SettingFault Settings :=
  match read? Value.dialect (Layer.merge layers) with
  | none => .error (.load "a setting has a value of the wrong type")
  | some s => s.validate.map fun _ => s

/-! ### Files -/

/-- What a file is written in. -/
inductive FileForm where
  /-- A TOML text. -/
  | toml
  /-- A JSON text. -/
  | json
  /-- A YAML text. -/
  | yaml
  /-- An INI text. -/
  | ini
  /-- A RON text. -/
  | ron
  /-- A JSON5 text. -/
  | json5
  deriving DecidableEq

namespace FileForm

/-- The forms by the ends of the names of files. -/
def byExtension : List (String × FileForm) :=
  [("toml", .toml), ("json", .json), ("yaml", .yaml), ("yml", .yaml), ("ini", .ini), ("ron", .ron),
    ("json5", .json5)]

/-- What a form is called. -/
def title : FileForm → String
  | .toml => "TOML"
  | .json => "JSON"
  | .yaml => "YAML"
  | .ini => "INI"
  | .ron => "RON"
  | .json5 => "JSON5"

end FileForm

/-- A JSON number as a value of a setting: an integer that does not fit in 64 bits with a sign is
a double. -/
def valueOfNumber : Number → Value
  | .integer i =>
    match Decimal.fit64 i with
    | some i => .integer i
    | none => .real ((Binary64.ofInt i).elim (.infinite (i < 0)) .finite)
  | .real x => .real (.finite x)

mutual

/-- A JSON value as a value of a setting. -/
def valueOfJson : Json → Value
  | .null => .nothing
  | .bool b => .flag b
  | .number n => valueOfNumber n
  | .string s => .text s
  | .array vs => .list (valuesOfJson vs)
  | .object fs => .table (fieldsOfJson fs)

/-- JSON values as values of settings. -/
def valuesOfJson : List Json → List Value
  | [] => []
  | v :: vs => valueOfJson v :: valuesOfJson vs

/-- Named JSON values as values of settings. -/
def fieldsOfJson : List (String × Json) → List (String × Value)
  | [] => []
  | (k, v) :: fs => (k, valueOfJson v) :: fieldsOfJson fs

end

/-- The text of a file: without the mark of its encoding, and with a replacement for what is no
text. -/
def textOfFile : List UInt8 → String
  | 0xEF :: 0xBB :: 0xBF :: bytes => Text.Utf8.lossy bytes
  | bytes => Text.Utf8.lossy bytes

/-- The named values that a JSON text describes. -/
def readJson? (text : String) : Option (List (String × Value)) :=
  match Json.read text with
  | .ok (.object fields) => some (fieldsOfJson fields)
  | _ => none

/-- The named values that a text in a form describes. -/
def FileForm.read? : FileForm → String → Option (List (String × Value))
  | .toml => Toml.read?
  | .json => readJson?
  | .yaml => Yaml.read?
  | .ini => Ini.read?
  | .ron => Ron.read?
  | .json5 => Json5.read?

/-- The layer that a text describes. -/
def layerOfText (form : FileForm) (text : String) : Except SettingFault Layer :=
  match form.read? text with
  | some fields => .ok fields
  | none => .error (.load ("the file is no table in valid " ++ form.title))

/-- Loads settings from a text, if there is one, and from the environment. -/
def load (file : Option (FileForm × String)) (e : Environment) :
    Except SettingFault Settings := do
  let layer : Layer ←
    match file with
    | some (form, text) => layerOfText form text
    | none => .ok []
  ofLayers [layer, Layer.ofEnvironment e]

end Settings

end ExportStream
