import ExportStream.Fault.Setting
import ExportStream.Settings.Dialect
import ExportStream.Settings.Environment
import ExportStream.Text.Ascii
import ExportStream.Text.Blank
/-!
# Settings of logging

How much is logged, in which format, and where to: to the console and to a file.
-/

namespace ExportStream

/-- The format of a log. -/
inductive LogFormat where
  /-- Several lines to an event. -/
  | pretty
  /-- One line to an event. -/
  | compact
  /-- One JSON object to an event. -/
  | json
  deriving DecidableEq

namespace LogFormat

/-- The name of a format. -/
def name : LogFormat → String
  | .pretty => "pretty"
  | .compact => "compact"
  | .json => "json"

/-- The format with a name. -/
def ofName? (n : String) : Option LogFormat := [pretty, compact, json].find? fun f => f.name = n

/-- The format that a text names, in letters of either case. -/
def read (text : String) : Except SettingFault LogFormat :=
  match ofName? (Text.lower text) with
  | some f => .ok f
  | none => .error (.invalid "logging.format" ("unknown log format '" ++ Text.lower text ++ "'"))

end LogFormat

/-- Logging to the console. -/
structure ConsoleConfig where
  /-- Is there any? -/
  enabled : Bool := true
  /-- The format, if it is another than that of the file. -/
  format : Option LogFormat := none
  /-- Are there colours? -/
  withAnsi : Bool := true
  /-- Is the part of the program shown that an event comes from? -/
  withTarget : Bool := true
  /-- Are threads shown? -/
  withThreadIds : Bool := false
  /-- Are lines of the program shown? -/
  withLineNumbers : Bool := false
  deriving DecidableEq

namespace ConsoleConfig

/-- The names of the settings, in the order of their declaration. -/
def names : List String :=
  ["enabled", "format", "with_ansi", "with_target", "with_thread_ids", "with_line_numbers"]

/-- The settings that a value states; those that are left out have their defaults. -/
def read? {α : Type} (d : Dialect α) (v : α) : Option ConsoleConfig := do
  let part ← d.parts? names v
  let c : ConsoleConfig := {}
  return {
    enabled := ← Dialect.partOr d.bool? c.enabled (part "enabled")
    format := ←
      Dialect.partOr (d.optionally (d.choice LogFormat.ofName?)) c.format (part "format")
    withAnsi := ← Dialect.partOr d.bool? c.withAnsi (part "with_ansi")
    withTarget := ← Dialect.partOr d.bool? c.withTarget (part "with_target")
    withThreadIds := ← Dialect.partOr d.bool? c.withThreadIds (part "with_thread_ids")
    withLineNumbers := ← Dialect.partOr d.bool? c.withLineNumbers (part "with_line_numbers") }

/-- The settings as a JSON object. -/
def toJson (c : ConsoleConfig) : Json :=
  .object
    [("enabled", .bool c.enabled), ("format", c.format.elim .null fun f => .string f.name),
      ("with_ansi", .bool c.withAnsi), ("with_target", .bool c.withTarget),
      ("with_thread_ids", .bool c.withThreadIds), ("with_line_numbers", .bool c.withLineNumbers)]

end ConsoleConfig

/-- Logging to a file, a new one every day. -/
structure FileConfig where
  /-- Is there any? -/
  enabled : Bool := false
  /-- The name of the file, to which the day is added. -/
  filename : String := "docport.log"
  deriving DecidableEq

namespace FileConfig

/-- The names of the settings, in the order of their declaration. -/
def names : List String := ["enabled", "filename"]

/-- The settings that a value states; those that are left out have their defaults. -/
def read? {α : Type} (d : Dialect α) (v : α) : Option FileConfig := do
  let part ← d.parts? names v
  let c : FileConfig := {}
  return {
    enabled := ← Dialect.partOr d.bool? c.enabled (part "enabled")
    filename := ← Dialect.partOr d.text? c.filename (part "filename") }

/-- The settings as a JSON object. -/
def toJson (c : FileConfig) : Json :=
  .object [("enabled", .bool c.enabled), ("filename", .string c.filename)]

end FileConfig

/-- Settings of logging. -/
structure LogConfig where
  /-- How much of the program's own events is logged. -/
  level : String := "info"
  /-- The format. -/
  format : LogFormat := .compact
  /-- The directory of the log files. -/
  directory : String := "logs"
  /-- Logging to the console. -/
  console : ConsoleConfig := {}
  /-- Logging to a file. -/
  file : FileConfig := {}
  deriving DecidableEq

namespace LogConfig

/-- The names of the levels, the finest first. -/
def levels : List String := ["trace", "debug", "info", "warn", "error"]

/-- The names of the settings, in the order of their declaration. -/
def names : List String := ["level", "format", "log_dir", "console", "file"]

/-- The settings that a value states; those that are left out have their defaults. -/
def read? {α : Type} (d : Dialect α) (v : α) : Option LogConfig := do
  let part ← d.parts? names v
  let c : LogConfig := {}
  return {
    level := ← Dialect.partOr d.text? c.level (part "level")
    format := ← Dialect.partOr (d.choice LogFormat.ofName?) c.format (part "format")
    directory := ← Dialect.partOr d.text? c.directory (part "log_dir")
    console := ← Dialect.partOr (ConsoleConfig.read? d) c.console (part "console")
    file := ← Dialect.partOr (FileConfig.read? d) c.file (part "file") }

/-- The settings as a JSON object. -/
def toJson (c : LogConfig) : Json :=
  .object
    [("level", .string c.level), ("format", .string c.format.name),
      ("log_dir", .string c.directory), ("console", c.console.toJson), ("file", c.file.toJson)]

/-- The settings under those of the environment; a format that there is none of is passed over. -/
def under (c : LogConfig) (e : Environment) : LogConfig :=
  let c :=
    match e.value? "DOCPORT_LOG_LEVEL" with
    | some level => { c with level := Text.lower level }
    | none => c
  match (e.value? "DOCPORT_LOG_FORMAT").map LogFormat.read with
  | some (.ok format) => { c with format }
  | _ => c

/-- Refuses settings that nothing can be logged with. -/
def validate (c : LogConfig) : Except SettingFault Unit := do
  if c.level ∉ levels then
    throw (.invalid "logging.level"
      ("'" ++ c.level ++ "' is not one of " ++ String.intercalate ", " levels))
  if c.file.enabled && Text.isBlankText c.file.filename then
    throw (.invalid "logging.file.filename" "must not be empty when file logging is enabled")

/-- The filter that the settings ask for: of the program's own events those of the level, of all
others the warnings. -/
def directive (c : LogConfig) : String :=
  "warn,docport=" ++ c.level ++ ",docport_error=" ++ c.level

/-- The format of the console. -/
def consoleFormat (c : LogConfig) : LogFormat := c.console.format.getD c.format

end LogConfig

end ExportStream
