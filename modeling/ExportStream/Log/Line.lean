import ExportStream.Json.Printer
import ExportStream.Log.Config
import ExportStream.Log.Filter
import ExportStream.Text.Quoted
/-!
# Lines of a log

A notice is written as one JSON object, or as a text with its level, where it comes from, its
wording and its values. A log file holds the notices that the filter lets through.
-/

namespace ExportStream

namespace Notice

/-- A value in a text: a text stands as it is, unless it is a label. -/
def shown (name : String) : Json → String
  | .string s => if name = "label" then Text.quoted s else s
  | v => v.compact

/-- A notice as a text. -/
def text (n : Notice) : String :=
  let value (f : String × Json) : String :=
    if f.1 = "message" then shown f.1 f.2 else f.1 ++ "=" ++ shown f.1 f.2
  n.level.name ++ " " ++ n.target ++ ": " ++ String.intercalate " " (n.fields.map value)

/-- A notice in a format. -/
def inFormat (n : Notice) : LogFormat → String
  | .json => n.toJson.compact
  | .pretty | .compact => n.text

end Notice

/-- A log file, to which notices were added. -/
structure LogFile where
  /-- The directory. -/
  directory : String
  /-- The name of the file, without the day. -/
  filename : String
  /-- The format. -/
  format : LogFormat
  /-- What was added, one entry to a notice. -/
  entries : List String
  deriving DecidableEq

namespace LogFile

/-- The log file that settings ask for, if they do, with those notices that pass the filter. -/
def of? (c : LogConfig) (f : Filter) (notices : List Notice) : Option LogFile :=
  if c.file.enabled then
    some
      { directory := c.directory
        filename := c.file.filename
        format := c.format
        entries := (notices.filter f.admits).map fun n => n.inFormat c.format }
  else none

/-- The text that was added. -/
def text (l : LogFile) : String := String.join (l.entries.map (· ++ "\n"))

end LogFile

end ExportStream
