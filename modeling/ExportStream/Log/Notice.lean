import ExportStream.Generation
import ExportStream.Kind
import ExportStream.Json.Basic
/-!
# Notices

What the program tells about its work while it works. A notice has a level, the part of the program
that it comes from, and named values; a journal keeps notices, the latest at the front, and what of
them is written is decided elsewhere.
-/

namespace ExportStream

/-- How much a notice matters. -/
inductive Level where
  /-- The work of an import has failed. -/
  | error
  /-- Something was lost. -/
  | warn
  /-- A stage of the work is reached. -/
  | info
  /-- A step of the work is done. -/
  | debug
  /-- The finest steps. -/
  | trace
  deriving DecidableEq

namespace Level

/-- The place of a level, the most important first. -/
def rank : Level → Nat
  | .error => 1
  | .warn => 2
  | .info => 3
  | .debug => 4
  | .trace => 5

/-- The name of a level in a log. -/
def name : Level → String
  | .error => "ERROR"
  | .warn => "WARN"
  | .info => "INFO"
  | .debug => "DEBUG"
  | .trace => "TRACE"

end Level

/-- A notice. -/
inductive Notice where
  /-- The working buffer was filled again. -/
  | refilled (bytes position : Nat)
  /-- An export was opened. -/
  | opened (build : Int) (generation : Generation) (bufferSize : Nat)
  /-- The export has no more kinds. -/
  | exhausted (bytesRead read errored warnings : Nat)
  /-- The records of a kind begin. -/
  | dispatched (kind : Kind) (position : Nat)
  /-- The records of a kind were skipped. -/
  | skipped (kind : Kind) (count : Nat)
  /-- Records that nobody read were passed over. -/
  | drained (kind : Kind) (count : Nat)
  /-- A section of older exports was passed over. -/
  | retired (label : String)
  /-- An element was rejected. -/
  | rejected (kind : Kind) (position : Nat) (error : String)
  /-- Something about the records of a kind deserves a warning. -/
  | warned (kind : Kind) (message : String)
  /-- An import came to its end. -/
  | completed (bytesRead read errored attachments : Nat)
  /-- Logging has begun. -/
  | ready (level format directory : String) (file : Bool)
  /-- The import of a file begins. -/
  | starting (file : String)
  /-- An import was given up. -/
  | aborted (status message : String)
  /-- The log file is about to be closed. -/
  | flushing (timeoutMs : Nat)
  deriving DecidableEq

/-- Notices, the latest at the front. -/
abbrev Journal := List Notice

namespace Notice

/-- The level of a notice. -/
def level : Notice → Level
  | .refilled .. => .trace
  | .opened .. | .exhausted .. | .completed .. | .starting _ => .info
  | .dispatched .. | .skipped .. | .drained .. | .retired _ | .ready .. | .flushing _ => .debug
  | .rejected .. | .warned .. => .warn
  | .aborted .. => .error

/-- The part of the program that a notice comes from. -/
def target : Notice → String
  | .refilled .. => "docport::import::source"
  | .ready .. => "docport::logging"
  | .flushing _ => "docport::logging::handle"
  | .starting _ | .aborted .. => "docport"
  | _ => "docport::import::session"

/-- The version that the program states. -/
def version : String := "0.3.0"

/-- The named values of a notice, its wording among them. -/
def fields : Notice → List (String × Json)
  | .refilled bytes position =>
    [("message", .string "Read buffer refilled"), ("bytes", .nat bytes),
      ("position", .nat position)]
  | .opened build generation bufferSize =>
    [("message", .string "Import session opened"), ("build_version", .int build),
      ("build_type", .string generation.name), ("buffer_size", .nat bufferSize)]
  | .exhausted bytesRead read errored warnings =>
    [("message", .string "Import stream exhausted"), ("bytes_read", .nat bytesRead),
      ("read", .nat read), ("errored", .nat errored), ("warnings", .nat warnings)]
  | .dispatched kind position =>
    [("message", .string "Record kind dispatched"), ("kind", .string kind.name),
      ("position", .nat position)]
  | .skipped kind count =>
    [("message", .string "Record kind skipped"), ("kind", .string kind.name),
      ("skipped", .nat count)]
  | .drained kind count =>
    [("message", .string "Unconsumed elements drained"), ("kind", .string kind.name),
      ("drained", .nat count)]
  | .retired label =>
    [("message", .string "Retired section skipped"), ("label", .string label)]
  | .rejected kind position error =>
    [("message", .string "Record rejected"), ("kind", .string kind.name),
      ("position", .nat position), ("error", .string error)]
  | .warned kind message => [("message", .string message), ("kind", .string kind.name)]
  | .completed bytesRead read errored attachments =>
    [("message", .string "Import completed"), ("bytes_read", .nat bytesRead), ("read", .nat read),
      ("errored", .nat errored), ("attachments", .nat attachments)]
  | .ready level format directory file =>
    [("message", .string "Logging system initialized"), ("version", .string version),
      ("log_level", .string level), ("format", .string format), ("log_dir", .string directory),
      ("file_enabled", .bool file)]
  | .starting file => [("message", .string "Starting import"), ("file", .string file)]
  | .aborted status message =>
    [("message", .string ("Import aborted: " ++ message)), ("status", .string status)]
  | .flushing timeoutMs =>
    [("message", .string "Flushing file log"), ("timeout_ms", .nat timeoutMs)]

/-- The names that a filter can ask for: those of the values, and the host, which the notice on
logging knows but which is nobody's business. -/
def names (n : Notice) : List String :=
  n.fields.map Prod.fst ++
    match n with
    | .ready .. => ["host"]
    | _ => []

/-- A notice as a line of a log: an object with the named values, the level and the part. -/
def toJson (n : Notice) : Json :=
  .object (Fields.ofList
    [("fields", .object (Fields.ofList n.fields)), ("level", .string n.level.name),
      ("target", .string n.target)])

end Notice

end ExportStream
