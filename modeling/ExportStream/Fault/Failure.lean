import ExportStream.Fault.Device
import ExportStream.Fault.Record
import ExportStream.Fault.Setting
import ExportStream.Fault.Stream
import ExportStream.Json.Printer
/-!
# Failures

What an operation fails with: a cause, and the contexts that the failure passed on its way up, in
the order in which it passed them. The message writes the contexts in that order before the cause.
-/

namespace ExportStream

/-- The root of a failure. -/
inductive Cause where
  /-- The stream cannot be read on. -/
  | stream (f : StreamFault)
  /-- A record is rejected. -/
  | record (f : RecordFault)
  /-- Settings are refused. -/
  | setting (f : SettingFault)
  /-- Anything else, with its status. -/
  | other (status : Status) (message : String)
  deriving DecidableEq

namespace Cause

/-- The status of a cause. -/
def status : Cause → Status
  | .stream f => f.status
  | .record f => f.status
  | .setting _ => .invalidConfig
  | .other s _ => s

/-- The wording of a cause. -/
def message : Cause → String
  | .stream f => f.message
  | .record f => f.message
  | .setting f => f.message
  | .other _ m => m

/-- The wording for the report: faults of the program itself keep their wording to themselves. -/
def clientMessage (c : Cause) : String :=
  match c with
  | .stream f => f.message
  | c => if c.status = .internal then "Internal error" else c.message

/-- What the operator can do, if the stream is to blame. -/
def hint? : Cause → Option String
  | .stream f => some f.hint
  | _ => none

/-- The name of the family that a cause belongs to. -/
def family : Cause → String
  | .stream _ => "ImportError"
  | .record _ => "RecordError"
  | .setting _ => "ConfigurationError"
  | .other .. => "GenericError"

end Cause

/-- A failure of an operation. -/
structure Failure where
  /-- The root. -/
  cause : Cause
  /-- The contexts, the one that was passed first at the front. -/
  contexts : List String := []
  deriving DecidableEq

namespace Failure

/-- The failure of a stream. -/
def ofStream (f : StreamFault) : Failure := ⟨.stream f, []⟩

/-- The failure of a setting. -/
def ofSetting (f : SettingFault) : Failure := ⟨.setting f, []⟩

/-- The failure of a device. -/
def ofDevice (f : DeviceFault) : Failure := ⟨.other f.kind.status f.message, []⟩

/-- The failure of bytes that are no text. -/
def ofBytes (f : Text.Utf8.Fault) : Failure :=
  ⟨.other .invalidUtf8 ("UTF-8 conversion failed: " ++ f.message), []⟩

/-- A failure with a status and a wording. -/
def general (status : Status) (message : String) : Failure := ⟨.other status message, []⟩

/-- The failure, having passed one more context. -/
def within (f : Failure) (context : String) : Failure :=
  { f with contexts := f.contexts ++ [context] }

/-- The status of a failure. -/
def status (f : Failure) : Status := f.cause.status

/-- The wording of a failure. -/
def message (f : Failure) : String :=
  f.contexts.foldr (fun c m => c ++ ": " ++ m) f.cause.message

/-- What the operator can do, if the stream is to blame. -/
def hint? (f : Failure) : Option String := f.cause.hint?

/-- The report on a failure: number, wording, hint if there is one, contexts if there are some. -/
def report (f : Failure) : List (String × Json) :=
  [("code", Json.nat f.status.code), ("message", .string f.cause.clientMessage)] ++
    (match f.hint? with
      | some h => [("hint", .string h)]
      | none => []) ++
    (if f.contexts.isEmpty then [] else [("contexts", .array (f.contexts.map .string))])

end Failure

end ExportStream
