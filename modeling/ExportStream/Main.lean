import ExportStream.CommandLine.Run
import Std.Time.Format
/-!
# The program

Runs the program on the system: shows it the variables, files and directories that there are, and
writes what the run comes to.
-/

namespace ExportStream.Main

/-- Is the number of a fault, of either sign, the given one? -/
def isCode (number code : UInt32) : Bool := code = number || code = 0 - number

/-- A fault of the system, in words. -/
def faultOf : IO.Error → DeviceFault
  | .noFileOrDirectory .. => .missing
  | .inappropriateType _ code _ => if isCode 21 code then .isDirectory else .isNoDirectory
  | .invalidArgument _ code details =>
    if isCode 36 code then .nameTooLong else ⟨.other, details⟩
  | .alreadyExists .. => .isThere
  | .permissionDenied .. => ⟨.permissionDenied, "Permission denied (os error 13)"⟩
  | e => ⟨.other, toString e⟩

/-- Looks what stands under a path. -/
def look (path : String) : IO (Except DeviceFault Entry) := do
  try
    return .ok (.file (← IO.FS.readBinFile path).toList)
  catch e =>
    let f := faultOf e
    return if f = .isDirectory then .ok .directory else .error f

/-- Makes a directory. -/
def makeDirectory (path : String) : IO (Except DeviceFault Unit) := do
  try
    IO.FS.createDir path
    return .ok ()
  catch e => return .error (faultOf e)

/-- A variable as the system shows it: the name, an equals sign and the value. -/
def variableOf (bytes : List UInt8) : Option (String × String) := do
  let text ← Text.Utf8.text? bytes
  let name := text.toList.takeWhile (· ≠ '=')
  if name.isEmpty then none
  else return (String.ofList name, String.ofList (text.toList.drop (name.length + 1)))

/-- The environment, which the system shows with a zero behind each variable. -/
def environment : IO Environment := do
  match ← look "/proc/self/environ" with
  | .ok (.file bytes) => return (bytes.splitOn 0).filterMap variableOf
  | _ => return []

/-- The day in universal time. -/
def today : IO String := do
  let now ← Std.Time.Timestamp.now
  return (Std.Time.PlainDate.ofEpochDay now.toDaysSinceUnixEpoch).toSQLDateString

/-- Adds to a log file. -/
def append (l : LogFile) : IO Unit := do
  let directory := if l.directory.isEmpty then "." else l.directory
  let name := l.filename ++ "." ++ (← today)
  let file ← IO.FS.Handle.mk (directory ++ "/" ++ name) .append
  file.putStr l.text

end ExportStream.Main

/-- Runs the program. -/
def main (line : List String) : IO UInt32 := do
  let surroundings : ExportStream.Surroundings IO :=
    { environment := ← ExportStream.Main.environment
      look := ExportStream.Main.look
      makeDirectory := ExportStream.Main.makeDirectory }
  let outcome ← ExportStream.CommandLine.run surroundings line
  IO.print outcome.output
  IO.eprint outcome.errors
  match outcome.log with
  | some l => ExportStream.Main.append l
  | none => pure ()
  return UInt32.ofNat outcome.exit
