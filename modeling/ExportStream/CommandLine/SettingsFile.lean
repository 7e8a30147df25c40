import ExportStream.CommandLine.Path
import ExportStream.CommandLine.Surroundings
import ExportStream.Settings.Basic
/-!
# The file of settings

A file of settings that is asked for has to be there, under its own name or with one more ending;
the ending says what it is written in. Otherwise the usual file is taken, if it is there.
-/

namespace ExportStream.Settings

/-- The places of the usual file, the first going before the second. -/
def usualPlaces : List (String × FileForm) := [("docport", .toml), ("docport.toml", .toml)]

/-- The places where a path leads to with one more ending. -/
def placesOf (path : String) : List (String × FileForm) :=
  FileForm.byExtension.filterMap fun e => (Path.withEnding? path e.1).map fun p => (p, e.2)

/-- What the file under a path is written in. -/
def formOf (path : String) : Except SettingFault FileForm :=
  match (Path.ending? path).bind fun e => FileForm.byExtension.lookup e with
  | some form => .ok form
  | none =>
    .error (.load ("configuration file \"" ++ path ++ "\" is not of a registered file format"))

/-- The file that is asked for. -/
def requestedFile {m : Type → Type} [Monad m] (s : Surroundings m) (path : String) :
    m (Except SettingFault (FileForm × List UInt8)) := do
  match ← s.look path with
  | .ok (.file bytes) => return (formOf path).map fun form => (form, bytes)
  | _ =>
    match ← s.firstFile (placesOf path) with
    | some file => return .ok file
    | none => return .error (.load ("configuration file \"" ++ path ++ "\" not found"))

/-- Loads the settings from the file that is asked for, or else from the usual one, and from the
environment. -/
def loadFrom {m : Type → Type} [Monad m] (s : Surroundings m) (requested : Option String) :
    m (Except SettingFault Settings) := do
  match requested with
  | some path =>
    return (← requestedFile s path).bind fun f => load (some (f.1, textOfFile f.2)) s.environment
  | none =>
    return load ((← s.firstFile usualPlaces).map fun f => (f.1, textOfFile f.2)) s.environment

end ExportStream.Settings
