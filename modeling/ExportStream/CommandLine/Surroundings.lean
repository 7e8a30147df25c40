import ExportStream.CommandLine.Path
import ExportStream.Fault.Device
import ExportStream.Settings.Environment
/-!
# Surroundings

What a program sees of the system that it runs on: variables, and files and directories under paths.
The monad in which it looks is left open, so that the same program runs on a real system and on one
that is only thought of.
-/

namespace ExportStream

/-- What stands under a path. -/
inductive Entry where
  /-- A file with its bytes. -/
  | file (bytes : List UInt8)
  /-- A directory. -/
  | directory
  deriving DecidableEq

/-- What a program sees of the system that it runs on. -/
structure Surroundings (m : Type → Type) where
  /-- The environment. -/
  environment : Environment
  /-- Looks what stands under a path. -/
  look : String → m (Except DeviceFault Entry)
  /-- Makes a directory in one that is there. -/
  makeDirectory : String → m (Except DeviceFault Unit)

namespace Surroundings

variable {m : Type → Type}

/-- The first of several paths that has a file, with what was noted beside the path. -/
def firstFile {α : Type} [Monad m] (s : Surroundings m) :
    List (String × α) → m (Option (α × List UInt8))
  | [] => pure none
  | (path, mark) :: rest => do
    match ← s.look path with
    | .ok (.file bytes) => pure (some (mark, bytes))
    | _ => s.firstFile rest

/-- What a fault of making a directory comes to: none, if the directory is there after all. -/
def unlessThere [Monad m] (s : Surroundings m) (path : String) (f : DeviceFault) :
    m (Except DeviceFault Unit) := do
  if f = .isThere then
    match ← s.look path with
    | .ok .directory => return .ok ()
    | _ => return .error f
  else return .error f

/-- Makes the first of several directories that lie in one another, and where it cannot be made
because they are missing, those behind it before. -/
def makeNested [Monad m] (s : Surroundings m) : List String → m (Except DeviceFault Unit)
  | [] => return .ok ()
  | path :: outer => do
    match ← s.makeDirectory path with
    | .ok () => return .ok ()
    | .error f =>
      if f = .missing then
        match ← s.makeNested outer with
        | .error f => return .error f
        | .ok () =>
          match ← s.makeDirectory path with
          | .ok () => return .ok ()
          | .error f => s.unlessThere path f
      else s.unlessThere path f

/-- Makes a directory, and those that it is in, where they are missing. -/
def makeDirectories [Monad m] (s : Surroundings m) (path : String) : m (Except DeviceFault Unit) :=
  if path.toList.contains '\x00' then return .error .nullInPath
  else s.makeNested (Path.nested path)

end Surroundings

end ExportStream
