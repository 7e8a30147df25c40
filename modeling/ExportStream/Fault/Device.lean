import ExportStream.Status
/-!
# Faults of devices

What reading from a supply or writing to a sink can fail with. Only some kinds of fault have a
status of their own.
-/

namespace ExportStream

/-- The kind of a fault of reading or writing. -/
inductive DeviceFaultKind where
  /-- Something is not there. -/
  | notFound
  /-- Access was refused. -/
  | permissionDenied
  /-- The other side refused the connection. -/
  | connectionRefused
  /-- The other side reset the connection. -/
  | connectionReset
  /-- The connection was given up. -/
  | connectionAborted
  /-- It took too long. -/
  | timedOut
  /-- The input ended too soon. -/
  | unexpectedEof
  /-- The call was interrupted and can be repeated. -/
  | interrupted
  /-- The call would have to wait. -/
  | wouldBlock
  /-- The other side is gone. -/
  | brokenPipe
  /-- The data is not what it should be. -/
  | invalidData
  /-- A write took nothing. -/
  | writeZero
  /-- A directory stands where a file is due. -/
  | isADirectory
  /-- A file stands where a directory is due. -/
  | notADirectory
  /-- Any other kind. -/
  | other
  deriving DecidableEq

namespace DeviceFaultKind

/-- The status of a kind. -/
def status : DeviceFaultKind → Status
  | .notFound => .notFound
  | .permissionDenied => .permissionDenied
  | .connectionRefused | .connectionReset | .connectionAborted => .connectionFailed
  | .timedOut => .timeout
  | .unexpectedEof => .unexpectedEof
  | _ => .io

/-- The kinds that have a name. -/
def named : List (String × DeviceFaultKind) :=
  [("NotFound", .notFound), ("PermissionDenied", .permissionDenied),
    ("ConnectionRefused", .connectionRefused), ("ConnectionReset", .connectionReset),
    ("ConnectionAborted", .connectionAborted), ("TimedOut", .timedOut),
    ("UnexpectedEof", .unexpectedEof), ("Interrupted", .interrupted),
    ("WouldBlock", .wouldBlock), ("BrokenPipe", .brokenPipe), ("InvalidData", .invalidData),
    ("WriteZero", .writeZero), ("Other", .other)]

/-- The kind with a name. -/
def ofName? (n : String) : Option DeviceFaultKind := named.lookup n

/-- The name of a kind. -/
def name (k : DeviceFaultKind) : String :=
  ((named.find? fun p => p.2 = k).map Prod.fst).getD "Other"

end DeviceFaultKind

/-- A fault of reading or writing. -/
structure DeviceFault where
  /-- The kind. -/
  kind : DeviceFaultKind
  /-- The wording. -/
  message : String
  deriving DecidableEq

namespace DeviceFault

/-- The fault of a path where nothing is. -/
def missing : DeviceFault := ⟨.notFound, "No such file or directory (os error 2)"⟩

/-- The fault of a directory that was to be read. -/
def isDirectory : DeviceFault := ⟨.isADirectory, "Is a directory (os error 21)"⟩

/-- The fault of a path that leads through a file. -/
def isNoDirectory : DeviceFault := ⟨.notADirectory, "Not a directory (os error 20)"⟩

/-- The fault of a directory that was to be made where something is. -/
def isThere : DeviceFault := ⟨.other, "File exists (os error 17)"⟩

/-- The fault of a path that is too long, or that has a name which is. -/
def nameTooLong : DeviceFault := ⟨.other, "File name too long (os error 36)"⟩

/-- The fault of a path with a null character, which no system takes. -/
def nullInPath : DeviceFault := ⟨.other, "file name contained an unexpected NUL byte"⟩

end DeviceFault

end ExportStream
