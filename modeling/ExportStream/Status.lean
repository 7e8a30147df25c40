/-!
# Status codes

The numbers that sort failures for whoever runs an import. The thousands tell the sort: 1 arguments
and settings, 2 a single record, 3 access, 5 integrity, 6 input and output, 8 the form of the
stream.
-/

namespace ExportStream

/-- The sort of an outcome. -/
inductive Status where
  /-- Nothing went wrong. -/
  | success
  /-- A fault of the program itself. -/
  | internal
  /-- An operation was called with the wrong arguments. -/
  | invalidArgs
  /-- A setting has a value that it cannot have. -/
  | invalidConfig
  /-- A file or a directory is missing. -/
  | notFound
  /-- A field has a value that it cannot have. -/
  | invalidValue
  /-- An element has the wrong shape. -/
  | invalidData
  /-- A field is missing. -/
  | missingField
  /-- A field has a name that is not one of its names. -/
  | invalidEnum
  /-- Access was refused. -/
  | permissionDenied
  /-- A definition could not be read. -/
  | deserializationFailed
  /-- Reading or writing failed. -/
  | io
  /-- Reading or writing took too long. -/
  | timeout
  /-- A connection failed. -/
  | connectionFailed
  /-- The stream ended too soon. -/
  | unexpectedEof
  /-- The stream is not well formed. -/
  | invalidFormat
  /-- The stream holds records of a kind that nobody knows. -/
  | unknownRecordKind
  /-- A text is not UTF-8. -/
  | invalidUtf8
  /-- A limit is exceeded. -/
  | depthLimit
  deriving DecidableEq

namespace Status

/-- Every status, by number. -/
def all : List Status :=
  [.success, .internal, .invalidArgs, .invalidConfig, .notFound, .invalidValue, .invalidData,
    .missingField, .invalidEnum, .permissionDenied, .deserializationFailed, .io, .timeout,
    .connectionFailed, .unexpectedEof, .invalidFormat, .unknownRecordKind, .invalidUtf8,
    .depthLimit]

/-- The number of a status. -/
def code : Status → Nat
  | .success => 0
  | .internal => 1003
  | .invalidArgs => 1004
  | .invalidConfig => 1006
  | .notFound => 2000
  | .invalidValue => 2004
  | .invalidData => 2009
  | .missingField => 2010
  | .invalidEnum => 2011
  | .permissionDenied => 3001
  | .deserializationFailed => 5004
  | .io => 6000
  | .timeout => 6002
  | .connectionFailed => 6004
  | .unexpectedEof => 6007
  | .invalidFormat => 8000
  | .unknownRecordKind => 8001
  | .invalidUtf8 => 8004
  | .depthLimit => 8008

/-- The name of a status. -/
def name : Status → String
  | .success => "Success"
  | .internal => "Internal"
  | .invalidArgs => "InvalidArgs"
  | .invalidConfig => "InvalidConfig"
  | .notFound => "NotFound"
  | .invalidValue => "InvalidValue"
  | .invalidData => "InvalidData"
  | .missingField => "MissingField"
  | .invalidEnum => "InvalidEnum"
  | .permissionDenied => "PermissionDenied"
  | .deserializationFailed => "DeserializationFailed"
  | .io => "Io"
  | .timeout => "Timeout"
  | .connectionFailed => "ConnectionFailed"
  | .unexpectedEof => "UnexpectedEof"
  | .invalidFormat => "InvalidFormat"
  | .unknownRecordKind => "UnknownRecordKind"
  | .invalidUtf8 => "InvalidUtf8"
  | .depthLimit => "DepthLimit"

/-- The status with a number. -/
def ofCode? (n : Nat) : Option Status := all.find? fun s => s.code = n

/-- A status as messages write it. -/
def describe (s : Status) : String := s!"{s.name} ({s.code})"

/-- Does the status concern a single record, so that the import goes on? -/
def isRecordError (s : Status) : Bool := 2000 ≤ s.code && s.code ≤ 2999

/-- Does the status concern the form of the stream, so that nothing behind it can be read? -/
def isFormatError (s : Status) : Bool := 8000 ≤ s.code && s.code ≤ 8999

/-- No two statuses share a number. -/
theorem ofCode?_code (s : Status) : ofCode? s.code = some s := by cases s <;> decide

end Status

end ExportStream
