import ExportStream.Status
/-!
# Faults of a record

The failures of a single element. They never end an import: the element is counted as rejected, a
warning is kept, and reading goes on with the next element.
-/

namespace ExportStream

/-- Why an element is rejected. -/
inductive RecordFault where
  /-- A field is missing. -/
  | missing (field : String)
  /-- A field has a value that it cannot have. -/
  | invalid (field reason : String)
  /-- A field has a name that is not one of its names. -/
  | unknownValue (field value : String)
  /-- The element is no object. -/
  | notAnObject (found : String)
  /-- The element is no definition of an index. -/
  | definition (reason : String)
  /-- The element is a marker of an attachment that cannot be kept. -/
  | marker (reason : String)
  deriving DecidableEq

namespace RecordFault

/-- The wording of a fault. -/
def message : RecordFault → String
  | .missing field => "missing required field '" ++ field ++ "'"
  | .invalid field reason => "field '" ++ field ++ "' is invalid: " ++ reason
  | .unknownValue field value => "field '" ++ field ++ "' has unknown value '" ++ value ++ "'"
  | .notAnObject found => "expected an object, got " ++ found
  | .definition reason => "could not read index definition: " ++ reason
  | .marker reason => "attachment stream marker is not valid: " ++ reason

/-- The status of a fault. -/
def status : RecordFault → Status
  | .missing _ => .missingField
  | .invalid .. => .invalidValue
  | .unknownValue .. => .invalidEnum
  | .notAnObject _ | .marker _ => .invalidData
  | .definition _ => .deserializationFailed

end RecordFault

end ExportStream
