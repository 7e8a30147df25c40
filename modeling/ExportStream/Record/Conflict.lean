import ExportStream.Record.Flags
import ExportStream.Record.Property
import ExportStream.Time.Instant
/-!
# Conflicts

A conflict is one of several states that a document has at once. Its body is missing where the state
is that of being deleted, but the field itself is due.
-/

namespace ExportStream

/-- One of several states of a document. -/
structure Conflict where
  /-- The id of the document. -/
  id : String
  /-- The collection. -/
  collection : String
  /-- The flags. -/
  flags : DocumentFlags
  /-- The version in a cluster. -/
  changeVector : String
  /-- The version on one server. -/
  etag : Int
  /-- The time of the change. -/
  lastModified : Time.Instant
  /-- The body, unless the state is that of being deleted. -/
  doc : Option Json
  deriving DecidableEq

namespace Conflict

/-- The flags of a conflict, which are due, though they may be null. -/
def flagsOf (fields : Fields) : Except RecordFault DocumentFlags :=
  match Fields.find? "Flags" fields with
  | none => .error (.missing "Flags")
  | some v =>
    match DocumentFlags.ofJson v with
    | .ok flags => .ok flags
    | .error value => .error (.unknownValue "Flags" value)

/-- The time of the change, which is due. -/
def lastModifiedOf (fields : Fields) : Except RecordFault Time.Instant := do
  let text ← Fields.dueText fields "LastModified"
  match Time.Instant.read? text with
  | some t => return t
  | none => .error (.invalid "LastModified" ("'" ++ text ++ "' is not a timestamp"))

/-- The body, which is due, though it may be null. -/
def docOf (fields : Fields) : Except RecordFault (Option Json) :=
  match Fields.find? "Doc" fields with
  | none => .error (.missing "Doc")
  | some .null => .ok none
  | some (.object doc) => .ok (some (.object doc))
  | some other => .error (.invalid "Doc" ("expected object or null, got " ++ other.typeName))

/-- Reads an element as a conflict. -/
def parse (v : Json) : Except RecordFault Conflict := do
  let fields ← v.element
  let id ← Fields.dueText fields "Id"
  let collection ← Fields.dueText fields "Collection"
  let flags ← flagsOf fields
  let changeVector ← Fields.dueText fields "ChangeVector"
  let etag ← Fields.dueInt64 fields "Etag"
  let lastModified ← lastModifiedOf fields
  let doc ← docOf fields
  return { id, collection, flags, changeVector, etag, lastModified, doc }

end Conflict

end ExportStream
