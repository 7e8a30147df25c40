import ExportStream.Record.Property
/-!
# Tombstones

A tombstone is the trace of something that was deleted.
-/

namespace ExportStream

/-- What was deleted. -/
inductive TombstoneType where
  /-- A document. -/
  | document
  /-- An attachment. -/
  | attachment
  /-- A former state of a document. -/
  | revision
  /-- A counter. -/
  | counter
  deriving DecidableEq

namespace TombstoneType

/-- The name of what was deleted. -/
def name : TombstoneType → String
  | .document => "Document"
  | .attachment => "Attachment"
  | .revision => "Revision"
  | .counter => "Counter"

/-- What has the given name. -/
def ofName? (n : String) : Option TombstoneType :=
  [document, attachment, revision, counter].find? fun t => t.name = n

end TombstoneType

/-- A trace of something that was deleted. -/
structure Tombstone where
  /-- The id. -/
  id : String
  /-- The collection. -/
  collection : String
  /-- What was deleted. -/
  type : TombstoneType
  /-- The version in a cluster, if it is stated. -/
  changeVector : Option String
  deriving DecidableEq

/-- Reads an element as a tombstone. -/
def Tombstone.parse (v : Json) : Except RecordFault Tombstone := do
  let fields ← v.element
  let id ← Fields.dueText fields "Key"
  let typeName ← Fields.dueText fields "Type"
  let collection ← Fields.dueText fields "Collection"
  match TombstoneType.ofName? typeName with
  | some type => return { id, collection, type, changeVector := Fields.text? fields "ChangeVector" }
  | none => .error (.unknownValue "Type" typeName)

end ExportStream
