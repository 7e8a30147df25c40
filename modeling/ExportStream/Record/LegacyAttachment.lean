import ExportStream.Digest.ContentHash
import ExportStream.Record.Document
/-!
# Attachments and deletions of old exports

In old exports an attachment is a record of its own, with its payload in base64. It is turned into a
document that stands in for it, in a collection of files, and a payload that is attached to that
document. Files that were deleted, or were not received in full, are passed over.

A deletion names the key of what was deleted; a deleted attachment is known by the id of the
document that stands in for it.
-/

namespace ExportStream

/-- What is known of an attachment of an old export. -/
structure LegacyDetails where
  /-- The id of the document that stands in for it. -/
  id : String
  /-- The hash of the payload. -/
  hash : String
  /-- The key of the file. -/
  key : String
  /-- The size of the payload. -/
  size : Nat
  /-- The tag of the payload. -/
  tag : String
  /-- What was kept about the file. -/
  metadata : Json
  deriving DecidableEq

/-- An attachment of an old export. -/
structure LegacyAttachment where
  /-- What is known of it. -/
  details : LegacyDetails
  /-- The document that stands in for it. -/
  document : Document
  /-- The sink that took the payload. -/
  sink : Sink

namespace LegacyAttachment

/-- The collection of the documents that stand in for files. -/
def filesCollection : String := "@files"

/-- What the ids of those documents begin with. -/
def filesPrefix : String := "files/"

/-- The id of the document that stands in for a file. -/
def idOf (key : String) : String := filesPrefix ++ key

/-- What an element tells about an attachment. -/
structure Parsed where
  /-- The key of the file. -/
  key : String
  /-- What was kept about the file. -/
  metadata : Fields
  /-- The payload. -/
  payload : List UInt8
  /-- The version on one server, if it is stated. -/
  etag : Option String
  deriving DecidableEq

/-- The payload, which is due. -/
def payloadOf (fields : Fields) : Except RecordFault (List UInt8) := do
  let data ← Fields.dueText fields "Data"
  match Digest.Base64.decode (Text.Utf8.bytesOf data) with
  | .ok payload => return payload
  | .error f => .error (.invalid "Data" ("not valid base64: " ++ f.message))

/-- Reads an element as an attachment of an old export. -/
def parse (v : Json) : Except RecordFault Parsed := do
  let fields ← v.element
  let key ← Fields.dueText fields "Key"
  let metadata ← Fields.dueObject fields "Metadata"
  let payload ← payloadOf fields
  return { key, metadata, payload, etag := Fields.text? fields "Etag" }

namespace Parsed

/-- Was the file deleted? -/
def isDeleted (p : Parsed) : Bool :=
  match Fields.find? "Raven-Delete-Marker" p.metadata with
  | some (.bool b) => b
  | some (.string s) => Text.sameIgnoringCase s "true"
  | _ => false

/-- The ends of the keys of files that are on their way. -/
def transientEnds : List String := [".deleting", ".downloading"]

/-- Was the file deleted, or is it on its way? -/
def isTransient (p : Parsed) : Bool :=
  p.isDeleted || transientEnds.any fun e => e.toList.isSuffixOf p.key.toList

/-- What is known of the attachment. -/
def details (p : Parsed) : LegacyDetails :=
  let hash := Digest.contentHash p.payload
  { id := idOf p.key
    hash
    key := p.key
    size := p.payload.length
    tag := String.intercalate "\u001e" [idOf p.key, "d", p.key, hash, ""]
    metadata := .object p.metadata }

end Parsed

/-- The body of the document that stands in for a file. -/
def standInBody (d : LegacyDetails) : Json :=
  let entry := Fields.ofList
    [("Name", .string d.key), ("Hash", .string d.hash), ("ContentType", .string ""),
      ("Size", .nat d.size)]
  let meta_ := Fields.ofList
    [(Property.collection, .string filesCollection), ("@attachments", .array [.object entry]),
      ("@legacy-attachment-metadata", d.metadata)]
  .object [(Property.metadata, .object meta_)]

/-- The document that stands in for a file. -/
def standIn (d : LegacyDetails) : Document :=
  { id := d.id
    data := standInBody d
    collection := some filesCollection
    changeVector := ""
    flags := .hasAttachments
    origin := {}
    lastModified := none }

end LegacyAttachment

/-- The key that a deletion of an old export names. -/
def deletedKey? (v : Json) : Option String := v.fieldText? "Key"

end ExportStream
