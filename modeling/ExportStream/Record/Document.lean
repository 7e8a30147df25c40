import ExportStream.Payload.Sink
import ExportStream.Record.Flags
import ExportStream.Record.Property
import ExportStream.Time.Instant
/-!
# Documents

A document is an object whose `@metadata` names its id. The properties that change with every
write are read off and are not part of the stored body; everything else is stored as it is, except
that the documents which count ids, in exports of the old format, are put into a collection of their
own.
-/

namespace ExportStream

/-- The payload of an attachment that came with a document. -/
structure Attachment where
  /-- The hash that the marker declares. -/
  hash : String
  /-- The hash of the bytes that came. -/
  computed : String
  /-- The tag of the attachment. -/
  tag : String
  /-- The size of the payload. -/
  size : Nat
  /-- The marker. -/
  marker : Json
  /-- The sink that took the payload. -/
  sink : Sink

/-- Did the bytes come that the marker declares? -/
def Attachment.isVerified (a : Attachment) : Bool := a.hash = a.computed

/-- A document or a former state of one. -/
structure Document where
  /-- The id. -/
  id : String
  /-- The stored body. -/
  data : Json
  /-- The collection, if the document is in one. -/
  collection : Option String
  /-- The version in a cluster; empty where there is none. -/
  changeVector : String
  /-- The flags that are kept. -/
  flags : DocumentFlags
  /-- Where the document comes from. -/
  origin : Origin
  /-- The time of the last change, if it is stated. -/
  lastModified : Option Time.Instant
  /-- The attachments that came before the document. -/
  attachments : List Attachment := []

namespace Document

/-- What an element tells about a document. -/
structure Parsed where
  /-- The document, without attachments. -/
  document : Document
  /-- The version on one server, where it is asked for. -/
  etag : Option String

/-- The flags that the metadata states. -/
def flagsOf (meta_ : Fields) : Except RecordFault DocumentFlags :=
  match Fields.find? Property.flags meta_ with
  | none => .ok .empty
  | some v =>
    match DocumentFlags.ofJson v with
    | .ok flags => .ok flags
    | .error value => .error (.unknownValue Property.flags value)

/-- The version on one server that the metadata states, as text. -/
def etagOf (meta_ : Fields) : Option String :=
  match Fields.find? Property.etag meta_ with
  | none | some .null => none
  | some (.string s) => some s
  | some v => some v.compact

/-- The metadata with the collection of the documents that count ids, where that is due. -/
def withCollection (legacy : Bool) (id : String) (meta_ : Fields) : Fields :=
  if legacy && isHiloId id then
    Fields.insert Property.collection (.string Property.hiloCollection) meta_
  else meta_

/-- The metadata without the properties that are not kept. -/
def withoutVolatile (meta_ : Fields) : Fields :=
  Property.volatile.foldl (fun m name => Fields.erase name m) meta_

/-- Reads an element as a document. -/
def parse (legacy readEtag : Bool) (v : Json) : Except RecordFault Parsed := do
  let fields ← v.element
  let meta_ ← Fields.dueObject fields Property.metadata
  let id ← Fields.dueText meta_ Property.id
  let flags ← flagsOf meta_
  let stored := withCollection legacy id meta_
  return {
    document := {
      id
      data := .object (Fields.insert Property.metadata (.object (withoutVolatile stored)) fields)
      collection := Fields.text? stored Property.collection
      changeVector := (Fields.text? meta_ Property.changeVector).getD ""
      flags
      origin := { legacy }
      lastModified := (Fields.text? meta_ Property.lastModified).bind Time.Instant.read? }
    etag := if readEtag then etagOf meta_ else none }

end Document

end ExportStream
