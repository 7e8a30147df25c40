import ExportStream.Fault.Record
import ExportStream.Json.Printer
import ExportStream.Text.Search
/-!
# Properties of elements

The names of the properties that elements carry for the exporter's own use, and the ways in which an
element's fields are asked for: a field may be due or optional, and a due field that is null counts
as missing.
-/

namespace ExportStream

namespace Property

/-- What the database keeps about a document. -/
def metadata : String := "@metadata"

/-- The id of a document. -/
def id : String := "@id"

/-- The collection of a document. -/
def collection : String := "@collection"

/-- The version of a document in a cluster. -/
def changeVector : String := "@change-vector"

/-- The flags of a document. -/
def flags : String := "@flags"

/-- The version of a document on one server. -/
def etag : String := "@etag"

/-- The time of a document's last change. -/
def lastModified : String := "@last-modified"

/-- What an element stands for, if not for a record. -/
def exportType : String := "@export-type"

/-- The properties that are not kept in the body of a document. -/
def volatile : List String := [id, changeVector, flags, etag, lastModified]

/-- The text that stands for an attachment as the type of an element. -/
def attachmentType : String := "Attachment"

/-- The collection of the documents that count ids. -/
def hiloCollection : String := "@hilo"

/-- What the ids of the documents that count ids contain. -/
def hiloMark : String := "Raven/Hilo/"

end Property

namespace Fields

/-- A text that is due. -/
def dueText (fields : Fields) (name : String) : Except RecordFault String :=
  match Fields.find? name fields with
  | none | some .null => .error (.missing name)
  | some (.string s) => .ok s
  | some other => .error (.invalid name ("expected string, got " ++ other.typeName))

/-- A text, if the field is one. -/
def text? (fields : Fields) (name : String) : Option String :=
  (Fields.find? name fields).bind Json.text?

/-- An integer of 64 bits that is due. -/
def dueInt64 (fields : Fields) (name : String) : Except RecordFault Int :=
  match Fields.find? name fields with
  | none | some .null => .error (.missing name)
  | some v =>
    match v.int64? with
    | some i => .ok i
    | none => .error (.invalid name ("expected integer, got " ++ v.compact))

/-- An object that is due. -/
def dueObject (fields : Fields) (name : String) : Except RecordFault Fields :=
  match Fields.find? name fields with
  | none | some .null => .error (.missing name)
  | some (.object inner) => .ok inner
  | some other => .error (.invalid name ("expected object, got " ++ other.typeName))

end Fields

namespace Json

/-- The fields of an element, which has to be an object. -/
def element (v : Json) : Except RecordFault Fields :=
  match v with
  | .object fields => .ok fields
  | v => .error (.notAnObject v.typeName)

/-- What the database keeps about an element, if it keeps anything. -/
def metadata? (v : Json) : Option Fields := (v.field? Property.metadata).bind Json.fields?

/-- Does the element announce the payload of an attachment? -/
def isMarker (v : Json) : Bool :=
  ((v.metadata?.bind (Fields.find? Property.exportType)).bind Json.text?) =
    some Property.attachmentType

/-- The size of the payload that a marker announces. -/
def markerSize? (v : Json) : Option Nat := (v.field? "Size").bind Json.nat64?

/-- A text among the fields of a value, if the field is one. -/
def fieldText? (v : Json) (name : String) : Option String := (v.field? name).bind Json.text?

/-- The text of a value for a warning, cut to so many characters. -/
def snapshot (v : Json) (limit : Nat) : String := Text.clipped limit v.compact

end Json

/-- Is the id that of a document that counts ids? -/
def isHiloId (id : String) : Bool := Text.occursIn Property.hiloMark.toList id.toList

end ExportStream
