import ExportStream.Text.Ascii
/-!
# Kinds of records

An export is an object whose labels name the kinds of the records that follow them. A label is
compared without regard to the case of ASCII letters, and some kinds have a second, older label.
Where a position has no kind, it is `none`, which messages write as `None`.
-/

namespace ExportStream

/-- A kind of records. -/
inductive Kind where
  /-- Documents. -/
  | documents
  /-- Former states of documents. -/
  | revisionDocuments
  /-- Traces of what was deleted. -/
  | tombstones
  /-- Conflicting states of documents. -/
  | conflicts
  /-- Definitions of indexes. -/
  | indexes
  /-- Counters for new document ids. -/
  | identities
  /-- Values under cluster-wide keys. -/
  | compareExchange
  /-- Attachments in the form of old exports. -/
  | legacyAttachments
  /-- Ids of deleted documents in old exports. -/
  | legacyDocumentDeletions
  /-- Keys of deleted attachments in old exports. -/
  | legacyAttachmentDeletions
  deriving DecidableEq

namespace Kind

/-- Every kind, in the order of reports. -/
def all : List Kind :=
  [.documents, .revisionDocuments, .tombstones, .conflicts, .indexes, .identities,
    .compareExchange, .legacyAttachments, .legacyDocumentDeletions, .legacyAttachmentDeletions]

/-- The name of a kind. -/
def name : Kind → String
  | .documents => "Documents"
  | .revisionDocuments => "RevisionDocuments"
  | .tombstones => "Tombstones"
  | .conflicts => "Conflicts"
  | .indexes => "Indexes"
  | .identities => "Identities"
  | .compareExchange => "CompareExchange"
  | .legacyAttachments => "LegacyAttachments"
  | .legacyDocumentDeletions => "LegacyDocumentDeletions"
  | .legacyAttachmentDeletions => "LegacyAttachmentDeletions"

/-- The kind with a name. -/
def ofName? (n : String) : Option Kind := all.find? fun k => k.name = n

/-- The name of a kind, or the name for having none. -/
def nameOrNone : Option Kind → String
  | some k => k.name
  | none => "None"

/-- Can markers of attachments, with raw bytes behind them, stand among the records? -/
def carriesAttachments : Kind → Bool
  | .documents | .revisionDocuments => true
  | _ => false

end Kind

/-- What a label of the export announces. -/
inductive Label where
  /-- Records of a kind. -/
  | kind (k : Kind)
  /-- The number of the build that wrote the export. -/
  | buildVersion
  /-- A section of older exports that is passed over. -/
  | retired
  /-- Something that nobody knows. -/
  | unknown
  deriving DecidableEq

namespace Label

/-- The labels of kinds, in lower case. -/
def kinds : List (String × Kind) :=
  [("docs", .documents), ("results", .documents), ("revisiondocuments", .revisionDocuments),
    ("tombstones", .tombstones), ("conflicts", .conflicts), ("indexes", .indexes),
    ("identities", .identities), ("compareexchange", .compareExchange),
    ("cmpxchg", .compareExchange), ("attachments", .legacyAttachments),
    ("docsdeletions", .legacyDocumentDeletions),
    ("attachmentsdeletions", .legacyAttachmentDeletions)]

/-- The labels of sections that are passed over, in lower case. -/
def retiredSections : List String := ["transformers"]

/-- What a label announces. -/
def resolve (label : String) : Label :=
  let lower := Text.lower label
  if lower = "buildversion" then .buildVersion
  else
    match kinds.lookup lower with
    | some k => .kind k
    | none => if lower ∈ retiredSections then .retired else .unknown

end Label

end ExportStream
