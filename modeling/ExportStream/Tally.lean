import ExportStream.Generation
import ExportStream.Json.Printer
import ExportStream.Json.Shape
import ExportStream.Kind
import ExportStream.Settings.Dialect
/-!
# Tallies

What an import adds up: for each kind how many records were read, rejected and skipped, the payloads
of attachments, the warnings in the order in which they came, the last versions that old exports
state, and the build that wrote the export. A tally only grows, except that a later version takes
the place of an earlier one.
-/

namespace ExportStream

/-- The counts of a kind. -/
structure Counts where
  /-- Records that were read. -/
  read : Nat := 0
  /-- Elements that were rejected. -/
  errored : Nat := 0
  /-- Elements that were passed over. -/
  skipped : Nat := 0
  deriving DecidableEq

namespace Counts

/-- The number of elements counted. -/
def total (c : Counts) : Nat := c.read + c.errored + c.skipped

/-- One more record was read. -/
def addRead (c : Counts) : Counts := { c with read := c.read + 1 }

/-- One more element was rejected. -/
def addErrored (c : Counts) : Counts := { c with errored := c.errored + 1 }

/-- So many more elements were passed over. -/
def addSkipped (n : Nat) (c : Counts) : Counts := { c with skipped := c.skipped + n }

/-- The counts as a JSON object, in the order of their declaration. -/
def toJson (c : Counts) : Json :=
  .object [("read", .nat c.read), ("errored", .nat c.errored), ("skipped", .nat c.skipped)]

/-- The names of the counts. -/
def names : List String := ["read", "errored", "skipped"]

/-- What a text on counts is read for. -/
def shape : Json.Shape := .parts (names.map fun name => (name, .whole))

/-- The counts that a JSON value states; none may be missing. -/
def ofJson? (v : Json) : Option Counts := do
  let part ← v.parts? names
  return {
    read := ← (← part "read").nat64?
    errored := ← (← part "errored").nat64?
    skipped := ← (← part "skipped").nat64? }

end Counts

/-- What an import adds up. -/
structure Tally where
  /-- Documents. -/
  documents : Counts := {}
  /-- Former states of documents. -/
  revisionDocuments : Counts := {}
  /-- Traces of what was deleted. -/
  tombstones : Counts := {}
  /-- Conflicting states of documents. -/
  conflicts : Counts := {}
  /-- Definitions of indexes. -/
  indexes : Counts := {}
  /-- Counters for ids. -/
  identities : Counts := {}
  /-- Values under cluster-wide keys. -/
  compareExchange : Counts := {}
  /-- Attachments of old exports. -/
  legacyAttachments : Counts := {}
  /-- Deletions of documents in old exports. -/
  legacyDocumentDeletions : Counts := {}
  /-- Deletions of attachments in old exports. -/
  legacyAttachmentDeletions : Counts := {}
  /-- Payloads of attachments that came between documents. -/
  attachments : Nat := 0
  /-- The warnings, in order. -/
  warnings : Array String := #[]
  /-- The last version of a document that an old export states. -/
  lastDocumentEtag : Option String := none
  /-- The last version of an attachment that an old export states. -/
  lastAttachmentEtag : Option String := none
  /-- The build that wrote the export, if it is stated. -/
  build : Option Int := none
  /-- The generation of the export. -/
  generation : Generation := .unknown
  deriving DecidableEq

namespace Tally

/-- The counts of a kind. -/
def get (t : Tally) : Kind → Counts
  | .documents => t.documents
  | .revisionDocuments => t.revisionDocuments
  | .tombstones => t.tombstones
  | .conflicts => t.conflicts
  | .indexes => t.indexes
  | .identities => t.identities
  | .compareExchange => t.compareExchange
  | .legacyAttachments => t.legacyAttachments
  | .legacyDocumentDeletions => t.legacyDocumentDeletions
  | .legacyAttachmentDeletions => t.legacyAttachmentDeletions

/-- Changes the counts of a kind. -/
def modify (t : Tally) (k : Kind) (f : Counts → Counts) : Tally :=
  match k with
  | .documents => { t with documents := f t.documents }
  | .revisionDocuments => { t with revisionDocuments := f t.revisionDocuments }
  | .tombstones => { t with tombstones := f t.tombstones }
  | .conflicts => { t with conflicts := f t.conflicts }
  | .indexes => { t with indexes := f t.indexes }
  | .identities => { t with identities := f t.identities }
  | .compareExchange => { t with compareExchange := f t.compareExchange }
  | .legacyAttachments => { t with legacyAttachments := f t.legacyAttachments }
  | .legacyDocumentDeletions => { t with legacyDocumentDeletions := f t.legacyDocumentDeletions }
  | .legacyAttachmentDeletions =>
    { t with legacyAttachmentDeletions := f t.legacyAttachmentDeletions }

/-- The changed kind has the changed counts. -/
@[simp] theorem get_modify_self (t : Tally) (k : Kind) (f : Counts → Counts) :
    (t.modify k f).get k = f (t.get k) := by cases k <;> rfl

/-- The other kinds keep their counts. -/
theorem get_modify_of_ne {k l : Kind} (h : l ≠ k) (t : Tally) (f : Counts → Counts) :
    (t.modify k f).get l = t.get l := by
  cases k <;> cases l <;> simp_all [modify, get]

/-- Adds a warning. -/
def warn (t : Tally) (message : String) : Tally := { t with warnings := t.warnings.push message }

/-- The number of records read, over all kinds. -/
def totalRead (t : Tally) : Nat := Kind.all.foldr (fun k n => (t.get k).read + n) 0

/-- The number of elements rejected, over all kinds. -/
def totalErrored (t : Tally) : Nat := Kind.all.foldr (fun k n => (t.get k).errored + n) 0

/-! ### The text of a tally -/

/-- The name of a kind in the text of a tally. -/
def caption : Kind → String
  | .documents => "documents"
  | .revisionDocuments => "revision documents"
  | .tombstones => "tombstones"
  | .conflicts => "conflicts"
  | .indexes => "indexes"
  | .identities => "identities"
  | .compareExchange => "compare exchange"
  | .legacyAttachments => "legacy attachments"
  | .legacyDocumentDeletions => "legacy document deletions"
  | .legacyAttachmentDeletions => "legacy attachment deletions"

/-- The line on the build. -/
def buildLine (t : Tally) : String :=
  match t.build with
  | some n => "build version: " ++ toString n ++ " (" ++ t.generation.name ++ ")"
  | none => "build version: none"

/-- The line on a kind, if anything was counted. -/
def countsLine? (t : Tally) (k : Kind) : Option String :=
  let c := t.get k
  if c = {} then none
  else some s!"{caption k}: read {c.read}, errored {c.errored}, skipped {c.skipped}"

/-- The text of a tally: a line on the build, a line on each kind of which anything was counted, and
the numbers of attachments and warnings. -/
def render (t : Tally) : String :=
  String.intercalate "\n"
    ([t.buildLine] ++ Kind.all.filterMap t.countsLine? ++
      [s!"attachments: {t.attachments}", s!"warnings: {t.warnings.size}"])

/-! ### The JSON form of a tally -/

/-- The name of a kind in the JSON form of a tally. -/
def partName : Kind → String
  | .documents => "documents"
  | .revisionDocuments => "revision_documents"
  | .tombstones => "tombstones"
  | .conflicts => "conflicts"
  | .indexes => "indexes"
  | .identities => "identities"
  | .compareExchange => "compare_exchange"
  | .legacyAttachments => "legacy_attachments"
  | .legacyDocumentDeletions => "legacy_document_deletions"
  | .legacyAttachmentDeletions => "legacy_attachment_deletions"

/-- A value that may be missing. -/
def orNull {α : Type} (f : α → Json) : Option α → Json
  | some a => f a
  | none => .null

/-- The parts that are not counts of a kind. -/
def otherParts (t : Tally) : List (String × Json) :=
  [("attachments", .nat t.attachments), ("warnings", .array (t.warnings.toList.map .string)),
    ("legacy_last_document_etag", orNull .string t.lastDocumentEtag),
    ("legacy_last_attachment_etag", orNull .string t.lastAttachmentEtag),
    ("build_version", orNull .int t.build), ("build_version_type", .string t.generation.name)]

/-- A tally as a JSON object, its parts in the order of their declaration. -/
def toJson (t : Tally) : Json :=
  .object (Kind.all.map (fun k => (partName k, (t.get k).toJson)) ++ t.otherParts)

/-- The names of the parts that are not counts of a kind. -/
def otherNames : List String :=
  ["attachments", "warnings", "legacy_last_document_etag", "legacy_last_attachment_etag",
    "build_version", "build_version_type"]

/-- The names of the parts. -/
def names : List String := Kind.all.map partName ++ otherNames

/-- What a text on a tally is read for. -/
def shape : Json.Shape :=
  .parts (Kind.all.map (fun k => (partName k, Counts.shape)) ++
    otherNames.map fun name => (name, .whole))

/-- The texts of an array. -/
def textsOf (v : Json) : Option (Array String) := do
  let items ← v.items?
  return (← items.mapM Json.text?).toArray

/-- A tally with the counts of each kind that a JSON value states; none may be missing. -/
def countsOf (part : String → Option Json) : List Kind → Tally → Option Tally
  | [], t => some t
  | k :: ks, t => do
    let c ← Counts.ofJson? (← part (partName k))
    countsOf part ks (t.modify k fun _ => c)

/-- The tally that a JSON value states. A structure written as an array has all its parts; in an
object those that may be missing may be left out. -/
def ofJson? (v : Json) : Option Tally := do
  let part ← v.parts? names
  guard (v.items?.all fun items => items.length = names.length)
  let optional {α : Type} (name : String) (read : Json → Option α) : Option (Option α) :=
    Dialect.partOr (Json.dialect.optionally read) none (part name)
  let t ← countsOf part Kind.all {}
  return { t with
    attachments := ← (← part "attachments").nat64?
    warnings := ← textsOf (← part "warnings")
    lastDocumentEtag := ← optional "legacy_last_document_etag" Json.text?
    lastAttachmentEtag := ← optional "legacy_last_attachment_etag" Json.text?
    build := ← optional "build_version" Json.int64?
    generation := ← Json.dialect.choice Generation.ofName? (← part "build_version_type") }

/-- The tally that a text states. -/
def read? (text : String) : Option Tally := (Json.readShaped shape text).bind ofJson?

end Tally

end ExportStream
