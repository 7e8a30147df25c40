import ExportStream.Proofs.Values
import ExportStream.Proofs.Writing
import ExportStream.Session.Event
/-!
# Exports as they are written

An export is laid out as an object: the number of its build, if it states one, and its sections. A
section of records is an array of elements. In an array of documents an element may be the marker of
an attachment, with the bytes of the attachment right behind it, whatever they are.

A layout (`Layout`) is such an export before it is written; `Layout.bytes` writes it. It fits
(`Layout.Fits`) if its labels announce what stands behind them and its texts are read as the values
they stand for. What is in it (`Layout.records`) is said section by section and element by element,
without a stream: every element is taken by itself, and only attachments wait for the document
behind them.
-/

namespace ExportStream

/-! ### Layouts -/

/-- An element of an array. -/
inductive Element where
  /-- A text that is read as a value. -/
  | plain (text : List UInt8) (value : Json)
  /-- A text that is read as a marker, and the payload of the attachment. -/
  | attachment (text : List UInt8) (marker : Json) (payload : List UInt8)

/-- A section of an export. -/
inductive Section where
  /-- The records of a kind. -/
  | records (label : String) (kind : Kind) (elements : List Element)
  /-- Something of older exports, with its text. -/
  | retired (label : String) (text : List UInt8)

/-- An export. -/
structure Layout where
  /-- The build, if it is stated. -/
  build : Option Int
  /-- The sections, in order. -/
  sections : List Section

/-! ### How they are written -/

namespace Layout

/-- A label between quotes, and the colon and the blank behind it. -/
def labelBytes (label : String) : List UInt8 :=
  34 :: (Text.Utf8.bytesOf label ++ [34]) ++ [58, 32]

end Layout

/-- An element as it is written. -/
def Element.bytes : Element → List UInt8
  | .plain text _ => text
  | .attachment text _ payload => text ++ payload

/-- Elements as they are written, with the bracket that closes their array. -/
def Element.arrayBytes (es : List Element) : List UInt8 :=
  [44].intercalate (es.map Element.bytes) ++ [93]

/-- A section as it is written. -/
def Section.bytes : Section → List UInt8
  | .records label _ es => Layout.labelBytes label ++ 91 :: Element.arrayBytes es
  | .retired label text => Layout.labelBytes label ++ text

namespace Layout

/-- A build as it is written. -/
def buildBytes (n : Int) : List UInt8 :=
  labelBytes "BuildVersion" ++ Text.Utf8.bytesOf (toString n)

/-- Parts of an export as they are written, with the brace that ends the export. -/
def partsBytes (parts : List (List UInt8)) : List UInt8 := [44, 32].intercalate parts ++ [125]

/-- An export as it is written. -/
def bytes (l : Layout) : List UInt8 :=
  123 :: partsBytes ((l.build.map buildBytes).toList ++ l.sections.map Section.bytes)

end Layout

/-! ### Which of them fit -/

/-- Does an element fit into an array of a kind? A text may have a gap behind its value, but not
behind a marker, where the payload begins. -/
def Element.Fits (o : Options) (k : Kind) : Element → Prop
  | .plain text v =>
    (∃ gap : List UInt8, gap.all Scanner.isSeparator = true ∧
      v.ReadFrom o.maxDepth text gap) ∧
      (k.carriesAttachments = true → v.isMarker = false)
  | .attachment text marker payload =>
    k.carriesAttachments = true ∧ marker.ReadFrom o.maxDepth text [] ∧ marker.isMarker = true ∧
      (marker.fieldText? "Hash").isSome = true ∧ (marker.fieldText? "Tag").isSome = true ∧
      marker.markerSize? = some payload.length

/-- Does the label of a section announce what stands behind it? -/
def Section.Fits (o : Options) : Section → Prop
  | .records label k es => (Text.lower label, k) ∈ Label.kinds ∧ ∀ e ∈ es, e.Fits o k
  | .retired label text =>
    Text.lower label ∈ Label.retiredSections ∧
      ∃ (maxDepth : Nat) (v : Json) (gap : List UInt8), gap.all Scanner.isSeparator = true ∧
        v.ReadFrom maxDepth text gap

/-- Does an export fit the options that it is read with? -/
structure Layout.Fits (l : Layout) (o : Options) : Prop where
  /-- The build is an integer of 64 bits. -/
  build : ∀ n, l.build = some n → Decimal.Fits64 n
  /-- All sections fit. -/
  sections : ∀ x ∈ l.sections, x.Fits o

/-! ### What is in them -/

/-- The attachment that a marker announces and a payload makes. -/
def attachmentOf? (marker : Json) (payload : List UInt8) : Option Attachment := do
  let hash ← marker.fieldText? "Hash"
  let tag ← marker.fieldText? "Tag"
  return {
    hash, tag, marker
    computed := Digest.contentHash payload
    size := payload.length
    sink := Sink.memory.take payload }

/-- The attachment of an old export, with the document that stands in for it, unless the file was
deleted or is on its way. -/
def LegacyAttachment.Parsed.kept? (p : Parsed) : Option LegacyAttachment :=
  if p.isTransient then none
  else some ⟨p.details, standIn p.details, Sink.memory.take p.payload⟩

/-- The record that a value is in an array of a kind, if it is one; the attachments come with it if
it is a document. -/
def recordOf? (o : Options) (generation : Generation) (k : Kind) (staged : List Attachment)
    (v : Json) : Option Record :=
  match k with
  | .documents | .revisionDocuments =>
    (Document.parse generation.isLegacy o.readLegacyEtag v).toOption.map fun p =>
      .document { p.document with attachments := staged }
  | .tombstones => (Tombstone.parse v).toOption.map .tombstone
  | .conflicts => (Conflict.parse v).toOption.map .conflict
  | .indexes => (IndexDefinition.parse generation v).toOption.map .index
  | .identities => (Identity.parse v).toOption.map .identity
  | .compareExchange => (CompareExchange.parse v).toOption.map .compareExchange
  | .legacyAttachments =>
    (LegacyAttachment.parse v).toOption.bind fun p => p.kept?.map .legacyAttachment
  | .legacyDocumentDeletions => (deletedKey? v).map .deletion
  | .legacyAttachmentDeletions =>
    (deletedKey? v).map fun key => .deletion (LegacyAttachment.idOf key)

namespace Element

/-- The record that an element is, if it is one; the attachments wait before it. -/
def record? (o : Options) (generation : Generation) (k : Kind) (staged : List Attachment) :
    Element → Option Record
  | .plain _ v => recordOf? o generation k staged v
  | .attachment .. => none

/-- The attachments that wait behind an element. None do behind a document: they come with it, or
are dropped with it. -/
def waiting (staged : List Attachment) : Element → List Attachment
  | .plain .. => []
  | .attachment _ marker payload => staged ++ (attachmentOf? marker payload).toList

/-- The records that are in an array, in order. -/
def records (o : Options) (generation : Generation) (k : Kind) :
    List Attachment → List Element → List Record
  | _, [] => []
  | staged, e :: es =>
    (e.record? o generation k staged).toList ++ records o generation k (e.waiting staged) es

end Element

/-- The records that are in a section, with their kind. -/
def Section.contents (o : Options) (generation : Generation) : Section → List (Kind × Record)
  | .records _ k es => (Element.records o generation k [] es).map fun r => (k, r)
  | .retired .. => []

namespace Layout

/-- The generation that an export follows. -/
def generation (l : Layout) : Generation := l.build.elim .unknown .ofBuild

/-- The records that are in an export, with their kinds. -/
def records (l : Layout) (o : Options) : List (Kind × Record) :=
  l.sections.flatMap (Section.contents o l.generation)

/-! ### Rows of parts -/

/-- In a row of parts, behind each of them, stand separators and the rest of the row; and a number
ends there. -/
theorem intercalate_cons (sep : List UInt8) (hsep : sep.all Scanner.isSeparator = true)
    (hends : sep.head? = some 44) (p : List UInt8) (ps : List (List UInt8)) (last : UInt8)
    (hlast : Scanner.isNumberByte last = false) (tail : List UInt8) :
    ∃ lead, lead.all Scanner.isSeparator = true ∧
      sep.intercalate (p :: ps) ++ last :: tail =
        p ++ (lead ++ (sep.intercalate ps ++ last :: tail)) ∧
      ∃ b more, lead ++ (sep.intercalate ps ++ last :: tail) = b :: more ∧
        Scanner.isNumberByte b = false := by
  cases ps with
  | nil =>
    refine ⟨[], rfl, ?_, last, tail, ?_, hlast⟩
    · rw [List.intercalate_singleton, List.intercalate_nil]
      rfl
    · rw [List.intercalate_nil]
      rfl
  | cons q qs =>
    obtain ⟨blanks, rfl⟩ := List.head?_eq_some_iff.mp hends
    refine ⟨44 :: blanks, hsep, ?_, 44, _, rfl, by decide⟩
    rw [List.intercalate_cons_cons]
    simp only [List.append_assoc]

/-- A part of an export stands before the parts that are left. -/
theorem partsBytes_cons (part : List UInt8) (parts : List (List UInt8)) :
    ∃ lead, lead.all Scanner.isSeparator = true ∧
      partsBytes (part :: parts) = part ++ (lead ++ partsBytes parts) ∧
      ∃ b more, lead ++ partsBytes parts = b :: more ∧ Scanner.isNumberByte b = false :=
  intercalate_cons [44, 32] (by decide) rfl part parts 125 (by decide) []

end Layout

/-- An element of an array stands before the elements that are left. -/
theorem Element.arrayBytes_cons (e : Element) (es : List Element) (rest : List UInt8) :
    ∃ lead, lead.all Scanner.isSeparator = true ∧
      arrayBytes (e :: es) ++ rest = e.bytes ++ (lead ++ (arrayBytes es ++ rest)) ∧
      ∃ b more, lead ++ (arrayBytes es ++ rest) = b :: more ∧ Scanner.isNumberByte b = false := by
  have hrow := Layout.intercalate_cons [44] (by decide) rfl e.bytes (es.map bytes) 93 (by decide)
    rest
  unfold arrayBytes
  rw [List.map_cons, List.append_assoc, List.append_assoc, List.singleton_append]
  exact hrow

end ExportStream
