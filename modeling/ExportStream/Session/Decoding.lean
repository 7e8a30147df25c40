import ExportStream.Record.Basic
import ExportStream.Session.Elements
/-!
# Decoding elements

What becomes of an element of an array. Most elements are records or are rejected. The payload of an
attachment, in an array of documents, is staged: it comes before its document and is handed over
with it. When the document behind staged payloads is rejected, or the array ends, they are dropped
with a warning.
-/

namespace ExportStream

/-- What becomes of an element. -/
inductive Decoded where
  /-- It is a record. -/
  | record (r : Record)
  /-- It belongs to the next record. -/
  | deferred
  /-- It is passed over and counted. -/
  | skipped
  /-- It is passed over and not counted. -/
  | ignored
  /-- It is rejected. -/
  | rejected (f : RecordFault) (v : Json)

/-- The outcome of reading an element as a record. -/
def Decoded.ofParsed {α : Type} (v : Json) (record : α → Record) : Except RecordFault α → Decoded
  | .ok a => .record (record a)
  | .error f => .rejected f v

/-- What waits for a document, and where payloads go. -/
structure Staging where
  /-- Where payloads go. -/
  sinks : Sinks
  /-- The attachments that wait for their document, in order. -/
  staged : List Attachment := []

namespace Staging

/-- The warning about a payload that is not what its marker declares. -/
def mismatchWarning (a : Attachment) : String :=
  "Attachment '" ++ a.tag ++ "' hash mismatch: declared " ++ a.hash ++ ", computed " ++ a.computed

/-- Warns about a payload that is not what its marker declares, if that is asked for. -/
def verify (k : Kind) (a : Attachment) (s : Session) : Session :=
  if s.options.verifyAttachmentHashes && !a.isVerified then s.warn k (mismatchWarning a) else s

/-- Copies the payload behind a marker that names its attachment. -/
def stageNamed (g : Staging) (k : Kind) (marker : Json) (size : Nat) (hash tag : String)
    (s : Session) : Except Failure Decoded × Staging × Session :=
  match g.sinks.create tag with
  | (.error f, sinks) => (.error f, { g with sinks }, s)
  | (.ok sink, sinks) =>
    match s.copyPayload size sink with
    | (.error f, _, s) => (.error f, { g with sinks }, s)
    | (.ok computed, sink, s) =>
      let a : Attachment := { hash, computed, tag, size, marker, sink }
      (.ok .deferred, { sinks, staged := g.staged ++ [a] }, (verify k a s).countAttachment)

/-- Takes the payload behind a marker off the stream. -/
def stage (g : Staging) (k : Kind) (marker : Json) (s : Session) :
    Except Failure Decoded × Staging × Session :=
  match s.payloadSize marker with
  | .error f => (.error f, g, s)
  | .ok size =>
    match marker.fieldText? "Hash", marker.fieldText? "Tag" with
    | some hash, some tag => g.stageNamed k marker size hash tag s
    | _, _ =>
      match s.dropBytes size with
      | (.error f, s) => (.error f, g, s)
      | (.ok (), s) => (.ok (.rejected (.marker "marker has no Hash or Tag") marker), g, s)

/-- The warning about payloads without a document. -/
def dropWarning (staged : List Attachment) (reason : String) : String :=
  toString staged.length ++ " attachment stream(s) dropped, " ++ reason ++ ": " ++
    String.intercalate ", " (staged.map Attachment.tag)

/-- Drops what is staged, with a warning if that is anything. -/
def drop (g : Staging) (k : Kind) (reason : String) (s : Session) : Staging × Session :=
  if g.staged.isEmpty then (g, s)
  else ({ g with staged := [] }, s.warn k (dropWarning g.staged reason))

/-- Reads an element of an array of documents. -/
def decodeDocument (g : Staging) (k : Kind) (v : Json) (s : Session) :
    Except Failure Decoded × Staging × Session :=
  if v.isMarker then g.stage k v s
  else
    match Document.parse s.generation.isLegacy s.options.readLegacyEtag v with
    | .ok p =>
      (.ok (.record (.document { p.document with attachments := g.staged })),
        { g with staged := [] }, s.keepDocumentEtag p.etag)
    | .error f =>
      let (g, s) := g.drop k "their host document was rejected" s
      (.ok (.rejected f v), g, s)

/-- Writes a payload that came inside its element. -/
def store (sink : Sink) (payload : List UInt8) : Except Failure Sink :=
  match Writer.write sink payload with
  | (.error f, _) => .error (.ofDevice f)
  | (.ok (), sink) =>
    match Writer.flush sink with
    | (.error f, _) => .error (.ofDevice f)
    | (.ok (), sink) => .ok sink

/-- Reads an attachment of an old export. -/
def decodeLegacyAttachment (g : Staging) (v : Json) (s : Session) :
    Except Failure Decoded × Staging × Session :=
  match LegacyAttachment.parse v with
  | .error f => (.ok (.rejected f v), g, s)
  | .ok p =>
    let s := if s.options.readLegacyEtag then s.keepAttachmentEtag p.etag else s
    if p.isTransient then (.ok .skipped, g, s)
    else
      let d := p.details
      match g.sinks.create d.tag with
      | (.error f, sinks) => (.error f, { g with sinks }, s)
      | (.ok sink, sinks) =>
        match store sink p.payload with
        | .error f => (.error f, { g with sinks }, s)
        | .ok sink =>
          (.ok (.record (.legacyAttachment ⟨d, LegacyAttachment.standIn d, sink⟩)),
            { g with sinks }, s)

/-- Reads a deletion of an old export; what is deleted is known by the id that its key gives. -/
def decodeDeletion (idOf : String → String) (policy : DeletionPolicy) (v : Json) : Decoded :=
  match deletedKey? v with
  | some key => .record (.deletion (idOf key))
  | none =>
    match policy with
    | .ignore => .ignored
    | .countAsError => .rejected (.missing "Key") v

/-- Reads an element that stands in an array of the kind `k`, in the form of the kind `form`. -/
def decode (g : Staging) (form k : Kind) (v : Json) (s : Session) :
    Except Failure Decoded × Staging × Session :=
  match form with
  | .documents | .revisionDocuments => g.decodeDocument k v s
  | .tombstones => (.ok (.ofParsed v .tombstone (Tombstone.parse v)), g, s)
  | .conflicts => (.ok (.ofParsed v .conflict (Conflict.parse v)), g, s)
  | .indexes => (.ok (.ofParsed v .index (IndexDefinition.parse s.generation v)), g, s)
  | .identities => (.ok (.ofParsed v .identity (Identity.parse v)), g, s)
  | .compareExchange => (.ok (.ofParsed v .compareExchange (CompareExchange.parse v)), g, s)
  | .legacyAttachments => g.decodeLegacyAttachment v s
  | .legacyDocumentDeletions => (.ok (decodeDeletion (fun k => k) s.options.deletionPolicy v), g, s)
  | .legacyAttachmentDeletions =>
    (.ok (decodeDeletion LegacyAttachment.idOf s.options.deletionPolicy v), g, s)

/-- What is done at the end of an array. -/
def finish (g : Staging) (form k : Kind) (s : Session) : Staging × Session :=
  if form.carriesAttachments then g.drop k "they had no host document" s else (g, s)

/-! ### What is left -/

/-- A payload is staged from what is left. -/
theorem spent_stageNamed {g g' : Staging} {k : Kind} {marker : Json} {size : Nat}
    {hash tag : String} {s s' : Session} {d : Decoded}
    (h : g.stageNamed k marker size hash tag s = (.ok d, g', s')) : s.Spent 0 s' := by
  unfold stageNamed at h
  split at h
  · simp at h
  · split at h
    · simp at h
    · next hc =>
      simp only [Prod.mk.injEq] at h
      rw [← h.2.2]
      refine (Session.spent_copyPayload hc).congr ?_ ?_ ?_ <;> unfold verify <;> split <;> rfl

/-- The payload behind a marker is taken from what is left. -/
theorem spent_stage {g g' : Staging} {k : Kind} {marker : Json} {s s' : Session} {d : Decoded}
    (h : g.stage k marker s = (.ok d, g', s')) : s.Spent 0 s' := by
  unfold stage at h
  split at h
  · simp at h
  · split at h
    · exact spent_stageNamed h
    · split at h
      · simp at h
      · next hd =>
        simp only [Prod.mk.injEq] at h
        rw [← h.2.2]
        exact Session.spent_dropBytes hd

/-- Dropping what is staged reads nothing. -/
theorem spent_drop (g : Staging) (k : Kind) (reason : String) (s : Session) :
    s.Spent 0 (g.drop k reason s).2 := by
  unfold drop
  split
  · exact .refl s
  · exact (Session.Spent.refl s).congr rfl rfl rfl

/-- A document is read from what is left. -/
theorem spent_decodeDocument {g g' : Staging} {k : Kind} {v : Json} {s s' : Session} {d : Decoded}
    (h : g.decodeDocument k v s = (.ok d, g', s')) : s.Spent 0 s' := by
  unfold decodeDocument at h
  split at h
  · exact spent_stage h
  · split at h
    · simp only [Prod.mk.injEq] at h
      rw [← h.2.2]
      refine (Session.Spent.refl s).congr ?_ ?_ ?_ <;> unfold Session.keepDocumentEtag <;>
        split <;> rfl
    · simp only [Prod.mk.injEq] at h
      rw [← h.2.2]
      exact spent_drop ..

/-- An attachment of an old export is read from what is left. -/
theorem spent_decodeLegacyAttachment {g g' : Staging} {v : Json} {s s' : Session} {d : Decoded}
    (h : g.decodeLegacyAttachment v s = (.ok d, g', s')) : s.Spent 0 s' := by
  have hk (e : Option String) :
      s.Spent 0 (if s.options.readLegacyEtag then s.keepAttachmentEtag e else s) := by
    refine (Session.Spent.refl s).congr ?_ ?_ ?_ <;> unfold Session.keepAttachmentEtag <;>
      split <;> (try split) <;> rfl
  unfold decodeLegacyAttachment at h
  split at h
  · simp only [Prod.mk.injEq] at h; rw [← h.2.2]; exact .refl s
  · simp only at h
    split at h
    · simp only [Prod.mk.injEq] at h; rw [← h.2.2]; exact hk _
    · split at h
      · simp at h
      · split at h
        · simp at h
        · simp only [Prod.mk.injEq] at h; rw [← h.2.2]; exact hk _

/-- An element is decoded from what is left. -/
theorem spent_decode {g g' : Staging} {form k : Kind} {v : Json} {s s' : Session} {d : Decoded}
    (h : g.decode form k v s = (.ok d, g', s')) : s.Spent 0 s' := by
  unfold decode at h
  split at h
  all_goals
    first
    | exact spent_decodeDocument h
    | exact spent_decodeLegacyAttachment h
    | (simp only [Prod.mk.injEq] at h; rw [← h.2.2]; exact .refl s)

/-- Nothing is read behind the end of an array. -/
theorem spent_finish (g : Staging) (form k : Kind) (s : Session) :
    s.Spent 0 (g.finish form k s).2 := by
  unfold finish
  split
  · exact spent_drop ..
  · exact .refl s

end Staging

end ExportStream
