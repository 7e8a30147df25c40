import ExportStream.Record.CompareExchange
import ExportStream.Record.Conflict
import ExportStream.Record.Identity
import ExportStream.Record.IndexDefinition
import ExportStream.Record.LegacyAttachment
import ExportStream.Record.Tombstone
import ExportStream.Kind
/-!
# Records

What an export consists of: a record of any of the kinds.
-/

namespace ExportStream

/-- A record. -/
inductive Record where
  /-- A document or a former state of one. -/
  | document (d : Document)
  /-- A trace of something that was deleted. -/
  | tombstone (t : Tombstone)
  /-- One of several states of a document. -/
  | conflict (c : Conflict)
  /-- A definition of an index. -/
  | index (d : IndexDefinition)
  /-- A counter for ids. -/
  | identity (i : Identity)
  /-- A value under a cluster-wide key. -/
  | compareExchange (c : CompareExchange)
  /-- An attachment of an old export. -/
  | legacyAttachment (a : LegacyAttachment)
  /-- The id of what an old export deletes. -/
  | deletion (id : String)

namespace Record

/-- What a record is known by. -/
def id : Record → String
  | .document d => d.id
  | .tombstone t => t.id
  | .conflict c => c.id
  | .index d => d.name
  | .identity i => i.key
  | .compareExchange c => c.key
  | .legacyAttachment a => a.details.id
  | .deletion id => id

/-- The kind that a record is of, when it is told as one of the kind `k`: there are several kinds of
documents and of deletions, and these are what they are told as; every other record tells its kind
itself. -/
def kindAs (k : Kind) : Record → Kind
  | .document _ => k
  | .tombstone _ => .tombstones
  | .conflict _ => .conflicts
  | .index _ => .indexes
  | .identity _ => .identities
  | .compareExchange _ => .compareExchange
  | .legacyAttachment _ => .legacyAttachments
  | .deletion _ => k

/-- The number of attachments that came with a record. -/
def attachmentCount : Record → Nat
  | .document d => d.attachments.length
  | _ => 0

end Record

end ExportStream
