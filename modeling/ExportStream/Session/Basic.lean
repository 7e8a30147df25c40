import ExportStream.Options
import ExportStream.Payload.Copier
import ExportStream.Record.Property
import ExportStream.Stream.Assembler
import ExportStream.Tally
/-!
# Sessions

A session reads one export from its first brace to its last. It stands between kinds or at a kind;
the array of the kind it stands at is not begun, open, or closed. Everything that the session finds
out goes into its tally.
-/

namespace ExportStream

/-- Where the array of the current kind stands. -/
inductive ArrayState where
  /-- The label is read, the bracket is not. -/
  | notStarted
  /-- Elements may follow. -/
  | isOpen
  /-- The closing bracket is read, or there is no current kind. -/
  | closed
  deriving DecidableEq

/-- An export that is being read. -/
structure Session where
  /-- The stream. -/
  cursor : Cursor
  /-- The builder of elements. -/
  assembler : Assembler
  /-- The copier of payloads. -/
  copier : Copier
  /-- The options. -/
  options : Options
  /-- What was added up so far. -/
  tally : Tally
  /-- The build that wrote the export; zero if it is not stated. -/
  build : Int := 0
  /-- The generation of the export. -/
  generation : Generation := .unknown
  /-- A kind whose label is read, but at which the session does not stand yet. -/
  pending : Option Kind := none
  /-- The kind at which the session stands. -/
  current : Option Kind := none
  /-- Where the array of that kind stands. -/
  array : ArrayState := .closed
  /-- Is the last brace of the export read? -/
  exhausted : Bool := false

namespace Session

/-- A session in front of an export. -/
def start (supply : Supply) (options : Options) (tally : Tally) : Session where
  cursor := .start supply options.bufferSize options.diagnosticWindow
  assembler := { maxDepth := options.maxDepth }
  copier := .start options.writeBufferSize
  options := options
  tally := tally

/-- The position in the stream. -/
def position (s : Session) : Nat := s.cursor.position

/-- The number of bytes read from the supply. -/
def bytesRead (s : Session) : Nat := s.cursor.bytesRead

/-- The number that bounds what the session can still read. -/
def fuel (s : Session) : Nat := s.cursor.fuel

/-- Notes what happened. -/
def note (s : Session) (n : Notice) : Session := { s with cursor := s.cursor.note n }

/-- The failure of an export that is not well formed here. -/
def malformed (s : Session) (cause : Malformation) : Failure := s.cursor.malformed cause

/-- Counts a record as read. -/
def countRead (s : Session) (k : Kind) : Session :=
  { s with tally := s.tally.modify k .addRead }

/-- Counts so many elements as passed over. -/
def countSkipped (s : Session) (k : Kind) (n : Nat) : Session :=
  { s with tally := s.tally.modify k (.addSkipped n) }

/-- Counts the payload of an attachment. -/
def countAttachment (s : Session) : Session :=
  { s with tally := { s.tally with attachments := s.tally.attachments + 1 } }

/-- Keeps a warning about the records of a kind. -/
def warn (s : Session) (k : Kind) (message : String) : Session :=
  let s := s.note (.warned k message)
  { s with tally := s.tally.warn message }

/-- The warning about a rejected element. -/
def rejectionWarning (k : Kind) (f : RecordFault) (snapshot : String) : String :=
  "Could not read " ++ k.name ++ " item: " ++ f.message ++ ". Data: " ++ snapshot

/-- Counts an element as rejected, and keeps a warning that shows it. -/
def reject (s : Session) (k : Kind) (f : RecordFault) (v : Json) : Session :=
  let s := s.note (.rejected k s.position f.message)
  { s with
    tally := (s.tally.modify k .addErrored).warn
      (rejectionWarning k f (v.snapshot s.options.maxWarningSnapshot)) }

/-- Keeps the version of a document, if one is stated. -/
def keepDocumentEtag (s : Session) (etag : Option String) : Session :=
  match etag with
  | some e => { s with tally := { s.tally with lastDocumentEtag := some e } }
  | none => s

/-- Keeps the version of an attachment, if one is stated. -/
def keepAttachmentEtag (s : Session) (etag : Option String) : Session :=
  match etag with
  | some e => { s with tally := { s.tally with lastAttachmentEtag := some e } }
  | none => s

/-! ### Reading -/

/-- Reads a token. -/
def readToken (s : Session) : Except Failure Token × Session :=
  match s.cursor.readToken with
  | (r, cursor) => (r, { s with cursor })

/-- Puts together the value that starts with a token. -/
def readValue (s : Session) (t : Token) : Except Failure Json × Session :=
  match s.assembler.build t s.cursor with
  | (r, assembler, cursor) => (r, { s with assembler, cursor })

/-- Copies a payload into a sink. -/
def copyPayload (s : Session) (size : Nat) (sink : Sink) : Except Failure String × Sink × Session :=
  match ({ copier := s.copier, cursor := s.cursor, sink } : Copying).copy size with
  | (r, w) => (r, w.sink, { s with copier := w.copier, cursor := w.cursor })

/-! ### What reading leaves alone -/

/-- From `s` to `s'` at least `n` of the fuel was used, and what only the labels of the export
change stayed as it was. -/
structure Spent (n : Nat) (s s' : Session) : Prop where
  /-- The fuel that was used. -/
  fuel_le : s'.fuel + n ≤ s.fuel
  /-- The kind that waits. -/
  pending_eq : s'.pending = s.pending
  /-- The options. -/
  options_eq : s'.options = s.options

namespace Spent

/-- Nothing was read. -/
theorem refl (s : Session) : Spent 0 s s := ⟨Nat.le_refl _, rfl, rfl⟩

/-- One reading after the other. -/
theorem trans {m n : Nat} {s t u : Session} (h : Spent m s t) (h' : Spent n t u) :
    Spent (m + n) s u :=
  ⟨by have := h.fuel_le; have := h'.fuel_le; omega, h'.pending_eq.trans h.pending_eq,
    h'.options_eq.trans h.options_eq⟩

/-- Less was used, too. -/
theorem weaken {m n : Nat} {s t : Session} (h : Spent m s t) (hn : n ≤ m) : Spent n s t :=
  ⟨by have := h.fuel_le; omega, h.pending_eq, h.options_eq⟩

/-- A reading that uses fuel lowers it. -/
theorem fuel_lt {n : Nat} {s t : Session} (h : Spent (n + 1) s t) : t.fuel < s.fuel := by
  have := h.fuel_le; omega

/-- What is noted, counted or kept besides does not matter. -/
theorem congr {n : Nat} {s t u : Session} (h : Spent n s t) (hf : u.fuel = t.fuel)
    (hp : u.pending = t.pending) (ho : u.options = t.options) : Spent n s u :=
  ⟨hf ▸ h.fuel_le, hp.trans h.pending_eq, ho.trans h.options_eq⟩

end Spent

/-- A token uses fuel. -/
theorem spent_readToken {s s' : Session} {t : Token} (h : s.readToken = (.ok t, s')) :
    Spent 1 s s' := by
  unfold readToken at h
  simp only [Prod.mk.injEq] at h
  rw [← h.2]
  exact ⟨Cursor.fuel_readToken (Prod.ext h.1 rfl), rfl, rfl⟩

/-- A value is put together from what is left. -/
theorem spent_readValue {s s' : Session} {t : Token} {v : Json} (h : s.readValue t = (.ok v, s')) :
    Spent 0 s s' := by
  unfold readValue at h
  simp only [Prod.mk.injEq] at h
  rw [← h.2]
  exact ⟨Assembler.fuel_build (Prod.ext h.1 rfl), rfl, rfl⟩

/-- A payload is copied from what is left. -/
theorem spent_copyPayload {s s' : Session} {size : Nat} {sink sink' : Sink} {hash : String}
    (h : s.copyPayload size sink = (.ok hash, sink', s')) : Spent 0 s s' := by
  unfold copyPayload at h
  simp only [Prod.mk.injEq] at h
  rw [← h.2.2]
  exact ⟨Copying.fuel_copy (w := { copier := s.copier, cursor := s.cursor, sink })
    (Prod.ext h.1 rfl), rfl, rfl⟩

end Session

end ExportStream
