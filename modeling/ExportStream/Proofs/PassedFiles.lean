import ExportStream.Proofs.DocumentFrames
import ExportStream.Proofs.Rejections
/-!
# Files that are passed over

In old exports the attachments are elements of their own, and some of them are of files that were
deleted (`LegacyAttachment.SaysDeleted`) or that were not received in full
(`LegacyAttachment.OnItsWay`). Such an element is passed over: it is counted as skipped, and nothing
is warned of, made or handed out.

This is decided last, behind everything else that is due of an element. An element that is to be
passed over but has no payload that can be read is rejected all the same, with its warning
(`Reader.pull_transient`); the payload of a file that was never received in full is what it is most
likely to miss (`Reader.pull_without_data`).
-/

namespace ExportStream

namespace LegacyAttachment

/-! ### Files that were deleted or are on their way -/

/-- The metadata says that the file was deleted: as a truth value, or as a text in any case. -/
def SaysDeleted (m : Fields) : Prop :=
  Fields.find? "Raven-Delete-Marker" m = some (.bool true) ∨
    ∃ s, Fields.find? "Raven-Delete-Marker" m = some (.string s) ∧ Text.lower s = "true"

/-- The key is that of a file that is on its way. -/
def OnItsWay (key : String) : Prop :=
  ".deleting".toList <:+ key.toList ∨ ".downloading".toList <:+ key.toList

/-- The element states this payload. -/
def Carries (fields : Fields) (payload : List UInt8) : Prop :=
  ∃ data, Fields.find? "Data" fields = some (.string data) ∧
    Digest.Base64.decode (Text.Utf8.bytesOf data) = .ok payload

theorem Parsed.isDeleted_iff (p : Parsed) : p.isDeleted = true ↔ SaysDeleted p.metadata := by
  unfold isDeleted SaysDeleted
  cases Fields.find? "Raven-Delete-Marker" p.metadata with
  | none => simp
  | some v => cases v <;> simp [Text.sameIgnoringCase, show Text.lower "true" = "true" by decide]

theorem Parsed.isTransient_iff (p : Parsed) :
    p.isTransient = true ↔ SaysDeleted p.metadata ∨ OnItsWay p.key := by
  rw [isTransient, Bool.or_eq_true, isDeleted_iff]
  simp [transientEnds, OnItsWay]

/-! ### What is read of an element -/

variable {fields m : Fields} {key : String} {payload : List UInt8} {f : RecordFault}

theorem payloadOf_eq_ok : payloadOf fields = .ok payload ↔ Carries fields payload := by
  unfold payloadOf Carries
  rw [RecordFault.bind_eq_ok]
  constructor
  · rintro ⟨data, hdata, hdecode⟩
    refine ⟨data, Fields.dueText_eq_ok.mp hdata, ?_⟩
    cases h : Digest.Base64.decode (Text.Utf8.bytesOf data) with
    | ok bytes =>
      rw [h] at hdecode
      cases hdecode
      rfl
    | error f =>
      rw [h] at hdecode
      cases hdecode
  · rintro ⟨data, hdata, hdecode⟩
    refine ⟨data, Fields.dueText_eq_ok.mpr hdata, ?_⟩
    rw [hdecode]
    rfl

/-- A payload that cannot be read is what the fault is about. -/
theorem blamed_of_payloadOf (h : payloadOf fields = .error f) :
    f = .missing "Data" ∨ ∃ reason, f = .invalid "Data" reason := by
  unfold payloadOf Fields.dueText at h
  cases hdata : Fields.find? "Data" fields with
  | none =>
    rw [hdata] at h
    cases h
    exact .inl rfl
  | some v =>
    rw [hdata] at h
    cases v with
    | null =>
      cases h
      exact .inl rfl
    | string data =>
      simp only [bind, Except.bind] at h
      split at h <;> cases h
      exact .inr ⟨_, rfl⟩
    | _ =>
      cases h
      exact .inr ⟨_, rfl⟩

/-- Of an element with a key and metadata the payload is read last. -/
theorem parse_eq (hkey : Fields.find? "Key" fields = some (.string key))
    (hmeta : Fields.find? "Metadata" fields = some (.object m)) :
    parse (.object fields) = (payloadOf fields).map fun payload =>
      { key, metadata := m, payload, etag := Fields.text? fields "Etag" } := by
  unfold parse Json.element
  simp only [Fields.dueText_eq_ok.mpr hkey, Fields.dueObject_eq_ok.mpr hmeta, bind, Except.bind]
  cases payloadOf fields <;> rfl

end LegacyAttachment

/-! ### The tally -/

/-- From `t` to `t'` one element of a kind was passed over, and nothing else was added up; the
version of an attachment may have been kept. -/
structure Tally.Skips (k : Kind) (etag : Option String) (t t' : Tally) : Prop where
  /-- One more element of the kind is passed over. -/
  skipped_eq : (t'.get k).skipped = (t.get k).skipped + 1
  /-- No element of the kind is rejected. -/
  errored_eq : (t'.get k).errored = (t.get k).errored
  /-- No record of the kind is read. -/
  read_eq : (t'.get k).read = (t.get k).read
  /-- The other kinds. -/
  others : ∀ l, l ≠ k → t'.get l = t.get l
  /-- The attachments. -/
  attachments_eq : t'.attachments = t.attachments
  /-- The warnings. -/
  warnings_eq : t'.warnings = t.warnings
  /-- The last version of a document. -/
  documentEtag_eq : t'.lastDocumentEtag = t.lastDocumentEtag
  /-- The last version of an attachment. -/
  attachmentEtag_eq : t'.lastAttachmentEtag = etag.or t.lastAttachmentEtag
  /-- The build. -/
  build_eq : t'.build = t.build
  /-- The generation. -/
  generation_eq : t'.generation = t.generation

theorem Session.skips_countSkipped (s : Session) (k : Kind) (etag : Option String) :
    s.tally.Skips k etag ((s.keepAttachmentEtag etag).countSkipped k 1).tally := by
  have hget : ∀ l, (s.keepAttachmentEtag etag).tally.get l = s.tally.get l := by
    intro l
    cases etag <;> cases l <;> rfl
  have hcounts : ((s.keepAttachmentEtag etag).countSkipped k 1).tally.get k =
      (s.tally.get k).addSkipped 1 := by
    rw [← hget k]
    exact Tally.get_modify_self _ k _
  refine ⟨by rw [hcounts]; rfl, by rw [hcounts]; rfl, by rw [hcounts]; rfl, ?_, ?_, ?_, ?_, ?_, ?_,
    ?_⟩
  · intro l hl
    rw [← hget l]
    exact Tally.get_modify_of_ne hl _ _
  all_goals cases etag <;> cases k <;> rfl

/-! ### Elements of files that are passed over -/

namespace Reader

/-- A reader takes the element off at `s` and goes on at `u`, with what it had: nothing is handed
out and no sink is made, and of the session only what is added up changes. -/
structure GoesOn (g : Staging) (form k : Kind) (s t u : Session) : Prop where
  /-- The reader goes on with the same sinks. -/
  pull_eq : pull g form k s = pull g form k u
  /-- The session stands where the element was taken off. -/
  session_eq : ({ u with tally := t.tally, cursor := t.cursor } : Session) = t
  /-- Nothing more is read. -/
  cursor_eq : u.cursor = { t.cursor with journal := u.cursor.journal }

open LegacyAttachment in
/-- A file that is passed over is skipped, and its version kept if that is asked for. -/
theorem decodeLegacyAttachment_transient (g : Staging) {v : Json} {p : Parsed}
    (hparse : parse v = .ok p) (htransient : p.isTransient = true) (s : Session) :
    g.decode .legacyAttachments .legacyAttachments v s =
      (.ok .skipped, g,
        s.keepAttachmentEtag (if s.options.readLegacyEtag then p.etag else none)) := by
  unfold Staging.decode Staging.decodeLegacyAttachment
  simp only [hparse, htransient, if_true]
  split_ifs <;> rfl

theorem decodeLegacyAttachment_error (g : Staging) {v : Json} {f : RecordFault}
    (hparse : LegacyAttachment.parse v = .error f) (s : Session) :
    g.decode .legacyAttachments .legacyAttachments v s = (.ok (.rejected f v), g, s) := by
  unfold Staging.decode Staging.decodeLegacyAttachment
  simp only [hparse]

open LegacyAttachment in
/-- **Files that are passed over.** An element of a file that was deleted, or is on its way, is
passed over silently if its payload can be read; if it has none that can be read it is rejected, for
the payload. -/
theorem pull_transient {fields m : Fields} {key : String} {g : Staging} {s t : Session}
    (hkey : Fields.find? "Key" fields = some (.string key))
    (hmeta : Fields.find? "Metadata" fields = some (.object m))
    (htransient : SaysDeleted m ∨ OnItsWay key)
    (hn : s.nextElement = (.ok (some (.object fields)), t)) :
    ((∃ payload, Carries fields payload) → ∃ u,
      GoesOn g .legacyAttachments .legacyAttachments s t u ∧ u.cursor = t.cursor ∧
      s.tally.Skips .legacyAttachments
        (if s.options.readLegacyEtag then Fields.text? fields "Etag" else none) u.tally) ∧
    ((¬∃ payload, Carries fields payload) → ∃ u f,
      GoesOn g .legacyAttachments .legacyAttachments s t u ∧
      (f = .missing "Data" ∨ ∃ reason, f = .invalid "Data" reason) ∧
      s.tally.Rejects .legacyAttachments
        [Session.rejectionWarning .legacyAttachments f
          ((Json.object fields).snapshot s.options.maxWarningSnapshot)] u.tally) := by
  obtain ⟨c, a, rfl⟩ :
      ∃ c a, t = { s with cursor := c, assembler := a, array := .isOpen } :=
    ⟨_, _, Session.frame_nextElement hn⟩
  constructor
  · rintro ⟨payload, hpayload⟩
    have hparse := parse_eq hkey hmeta
    rw [payloadOf_eq_ok.mpr hpayload, Except.map] at hparse
    have hdecode := decodeLegacyAttachment_transient g hparse
      ((Parsed.isTransient_iff _).mpr htransient)
      { s with cursor := c, assembler := a, array := .isOpen }
    have hskips := Session.skips_countSkipped
      { s with cursor := c, assembler := a, array := .isOpen } .legacyAttachments
      (if s.options.readLegacyEtag then Fields.text? fields "Etag" else none)
    refine ⟨_, ⟨pull_of_decode hn hdecode, ?_, ?_⟩, ?_, hskips⟩
    -- whatever version is kept, nothing else of the session changes
    all_goals cases (if s.options.readLegacyEtag then Fields.text? fields "Etag" else none) <;> rfl
  · intro hnone
    cases hpayload : payloadOf fields with
    | ok payload => exact absurd ⟨payload, payloadOf_eq_ok.mp hpayload⟩ hnone
    | error f =>
      have hparse := parse_eq hkey hmeta
      rw [hpayload, Except.map] at hparse
      exact ⟨_, f, ⟨pull_of_decode hn (decodeLegacyAttachment_error g hparse _), rfl, rfl⟩,
        blamed_of_payloadOf hpayload, Tally.rejects _ _ _⟩

open LegacyAttachment in
/-- The file `a.DELETING` with the metadata `{"Raven-Delete-Marker":"TRUE"}` and no bytes, whose
version is kept. -/
theorem pull_deleted_empty :
    let s : Session :=
      { Session.start
          { rest := Text.Utf8.bytesOf ("\x7b\"Key\":\"a.DELETING\",\"Etag\":\"7\",\"Data\":\"\"," ++
              "\"Metadata\":\x7b\"Raven-Delete-Marker\":\"TRUE\"\x7d\x7d]") }
          { readLegacyEtag := true } {} with
        current := some .legacyAttachments, array := .isOpen }
    ∃ t u, GoesOn { sinks := .memory } .legacyAttachments .legacyAttachments s t u ∧
      s.tally.Skips .legacyAttachments (some "7") u.tally := by
  intro s
  have hfirst : s.nextElement.1.toOption = some (some (.object
      [("Data", .string ""), ("Etag", .string "7"), ("Key", .string "a.DELETING"),
        ("Metadata", .object [("Raven-Delete-Marker", .string "TRUE")])])) := by decide +kernel
  rcases hn : s.nextElement with ⟨f | w, t⟩
  · rw [hn] at hfirst
    cases hfirst
  · rw [hn] at hfirst
    cases hfirst
    have hdeleted : SaysDeleted [("Raven-Delete-Marker", .string "TRUE")] :=
      .inr ⟨"TRUE", rfl, by decide⟩
    have hkey : Fields.find? "Key" [("Data", Json.string ""), ("Etag", .string "7"),
        ("Key", .string "a.DELETING"),
        ("Metadata", .object [("Raven-Delete-Marker", .string "TRUE")])] =
        some (.string "a.DELETING") := rfl
    obtain ⟨u, hu, -, hskips⟩ :=
      (pull_transient (g := { sinks := .memory }) hkey rfl (.inl hdeleted) hn).1 ⟨[], "", rfl, rfl⟩
    exact ⟨t, u, hu, hskips⟩

open LegacyAttachment in
/-- The element `{"Key":"a.downloading","Metadata":{}}` is of a file that is on its way, and is
rejected with a warning. -/
theorem pull_without_data :
    let s : Session :=
      { Session.start
          { rest := Text.Utf8.bytesOf
              "\x7b\"Key\":\"a.downloading\",\"Metadata\":\x7b\x7d\x7d]" } {} {} with
        current := some .legacyAttachments, array := .isOpen }
    let tally := (pull { sinks := .memory } .legacyAttachments .legacyAttachments s).2.2.tally
    OnItsWay "a.downloading" ∧
      tally.legacyAttachments = { errored := 1 } ∧
      tally.warnings = #["Could not read LegacyAttachments item: missing required field 'Data'. " ++
        "Data: \x7b\"Key\":\"a.downloading\",\"Metadata\":\x7b\x7d\x7d"] := by
  intro s tally
  refine ⟨.inr ⟨['a'], by decide⟩, ?_, ?_⟩
  · decide +kernel
  · decide +kernel

end Reader

end ExportStream
