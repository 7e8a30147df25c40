import ExportStream.Proofs.Alignment
import ExportStream.Proofs.InPlace
import ExportStream.Proofs.Workings
/-!
# What a rejection changes

An element that cannot be read is rejected: it is counted, and a warning shows it. Nothing else may
come of it, whichever reader rejects it and whatever the element is, although readers keep versions,
count attachments and make sinks on their way.

An element is rejected in three ways only (`Staging.Refusal`): most readers look at it and leave
everything alone; a document takes with it the attachments that waited for it; and a marker that
names no hash or tag takes its payload off the stream. **`Reader.rejection`** derives from this what
the tally, the staging, the session and the stream are behind a rejection, and with what the reader
goes on.
-/

namespace ExportStream

/-! ### The tally -/

/-- From `t` to `t'` one element of a kind was rejected, with these warnings, and nothing else was
added up. -/
structure Tally.Rejects (k : Kind) (warnings : List String) (t t' : Tally) : Prop where
  /-- One more element of the kind is rejected. -/
  errored_eq : (t'.get k).errored = (t.get k).errored + 1
  /-- No record of the kind is read. -/
  read_eq : (t'.get k).read = (t.get k).read
  /-- No element of the kind is passed over. -/
  skipped_eq : (t'.get k).skipped = (t.get k).skipped
  /-- The other kinds. -/
  others : ∀ l, l ≠ k → t'.get l = t.get l
  /-- The attachments. -/
  attachments_eq : t'.attachments = t.attachments
  /-- The last version of a document. -/
  documentEtag_eq : t'.lastDocumentEtag = t.lastDocumentEtag
  /-- The last version of an attachment. -/
  attachmentEtag_eq : t'.lastAttachmentEtag = t.lastAttachmentEtag
  /-- The build. -/
  build_eq : t'.build = t.build
  /-- The generation. -/
  generation_eq : t'.generation = t.generation
  /-- The warnings come last. -/
  warnings_eq : t'.warnings.toList = t.warnings.toList ++ warnings

theorem Tally.rejects (t : Tally) (k : Kind) (message : String) :
    t.Rejects k [message] ((t.modify k .addErrored).warn message) := by
  have hcounts : ((t.modify k .addErrored).warn message).get k = (t.get k).addErrored :=
    get_modify_self t k _
  refine ⟨by rw [hcounts]; rfl, by rw [hcounts]; rfl, by rw [hcounts]; rfl,
    fun l hl => get_modify_of_ne hl t _, ?_, ?_, ?_, ?_, ?_, ?_⟩
  all_goals cases k <;> simp [warn, modify]

/-- A warning that came before is one more. -/
theorem Tally.Rejects.behind {k : Kind} {warnings : List String} {t t' : Tally} {message : String}
    (h : (t.warn message).Rejects k warnings t') : t.Rejects k (message :: warnings) t' where
  errored_eq := h.errored_eq
  read_eq := h.read_eq
  skipped_eq := h.skipped_eq
  others := h.others
  attachments_eq := h.attachments_eq
  documentEtag_eq := h.documentEtag_eq
  attachmentEtag_eq := h.attachmentEtag_eq
  build_eq := h.build_eq
  generation_eq := h.generation_eq
  warnings_eq := by
    rw [h.warnings_eq]
    simp [warn]

/-! ### Elements that are refused -/

namespace Staging

/-- How an element is rejected: the fault, the value for the warning, and what is left. -/
inductive Refusal (g : Staging) (form k : Kind) (v : Json) (s : Session) :
    RecordFault → Json → Staging → Session → Prop where
  /-- It is looked at, by a reader that takes no attachments from the stream. -/
  | plain (f : RecordFault) (form_eq : form.carriesAttachments = false)
      (conflict : form = .conflicts → Conflict.parse v = .error f) :
      Refusal g form k v s f v g s
  /-- It is no document, and what waited for it is dropped. -/
  | document (f : RecordFault) (form_eq : form.carriesAttachments = true)
      (not_marker : v.isMarker = false)
      (parsed : Document.parse s.generation.isLegacy s.options.readLegacyEtag v = .error f) :
      Refusal g form k v s f v (g.drop k "their host document was rejected" s).1
        (g.drop k "their host document was rejected" s).2
  /-- It announces a payload without a name, which is dropped. -/
  | marker (size : Nat) (s' : Session) (form_eq : form.carriesAttachments = true)
      (isMarker : v.isMarker = true) (size_eq : v.markerSize? = some size)
      (dropped : s.dropBytes size = (.ok (), s')) :
      Refusal g form k v s (.marker "marker has no Hash or Tag") v g s'

variable {g g' : Staging} {form k : Kind} {v shown : Json} {s s' : Session} {f : RecordFault}

theorem refusal_stage (hform : form.carriesAttachments = true) (hv : v.isMarker = true)
    (h : g.stage k v s = (.ok (.rejected f shown), g', s')) :
    g.Refusal form k v s f shown g' s' := by
  unfold stage at h
  cases hsize : v.markerSize? with
  | none =>
    rw [Session.payloadSize, hsize] at h
    cases h
  | some size =>
    rw [Session.payloadSize, hsize] at h
    simp only at h
    split at h
    · unfold stageNamed at h
      split at h
      · cases h
      · split at h
        · cases h
        · cases h
    · split at h
      · cases h
      · next hdrop =>
        cases h
        exact .marker size s' hform hv hsize hdrop

theorem refusal_decodeDocument (hform : form.carriesAttachments = true)
    (h : g.decodeDocument k v s = (.ok (.rejected f shown), g', s')) :
    g.Refusal form k v s f shown g' s' := by
  unfold decodeDocument at h
  split_ifs at h with hv
  · exact refusal_stage hform hv h
  · split at h
    · cases h
    · next hparse =>
      cases h
      exact .document f hform (eq_false_of_ne_true hv) hparse

theorem refusal_ofParsed {α : Type} {record : α → Record} {parsed : Except RecordFault α}
    (hform : form.carriesAttachments = false)
    (hconflict : ∀ f, parsed = .error f → form = .conflicts → Conflict.parse v = .error f)
    (h : (.ok (.ofParsed v record parsed), g, s) =
      ((.ok (.rejected f shown), g', s') : Except Failure Decoded × Staging × Session)) :
    g.Refusal form k v s f shown g' s' := by
  cases parsed with
  | ok a => cases h
  | error f =>
    cases h
    exact .plain f hform (hconflict f rfl)

theorem refusal_legacyAttachment
    (h : g.decodeLegacyAttachment v s = (.ok (.rejected f shown), g', s')) :
    g.Refusal .legacyAttachments k v s f shown g' s' := by
  unfold decodeLegacyAttachment at h
  split at h
  · cases h
    exact .plain f rfl (by simp)
  · -- whatever version was kept, nothing is rejected behind this point
    simp only at h
    generalize (if s.options.readLegacyEtag then _ else s) = t at h
    split at h
    · cases h
    · split at h
      · cases h
      · split at h <;> cases h

theorem refusal_deletion {idOf : String → String} {policy : DeletionPolicy}
    (hform : form.carriesAttachments = false) (hconflict : form ≠ .conflicts)
    (h : (.ok (decodeDeletion idOf policy v), g, s) =
      ((.ok (.rejected f shown), g', s') : Except Failure Decoded × Staging × Session)) :
    g.Refusal form k v s f shown g' s' := by
  unfold decodeDeletion at h
  split at h
  · cases h
  · cases policy with
    | ignore => cases h
    | countAsError =>
      cases h
      exact .plain _ hform (fun hf => absurd hf hconflict)

/-- Behind a drop nothing waits. -/
theorem staging_drop (g : Staging) (k : Kind) (reason : String) (s : Session) :
    (g.drop k reason s).1 = { g with staged := [] } := by
  unfold drop
  split_ifs with hempty
  · rw [← List.isEmpty_iff.mp hempty]
  · rfl

/-- What is dropped is warned of, if it is anything. -/
theorem session_drop (g : Staging) (k : Kind) (reason : String) (s : Session) :
    (g.drop k reason s).2 =
      if g.staged.isEmpty then s else s.warn k (dropWarning g.staged reason) := by
  unfold drop
  split_ifs <;> rfl

/-- **Every rejection is one of these**, whichever reader it comes from. -/
theorem refusal_decode (h : g.decode form k v s = (.ok (.rejected f shown), g', s')) :
    g.Refusal form k v s f shown g' s' := by
  cases form with
  | documents => exact refusal_decodeDocument rfl h
  | revisionDocuments => exact refusal_decodeDocument rfl h
  | tombstones => exact refusal_ofParsed rfl (by simp) h
  | conflicts => exact refusal_ofParsed rfl (fun _ hparse _ => hparse) h
  | indexes => exact refusal_ofParsed rfl (by simp) h
  | identities => exact refusal_ofParsed rfl (by simp) h
  | compareExchange => exact refusal_ofParsed rfl (by simp) h
  | legacyAttachments => exact refusal_legacyAttachment h
  | legacyDocumentDeletions => exact refusal_deletion rfl (by simp) h
  | legacyAttachmentDeletions => exact refusal_deletion rfl (by simp) h

end Staging

/-! ### What is left alone -/

namespace Session

variable {s t : Session}

theorem frame_readValue {u : Token} {r : Except Failure Json} (h : s.readValue u = (r, t)) :
    t = { s with cursor := t.cursor, assembler := t.assembler } := by
  have ht : t = (s.readValue u).2 := by rw [h]
  rw [ht]
  rfl

theorem frame_copyPayload {size : Nat} {sink sink' : Sink} {r : Except Failure String}
    (h : s.copyPayload size sink = (r, sink', t)) :
    t = { s with cursor := t.cursor, copier := t.copier } := by
  have ht : t = (s.copyPayload size sink).2.2 := by rw [h]
  rw [ht]
  rfl

theorem frame_readElement {v : Json} (h : s.readElement = (.ok (some v), t)) :
    t = { s with cursor := t.cursor, assembler := t.assembler } := by
  unfold readElement at h
  split at h
  · cases h
  · cases h
  · next hr =>
    split at h
    · cases h
    · next hv =>
      cases h
      have hvalue := frame_readValue hv
      rw [readToken_moves hr] at hvalue
      exact hvalue

/-- Taking an element off an array changes nothing but the cursor and the assembler, and opens the
array. -/
theorem frame_nextElement {v : Json} (h : s.nextElement = (.ok (some v), t)) :
    t = { s with cursor := t.cursor, assembler := t.assembler, array := .isOpen } := by
  unfold nextElement at h
  split at h
  · cases h
  · next hopen =>
    rw [← hopen]
    exact frame_readElement h
  · split at h
    · cases h
    · next ho =>
      have helement := frame_readElement h
      unfold openArray at ho
      split at ho
      · cases ho
      · next hr =>
        cases ho
        rw [readToken_moves hr] at helement
        exact helement
      · cases ho

/-- Dropping a payload changes nothing but the cursor and the copier. -/
theorem frame_dropBytes {size : Nat} (h : s.dropBytes size = (.ok (), t)) :
    t = { s with cursor := t.cursor, copier := t.copier } := by
  unfold dropBytes at h
  split at h
  · cases h
  · next hc =>
    cases h
    exact frame_copyPayload hc

end Session

/-! ### What is shown -/

namespace Json

/-- A value whose text is not too long is shown as a whole. -/
theorem snapshot_of_le {v : Json} {limit : Nat} (h : v.compact.toList.length ≤ limit) :
    v.snapshot limit = v.compact := by
  rw [snapshot, Text.clipped]
  exact if_neg (Nat.not_lt.mpr h)

/-- Of a longer one the front is shown, and that it is cut. -/
theorem toList_snapshot_of_lt {v : Json} {limit : Nat} (h : limit < v.compact.toList.length) :
    (v.snapshot limit).toList = v.compact.toList.take limit ++ "...".toList := by
  rw [snapshot, Text.clipped]
  simp only [if_pos h]
  simp

end Json

/-! ### What a refusal changes -/

/-- The attachments that are lost with an element that is rejected: those that wait for a document,
unless the element is a marker. -/
def Staging.lostWith (g : Staging) (form : Kind) (v : Json) : List Attachment :=
  if form.carriesAttachments && !v.isMarker then g.staged else []

/-- The warnings about an element that is rejected. -/
def Session.rejectionWarnings (k : Kind) (lost : List Attachment) (f : RecordFault) (v : Json)
    (limit : Nat) : List String :=
  (if lost.isEmpty then [] else [Staging.dropWarning lost "their host document was rejected"]) ++
    [rejectionWarning k f (v.snapshot limit)]

namespace Staging.Refusal

variable {g g' : Staging} {form k : Kind} {v shown : Json} {s s' : Session} {f : RecordFault}

/-- The warning shows the element. -/
theorem shown_eq (h : g.Refusal form k v s f shown g' s') : shown = v := by
  cases h <;> rfl

theorem document_left (h : g.Refusal form k v s f shown g' s')
    (hform : form.carriesAttachments = true) (hv : v.isMarker = false) :
    (Document.readInPlace s.generation.isLegacy s.options.readLegacyEtag).runOn v =
      (.error f, v) := by
  cases h with
  | plain _ form_eq =>
    rw [form_eq] at hform
    cases hform
  | document _ _ _ parsed => exact (Document.readInPlace_follows ..).rejected parsed
  | marker _ _ _ isMarker =>
    rw [isMarker] at hv
    cases hv

theorem conflict_left (h : g.Refusal form k v s f shown g' s') (hform : form = .conflicts) :
    Conflict.readInPlace.runOn v = (.error f, v) := by
  cases h with
  | plain _ _ conflict => exact (Conflict.readInPlace_follows v).rejected (conflict hform)
  | document _ form_eq =>
    rw [hform] at form_eq
    cases form_eq
  | marker _ _ form_eq =>
    rw [hform] at form_eq
    cases form_eq

/-- When the element is counted, this and the warnings are all that is added up. -/
theorem rejects (h : g.Refusal form k v s f shown g' s') :
    s.tally.Rejects k
      (Session.rejectionWarnings k (g.lostWith form v) f v s.options.maxWarningSnapshot)
      (s'.reject k f v).tally := by
  cases h with
  | plain _ form_eq =>
    rw [lostWith, form_eq]
    exact Tally.rejects ..
  | document _ form_eq not_marker =>
    have hlost : g.lostWith form v = g.staged := by
      rw [lostWith, form_eq, not_marker]
      rfl
    rw [hlost, session_drop, Session.rejectionWarnings]
    split_ifs
    · exact Tally.rejects ..
    · exact (Tally.rejects ..).behind
  | marker size _ _ isMarker _ dropped =>
    rw [lostWith, isMarker, Bool.not_true, Bool.and_false, Session.frame_dropBytes dropped]
    exact Tally.rejects ..

theorem sinks_eq (h : g.Refusal form k v s f shown g' s') : g'.sinks = g.sinks := by
  cases h with
  | plain => rfl
  | document => rw [staging_drop]
  | marker => rfl

theorem staged_eq (h : g.Refusal form k v s f shown g' s') :
    g'.staged = if form.carriesAttachments && !v.isMarker then [] else g.staged := by
  cases h with
  | plain _ form_eq =>
    rw [form_eq]
    rfl
  | document _ form_eq not_marker =>
    rw [form_eq, not_marker, staging_drop]
    rfl
  | marker _ _ _ isMarker =>
    rw [isMarker, Bool.not_true, Bool.and_false]
    rfl

/-- Of the session only what is read off the stream changes, and what is added up. -/
theorem session_eq (h : g.Refusal form k v s f shown g' s') :
    s' = { s with cursor := s'.cursor, copier := s'.copier, tally := s'.tally } := by
  cases h with
  | plain => rfl
  | document =>
    rw [session_drop]
    split_ifs <;> rfl
  | marker _ _ _ _ _ dropped =>
    rw [Session.frame_dropBytes dropped]

/-- Nothing is read but the payload behind a marker. -/
theorem cursor_eq (h : g.Refusal form k v s f shown g' s')
    (hplain : (form.carriesAttachments && v.isMarker) = false) :
    s'.cursor = { s.cursor with journal := s'.cursor.journal } ∧ s'.copier = s.copier := by
  cases h with
  | plain => exact ⟨rfl, rfl⟩
  | document =>
    rw [session_drop]
    split_ifs <;> exact ⟨rfl, rfl⟩
  | marker _ _ form_eq isMarker =>
    rw [form_eq, isMarker] at hplain
    cases hplain

theorem payload (h : g.Refusal form k v s f shown g' s')
    (hmarker : (form.carriesAttachments && v.isMarker) = true) :
    ∃ size, v.markerSize? = some size ∧
      (s.cursor.Sound → 0 < s.copier.bufferSize → s.cursor.Ahead size s'.cursor) := by
  cases h with
  | plain _ form_eq =>
    rw [form_eq] at hmarker
    cases hmarker
  | document _ _ not_marker =>
    rw [not_marker, Bool.and_false] at hmarker
    cases hmarker
  | marker size _ _ _ size_eq dropped =>
    refine ⟨size, size_eq, fun hc hb => ?_⟩
    cases Session.dropBytes_end hc hb dropped with
    | taken _ ahead => exact ahead

end Staging.Refusal

/-! ### Rejections -/

namespace Reader

/-- What comes of rejecting the element `v` that a reader took off at `s`: the session was `t` when
it was taken off, and is `s'` when it is counted. -/
structure Rejection (g : Staging) (form k : Kind) (v : Json) (f : RecordFault) (s t : Session)
    (g' : Staging) (s' : Session) : Prop where
  /-- A program that reads a document in place leaves the element as it was. -/
  document_left : form.carriesAttachments = true → v.isMarker = false →
    (Document.readInPlace t.generation.isLegacy t.options.readLegacyEtag).runOn v = (.error f, v)
  /-- So does one that reads a conflict. -/
  conflict_left : form = .conflicts → Conflict.readInPlace.runOn v = (.error f, v)
  /-- One element is counted, with its warnings, and nothing else is. -/
  tally : s.tally.Rejects k
    (Session.rejectionWarnings k (g.lostWith form v) f v s.options.maxWarningSnapshot) s'.tally
  /-- The warning shows the text of the element, -/
  shown_whole : v.compact.toList.length ≤ s.options.maxWarningSnapshot →
    v.snapshot s.options.maxWarningSnapshot = v.compact
  /-- or the front of a text that is longer than the options want it. -/
  shown_cut : s.options.maxWarningSnapshot < v.compact.toList.length →
    (v.snapshot s.options.maxWarningSnapshot).toList =
      v.compact.toList.take s.options.maxWarningSnapshot ++ "...".toList
  /-- No sink is made. -/
  sinks_eq : g'.sinks = g.sinks
  /-- What was not lost waits on. -/
  staged_eq : g'.staged = if form.carriesAttachments && !v.isMarker then [] else g.staged
  /-- The session stands at the same place of the export. -/
  session_eq : s' = { s with
    cursor := s'.cursor, assembler := t.assembler, copier := s'.copier, tally := s'.tally,
    array := .isOpen }
  /-- The stream is left behind the element. -/
  cursor_eq : (form.carriesAttachments && v.isMarker) = false →
    s'.cursor = { t.cursor with journal := s'.cursor.journal } ∧ s'.copier = t.copier
  /-- Behind a marker it is left behind the payload. -/
  payload : (form.carriesAttachments && v.isMarker) = true → ∃ size, v.markerSize? = some size ∧
    (t.cursor.Sound → 0 < t.copier.bufferSize → t.cursor.Ahead size s'.cursor)
  /-- The reader goes on with the next element. -/
  pull_eq : pull g form k s = pull g' form k s'

/-- **Rejections.** Whatever element a reader takes off, of whatever kind: if it is rejected, the
warning shows it as it came, and this is all that comes of it. -/
theorem rejection {g g' : Staging} {form k : Kind} {v shown : Json} {f : RecordFault}
    {s t u : Session} (hn : s.nextElement = (.ok (some v), t))
    (hd : g.decode form k v t = (.ok (.rejected f shown), g', u)) :
    shown = v ∧ Rejection g form k v f s t g' (u.reject k f v) := by
  have hpull : pull g form k s = pull g' form k (u.reject k f shown) := pull_of_decode hn hd
  have hrefusal := Staging.refusal_decode hd
  have hshown := hrefusal.shown_eq
  have hsession := hrefusal.session_eq
  obtain ⟨c, a, rfl⟩ :
      ∃ c a, t = { s with cursor := c, assembler := a, array := .isOpen } :=
    ⟨_, _, Session.frame_nextElement hn⟩
  rw [hshown] at hpull
  refine ⟨hshown, ?_⟩
  exact
    { document_left := hrefusal.document_left
      conflict_left := hrefusal.conflict_left
      tally := hrefusal.rejects
      shown_whole := Json.snapshot_of_le
      shown_cut := Json.toList_snapshot_of_lt
      sinks_eq := hrefusal.sinks_eq
      staged_eq := hrefusal.staged_eq
      session_eq := by
        rw [hsession]
        rfl
      cursor_eq := by
        intro hplain
        obtain ⟨hcursor, hcopier⟩ := hrefusal.cursor_eq hplain
        refine ⟨?_, hcopier⟩
        change u.cursor.note _ = _
        rw [hcursor]
        rfl
      payload := by
        intro hmarker
        obtain ⟨size, hsize, hend⟩ := hrefusal.payload hmarker
        refine ⟨size, hsize, fun hc hb => ?_⟩
        have hahead := hend hc hb
        exact ⟨hahead.sound.note _, hahead.le_length, hahead.remaining_eq, hahead.position_eq⟩
      pull_eq := hpull }

/-- The document `{"@metadata":{}}`, for which an attachment waits, and a warning that shows eight
characters of it. -/
theorem rejection_of_host :
    let s : Session :=
      { Session.start { rest := [123, 34, 64, 109, 101, 116, 97, 100, 97, 116, 97, 34, 58, 123, 125,
          125, 93] } { maxWarningSnapshot := 8 } {} with
        current := some .documents, array := .isOpen }
    let v : Json := .object [("@metadata", .object [])]
    let a : Attachment :=
      { hash := "h", computed := "h", tag := "t", size := 0, marker := .null, sink := .memory }
    let g : Staging := { sinks := .memory, staged := [a] }
    ∃ t g' u, s.nextElement = (.ok (some v), t) ∧
      g.decode .documents .documents v t = (.ok (.rejected (.missing "@id") v), g', u) ∧
      Rejection g .documents .documents v (.missing "@id") s t g' (u.reject .documents
        (.missing "@id") v) ∧
      (u.reject .documents (.missing "@id") v).tally.warnings.toList =
        ["1 attachment stream(s) dropped, their host document was rejected: t",
          "Could not read Documents item: missing required field '@id'. " ++
            "Data: \x7b\"@metad..."] := by
  intro s v a g
  have hfirst : s.nextElement.1.toOption = some (some v) := by decide +kernel
  rcases hn : s.nextElement with ⟨f | w, t⟩
  · rw [hn] at hfirst
    cases hfirst
  · rw [hn] at hfirst
    cases hfirst
    have hdecode : g.decode .documents .documents v t =
        (.ok (.rejected (.missing "@id") v), _, _) := rfl
    obtain ⟨-, hrejection⟩ := rejection hn hdecode
    refine ⟨t, _, _, rfl, hdecode, hrejection, ?_⟩
    exact hrejection.tally.warnings_eq.trans (by decide +kernel)

end Reader

end ExportStream
