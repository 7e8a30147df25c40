import ExportStream.Proofs.Standing
/-!
# Arrays that are laid out

A session before an element that fits takes it off the stream, with the payload behind it, and
decodes it as the record that it is (`Session.Awaits.element`). A reader therefore hands the records
of a whole array to a handler, and the session stands behind the bracket that closes the array
(`Import.deliver_array`).
-/

namespace ExportStream

/-! ### Decoding elements -/

/-- The record that became of an element, if one did. -/
def Decoded.record? : Decoded → Option Record
  | .record r => some r
  | _ => none

theorem Decoded.record?_ofParsed {α : Type} (v : Json) (record : α → Record)
    (parsed : Except RecordFault α) :
    (ofParsed v record parsed).record? = parsed.toOption.map record := by
  cases parsed <;> rfl

namespace Staging

/-- Payloads go to memory, and these attachments wait. -/
structure Keeps (g : Staging) (staged : List Attachment) : Prop where
  /-- Every sink keeps all bytes. -/
  make_eq : g.sinks.make = Sinks.memory.make
  /-- What waits. -/
  staged_eq : g.staged = staged

variable {g : Staging} {staged : List Attachment} {s : Session} {p : Session.Stage}
  {bytes rest : List UInt8}

theorem Keeps.create (h : g.Keeps staged) (tag : String) :
    g.sinks.create tag = (.ok Sink.memory, { g.sinks with asked := g.sinks.asked + 1 }) := by
  have hmake : g.sinks.make g.sinks.asked tag = .ok Sink.memory := by
    rw [h.make_eq]
    rfl
  rw [Sinks.create, hmake]

theorem Keeps.drop (h : g.Keeps staged) (k : Kind) (reason : String) (s : Session) :
    (g.drop k reason s).1.Keeps [] := by
  unfold Staging.drop
  split_ifs with hempty
  · exact ⟨h.make_eq, List.isEmpty_iff.mp hempty⟩
  · exact ⟨h.make_eq, rfl⟩

theorem stands_drop (h : s.Stands p bytes) (g : Staging) (k : Kind) (reason : String) :
    (g.drop k reason s).2.Stands p bytes := by
  unfold drop
  split_ifs
  · exact h
  · exact h.warn _ _

theorem record?_decodeDeletion (idOf : String → String) (policy : DeletionPolicy) (v : Json) :
    (decodeDeletion idOf policy v).record? =
      (deletedKey? v).map fun key => .deletion (idOf key) := by
  unfold decodeDeletion
  cases deletedKey? v with
  | some key => rfl
  | none => cases policy <;> rfl

theorem store_memory (payload : List UInt8) :
    store Sink.memory payload = .ok (Sink.memory.take payload) := by
  rw [store, Sink.willing_memory.write_eq]
  simp only [(Sink.willing_memory.take payload).flush_eq]

theorem decode_document (h : s.Stands p bytes) (hg : g.Keeps staged) (k : Kind) {v : Json}
    (hv : v.isMarker = false) :
    ∃ d g' s', g.decodeDocument k v s = (.ok d, g', s') ∧ g'.Keeps [] ∧ s'.Stands p bytes ∧
      d.record? = (Document.parse p.generation.isLegacy p.options.readLegacyEtag v).toOption.map
        fun x => .document { x.document with attachments := staged } := by
  have hgeneration : s.generation = p.generation := congrArg Session.Stage.generation h.stage_eq
  have hoptions : s.options = p.options := congrArg Session.Stage.options h.stage_eq
  rw [← hgeneration, ← hoptions]
  unfold decodeDocument
  rw [hv, if_neg Bool.false_ne_true]
  cases hparse : Document.parse s.generation.isLegacy s.options.readLegacyEtag v with
  | ok x =>
    refine ⟨_, _, _, rfl, ⟨hg.make_eq, rfl⟩, ?_, ?_⟩
    · unfold Session.keepDocumentEtag
      split
      · exact h.tally _
      · exact h
    · rw [hg.staged_eq]
      rfl
  | error f =>
    exact ⟨_, _, _, rfl, hg.drop _ _ _, stands_drop h _ _ _, rfl⟩

theorem decode_legacyAttachment (h : s.Stands p bytes) (hg : g.Keeps staged) (v : Json) :
    ∃ d g' s', g.decodeLegacyAttachment v s = (.ok d, g', s') ∧ g'.Keeps staged ∧
      s'.Stands p bytes ∧
      d.record? = (LegacyAttachment.parse v).toOption.bind
        fun x => x.kept?.map .legacyAttachment := by
  unfold decodeLegacyAttachment
  cases LegacyAttachment.parse v with
  | error f => exact ⟨_, _, _, rfl, hg, h, rfl⟩
  | ok x =>
    have hkept : (if s.options.readLegacyEtag then s.keepAttachmentEtag x.etag else s).Stands p
        bytes := by
      unfold Session.keepAttachmentEtag
      split_ifs
      · split
        · exact h.tally _
        · exact h
      · exact h
    simp only [hg.create, store_memory]
    generalize (if s.options.readLegacyEtag then s.keepAttachmentEtag x.etag else s) = t at hkept ⊢
    by_cases htransient : x.isTransient = true
    · refine ⟨_, _, _, if_pos htransient, hg, hkept, ?_⟩
      simp [Except.toOption, LegacyAttachment.Parsed.kept?, htransient, Decoded.record?]
    · refine ⟨_, _, _, if_neg htransient, ⟨hg.make_eq, hg.staged_eq⟩, hkept, ?_⟩
      simp [Except.toOption, LegacyAttachment.Parsed.kept?, htransient, Decoded.record?]

/-- **A value is decoded as the record that it is**, and takes the attachments that wait. -/
theorem decode_plain (h : s.Stands p bytes) (hg : g.Keeps staged) {k : Kind} {v : Json}
    (hv : k.carriesAttachments = true → v.isMarker = false)
    (hstaged : k.carriesAttachments = false → staged = []) :
    ∃ d g' s', g.decode k k v s = (.ok d, g', s') ∧ g'.Keeps [] ∧ s'.Stands p bytes ∧
      d.record? = recordOf? p.options p.generation k staged v := by
  have hgeneration : s.generation = p.generation := congrArg Session.Stage.generation h.stage_eq
  have hrest (hk : k.carriesAttachments = false) (d : Decoded)
      (hd : d.record? = recordOf? p.options p.generation k staged v) :
      ∃ d' g' s', ((.ok d, g, s) : Except Failure Decoded × Staging × Session) = (.ok d', g', s') ∧
        g'.Keeps [] ∧ s'.Stands p bytes ∧
        d'.record? = recordOf? p.options p.generation k staged v :=
    ⟨d, g, s, rfl, hstaged hk ▸ hg, h, hd⟩
  cases k with
  | documents => exact decode_document h hg _ (hv rfl)
  | revisionDocuments => exact decode_document h hg _ (hv rfl)
  | tombstones => exact hrest rfl _ (Decoded.record?_ofParsed ..)
  | conflicts => exact hrest rfl _ (Decoded.record?_ofParsed ..)
  | indexes =>
    refine hrest rfl _ ((Decoded.record?_ofParsed ..).trans ?_)
    rw [hgeneration]
    rfl
  | identities => exact hrest rfl _ (Decoded.record?_ofParsed ..)
  | compareExchange => exact hrest rfl _ (Decoded.record?_ofParsed ..)
  | legacyAttachments => exact decode_legacyAttachment h (hstaged rfl ▸ hg) v
  | legacyDocumentDeletions => exact hrest rfl _ (record?_decodeDeletion ..)
  | legacyAttachmentDeletions => exact hrest rfl _ (record?_decodeDeletion ..)

/-- **A marker takes the payload behind it off the stream**, and its attachment waits. -/
theorem decode_attachment {payload : List UInt8} (h : s.Stands p (payload ++ rest))
    (hg : g.Keeps staged) {k : Kind} {text : List UInt8} {marker : Json}
    (hfits : (Element.attachment text marker payload).Fits p.options k) :
    ∃ g' s', g.decode k k marker s = (.ok .deferred, g', s') ∧
      g'.Keeps (staged ++ (attachmentOf? marker payload).toList) ∧ s'.Stands p rest := by
  obtain ⟨hk, -, hmarker, hhash, htag, hsize⟩ := hfits
  obtain ⟨hash, hhash⟩ := Option.isSome_iff_exists.mp hhash
  obtain ⟨tag, htag⟩ := Option.isSome_iff_exists.mp htag
  obtain ⟨s', hcopy, hs'⟩ := h.copyPayload Sink.willing_memory
  have hdocument : g.decode k k marker s = g.decodeDocument k marker s := by
    cases k <;> first | rfl | cases hk
  rw [hdocument, decodeDocument, if_pos hmarker]
  simp only [stage, Session.payloadSize, hsize, hhash, htag, stageNamed, hg.create, hcopy]
  refine ⟨_, _, rfl, ⟨hg.make_eq, ?_⟩, ?_⟩
  · rw [hg.staged_eq]
    simp [attachmentOf?, hhash, htag]
  · unfold verify
    split_ifs
    · exact (hs'.warn _ _).tally _
    · exact hs'.tally _

end Staging

/-! ### Elements on the stream -/

theorem Json.ne_number_of_isMarker {v : Json} (h : v.isMarker = true) (n : Number) :
    v ≠ .number n := by
  rintro rfl
  cases h

/-- Attachments wait only in arrays in which they can stand. -/
theorem Element.Fits.waiting_eq_nil {o : Options} {k : Kind} {e : Element} (h : e.Fits o k)
    (hk : k.carriesAttachments = false) (staged : List Attachment) : e.waiting staged = [] := by
  cases e with
  | plain text v => rfl
  | attachment text marker payload =>
    have hcarries := h.1
    rw [hk] at hcarries
    cases hcarries

/-- **An element that fits** is taken off the stream with the payload behind it, and decoded as the
record that it is. -/
theorem Session.Awaits.element {s : Session} {p : Stage} {g : Staging} {staged : List Attachment}
    {lead rest : List UInt8} {k : Kind} {e : Element}
    (h : s.Awaits p (lead ++ (e.bytes ++ rest))) (hlead : lead.all Scanner.isSeparator = true)
    (hfits : e.Fits p.options k)
    (hrest : ∃ b more, rest = b :: more ∧ Scanner.isNumberByte b = false) (hg : g.Keeps staged)
    (hstaged : k.carriesAttachments = false → staged = []) :
    ∃ v s₁ d g' s₂ gap, s.nextElement = (.ok (some v), s₁) ∧
      g.decode k k v s₁ = (.ok d, g', s₂) ∧ g'.Keeps (e.waiting staged) ∧
      gap.all Scanner.isSeparator = true ∧
      s₂.Stands { p with array := .isOpen } (gap ++ rest) ∧
      d.record? = e.record? p.options p.generation k staged := by
  cases e with
  | plain text v =>
    obtain ⟨⟨gap, hgap, hread⟩, hv⟩ := hfits
    obtain ⟨t, front, hscan, hbuilds⟩ := hread.before hlead (.inr hrest)
    obtain ⟨s₁, hnext, hs₁⟩ := h.nextElement hscan hbuilds
    obtain ⟨d, g', s₂, hdecode, hg', hs₂, hrecord⟩ := Staging.decode_plain hs₁ hg hv hstaged
    exact ⟨v, s₁, d, g', s₂, gap, hnext, hdecode, hg', hgap, hs₂, hrecord⟩
  | attachment text marker payload =>
    have hnumber := Json.ne_number_of_isMarker hfits.2.2.1
    rw [Element.bytes, List.append_assoc] at h
    obtain ⟨t, front, hscan, hbuilds⟩ := hfits.2.1.before hlead (.inl hnumber)
    obtain ⟨s₁, hnext, hs₁⟩ := h.nextElement hscan hbuilds
    rw [List.nil_append] at hs₁
    obtain ⟨g', s₂, hdecode, hg', hs₂⟩ := Staging.decode_attachment hs₁ hg hfits
    exact ⟨marker, s₁, .deferred, g', s₂, [], hnext, hdecode, hg', rfl, hs₂, rfl⟩

/-! ### Readers of one kind -/

namespace Reader

/-- A reader of the kind at which its session stands. -/
def ofKind (k : Kind) (g : Staging) : Reader := { form := k, kind := some k, staging := g }

theorem sameForm_self (k : Kind) : k.sameForm k = true := by simp [Kind.sameForm]

theorem poll_of_decode {k : Kind} {g g' : Staging} {s s₁ s₂ : Session} {v : Json} {d : Decoded}
    (hn : s.nextElement = (.ok (some v), s₁)) (hd : g.decode k k v s₁ = (.ok d, g', s₂)) :
    (ofKind k g).poll s =
      match d with
      | .record r => (some (.ok r), ofKind k g', d.settle k s₂)
      | _ => (ofKind k g').poll (d.settle k s₂) := by
  have hpull := pull_of_decode hn hd
  unfold poll next ofKind
  simp only [Bool.false_eq_true, if_false, sameForm_self, if_true, hpull]
  cases d <;> rfl

theorem poll_of_bracket {k : Kind} {g : Staging} {s s' : Session}
    (hn : s.nextElement = (.ok none, s')) :
    (ofKind k g).poll s =
      (none, { ofKind k (g.finish k k s').1 with done := true }, (g.finish k k s').2) := by
  unfold poll next ofKind
  simp only [Bool.false_eq_true, if_false, sameForm_self, if_true]
  rw [pull_eq, hn]

end Reader

/-! ### Whole arrays -/

/-- The collection with more records. -/
def Collection.addAll (c : Collection) (rs : List (Kind × Record)) : Collection :=
  { c with records := c.records ++ rs.toArray }

theorem Collection.addAll_append (c : Collection) (rs ts : List (Kind × Record)) :
    c.addAll (rs ++ ts) = (c.addAll rs).addAll ts := by
  simp [addAll]

namespace Import

theorem deliver_of_decode {i : Import Collection} {k : Kind} {g g' : Staging} {s₁ s₂ : Session}
    {v : Json} {d : Decoded} (hn : i.session.nextElement = (.ok (some v), s₁))
    (hd : g.decode k k v s₁ = (.ok d, g', s₂)) :
    i.deliver Collection.handler k (.ofKind k g) =
      ({ i with
        session := d.settle k s₂
        state := i.state.addAll (d.record?.toList.map fun r => (k, r)) } : Import
          Collection).deliver Collection.handler k (.ofKind k g') := by
  have hpoll := Reader.poll_of_decode hn hd
  cases d with
  | record r =>
    have hkind : r.kindAs k = k := Staging.kindAs_decode (Reader.sameForm_self k) hd
    have hadd : i.state.add (.record k r) = i.state.addAll [(k, r)] := by
      simp [Collection.add, Collection.addAll, hkind]
    rw [deliver_eq, hpoll]
    simp only [Collection.handler, Handler.ofFold, hadd]
    rfl
  | _ =>
    have hnone : i.state.addAll [] = i.state := by simp [Collection.addAll]
    rw [deliver_eq, hpoll, deliver_eq]
    simp only [Decoded.record?, Option.toList_none, List.map_nil, hnone]

theorem deliver_of_bracket {i : Import Collection} {k : Kind} {g : Staging} {s' : Session}
    (hn : i.session.nextElement = (.ok none, s')) :
    i.deliver Collection.handler k (.ofKind k g) =
      (.ok (), { i with session := (g.finish k k s').2, sinks := (g.finish k k s').1.sinks }) := by
  rw [deliver_eq, Reader.poll_of_bracket hn]
  rfl

/-- **The records of an array are delivered**, those that are in it and no others, and the session
stands behind its bracket. -/
theorem deliver_array {es : List Element} {p : Session.Stage} {k : Kind}
    (hfits : ∀ e ∈ es, e.Fits p.options k) {i : Import Collection} {g : Staging}
    {staged : List Attachment} {lead rest : List UInt8}
    (h : i.session.Awaits p (lead ++ (Element.arrayBytes es ++ rest)))
    (hlead : lead.all Scanner.isSeparator = true) (hg : g.Keeps staged)
    (hstaged : k.carriesAttachments = false → staged = []) :
    ∃ i', i.deliver Collection.handler k (.ofKind k g) = (.ok (), i') ∧
      i'.session.Stands { p with array := .closed } rest ∧
      i'.sinks.make = Sinks.memory.make ∧
      i'.state = i.state.addAll
        ((Element.records p.options p.generation k staged es).map fun r => (k, r)) := by
  -- From element to element only the attachments that wait, and the gap, are carried on.
  induction es generalizing i g staged lead with
  | nil =>
    obtain ⟨s', hnext, hs'⟩ := h.nextElement_bracket hlead
    refine ⟨_, deliver_of_bracket hnext, ?_, ?_, rfl⟩
    · unfold Staging.finish
      split_ifs
      · exact Staging.stands_drop hs' _ _ _
      · exact hs'
    · unfold Staging.finish
      split_ifs
      · exact (hg.drop _ _ _).make_eq
      · exact hg.make_eq
  | cons e es ih =>
    obtain ⟨he, hes⟩ := List.forall_mem_cons.mp hfits
    obtain ⟨lead', hlead', hbytes, hrest⟩ := Element.arrayBytes_cons e es rest
    rw [hbytes] at h
    obtain ⟨v, s₁, d, g', s₂, gap, hnext, hdecode, hg', hgap, hs₂, hrecord⟩ :=
      h.element hlead he hrest hg hstaged
    have hawaits : (d.settle k s₂).Awaits p
        ((gap ++ lead') ++ (Element.arrayBytes es ++ rest)) := by
      rw [List.append_assoc]
      exact (hs₂.settle k d).awaits
    obtain ⟨i', hdeliver, hs', hsinks, hstate⟩ :=
      ih hes
        (i := { i with
          session := d.settle k s₂
          state := i.state.addAll (d.record?.toList.map fun r => (k, r)) })
        hawaits (by simp [hgap, hlead']) hg' (fun hk => he.waiting_eq_nil hk staged)
    refine ⟨i', ?_, hs', hsinks, ?_⟩
    · rw [deliver_of_decode hnext hdecode, hdeliver]
    · rw [hstate, hrecord, Element.records, List.map_append, Collection.addAll_append]

end Import

end ExportStream
