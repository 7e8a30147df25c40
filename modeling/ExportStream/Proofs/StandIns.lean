import ExportStream.Proofs.Digests
import ExportStream.Proofs.Grammar
import ExportStream.Proofs.PassedFiles
import ExportStream.Proofs.Passing
/-!
# Documents that stand in for files

An attachment of an old export becomes a payload in a sink, what is known of it, and a document that
stands in for it. The hash, the size, the id and the name of the file are written down in several of
these places, and a deletion elsewhere in the export names the same document by the key of the file
alone. **`Reader.pull_files`** says that they all agree, for every file that is kept.

The tag under which the sink is made names the key twice, with separators that the key may contain
as well. It is still told apart from every other tag by its length: behind the key stands a content
hash, and these are of one length (`LegacyAttachment.Parsed.tag_eq_iff`).
-/

namespace ExportStream

/-! ### Sinks that never fail -/

namespace Sink

/-- A sink that never fails takes in parts what it would take at once. -/
theorem Reliable.write_eq {s : Sink} (h : s.Reliable) (bytes : List UInt8) :
    Writer.write s bytes = (.ok (), s.take bytes) := by
  fun_induction Writer.write s bytes with
  | case1 s => rw [take_nil]
  | case2 s b bs f s' ha =>
    obtain ⟨n, hn⟩ := h.offer_eq b bs
    rw [hn] at ha
    cases ha
  | case3 s b bs s' ha =>
    obtain ⟨n, hn⟩ := h.offer_eq b bs
    rw [hn] at ha
    cases ha
  | case4 s b bs n s' ha ih =>
    obtain ⟨m, hm⟩ := h.offer_eq b bs
    rw [hm] at ha
    cases ha
    rw [ih (h.take _), ← take_append, List.cons_append, List.take_append_drop]

theorem Reliable.store_eq {s : Sink} (h : s.Reliable) (payload : List UInt8) :
    Staging.store s payload = .ok (s.take payload) := by
  rw [Staging.store, h.write_eq]
  simp only [(h.take payload).flush_eq]

end Sink

namespace LegacyAttachment

/-! ### Tags -/

theorem Parsed.toList_tag (p : Parsed) :
    p.details.tag.toList = filesPrefix.toList ++ (p.key.toList ++ ("\u001ed\u001e".toList ++
      (p.key.toList ++ ("\u001e".toList ++ (p.details.hash.toList ++ "\u001e".toList))))) := by
  have htag : p.details.tag = filesPrefix ++ p.key ++ "\u001e" ++ "d" ++ "\u001e" ++ p.key ++
      "\u001e" ++ p.details.hash ++ "\u001e" ++ "" := rfl
  rw [htag]
  simp

/-- The key is half of what a tag is longer than its separators and the hash. -/
theorem Parsed.length_tag (p : Parsed) :
    p.details.tag.toList.length = 2 * p.key.toList.length + 55 := by
  have hhash : p.details.hash.toList.length = 44 := Digest.length_contentHash p.payload
  rw [toList_tag]
  simp only [List.length_append, hhash]
  have hprefix : filesPrefix.toList.length = 6 := by decide
  have hmark : "\u001ed\u001e".toList.length = 3 := by decide
  have hseparator : "\u001e".toList.length = 1 := by decide
  omega

/-- **Two files have the same tag exactly if they have the same key and the same hash.** -/
theorem Parsed.tag_eq_iff (p q : Parsed) :
    p.details.tag = q.details.tag ↔
      p.details.key = q.details.key ∧ p.details.hash = q.details.hash := by
  constructor
  · intro h
    have hlength : p.key.toList.length = q.key.toList.length := by
      have hp := p.length_tag
      rw [h, q.length_tag] at hp
      omega
    have hlist := congrArg String.toList h
    rw [toList_tag, toList_tag] at hlist
    obtain ⟨hkey, hrest⟩ := List.append_inj (List.append_cancel_left hlist) hlength
    have hrest := List.append_cancel_left hrest
    rw [hkey] at hrest
    have hhash := List.append_cancel_right
      (List.append_cancel_left (List.append_cancel_left hrest))
    exact ⟨String.toList_inj.mp hkey, String.toList_inj.mp hhash⟩
  · rintro ⟨hkey, hhash⟩
    have hkey : p.key = q.key := hkey
    apply String.toList_inj.mp
    rw [toList_tag, toList_tag, hkey, hhash]

/-! ### Files that are kept -/

/-- The element of a file that is kept: with this key, metadata and payload, neither deleted nor on
its way. -/
structure KeptFile (fields : Fields) (key : String) (m : Fields) (payload : List UInt8) :
    Prop where
  /-- The key. -/
  key_eq : Fields.find? "Key" fields = some (.string key)
  /-- The metadata. -/
  metadata_eq : Fields.find? "Metadata" fields = some (.object m)
  /-- The payload in base64. -/
  data_eq : Fields.find? "Data" fields = some (.string (Digest.Base64.text payload))
  /-- The file was not deleted. -/
  not_deleted : ¬SaysDeleted m
  /-- It was received in full. -/
  not_on_its_way : ¬OnItsWay key

/-- The attachment agrees with the element of its file, and its parts with each other; `made` is the
sink that was made for it. -/
structure Agrees (a : LegacyAttachment) (key : String) (m : Fields) (payload : List UInt8)
    (made : Sink) : Prop where
  /-- The key is that of the element. -/
  key_eq : a.details.key = key
  /-- The metadata is that of the element. -/
  metadata_eq : a.details.metadata = .object m
  /-- The size is that of the payload. -/
  size_eq : a.details.size = payload.length
  /-- The hash is that of the payload. -/
  hash_eq : a.details.hash = Digest.contentHash payload
  /-- The sink holds the payload, behind what it held when it was made. -/
  content_eq : a.sink.content? = made.content?.map (· ++ payload)
  /-- The document has the id. -/
  document_id_eq : a.document.id = a.details.id
  /-- The document tells of one attachment, by name, hash and size. -/
  listed : ∃ meta_ entry, a.document.data.metadata? = some meta_ ∧
    Fields.find? "@attachments" meta_ = some (.array [entry]) ∧
    entry.field? "Name" = some (.string a.details.key) ∧
    entry.field? "Hash" = some (.string a.details.hash) ∧
    entry.field? "Size" = some (.nat a.details.size)
  /-- A deletion that names the key yields the id. -/
  deletion : ∀ (g : Staging) (s t : Session) (v : Json), s.nextElement = (.ok (some v), t) →
    v.fieldText? "Key" = some key →
    Reader.pull g .legacyAttachmentDeletions .legacyAttachmentDeletions s =
      (.ok (some (.deletion a.details.id)), g, t.countRead .legacyAttachmentDeletions)

variable {fields m : Fields} {key : String} {payload : List UInt8}

theorem KeptFile.parse_eq (h : KeptFile fields key m payload) :
    parse (.object fields) =
      .ok { key, metadata := m, payload, etag := Fields.text? fields "Etag" } := by
  have hcarries : Carries fields payload := by
    refine ⟨_, h.data_eq, ?_⟩
    rw [Digest.Base64.bytesOf_text, Digest.Base64.decode_encode]
  rw [LegacyAttachment.parse_eq h.key_eq h.metadata_eq, payloadOf_eq_ok.mpr hcarries]
  rfl

/-- What stands in for a file tells of the one attachment. -/
theorem listed_standIn (d : LegacyDetails) :
    ∃ meta_ entry, (standIn d).data.metadata? = some meta_ ∧
      Fields.find? "@attachments" meta_ = some (.array [entry]) ∧
      entry.field? "Name" = some (.string d.key) ∧ entry.field? "Hash" = some (.string d.hash) ∧
      entry.field? "Size" = some (.nat d.size) := by
  let entry := Fields.ofList
    [("Name", .string d.key), ("Hash", .string d.hash), ("ContentType", .string ""),
      ("Size", .nat d.size)]
  have hbody : (standIn d).data.metadata? = some (Fields.ofList
      [(Property.collection, .string filesCollection), ("@attachments", .array [.object entry]),
        ("@legacy-attachment-metadata", d.metadata)]) := rfl
  refine ⟨_, .object entry, hbody, ?_, ?_, ?_, ?_⟩
  · rw [Fields.find?_ofList]
    simp [Property.collection]
  · exact (Fields.find?_ofList _ _).trans (by simp)
  · exact (Fields.find?_ofList _ _).trans (by simp)
  · exact (Fields.find?_ofList _ _).trans (by simp)

end LegacyAttachment

namespace Reader

open LegacyAttachment

/-- The reader hands out this attachment for the next element, whose sink was made under its tag. -/
structure HandsOut (g : Staging) (s : Session) (a : LegacyAttachment) (made : Sink) : Prop where
  /-- The record. -/
  pull_eq : ∃ u, pull g .legacyAttachments .legacyAttachments s =
    (.ok (some (.legacyAttachment a)), { g with sinks := (g.sinks.create a.details.tag).2 }, u)
  /-- The sink. -/
  made_eq : g.sinks.make g.sinks.asked a.details.tag = .ok made

variable {g : Staging} {s t : Session} {fields m : Fields} {key : String} {payload : List UInt8}

/-- For the element of a file that is kept an attachment is handed out, and agrees with it. -/
theorem handsOut_of_keptFile (hg : g.sinks.Reliable)
    (hn : s.nextElement = (.ok (some (.object fields)), t))
    (hkept : KeptFile fields key m payload) :
    ∃ (p : Parsed) (made : Sink) (a : LegacyAttachment), HandsOut g s a made ∧
      a.Agrees key m payload made ∧ a.details = p.details := by
  let p : Parsed := { key, metadata := m, payload, etag := Fields.text? fields "Etag" }
  have htransient : ¬p.isTransient = true := by
    rw [Parsed.isTransient_iff]
    exact fun h => h.elim hkept.not_deleted hkept.not_on_its_way
  obtain ⟨made, hmade, hreliable⟩ := hg g.sinks.asked p.details.tag
  let a : LegacyAttachment := ⟨p.details, standIn p.details, made.take payload⟩
  have hdecode : ∃ u, g.decode .legacyAttachments .legacyAttachments (.object fields) t =
      (.ok (.record (.legacyAttachment a)), { g with sinks := (g.sinks.create p.details.tag).2 },
        u) := by
    unfold Staging.decode Staging.decodeLegacyAttachment
    simp only [hkept.parse_eq, Sinks.create]
    rw [if_neg htransient]
    simp only [p] at hmade
    simp only [hmade, hreliable.store_eq]
    exact ⟨_, rfl⟩
  obtain ⟨u, hdecode⟩ := hdecode
  refine ⟨p, made, a, ⟨⟨_, pull_of_decode hn hdecode⟩, hmade⟩, ?_, rfl⟩
  exact
    { key_eq := rfl
      metadata_eq := rfl
      size_eq := rfl
      hash_eq := rfl
      content_eq := Sink.content?_take made payload
      document_id_eq := rfl
      listed := listed_standIn p.details
      deletion := by
        intro g s t v hn hv
        have hdeletion : g.decode .legacyAttachmentDeletions .legacyAttachmentDeletions v t =
            (.ok (.record (.deletion (idOf key))), g, t) := by
          unfold Staging.decode Staging.decodeDeletion deletedKey?
          simp only [hv]
        exact pull_of_decode hn hdeletion }

/-- **Files of old exports.** For every two elements of files that are kept, attachments are handed
out that agree with their elements; and their sinks are made under the same tag exactly if they have
the same key and the same hash. -/
theorem pull_files {g g' : Staging} {s s' t t' : Session} {fields fields' m m' : Fields}
    {key key' : String} {payload payload' : List UInt8}
    (hg : g.sinks.Reliable) (hn : s.nextElement = (.ok (some (.object fields)), t))
    (hkept : KeptFile fields key m payload)
    (hg' : g'.sinks.Reliable) (hn' : s'.nextElement = (.ok (some (.object fields')), t'))
    (hkept' : KeptFile fields' key' m' payload') :
    ∃ a made a' made', (HandsOut g s a made ∧ a.Agrees key m payload made) ∧
      (HandsOut g' s' a' made' ∧ a'.Agrees key' m' payload' made') ∧
      (a.details.tag = a'.details.tag ↔
        a.details.key = a'.details.key ∧ a.details.hash = a'.details.hash) := by
  obtain ⟨p, made, a, hout, hagrees, hp⟩ := handsOut_of_keptFile hg hn hkept
  obtain ⟨p', made', a', hout', hagrees', hp'⟩ := handsOut_of_keptFile hg' hn' hkept'
  refine ⟨a, made, a', made', ⟨hout, hagrees⟩, ⟨hout', hagrees'⟩, ?_⟩
  rw [hp, hp']
  exact p.tag_eq_iff p'

/-- The files `a`, and `a` with a separator behind it, both with the payload `A`: the sinks hold the
same, but were made under two tags. -/
theorem pull_files_separated :
    let before (element : String) : Session :=
      { Session.start { rest := Text.Utf8.bytesOf element } {} {} with
        current := some .legacyAttachments, array := .isOpen }
    let s := before "\x7b\"Key\":\"a\",\"Metadata\":\x7b\x7d,\"Data\":\"QQ==\"\x7d]"
    let s' := before "\x7b\"Key\":\"a\\u001e\",\"Metadata\":\x7b\x7d,\"Data\":\"QQ==\"\x7d]"
    ∃ a made a' made', HandsOut { sinks := .memory } s a made ∧
      HandsOut { sinks := .memory } s' a' made' ∧
      a.sink.content? = some [65] ∧ a'.sink.content? = some [65] ∧
      a.details.tag ≠ a'.details.tag := by
  intro before s s'
  have hreliable : (Staging.sinks { sinks := .memory }).Reliable := Sinks.reliable_memory
  have htext : Digest.Base64.text [65] = "QQ==" := by decide +kernel
  have hkept (key : String) (hkey : ¬OnItsWay key) :
      KeptFile [("Data", .string "QQ=="), ("Key", .string key), ("Metadata", .object [])]
        key [] [65] :=
    { key_eq := rfl
      metadata_eq := rfl
      data_eq := by
        rw [htext]
        rfl
      not_deleted := by simp [SaysDeleted]
      not_on_its_way := hkey }
  have hfirst : s.nextElement.1.toOption = some (some (.object
      [("Data", .string "QQ=="), ("Key", .string "a"), ("Metadata", .object [])])) := by
    decide +kernel
  have hsecond : s'.nextElement.1.toOption = some (some (.object
      [("Data", .string "QQ=="), ("Key", .string "a\u001e"), ("Metadata", .object [])])) := by
    decide +kernel
  rcases hn : s.nextElement with ⟨f | w, t⟩
  · rw [hn] at hfirst
    cases hfirst
  · rcases hn' : s'.nextElement with ⟨f | w', t'⟩
    · rw [hn'] at hsecond
      cases hsecond
    · rw [hn] at hfirst
      rw [hn'] at hsecond
      cases hfirst
      cases hsecond
      have hkey : ¬OnItsWay "a" := by unfold OnItsWay; decide
      have hkey' : ¬OnItsWay "a\u001e" := by unfold OnItsWay; decide
      obtain ⟨a, made, a', made', ⟨hout, hagrees⟩, ⟨hout', hagrees'⟩, htags⟩ :=
        pull_files hreliable hn (hkept "a" hkey) hreliable hn' (hkept "a\u001e" hkey')
      have hmade : Sink.memory = made := Except.ok.inj hout.made_eq
      have hmade' : Sink.memory = made' := Except.ok.inj hout'.made_eq
      refine ⟨a, made, a', made', hout, hout', ?_, ?_, ?_⟩
      · rw [hagrees.content_eq, ← hmade]
        rfl
      · rw [hagrees'.content_eq, ← hmade']
        rfl
      · intro htag
        have hkeys := (htags.mp htag).1
        rw [hagrees.key_eq, hagrees'.key_eq] at hkeys
        exact absurd hkeys (by decide)

end Reader

end ExportStream
