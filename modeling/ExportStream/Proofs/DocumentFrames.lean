import ExportStream.Session.Decoding
import Mathlib.Data.List.Infix
/-!
# Which elements are documents, and what is stored of them

An element that announces no payload is read as a document exactly if it is an object whose metadata
is an object that names the id, and states flags which are known or none (`Document.Stated`). The
body that is stored is the element with other metadata, and the metadata that of the element without
the properties which change with every write; where ids are counted, in exports of the old format,
they name a collection of their own (`Document.Stored`).

What is put under a name, and what is taken away, leaves all other names alone: the frame is said of
every name, for whatever value stands there. **`Staging.decodeDocument_stored`** says both of every
element.
-/

namespace ExportStream

/-- One run of characters occurs in another. -/
theorem Text.occursIn_iff {needle hay : List Char} :
    occursIn needle hay = true ↔ needle <:+: hay := by
  induction hay with
  | nil => simp [occursIn]
  | cons c cs ih =>
    rw [occursIn, Bool.or_eq_true, List.isPrefixOf_iff_prefix, ih, List.infix_cons_iff]

/-- What is read in two parts is read if both are. -/
theorem RecordFault.bind_eq_ok {α β : Type} {x : Except RecordFault α}
    {f : α → Except RecordFault β} {b : β} :
    (x >>= f) = .ok b ↔ ∃ a, x = .ok a ∧ f a = .ok b := by
  cases x <;> simp [bind, Except.bind]

namespace Fields

variable {fields inner : Fields} {name other : String} {v : Json} {f : RecordFault}

/-! ### What is put and taken away -/

theorem mem_insert {g : String × Json} (h : g ∈ insert name v fields) :
    g = (name, v) ∨ g ∈ fields := by
  induction fields with
  | nil => exact .inl (List.mem_singleton.mp h)
  | cons f rest ih =>
    obtain ⟨k, w⟩ := f
    rw [insert] at h
    split_ifs at h with hlt heq
    · exact List.mem_cons.mp h
    · exact (List.mem_cons.mp h).imp_right (List.mem_cons_of_mem _)
    · rcases List.mem_cons.mp h with rfl | h
      · exact .inr (List.mem_cons_self ..)
      · exact (ih h).imp_right (List.mem_cons_of_mem _)

/-- A value is put in its place. -/
theorem pairwise_insert (h : fields.Pairwise fun f g => f.1 < g.1) :
    (insert name v fields).Pairwise fun f g => f.1 < g.1 := by
  induction fields with
  | nil => exact List.pairwise_singleton _ _
  | cons f rest ih =>
    obtain ⟨k, w⟩ := f
    obtain ⟨hfirst, hrest⟩ := List.pairwise_cons.mp h
    rw [insert]
    split_ifs with hlt heq
    · refine List.pairwise_cons.mpr ⟨?_, h⟩
      intro g hg
      rcases List.mem_cons.mp hg with rfl | hg
      · exact hlt
      · exact String.lt_trans hlt (hfirst g hg)
    · subst heq
      exact List.pairwise_cons.mpr ⟨hfirst, hrest⟩
    · have hgt : k < name := Std.lt_of_le_of_ne (String.not_lt.mp hlt) (Ne.symm heq)
      refine List.pairwise_cons.mpr ⟨?_, ih hrest⟩
      intro g hg
      rcases mem_insert hg with rfl | hg
      · exact hgt
      · exact hfirst g hg

/-- Of a name that is taken away, and of every other name, when several are taken away. -/
theorem find?_foldl_erase (names : List String) (fields : Fields) (name : String) :
    find? name (names.foldl (fun m n => erase n m) fields) =
      if name ∈ names then none else find? name fields := by
  induction names generalizing fields with
  | nil => rfl
  | cons n names ih =>
    rw [List.foldl_cons, ih]
    by_cases hmem : name ∈ names
    · rw [if_pos hmem, if_pos (List.mem_cons_of_mem _ hmem)]
    · rw [if_neg hmem]
      by_cases heq : name = n
      · rw [heq, if_pos (List.mem_cons_self ..), find?_erase_self]
      · have hnot : name ∉ n :: names := by simp [heq, hmem]
        rw [if_neg hnot, find?_erase_of_ne fields heq]

theorem sublist_foldl_erase (names : List String) (fields : Fields) :
    (names.foldl (fun m n => erase n m) fields).Sublist fields := by
  induction names generalizing fields with
  | nil => exact List.Sublist.refl _
  | cons n names ih => exact (ih _).trans List.filter_sublist

/-! ### What is due -/

theorem dueText_eq_ok {s : String} :
    dueText fields name = .ok s ↔ find? name fields = some (.string s) := by
  unfold dueText
  cases find? name fields with
  | none => simp
  | some w => cases w <;> simp

theorem dueObject_eq_ok :
    dueObject fields name = .ok inner ↔ find? name fields = some (.object inner) := by
  unfold dueObject
  cases find? name fields with
  | none => simp
  | some w => cases w <;> simp

end Fields

namespace Document

/-! ### Elements that are documents -/

/-- The flags that metadata states: none, or those of a value that states flags. -/
def StatesFlags (meta_ : Fields) (flags : DocumentFlags) : Prop :=
  (Fields.find? "@flags" meta_ = none ∧ flags = .empty) ∨
    ∃ w, Fields.find? "@flags" meta_ = some w ∧ DocumentFlags.ofJson w = .ok flags

theorem flagsOf_eq_ok {meta_ : Fields} {flags : DocumentFlags} :
    flagsOf meta_ = .ok flags ↔ StatesFlags meta_ flags := by
  unfold flagsOf StatesFlags Property.flags
  cases Fields.find? "@flags" meta_ with
  | none => simp [eq_comm]
  | some w => cases hw : DocumentFlags.ofJson w <;> simp [hw]

/-- The element states a document: it is an object, its metadata is an object, and this names an id
and states flags. -/
structure Stated (v : Json) (fields meta_ : Fields) (id : String) (flags : DocumentFlags) :
    Prop where
  /-- The fields of the element. -/
  object : v = .object fields
  /-- Its metadata. -/
  metadata : Fields.find? "@metadata" fields = some (.object meta_)
  /-- The id. -/
  id : Fields.find? "@id" meta_ = some (.string id)
  /-- The flags. -/
  flags : StatesFlags meta_ flags

/-- What is told of an element that states a document. -/
def told (legacy readEtag : Bool) (fields meta_ : Fields) (id : String) (flags : DocumentFlags) :
    Parsed where
  document :=
    { id
      data := .object (Fields.insert Property.metadata
        (.object (withoutVolatile (withCollection legacy id meta_))) fields)
      collection := Fields.text? (withCollection legacy id meta_) Property.collection
      changeVector := (Fields.text? meta_ Property.changeVector).getD ""
      flags
      origin := { legacy }
      lastModified := (Fields.text? meta_ Property.lastModified).bind Time.Instant.read? }
  etag := if readEtag then etagOf meta_ else none

theorem element_eq_ok {v : Json} {fields : Fields} :
    v.element = .ok fields ↔ v = .object fields := by
  cases v <;> simp [Json.element]

/-- Exactly the elements that state a document are read as one. -/
theorem parse_eq_ok {legacy readEtag : Bool} {v : Json} {p : Parsed} :
    parse legacy readEtag v = .ok p ↔
      ∃ fields meta_ id flags, Stated v fields meta_ id flags ∧
        told legacy readEtag fields meta_ id flags = p := by
  constructor
  · intro h
    obtain ⟨fields, hfields, h⟩ := RecordFault.bind_eq_ok.mp h
    obtain ⟨meta_, hmeta, h⟩ := RecordFault.bind_eq_ok.mp h
    obtain ⟨id, hid, h⟩ := RecordFault.bind_eq_ok.mp h
    obtain ⟨flags, hflags, h⟩ := RecordFault.bind_eq_ok.mp h
    exact ⟨fields, meta_, id, flags, ⟨element_eq_ok.mp hfields, Fields.dueObject_eq_ok.mp hmeta,
      Fields.dueText_eq_ok.mp hid, flagsOf_eq_ok.mp hflags⟩, Except.ok.inj h⟩
  · rintro ⟨fields, meta_, id, flags, ⟨hobject, hmeta, hid, hflags⟩, rfl⟩
    refine RecordFault.bind_eq_ok.mpr ⟨fields, element_eq_ok.mpr hobject, ?_⟩
    refine RecordFault.bind_eq_ok.mpr ⟨meta_, Fields.dueObject_eq_ok.mpr hmeta, ?_⟩
    refine RecordFault.bind_eq_ok.mpr ⟨id, Fields.dueText_eq_ok.mpr hid, ?_⟩
    exact RecordFault.bind_eq_ok.mpr ⟨flags, flagsOf_eq_ok.mpr hflags, rfl⟩

/-! ### What is stored -/

/-- The collection of documents that count ids is due. -/
def CountsIds (generation : Generation) (id : String) : Prop :=
  generation = .v3 ∧ "Raven/Hilo/".toList <:+: id.toList

/-- What is stored of metadata: the properties that change with every write are taken away, the
collection of documents that count ids is put, and nothing else changes. -/
structure StoredMetadata (generation : Generation) (id : String) (meta_ stored : Fields) :
    Prop where
  /-- These are taken away. -/
  volatile : ∀ name ∈ ["@id", "@change-vector", "@flags", "@etag", "@last-modified"],
    Fields.find? name stored = none
  /-- This is put where it is due. -/
  hilo : CountsIds generation id → Fields.find? "@collection" stored = some (.string "@hilo")
  /-- And else left as it is. -/
  collection : ¬CountsIds generation id →
    Fields.find? "@collection" stored = Fields.find? "@collection" meta_
  /-- So is everything else. -/
  others : ∀ name,
    name ∉ ["@id", "@change-vector", "@flags", "@etag", "@last-modified", "@collection"] →
    Fields.find? name stored = Fields.find? name meta_
  /-- Names that are in order stay so. -/
  ordered : (meta_.Pairwise fun f g => f.1 < g.1) → stored.Pairwise fun f g => f.1 < g.1

/-- What is stored of an element: it has other metadata, and everything else as it was. -/
structure StoredBody (fields stored body : Fields) : Prop where
  /-- These are the metadata. -/
  metadata : Fields.find? "@metadata" body = some (.object stored)
  /-- Everything else is left as it is. -/
  others : ∀ name, name ≠ "@metadata" → Fields.find? name body = Fields.find? name fields
  /-- Names that are in order stay so. -/
  ordered : (fields.Pairwise fun f g => f.1 < g.1) → body.Pairwise fun f g => f.1 < g.1

/-- The document that an element is read as, where it states one. -/
structure Keeps (generation : Generation) (fields meta_ : Fields) (id : String)
    (flags : DocumentFlags) (d : Document) : Prop where
  /-- The id. -/
  id_eq : d.id = id
  /-- The flags. -/
  flags_eq : d.flags = flags
  /-- The body. -/
  data : ∃ body stored, d.data = .object body ∧ StoredBody fields stored body ∧
    StoredMetadata generation id meta_ stored
  /-- The collection is the one that the body names. -/
  collection_eq : d.collection =
    (d.data.metadata?.bind (Fields.find? "@collection")).bind Json.text?
  /-- The document comes from an import. -/
  fromImport : d.origin.fromImport = true
  /-- The rules of the old format are those of its generation. -/
  legacy : d.origin.legacy = true ↔ generation = .v3

variable {generation : Generation} {fields meta_ : Fields} {id : String} {flags : DocumentFlags}

theorem countsIds_iff :
    (generation.isLegacy && isHiloId id) = true ↔ CountsIds generation id := by
  rw [Bool.and_eq_true, isHiloId, Text.occursIn_iff, Generation.isLegacy, decide_eq_true_iff]
  rfl

theorem find?_withoutVolatile (m : Fields) (name : String) :
    Fields.find? name (withoutVolatile m) =
      if name ∈ Property.volatile then none else Fields.find? name m :=
  Fields.find?_foldl_erase ..

theorem storedMetadata :
    StoredMetadata generation id meta_
      (withoutVolatile (withCollection generation.isLegacy id meta_)) where
  volatile := by
    intro name hmem
    rw [find?_withoutVolatile]
    exact if_pos hmem
  hilo := by
    intro hcounts
    rw [find?_withoutVolatile, withCollection, if_pos (countsIds_iff.mpr hcounts)]
    exact Fields.find?_insert_self ..
  collection := by
    intro hcounts
    rw [find?_withoutVolatile, withCollection, if_neg (mt countsIds_iff.mp hcounts)]
    rfl
  others := by
    intro name hmem
    have hvolatile : name ∉ Property.volatile :=
      fun h => hmem (List.mem_append_left ["@collection"] h)
    have hcollection : name ≠ Property.collection := by
      rintro rfl
      exact hmem (by decide)
    rw [find?_withoutVolatile, if_neg hvolatile, withCollection]
    split_ifs
    · exact Fields.find?_insert_of_ne _ _ hcollection
    · rfl
  ordered := by
    intro hordered
    refine List.Pairwise.sublist (Fields.sublist_foldl_erase ..) ?_
    unfold withCollection
    split_ifs
    · exact Fields.pairwise_insert hordered
    · exact hordered

theorem storedBody (stored : Fields) :
    StoredBody fields stored (Fields.insert Property.metadata (.object stored) fields) where
  metadata := Fields.find?_insert_self ..
  others _ hne := Fields.find?_insert_of_ne _ _ hne
  ordered h := Fields.pairwise_insert h

/-- An element that states a document is kept as this says. -/
theorem keeps_told (readEtag : Bool) (staged : List Attachment) :
    Keeps generation fields meta_ id flags
      { (told generation.isLegacy readEtag fields meta_ id flags).document with
        attachments := staged } where
  id_eq := rfl
  flags_eq := rfl
  data := ⟨_, _, rfl, storedBody _, storedMetadata⟩
  collection_eq := by
    have hcollection : Property.collection ∉ Property.volatile := by decide
    simp only [told, Json.metadata?, Json.field?, Json.fields?, Option.bind_some,
      Fields.find?_insert_self]
    change _ = (Fields.find? Property.collection _).bind Json.text?
    rw [find?_withoutVolatile, if_neg hcollection]
    rfl
  fromImport := rfl
  legacy := by
    change generation.isLegacy = true ↔ _
    rw [Generation.isLegacy, decide_eq_true_iff]

end Document

/-- **Documents.** An element that announces no payload is read as a document exactly if it states
one, and is rejected otherwise, in every generation and with any options; what is stored of it is
the element itself but for its metadata, and of these all but what the frame names. -/
theorem Staging.decodeDocument_stored (g : Staging) (k : Kind) {v : Json}
    (hv : v.isMarker = false) (s : Session) :
    ((∃ d g' s', g.decodeDocument k v s = (.ok (.record (.document d)), g', s')) ↔
        ∃ fields meta_ id flags, Document.Stated v fields meta_ id flags) ∧
      ((¬ ∃ fields meta_ id flags, Document.Stated v fields meta_ id flags) →
        ∃ f g' s', g.decodeDocument k v s = (.ok (.rejected f v), g', s')) ∧
      ∀ fields meta_ id flags, Document.Stated v fields meta_ id flags →
        ∃ d g' s', g.decodeDocument k v s = (.ok (.record (.document d)), g', s') ∧
          Document.Keeps s.generation fields meta_ id flags d := by
  have hstated {fields meta_ : Fields} {id : String} {flags : DocumentFlags}
      (h : Document.Stated v fields meta_ id flags) :
      ∃ d g' s', g.decodeDocument k v s = (.ok (.record (.document d)), g', s') ∧
        Document.Keeps s.generation fields meta_ id flags d := by
    have hparse : Document.parse s.generation.isLegacy s.options.readLegacyEtag v =
        .ok (Document.told _ _ fields meta_ id flags) :=
      Document.parse_eq_ok.mpr ⟨fields, meta_, id, flags, h, rfl⟩
    unfold decodeDocument
    rw [hv, hparse]
    exact ⟨_, _, _, rfl, Document.keeps_told s.options.readLegacyEtag g.staged⟩
  have hrejected (h : ¬ ∃ fields meta_ id flags, Document.Stated v fields meta_ id flags) :
      ∃ f g' s', g.decodeDocument k v s = (.ok (.rejected f v), g', s') := by
    unfold decodeDocument
    rw [hv]
    cases hparse : Document.parse s.generation.isLegacy s.options.readLegacyEtag v with
    | ok p =>
      obtain ⟨fields, meta_, id, flags, hv, -⟩ := Document.parse_eq_ok.mp hparse
      exact absurd ⟨fields, meta_, id, flags, hv⟩ h
    | error f => exact ⟨f, _, _, rfl⟩
  refine ⟨⟨?_, ?_⟩, hrejected, fun _ _ _ _ => hstated⟩
  · rintro ⟨d, g', s', hdecode⟩
    by_contra h
    obtain ⟨f, h', t', hreject⟩ := hrejected h
    rw [hdecode] at hreject
    cases hreject
  · rintro ⟨fields, meta_, id, flags, h⟩
    obtain ⟨d, g', s', hdecode, -⟩ := hstated h
    exact ⟨d, g', s', hdecode⟩

/-- A document of the old format that counts ids: four properties are taken away, and the collection
is another one. -/
theorem Staging.decodeDocument_stored_hilo :
    let v : Json := .object [("@metadata", .object [("@collection", .string "Counters"),
      ("@etag", .int 7), ("@flags", .string "None"), ("@id", .string "Raven/Hilo/users"),
      ("@last-modified", .string "never"), ("Raven-Entity-Name", .null)]),
      ("Max", .object [("@id", .int 32)])]
    let s : Session := { Session.start { rest := [] } {} {} with generation := .v3 }
    v.isMarker = false ∧
      ∃ fields meta_ id flags, Document.Stated v fields meta_ id flags ∧
        ∃ d g' s', Staging.decodeDocument { sinks := .memory } .documents v s =
            (.ok (.record (.document d)), g', s') ∧
          Document.Keeps .v3 fields meta_ id flags d ∧
          d.data = .object [("@metadata", .object [("@collection", .string "@hilo"),
            ("Raven-Entity-Name", .null)]), ("Max", .object [("@id", .int 32)])] := by
  intro v s
  have hv : v.isMarker = false := rfl
  have hstated : Document.Stated v _ _ "Raven/Hilo/users" .empty :=
    ⟨rfl, rfl, rfl, .inr ⟨_, rfl, rfl⟩⟩
  obtain ⟨-, -, hkeeps⟩ :=
    decodeDocument_stored { sinks := .memory } .documents hv s
  obtain ⟨d, g', s', hdecode, hd⟩ := hkeeps _ _ _ _ hstated
  refine ⟨hv, _, _, _, _, hstated, d, g', s', hdecode, hd, ?_⟩
  cases hdecode
  rfl

end ExportStream
