import ExportStream.Proofs.Elements
/-!
# Reading what was laid out

An import of a layout that fits its options succeeds, and collects what is in the layout
(`Import.run_layout`). The import goes from section to section: behind each of them the session is
between two kinds again, and the bytes of the others are left (`Import.takeKinds_sections`). Only
the first label is read on another way, when the export is opened.
-/

namespace ExportStream

namespace Session

variable {s : Session} {p : Stage} {options : Options} {build : Int} {generation : Generation}
  {lead rest : List UInt8} {label : String}

/-! ### Labels between kinds -/

theorem Stands.nextLabel_brace (h : s.Stands { options, build, generation } (lead ++ 125 :: rest))
    (hlead : lead.all Scanner.isSeparator = true) :
    ∃ s', s.nextLabel = (.ok none, s') := by
  have hexhausted : s.exhausted = false := congrArg Stage.exhausted h.stage_eq
  obtain ⟨s', hread, -⟩ := h.readLabel_brace hlead
  refine ⟨s'.exhaust, ?_⟩
  rw [nextLabel_eq, hexhausted, if_neg Bool.false_ne_true, hread]

theorem Stands.nextLabel_kind {k : Kind}
    (h : s.Stands { options, build, generation } (lead ++ (Layout.labelBytes label ++ rest)))
    (hlead : lead.all Scanner.isSeparator = true) (hk : (Text.lower label, k) ∈ Label.kinds) :
    ∃ s', s.nextLabel = (.ok (some k), s') ∧
      s'.Stands { options, build, generation, current := some k, array := .notStarted }
        ([58, 32] ++ rest) := by
  have hexhausted : s.exhausted = false := congrArg Stage.exhausted h.stage_eq
  obtain ⟨s', hread, hs'⟩ := h.readLabel hlead (Label.isAlpha_of_mem_kinds hk)
  refine ⟨s'.enter k, ?_, hs'.enter k⟩
  rw [nextLabel_eq, hexhausted, if_neg Bool.false_ne_true, hread]
  simp only [Label.resolve_of_mem_kinds hk]

theorem Stands.nextLabel_retired {text gap : List UInt8} {maxDepth : Nat} {v : Json}
    (h : s.Stands { options, build, generation }
      (lead ++ (Layout.labelBytes label ++ (text ++ rest))))
    (hlead : lead.all Scanner.isSeparator = true) (hk : Text.lower label ∈ Label.retiredSections)
    (hread : v.ReadFrom maxDepth text gap)
    (hrest : ∃ b more, rest = b :: more ∧ Scanner.isNumberByte b = false) :
    ∃ s' : Session, s.nextLabel = s'.nextLabel ∧
      s'.Stands { options, build, generation } (gap ++ rest) := by
  have hexhausted : s.exhausted = false := congrArg Stage.exhausted h.stage_eq
  obtain ⟨s₁, hlabel, hs₁⟩ := h.readLabel hlead (Label.isAlpha_of_mem_retired hk)
  obtain ⟨s₂, hdrop, hs₂⟩ := hs₁.dropSection label (by decide) hread hrest
  refine ⟨s₂, ?_, hs₂⟩
  rw [nextLabel_eq, hexhausted, if_neg Bool.false_ne_true, hlabel]
  simp only [Label.resolve_of_mem_retired hk, hdrop]

/-! ### The next kind -/

theorem nextKind_of_closed (h : s.array = .closed) (hp : s.pending = none) :
    s.nextKind = s.leave.nextLabel := by
  have hleave : s.leave.pending = none := hp
  rw [nextKind, finishCurrent_of_closed h]
  simp only [hleave]

theorem nextKind_of_pending {k : Kind} (h : s.array = .closed) (hp : s.pending = some k) :
    s.nextKind = (.ok (some k), ({ s.leave with pending := none } : Session).enter k) := by
  have hleave : s.leave.pending = some k := hp
  rw [nextKind, finishCurrent_of_closed h]
  simp only [hleave]

end Session

/-! ### Section after section -/

namespace Import

open Session

variable {i : Import Collection} {options : Options} {build : Int} {generation : Generation}
  {rest : List UInt8}

/-- **A section of records** is taken as a whole, and the import goes on behind it. -/
theorem takeKinds_of_records {s : Session} {k : Kind} {es : List Element}
    (hn : i.session.nextKind = (.ok (some k), s))
    (hs : s.Stands { options, build, generation, current := some k, array := .notStarted }
      ([58, 32] ++ 91 :: (Element.arrayBytes es ++ rest)))
    (hfits : ∀ e ∈ es, e.Fits options k) (hsinks : i.sinks.make = Sinks.memory.make) :
    ∃ (i' : Import Collection) (s' : Session),
      i.takeKinds Collection.handler = i'.takeKinds Collection.handler ∧
      i'.session.nextKind = s'.nextLabel ∧ s'.Stands { options, build, generation } rest ∧
      i'.sinks.make = Sinks.memory.make ∧
      i'.state = i.state.addAll
        ((Element.records options generation k [] es).map fun r => (k, r)) := by
  have hcurrent : s.current = some k := congrArg Stage.current hs.stage_eq
  have hstart : Reader.start s k i.sinks = .ofKind k { sinks := i.sinks } := by
    rw [Reader.start, hcurrent]
    rfl
  have hawaits : s.Awaits { options, build, generation, current := some k }
      ([] ++ (Element.arrayBytes es ++ rest)) := hs.awaits_of_label
  obtain ⟨i', hdeliver, hs', hsinks', hstate⟩ :=
    deliver_array (p := { options, build, generation, current := some k }) hfits
      (i := { i with session := s }) hawaits rfl (g := { sinks := i.sinks }) ⟨hsinks, rfl⟩
      (fun _ => rfl)
  have hclosed : i'.session.array = .closed := congrArg Stage.array hs'.stage_eq
  have hpending : i'.session.pending = none := congrArg Stage.pending hs'.stage_eq
  refine ⟨i', i'.session.leave, ?_, nextKind_of_closed hclosed hpending, hs'.leave, hsinks',
    hstate⟩
  rw [takeKinds_eq, hn]
  simp only [takeKind, Collection.handler, Handler.ofFold, if_true, hstart]
  rw [Collection.handler, Handler.ofFold] at hdeliver
  rw [hdeliver]

/-- **All sections** are taken one after the other, up to the brace that ends the export. -/
theorem takeKinds_sections {xs : List Section} (hfits : ∀ x ∈ xs, x.Fits options) {s : Session}
    {lead : List UInt8} (hn : i.session.nextKind = s.nextLabel)
    (hs : s.Stands { options, build, generation }
      (lead ++ Layout.partsBytes (xs.map Section.bytes)))
    (hlead : lead.all Scanner.isSeparator = true) (hsinks : i.sinks.make = Sinks.memory.make) :
    ∃ i', i.takeKinds Collection.handler = (.ok (), i') ∧
      i'.state = i.state.addAll (xs.flatMap (Section.contents options generation)) := by
  induction xs generalizing i s lead with
  | nil =>
    obtain ⟨s', hlabel⟩ := hs.nextLabel_brace hlead
    refine ⟨{ i with session := s' }, ?_, rfl⟩
    rw [takeKinds_eq, hn, hlabel]
  | cons x xs ih =>
    obtain ⟨hx, hxs⟩ := List.forall_mem_cons.mp hfits
    obtain ⟨lead', hlead', hbytes, hrest⟩ :=
      Layout.partsBytes_cons x.bytes (xs.map Section.bytes)
    rw [List.map_cons, hbytes] at hs
    cases x with
    | records label k es =>
      obtain ⟨hk, hes⟩ := hx
      rw [Section.bytes, List.append_assoc] at hs
      obtain ⟨s₁, hlabel, hs₁⟩ := hs.nextLabel_kind hlead hk
      obtain ⟨i', s', htake, hn', hs', hsinks', hstate⟩ :=
        takeKinds_of_records (hn.trans hlabel) hs₁ hes hsinks
      obtain ⟨i'', htake', hstate'⟩ := ih hxs hn' hs' hlead' hsinks'
      refine ⟨i'', htake.trans htake', ?_⟩
      rw [hstate', hstate, List.flatMap_cons, Collection.addAll_append]
      rfl
    | retired label text =>
      -- The import does not move: the same search for a label goes on behind the section.
      obtain ⟨hk, maxDepth, v, gap, hgap, hread⟩ := hx
      rw [Section.bytes, List.append_assoc] at hs
      obtain ⟨s', hlabel, hs'⟩ := hs.nextLabel_retired hlead hk hread hrest
      rw [← List.append_assoc] at hs'
      exact ih hxs (hn.trans hlabel) hs' (by simp [hgap, hlead']) hsinks

end Import

/-! ### The beginning -/

namespace Session

/-- An import from here collects these records. -/
def Yields (s : Session) (rs : List (Kind × Record)) : Prop :=
  ∀ i : Import Collection, i.session = s → i.sinks.make = Sinks.memory.make →
    ∃ i', i.takeKinds Collection.handler = (.ok (), i') ∧ i'.state = i.state.addAll rs

variable {s : Session} {options : Options} {build : Int} {generation : Generation}
  {lead rest : List UInt8} {xs : List Section}

/-- Between two kinds the records of the sections that are left are yielded. -/
theorem Stands.yields
    (h : s.Stands { options, build, generation } (lead ++ Layout.partsBytes (xs.map Section.bytes)))
    (hlead : lead.all Scanner.isSeparator = true) (hfits : ∀ x ∈ xs, x.Fits options) :
    s.Yields (xs.flatMap (Section.contents options generation)) := by
  intro i hi hsinks
  have hclosed : s.array = .closed := congrArg Stage.array h.stage_eq
  have hpending : s.pending = none := congrArg Stage.pending h.stage_eq
  have hn : i.session.nextKind = s.leave.nextLabel :=
    (congrArg nextKind hi).trans (nextKind_of_closed hclosed hpending)
  exact Import.takeKinds_sections hfits hn h.leave hlead hsinks

/-- Behind the last brace nothing is yielded. -/
theorem Stands.yields_nil
    (h : s.Stands { options, build, generation, exhausted := true } rest) : s.Yields [] := by
  intro i hi _
  have hclosed : s.array = .closed := congrArg Stage.array h.stage_eq
  have hpending : s.pending = none := congrArg Stage.pending h.stage_eq
  have hexhausted : s.leave.exhausted = true := congrArg Stage.exhausted h.stage_eq
  refine ⟨{ i with session := s.leave }, ?_, rfl⟩
  rw [Import.takeKinds_eq, hi, nextKind_of_closed hclosed hpending, nextLabel_eq, hexhausted,
    if_pos rfl]

/-- With a kind that waits, its records are yielded before those of the other sections. -/
theorem Stands.yields_pending {k : Kind} {es : List Element}
    (h : s.Stands { options, build, generation, pending := some k }
      ([58, 32] ++ 91 :: (Element.arrayBytes es ++
        (lead ++ Layout.partsBytes (xs.map Section.bytes)))))
    (hlead : lead.all Scanner.isSeparator = true) (hes : ∀ e ∈ es, e.Fits options k)
    (hfits : ∀ x ∈ xs, x.Fits options) {label : String} :
    s.Yields
      ((Section.records label k es :: xs).flatMap (Section.contents options generation)) := by
  intro i hi hsinks
  have hclosed : s.array = .closed := congrArg Stage.array h.stage_eq
  have hpending : s.pending = some k := congrArg Stage.pending h.stage_eq
  have hn := (congrArg nextKind hi).trans (nextKind_of_pending hclosed hpending)
  have hfree : ({ s.leave with pending := none } : Session).Stands { options, build, generation }
      ([58, 32] ++ 91 :: (Element.arrayBytes es ++
        (lead ++ Layout.partsBytes (xs.map Section.bytes)))) :=
    h.leave.restage (fun q => { q with pending := none }) rfl rfl rfl rfl rfl
  obtain ⟨i', s', htake, hn', hs', hsinks', hstate⟩ :=
    Import.takeKinds_of_records hn (hfree.enter k) hes hsinks
  obtain ⟨i'', htake', hstate'⟩ := Import.takeKinds_sections hfits hn' hs' hlead hsinks'
  refine ⟨i'', htake.trans htake', ?_⟩
  rw [hstate', hstate, List.flatMap_cons, Collection.addAll_append]
  rfl

/-! ### The first label -/

theorem readFirstLabel_build {n : Int} (hn : Decimal.Fits64 n) (hfits : ∀ x ∈ xs, x.Fits options)
    (h : s.Stands { options }
      (lead ++ Layout.partsBytes (Layout.buildBytes n :: xs.map Section.bytes)))
    (hlead : lead.all Scanner.isSeparator = true) :
    ∃ s', s.readFirstLabel = (.ok (), s') ∧ s'.build = n ∧
      s'.opened.Yields (xs.flatMap (Section.contents options (.ofBuild n))) := by
  obtain ⟨lead', hlead', hbytes, hrest⟩ :=
    Layout.partsBytes_cons (Layout.buildBytes n) (xs.map Section.bytes)
  have hletters : "BuildVersion".toList.all Char.isAlpha = true := by decide
  rw [hbytes, Layout.buildBytes, List.append_assoc] at h
  obtain ⟨s₁, hlabel, hs₁⟩ := h.readLabel hlead (List.all_eq_true.mp hletters)
  obtain ⟨s₂, hread, hs₂⟩ := hs₁.readBuild hn hrest
  refine ⟨s₂, ?_, congrArg Stage.build hs₂.stage_eq, hs₂.opened.yields hlead' hfits⟩
  have hresolve : Label.resolve "BuildVersion" = .buildVersion := by decide
  rw [readFirstLabel, hlabel]
  simp only [hresolve]
  exact hread

theorem readFirstLabel_section (hfits : ∀ x ∈ xs, x.Fits options)
    (h : s.Stands { options } (lead ++ Layout.partsBytes (xs.map Section.bytes)))
    (hlead : lead.all Scanner.isSeparator = true) :
    ∃ s', s.readFirstLabel = (.ok (), s') ∧ s'.build = 0 ∧
      s'.opened.Yields (xs.flatMap (Section.contents options .unknown)) := by
  cases xs with
  | nil =>
    obtain ⟨s₁, hlabel, hs₁⟩ := h.readLabel_brace hlead
    have hs₂ : ({ s₁ with exhausted := true } : Session).Stands { options, exhausted := true }
        [] :=
      hs₁.restage (fun q => { q with exhausted := true }) rfl rfl rfl rfl rfl
    refine ⟨{ s₁ with exhausted := true }, ?_, congrArg Stage.build hs₂.stage_eq,
      hs₂.opened.yields_nil⟩
    rw [readFirstLabel, hlabel]
  | cons x xs =>
    obtain ⟨hx, hxs⟩ := List.forall_mem_cons.mp hfits
    obtain ⟨lead', hlead', hbytes, hrest⟩ :=
      Layout.partsBytes_cons x.bytes (xs.map Section.bytes)
    rw [List.map_cons, hbytes] at h
    cases x with
    | records label k es =>
      obtain ⟨hk, hes⟩ := hx
      rw [Section.bytes, List.append_assoc] at h
      obtain ⟨s₁, hlabel, hs₁⟩ := h.readLabel hlead (Label.isAlpha_of_mem_kinds hk)
      -- The label is read, but the session does not stand at its kind before it is asked to.
      have hs₂ : ({ s₁ with pending := some k } : Session).Stands { options, pending := some k }
          ([58, 32] ++ 91 :: (Element.arrayBytes es ++
            (lead' ++ Layout.partsBytes (xs.map Section.bytes)))) :=
        hs₁.restage (fun q => { q with pending := some k }) rfl rfl rfl rfl rfl
      refine ⟨{ s₁ with pending := some k }, ?_, congrArg Stage.build hs₂.stage_eq,
        hs₂.opened.yields_pending hlead' hes hxs⟩
      rw [readFirstLabel, hlabel]
      simp only [Label.resolve_of_mem_kinds hk]
    | retired label text =>
      obtain ⟨hk, maxDepth, v, gap, hgap, hread⟩ := hx
      rw [Section.bytes, List.append_assoc] at h
      obtain ⟨s₁, hlabel, hs₁⟩ := h.readLabel hlead (Label.isAlpha_of_mem_retired hk)
      obtain ⟨s₂, hdrop, hs₂⟩ := hs₁.dropSection label (by decide) hread hrest
      rw [← List.append_assoc] at hs₂
      refine ⟨s₂, ?_, congrArg Stage.build hs₂.stage_eq,
        hs₂.opened.yields (by simp [hgap, hlead']) hxs⟩
      rw [readFirstLabel, hlabel]
      simp only [Label.resolve_of_mem_retired hk]
      exact hdrop

/-- **A layout is opened** up to its first section. -/
theorem begin_layout {l : Layout} (hvalid : options.validate = .ok ()) (hfits : l.Fits options)
    (h : s.Stands { options } l.bytes) :
    ∃ s', s.begin = (.ok (), s') ∧ s'.build = l.build.getD 0 ∧ s'.Yields (l.records options) := by
  have hoptions : s.options = options := congrArg Stage.options h.stage_eq
  have hscan : Scanner.scan .idle l.bytes = .token .startObject (Layout.partsBytes
      ((l.build.map Layout.buildBytes).toList ++ l.sections.map Section.bytes)) :=
    Scanner.scan_idle_iff.mpr ⟨[], [123], rfl, rfl, .startObject, fun hn => by cases hn⟩
  obtain ⟨s₁, hbrace, hs₁⟩ := h.readToken hscan
  have hfirst : ∃ s', s₁.readFirstLabel = (.ok (), s') ∧ s'.build = l.build.getD 0 ∧
      s'.opened.Yields (l.records options) := by
    obtain ⟨build?, sections⟩ := l
    cases build? with
    | some n =>
      have hs₁' : s₁.Stands { options } ([] ++ Layout.partsBytes
        (Layout.buildBytes n :: sections.map Section.bytes)) := hs₁
      exact readFirstLabel_build (hfits.build n rfl) hfits.sections hs₁' rfl
    | none =>
      have hs₁' : s₁.Stands { options } ([] ++ Layout.partsBytes
        (sections.map Section.bytes)) := hs₁
      exact readFirstLabel_section hfits.sections hs₁' rfl
  obtain ⟨s₂, hread, hbuild, hyields⟩ := hfirst
  refine ⟨s₂.opened, ?_, hbuild, hyields⟩
  rw [begin, hoptions, hvalid]
  simp only [hbrace, hread]

end Session

/-! ### Whole exports -/

namespace Import

theorem tell_collection (i : Import Collection) (e : Event) :
    i.tell Collection.handler e = (.ok (), { i with state := i.state.add e }) := rfl

/-- Driving a session collects what it yields. -/
theorem drive_of_yields {s : Session} {rs : List (Kind × Record)} (h : s.Yields rs) :
    ∃ i, ({ session := s, sinks := .memory, state := {} } : Import Collection).drive
        Collection.handler = (.ok (), i) ∧
      i.state = { build := some s.build, records := rs.toArray, finished := true } := by
  obtain ⟨i, htake, hstate⟩ :=
    h { session := s, sinks := .memory, state := { build := some s.build } } rfl rfl
  simp only [Collection.addAll] at hstate
  refine ⟨({ i with state := i.state.add .finish } : Import Collection).conclude, ?_, ?_⟩
  · have hheader : (({} : Collection).add (.header s.build s.generation)) =
        { build := some s.build } := rfl
    rw [drive, tell_collection]
    simp only [hheader, htake, tell_collection]
    rfl
  · show i.state.add .finish = _
    rw [hstate]
    simp [Collection.add]

/-- **Reading undoes writing.** An export that is laid out and fits the options is read without a
failure from every steady supply of its bytes, and what is collected is what is in it, in order. -/
theorem run_layout {l : Layout} {o : Options} (hvalid : o.validate = .ok ()) (hfits : l.Fits o)
    {supply : Supply} (hsteady : supply.Steady) (hrest : supply.rest = l.bytes) (tally : Tally) :
    ∃ i, run supply o tally .memory Collection.handler {} = (.ok (), i) ∧
      i.state.build = some (l.build.getD 0) ∧ i.state.records.toList = l.records o ∧
      i.state.finished = true := by
  have hstart := Session.stands_start hsteady o tally
  rw [hrest] at hstart
  obtain ⟨s, hbegin, hbuild, hyields⟩ := Session.begin_layout hvalid hfits hstart
  obtain ⟨i, hdrive, hstate⟩ := drive_of_yields hyields
  refine ⟨i, ?_, ?_, ?_, ?_⟩
  · rw [run, hbegin]
    exact hdrive
  · rw [hstate, hbuild]
  · rw [hstate]
  · rw [hstate]

end Import

/-- A document with an attachment whose payload looks like the end of the array and the beginning of
another one, and a section behind them that is passed over. -/
def Layout.disguised : Layout where
  build := some 50001
  sections :=
    [.records "DOCS" .documents
        [.attachment
            (Text.Utf8.bytesOf ("\x7b\"@metadata\": \x7b\"@export-type\": \"Attachment\"\x7d, " ++
              "\"Hash\": \"h\", \"Size\": 10, \"Tag\": \"t\"\x7d"))
            (.object
              [("@metadata", .object [("@export-type", .string "Attachment")]),
                ("Hash", .string "h"), ("Size", .int 10), ("Tag", .string "t")])
            (Text.Utf8.bytesOf "],\"Docs\":["),
          .plain (Text.Utf8.bytesOf "\x7b\"@metadata\": \x7b\"@id\": \"letters/1\"\x7d\x7d ")
            (.object [("@metadata", .object [("@id", .string "letters/1")])])],
      .retired "Transformers" (Text.Utf8.bytesOf "[\x7b\"Name\": 1\x7d]")]

theorem Layout.fits_disguised : disguised.Fits {} where
  build := by
    rintro n h
    cases h
    exact ⟨by decide, by decide⟩
  sections := by
    intro x hx
    rcases List.mem_cons.mp hx with rfl | hx
    · refine ⟨by decide +kernel, ?_⟩
      intro e he
      rcases List.mem_cons.mp he with rfl | he
      · refine ⟨rfl, ?_, ?_, ?_, ?_, ?_⟩
        all_goals decide +kernel
      · rw [List.mem_singleton.mp he]
        exact ⟨⟨[32], by decide, by decide +kernel⟩, fun _ => by decide +kernel⟩
    · rw [List.mem_singleton.mp hx]
      exact ⟨by decide +kernel, 256, .array [.object [("Name", .int 1)]], [], rfl,
        by decide +kernel⟩

theorem Import.run_disguised :
    ∃ i, run { rest := Layout.disguised.bytes } {} {} .memory Collection.handler {} = (.ok (), i) ∧
      i.state.build = some 50001 ∧
      (i.state.records.toList.map fun r => (r.1, r.2.id, r.2.attachmentCount)) =
        [(.documents, "letters/1", 1)] ∧
      i.state.finished = true := by
  have hsteady : ({ rest := Layout.disguised.bytes } : Supply).Steady := by simp [Supply.Steady]
  obtain ⟨i, hrun, hbuild, hrecords, hfinished⟩ :=
    run_layout rfl Layout.fits_disguised hsteady rfl {}
  refine ⟨i, hrun, hbuild, ?_, hfinished⟩
  rw [hrecords]
  decide +kernel

end ExportStream
