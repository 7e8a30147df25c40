import ExportStream.Proofs.PassedSections
/-!
# Retired sections

A section of older exports is passed over wherever a label is due. It is put in where an import
reads a label: at any of these places (`Import.LabelPlace`) the import comes to the same end as
without it, with the same answers of the handler and the same tally
(**`Import.run_with_retired_section`**).

There is one thing that such a section hides. The beginning of an export is read up to its first
label only, and the build that the header tells is known only if that label announces it. If a
retired section stands before it, the header tells that no build is known
(`Import.build_hidden_by_retired_section`); the tally and all that is read later know it all the
same.

Up to the place both imports are abreast of each other, before what ends either stream. At the place
the second one passes over the section, and from the next label on both are abreast of each other up
to the end.
-/

namespace ExportStream

variable {σ : Type} {inserted rest gap : List UInt8}

/-! ### Handlers that hear of no build -/

/-- The event as it is told of an export whose build is not known. -/
def Event.withoutBuild : Event → Event
  | .header _ _ => .header 0 .unknown
  | e => e

/-- The handler from which the build is hidden, or not. -/
def Handler.unaware (hidden : Bool) (h : Handler σ) : Handler σ :=
  { h with handle := fun e st => h.handle (bif hidden then e.withoutBuild else e) st }

theorem Handler.handle_unaware (hidden : Bool) (h : Handler σ) {e : Event} (he : e.withoutBuild = e)
    (st : σ) : (h.unaware hidden).handle e st = h.handle e st := by
  cases hidden
  · rfl
  · simp only [unaware, cond_true, he]

namespace Import

variable {h : Handler σ} {i i' j : Import σ} {x : Session}

theorem deliver_unaware (hidden : Bool) (i : Import σ) (k : Kind) (r : Reader) :
    i.deliver (h.unaware hidden) k r = i.deliver h k r := by
  have hrecord (y : Record) (st : σ) :
      (h.unaware hidden).handle (.record k y) st = h.handle (.record k y) st :=
    h.handle_unaware hidden rfl st
  fun_induction deliver i h k r with
  | case1 i r r₁ s₁ hp => rw [deliver_eq, hp]
  | case2 i r f r₁ s₁ hp => rw [deliver_eq, hp]
  | case3 i r y r₁ s₁ hp f state hh =>
    rw [deliver_eq, hp]
    simp only [hrecord, hh]
  | case4 i r y r₁ s₁ hp state hh ih =>
    rw [deliver_eq, hp]
    simp only [hrecord, hh]
    exact ih

theorem takeKinds_unaware (hidden : Bool) (i : Import σ) :
    i.takeKinds (h.unaware hidden) = i.takeKinds h := by
  have htake (i : Import σ) (k : Kind) :
      i.takeKind (h.unaware hidden) k = i.takeKind h k := by
    have hwants : (h.unaware hidden).wants = h.wants := rfl
    unfold takeKind
    rw [hwants, deliver_unaware]
  fun_induction takeKinds i h with
  | case1 i f s hn => rw [takeKinds_eq, hn]
  | case2 i s hn => rw [takeKinds_eq, hn]
  | case3 i k s hn f i' hk =>
    rw [takeKinds_eq, hn]
    simp only [htake, hk]
  | case4 i k s hn i' hk ih =>
    rw [takeKinds_eq, hn]
    simp only [htake, hk]
    exact ih

/-! ### Places -/

/-- Taking kinds, the import comes to the session, which reads a label. -/
inductive LabelDue (h : Handler σ) : Import σ → Session → Prop where
  /-- On the way to the next kind. -/
  | ahead {i : Import σ} {s t : Session} : i.session.finishCurrent = (.ok (), s) →
      s.pending = none → s.LabelDue t → LabelDue h i t
  /-- Behind the next kind. -/
  | behind {i i' : Import σ} {s t : Session} {k : Kind} : i.session.nextKind = (.ok (some k), s) →
      ({ i with session := s } : Import σ).takeKind h k = (.ok (), i') → LabelDue h i' t →
      LabelDue h i t

/-- An import reads a label where the rest of its stream begins, or behind separators before that;
`hides` tells whether that is its first label and announces the build. -/
inductive LabelPlace (supply : Supply) (options : Options) (tally : Tally) (sinks : Sinks)
    (h : Handler σ) (state : σ) (rest : List UInt8) : Bool → Prop where
  /-- Behind the first brace. -/
  | first {s s' : Session} {gap : List UInt8} {label : Option String} :
      (Session.start supply options tally).readToken = (.ok .startObject, s) →
      s.readLabel = (.ok label, s') → gap.all Scanner.isSeparator = true →
      s.cursor.remaining = gap ++ rest →
      LabelPlace supply options tally sinks h state rest
        (label.map Label.resolve = some .buildVersion)
  /-- Behind the header. -/
  | later {s t : Session} {i : Import σ} {gap : List UInt8} :
      (Session.start supply options tally).begin = (.ok (), s) →
      ({ session := s, sinks, state } : Import σ).tell h (.header s.build s.generation) =
        (.ok (), i) →
      LabelDue h i t → gap.all Scanner.isSeparator = true → t.cursor.remaining = gap ++ rest →
      LabelPlace supply options tally sinks h state rest false

namespace LabelDue

theorem holds (hd : LabelDue h i x) (hx : x.Holds rest) : i.session.Holds rest := by
  induction hd with
  | ahead hf _ hdue => exact (Session.spent_finishCurrent hf).holds (hdue.spent.holds hx)
  | behind hn hk _ ih =>
    exact Session.holds_nextKind hn ((spent_takeKind hk).holds (ih hx))

/-- A retired section is passed over where a label is read on the way to the end. -/
theorem takeKinds_inserted (hd : LabelDue h i x) (hins : RetiredSection inserted)
    (hgap : gap.all Scanner.isSeparator = true) (hx : x.cursor.remaining = gap ++ rest)
    (hij : i.Abreast rest (inserted ++ rest) j) (hr : i.takeKinds h = (.ok (), i')) :
    ∃ j', j.takeKinds h = (.ok (), j') ∧ i'.Abreast [] [] j' := by
  induction hd generalizing j with
  | @ahead i s t hf hp hdue =>
    obtain @⟨t, hs, hsinks⟩ := hij
    obtain ⟨t₁, ht₁, h₁⟩ := hs.finishCurrent hf (hdue.spent.holds (Session.holds_of_remaining hx))
    have hlabels : i.session.nextKind = s.nextLabel := by
      rw [Session.nextKind, hf]
      simp only [hp]
    have hlabels' : t.nextKind = t₁.nextLabel := by
      rw [Session.nextKind, ht₁]
      simp only [h₁.pending_eq, hp]
    refine takeKinds_of_nextKind hsinks ?_ (fun _ _ _ h₂ hr₂ => h₂.takeKinds hr₂) hr
    intro k s' hn
    rw [hlabels] at hn
    rw [hlabels']
    exact hdue.nextLabel_inserted hins hgap hx h₁ hn
  | @behind i i₁ s t k hn hk hdue ih =>
    obtain @⟨t, hs, hsinks⟩ := hij
    have hk₁ := hdue.holds (Session.holds_of_remaining hx)
    obtain ⟨t₁, ht₁, h₁⟩ := hs.nextKind hn ((spent_takeKind hk).holds hk₁)
    have hstart : ({ i with session := s } : Import σ).Abreast rest (inserted ++ rest)
        { i with session := t₁ } := .intro h₁ hsinks
    obtain ⟨j₁, hj₁, h₂⟩ := hstart.takeKind hk hk₁
    rw [takeKinds_eq, hn] at hr
    rw [takeKinds_eq]
    simp only [hk] at hr
    simp only [ht₁, hj₁]
    exact ih hx h₂ hr

end LabelDue

/-! ### Whole imports -/

theorem tell_eq_ok_iff {e : Event} :
    i.tell h e = (.ok (), i') ↔
      ∃ st, h.handle e i.state = (.ok (), st) ∧ i' = { i with state := st } := by
  unfold tell
  rcases h.handle e i.state with ⟨r, st⟩
  constructor
  · intro ht
    cases ht
    exact ⟨st, rfl, rfl⟩
  · rintro ⟨st', hst, rfl⟩
    cases hst
    rfl

theorem run_eq_ok_iff {supply : Supply} {options : Options} {tally : Tally} {sinks : Sinks}
    {state : σ} :
    run supply options tally sinks h state = (.ok (), i) ↔
      ∃ s, (Session.start supply options tally).begin = (.ok (), s) ∧
        ({ session := s, sinks, state } : Import σ).drive h = (.ok (), i) := by
  unfold run
  rcases (Session.start supply options tally).begin with ⟨f | _, s⟩ <;> simp

/-- The header tells a handler of no build if the first label announces none, or if the build is
hidden from it. -/
theorem header_unaware (h : Handler σ) {s t u : Session} {label : Option String}
    (hl : s.readLabel = (.ok label, t)) (hfirst : s.readFirstLabel = (.ok (), u))
    (hb : s.build = 0) (hg : s.generation = .unknown) (state : σ) :
    (h.unaware (label.map Label.resolve = some .buildVersion)).handle
        (.header u.opened.build u.opened.generation) state =
      h.handle (.header 0 .unknown) state := by
  by_cases hbuild : label.map Label.resolve = some .buildVersion
  · simp only [hbuild, decide_true]
    rfl
  · obtain ⟨hb', hg'⟩ := Session.build_of_readFirstLabel hl hfirst hbuild
    have hopened : u.opened.build = 0 ∧ u.opened.generation = .unknown :=
      ⟨hb'.trans hb, hg'.trans hg⟩
    simp only [hbuild, decide_false, hopened]
    rfl

section Insertion

variable {u v : Supply} {front : List UInt8} {options : Options} {tally : Tally} {sinks : Sinks}
  {state : σ}

/-- In front of their streams both sessions are abreast of each other. -/
theorem abreast_start (hu : u.Steady) (hv : v.Steady) (hfront : u.rest = front ++ rest)
    (hfront' : v.rest = front ++ (inserted ++ rest)) (hins : RetiredSection inserted) :
    (Session.start u options tally).Abreast rest (inserted ++ rest)
      (Session.start v options tally) := by
  have hcursors : (Cursor.start u options.bufferSize options.diagnosticWindow).Abreast rest
      (inserted ++ rest) (Cursor.start v options.bufferSize options.diagnosticWindow) :=
    ⟨fun t _ => hins.endsBefore t rest, front, hfront ▸ Cursor.at_start hu _ _,
      hfront' ▸ Cursor.at_start hv _ _⟩
  exact .intro hcursors rfl (Nat.le_max_right _ _) (Nat.le_max_right _ _)

/-- Behind the first brace a retired section is passed over when the export is opened. -/
theorem begin_inserted (hu : u.Steady) (hv : v.Steady) (hfront : u.rest = front ++ rest)
    (hfront' : v.rest = front ++ (inserted ++ rest)) (hins : RetiredSection inserted)
    (hvalid : options.validate = .ok ()) {s s' : Session} {label : Option String}
    (hbrace : (Session.start u options tally).readToken = (.ok .startObject, s))
    (hl : s.readLabel = (.ok label, s')) (hgap : gap.all Scanner.isSeparator = true)
    (hrest : s.cursor.remaining = gap ++ rest) :
    ∃ d p, s.cursor.Apart d ∧ 0 < p.bufferSize ∧
      (Session.start v options tally).begin =
        (.ok (), (Session.unread options tally d p).opened) := by
  obtain ⟨t, ht, h₁⟩ := (abreast_start hu hv hfront hfront' hins).readToken hbrace
    (Session.holds_of_remaining hrest)
  have hs := Session.readToken_moves hbrace
  obtain @⟨d, p, hcd, hdepth, -, hp⟩ := h₁
  obtain ⟨gap', hc, hd⟩ := hcd.stand
  obtain rfl : gap' = gap := List.append_cancel_right (hc.remaining_eq.symm.trans hrest)
  have hstands : ({ s with cursor := d, copier := p } : Session).Stands s.stage
      (gap' ++ (inserted ++ rest)) := ⟨hd, hdepth, hp, rfl⟩
  obtain ⟨label', t₁, t₂, trail, hl', hresolve, hdrop, htrail, h₂⟩ :=
    hins.passed hgap (Session.endsNumber_of_readLabel hc hgap hl) hstands
  have ht₂ : t₂ = Session.unread options tally t₂.cursor p := by
    rw [Session.dropSection_moves hdrop, Session.readLabel_moves hl', hs]
    rfl
  refine ⟨t₂.cursor, p, ⟨gap', trail, rest, hgap, htrail, hc, h₂.before⟩, hp, ?_⟩
  have hfirst : ({ s with cursor := d, copier := p } : Session).readFirstLabel = (.ok (), t₂) := by
    rw [Session.readFirstLabel, hl']
    simp only [hresolve]
    exact hdrop
  exact Session.begin_eq_ok_iff.mpr ⟨hvalid, _, t₂, ht, hfirst, by rw [← ht₂]⟩

/-- **Retired sections are passed over silently.** If a retired section is put in where an import
reads a label, the import comes to the same end, with the same answers of its handler and the same
tally. But before a first label that announces the build, the section hides the build from the
handler. -/
theorem run_with_retired_section (hu : u.Steady) (hv : v.Steady) (hfront : u.rest = front ++ rest)
    (hfront' : v.rest = front ++ (inserted ++ rest)) (hins : RetiredSection inserted)
    (hsinks : sinks.Willing) {hides : Bool}
    (hplace : LabelPlace u options tally sinks h state rest hides)
    (hrun : run u options tally sinks (h.unaware hides) state = (.ok (), i)) :
    ∃ j, run v options tally sinks h state = (.ok (), j) ∧ j.state = i.state ∧
      j.session.tally = i.session.tally := by
  have hresult {j : Import σ} (hij : i.Abreast [] [] j) :
      j.state = i.state ∧ j.session.tally = i.session.tally := by
    obtain ⟨⟨⟩, -⟩ := hij
    exact ⟨rfl, rfl⟩
  obtain ⟨s, hbegin, hdrive⟩ := run_eq_ok_iff.mp hrun
  obtain ⟨i₁, i₂, i₃, st, htell, hkinds, hfinish, hfinal, rfl⟩ := drive_eq_ok_iff.mp hdrive
  rw [takeKinds_unaware] at hkinds
  have hfinish' : i₂.tell h .finish = (.ok (), i₃) := by
    obtain ⟨st', hst, rfl⟩ := tell_eq_ok_iff.mp hfinish
    rw [h.handle_unaware hides rfl] at hst
    exact tell_eq_ok_iff.mpr ⟨st', hst, rfl⟩
  cases hplace with
  | @first s₁ s₂ gap label hbrace hl hgap hrest =>
    obtain ⟨hvalid, s₁', s₂', hbrace', hfirst, rfl⟩ := Session.begin_eq_ok_iff.mp hbegin
    rw [hbrace] at hbrace'
    cases hbrace'
    obtain ⟨d, p, hcd, hp, hbegin'⟩ :=
      begin_inserted hu hv hfront hfront' hins hvalid hbrace hl hgap hrest
    obtain ⟨st₁, hheader, rfl⟩ := tell_eq_ok_iff.mp htell
    have hs := Session.readToken_moves hbrace
    rw [header_unaware h hl hfirst (by rw [hs]; rfl) (by rw [hs]; rfl)] at hheader
    rw [hs] at hfirst
    obtain ⟨j₂, hkinds', h₂⟩ :=
      takeKinds_of_nextKind (t := (Session.unread options tally d p).opened) hsinks
        (fun k s' hn => by
          rw [Session.nextKind_of_closed rfl rfl]
          exact Session.nextLabel_of_readFirstLabel (hcd.note _) (Nat.le_max_right _ _) hp hfirst hn)
        (fun _ _ _ h₂ hr₂ => h₂.takeKinds hr₂) hkinds
    obtain ⟨j, hj, hij⟩ := h₂.drive_of_takeKinds
      (j := { session := (Session.unread options tally d p).opened, sinks, state })
      hfinish' hfinal (tell_eq_ok_iff.mpr ⟨st₁, hheader, rfl⟩) hkinds'
    exact ⟨j, run_eq_ok_iff.mpr ⟨_, hbegin', hj⟩, hresult hij⟩
  | @later s₁ t i₁' gap hbegin₁ htell₁ hdue hgap hrest =>
    rw [hbegin₁] at hbegin
    cases hbegin
    have hsame : i₁' = i₁ := congrArg Prod.snd (htell₁.symm.trans htell)
    rw [hsame] at hdue
    have hholds : s.Holds rest := by
      have hi₁ := hdue.holds (Session.holds_of_remaining hrest)
      obtain ⟨st₁, -, rfl⟩ := tell_eq_ok_iff.mp htell
      exact hi₁
    obtain ⟨t₁, hbegin', ht₁⟩ := (abreast_start hu hv hfront hfront' hins).begin hbegin₁ hholds
    have hstart : ({ session := s, sinks, state } : Import σ).Abreast rest (inserted ++ rest)
        { session := t₁, sinks, state } := .intro ht₁ hsinks
    obtain ⟨j₁, hj₁, h₁⟩ := hstart.tell htell
    obtain ⟨j₂, hj₂, h₂⟩ := hdue.takeKinds_inserted hins hgap hrest h₁ hkinds
    obtain ⟨⟩ := ht₁
    obtain ⟨j, hj, hij⟩ := h₂.drive_of_takeKinds hfinish' hfinal hj₁ hj₂
    exact ⟨j, run_eq_ok_iff.mpr ⟨_, hbegin', hj⟩, hresult hij⟩

end Insertion

/-- What has an answer succeeds with it. -/
theorem ok_of_toOption {α β : Type} {x : Except Failure α × β} {a : α}
    (h : x.1.toOption = some a) : x = (.ok a, x.2) := by
  obtain ⟨f | b, y⟩ := x
  · cases h
  · cases h
    rfl

/-- The section `"Transformers":[],` in front of `"BuildVersion":40018}`: the header told of the build
before, and tells of none behind the section, though the tally knows it at the end. -/
theorem build_hidden_by_retired_section :
    let inserted := Text.Utf8.bytesOf "\"Transformers\":[],"
    let rest := Text.Utf8.bytesOf "\"BuildVersion\":40018\x7d"
    let u : Supply := { rest := [123] ++ rest }
    let v : Supply := { rest := [123] ++ (inserted ++ rest) }
    RetiredSection inserted ∧
      LabelPlace u {} {} .memory Collection.handler {} rest true ∧
      ∃ i j, run u {} {} .memory Collection.handler {} = (.ok (), i) ∧
        run v {} {} .memory Collection.handler {} = (.ok (), j) ∧
        i.state.build = some 40018 ∧ j.state.build = some 0 ∧
        i.session.tally.build = some 40018 ∧ j.session.tally.build = some 40018 := by
  intro inserted rest u v
  have hlower : Text.lower "Transformers" ∈ Label.retiredSections := by decide +kernel
  have hins : RetiredSection inserted :=
    @RetiredSection.intro [] (34 :: (Text.Utf8.bytesOf "Transformers" ++ [34])) [58] [91, 93] [44]
      "Transformers" (.array []) 1 rfl (Token.spells_letters (Label.isAlpha_of_mem_retired hlower))
      hlower rfl (by decide +kernel) rfl
  have hplace : LabelPlace u {} {} .memory Collection.handler {} rest true := by
    let s := (Session.start u {} {}).readToken.2
    have hrest : s.cursor.remaining = [] ++ rest := by decide +kernel
    have hlabel : s.readLabel = (.ok (some "BuildVersion"), s.readLabel.2) :=
      ok_of_toOption (by decide +kernel)
    have hbuild : Label.resolve "BuildVersion" = .buildVersion := by decide +kernel
    have hfirst : LabelPlace u {} {} .memory Collection.handler {} rest
        ((some "BuildVersion").map Label.resolve = some .buildVersion) :=
      .first (ok_of_toOption (by decide +kernel)) hlabel rfl hrest
    simpa [hbuild] using hfirst
  exact ⟨hins, hplace, _, _, ok_of_toOption (by decide +kernel), ok_of_toOption (by decide +kernel),
    by decide +kernel, by decide +kernel, by decide +kernel, by decide +kernel⟩

/-- The section `"transFORMERS" : {"a":[{},"]}"]}`, between the identities of an export and the label
of its build, which comes late. -/
theorem run_with_retired_section_between :
    let front := Text.Utf8.bytesOf
      "\x7b\"Identities\":[\x7b\"Key\":\"k|\",\"Value\":5\x7d],"
    let inserted := Text.Utf8.bytesOf " \"transFORMERS\" : \x7b\"a\":[\x7b\x7d,\"]\x7d\"]\x7d,"
    let rest := Text.Utf8.bytesOf "\"BuildVersion\":40018\x7d"
    let u : Supply := { rest := front ++ rest }
    let v : Supply := { rest := front ++ (inserted ++ rest), portions := [1] }
    RetiredSection inserted ∧
      LabelPlace u {} {} .memory Collection.handler {} rest false ∧
      ∃ i j, run u {} {} .memory (Collection.handler.unaware false) {} = (.ok (), i) ∧
        run v {} {} .memory Collection.handler {} = (.ok (), j) ∧
        j.state = i.state ∧ j.session.tally = i.session.tally ∧ j.state.records.size = 1 := by
  intro front inserted rest u v
  have hlower : Text.lower "transFORMERS" ∈ Label.retiredSections := by decide +kernel
  have hins : RetiredSection inserted :=
    @RetiredSection.intro [32] (34 :: (Text.Utf8.bytesOf "transFORMERS" ++ [34])) [32, 58, 32]
      (Text.Utf8.bytesOf "\x7b\"a\":[\x7b\x7d,\"]\x7d\"]\x7d") [44] "transFORMERS"
      (.object [("a", .array [.object [], .string "]\x7d"])]) 3 rfl
      (Token.spells_letters (Label.isAlpha_of_mem_retired hlower)) hlower rfl (by decide +kernel) rfl
  have hplace : LabelPlace u {} {} .memory Collection.handler {} rest false := by
    let s := (Session.start u {} {}).begin.2
    let s₁ := s.nextKind.2
    let i : Import Collection := { session := s₁, sinks := .memory, state := { build := some s.build } }
    let i₁ := (i.takeKind Collection.handler .identities).2
    have hrest : i₁.session.finishCurrent.2.cursor.remaining = [44] ++ rest := by decide +kernel
    have hdue : LabelDue Collection.handler { i with session := s } i₁.session.finishCurrent.2 :=
      .behind (s := s₁) (ok_of_toOption (a := some .identities) (by decide +kernel))
        (ok_of_toOption (by decide +kernel))
        (.ahead (ok_of_toOption (by decide +kernel)) (by decide +kernel)
          (.here (by decide +kernel)))
    exact .later (ok_of_toOption (by decide +kernel)) rfl hdue rfl hrest
  have hdone : (run u {} {} .memory (Collection.handler.unaware false) {}).1.isOk = true ∧
      (run u {} {} .memory (Collection.handler.unaware false) {}).2.state.records.size = 1 := by
    decide +kernel
  rcases hrun : run u {} {} .memory (Collection.handler.unaware false) {} with ⟨f | _, i⟩
  · rw [hrun] at hdone
    cases hdone.1
  rw [hrun] at hdone
  obtain ⟨j, hj, hstate, htally⟩ :=
    run_with_retired_section (u := u) (v := v) (by simp [Supply.Steady, u])
      (by simp [Supply.Steady, v]) rfl rfl hins Sinks.willing_memory_all hplace hrun
  exact ⟨hins, hplace, i, j, rfl, hj, hstate, htally, by rw [hstate]; exact hdone.2⟩

end Import

end ExportStream
