import ExportStream.Proofs.Copying
import ExportStream.Proofs.IntegerTexts
import ExportStream.Proofs.Layout
/-!
# Sessions before some bytes

What a session does next depends on the bytes that are left, and on where it stands among labels and
arrays (`Session.Stage`). `Session.Stands` says both, and that the session is in order. Every
operation of a session then has one lemma: before bytes that begin with what the operation reads it
succeeds, and the session stands behind them.
-/

namespace ExportStream

namespace Session

/-- Where a session stands among labels and arrays, and what it knows of its export. -/
structure Stage where
  /-- The options. -/
  options : Options
  /-- The build. -/
  build : Int := 0
  /-- The generation. -/
  generation : Generation := .unknown
  /-- The kind that waits. -/
  pending : Option Kind := none
  /-- The kind at which the session stands. -/
  current : Option Kind := none
  /-- Where its array stands. -/
  array : ArrayState := .closed
  /-- Is the last brace read? -/
  exhausted : Bool := false

/-- Where a session stands. -/
def stage (s : Session) : Stage where
  options := s.options
  build := s.build
  generation := s.generation
  pending := s.pending
  current := s.current
  array := s.array
  exhausted := s.exhausted

/-- A session in order that stands at a stage and has these bytes left. -/
structure Stands (s : Session) (p : Stage) (bytes : List UInt8) : Prop where
  /-- The cursor stands before the bytes. -/
  before : s.cursor.At bytes
  /-- Elements may be nested as deep as the options say. -/
  depth_eq : s.assembler.maxDepth = p.options.maxDepth
  /-- The buffer for payloads can hold something. -/
  buffer_pos : 0 < s.copier.bufferSize
  /-- The stage. -/
  stage_eq : s.stage = p

variable {s : Session} {p : Stage} {bytes rest : List UInt8}

theorem stands_start {supply : Supply} (hs : supply.Steady) (options : Options) (tally : Tally) :
    (start supply options tally).Stands { options } supply.rest where
  before := Cursor.at_start hs _ _
  depth_eq := rfl
  buffer_pos := Nat.le_max_right _ _
  stage_eq := rfl

namespace Stands

/-! ### Counting and noting -/

/-- What labels and brackets change does not matter for what is read next. -/
theorem restage (h : s.Stands p bytes) {s' : Session} (f : Stage → Stage)
    (hoptions : (f p).options = p.options) (hcursor : s'.cursor = s.cursor)
    (hassembler : s'.assembler = s.assembler) (hcopier : s'.copier = s.copier)
    (hstage : s'.stage = f s.stage) : s'.Stands (f p) bytes where
  before := hcursor ▸ h.before
  depth_eq := by rw [hassembler, hoptions, h.depth_eq]
  buffer_pos := hcopier ▸ h.buffer_pos
  stage_eq := by rw [hstage, h.stage_eq]

theorem tally (h : s.Stands p bytes) (t : Tally) :
    ({ s with tally := t } : Session).Stands p bytes :=
  ⟨h.before, h.depth_eq, h.buffer_pos, h.stage_eq⟩

theorem note (h : s.Stands p bytes) (n : Notice) : (s.note n).Stands p bytes :=
  ⟨⟨h.before.sound.note n, h.before.idle, h.before.remaining_eq⟩, h.depth_eq, h.buffer_pos,
    h.stage_eq⟩

theorem warn (h : s.Stands p bytes) (k : Kind) (message : String) :
    (s.warn k message).Stands p bytes :=
  (h.note _).tally _

theorem settle (h : s.Stands p bytes) (k : Kind) (d : Decoded) : (d.settle k s).Stands p bytes := by
  cases d with
  | record r => exact h.tally _
  | deferred => exact h
  | skipped => exact h.tally _
  | ignored => exact h
  | rejected f v => exact (h.note _).tally _

/-! ### Tokens, values and payloads -/

theorem readToken (h : s.Stands p bytes) {t : Token}
    (hscan : Scanner.scan .idle bytes = .token t rest) :
    ∃ s', s.readToken = (.ok t, s') ∧ s'.Stands p rest := by
  obtain ⟨c, hread, hc⟩ := h.before.readToken hscan
  refine ⟨{ s with cursor := c }, ?_, hc, h.depth_eq, h.buffer_pos, h.stage_eq⟩
  rw [Session.readToken, hread]

/-- A token that is spelled behind separators is read. -/
theorem readSpelled {lead text : List UInt8} {t : Token} (h : s.Stands p (lead ++ (text ++ rest)))
    (hlead : lead.all Scanner.isSeparator = true) (hspells : t.Spells text)
    (hends : t.EndsBefore rest) : ∃ s', s.readToken = (.ok t, s') ∧ s'.Stands p rest :=
  h.readToken (Scanner.scan_idle_iff.mpr ⟨lead, text, rfl, hlead, hspells, hends⟩)

theorem readValue (h : s.Stands p bytes) {t : Token} {v : Json}
    (hbuilds : Assembly.Builds p.options.maxDepth [] t bytes v rest) :
    ∃ s', s.readValue t = (.ok v, s') ∧ s'.Stands p rest := by
  obtain ⟨a, c, hgo, hc, hdepth⟩ :=
    Assembler.go_of_builds hbuilds (a := s.assembler.reset) h.depth_eq rfl h.before
  refine ⟨{ s with assembler := a, cursor := c }, ?_, hc, hdepth, h.buffer_pos, h.stage_eq⟩
  rw [Session.readValue, Assembler.build, hgo]

theorem copyPayload {payload : List UInt8} (h : s.Stands p (payload ++ rest)) {sink : Sink}
    (hsink : sink.Willing) :
    ∃ s', s.copyPayload payload.length sink =
        (.ok (Digest.contentHash payload), sink.take payload, s') ∧ s'.Stands p rest := by
  have hremaining := h.before.remaining_eq
  have htake : s.cursor.remaining.take payload.length = payload := by
    rw [hremaining, List.take_left]
  have hle : payload.length ≤ s.cursor.remaining.length := by
    rw [hremaining, List.length_append]
    omega
  obtain ⟨w, hcopy, hahead, hscanner, hsink', hsize⟩ :=
    Copying.copy_enough (w := { copier := s.copier, cursor := s.cursor, sink }) h.before.sound hsink
      h.buffer_pos hle
  simp only [htake] at hcopy hscanner hsink' hsize
  refine ⟨{ s with copier := w.copier, cursor := w.cursor }, ?_, ⟨hahead.sound, ?_, ?_⟩,
    h.depth_eq, ?_, h.stage_eq⟩
  · rw [Session.copyPayload, hcopy]
    simp only [hsink']
  · exact hscanner.trans h.before.idle
  · rw [hahead.remaining_eq, hremaining, List.drop_left]
  · rw [hsize]
    exact h.buffer_pos

/-! ### Labels -/

theorem readLabel {lead : List UInt8} {label : String}
    (h : s.Stands p (lead ++ (Layout.labelBytes label ++ rest)))
    (hlead : lead.all Scanner.isSeparator = true)
    (hletters : ∀ c ∈ label.toList, c.isAlpha = true) :
    ∃ s', s.readLabel = (.ok (some label), s') ∧ s'.Stands p ([58, 32] ++ rest) := by
  rw [Layout.labelBytes, List.append_assoc] at h
  obtain ⟨s', hread, hs'⟩ :=
    h.readSpelled hlead (Token.spells_letters hletters) (fun hn => by cases hn)
  exact ⟨s', by rw [Session.readLabel, hread], hs'⟩

theorem readLabel_brace {lead : List UInt8} (h : s.Stands p (lead ++ 125 :: rest))
    (hlead : lead.all Scanner.isSeparator = true) :
    ∃ s', s.readLabel = (.ok none, s') ∧ s'.Stands p rest := by
  obtain ⟨s', hread, hs'⟩ := h.readSpelled hlead .endObject (fun hn => by cases hn)
  exact ⟨s', by rw [Session.readLabel, hread], hs'⟩

theorem readBuild {n : Int} (h : s.Stands p ([58, 32] ++ (Text.Utf8.bytesOf (toString n) ++ rest)))
    (hn : Decimal.Fits64 n)
    (hrest : ∃ b more, rest = b :: more ∧ Scanner.isNumberByte b = false) :
    ∃ s', s.readBuild = (.ok (), s') ∧
      s'.Stands { p with build := n, generation := .ofBuild n } rest := by
  obtain ⟨s', hread, hs'⟩ := h.readSpelled (by decide) (Token.spells_int hn) (fun _ => hrest)
  refine ⟨s'.setBuild n, by rw [Session.readBuild, hread], ?_⟩
  exact hs'.restage (fun q => { q with build := n, generation := .ofBuild n }) rfl rfl rfl rfl rfl

/-- A value is passed over by its brackets: as many are open as the builder has frames. -/
theorem dropValue {maxDepth : Nat} {frames : List Frame} {t : Token} {v : Json} (label : String)
    (hbuilds : Assembly.Builds maxDepth frames t bytes v rest) {front : List UInt8}
    (h : s.Stands p front) (hscan : Scanner.scan .idle front = .token t bytes) :
    ∃ s', s.dropValue label frames.length = (.ok (), s') ∧ s'.Stands p rest := by
  induction hbuilds generalizing s front with
  | done haccept =>
    obtain ⟨s', hread, hs'⟩ := h.readToken hscan
    refine ⟨s', ?_, hs'⟩
    rw [dropValue_eq, hread]
    simp only [Assembly.depthAfter_of_done haccept]
  | @more frames frames' t u bytes bytes' rest v haccept hscan' _ ih =>
    obtain ⟨s', hread, hs'⟩ := h.readToken hscan
    obtain ⟨s'', hdrop, hs''⟩ := ih hs' hscan'
    obtain ⟨hdepth, hne⟩ := Assembly.depthAfter_of_more haccept
    refine ⟨s'', ?_, hs''⟩
    rw [dropValue_eq, hread]
    simp only [hdepth]
    cases frames' with
    | nil => exact absurd rfl hne
    | cons frame outer => exact hdrop

theorem dropSection {maxDepth : Nat} {lead text gap : List UInt8} {v : Json} (label : String)
    (h : s.Stands p (lead ++ (text ++ rest))) (hlead : lead.all Scanner.isSeparator = true)
    (hread : v.ReadFrom maxDepth text gap)
    (hrest : ∃ b more, rest = b :: more ∧ Scanner.isNumberByte b = false) :
    ∃ s', s.dropSection label = (.ok (), s') ∧ s'.Stands p (gap ++ rest) := by
  obtain ⟨t, bytes, hscan, hbuilds⟩ := hread.before hlead (.inr hrest)
  obtain ⟨s', hdrop, hs'⟩ := dropValue label hbuilds h hscan
  refine ⟨s'.note (.retired label), ?_, hs'.note _⟩
  rw [Session.dropSection, show 0 = ([] : List Frame).length from rfl, hdrop]

/-! ### From kind to kind -/

theorem enter (h : s.Stands p bytes) (k : Kind) :
    (s.enter k).Stands { p with current := some k, array := .notStarted } bytes := by
  have hat : ({ s with current := some k, array := .notStarted } : Session).Stands
      { p with current := some k, array := .notStarted } bytes :=
    h.restage (fun q => { q with current := some k, array := .notStarted }) rfl rfl rfl rfl rfl
  exact hat.note _

theorem leave (h : s.Stands p bytes) :
    s.leave.Stands { p with current := none, array := .closed } bytes :=
  h.restage (fun q => { q with current := none, array := .closed }) rfl rfl rfl rfl rfl

theorem opened (h : s.Stands p bytes) : s.opened.Stands p bytes :=
  (h.tally _).note _

end Stands

/-! ### Elements -/

/-- A session whose next element is to be read off these bytes, of an array that is open or is about
to be opened. -/
def Awaits (s : Session) (p : Stage) (bytes : List UInt8) : Prop :=
  ∃ s' : Session, s.nextElement = s'.readElement ∧ s'.Stands { p with array := .isOpen } bytes

theorem Stands.awaits (h : s.Stands { p with array := .isOpen } bytes) : s.Awaits p bytes := by
  have harray : s.array = .isOpen := congrArg Stage.array h.stage_eq
  exact ⟨s, by rw [nextElement, harray], h⟩

/-- Behind the label of a kind the first element is awaited. -/
theorem Stands.awaits_of_label
    (h : s.Stands { p with array := .notStarted } ([58, 32] ++ 91 :: bytes)) :
    s.Awaits p bytes := by
  have harray : s.array = .notStarted := congrArg Stage.array h.stage_eq
  obtain ⟨s', hread, hs'⟩ := h.readSpelled (by decide) .startArray (fun hn => by cases hn)
  refine ⟨{ s' with array := .isOpen }, ?_, ?_⟩
  · rw [nextElement, harray]
    simp only [openArray, hread]
  · exact hs'.restage (fun q => { q with array := .isOpen }) rfl rfl rfl rfl rfl

namespace Awaits

theorem nextElement (h : s.Awaits p bytes) {t : Token} {front : List UInt8} {v : Json}
    (hscan : Scanner.scan .idle bytes = .token t front)
    (hbuilds : Assembly.Builds p.options.maxDepth [] t front v rest) :
    ∃ s', s.nextElement = (.ok (some v), s') ∧ s'.Stands { p with array := .isOpen } rest := by
  obtain ⟨s₁, hnext, hs₁⟩ := h
  obtain ⟨s₂, hread, hs₂⟩ := hs₁.readToken hscan
  obtain ⟨s₃, hvalue, hs₃⟩ := hs₂.readValue hbuilds
  refine ⟨s₃, ?_, hs₃⟩
  rw [hnext, readElement, hread]
  cases t with
  | endArray => cases hbuilds <;> contradiction
  | _ => simp only [hvalue]

theorem nextElement_bracket {lead : List UInt8} (h : s.Awaits p (lead ++ 93 :: rest))
    (hlead : lead.all Scanner.isSeparator = true) :
    ∃ s', s.nextElement = (.ok none, s') ∧ s'.Stands { p with array := .closed } rest := by
  obtain ⟨s₁, hnext, hs₁⟩ := h
  obtain ⟨s₂, hread, hs₂⟩ := hs₁.readSpelled hlead .endArray (fun hn => by cases hn)
  refine ⟨{ s₂ with array := .closed }, ?_, ?_⟩
  · rw [hnext, readElement, hread]
  · exact hs₂.restage (fun q => { q with array := .closed }) rfl rfl rfl rfl rfl

end Awaits

end Session

end ExportStream
