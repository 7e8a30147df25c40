import ExportStream.Proofs.AbreastImports
import ExportStream.Proofs.RoundTrip
/-!
# Sections that are passed over

A retired section (`RetiredSection`) is a label in any case of its letters, and a text that is read
as a value. It is put in where a session reads a label next. Sessions read labels in two ways, which
do not treat it alike.

On the way from kind to kind, the session reads the label, passes over the value and reads the next
label, as if it stood before that at once (`Session.LabelDue.nextLabel_inserted`).

When the export is opened, only one label is read. If that is the label of a retired section, the
label behind it is read on the way to the first kind. What follows is the same
(`Session.nextLabel_of_readFirstLabel`); only whoever asks in between is told that no build is known
(`Session.build_of_readFirstLabel`).
-/

namespace ExportStream

/-! ### Their bytes -/

/-- The bytes of a section that is passed over, with separators around it: a label in any case of its
letters, and a text that is read as a value however deep that is. -/
inductive RetiredSection : List UInt8 → Prop where
  /-- Separators, the label, separators, the value, and separators. -/
  | intro {lead text colon body trail : List UInt8} {label : String} {v : Json} {maxDepth : Nat} :
      lead.all Scanner.isSeparator = true → (Token.string label).Spells text →
      Text.lower label ∈ Label.retiredSections → colon.all Scanner.isSeparator = true →
      v.ReadFrom maxDepth body [] → trail.all Scanner.isSeparator = true →
      RetiredSection (lead ++ (text ++ (colon ++ (body ++ trail))))

namespace Scanner

/-- What spells no number ends a number before it. -/
theorem endsNumber_of_spells {t : Token} {text : List UInt8} (h : t.Spells text)
    (ht : t.isNumber = false) (bytes : List UInt8) : EndsNumber (text ++ bytes) := by
  cases h with
  | number _ _ hn =>
    rw [isNumber_of_numberToken hn] at ht
    cases ht
  | word w => cases w <;> exact ⟨_, _, rfl, rfl⟩
  | _ => exact ⟨_, _, rfl, rfl⟩

/-- What is scanned as no number ends a number before it. -/
theorem endsNumber_of_scan {t : Token} {bytes rest : List UInt8}
    (h : scan .idle bytes = .token t rest) (ht : t.isNumber = false) : EndsNumber bytes := by
  obtain ⟨gap, text, rfl, hgap, hspells, -⟩ := scan_idle_iff.mp h
  exact endsNumber_append hgap (endsNumber_of_spells hspells ht rest)

end Scanner

namespace RetiredSection

variable {inserted rest : List UInt8}

/-- Any token may end before a retired section. -/
theorem endsBefore (h : RetiredSection inserted) (u : Token) (rest : List UInt8) :
    u.EndsBefore (inserted ++ rest) := by
  obtain ⟨hlead, hspells, -, -, -, -⟩ := h
  intro _
  rw [List.append_assoc, List.append_assoc]
  exact Scanner.endsNumber_append hlead (Scanner.endsNumber_of_spells hspells rfl _)

/-- A session reads the label of a retired section and passes over its value. -/
theorem passed (h : RetiredSection inserted) {t : Session} {p : Session.Stage} {gap : List UInt8}
    (hgap : gap.all Scanner.isSeparator = true) (hrest : Scanner.EndsNumber rest)
    (ht : t.Stands p (gap ++ (inserted ++ rest))) :
    ∃ label t₁ t₂ trail, t.readLabel = (.ok (some label), t₁) ∧ Label.resolve label = .retired ∧
      t₁.dropSection label = (.ok (), t₂) ∧ trail.all Scanner.isSeparator = true ∧
      t₂.Stands p (trail ++ rest) := by
  obtain @⟨lead, text, colon, body, trail, label, v, maxDepth, hlead, hspells, hlabel, hcolon, hread,
    htrail⟩ := h
  have hbytes : gap ++ (lead ++ (text ++ (colon ++ (body ++ trail))) ++ rest) =
      (gap ++ lead) ++ (text ++ (colon ++ (body ++ (trail ++ rest)))) := by
    simp only [List.append_assoc]
  rw [hbytes] at ht
  obtain ⟨t₁, ht₁, h₁⟩ := ht.readSpelled (by simp [hgap, hlead]) hspells (fun hn => by cases hn)
  obtain ⟨t₂, ht₂, h₂⟩ :=
    h₁.dropSection label hcolon hread (Scanner.endsNumber_append htrail hrest)
  exact ⟨label, t₁, t₂, trail, Session.readLabel_eq_ok_iff.mpr ht₁,
    Label.resolve_of_mem_retired hlabel, ht₂, htrail, h₂⟩

end RetiredSection

/-! ### Behind separators that differ -/

namespace Cursor

variable {c c' d : Cursor}

/-- Two cursors before the same bytes, behind separators that may differ. -/
def Apart (c d : Cursor) : Prop :=
  ∃ gap gap' rest, gap.all Scanner.isSeparator = true ∧ gap'.all Scanner.isSeparator = true ∧
    c.At (gap ++ rest) ∧ d.At (gap' ++ rest)

theorem Apart.note (h : c.Apart d) (n : Notice) : c.Apart (d.note n) := by
  obtain ⟨gap, gap', rest, hgap, hgap', hc, hd⟩ := h
  exact ⟨gap, gap', rest, hgap, hgap', hc, hd.note n⟩

/-- The same token comes next, and behind it the cursors are abreast of each other. -/
theorem Apart.readToken (h : c.Apart d) {u : Token} (hr : c.readToken = (.ok u, c')) :
    ∃ d', d.readToken = (.ok u, d') ∧ c'.Abreast [] [] d' := by
  obtain ⟨gap, gap', rest, hgap, hgap', hc, hd⟩ := h
  obtain ⟨rest', hscan, hc'⟩ := hc.of_readToken hr
  rw [Scanner.scan_gap hgap, ← Scanner.scan_gap hgap'] at hscan
  obtain ⟨d', hread, hd'⟩ := hd.readToken hscan
  exact ⟨d', hread, hc'.abreast hd'⟩

end Cursor

namespace Session

variable {s s' t : Session} {inserted rest gap : List UInt8} {k : Option Kind}

/-- A label is read off the stream alone. -/
theorem readLabel_eq_ok_iff_cursor {label : Option String} :
    s.readLabel = (.ok label, s') ↔
      ∃ c, s.cursor.readToken = (.ok (labelToken label), c) ∧ s' = { s with cursor := c } := by
  rw [readLabel_eq_ok_iff, readToken]
  constructor
  · intro h
    simp only [Prod.mk.injEq] at h
    exact ⟨_, Prod.ext h.1 rfl, h.2.symm⟩
  · rintro ⟨c, hc, rfl⟩
    rw [hc]

theorem readLabel_of_nextLabel (he : s.exhausted = false) (hr : s.nextLabel = (.ok k, s')) :
    ∃ label s₁, s.readLabel = (.ok label, s₁) ∧ s₁.afterLabel label = (.ok k, s') := by
  rcases hs : s.readLabel with ⟨f | label, s₁⟩
  · rw [nextLabel_eq, he, hs] at hr
    cases hr
  · rw [nextLabel_of_readLabel he hs] at hr
    exact ⟨label, s₁, rfl, hr⟩

/-- A number may end where a label is read. -/
theorem endsNumber_of_readLabel {label : Option String} (hc : s.cursor.At (gap ++ rest))
    (hgap : gap.all Scanner.isSeparator = true) (hr : s.readLabel = (.ok label, s')) :
    Scanner.EndsNumber rest := by
  obtain ⟨c, hread, -⟩ := readLabel_eq_ok_iff_cursor.mp hr
  obtain ⟨rest', hscan, -⟩ := hc.of_readToken hread
  rw [Scanner.scan_gap hgap] at hscan
  exact Scanner.endsNumber_of_scan hscan (by cases label <;> rfl)

/-- Before the same label, behind whatever separators, labels lead to the same kind. -/
theorem nextLabel_of_apart {d : Cursor} {p : Copier} (hcd : s.cursor.Apart d)
    (hdepth : s.assembler.maxDepth = s.options.maxDepth) (hs : 0 < s.copier.bufferSize)
    (hp : 0 < p.bufferSize) (he : s.exhausted = false) (hr : s.nextLabel = (.ok k, s')) :
    ∃ t', ({ s with cursor := d, copier := p } : Session).nextLabel = (.ok k, t') ∧
      s'.Abreast [] [] t' := by
  obtain ⟨label, s₁, hl, hr⟩ := readLabel_of_nextLabel he hr
  obtain ⟨c₁, hread, rfl⟩ := readLabel_eq_ok_iff_cursor.mp hl
  obtain ⟨d₁, hread', h₁⟩ := hcd.readToken hread
  have ht : ({ s with cursor := d, copier := p } : Session).readLabel =
      (.ok label, { s with cursor := d₁, copier := p }) :=
    readLabel_eq_ok_iff_cursor.mpr ⟨d₁, hread', rfl⟩
  rw [nextLabel_of_readLabel (s := { s with cursor := d, copier := p }) he ht]
  have habreast : ({ s with cursor := c₁ } : Session).Abreast [] []
      { s with cursor := d₁, copier := p } := .intro h₁ hdepth hs hp
  exact habreast.afterLabel (fun s₂ t₂ _ h₂ hr₂ => h₂.nextLabel hr₂ (holds_nil _)) hr (holds_nil _)

/-! ### At the place -/

/-- A retired section is passed over where a label is read next. -/
theorem Abreast.nextLabel_inserted (h : s.Abreast rest (inserted ++ rest) t)
    (hins : RetiredSection inserted) (hgap : gap.all Scanner.isSeparator = true)
    (hrest : s.cursor.remaining = gap ++ rest) (he : s.exhausted = false)
    (hr : s.nextLabel = (.ok k, s')) : ∃ t', t.nextLabel = (.ok k, t') ∧ s'.Abreast [] [] t' := by
  obtain @⟨d, p, hcd, hdepth, hs, hp⟩ := h
  obtain ⟨front, hc, hd⟩ := hcd.stand
  obtain rfl : front = gap := List.append_cancel_right (hc.remaining_eq.symm.trans hrest)
  obtain ⟨label, s₁, hl, -⟩ := readLabel_of_nextLabel he hr
  have hstands : ({ s with cursor := d, copier := p } : Session).Stands s.stage
      (front ++ (inserted ++ rest)) := ⟨hd, hdepth, hp, rfl⟩
  obtain ⟨label', t₁, t₂, trail, hl', hresolve, hdrop, htrail, h₂⟩ :=
    hins.passed hgap (endsNumber_of_readLabel hc hgap hl) hstands
  have ht₂ : t₂ = { s with cursor := t₂.cursor, copier := p } := by
    rw [dropSection_moves hdrop, readLabel_moves hl']
  rw [nextLabel_of_readLabel (s := { s with cursor := d, copier := p }) he hl']
  simp only [Session.afterLabel, hresolve, hdrop]
  rw [ht₂]
  exact nextLabel_of_apart ⟨front, trail, rest, hgap, htrail, hc, h₂.before⟩ hdepth hs hp he hr

/-- Looking for the next kind, the first session comes to the second one, which reads a label. -/
inductive LabelDue : Session → Session → Prop where
  /-- At once. -/
  | here {s : Session} : s.exhausted = false → LabelDue s s
  /-- Behind the build. -/
  | behindBuild {s s₁ s₂ t : Session} {label : String} : s.exhausted = false →
      s.readLabel = (.ok (some label), s₁) → Label.resolve label = .buildVersion →
      s₁.readBuild = (.ok (), s₂) → LabelDue s₂ t → LabelDue s t
  /-- Behind a retired section. -/
  | behindRetired {s s₁ s₂ t : Session} {label : String} : s.exhausted = false →
      s.readLabel = (.ok (some label), s₁) → Label.resolve label = .retired →
      s₁.dropSection label = (.ok (), s₂) → LabelDue s₂ t → LabelDue s t

namespace LabelDue

theorem spent (h : s.LabelDue t) : s.Spent 0 t := by
  induction h with
  | here => exact .refl _
  | behindBuild _ hl _ hb _ ih =>
    exact (((spent_readLabel hl).trans (spent_readBuild hb)).trans ih).weaken (Nat.zero_le _)
  | behindRetired _ hl _ hd _ ih =>
    exact (((spent_readLabel hl).trans (spent_dropSection hd)).trans ih).weaken (Nat.zero_le _)

/-- A retired section is passed over where a label is read on the way to the next kind. -/
theorem nextLabel_inserted {x : Session} (hd : s.LabelDue x) (hins : RetiredSection inserted)
    (hgap : gap.all Scanner.isSeparator = true) (hx : x.cursor.remaining = gap ++ rest)
    (h : s.Abreast rest (inserted ++ rest) t) (hr : s.nextLabel = (.ok k, s')) :
    ∃ t', t.nextLabel = (.ok k, t') ∧ s'.Abreast [] [] t' := by
  induction hd generalizing t with
  | here he => exact h.nextLabel_inserted hins hgap hx he hr
  | behindBuild he hl hresolve hb hlater ih =>
    have hk := hlater.spent.holds (holds_of_remaining hx)
    obtain ⟨t₁, ht₁, h₁⟩ := h.readLabel hl ((spent_readBuild hb).holds hk)
    obtain ⟨t₂, ht₂, h₂⟩ := h₁.readBuild hb hk
    rw [nextLabel_of_readLabel he hl] at hr
    rw [nextLabel_of_readLabel (h.exhausted_eq.trans he) ht₁]
    simp only [afterLabel, hresolve, hb, ht₂] at hr ⊢
    exact ih hx h₂ hr
  | behindRetired he hl hresolve hdrop hlater ih =>
    have hk := hlater.spent.holds (holds_of_remaining hx)
    obtain ⟨t₁, ht₁, h₁⟩ := h.readLabel hl ((spent_dropSection hdrop).holds hk)
    obtain ⟨t₂, ht₂, h₂⟩ := h₁.dropSection hdrop hk
    rw [nextLabel_of_readLabel he hl] at hr
    rw [nextLabel_of_readLabel (h.exhausted_eq.trans he) ht₁]
    simp only [afterLabel, hresolve, hdrop, ht₂] at hr ⊢
    exact ih hx h₂ hr

end LabelDue

/-! ### Before the first label -/

theorem readToken_congr {r : Except Failure Token} (hc : t.cursor = s.cursor)
    (hr : s.readToken = (r, s')) : t.readToken = (r, { t with cursor := s'.cursor }) := by
  unfold readToken at hr ⊢
  rw [hc]
  cases hr
  rfl

/-- Passing over a value is a matter of the stream alone. -/
theorem dropValue_congr {label : String} {depth : Nat} {r : Except Failure Unit}
    (hc : t.cursor = s.cursor) (hr : s.dropValue label depth = (r, s')) :
    t.dropValue label depth = (r, { t with cursor := s'.cursor }) := by
  fun_induction dropValue s label depth generalizing t with
  | case1 s depth f s₁ hs =>
    cases hr
    rw [dropValue_eq t, readToken_congr hc hs]
  | case2 s depth u s₁ hs hd =>
    cases hr
    rw [dropValue_eq t, readToken_congr hc hs]
    simp only [hd]
    rfl
  | case3 s depth u s₁ hs hd =>
    cases hr
    rw [dropValue_eq t, readToken_congr hc hs]
    simp only [hd]
  | case4 s depth u s₁ hs d hd ih =>
    rw [dropValue_eq t, readToken_congr hc hs]
    simp only [hd]
    exact ih rfl hr

theorem dropSection_congr {label : String} (hc : t.cursor = s.cursor)
    (hr : s.dropSection label = (.ok (), s')) :
    t.dropSection label = (.ok (), { t with cursor := s'.cursor }) := by
  unfold dropSection at hr ⊢
  split at hr
  · cases hr
  · next hs =>
    cases hr
    rw [dropValue_congr hc hs]
    rfl

theorem readBuild_eq_ok_iff_cursor :
    s.readBuild = (.ok (), s') ↔
      ∃ n c, s.cursor.readToken = (.ok (.integer n), c) ∧
        s' = ({ s with cursor := c } : Session).setBuild n := by
  unfold readBuild readToken
  rcases hread : s.cursor.readToken with ⟨f | u, c⟩
  · simp
  · constructor
    · intro h
      cases u <;> cases h
      exact ⟨_, c, rfl, rfl⟩
    · rintro ⟨n, c', hc, rfl⟩
      cases hc
      rfl

/-- A session that knows nothing of its export yet. -/
def unread (options : Options) (tally : Tally) (c : Cursor) (p : Copier) : Session where
  cursor := c
  assembler := { maxDepth := options.maxDepth }
  copier := p
  options := options
  tally := tally

/-- Which label was read when the export was opened makes no difference to what follows: it follows,
too, if the labels are read one by one behind an opened beginning. -/
theorem nextLabel_of_readFirstLabel {options : Options} {tally : Tally} {c d : Cursor}
    {p q : Copier} (hcd : c.Apart d) (hp : 0 < p.bufferSize) (hq : 0 < q.bufferSize)
    (hfirst : (unread options tally c p).readFirstLabel = (.ok (), s))
    (hnext : s.opened.nextKind = (.ok k, s')) :
    ∃ t', (unread options { tally with generation := .unknown } d q).nextLabel = (.ok k, t') ∧
      s'.Abreast [] [] t' := by
  unfold readFirstLabel at hfirst
  rcases hl : (unread options tally c p).readLabel with ⟨f | label, s₁⟩
  · rw [hl] at hfirst
    cases hfirst
  rw [hl] at hfirst
  obtain ⟨c₁, hread, rfl⟩ := readLabel_eq_ok_iff_cursor.mp hl
  obtain ⟨d₁, hread', h₁⟩ := hcd.readToken hread
  have ht : (unread options { tally with generation := .unknown } d q).readLabel =
      (.ok label, unread options { tally with generation := .unknown } d₁ q) :=
    readLabel_eq_ok_iff_cursor.mpr ⟨d₁, hread', rfl⟩
  rw [nextLabel_of_readLabel rfl ht]
  cases label with
  | none =>
    cases hfirst
    rw [nextKind_of_closed rfl rfl, nextLabel_eq] at hnext
    cases hnext
    exact ⟨_, rfl, .intro (h₁.note _ _) rfl hp hq⟩
  | some label =>
    cases hresolve : Label.resolve label with
    | kind l =>
      simp only [afterLabel, hresolve] at hfirst ⊢
      cases hfirst
      rw [nextKind_of_pending rfl rfl] at hnext
      cases hnext
      exact ⟨_, rfl, .intro ((h₁.note_left _).note _ _) rfl hp hq⟩
    | unknown =>
      simp only [hresolve] at hfirst
      cases hfirst
    | buildVersion =>
      simp only [afterLabel, hresolve] at hfirst ⊢
      obtain ⟨n, c₂, hbuild, rfl⟩ := readBuild_eq_ok_iff_cursor.mp hfirst
      obtain ⟨d₂, hbuild', h₂⟩ := h₁.readToken hbuild (Nat.zero_le _)
      have ht₂ : (unread options { tally with generation := .unknown } d₁ q).readBuild =
          (.ok (), (unread options { tally with generation := .unknown } d₂ q).setBuild n) :=
        readBuild_eq_ok_iff_cursor.mpr ⟨n, d₂, hbuild', rfl⟩
      rw [nextKind_of_closed rfl rfl] at hnext
      simp only [ht₂]
      exact Abreast.nextLabel (.intro (h₂.note_left _) rfl hp hq) hnext (holds_nil _)
    | retired =>
      simp only [afterLabel, hresolve] at hfirst ⊢
      have hstart : (unread options tally c₁ p).Abreast [] [] (unread options tally d₁ q) :=
        .intro h₁ rfl hp hq
      obtain ⟨t₂, ht₂, h₂⟩ := hstart.dropSection hfirst (holds_nil _)
      have ht₃ : (unread options { tally with generation := .unknown } d₁ q).dropSection label =
          (.ok (), unread options { tally with generation := .unknown } t₂.cursor q) :=
        dropSection_congr (s := unread options tally d₁ q) rfl ht₂
      have hs : s = unread options tally s.cursor p := dropSection_moves hfirst
      obtain ⟨h₂⟩ := h₂
      rw [hs, nextKind_of_closed rfl rfl] at hnext
      simp only [ht₃]
      exact Abreast.nextLabel (.intro (h₂.note_left _) rfl hp hq) hnext (holds_nil _)

theorem begin_eq_ok_iff :
    s.begin = (.ok (), s') ↔
      s.options.validate = .ok () ∧ ∃ s₁ s₂, s.readToken = (.ok .startObject, s₁) ∧
        s₁.readFirstLabel = (.ok (), s₂) ∧ s' = s₂.opened := by
  unfold begin
  rcases s.options.validate with f | _
  · simp
  rcases s.readToken with ⟨f | u, s₁⟩
  · simp
  cases u
  case startObject =>
    rcases hfirst : s₁.readFirstLabel with ⟨f | _, s₂⟩ <;> simp [hfirst, eq_comm]
  all_goals simp

/-- Unless the first label announces the build none is known behind it. -/
theorem build_of_readFirstLabel {label : Option String} {s₁ : Session}
    (hl : s.readLabel = (.ok label, s₁)) (hfirst : s.readFirstLabel = (.ok (), s'))
    (hlabel : label.map Label.resolve ≠ some .buildVersion) :
    s'.build = s.build ∧ s'.generation = s.generation := by
  obtain ⟨c, -, rfl⟩ := readLabel_eq_ok_iff_cursor.mp hl
  unfold readFirstLabel at hfirst
  rw [hl] at hfirst
  cases label with
  | none =>
    cases hfirst
    exact ⟨rfl, rfl⟩
  | some label =>
    cases hresolve : Label.resolve label with
    | kind l =>
      simp only [hresolve] at hfirst
      cases hfirst
      exact ⟨rfl, rfl⟩
    | unknown =>
      simp only [hresolve] at hfirst
      cases hfirst
    | buildVersion => exact absurd (congrArg some hresolve) hlabel
    | retired =>
      simp only [hresolve] at hfirst
      rw [dropSection_moves hfirst]
      exact ⟨rfl, rfl⟩

end Session

end ExportStream
