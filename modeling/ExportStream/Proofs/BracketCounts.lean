import ExportStream.Proofs.Brackets
import ExportStream.Proofs.RetiredSections
/-!
# Brackets that are counted

A section that is passed over is not put together: the session reads tokens and counts the brackets
that are open, without a look at what kind they are (`Session.ValueEnd`). Where the tokens derive a
value it comes to the end of the value, so that a builder would read the same tokens and no others
(`Session.Evened.of_derives`).

The other way round this does not hold. Only a bracket that closes while none is open is refused;
one of the wrong kind closes like any other, and what follows it is read as labels
(`Session.mismatch_passed_over`). **`Session.retired_section_by_brackets`** says for any tokens
behind the label of a retired section what becomes of them, when the export is opened and on the way
to the next kind.
-/

namespace ExportStream

namespace Session

variable {s t : Session} {label : String} {depth : Nat} {ts : List Token}

/-! ### Behind the label -/

/-- When the export is opened the session comes to the label of a retired section; `t` stands behind
the label. -/
structure OpensBehind (s : Session) (label : String) (t : Session) : Prop where
  /-- The options allow it. -/
  valid : s.options.validate = .ok ()
  /-- The first label of the export is that of the section. -/
  first : ∃ s₁, s.readToken = (.ok .startObject, s₁) ∧ s₁.readLabel = (.ok (some label), t)
  /-- The section is a retired one. -/
  retired : Label.resolve label = .retired

/-- On the way to the next kind the session comes to the label of a retired section; `t` stands
behind the label. -/
structure NextBehind (s : Session) (label : String) (t : Session) : Prop where
  /-- The current kind is left, and behind the build and other sections that label is read. -/
  due : ∃ u v, s.finishCurrent = (.ok (), u) ∧ u.pending = none ∧ u.LabelDue v ∧
    v.readLabel = (.ok (some label), t)
  /-- The section is a retired one. -/
  retired : Label.resolve label = .retired

theorem OpensBehind.begin_eq (h : s.OpensBehind label t) :
    s.begin =
      match t.dropSection label with
      | (.error f, u) => (.error f, u)
      | (.ok (), u) => (.ok (), u.opened) := by
  obtain ⟨s₁, hopen, hlabel⟩ := h.first
  have hfirst : s₁.readFirstLabel = t.dropSection label := by
    unfold readFirstLabel
    rw [hlabel]
    simp only [h.retired]
  unfold begin
  rw [h.valid]
  rcases hdrop : t.dropSection label with ⟨f | _, u⟩ <;> simp only [hopen, hfirst, hdrop]

/-- Labels lead from where they are due to the same kind. -/
theorem LabelDue.nextLabel_eq (h : s.LabelDue t) : s.nextLabel = t.nextLabel := by
  induction h with
  | here => rfl
  | behindBuild he hl hresolve hb _ ih =>
    rw [nextLabel_of_readLabel he hl]
    simp only [afterLabel, hresolve, hb, ih]
  | behindRetired he hl hresolve hd _ ih =>
    rw [nextLabel_of_readLabel he hl]
    simp only [afterLabel, hresolve, hd, ih]

theorem LabelDue.exhausted_eq (h : s.LabelDue t) : t.exhausted = false := by
  induction h with
  | here he => exact he
  | behindBuild _ _ _ _ _ ih => exact ih
  | behindRetired _ _ _ _ _ ih => exact ih

theorem NextBehind.nextKind_eq (h : s.NextBehind label t) :
    s.nextKind =
      match t.dropSection label with
      | (.error f, u) => (.error f, u)
      | (.ok (), u) => u.nextLabel := by
  obtain ⟨u, v, hfinish, hpending, hdue, hlabel⟩ := h.due
  unfold nextKind
  rw [hfinish]
  simp only [hpending]
  rw [hdue.nextLabel_eq, nextLabel_of_readLabel hdue.exhausted_eq hlabel]
  rcases hdrop : t.dropSection label with ⟨f | _, w⟩ <;> simp only [afterLabel, h.retired, hdrop]

/-! ### Sections -/

/-- A builder reads the tokens of a value and no others, if it may open as many brackets. -/
theorem build_of_derives {v : Json} (h : Json.Derives depth ts v) {c e : Cursor}
    (hgives : c.Gives ts e) {a : Assembler} (hdepth : depth ≤ a.maxDepth) :
    ∃ u d a', c.readToken = (.ok u, d) ∧ a.build u d = (.ok v, a', e) := by
  have hready : Assembly.Ready [] := trivial
  have hroom : ([] : List Frame).length + depth ≤ a.maxDepth := by simpa using hdepth
  have hcompletes := Assembly.Completes.of_derives h hready hroom (.done v)
  rw [List.append_nil] at hcompletes
  cases hgives with
  | nil => cases hcompletes
  | @cons _ d _ u us hread hrest =>
    have hbuild := (Assembler.go_eq_ok_iff a.reset u d).mpr ⟨us, hcompletes, hrest, rfl⟩
    exact ⟨u, d, _, hread, hbuild⟩

/-- At a bracket that closes while none is open the section is refused. -/
theorem dropValue_of_closes {u : Token} {c : Cursor} (hread : s.cursor.readToken = (.ok u, c))
    (hcloses : u.closes = true) :
    s.dropValue label 0 = (.error (c.malformed (.unbalanced label)), { s with cursor := c }) := by
  have hdepth : depthAfter 0 u = none := depthAfter_eq_none_iff.mpr ⟨rfl, hcloses⟩
  rw [dropValue_eq, readToken_eq_iff.mpr ⟨_, hread, rfl⟩]
  simp only [hdepth]
  rfl

/-- What is noted behind a section: that it was passed over, unless that failed. -/
def noteSection (u : Session) (label : String) : Except Failure Unit → Session
  | .ok () => u.note (.retired label)
  | .error _ => u

theorem dropSection_of_dropValue {r : Except Failure Unit} {u : Session}
    (h : t.dropValue label 0 = (r, u)) : t.dropSection label = (r, u.noteSection label r) := by
  unfold dropSection
  rw [h]
  cases r <;> rfl

/-- **A retired section is passed over by its brackets alone**, wherever it stands: when the export
is opened, and on the way to the next kind. The session goes on behind the first tokens that are
even, of whatever kind their brackets are, and fails with a fault of form at a bracket that closes
first. Where the tokens derive a value these are its tokens, and any builder that may open as many
brackets puts the value together from the same ones. -/
theorem retired_section_by_brackets (t : Session) (label : String) :
    ∃ r c, ValueEnd label 0 t.cursor r c ∧
      (∀ s : Session, s.OpensBehind label t → s.begin =
        match r with
        | .ok () => (.ok (), (({ t with cursor := c } : Session).note (.retired label)).opened)
        | .error f => (.error f, { t with cursor := c })) ∧
      (∀ s : Session, s.NextBehind label t → s.nextKind =
        match r with
        | .ok () => (({ t with cursor := c } : Session).note (.retired label)).nextLabel
        | .error f => (.error f, { t with cursor := c })) ∧
      (∀ ts e, t.cursor.Gives ts e → Evened 0 ts → r = .ok () ∧ c = e) ∧
      (∀ u e, t.cursor.readToken = (.ok u, e) → u.closes = true →
        r = .error (e.malformed (.unbalanced label)) ∧ c = e) ∧
      ∀ depth ts v e, Json.Derives depth ts v → t.cursor.Gives ts e →
        r = .ok () ∧ c = e ∧ ∀ a : Assembler, depth ≤ a.maxDepth →
          ∃ u d a', t.cursor.readToken = (.ok u, d) ∧ a.build u d = (.ok v, a', e) := by
  obtain ⟨r, c, hend, hdrop⟩ := exists_valueEnd t label 0
  have hsection := dropSection_of_dropValue hdrop
  -- the outcome and the cursor are those of any other way to the end
  have hsame : ∀ {r' c'}, t.dropValue label 0 = (r', ({ t with cursor := c' } : Session)) →
      r = r' ∧ c = c' := by
    intro r' c' h
    rw [hdrop, Prod.mk.injEq] at h
    exact ⟨h.1, congrArg Session.cursor h.2⟩
  have heven : ∀ ts e, t.cursor.Gives ts e → Evened 0 ts → r = .ok () ∧ c = e := by
    intro ts e hgives heven
    exact hsame (dropValue_of_evened heven hgives)
  refine ⟨r, c, hend, ?_, ?_, heven, ?_, ?_⟩
  · intro s hs
    rw [hs.begin_eq, hsection]
    cases r <;> rfl
  · intro s hs
    rw [hs.nextKind_eq, hsection]
    cases r <;> rfl
  · intro u e hread hcloses
    exact hsame (dropValue_of_closes hread hcloses)
  · intro depth ts v e hv hgives
    obtain ⟨hr, hc⟩ := heven ts e hgives (.of_derives hv)
    exact ⟨hr, hc, fun a ha => build_of_derives hv hgives ha⟩

/-- **Brackets of the wrong kind are passed over.** In the export
`{"Transformers":[},"Tombstones":[]}` a brace closes the bracket of the section. The export is
opened all the same, and the session comes to the records behind the section. -/
theorem mismatch_passed_over :
    let supply : Supply :=
      { rest := Text.Utf8.bytesOf "\x7b\"Transformers\":[\x7d,\"Tombstones\":[]\x7d" }
    let t := (Session.start supply {} {}).readToken.2.readLabel.2
    (∃ c, t.cursor.Gives [.startArray, .endObject] c) ∧
      (Session.start supply {} {}).OpensBehind "Transformers" t ∧
      (Session.start supply {} {}).begin.1.isOk = true ∧
      (Session.start supply {} {}).begin.2.nextKind.1.toOption = some (some .tombstones) := by
  intro supply t
  have hopens : (Session.start supply {} {}).OpensBehind "Transformers" t :=
    { valid := rfl
      first :=
        ⟨_, Import.ok_of_toOption (by decide +kernel), Import.ok_of_toOption (by decide +kernel)⟩
      retired := by decide +kernel }
  have htokens : ∃ c, t.cursor.Gives [.startArray, .endObject] c :=
    ⟨_, .cons (Import.ok_of_toOption (by decide +kernel))
      (.cons (Import.ok_of_toOption (by decide +kernel)) (.nil _))⟩
  exact ⟨htokens, hopens, by decide +kernel, by decide +kernel⟩

end Session

end ExportStream
