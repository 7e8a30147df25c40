import ExportStream.Proofs.Abreast
/-!
# Imports abreast of each other

What decoding, readers and whole imports do is put together from what sessions do, so they keep
sessions abreast of each other, too (`Session.Abreast`): the same becomes of each element, the same
records are handed out, and a handler answers the same. Payloads arrive unchanged in sinks that take
every offer.
-/

namespace ExportStream

variable {tail tail' : List UInt8} {s s' t : Session} {g g' : Staging} {k form : Kind} {v : Json}

/-- Comparing hashes and counting payloads reads nothing. -/
theorem Staging.holds_verify {a : Attachment} :
    (verify k a s).countAttachment.Holds tail ↔ s.Holds tail := by
  unfold verify
  split <;> exact Iff.rfl

/-- Counting what became of an element reads nothing. -/
theorem Decoded.holds_settle {d : Decoded} : (d.settle k s).Holds tail ↔ s.Holds tail := by
  cases d <;> exact Iff.rfl

/-- What comes next is read from what is left. -/
theorem Reader.spent_pull_ok {x : Option Record} (h : pull g form k s = (.ok x, g', s')) :
    s.Spent 0 s' := by
  cases x with
  | none => exact spent_pull_none h
  | some x => exact (spent_pull h).weaken (Nat.zero_le 1)

namespace Session.Abreast

/-! ### Decoding -/

theorem keepDocumentEtag (h : s.Abreast tail tail' t) (etag : Option String) :
    (s.keepDocumentEtag etag).Abreast tail tail' (t.keepDocumentEtag etag) := by
  cases etag with
  | none => exact h
  | some e => exact h.retally fun y => { y with lastDocumentEtag := some e }

theorem keepAttachmentEtag (h : s.Abreast tail tail' t) (etag : Option String) :
    (s.keepAttachmentEtag etag).Abreast tail tail' (t.keepAttachmentEtag etag) := by
  cases etag with
  | none => exact h
  | some e => exact h.retally fun y => { y with lastAttachmentEtag := some e }

theorem verify (h : s.Abreast tail tail' t) (k : Kind) (a : Attachment) :
    (Staging.verify k a s).Abreast tail tail' (Staging.verify k a t) := by
  unfold Staging.verify
  rw [h.options_eq]
  split
  · exact h.warn _ _
  · exact h

/-- What was staged is dropped. -/
theorem drop (h : s.Abreast tail tail' t) (hg : g.sinks.Willing) {reason : String}
    (hr : g.drop k reason s = (g', s')) :
    ∃ t', g.drop k reason t = (g', t') ∧ s'.Abreast tail tail' t' ∧ g'.sinks.Willing := by
  unfold Staging.drop at hr ⊢
  split at hr
  · next hnone =>
    cases hr
    rw [if_pos hnone]
    exact ⟨t, rfl, h, hg⟩
  · next hsome =>
    cases hr
    rw [if_neg hsome]
    exact ⟨_, rfl, h.warn _ _, hg⟩

theorem stageNamed (h : s.Abreast tail tail' t) (hg : g.sinks.Willing) {size : Nat}
    {hash tag : String} {d : Decoded}
    (hr : g.stageNamed k v size hash tag s = (.ok d, g', s')) (hk : s'.Holds tail) :
    ∃ t', g.stageNamed k v size hash tag t = (.ok d, g', t') ∧ s'.Abreast tail tail' t' ∧
      g'.sinks.Willing := by
  unfold Staging.stageNamed at hr ⊢
  obtain ⟨sink, sinks, hcreate, hsink, hsinks⟩ | ⟨f, sinks, hcreate⟩ := hg.create tag
  · rw [hcreate] at hr ⊢
    simp only at hr ⊢
    split at hr
    · cases hr
    · next computed sink' s₁ hs =>
      cases hr
      obtain ⟨t₁, ht, h₁⟩ := h.copyPayload hsink hs (Staging.holds_verify.mp hk)
      rw [ht]
      exact ⟨_, rfl, (h₁.verify _ _).retally fun y => { y with attachments := y.attachments + 1 },
        hsinks⟩
  · rw [hcreate] at hr
    cases hr

theorem stage (h : s.Abreast tail tail' t) (hg : g.sinks.Willing) {d : Decoded}
    (hr : g.stage k v s = (.ok d, g', s')) (hk : s'.Holds tail) :
    ∃ t', g.stage k v t = (.ok d, g', t') ∧ s'.Abreast tail tail' t' ∧ g'.sinks.Willing := by
  unfold Staging.stage at hr ⊢
  split at hr
  · cases hr
  · next size hsize =>
    rw [payloadSize_of_ok hsize t]
    simp only
    split at hr
    · exact h.stageNamed hg hr hk
    · split at hr
      · cases hr
      · next s₁ hs =>
        cases hr
        obtain ⟨t₁, ht, h₁⟩ := h.dropBytes hs hk
        rw [ht]
        exact ⟨t₁, rfl, h₁, hg⟩

theorem decodeDocument (h : s.Abreast tail tail' t) (hg : g.sinks.Willing) {d : Decoded}
    (hr : g.decodeDocument k v s = (.ok d, g', s')) (hk : s'.Holds tail) :
    ∃ t', g.decodeDocument k v t = (.ok d, g', t') ∧ s'.Abreast tail tail' t' ∧
      g'.sinks.Willing := by
  unfold Staging.decodeDocument at hr ⊢
  rw [h.options_eq, h.generation_eq]
  split_ifs at hr ⊢
  · exact h.stage hg hr hk
  · split at hr
    · cases hr
      exact ⟨_, rfl, h.keepDocumentEtag _, hg⟩
    · rcases hdrop : g.drop k "their host document was rejected" s with ⟨g₁, s₁⟩
      rw [hdrop] at hr
      cases hr
      obtain ⟨t', ht, h', hg'⟩ := h.drop hg hdrop
      rw [ht]
      exact ⟨t', rfl, h', hg'⟩

theorem decodeLegacyAttachment (h : s.Abreast tail tail' t) (hg : g.sinks.Willing) {d : Decoded}
    (hr : g.decodeLegacyAttachment v s = (.ok d, g', s')) :
    ∃ t', g.decodeLegacyAttachment v t = (.ok d, g', t') ∧ s'.Abreast tail tail' t' ∧
      g'.sinks.Willing := by
  unfold Staging.decodeLegacyAttachment at hr ⊢
  rw [h.options_eq]
  split at hr
  · cases hr
    exact ⟨t, rfl, h, hg⟩
  · next p hp =>
    have hkept : (if s.options.readLegacyEtag then s.keepAttachmentEtag p.etag else s).Abreast
        tail tail' (if s.options.readLegacyEtag then t.keepAttachmentEtag p.etag else t) := by
      split
      · exact h.keepAttachmentEtag _
      · exact h
    simp only at hr ⊢
    generalize (if s.options.readLegacyEtag then s.keepAttachmentEtag p.etag else s) = s₁
      at hr hkept
    generalize (if s.options.readLegacyEtag then t.keepAttachmentEtag p.etag else t) = t₁
      at hkept ⊢
    split_ifs at hr ⊢
    · cases hr
      exact ⟨t₁, rfl, hkept, hg⟩
    · obtain ⟨sink, sinks, hcreate, -, hsinks⟩ | ⟨f, sinks, hcreate⟩ := hg.create p.details.tag
      · rw [hcreate] at hr ⊢
        simp only at hr ⊢
        split at hr
        · cases hr
        · cases hr
          exact ⟨t₁, rfl, hkept, hsinks⟩
      · rw [hcreate] at hr
        cases hr

theorem decode (h : s.Abreast tail tail' t) (hg : g.sinks.Willing) {d : Decoded}
    (hr : g.decode form k v s = (.ok d, g', s')) (hk : s'.Holds tail) :
    ∃ t', g.decode form k v t = (.ok d, g', t') ∧ s'.Abreast tail tail' t' ∧ g'.sinks.Willing := by
  unfold Staging.decode at hr ⊢
  rw [h.options_eq, h.generation_eq]
  cases form with
  | documents => exact h.decodeDocument hg hr hk
  | revisionDocuments => exact h.decodeDocument hg hr hk
  | legacyAttachments => exact h.decodeLegacyAttachment hg hr
  | _ =>
    cases hr
    exact ⟨t, rfl, h, hg⟩

theorem finish (h : s.Abreast tail tail' t) (hg : g.sinks.Willing)
    (hr : g.finish form k s = (g', s')) :
    ∃ t', g.finish form k t = (g', t') ∧ s'.Abreast tail tail' t' ∧ g'.sinks.Willing := by
  unfold Staging.finish at hr ⊢
  split_ifs at hr ⊢
  · exact h.drop hg hr
  · cases hr
    exact ⟨t, rfl, h, hg⟩

theorem settle (h : s.Abreast tail tail' t) (k : Kind) (d : Decoded) :
    (d.settle k s).Abreast tail tail' (d.settle k t) := by
  cases d with
  | record r => exact h.retally fun y => y.modify k .addRead
  | deferred => exact h
  | skipped => exact h.retally fun y => y.modify k (.addSkipped 1)
  | ignored => exact h
  | rejected f shown => exact h.reject k f shown

/-! ### Readers -/

/-- The same record comes next. -/
theorem pull (h : s.Abreast tail tail' t) (hg : g.sinks.Willing) {x : Option Record}
    (hr : Reader.pull g form k s = (.ok x, g', s')) (hk : s'.Holds tail) :
    ∃ t', Reader.pull g form k t = (.ok x, g', t') ∧ s'.Abreast tail tail' t' ∧
      g'.sinks.Willing := by
  induction g, s using Reader.element_induction form k generalizing t with
  | step g s ih =>
    rcases hs : s.nextElement with ⟨f | _ | v, s₁⟩
    · rw [Reader.pull_eq, hs] at hr
      cases hr
    · rw [Reader.pull_eq, hs] at hr
      rcases hfinish : g.finish form k s₁ with ⟨g₁, s₂⟩
      simp only [hfinish] at hr
      cases hr
      have hspent := Staging.spent_finish g form k s₁
      rw [hfinish] at hspent
      obtain ⟨t₁, ht, h₁⟩ := h.nextElement hs (hspent.holds hk)
      obtain ⟨t₂, ht₂, h₂, hg₂⟩ := h₁.finish hg hfinish
      rw [Reader.pull_eq, ht]
      simp only [ht₂]
      exact ⟨t₂, rfl, h₂, hg₂⟩
    · rcases hd : g.decode form k v s₁ with ⟨f | d, g₁, s₂⟩
      · rw [Reader.pull_eq, hs] at hr
        simp only [hd] at hr
        cases hr
      rw [Reader.pull_of_decode hs hd] at hr
      have hk₂ : s₂.Holds tail := by
        cases d with
        | record r =>
          cases hr
          exact hk
        | _ => exact Decoded.holds_settle.mp ((Reader.spent_pull_ok hr).holds hk)
      obtain ⟨t₁, ht, h₁⟩ := h.nextElement hs ((Staging.spent_decode hd).holds hk₂)
      obtain ⟨t₂, ht₂, h₂, hg₂⟩ := h₁.decode hg hd hk₂
      rw [Reader.pull_of_decode ht ht₂]
      cases d with
      | record r =>
        cases hr
        exact ⟨_, rfl, h₂.settle k (.record r), hg₂⟩
      | _ => exact ih v s₁ _ g₁ s₂ hs hd (h₂.settle k _) hg₂ hr

theorem next (h : s.Abreast tail tail' t) {r r' : Reader} (hg : r.staging.sinks.Willing)
    {x : Option Record} (hr : r.next s = (.ok x, r', s')) (hk : s'.Holds tail) :
    ∃ t', r.next t = (.ok x, r', t') ∧ s'.Abreast tail tail' t' ∧ r'.staging.sinks.Willing := by
  unfold Reader.next at hr ⊢
  split at hr
  · cases hr
    exact ⟨t, rfl, h, hg⟩
  · next l hl =>
    split_ifs at hr ⊢
    · rcases hp : Reader.pull r.staging r.form l s with ⟨y, g₁, s₁⟩
      rw [hp] at hr
      cases hr
      obtain ⟨t', ht, h', hg'⟩ := h.pull hg hp hk
      rw [ht]
      exact ⟨t', rfl, h', hg'⟩
    · cases hr

/-- The same record is handed out, or none more. -/
theorem poll (h : s.Abreast tail tail' t) {r r' : Reader} (hg : r.staging.sinks.Willing)
    {x : Option (Except Failure Record)} (hx : ∀ f, x ≠ some (.error f))
    (hr : r.poll s = (x, r', s')) (hk : s'.Holds tail) :
    ∃ t', r.poll t = (x, r', t') ∧ s'.Abreast tail tail' t' ∧ r'.staging.sinks.Willing := by
  unfold Reader.poll at hr ⊢
  split_ifs at hr ⊢
  · cases hr
    exact ⟨t, rfl, h, hg⟩
  · rcases hn : r.next s with ⟨f | y, r₁, s₁⟩
    · rw [hn] at hr
      cases hr
      exact absurd rfl (hx _)
    · rw [hn] at hr
      have hs₁ : s₁ = s' := by cases y <;> cases hr <;> rfl
      obtain ⟨t', ht, h', hg'⟩ := h.next hg hn (hs₁ ▸ hk)
      rw [ht]
      cases y <;> cases hr <;> exact ⟨t', rfl, h', hg'⟩

end Session.Abreast

/-! ### Whole imports -/

namespace Import

variable {σ : Type} {i i' j : Import σ} {h : Handler σ}

/-- The imports differ in their streams and copiers only, and these are abreast of each other; the
sinks take every offer. -/
inductive Abreast (tail tail' : List UInt8) (i : Import σ) : Import σ → Prop where
  /-- The sessions. -/
  | intro {t : Session} : i.session.Abreast tail tail' t → i.sinks.Willing →
      Abreast tail tail' i { i with session := t }

namespace Abreast

/-- The handler is told the same and answers the same. -/
theorem tell (hij : i.Abreast tail tail' j) {e : Event} (hr : i.tell h e = (.ok (), i')) :
    ∃ j', j.tell h e = (.ok (), j') ∧ i'.Abreast tail tail' j' := by
  obtain ⟨hs, hsinks⟩ := hij
  unfold Import.tell at hr ⊢
  rcases hh : h.handle e i.state with ⟨x, state⟩
  rw [hh] at hr
  cases hr
  exact ⟨_, rfl, .intro hs hsinks⟩

/-- The same records are delivered. -/
theorem deliver (hij : i.Abreast tail tail' j) {r : Reader} (hg : r.staging.sinks.Willing)
    (hr : i.deliver h k r = (.ok (), i')) (hk : i'.session.Holds tail) :
    ∃ j', j.deliver h k r = (.ok (), j') ∧ i'.Abreast tail tail' j' := by
  fun_induction Import.deliver i h k r generalizing j with
  | case1 i r r₁ s₁ hp =>
    cases hr
    obtain ⟨hs, hsinks⟩ := hij
    obtain ⟨t₁, ht, h₁, hg₁⟩ := hs.poll hg (fun _ hx => by cases hx) hp hk
    rw [deliver_eq]
    simp only [ht]
    exact ⟨_, rfl, .intro h₁ hg₁⟩
  | case2 => cases hr
  | case3 => cases hr
  | case4 i r x r₁ s₁ hp state hh ih =>
    obtain ⟨hs, hsinks⟩ := hij
    obtain ⟨t₁, ht, h₁, hg₁⟩ := hs.poll hg (fun _ hx => by cases hx) hp ((spent_deliver hr).holds hk)
    rw [deliver_eq]
    simp only [ht, hh]
    exact ih (.intro h₁ hsinks) hg₁ hr

/-- The same is done about a kind. -/
theorem takeKind (hij : i.Abreast tail tail' j) (hr : i.takeKind h k = (.ok (), i'))
    (hk : i'.session.Holds tail) :
    ∃ j', j.takeKind h k = (.ok (), j') ∧ i'.Abreast tail tail' j' := by
  obtain @⟨t, hs, hsinks⟩ := hij
  unfold Import.takeKind at hr ⊢
  have hstart : Reader.start t k i.sinks = Reader.start i.session k i.sinks := by
    unfold Reader.start
    rw [hs.current_eq]
  simp only [hstart]
  split_ifs at hr ⊢
  · exact deliver (.intro hs hsinks) hsinks hr hk
  · rcases hskip : i.session.skipKind (some k) with ⟨x, n, s₁⟩
    rw [hskip] at hr
    cases hr
    obtain ⟨t₁, ht, h₁⟩ := hs.skipKind hskip hk
    rw [ht]
    exact ⟨_, rfl, .intro h₁ hsinks⟩

end Abreast

/-- The same kinds are taken if the next kind is the same and the same is done about those behind
it. -/
theorem takeKinds_of_nextKind {t : Session} (hsinks : i.sinks.Willing)
    (hnext : ∀ k s, i.session.nextKind = (.ok k, s) →
      ∃ t', t.nextKind = (.ok k, t') ∧ s.Abreast [] [] t')
    (hlater : ∀ i₁ j₁ : Import σ, i₁.session.kindFuel < i.session.kindFuel →
      i₁.Abreast [] [] j₁ → i₁.takeKinds h = (.ok (), i') →
        ∃ j', j₁.takeKinds h = (.ok (), j') ∧ i'.Abreast [] [] j')
    (hr : i.takeKinds h = (.ok (), i')) :
    ∃ j', ({ i with session := t } : Import σ).takeKinds h = (.ok (), j') ∧
      i'.Abreast [] [] j' := by
  rw [takeKinds_eq] at hr
  split at hr
  · cases hr
  · next s hs =>
    cases hr
    obtain ⟨t', ht, h'⟩ := hnext none s hs
    rw [takeKinds_eq]
    simp only [ht]
    exact ⟨_, rfl, .intro h' hsinks⟩
  · next k s hs =>
    split at hr
    · cases hr
    · next i₁ hk =>
      obtain ⟨t', ht, h'⟩ := hnext (some k) s hs
      have hstart : ({ i with session := s } : Import σ).Abreast [] [] { i with session := t' } :=
        .intro h' hsinks
      obtain ⟨j₁, hj, h₁⟩ := hstart.takeKind hk (Session.holds_nil _)
      rw [takeKinds_eq]
      simp only [ht, hj]
      have hless := Nat.lt_of_le_of_lt (spent_takeKind hk).kindFuel_le (Session.kindFuel_nextKind hs)
      exact hlater i₁ j₁ hless h₁ hr

/-- The same kinds are taken up to the end. -/
theorem Abreast.takeKinds (hij : i.Abreast [] [] j) (hr : i.takeKinds h = (.ok (), i')) :
    ∃ j', j.takeKinds h = (.ok (), j') ∧ i'.Abreast [] [] j' := by
  induction hfuel : i.session.kindFuel using Nat.strongRecOn generalizing i j with
  | ind n ih =>
    obtain ⟨hs, hsinks⟩ := hij
    refine takeKinds_of_nextKind hsinks
      (fun k s hn => hs.nextKind hn (Session.holds_nil _)) ?_ hr
    intro i₁ j₁ hless h₁ hr₁
    exact ih _ (hfuel ▸ hless) h₁ hr₁ rfl

theorem drive_eq_ok_iff :
    i.drive h = (.ok (), i') ↔
      ∃ i₁ i₂ i₃ state, i.tell h (.header i.session.build i.session.generation) = (.ok (), i₁) ∧
        i₁.takeKinds h = (.ok (), i₂) ∧ i₂.tell h .finish = (.ok (), i₃) ∧
        h.finalize i₃.state = (.ok (), state) ∧
        i' = ({ i₃ with state } : Import σ).conclude := by
  unfold drive
  constructor
  · intro hr
    split at hr
    · cases hr
    · next i₁ h₁ =>
      split at hr
      · cases hr
      · next i₂ h₂ =>
        split at hr
        · cases hr
        · next i₃ h₃ =>
          split at hr
          · cases hr
          · next state hf =>
            cases hr
            exact ⟨i₁, i₂, i₃, state, h₁, h₂, h₃, hf, rfl⟩
  · rintro ⟨i₁, i₂, i₃, state, h₁, h₂, h₃, hf, rfl⟩
    simp only [h₁, h₂, h₃, hf]

/-- Imports that are abreast of each other behind their kinds come to the same end. -/
theorem Abreast.drive_of_takeKinds {i₂ j₂ : Import σ} (h₂ : i₂.Abreast [] [] j₂)
    {i₃ : Import σ} {state : σ} (htell : i₂.tell h .finish = (.ok (), i₃))
    (hf : h.finalize i₃.state = (.ok (), state)) {j₁ : Import σ}
    (hheader : j.tell h (.header j.session.build j.session.generation) = (.ok (), j₁))
    (hkinds : j₁.takeKinds h = (.ok (), j₂)) :
    ∃ j', j.drive h = (.ok (), j') ∧
      ({ i₃ with state } : Import σ).conclude.Abreast [] [] j' := by
  obtain ⟨j₃, htell', h₃⟩ := h₂.tell htell
  obtain ⟨hs, hsinks⟩ := h₃
  exact ⟨_, drive_eq_ok_iff.mpr ⟨_, _, _, state, hheader, hkinds, htell', hf, rfl⟩,
    .intro (hs.note _ _) hsinks⟩

end Import

end ExportStream
