import ExportStream.Proofs.CoupledSessions
import ExportStream.Proofs.Deliveries
import Mathlib.Data.List.Forall2
import Mathlib.Data.Option.Defs
/-!
# Readers and imports that go together

What is staged, readers, and the loops over records and kinds keep sessions together, as the
operations of the session do. The records that they hand out go together as well: they are equal but
for the sinks that took payloads (`Coupling.Records`).

Where sinks that go together are equal (`Coupling.Exact`), so are the records, and with them the
events that a handler is given and its states. What the second import delivers is then the same as
what the first one delivers, or the beginning of it if it is cut off (`Coupling.Delivered`).
-/

namespace ExportStream

namespace Coupling

/-! ### Answers that go together -/

/-- Attachments that differ at most in their sinks, which go together. -/
structure Attachments (c : Coupling) (a b : Attachment) : Prop where
  /-- The sinks. -/
  sinks : c.sinks a.sink b.sink
  /-- All the rest. -/
  eq_but : a = { b with sink := a.sink }

/-- Lists that go together come to the same in what only the relation tells. -/
theorem map_eq {α β : Type} {R : α → α → Prop} {f : α → β} (hf : ∀ a b, R a b → f a = f b)
    {l m : List α} (h : List.Forall₂ R l m) : l.map f = m.map f := by
  induction h with
  | nil => rfl
  | cons hab _ ih => rw [List.map_cons, List.map_cons, hf _ _ hab, ih]

theorem eq_of_forall₂ {α : Type} {R : α → α → Prop} (hf : ∀ a b, R a b → a = b) {l m : List α}
    (h : List.Forall₂ R l m) : l = m := by
  rw [← List.map_id l, ← List.map_id m]
  exact map_eq hf h

theorem Attachments.tags_eq {c : Coupling} {l m : List Attachment}
    (h : List.Forall₂ c.Attachments l m) : l.map Attachment.tag = m.map Attachment.tag := by
  refine map_eq (fun _ _ hab => ?_) h
  rw [hab.eq_but]

/-- Records that differ at most in the sinks of payloads, which go together. -/
inductive Records (c : Coupling) : Record → Record → Prop where
  /-- Documents. -/
  | document (d : Document) {l m : List Attachment} (h : List.Forall₂ c.Attachments l m) :
    c.Records (.document { d with attachments := l }) (.document { d with attachments := m })
  /-- Attachments of old exports. -/
  | legacyAttachment (a : LegacyAttachment) {x y : Sink} (h : c.sinks x y) :
    c.Records (.legacyAttachment { a with sink := x }) (.legacyAttachment { a with sink := y })
  /-- Records without payloads. -/
  | same (r : Record) : c.Records r r

/-- Elements of which the same becomes. -/
inductive Outcomes (c : Coupling) : Decoded → Decoded → Prop where
  /-- Records. -/
  | record {r q : Record} (h : c.Records r q) : c.Outcomes (.record r) (.record q)
  /-- Anything else. -/
  | same (d : Decoded) : c.Outcomes d d

/-- Two outcomes meet, and what they answer goes together. -/
def MeetsIn (c : Coupling) {α β σ τ : Type} (V : α → β → Prop) (R E : σ → τ → Prop)
    (x : Except Failure α × σ) (y : Except Failure β × τ) : Prop :=
  (∃ a b s t, x = (.ok a, s) ∧ y = (.ok b, t) ∧ V a b ∧ R s t) ∨
    (∃ f g s t, x = (.error f, s) ∧ y = (.error g, t) ∧ c.alike f g ∧ E s t) ∨
      ∃ g t, y = (.error g, t) ∧ c.cut g

namespace MeetsIn

variable {c : Coupling} {α β σ τ : Type} {V : α → β → Prop} {R E : σ → τ → Prop}
  {x : Except Failure α × σ}

theorem ok {a : α} {b : β} {s : σ} {t : τ} (hv : V a b) (h : R s t) :
    c.MeetsIn V R E (.ok a, s) (.ok b, t) :=
  .inl ⟨a, b, s, t, rfl, rfl, hv, h⟩

theorem fail {f g : Failure} {s : σ} {t : τ} (hf : c.alike f g) (h : E s t) :
    c.MeetsIn V R E (.error f, s) (.error g, t) :=
  .inr (.inl ⟨f, g, s, t, rfl, rfl, hf, h⟩)

theorem cutOff {g : Failure} {t : τ} (hg : c.cut g) : c.MeetsIn V R E x (.error g, t) :=
  .inr (.inr ⟨g, t, rfl, hg⟩)

end MeetsIn

/-! ### What is staged -/

/-- What waits for documents that go together. -/
structure Stagings (c : Coupling) (g g' : Staging) : Prop where
  /-- The sinks that are still to be made. -/
  sinks : c.makers g.sinks g'.sinks
  /-- What waits. -/
  staged : List.Forall₂ c.Attachments g.staged g'.staged

/-- What is staged beside sessions, where both go together. -/
def Staged (c : Coupling) (p q : Staging × Session) : Prop :=
  c.Stagings p.1 q.1 ∧ c.Sessions p.2 q.2

/-- What is left of them when both fail. -/
def FailedStaged (c : Coupling) (p q : Staging × Session) : Prop := c.Failed p.2 q.2

namespace Stagings

variable {c : Coupling} {g g' : Staging} {s t : Session}

theorem drop (h : c.Stagings g g') (hc : c.Lawful) (hs : c.Sessions s t) (k : Kind)
    (reason : String) : c.Staged (g.drop k reason s) (g'.drop k reason t) := by
  unfold Staging.drop
  have hempty : g.staged.isEmpty = g'.staged.isEmpty := by
    rw [Bool.eq_iff_iff, List.isEmpty_iff_length_eq_zero, List.isEmpty_iff_length_eq_zero,
      h.staged.length_eq]
  rw [hempty]
  split_ifs
  · exact ⟨h, hs⟩
  · have hwarning : Staging.dropWarning g.staged reason = Staging.dropWarning g'.staged reason := by
      unfold Staging.dropWarning
      rw [Attachments.tags_eq h.staged, h.staged.length_eq]
    rw [hwarning]
    exact ⟨⟨h.sinks, .nil⟩, hs.warn hc k _⟩

theorem finish (h : c.Stagings g g') (hc : c.Lawful) (hs : c.Sessions s t) (form k : Kind) :
    c.Staged (g.finish form k s) (g'.finish form k t) := by
  unfold Staging.finish
  split_ifs
  · exact h.drop hc hs k _
  · exact ⟨h, hs⟩

end Stagings

namespace Sessions

variable {c : Coupling} {g g' : Staging} {s t : Session}

theorem verify (h : c.Sessions s t) (hc : c.Lawful) (k : Kind) {a b : Attachment}
    (hab : c.Attachments a b) : c.Sessions (Staging.verify k a s) (Staging.verify k b t) := by
  unfold Staging.verify
  have hverified : a.isVerified = b.isVerified := by rw [hab.eq_but]; rfl
  have hwarning : Staging.mismatchWarning a = Staging.mismatchWarning b := by rw [hab.eq_but]; rfl
  rw [h.options.verifyAttachmentHashes_eq, hverified, hwarning]
  split_ifs
  · exact h.warn hc k _
  · exact h

theorem stageNamed (h : c.Sessions s t) (hc : c.Lawful) (hg : c.Stagings g g') (k : Kind)
    (marker : Json) (size : Nat) (hash tag : String) :
    c.Meets c.Staged c.FailedStaged (g.stageNamed k marker size hash tag s)
      (g'.stageNamed k marker size hash tag t) := by
  unfold Staging.stageNamed
  obtain ⟨x, y, a, b, ha, hb, hxy, hab⟩ | ⟨f, f', a, b, ha, hb, hf⟩ := hc.create hg.sinks tag
  · rw [ha, hb]
    simp only
    obtain ⟨computed, ⟨x', s₁⟩, ⟨y', t₁⟩, hs, ht, hxy', h₁⟩ |
      ⟨f, f', ⟨x', s₁⟩, ⟨y', t₁⟩, hs, ht, hf, he⟩ | ⟨f', ⟨y', t₁⟩, ht, hcut⟩ :=
      h.copyPayload hc size hxy
    · rw [hs, ht]
      have hnew : c.Attachments ⟨hash, computed, tag, size, marker, x'⟩
          ⟨hash, computed, tag, size, marker, y'⟩ := ⟨hxy', rfl⟩
      exact .ok ⟨⟨hab, List.rel_append hg.staged (.cons hnew .nil)⟩,
        (h₁.verify hc k hnew).countAttachment hc⟩
    · rw [hs, ht]
      exact .fail hf he
    · rw [ht]
      exact .cutOff hcut
  · rw [ha, hb]
    exact .fail hf h.tally

theorem stage (h : c.Sessions s t) (hc : c.Lawful) (hg : c.Stagings g g') (k : Kind)
    (marker : Json) :
    c.Meets c.Staged c.FailedStaged (g.stage k marker s) (g'.stage k marker t) := by
  unfold Staging.stage
  obtain ⟨size, hs, ht⟩ | ⟨f, f', hs, ht, hf⟩ := h.payloadSize hc marker
  · rw [hs, ht]
    simp only
    split
    · exact h.stageNamed hc hg ..
    · obtain ⟨u, s₁, t₁, hd, hd', h₁⟩ | ⟨f, f', s₁, t₁, hd, hd', hf, he⟩ | ⟨f', t₁, hd', hcut⟩ :=
        h.dropBytes hc size
      · rw [hd, hd']
        exact .ok ⟨hg, h₁⟩
      · rw [hd, hd']
        exact .fail hf he
      · rw [hd']
        exact .cutOff hcut
  · rw [hs, ht]
    exact .fail hf h.tally

theorem decodeDocument (h : c.Sessions s t) (hc : c.Lawful) (hg : c.Stagings g g') (k : Kind)
    (v : Json) :
    c.MeetsIn c.Outcomes c.Staged c.FailedStaged (g.decodeDocument k v s)
      (g'.decodeDocument k v t) := by
  unfold Staging.decodeDocument
  split_ifs
  · obtain ⟨d, p, q, hp, hq, h'⟩ | ⟨f, f', p, q, hp, hq, hf, he⟩ | ⟨f', q, hq, hcut⟩ :=
      h.stage hc hg k v
    · rw [hp, hq]
      exact .ok (.same d) h'
    · rw [hp, hq]
      exact .fail hf he
    · rw [hq]
      exact .cutOff hcut
  · rw [h.generation_eq, h.options.readLegacyEtag_eq]
    cases Document.parse t.generation.isLegacy t.options.readLegacyEtag v with
    | ok p =>
      exact .ok (.record (.document p.document hg.staged))
        ⟨⟨hg.sinks, .nil⟩, h.keepDocumentEtag hc p.etag⟩
    | error f => exact .ok (.same _) (hg.drop hc h k _)

theorem decodeLegacyAttachment (h : c.Sessions s t) (hc : c.Lawful) (hg : c.Stagings g g')
    (v : Json) :
    c.MeetsIn c.Outcomes c.Staged c.FailedStaged (g.decodeLegacyAttachment v s)
      (g'.decodeLegacyAttachment v t) := by
  unfold Staging.decodeLegacyAttachment
  cases LegacyAttachment.parse v with
  | error f => exact .ok (.same _) ⟨hg, h⟩
  | ok p =>
    have hkeep : c.Sessions
        (if s.options.readLegacyEtag then s.keepAttachmentEtag p.etag else s)
        (if t.options.readLegacyEtag then t.keepAttachmentEtag p.etag else t) := by
      rw [h.options.readLegacyEtag_eq]
      split_ifs
      · exact h.keepAttachmentEtag hc p.etag
      · exact h
    revert hkeep
    simp only
    generalize (if s.options.readLegacyEtag then s.keepAttachmentEtag p.etag else s) = s₁
    generalize (if t.options.readLegacyEtag then t.keepAttachmentEtag p.etag else t) = t₁
    intro h₁
    split_ifs
    · exact .ok (.same _) ⟨hg, h₁⟩
    · obtain ⟨x, y, a, b, ha, hb, hxy, hab⟩ | ⟨f, f', a, b, ha, hb, hf⟩ :=
        hc.create hg.sinks p.details.tag
      · rw [ha, hb]
        simp only
        obtain ⟨x', y', hx, hy, hxy'⟩ | ⟨f, f', hx, hy, hf⟩ := hc.store hxy p.payload
        · rw [hx, hy]
          exact .ok (.record (.legacyAttachment ⟨p.details, LegacyAttachment.standIn p.details, x'⟩
            hxy')) ⟨⟨hab, hg.staged⟩, h₁⟩
        · rw [hx, hy]
          exact .fail hf h₁.tally
      · rw [ha, hb]
        exact .fail hf h₁.tally

/-- The same becomes of an element. -/
theorem decode (h : c.Sessions s t) (hc : c.Lawful) (hg : c.Stagings g g') (form k : Kind)
    (v : Json) :
    c.MeetsIn c.Outcomes c.Staged c.FailedStaged (g.decode form k v s) (g'.decode form k v t) := by
  unfold Staging.decode
  cases form with
  | documents => exact h.decodeDocument hc hg k v
  | revisionDocuments => exact h.decodeDocument hc hg k v
  | tombstones => exact .ok (.same _) ⟨hg, h⟩
  | conflicts => exact .ok (.same _) ⟨hg, h⟩
  | indexes =>
    simp only [h.generation_eq]
    exact .ok (.same _) ⟨hg, h⟩
  | identities => exact .ok (.same _) ⟨hg, h⟩
  | compareExchange => exact .ok (.same _) ⟨hg, h⟩
  | legacyAttachments => exact h.decodeLegacyAttachment hc hg v
  | legacyDocumentDeletions =>
    simp only [h.options.deletionPolicy_eq]
    exact .ok (.same _) ⟨hg, h⟩
  | legacyAttachmentDeletions =>
    simp only [h.options.deletionPolicy_eq]
    exact .ok (.same _) ⟨hg, h⟩

/-! ### Readers -/

/-- Records that go together are pulled, or none. -/
theorem pull (h : c.Sessions s t) (hc : c.Lawful) (hg : c.Stagings g g') (form k : Kind) :
    c.MeetsIn (Option.Rel c.Records) c.Staged c.FailedStaged (Reader.pull g form k s)
      (Reader.pull g' form k t) := by
  induction g, s using Reader.element_induction form k generalizing g' t with
  | step g s ih =>
    obtain ⟨_ | v, s₁, t₁, hs, ht, h₁⟩ | ⟨f, f', s₁, t₁, hs, ht, hf, he⟩ | ⟨f', t₁, ht, hcut⟩ :=
      h.nextElement hc
    · rw [Reader.pull_eq g form k s, hs, Reader.pull_eq g' form k t, ht]
      exact .ok .none (hg.finish hc h₁ form k)
    · obtain ⟨d, e, ⟨g₂, s₂⟩, ⟨g₃, t₂⟩, hd, he, hde, hg₂, h₂⟩ |
        ⟨f, f', ⟨g₂, s₂⟩, ⟨g₃, t₂⟩, hd, he, hf, hfail⟩ | ⟨f', ⟨g₃, t₂⟩, he, hcut⟩ :=
        h₁.decode hc hg form k v
      · cases hde with
        | record hr =>
          rw [Reader.pull_of_decode hs hd, Reader.pull_of_decode ht he]
          exact .ok (.some hr) ⟨hg₂, h₂.countRead hc k⟩
        | same d =>
          have hsettled := h₂.settle hc k d
          have hrest := ih v s₁ d g₂ s₂ hs hd hsettled hg₂
          rw [Reader.pull_of_decode hs hd, Reader.pull_of_decode ht he]
          cases d with
          | record r => exact .ok (.some (.same r)) ⟨hg₂, hsettled⟩
          | _ => exact hrest
      · rw [Reader.pull_eq g form k s, hs, Reader.pull_eq g' form k t, ht]
        simp only [hd, he]
        exact .fail hf hfail
      · rw [Reader.pull_eq g' form k t, ht]
        simp only [he]
        exact .cutOff hcut
    · rw [Reader.pull_eq g form k s, hs, Reader.pull_eq g' form k t, ht]
      exact .fail hf he
    · rw [Reader.pull_eq g' form k t, ht]
      exact .cutOff hcut

end Sessions

/-- Readers that go together. -/
structure Readers (c : Coupling) (r q : Reader) : Prop where
  /-- The forms of their elements. -/
  form_eq : r.form = q.form
  /-- The kinds for which they are made. -/
  kind_eq : r.kind = q.kind
  /-- What is staged. -/
  staging : c.Stagings r.staging q.staging
  /-- Whether they have handed out everything. -/
  done_eq : r.done = q.done

/-- Two polls meet: both hand out records that go together, or none, or failures that are alike, or
the second reader is cut off. -/
inductive Polls (c : Coupling) :
    Option (Except Failure Record) × Reader × Session →
      Option (Except Failure Record) × Reader × Session → Prop where
  /-- There is nothing more. -/
  | none {r q : Reader} {s t : Session} (hr : c.Readers r q) (h : c.Sessions s t) :
    c.Polls (.none, r, s) (.none, q, t)
  /-- Records. -/
  | some {a b : Record} {r q : Reader} {s t : Session} (hab : c.Records a b) (hr : c.Readers r q)
    (h : c.Sessions s t) : c.Polls (.some (.ok a), r, s) (.some (.ok b), q, t)
  /-- Failures. -/
  | fail {f g : Failure} {r q : Reader} {s t : Session} (hf : c.alike f g) (h : c.Failed s t) :
    c.Polls (.some (.error f), r, s) (.some (.error g), q, t)
  /-- The second one is cut off. -/
  | cutOff {x : Option (Except Failure Record) × Reader × Session} {g : Failure} {q : Reader}
    {t : Session} (hg : c.cut g) : c.Polls x (.some (.error g), q, t)

namespace Readers

variable {c : Coupling} {r q : Reader} {s t : Session}

theorem next (hr : c.Readers r q) (hc : c.Lawful) (h : c.Sessions s t) :
    c.MeetsIn (Option.Rel c.Records) (fun p p' => c.Readers p.1 p'.1 ∧ c.Sessions p.2 p'.2)
      (fun p p' => p.1.kind = p'.1.kind ∧ c.Failed p.2 p'.2) (r.next s) (q.next t) := by
  unfold Reader.next
  have hkind := hr.kind_eq
  rw [hr.form_eq]
  rcases hq : q.kind with _ | k
  · rw [hkind, hq]
    exact .ok .none ⟨hr, h⟩
  · simp only [hkind, hq]
    split_ifs
    · obtain ⟨x, y, ⟨g, s₁⟩, ⟨g', t₁⟩, hs, ht, hxy, hg, h₁⟩ |
        ⟨f, f', ⟨g, s₁⟩, ⟨g', t₁⟩, hs, ht, hf, he⟩ | ⟨f', ⟨g', t₁⟩, ht, hcut⟩ :=
        h.pull hc hr.staging q.form k
      · rw [hs, ht]
        exact .ok hxy ⟨⟨rfl, rfl, hg, hr.done_eq⟩, h₁⟩
      · rw [hs, ht]
        exact .fail hf ⟨rfl, he⟩
      · rw [ht]
        exact .cutOff hcut
    · exact .fail (hc.alike_refl _) ⟨hkind, h.tally⟩

theorem poll (hr : c.Readers r q) (hc : c.Lawful) (h : c.Sessions s t) :
    c.Polls (r.poll s) (q.poll t) := by
  unfold Reader.poll
  rw [hr.done_eq]
  cases q.done with
  | true => exact .none hr h
  | false =>
    simp only [Bool.false_eq_true, if_false]
    obtain ⟨x, y, ⟨r₁, s₁⟩, ⟨q₁, t₁⟩, hs, ht, hxy, hr₁, h₁⟩ |
      ⟨f, f', ⟨r₁, s₁⟩, ⟨q₁, t₁⟩, hs, ht, hf, hk, he⟩ | ⟨f', ⟨q₁, t₁⟩, ht, hcut⟩ :=
      hr.next hc h
    · rw [hs, ht]
      cases hxy with
      | none => exact .none ⟨hr₁.form_eq, hr₁.kind_eq, hr₁.staging, rfl⟩ h₁
      | some hab => exact .some hab hr₁ h₁
    · simp only at hk
      rw [hs, ht]
      simp only [hk]
      exact .fail (hc.alike_within hf _) he
    · rw [ht]
      exact .cutOff (hc.cut_within hcut _)

end Readers

/-! ### Whole imports -/

/-- Sinks that go together are equal. -/
def Exact (c : Coupling) : Prop := ∀ a b, c.sinks a b → a = b

theorem Exact.attachments_eq {c : Coupling} (hx : c.Exact) {l m : List Attachment}
    (h : List.Forall₂ c.Attachments l m) : l = m := by
  refine eq_of_forall₂ (fun _ _ hab => ?_) h
  rw [hab.eq_but, hx _ _ hab.sinks]

theorem Exact.record_eq {c : Coupling} (hx : c.Exact) {r q : Record} (h : c.Records r q) :
    r = q := by
  cases h with
  | document d h => rw [hx.attachments_eq h]
  | legacyAttachment a h => rw [hx _ _ h]
  | same r => rfl

variable {σ : Type}

/-- Imports at work that go together, and whose handlers are in the same state. -/
structure Imports (c : Coupling) (i j : Import σ) : Prop where
  /-- The sessions. -/
  session : c.Sessions i.session j.session
  /-- The sinks that are still to be made. -/
  sinks : c.makers i.sinks j.sinks
  /-- The states of the handlers. -/
  state_eq : i.state = j.state

/-- What is left of imports that failed together. -/
structure Results (c : Coupling) (i j : Import σ) : Prop where
  /-- What was added up. -/
  tally : c.tallies i.session.tally j.session.tally
  /-- The states of the handlers. -/
  state_eq : i.state = j.state

/-- What the second import delivered, which came to the end `y`, is what the first one did, or the
beginning of that if it was cut off. -/
def Delivered (c : Coupling) (y : Except Failure Unit × Import σ) (a b : List Delivery) : Prop :=
  a = b ∨ (b <+: a ∧ ∃ g j, y = (.error g, j) ∧ c.cut g)

/-- What both deliver before makes no difference. -/
theorem Delivered.cons {c : Coupling} {y : Except Failure Unit × Import σ} {a b : List Delivery}
    (h : c.Delivered y a b) (e : Delivery) : c.Delivered y (e :: a) (e :: b) := by
  obtain rfl | ⟨hbegins, hcut⟩ := h
  · exact .inl rfl
  · exact .inr ⟨List.cons_prefix_cons.mpr ⟨rfl, hbegins⟩, hcut⟩

/-- An import that is cut off at once delivers nothing. -/
theorem Delivered.of_cut {c : Coupling} {g : Failure} (hg : c.cut g) (j : Import σ)
    (a : List Delivery) : c.Delivered (.error g, j) a [] := by
  have hnil : [] <+: a := List.nil_prefix
  exact .inr ⟨hnil, g, j, rfl, hg⟩

theorem Delivered.begins {c : Coupling} {y : Except Failure Unit × Import σ} {a b : List Delivery}
    (h : c.Delivered y a b) : b <+: a := by
  obtain rfl | ⟨hbegins, -⟩ := h
  · exact List.prefix_refl _
  · exact hbegins

/-- Two imports meet, and so does what they delivered. -/
def Tells (c : Coupling) (x y : Except Failure Unit × Import σ) (a b : List Delivery) : Prop :=
  c.Meets c.Imports c.Results x y ∧ c.Delivered y a b

namespace Imports

variable {c : Coupling} {i j : Import σ} (h : Handler σ)

theorem tell (hij : c.Imports i j) (hc : c.Lawful) (e : Event) :
    c.Meets c.Imports c.Results (i.tell h e) (j.tell h e) := by
  unfold Import.tell
  rw [hij.state_eq]
  rcases h.handle e j.state with ⟨f | _, state⟩
  · exact .fail (hc.alike_refl f) ⟨hij.session.tally, rfl⟩
  · exact .ok { hij with state_eq := rfl }

/-- The same records are delivered, at the same positions. -/
theorem deliver (hij : c.Imports i j) (hc : c.Lawful) (hx : c.Exact) (k : Kind) {r q : Reader}
    (hr : c.Readers r q) :
    c.Tells (i.deliver h k r) (j.deliver h k q) (i.deliveriesOf h k r) (j.deliveriesOf h k q) := by
  have hpoll := hr.poll hc hij.session
  fun_induction Import.deliver i h k r generalizing j q with
  | case1 i r r₁ session hp =>
    rw [hp] at hpoll
    rcases hq : q.poll j.session with ⟨y, q₁, t⟩
    rw [hq] at hpoll
    rw [Import.deliver_eq j, Import.deliveriesOf_eq i, Import.deliveriesOf_eq j, hp, hq]
    cases hpoll with
    | none hr₁ h₁ => exact ⟨.ok ⟨h₁, hr₁.staging.sinks, hij.state_eq⟩, .inl rfl⟩
    | cutOff hg => exact ⟨.cutOff hg, .inl rfl⟩
  | case2 i r f r₁ session hp =>
    rw [hp] at hpoll
    rcases hq : q.poll j.session with ⟨y, q₁, t⟩
    rw [hq] at hpoll
    rw [Import.deliver_eq j, Import.deliveriesOf_eq i, Import.deliveriesOf_eq j, hp, hq]
    cases hpoll with
    | fail hf h₁ => exact ⟨.fail hf ⟨h₁, hij.state_eq⟩, .inl rfl⟩
    | cutOff hg => exact ⟨.cutOff hg, .inl rfl⟩
  | case3 i r x r₁ session hp f state hh =>
    rw [hp] at hpoll
    rcases hq : q.poll j.session with ⟨y, q₁, t⟩
    rw [hq] at hpoll
    rw [Import.deliver_eq j, Import.deliveriesOf_eq i, Import.deliveriesOf_eq j, hp, hq]
    cases hpoll with
    | some hab hr₁ h₁ =>
      cases hx.record_eq hab
      simp only [← hij.state_eq, hh, h₁.position_eq hc]
      exact ⟨.fail (hc.alike_refl f) ⟨h₁.tally, rfl⟩, .inl rfl⟩
    | cutOff hg => exact ⟨.cutOff hg, .of_cut hg _ _⟩
  | case4 i r x r₁ session hp state hh ih =>
    rw [hp] at hpoll
    rcases hq : q.poll j.session with ⟨y, q₁, t⟩
    rw [hq] at hpoll
    rw [Import.deliver_eq j, Import.deliveriesOf_eq i, Import.deliveriesOf_eq j, hp, hq]
    cases hpoll with
    | some hab hr₁ h₁ =>
      cases hx.record_eq hab
      have hnext : c.Imports { i with session, state } { j with session := t, state } :=
        ⟨h₁, hij.sinks, rfl⟩
      obtain ⟨hmeets, hevents⟩ := ih hnext hr₁ (hr₁.poll hc h₁)
      simp only [← hij.state_eq, hh, h₁.position_eq hc]
      exact ⟨hmeets, hevents.cons _⟩
    | cutOff hg => exact ⟨.cutOff hg, .of_cut hg _ _⟩

theorem takeKind (hij : c.Imports i j) (hc : c.Lawful) (hx : c.Exact) (k : Kind) :
    c.Tells (i.takeKind h k) (j.takeKind h k) (i.deliveriesOfKind h k)
      (j.deliveriesOfKind h k) := by
  unfold Import.takeKind Import.deliveriesOfKind
  rw [hij.state_eq]
  split_ifs
  · exact hij.deliver h hc hx k ⟨rfl, hij.session.current_eq, ⟨hij.sinks, .nil⟩, rfl⟩
  · refine ⟨?_, .inl rfl⟩
    obtain ⟨u, ⟨m, s⟩, ⟨n, t⟩, hs, ht, -, h₁⟩ | ⟨f, f', ⟨m, s⟩, ⟨n, t⟩, hs, ht, hf, -, he⟩ |
      ⟨g, ⟨n, t⟩, ht, hg⟩ := hij.session.skipKind hc (some k)
    · rw [hs, ht]
      exact .ok ⟨h₁, hij.sinks, rfl⟩
    · rw [hs, ht]
      exact .fail hf ⟨he, rfl⟩
    · rw [ht]
      exact .cutOff hg

/-- The same kinds are taken. -/
theorem takeKinds (hij : c.Imports i j) (hc : c.Lawful) (hx : c.Exact) :
    c.Tells (i.takeKinds h) (j.takeKinds h) (i.deliveriesOfKinds h) (j.deliveriesOfKinds h) := by
  fun_induction Import.takeKinds i h generalizing j with
  | case1 i f session hn =>
    rw [Import.takeKinds_eq j, Import.deliveriesOfKinds_eq i, Import.deliveriesOfKinds_eq j, hn]
    obtain ⟨g, t, ht, hf, he⟩ | ⟨g, t, ht, hg⟩ := (hij.session.nextKind hc).of_error hn
    · rw [ht]
      exact ⟨.fail hf ⟨he, hij.state_eq⟩, .inl rfl⟩
    · rw [ht]
      exact ⟨.cutOff hg, .inl rfl⟩
  | case2 i session hn =>
    rw [Import.takeKinds_eq j, Import.deliveriesOfKinds_eq i, Import.deliveriesOfKinds_eq j, hn]
    obtain ⟨t, ht, h₁⟩ | ⟨g, t, ht, hg⟩ := (hij.session.nextKind hc).of_ok hn
    · rw [ht]
      exact ⟨.ok { hij with session := h₁ }, .inl rfl⟩
    · rw [ht]
      exact ⟨.cutOff hg, .inl rfl⟩
  | case3 i k session hn f i' hk =>
    rw [Import.takeKinds_eq j, Import.deliveriesOfKinds_eq i, Import.deliveriesOfKinds_eq j, hn]
    obtain ⟨t, ht, h₁⟩ | ⟨g, t, ht, hg⟩ := (hij.session.nextKind hc).of_ok hn
    · have hnext : c.Imports { i with session } { j with session := t } :=
        { hij with session := h₁ }
      obtain ⟨hmeets, hevents⟩ := hnext.takeKind h hc hx k
      rw [ht]
      simp only [hk, List.append_nil]
      obtain ⟨g, j', hj, hf, he⟩ | ⟨g, j', hj, hg⟩ := hmeets.of_error hk
      · rw [hj] at hevents ⊢
        simp only [List.append_nil]
        exact ⟨.fail hf he, hevents⟩
      · rw [hj] at hevents ⊢
        simp only [List.append_nil]
        exact ⟨.cutOff hg, hevents⟩
    · rw [ht]
      exact ⟨.cutOff hg, .of_cut hg _ _⟩
  | case4 i k session hn i' hk ih =>
    rw [Import.takeKinds_eq j, Import.deliveriesOfKinds_eq i, Import.deliveriesOfKinds_eq j, hn]
    obtain ⟨t, ht, h₁⟩ | ⟨g, t, ht, hg⟩ := (hij.session.nextKind hc).of_ok hn
    · have hnext : c.Imports { i with session } { j with session := t } :=
        { hij with session := h₁ }
      obtain ⟨hmeets, hevents⟩ := hnext.takeKind h hc hx k
      rw [ht]
      simp only [hk]
      obtain ⟨j', hj, h₂⟩ | ⟨g, j', hj, hg⟩ := hmeets.of_ok hk
      · obtain ⟨hrest, hlater⟩ := ih h₂
        rw [hj] at hevents ⊢
        obtain heq | ⟨-, g, j'', hj', -⟩ := hevents
        · rw [heq]
          refine ⟨hrest, ?_⟩
          obtain hsame | ⟨hbegins, hcut⟩ := hlater
          · exact .inl (by rw [hsame])
          · exact .inr ⟨(List.prefix_append_right_inj _).mpr hbegins, hcut⟩
        · cases hj'
      · have hbegins := hevents.begins
        rw [hj]
        simp only [List.append_nil]
        exact ⟨.cutOff hg, .inr ⟨hbegins.trans (List.prefix_append _ _), _, _, rfl, hg⟩⟩
    · rw [ht]
      exact ⟨.cutOff hg, .of_cut hg _ _⟩

theorem conclude (hij : c.Imports i j) (hc : c.Lawful) : c.Imports i.conclude j.conclude :=
  { hij with session := hij.session.note hc _ _ }

/-- Imports that go together are taken to the same end. -/
theorem drive (hij : c.Imports i j) (hc : c.Lawful) (hx : c.Exact) :
    c.Tells (i.drive h) (j.drive h) (i.deliveriesToEnd h) (j.deliveriesToEnd h) := by
  unfold Import.drive Import.deliveriesToEnd
  rw [hij.session.build_eq, hij.session.generation_eq, hij.session.position_eq hc]
  obtain ⟨u, i₁, j₁, hi, hj, h₁⟩ | ⟨f, f', i₁, j₁, hi, hj, hf, he⟩ | ⟨g, j₁, hj, hg⟩ :=
    hij.tell h hc (.header j.session.build j.session.generation)
  · rw [hi, hj]
    simp only
    obtain ⟨hkinds, hevents⟩ := h₁.takeKinds h hc hx
    obtain ⟨u, i₂, j₂, hi₂, hj₂, h₂⟩ | ⟨f, f', i₂, j₂, hi₂, hj₂, hf, he⟩ | ⟨g, j₂, hj₂, hg⟩ :=
      hkinds
    · rw [hj₂] at hevents
      obtain heq | ⟨-, g, j'', hj', -⟩ := hevents
      · rw [hi₂, hj₂]
        simp only [h₂.session.position_eq hc, heq]
        refine ⟨?_, .inl rfl⟩
        obtain ⟨u, i₃, j₃, hi₃, hj₃, h₃⟩ | ⟨f, f', i₃, j₃, hi₃, hj₃, hf, he⟩ | ⟨g, j₃, hj₃, hg⟩ :=
          h₂.tell h hc .finish
        · rw [hi₃, hj₃]
          simp only [h₃.state_eq]
          rcases h.finalize j₃.state with ⟨f | _, state⟩
          · exact .fail (hc.alike_refl f) ⟨h₃.session.tally, rfl⟩
          · exact .ok (conclude { h₃ with state_eq := rfl } hc)
        · rw [hi₃, hj₃]
          exact .fail hf he
        · rw [hj₃]
          exact .cutOff hg
      · cases hj'
    · rw [hi₂]
      rw [hj₂] at hevents ⊢
      simp only [List.append_nil]
      exact ⟨.fail hf he, Delivered.cons hevents _⟩
    · have hbegins := hevents.begins
      rw [hj₂]
      simp only [List.append_nil]
      exact ⟨.cutOff hg, .inr ⟨List.cons_prefix_cons.mpr
        ⟨rfl, hbegins.trans (List.prefix_append _ _)⟩, _, _, rfl, hg⟩⟩
  · rw [hi, hj]
    exact ⟨.fail hf he, .inl rfl⟩
  · rw [hj]
    exact ⟨.cutOff hg, Delivered.cons (.of_cut hg _ _) _⟩

end Imports

end Coupling

end ExportStream
