import ExportStream.Proofs.Operations
import ExportStream.Proofs.ReaderPostings
/-!
# The last versions

Old exports state versions of single servers, of documents and of attachments. Where the options ask
for them the tally keeps the last one of each: of the documents that were handed out, in all arrays
of documents and of their former states together, and of the old attachments that were well formed,
whether they were handed out or passed over (**`Desk.versions_of_calm`**). Elements that are
rejected, markers, and what is passed over without a reader do not matter.

What readers took off a stream is their ledger, so that the two versions are the last of those that
its entries state. `Session.Carries` says that from one session to another exactly the versions of a
ledger were kept; most operations carry an empty ledger, and decoding an element carries its entries
(`Staging.carries_decode`).
-/

namespace ExportStream

/-! ### Versions that elements state -/

/-- The text of a version: a text as it is, and any other value but null in its compact form. -/
def Json.versionText? : Json → Option String
  | .null => none
  | .string s => some s
  | v => some v.compact

/-- The version that the metadata of a document states. -/
def Json.documentVersion? (v : Json) : Option String :=
  (v.metadata?.bind (Fields.find? Property.etag)).bind versionText?

namespace LedgerEntry

/-- The version of a document, or a former state of one, that was read. -/
def documentVersion? : LedgerEntry → Option String
  | .taken (some k) v .read => if k.carriesAttachments then v.documentVersion? else none
  | _ => none

/-- The version of an old attachment that was well formed. -/
def attachmentVersion? : LedgerEntry → Option String
  | .taken (some .legacyAttachments) v _ =>
    if (LegacyAttachment.parse v).isOk then v.fieldText? "Etag" else none
  | _ => none

/-- The batches of attachments that are lost state no version. -/
theorem documentVersions_batch (staged : List Attachment) (reason : String) :
    (batch staged reason).filterMap documentVersion? = [] := by
  unfold batch
  split_ifs <;> rfl

theorem attachmentVersions_batch (staged : List Attachment) (reason : String) :
    (batch staged reason).filterMap attachmentVersion? = [] := by
  unfold batch
  split_ifs <;> rfl

end LedgerEntry

/-- What the metadata of a document states is read off it. -/
theorem Document.etag_of_parse {legacy readEtag : Bool} {v : Json} {p : Parsed}
    (h : parse legacy readEtag v = .ok p) :
    p.etag = if readEtag then v.documentVersion? else none := by
  cases v with
  | object fields =>
    unfold parse at h
    simp only [Json.element, bind, Except.bind] at h
    cases hmeta : Fields.dueObject fields Property.metadata with
    | error f =>
      rw [hmeta] at h
      cases h
    | ok meta_ =>
      have hfind : Fields.find? Property.metadata fields = some (.object meta_) := by
        unfold Fields.dueObject at hmeta
        split at hmeta
        all_goals first | (cases hmeta; assumption) | cases hmeta
      have hversion : Json.documentVersion? (.object fields) = etagOf meta_ := by
        simp only [Json.documentVersion?, Json.metadata?, Json.field?, Json.fields?,
          Option.bind_some, hfind, etagOf]
        rcases Fields.find? Property.etag meta_ with _ | w
        · rfl
        · cases w <;> rfl
      rw [hmeta] at h
      simp only at h
      split at h
      · cases h
      · split at h
        · cases h
        · cases h
          simp only [hversion]
  | _ => cases h

/-- An old attachment states its version as a text. -/
theorem LegacyAttachment.etag_of_parse {v : Json} {p : Parsed} (h : parse v = .ok p) :
    p.etag = v.fieldText? "Etag" := by
  cases v with
  | object fields =>
    unfold parse at h
    simp only [Json.element, bind, Except.bind] at h
    split at h
    · cases h
    · split at h
      · cases h
      · split at h
        · cases h
        · cases h
          rfl
  | _ => cases h

/-! ### What entries carry -/

/-- The version that is kept: the last one found, if versions are kept, and otherwise the old one. -/
def kept (keep : Bool) (found : List String) (old : Option String) : Option String :=
  if keep then found.getLast?.or old else old

theorem kept_nil (keep : Bool) (old : Option String) : kept keep [] old = old := by
  cases keep <;> rfl

theorem kept_append (keep : Bool) (found found' : List String) (old : Option String) :
    kept keep (found ++ found') old = kept keep found' (kept keep found old) := by
  cases keep with
  | false => rfl
  | true => simp only [kept, if_true, List.getLast?_append, Option.or_assoc]

/-- Of at most one version that is found, the one that is kept. -/
theorem kept_toList (keep : Bool) (found old : Option String) :
    kept keep found.toList old = (if keep then found else none).or old := by
  cases keep <;> cases found <;> rfl

namespace Session

/-- From `s` to `t` exactly the versions that a ledger states were kept. -/
structure Carries (log : List LedgerEntry) (s t : Session) : Prop where
  /-- The options. -/
  options_eq : t.options = s.options
  /-- The version of a document. -/
  document_eq : t.tally.lastDocumentEtag = kept s.options.readLegacyEtag
    (log.filterMap LedgerEntry.documentVersion?) s.tally.lastDocumentEtag
  /-- The version of an attachment. -/
  attachment_eq : t.tally.lastAttachmentEtag = kept s.options.readLegacyEtag
    (log.filterMap LedgerEntry.attachmentVersion?) s.tally.lastAttachmentEtag

variable {s t u : Session} {log log' : List LedgerEntry}

namespace Carries

theorem trans (h : s.Carries log t) (h' : t.Carries log' u) : s.Carries (log ++ log') u where
  options_eq := h'.options_eq.trans h.options_eq
  document_eq := by
    rw [h'.document_eq, h.options_eq, h.document_eq, List.filterMap_append, kept_append]
  attachment_eq := by
    rw [h'.attachment_eq, h.options_eq, h.attachment_eq, List.filterMap_append, kept_append]

/-- A ledger that states no version carries none. -/
theorem of_eq (hd : log.filterMap LedgerEntry.documentVersion? = [])
    (ha : log.filterMap LedgerEntry.attachmentVersion? = []) (ho : t.options = s.options)
    (hdocument : t.tally.lastDocumentEtag = s.tally.lastDocumentEtag)
    (hattachment : t.tally.lastAttachmentEtag = s.tally.lastAttachmentEtag) : s.Carries log t :=
  ⟨ho, by rw [hd, kept_nil]; exact hdocument, by rw [ha, kept_nil]; exact hattachment⟩

/-- What leaves the tally alone carries nothing. -/
theorem same (ho : t.options = s.options) (ht : t.tally = s.tally) : s.Carries [] t :=
  of_eq rfl rfl ho (by rw [ht]) (by rw [ht])

theorem refl (s : Session) : s.Carries [] s := same rfl rfl

/-- A ledger that states no version may stand for an empty one. -/
theorem silent (h : s.Carries [] t) (hd : log.filterMap LedgerEntry.documentVersion? = [])
    (ha : log.filterMap LedgerEntry.attachmentVersion? = []) : s.Carries log t :=
  ⟨h.options_eq, by rw [hd]; exact h.document_eq, by rw [ha]; exact h.attachment_eq⟩

/-- Counting, and whatever else leaves the versions alone. -/
theorem congr (h : s.Carries log t) (ho : u.options = t.options)
    (hdocument : u.tally.lastDocumentEtag = t.tally.lastDocumentEtag)
    (hattachment : u.tally.lastAttachmentEtag = t.tally.lastAttachmentEtag) : s.Carries log u :=
  ⟨ho.trans h.options_eq, hdocument.trans h.document_eq, hattachment.trans h.attachment_eq⟩

end Carries

theorem lastDocumentEtag_modify (t : Tally) (k : Kind) (f : Counts → Counts) :
    (t.modify k f).lastDocumentEtag = t.lastDocumentEtag := by
  cases k <;> rfl

theorem lastAttachmentEtag_modify (t : Tally) (k : Kind) (f : Counts → Counts) :
    (t.modify k f).lastAttachmentEtag = t.lastAttachmentEtag := by
  cases k <;> rfl

theorem Carries.modify (h : s.Carries log t) (k : Kind) (f : Counts → Counts)
    (ho : u.options = t.options) (hu : u.tally = t.tally.modify k f) : s.Carries log u :=
  h.congr ho (by rw [hu, lastDocumentEtag_modify]) (by rw [hu, lastAttachmentEtag_modify])

/-! ### Elements that are taken off -/

theorem carries_readToken {r : Except Failure Token} (h : s.readToken = (r, t)) :
    s.Carries [] t := by
  rw [readToken_moves h]
  exact .same rfl rfl

theorem carries_readValue {u : Token} {r : Except Failure Json} (h : s.readValue u = (r, t)) :
    s.Carries [] t := by
  have ht : t = (s.readValue u).2 := by rw [h]
  rw [ht]
  exact .same rfl rfl

theorem carries_copyPayload {size : Nat} {sink sink' : Sink} {r : Except Failure String}
    (h : s.copyPayload size sink = (r, sink', t)) : s.Carries [] t := by
  have ht : t = (s.copyPayload size sink).2.2 := by rw [h]
  rw [ht]
  exact .same rfl rfl

theorem carries_openArray {r : Except Failure Unit} (h : s.openArray = (r, t)) :
    s.Carries [] t := by
  unfold openArray at h
  split at h
  · next hr => cases h; exact carries_readToken hr
  · next hr => cases h; exact (carries_readToken hr).congr rfl rfl rfl
  · next hr => cases h; exact carries_readToken hr

theorem carries_readElement {r : Except Failure (Option Json)} (h : s.readElement = (r, t)) :
    s.Carries [] t := by
  unfold readElement at h
  split at h
  · next hr => cases h; exact carries_readToken hr
  · next hr => cases h; exact (carries_readToken hr).congr rfl rfl rfl
  · next hr =>
    split at h
    · next hv => cases h; exact (carries_readToken hr).trans (carries_readValue hv)
    · next hv => cases h; exact (carries_readToken hr).trans (carries_readValue hv)

theorem carries_nextElement {r : Except Failure (Option Json)} (h : s.nextElement = (r, t)) :
    s.Carries [] t := by
  unfold nextElement at h
  split at h
  · cases h; exact .refl s
  · exact carries_readElement h
  · split at h
    · next ho => cases h; exact carries_openArray ho
    · next ho => exact (carries_openArray ho).trans (carries_readElement h)

theorem carries_dropBytes {size : Nat} {r : Except Failure Unit} (h : s.dropBytes size = (r, t)) :
    s.Carries [] t := by
  unfold dropBytes at h
  split at h
  · next hc => cases h; exact carries_copyPayload hc
  · next hc => cases h; exact carries_copyPayload hc

theorem carries_dropPayload {v : Json} {r : Except Failure Unit} (h : s.dropPayload v = (r, t)) :
    s.Carries [] t := by
  unfold dropPayload at h
  split at h
  · split at h
    · cases h; exact .refl s
    · exact carries_dropBytes h
  · cases h; exact .refl s

theorem carries_dropElements {n m : Nat} {r : Except Failure Unit}
    (h : s.dropElements n = (r, m, t)) : s.Carries [] t := by
  fun_induction dropElements s n with
  | case1 s n f s₁ h₁ => cases h; exact carries_nextElement h₁
  | case2 s n s₁ h₁ => cases h; exact carries_nextElement h₁
  | case3 s n v s₁ h₁ f s₂ h₂ =>
    cases h
    exact (carries_nextElement h₁).trans (carries_dropPayload h₂)
  | case4 s n v s₁ h₁ s₂ h₂ ih =>
    exact ((carries_nextElement h₁).trans (carries_dropPayload h₂)).trans (ih h)

/-- Passing over a kind carries nothing. -/
theorem carries_skipKind {kind : Option Kind} {n : Nat} {r : Except Failure Unit}
    (h : s.skipKind kind = (r, n, t)) : s.Carries [] t := by
  unfold skipKind at h
  split at h
  · cases h; exact .refl s
  · split at h
    · split at h
      · next hd => cases h; exact carries_dropElements hd
      · next hd => cases h; exact (carries_dropElements hd).modify _ _ rfl rfl
    · cases h; exact .refl s

theorem carries_finishCurrent {r : Except Failure Unit} (h : s.finishCurrent = (r, t)) :
    s.Carries [] t := by
  unfold finishCurrent at h
  split at h
  · cases h; exact .same rfl rfl
  · split_ifs at h
    · cases h; exact .same rfl rfl
    · split at h
      · next hd => cases h; exact carries_dropElements hd
      · next hd =>
        cases h
        unfold countDrained
        split_ifs
        · exact (carries_dropElements hd).congr rfl rfl rfl
        · exact (carries_dropElements hd).modify _ _ rfl rfl

/-! ### Labels -/

theorem carries_readLabel {r : Except Failure (Option String)} (h : s.readLabel = (r, t)) :
    s.Carries [] t := by
  rw [readLabel_moves h]
  exact .same rfl rfl

theorem carries_dropSection {label : String} {r : Except Failure Unit}
    (h : s.dropSection label = (r, t)) : s.Carries [] t := by
  rw [dropSection_moves h]
  exact .same rfl rfl

theorem carries_readBuild {r : Except Failure Unit} (h : s.readBuild = (r, t)) :
    s.Carries [] t := by
  unfold readBuild at h
  split at h
  · next hr => cases h; exact carries_readToken hr
  · next hr => cases h; exact (carries_readToken hr).congr rfl rfl rfl
  · next hr => cases h; exact carries_readToken hr

theorem carries_nextLabel {r : Except Failure (Option Kind)} (h : s.nextLabel = (r, t)) :
    s.Carries [] t := by
  fun_induction nextLabel s with
  | case1 => cases h; exact .refl _
  | case2 s _ f s₁ h₁ => cases h; exact carries_readLabel h₁
  | case3 s _ s₁ h₁ => cases h; exact (carries_readLabel h₁).congr rfl rfl rfl
  | case4 s _ label s₁ h₁ k _ => cases h; exact (carries_readLabel h₁).congr rfl rfl rfl
  | case5 s _ label s₁ h₁ _ => cases h; exact carries_readLabel h₁
  | case6 s _ label s₁ h₁ _ f s₂ h₂ =>
    cases h
    exact (carries_readLabel h₁).trans (carries_readBuild h₂)
  | case7 s _ label s₁ h₁ _ s₂ h₂ ih =>
    exact ((carries_readLabel h₁).trans (carries_readBuild h₂)).trans (ih h)
  | case8 s _ label s₁ h₁ _ f s₂ h₂ =>
    cases h
    exact (carries_readLabel h₁).trans (carries_dropSection h₂)
  | case9 s _ label s₁ h₁ _ s₂ h₂ ih =>
    exact ((carries_readLabel h₁).trans (carries_dropSection h₂)).trans (ih h)

/-- Going to the next kind carries nothing. -/
theorem carries_nextKind {r : Except Failure (Option Kind)} (h : s.nextKind = (r, t)) :
    s.Carries [] t := by
  unfold nextKind at h
  split at h
  · next hf => cases h; exact carries_finishCurrent hf
  · next hf =>
    split at h
    · cases h; exact (carries_finishCurrent hf).congr rfl rfl rfl
    · exact (carries_finishCurrent hf).trans (carries_nextLabel h)

theorem carries_readFirstLabel {r : Except Failure Unit} (h : s.readFirstLabel = (r, t)) :
    s.Carries [] t := by
  unfold readFirstLabel at h
  split at h
  · next hl => cases h; exact carries_readLabel hl
  · next hl => cases h; exact (carries_readLabel hl).congr rfl rfl rfl
  · next hl =>
    have hlabel := carries_readLabel hl
    split at h
    · exact hlabel.trans (carries_readBuild h)
    · cases h; exact hlabel.congr rfl rfl rfl
    · exact hlabel.trans (carries_dropSection h)
    · cases h; exact hlabel

/-- Opening an export carries nothing. -/
theorem carries_begin {r : Except Failure Unit} (h : s.begin = (r, t)) : s.Carries [] t := by
  unfold begin at h
  split at h
  · cases h; exact .refl s
  · split at h
    · next hr => cases h; exact carries_readToken hr
    · next hr =>
      have hbrace := carries_readToken hr
      split at h
      · next hf => cases h; exact hbrace.trans (carries_readFirstLabel hf)
      · next hf => cases h; exact (hbrace.trans (carries_readFirstLabel hf)).congr rfl rfl rfl
    · next hr => cases h; exact carries_readToken hr

end Session

/-! ### Records -/

/-- Only records state versions of documents. -/
theorem Decoded.documentVersions_entries (d : Decoded) (hd : ∀ r, d ≠ .record r)
    (kind : Option Kind) (v : Json) (g g' : Staging) :
    (d.entries kind v g g').filterMap LedgerEntry.documentVersion? = [] := by
  cases d with
  | record r => exact absurd rfl (hd r)
  | rejected f shown =>
    rw [entries, List.filterMap_append, LedgerEntry.documentVersions_batch]
    cases kind <;> rfl
  | _ => cases kind <;> rfl

/-- Only old attachments state their versions. -/
theorem Decoded.attachmentVersions_entries (d : Decoded) {k : Kind} (hk : k ≠ .legacyAttachments)
    (v : Json) (g g' : Staging) :
    (d.entries (some k) v g g').filterMap LedgerEntry.attachmentVersion? = [] := by
  have hone (fate : Fate) : LedgerEntry.attachmentVersion? (.taken (some k) v fate) = none := by
    cases k with
    | legacyAttachments => exact absurd rfl hk
    | _ => rfl
  cases d with
  | rejected f shown =>
    rw [entries, List.filterMap_append, LedgerEntry.attachmentVersions_batch]
    simp only [List.filterMap_cons, hone, List.filterMap_nil, List.append_nil]
  | _ => simp only [entries, List.filterMap_cons, hone, List.filterMap_nil]

namespace Staging

open Session

variable {g g' : Staging} {k : Kind} {v : Json} {s t : Session} {d : Decoded}

theorem carries_drop (g : Staging) (k : Kind) (reason : String) (s : Session) :
    s.Carries [] (g.drop k reason s).2 := by
  unfold drop
  split_ifs
  · exact .refl s
  · exact (Carries.refl s).congr rfl rfl rfl

theorem carries_verify (k : Kind) (a : Attachment) (s : Session) : s.Carries [] (verify k a s) := by
  unfold verify
  split_ifs
  · exact (Carries.refl s).congr rfl rfl rfl
  · exact .refl s

/-- The marker of an attachment carries nothing, whether it is put aside or rejected. -/
theorem carries_stage {marker : Json} (h : g.stage k marker s = (.ok d, g', t)) :
    s.Carries [] t ∧ ∀ r, d ≠ .record r := by
  unfold stage at h
  split at h
  · cases h
  · split at h
    · unfold stageNamed at h
      split at h
      · cases h
      · split at h
        · cases h
        · next hc =>
          cases h
          exact ⟨((carries_copyPayload hc).trans (carries_verify ..)).congr rfl rfl rfl, by simp⟩
    · split at h
      · cases h
      · next hd => cases h; exact ⟨carries_dropBytes hd, by simp⟩

/-- A document carries the version that it states. -/
theorem carries_decodeDocument (hk : k.carriesAttachments = true)
    (h : g.decodeDocument k v s = (.ok d, g', t)) : s.Carries (d.entries (some k) v g g') t := by
  have hold : k ≠ .legacyAttachments := by
    intro heq
    subst heq
    cases hk
  have hattachments := d.attachmentVersions_entries hold v g g'
  unfold decodeDocument at h
  split at h
  · obtain ⟨hstage, hno⟩ := carries_stage h
    exact hstage.silent (d.documentVersions_entries hno _ v g g') hattachments
  · split at h
    · next p hp =>
      cases h
      have hetag := Document.etag_of_parse hp
      have hfound : ((Decoded.record (.document { p.document with attachments := g.staged })).entries
          (some k) v g { g with staged := [] }).filterMap LedgerEntry.documentVersion? =
            v.documentVersion?.toList := by
        simp only [Decoded.entries, List.filterMap_cons, LedgerEntry.documentVersion?, hk, if_true,
          List.filterMap_nil]
        cases v.documentVersion? <;> rfl
      have hkeep : (s.keepDocumentEtag p.etag).tally.lastDocumentEtag =
          p.etag.or s.tally.lastDocumentEtag := by
        cases p.etag <;> rfl
      refine ⟨?_, ?_, ?_⟩
      · cases p.etag <;> rfl
      · rw [hfound, kept_toList, hkeep, hetag]
      · rw [hattachments, kept_nil]
        cases p.etag <;> rfl
    · cases h
      exact (carries_drop ..).silent (Decoded.documentVersions_entries _ (by simp) _ v g _)
        hattachments

/-- An old attachment that is well formed carries the version that it states. -/
theorem carries_decodeLegacyAttachment (h : g.decodeLegacyAttachment v s = (.ok d, g', t)) :
    s.Carries (d.entries (some .legacyAttachments) v g g') t := by
  unfold decodeLegacyAttachment at h
  split at h
  · next f hp =>
    cases h
    refine (Carries.refl s).silent (Decoded.documentVersions_entries _ (by simp) _ v g g) ?_
    rw [Decoded.entries, List.filterMap_append, LedgerEntry.attachmentVersions_batch]
    simp only [List.filterMap_cons, LedgerEntry.attachmentVersion?, hp, Except.isOk, Except.toBool,
      Bool.false_eq_true, if_false, List.filterMap_nil, List.append_nil]
  · next p hp =>
    have hkeep (fate : Fate) : s.Carries [.taken (some .legacyAttachments) v fate]
        (if s.options.readLegacyEtag then s.keepAttachmentEtag p.etag else s) := by
      have hfound : [LedgerEntry.taken (some .legacyAttachments) v fate].filterMap
          LedgerEntry.attachmentVersion? = p.etag.toList := by
        rw [LegacyAttachment.etag_of_parse hp]
        simp only [List.filterMap_cons, LedgerEntry.attachmentVersion?, hp, Except.isOk,
          Except.toBool, if_true, List.filterMap_nil]
        cases v.fieldText? "Etag" <;> rfl
      have hnone : [LedgerEntry.taken (some .legacyAttachments) v fate].filterMap
          LedgerEntry.documentVersion? = [] := by
        cases fate <;> rfl
      refine ⟨?_, ?_, ?_⟩
      · cases p.etag <;> split_ifs <;> rfl
      · rw [hnone, kept_nil]
        cases p.etag <;> split_ifs <;> rfl
      · rw [hfound, kept_toList]
        cases p.etag <;> split_ifs <;> rfl
    simp only at h
    split at h
    · cases h; exact hkeep .passed
    · split at h
      · cases h
      · split at h
        · cases h
        · cases h; exact hkeep .read

/-- **An element carries its entries.** -/
theorem carries_decode {form : Kind} (hform : form.sameForm k = true)
    (h : g.decode form k v s = (.ok d, g', t)) : s.Carries (d.entries (some k) v g g') t := by
  have hcarries : form.carriesAttachments = true → k.carriesAttachments = true :=
    (Kind.carriesAttachments_eq_of_sameForm hform).symm.trans
  -- a kind that states no versions
  have hplain (hk : k.carriesAttachments = false) (hold : k ≠ .legacyAttachments) (d : Decoded) :
      s.Carries (d.entries (some k) v g g) s := by
    refine (Carries.refl s).silent ?_ (d.attachmentVersions_entries hold v g g)
    cases d with
    | record r =>
      simp only [Decoded.entries, List.filterMap_cons, LedgerEntry.documentVersion?, hk,
        Bool.false_eq_true, if_false, List.filterMap_nil]
    | _ => exact Decoded.documentVersions_entries _ (by simp) _ v g g
  have heq : form.carriesAttachments = false → form = k := by
    intro hc
    revert hform
    unfold Kind.sameForm
    simp [hc]
  unfold decode at h
  cases form with
  | documents => exact carries_decodeDocument (hcarries rfl) h
  | revisionDocuments => exact carries_decodeDocument (hcarries rfl) h
  | legacyAttachments =>
    rw [← heq rfl]
    exact carries_decodeLegacyAttachment h
  | _ =>
    cases heq rfl
    cases h
    exact hplain rfl (by simp) _

end Staging

/-! ### Readers -/

open Session in
theorem Decoded.carries_settle (d : Decoded) (k : Kind) (s : Session) :
    s.Carries [] (d.settle k s) := by
  cases d with
  | record r => exact (Carries.refl s).modify k _ rfl rfl
  | deferred => exact .refl s
  | skipped => exact (Carries.refl s).modify k _ rfl rfl
  | ignored => exact .refl s
  | rejected f v =>
    have hcounted : s.Carries [] { s with tally := s.tally.modify k .addErrored } :=
      (Carries.refl s).modify k _ rfl rfl
    exact hcounted.congr rfl rfl rfl

namespace Reader

open Session

variable {g g' : Staging} {form k : Kind} {s t : Session}

/-- A reader carries its ledger up to the next record. -/
theorem carries_pull (hk : s.current = some k) (hform : form.sameForm k = true) {x : Option Record}
    (h : pull g form k s = (.ok x, g', t)) : s.Carries (ledgerOfPull g form k s) t := by
  induction g, s using element_induction form k with
  | step g s ih =>
    rcases hs : s.nextElement with ⟨f | _ | v, s₁⟩
    · rw [pull_eq, hs] at h
      cases h
    · rw [pull_eq, hs] at h
      obtain ⟨-, hlast⟩ := Prod.mk.inj h
      have hfinish : s₁.Carries [] (g.finish form k s₁).2 := by
        unfold Staging.finish
        split_ifs
        · exact Staging.carries_drop ..
        · exact .refl s₁
      rw [hlast] at hfinish
      rw [ledgerOfPull_eq, hs]
      refine ((carries_nextElement hs).trans hfinish).silent ?_ ?_
      · simp only
        split_ifs
        · exact LedgerEntry.documentVersions_batch ..
        · rfl
      · simp only
        split_ifs
        · exact LedgerEntry.attachmentVersions_batch ..
        · rfl
    · rcases hd : g.decode form k v s₁ with ⟨f | d, g₂, s₂⟩
      · rw [pull_eq, hs] at h
        simp only [hd] at h
        cases h
      · have hk₁ : s₁.current = some k := (works_nextElement hs).kept.current_eq.trans hk
        have hk₂ : (d.settle k s₂).current = some k := by
          have hcurrent : (d.settle k s₂).current = s₂.current := by cases d <;> rfl
          rw [hcurrent, (works_decode hd).kept.current_eq, hk₁]
        have hround := ((carries_nextElement hs).trans (Staging.carries_decode hform hd)).trans
          (d.carries_settle k s₂)
        rw [List.nil_append, List.append_nil, ← hk₁] at hround
        rw [pull_of_decode hs hd] at h
        rw [ledgerOfPull_of_decode hs hd]
        cases d with
        | record r =>
          cases h
          rw [List.append_nil]
          exact hround
        | _ => exact hround.trans (ih v s₁ _ g₂ s₂ hs hd hk₂ h)

/-- A poll that does not fail carries its ledger. -/
theorem carries_poll {r r' : Reader} (hr : r.kind = s.current)
    {x : Option (Except Failure Record)} (h : r.poll s = (x, r', t))
    (hx : ∀ f, x ≠ some (.error f)) : s.Carries (r.ledger s) t := by
  cases hk : r.kind with
  | none =>
    have hledger : r.ledger s = [] := by simp only [ledger, hk]
    unfold poll next at h
    rw [hledger]
    split_ifs at h
    · cases h; exact .refl s
    · simp only [hk] at h
      cases h
      exact .refl s
  | some k =>
    cases hdone : r.done with
    | true =>
      have hledger : r.ledger s = [] := by simp [ledger, hk, hdone]
      unfold poll at h
      rw [hdone] at h
      cases h
      rw [hledger]
      exact .refl s
    | false =>
      unfold poll next at h
      simp only [hdone, hk, Bool.false_eq_true, if_false] at h
      cases hform : r.form.sameForm k with
      | false =>
        simp only [hform, Bool.false_eq_true, if_false] at h
        cases h
        exact absurd rfl (hx _)
      | true =>
        have hledger : r.ledger s = ledgerOfPull r.staging r.form k s := by
          simp [ledger, hk, hdone, hform]
        rw [hledger]
        simp only [hform, if_true] at h
        rcases hp : pull r.staging r.form k s with ⟨f | y, g, u⟩
        · rw [hp] at h
          cases h
          exact absurd rfl (hx _)
        · have hpull := carries_pull (hr.symm.trans hk) hform hp
          rw [hp] at h
          cases y <;> (cases h; exact hpull)

end Reader

/-! ### Whatever is done -/

namespace Desk

variable {d : Desk}

/-- What readers take off in an operation. -/
def taken (d : Desk) : Operation → List LedgerEntry
  | .poll => d.entries .poll
  | _ => []

/-- What readers take off while operations are performed, in order. -/
def read (d : Desk) : List Operation → List LedgerEntry
  | [] => []
  | o :: os => d.taken o ++ (d.perform o).2.read os

/-- An operation carries what readers take off in it, unless the stream or a sink fails. -/
theorem carries_perform (hd : d.Fits) {o : Operation}
    (ho : (d.perform o).1.isOk = true ∨ d.Mistaken o) :
    d.session.Carries (d.taken o) (d.perform o).2.session := by
  cases o with
  | nextKind => exact Session.carries_nextKind rfl
  | skipKind kind => exact Session.carries_skipKind rfl
  | read form sinks => exact .refl _
  | poll =>
    cases hr : d.reader with
    | none =>
      simp only [taken, entries, perform, hr, Option.elim_none]
      exact .refl _
    | some r =>
      rcases hp : r.poll d.session with ⟨x, r', s⟩
      have hs : (d.perform .poll).2.session = s := by
        cases x <;> simp only [perform, hr, hp]
      have htaken : d.taken .poll = r.ledger d.session := by simp [taken, entries, hr]
      rw [hs, htaken]
      obtain hok | ⟨q, k, hq, hdone, hk, hform⟩ := ho
      · refine Reader.carries_poll (hd r hr) hp ?_
        rintro f rfl
        simp only [perform, hr, hp] at hok
        cases hok
      · -- a reader of another form takes nothing off
        obtain rfl : r = q := Option.some.inj (hr.symm.trans hq)
        obtain ⟨f, hpoll, -⟩ := Reader.poll_of_form hdone hk hform d.session
        have hledger : r.ledger d.session = [] := by simp [Reader.ledger, hk, hform]
        rw [hpoll] at hp
        cases hp
        rw [hledger]
        exact .refl _

/-- So do any number of operations. -/
theorem carries_after (hd : d.Fits) {os : List Operation} (hos : d.Calm os) :
    d.session.Carries (d.read os) (d.after os).session := by
  induction os generalizing d with
  | nil => exact .refl _
  | cons o os ih => exact (carries_perform hd hos.1).trans (ih (fits_perform hd o) hos.2)

/-- **The last versions.** After any operations on an opened export, of which none failed but those
called by mistake: if the options ask for versions, the version of a document is the last one stated
by a document, or a former state of one, that a reader handed out, and the version of an attachment
the last one stated by an old attachment that was well formed; a version that was known before stays
if none is stated. If they do not ask for versions, both stay as they were. -/
theorem versions_of_calm {supply : Supply} {options : Options} {tally : Tally} {s : Session}
    (hopen : (Session.start supply options tally).begin = (.ok (), s)) {os : List Operation}
    (hos : ({ session := s } : Desk).Calm os) :
    let log := ({ session := s } : Desk).read os
    let result := (({ session := s } : Desk).after os).session.tally
    (options.readLegacyEtag = true →
      result.lastDocumentEtag =
          (log.filterMap LedgerEntry.documentVersion?).getLast?.or tally.lastDocumentEtag ∧
        result.lastAttachmentEtag =
          (log.filterMap LedgerEntry.attachmentVersion?).getLast?.or tally.lastAttachmentEtag) ∧
      (options.readLegacyEtag = false →
        result.lastDocumentEtag = tally.lastDocumentEtag ∧
          result.lastAttachmentEtag = tally.lastAttachmentEtag) := by
  intro log result
  have hfits : ({ session := s } : Desk).Fits := by
    intro r hr
    cases hr
  obtain ⟨-, hdocument, hattachment⟩ :=
    (Session.carries_begin hopen).trans (carries_after hfits hos)
  constructor
  · intro hkeep
    have hoptions : (Session.start supply options tally).options.readLegacyEtag = true := hkeep
    rw [hoptions] at hdocument hattachment
    exact ⟨hdocument, hattachment⟩
  · intro hkeep
    have hoptions : (Session.start supply options tally).options.readLegacyEtag = false := hkeep
    rw [hoptions] at hdocument hattachment
    exact ⟨hdocument, hattachment⟩

/-- The bytes
`{"Docs":[{"@metadata":{"@id":"a","@etag":"1"}},{"@metadata":{"@id":"b","@etag":2}},{}],`
`"Attachments":[{"Key":"k.deleting","Metadata":{},"Data":"","Etag":"7"}]}`: the third document is
rejected, and the attachment passed over; the versions are those of the second document and of the
attachment. -/
theorem versions_of_documents :
    let supply : Supply :=
      { rest := [123, 34, 68, 111, 99, 115, 34, 58, 91, 123, 34, 64, 109, 101, 116, 97, 100, 97, 116, 97,
          34, 58, 123, 34, 64, 105, 100, 34, 58, 34, 97, 34, 44, 34, 64, 101, 116, 97, 103, 34,
          58, 34, 49, 34, 125, 125, 44, 123, 34, 64, 109, 101, 116, 97, 100, 97, 116, 97, 34, 58,
          123, 34, 64, 105, 100, 34, 58, 34, 98, 34, 44, 34, 64, 101, 116, 97, 103, 34, 58, 50,
          125, 125, 44, 123, 125, 93, 44, 34, 65, 116, 116, 97, 99, 104, 109, 101, 110, 116, 115,
          34, 58, 91, 123, 34, 75, 101, 121, 34, 58, 34, 107, 46, 100, 101, 108, 101, 116, 105,
          110, 103, 34, 44, 34, 77, 101, 116, 97, 100, 97, 116, 97, 34, 58, 123, 125, 44, 34, 68,
          97, 116, 97, 34, 58, 34, 34, 44, 34, 69, 116, 97, 103, 34, 58, 34, 55, 34, 125, 93, 125] }
    let os : List Operation := [.nextKind, .read .documents .memory, .poll, .poll, .poll, .nextKind,
      .read .legacyAttachments .memory, .poll]
    ∃ s, (Session.start supply { readLegacyEtag := true } {}).begin = (.ok (), s) ∧
      ({ session := s } : Desk).Calm os ∧
      ((({ session := s } : Desk).read os).filterMap LedgerEntry.documentVersion?).getLast? =
        some "2" ∧
      ((({ session := s } : Desk).read os).filterMap LedgerEntry.attachmentVersion?).getLast? =
        some "7" := by
  intro supply os
  have hopened : (Session.start supply { readLegacyEtag := true } {}).begin.1.isOk = true := by
    decide +kernel
  rcases hopen : (Session.start supply { readLegacyEtag := true } {}).begin with ⟨f | _, s⟩
  · rw [hopen] at hopened
    cases hopened
  have hs : s = (Session.start supply { readLegacyEtag := true } {}).begin.2 := by rw [hopen]
  have hcalm : ({ session := s } : Desk).Calm os := by
    rw [hs]
    refine ⟨.inl ?_, .inl ?_, .inl ?_, .inl ?_, .inl ?_, .inl ?_, .inl ?_, .inl ?_, trivial⟩
    all_goals decide +kernel
  obtain ⟨hdocument, hattachment⟩ := (versions_of_calm hopen hcalm).1 rfl
  rw [Option.or_none] at hdocument hattachment
  refine ⟨s, rfl, hcalm, hdocument.symm.trans ?_, hattachment.symm.trans ?_⟩
  · rw [hs]
    decide +kernel
  · rw [hs]
    decide +kernel

end Desk

end ExportStream
