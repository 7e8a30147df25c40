import ExportStream.Proofs.Postings
/-!
# What readers post

An element is posted when its fate is known, so that the element itself and what is decoded of it
make one entry (`Staging.postsHere_decode`). From there a reader is an induction: it posts the
ledger of its pull (`Reader.postsHere_pull`), and so does every poll (`Reader.postsHere_poll`).
-/

namespace ExportStream

/-- Elements of one form carry attachments in all of their kinds or in none. -/
theorem Kind.carriesAttachments_eq_of_sameForm {a b : Kind} (h : a.sameForm b = true) :
    a.carriesAttachments = b.carriesAttachments := by
  revert h
  cases a <;> cases b <;> decide

namespace Session

/-! ### Versions -/

theorem postsHere_keepDocumentEtag (s : Session) (etag : Option String) :
    s.PostsHere 0 [] (s.keepDocumentEtag etag) := by
  cases etag with
  | none => exact .refl s
  | some e =>
    have hposts : s.Posts 0 [] (s.keepDocumentEtag (some e)) :=
      posts_nil rfl rfl (fun k => by cases k <;> rfl) rfl rfl
    exact { hposts with current_eq := rfl, generation_eq := rfl }

theorem postsHere_keepAttachmentEtag (s : Session) (etag : Option String) :
    s.PostsHere 0 [] (s.keepAttachmentEtag etag) := by
  cases etag with
  | none => exact .refl s
  | some e =>
    have hposts : s.Posts 0 [] (s.keepAttachmentEtag (some e)) :=
      posts_nil rfl rfl (fun k => by cases k <;> rfl) rfl rfl
    exact { hposts with current_eq := rfl, generation_eq := rfl }

end Session

/-! ### What becomes of an element -/

@[simp] theorem Tally.get_warn (t : Tally) (message : String) (k : Kind) :
    (t.warn message).get k = t.get k := by
  cases k <;> rfl

namespace Staging

open Session

variable {g g' : Staging} {k : Kind} {s t : Session}

/-- A warning that belongs to no count is posted by itself. -/
theorem postsHere_warn {e : LedgerEntry} {message : String} (k : Kind)
    (hsound : e.Sound s.options) (hhas : ∀ l p, [e].countP (LedgerEntry.has l p) = 0)
    (harrived : e.arrived = []) (hwarnings : e.warnings s.options = [message]) :
    s.PostsHere 0 [e] (s.warn k message) where
  sound := by
    intro e' he
    rw [List.mem_singleton.mp he]
    exact hsound
  options_eq := rfl
  built_eq := rfl
  read_eq := by
    intro l
    rw [hhas, warn, Tally.get_warn]
    rfl
  errored_eq := by
    intro l
    rw [hhas, warn, Tally.get_warn]
    rfl
  skipped_eq := by
    intro l
    rw [hhas, warn, Tally.get_warn]
    rfl
  attachments_eq := by
    simp [harrived, warn, Tally.warn, note]
  warnings_eq := by
    simp [hwarnings, warn, Tally.warn, note]
  current_eq := rfl
  generation_eq := rfl

/-- A batch of attachments that is dropped is posted by its warning. -/
theorem postsHere_drop (g : Staging) (k : Kind) (reason : String) (s : Session) :
    s.PostsHere 0 (LedgerEntry.batch g.staged reason) (g.drop k reason s).2 := by
  unfold drop LedgerEntry.batch
  split_ifs with he
  · exact .refl s
  · have hne : g.staged ≠ [] := fun h => he (by rw [h]; rfl)
    exact postsHere_warn k hne (fun _ _ => rfl) rfl rfl

theorem isEmpty_drop (g : Staging) (k : Kind) (reason : String) (s : Session) :
    (g.drop k reason s).1.staged.isEmpty = true := by
  unfold drop
  split_ifs with he
  · exact he
  · rfl

/-- An attachment that waits now is posted by counting it, and by the warning if it is not what its
marker declares. -/
theorem postsHere_staged (hk : s.current = some k) (hc : k.carriesAttachments = true) (v : Json)
    (a : Attachment) :
    s.PostsHere 0 [.taken s.current v (.staged [a])] (verify k a s).countAttachment := by
  have hsound : (LedgerEntry.taken (some k) v (.staged [a])).Sound s.options := ⟨hc, rfl⟩
  unfold verify
  split_ifs with hv
  · refine postsHere_taken hk hsound rfl rfl rfl rfl ?_ ?_ rfl ?_
    · cases k <;> rfl
    · intro l _
      cases l <;> rfl
    · have hw : (LedgerEntry.taken (some k) v (.staged [a])).warnings s.options =
          [mismatchWarning a] := by
        simp [LedgerEntry.warnings, hv]
      rw [hw]
      simp [countAttachment, warn, Tally.warn, note]
  · refine postsHere_taken hk hsound rfl rfl rfl rfl ?_ ?_ rfl ?_
    · cases k <;> rfl
    · intro l _
      cases l <;> rfl
    · have hw : (LedgerEntry.taken (some k) v (.staged [a])).warnings s.options = [] := by
        simp only [LedgerEntry.warnings, List.filter_cons, List.filter_nil, hv]
        rfl
      rw [hw, List.append_nil]
      rfl

/-! ### Decoding -/

theorem batch_of_unchanged (staged : List Attachment) (reason : String) :
    LedgerEntry.batch (if staged.isEmpty then staged else []) reason = [] := by
  cases staged <;> rfl

/-- A marker posts one attachment, or is rejected. -/
theorem postsHere_stage (hk : s.current = some k) (hc : k.carriesAttachments = true)
    {marker : Json} {d : Decoded} (h : g.stage k marker s = (.ok d, g', t)) :
    s.PostsHere 0 (d.entries s.current marker g g') (d.settle k t) := by
  unfold stage at h
  split at h
  · cases h
  · next size hsize =>
    split at h
    · next hash tag _ _ =>
      unfold stageNamed at h
      split at h
      · cases h
      · next sink sinks _ =>
        split at h
        · cases h
        · next computed sink' u hcopy =>
          cases h
          have hcopied := postsHere_copyPayload hcopy
          have harrived := postsHere_staged (hcopied.current_eq.trans hk) hc marker
            { hash, computed, tag, size, marker, sink := sink' }
          rw [hcopied.current_eq] at harrived
          have hall := hcopied.trans harrived
          simp only [Decoded.entries, List.drop_left]
          exact hall
    · split at h
      · cases h
      · next u hdrop =>
        cases h
        have hdropped := postsHere_dropBytes hdrop
        have hreject := postsHere_reject (hdropped.current_eq.trans hk) marker
          (.marker "marker has no Hash or Tag") marker
        rw [hdropped.current_eq] at hreject
        simp only [Decoded.entries, batch_of_unchanged]
        exact hdropped.trans hreject

/-- A document posts one record, or is rejected with all that waits for it. -/
theorem postsHere_decodeDocument (hk : s.current = some k) (hc : k.carriesAttachments = true)
    {v : Json} {d : Decoded} (h : g.decodeDocument k v s = (.ok d, g', t)) :
    s.PostsHere 0 (d.entries s.current v g g') (d.settle k t) := by
  unfold decodeDocument at h
  split at h
  · exact postsHere_stage hk hc h
  · split at h
    · next p hp =>
      cases h
      have hkeep := postsHere_keepDocumentEtag s p.etag
      have hread := postsHere_countRead (hkeep.current_eq.trans hk) v
      rw [hkeep.current_eq] at hread
      exact hkeep.trans hread
    · next f hp =>
      have hdrop := postsHere_drop g k "their host document was rejected" s
      have hempty := isEmpty_drop g k "their host document was rejected" s
      rcases hg : g.drop k "their host document was rejected" s with ⟨g₁, s₁⟩
      rw [hg] at h hdrop hempty
      cases h
      have hreject := postsHere_reject (hdrop.current_eq.trans hk) v f v
      rw [hdrop.current_eq] at hreject
      simp only at hempty
      simp only [Decoded.entries, hempty, if_true]
      exact hdrop.trans hreject

/-- A value that is parsed posts one record, or is rejected. -/
theorem postsHere_ofParsed (hk : s.current = some k) (g : Staging) {α : Type} (v : Json)
    (record : α → Record) (x : Except RecordFault α) :
    s.PostsHere 0 ((Decoded.ofParsed v record x).entries s.current v g g)
      ((Decoded.ofParsed v record x).settle k s) := by
  cases x with
  | error f =>
    simp only [Decoded.ofParsed, Decoded.entries, batch_of_unchanged]
    exact postsHere_reject hk v f v
  | ok a => exact postsHere_countRead hk v

theorem postsHere_decodeLegacyAttachment (hk : s.current = some k) {v : Json} {d : Decoded}
    (h : g.decodeLegacyAttachment v s = (.ok d, g', t)) :
    s.PostsHere 0 (d.entries s.current v g g') (d.settle k t) := by
  unfold decodeLegacyAttachment at h
  split at h
  · next f hp =>
    cases h
    exact postsHere_ofParsed hk g v Record.tombstone (.error f)
  · next p hp =>
    simp only at h
    have hkeep : s.PostsHere 0 []
        (if s.options.readLegacyEtag then s.keepAttachmentEtag p.etag else s) := by
      split_ifs
      · exact postsHere_keepAttachmentEtag s p.etag
      · exact .refl s
    revert h hkeep
    generalize (if s.options.readLegacyEtag then s.keepAttachmentEtag p.etag else s) = u
    intro h hkeep
    split at h
    · cases h
      have hskip := postsHere_countSkipped (hkeep.current_eq.trans hk) v
      rw [hkeep.current_eq] at hskip
      exact hkeep.trans hskip
    · split at h
      · cases h
      · split at h
        · cases h
        · cases h
          have hread := postsHere_countRead (hkeep.current_eq.trans hk) v
          rw [hkeep.current_eq] at hread
          exact hkeep.trans hread

/-- A deletion posts one record, or is rejected or ignored, as the options say. -/
theorem postsHere_decodeDeletion (hk : s.current = some k)
    (hform : k = .legacyDocumentDeletions ∨ k = .legacyAttachmentDeletions) (g : Staging)
    (idOf : String → String) (v : Json) :
    s.PostsHere 0 ((decodeDeletion idOf s.options.deletionPolicy v).entries s.current v g g)
      ((decodeDeletion idOf s.options.deletionPolicy v).settle k s) := by
  unfold decodeDeletion
  cases hkey : deletedKey? v with
  | some key => exact postsHere_countRead hk v
  | none =>
    cases hpolicy : s.options.deletionPolicy with
    | ignore => exact postsHere_ignore hk ⟨hpolicy, hkey, hform⟩
    | countAsError => exact postsHere_ofParsed hk g v Record.tombstone (.error (.missing "Key"))

/-- **An element posts one entry for itself**, behind the batch of attachments that is lost with it,
if there is one. -/
theorem postsHere_decode {form : Kind} (hk : s.current = some k) (hform : form.sameForm k = true)
    {v : Json} {d : Decoded} (h : g.decode form k v s = (.ok d, g', t)) :
    s.PostsHere 0 (d.entries s.current v g g') (d.settle k t) := by
  have hcarries : form.carriesAttachments = true → k.carriesAttachments = true :=
    (Kind.carriesAttachments_eq_of_sameForm hform).symm.trans
  have heq : form.carriesAttachments = false → form = k := by
    intro hc
    revert hform
    unfold Kind.sameForm
    simp [hc]
  unfold decode at h
  cases form with
  | documents => exact postsHere_decodeDocument hk (hcarries rfl) h
  | revisionDocuments => exact postsHere_decodeDocument hk (hcarries rfl) h
  | tombstones =>
    cases h
    exact postsHere_ofParsed hk ..
  | conflicts =>
    cases h
    exact postsHere_ofParsed hk ..
  | indexes =>
    cases h
    exact postsHere_ofParsed hk ..
  | identities =>
    cases h
    exact postsHere_ofParsed hk ..
  | compareExchange =>
    cases h
    exact postsHere_ofParsed hk ..
  | legacyAttachments => exact postsHere_decodeLegacyAttachment hk h
  | legacyDocumentDeletions =>
    cases h
    exact postsHere_decodeDeletion hk (.inl (heq rfl).symm) ..
  | legacyAttachmentDeletions =>
    cases h
    exact postsHere_decodeDeletion hk (.inr (heq rfl).symm) ..

end Staging

theorem Decoded.countP_isTaken_entries (d : Decoded) (kind : Option Kind) (v : Json)
    (g g' : Staging) : (d.entries kind v g g').countP LedgerEntry.isTaken = 1 := by
  cases d with
  | rejected f shown =>
    simp only [entries, LedgerEntry.batch]
    split_ifs <;> rfl
  | _ => rfl

/-! ### Readers -/

namespace Reader

variable {g g' : Staging} {form k : Kind} {s t : Session}

/-- One round: an element is taken off, and its fate is counted. -/
theorem postsHere_round {s₁ s₂ : Session} {v : Json} {d : Decoded} (hk : s.current = some k)
    (hform : form.sameForm k = true) (hs : s.nextElement = (.ok (some v), s₁))
    (hd : g.decode form k v s₁ = (.ok d, g', s₂)) :
    s.PostsHere ((d.entries s₁.current v g g').countP LedgerEntry.isTaken)
      (d.entries s₁.current v g g') (d.settle k s₂) := by
  have htake := Session.postsHere_nextElement hs
  have hdecode := Staging.postsHere_decode (htake.current_eq.trans hk) hform hd
  rw [Decoded.countP_isTaken_entries]
  exact htake.trans hdecode

theorem postsHere_rounds {s₁ s₂ : Session} {a b : List LedgerEntry}
    (h : s.PostsHere (a.countP LedgerEntry.isTaken) a s₁)
    (h' : s₁.PostsHere (b.countP LedgerEntry.isTaken) b s₂) :
    s.PostsHere ((a ++ b).countP LedgerEntry.isTaken) (a ++ b) s₂ := by
  rw [List.countP_append]
  exact h.trans h'

theorem postsHere_finish (g : Staging) (form k : Kind) (s : Session) :
    s.PostsHere 0
      (if form.carriesAttachments then LedgerEntry.batch g.staged "they had no host document"
        else []) (g.finish form k s).2 := by
  unfold Staging.finish
  split_ifs
  · exact Staging.postsHere_drop ..
  · exact .refl s

theorem countP_isTaken_batch (staged : List Attachment) (reason : String) :
    (LedgerEntry.batch staged reason).countP LedgerEntry.isTaken = 0 := by
  unfold LedgerEntry.batch
  split_ifs <;> rfl

/-- **A reader posts its ledger.** -/
theorem postsHere_pull (hk : s.current = some k) (hform : form.sameForm k = true)
    {x : Option Record} (h : pull g form k s = (.ok x, g', t)) :
    s.PostsHere ((ledgerOfPull g form k s).countP LedgerEntry.isTaken) (ledgerOfPull g form k s)
      t := by
  induction g, s using element_induction form k with
  | step g s ih =>
    rcases hs : s.nextElement with ⟨f | _ | v, s₁⟩
    · rw [pull_eq, hs] at h
      cases h
    · have htake := Session.postsHere_nextElement hs
      have hfinish := postsHere_finish g form k s₁
      rw [pull_eq, hs] at h
      simp only at h
      rcases hg : g.finish form k s₁ with ⟨g₁, s₂⟩
      rw [hg] at h hfinish
      cases h
      rw [ledgerOfPull_eq, hs]
      simp only
      have hcount : (if form.carriesAttachments then
          LedgerEntry.batch g.staged "they had no host document" else []).countP
            LedgerEntry.isTaken = 0 := by
        split_ifs
        · exact countP_isTaken_batch ..
        · rfl
      rw [hcount]
      exact htake.trans hfinish
    · rcases hd : g.decode form k v s₁ with ⟨f | d, g₂, s₂⟩
      · rw [pull_eq, hs] at h
        simp only [hd] at h
        cases h
      · have hround := postsHere_round hk hform hs hd
        rw [pull_of_decode hs hd] at h
        rw [ledgerOfPull_of_decode hs hd]
        cases d with
        | record r =>
          cases h
          rw [List.append_nil]
          exact hround
        | _ => exact postsHere_rounds hround (ih v s₁ _ g₂ s₂ hs hd (hround.current_eq.trans hk) h)

/-- A reader that answers posts its ledger, and stays at its kind. -/
theorem postsHere_next {r r' : Reader} {x : Option Record} (hr : r.kind = s.current)
    (hdone : r.done = false) (h : r.next s = (.ok x, r', t)) :
    s.PostsHere ((r.ledger s).countP LedgerEntry.isTaken) (r.ledger s) t ∧ r'.kind = r.kind := by
  unfold next at h
  split at h
  · next hnone =>
    cases h
    have hledger : r.ledger s = [] := by simp [ledger, hnone]
    rw [hledger]
    exact ⟨.refl s, rfl⟩
  · next k hk =>
    split at h
    · next hform =>
      have hledger : r.ledger s = ledgerOfPull r.staging r.form k s := by
        simp [ledger, hk, hdone, hform]
      rcases hp : pull r.staging r.form k s with ⟨y, g, u⟩
      rw [hp] at h
      cases h
      rw [hledger]
      exact ⟨postsHere_pull (hr.symm.trans hk) hform hp, rfl⟩
    · cases h

/-- A poll that does not fail posts its ledger. -/
theorem postsHere_poll {r r' : Reader} {x : Option Record} (hr : r.kind = s.current)
    (h : r.poll s = (x.map .ok, r', t)) :
    s.PostsHere ((r.ledger s).countP LedgerEntry.isTaken) (r.ledger s) t ∧ r'.kind = r.kind := by
  unfold poll at h
  cases hdone : r.done with
  | true =>
    rw [hdone] at h
    cases x with
    | some x => cases h
    | none =>
      cases h
      have hledger : r.ledger s = [] := by
        unfold ledger
        cases r.kind <;> simp [hdone]
      rw [hledger]
      exact ⟨.refl s, rfl⟩
  | false =>
    rw [hdone] at h
    simp only [Bool.false_eq_true, if_false] at h
    rcases hn : r.next s with ⟨f | _ | y, r₁, u⟩
    · rw [hn] at h
      cases x <;> cases h
    · rw [hn] at h
      cases x with
      | some x => cases h
      | none =>
        cases h
        obtain ⟨hposts, hkind⟩ := postsHere_next hr hdone hn
        exact ⟨hposts, hkind⟩
    · rw [hn] at h
      cases x with
      | none => cases h
      | some x =>
        cases h
        exact postsHere_next hr hdone hn

end Reader

end ExportStream
